import DerivedQuery.Text.Truncation
import Mathlib.Data.Nat.Find

/-!
# What is kept of a text that is cut

The characters that fit are taken one after the other, from the first on. What is kept is the same
as when one goes back from the number of bytes to the nearest place between two characters.

* `IsLongestWithin`: the longest beginning in whole characters that fits; `isLongestWithin_truncate`.
* `isBoundary_iff`: the places between characters are the sizes of the beginnings of a text.
* `utf8ByteSize_truncate`: what is kept ends at the nearest such place, going back.
* `truncate_of_le`, `truncate_of_first`: when all of a text is kept, and when nothing.
-/

namespace DerivedQuery.Text

/-! ## The longest beginning that fits -/

theorem byteCount_append (cs ds : List Char) :
    byteCount (cs ++ ds) = byteCount cs + byteCount ds := by
  induction cs with
  | nil => simp [byteCount]
  | cons c cs ih => simp only [List.cons_append, byteCount, ih, Nat.add_assoc]

theorem byteCount_le_of_prefix {p cs : List Char} (h : p <+: cs) : byteCount p ≤ byteCount cs := by
  obtain ⟨rest, rfl⟩ := h
  rw [byteCount_append]
  exact Nat.le_add_right _ _

/-- No beginning that fits is longer than what is taken. -/
theorem prefix_takeBytes {bytes : Nat} {p cs : List Char} (hp : p <+: cs)
    (hfits : byteCount p ≤ bytes) : p <+: takeBytes bytes cs := by
  induction cs generalizing bytes p with
  | nil => exact hp
  | cons c cs ih =>
    cases p with
    | nil => exact List.nil_prefix
    | cons d p =>
      obtain ⟨rfl, htail⟩ := List.cons_prefix_cons.1 hp
      simp only [byteCount] at hfits
      have hfirst : d.utf8Size ≤ bytes := by omega
      rw [takeBytes, if_pos hfirst]
      exact (List.prefix_cons_inj d).2 (ih htail (by omega))

theorem takeBytes_of_le {bytes : Nat} {cs : List Char} (h : byteCount cs ≤ bytes) :
    takeBytes bytes cs = cs := by
  have hkept := takeBytes_prefix bytes cs
  have hall : cs <+: takeBytes bytes cs := prefix_takeBytes List.prefix_rfl h
  exact hkept.eq_of_length_le hall.length_le

/-- The character behind what is taken does not fit, and no character is longer than four bytes. -/
theorem lt_byteCount_takeBytes {bytes : Nat} {cs : List Char} (h : bytes < byteCount cs) :
    bytes < byteCount (takeBytes bytes cs) + 4 := by
  induction cs generalizing bytes with
  | nil => simp [byteCount] at h
  | cons c cs ih =>
    have hfour : c.utf8Size ≤ 4 := c.utf8Size_le_four
    simp only [byteCount] at h
    unfold takeBytes
    split
    · next hfits =>
      have hrest : bytes - c.utf8Size < byteCount (takeBytes (bytes - c.utf8Size) cs) + 4 :=
        ih (by omega)
      simp only [byteCount]
      omega
    · simp only [byteCount]
      omega

/-! ## Texts that are cut -/

/-- The longest beginning of `s`, in whole characters, that takes at most `bytes` bytes. -/
structure IsLongestWithin (bytes : Nat) (s kept : String) : Prop where
  beginning : kept.toList <+: s.toList
  fits : kept.utf8ByteSize ≤ bytes
  longest (p : String) : p.toList <+: s.toList → p.utf8ByteSize ≤ bytes → p.toList <+: kept.toList

theorem toList_truncate (bytes : Nat) (s : String) :
    (truncate bytes s).toList = takeBytes bytes s.toList :=
  String.toList_ofList

theorem isLongestWithin_truncate (bytes : Nat) (s : String) :
    IsLongestWithin bytes s (truncate bytes s) where
  beginning := by
    rw [toList_truncate]
    exact takeBytes_prefix bytes s.toList
  fits := by
    rw [← byteCount_toList, toList_truncate]
    exact byteCount_takeBytes_le bytes s.toList
  longest p hp hfits := by
    rw [← byteCount_toList] at hfits
    rw [toList_truncate]
    exact prefix_takeBytes hp hfits

theorem truncate_of_le {bytes : Nat} {s : String} (h : s.utf8ByteSize ≤ bytes) :
    truncate bytes s = s := by
  rw [← byteCount_toList] at h
  rw [truncate, takeBytes_of_le h, String.ofList_toList]

theorem truncate_of_first {bytes : Nat} {s : String} {c : Char} {cs : List Char}
    (hs : s.toList = c :: cs) (h : bytes < c.utf8Size) : truncate bytes s = "" := by
  rw [truncate, hs, takeBytes, if_neg (Nat.not_le_of_lt h), String.ofList_nil]

/-- A text of more bytes is cut by three bytes at most. -/
theorem le_utf8ByteSize_truncate {bytes : Nat} {s : String} (h : bytes < s.utf8ByteSize) :
    bytes ≤ (truncate bytes s).utf8ByteSize + 3 := by
  rw [← byteCount_toList] at h
  rw [← byteCount_toList, toList_truncate]
  have hnext := lt_byteCount_takeBytes h
  omega

/-! ## Places between characters -/

/-- The places between characters, as numbers of bytes in front of them. -/
theorem isBoundary_iff {s : String} {k : Nat} :
    (String.Pos.Raw.mk k).IsValid s ↔ ∃ p : String, p.toList <+: s.toList ∧ p.utf8ByteSize = k := by
  rw [String.Pos.Raw.isValid_iff_exists_append]
  constructor
  · rintro ⟨p, rest, rfl, hk⟩
    refine ⟨p, ?_, (congrArg String.Pos.Raw.byteIdx hk).symm⟩
    rw [String.toList_append]
    exact List.prefix_append _ _
  · rintro ⟨p, ⟨rest, hrest⟩, rfl⟩
    refine ⟨p, String.ofList rest, ?_, rfl⟩
    rw [← String.ofList_toList (s := s), ← hrest, String.ofList_append, String.ofList_toList]

/-- A text is cut at the last place between characters that is not behind the number of bytes. -/
theorem utf8ByteSize_truncate (bytes : Nat) (s : String) :
    (truncate bytes s).utf8ByteSize =
      Nat.findGreatest (fun k => (String.Pos.Raw.mk k).IsValid s) bytes := by
  have hkept := isLongestWithin_truncate bytes s
  symm
  rw [Nat.findGreatest_eq_iff]
  refine ⟨hkept.fits, fun _ => isBoundary_iff.2 ⟨_, hkept.beginning, rfl⟩, ?_⟩
  rintro k hlt hle hboundary
  obtain ⟨p, hp, rfl⟩ := isBoundary_iff.1 hboundary
  have hshorter := byteCount_le_of_prefix (hkept.longest p hp hle)
  rw [byteCount_toList, byteCount_toList] at hshorter
  omega

end DerivedQuery.Text
