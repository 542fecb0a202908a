import DerivedQuery.Hook
import DerivedQuery.Proofs.Text.Truncation

/-!
# Texts that are abridged

Messages of failed queries and logged queries are kept short. A text that is too long is cut between
two characters and marked with an ellipsis, and any other text is shown as it is.

* `Text.Abridges`: what is shown of a text; `Text.abridges_abridge`.
* `texts_abridged`: what is kept of a text that is cut, of error messages, and of logged queries.
-/

namespace DerivedQuery

namespace Text

/-- What is shown of a text within `bytes` bytes: all of it if it fits, and otherwise as much of it
as fits, with an ellipsis behind, which may stand out by its three bytes. -/
structure Abridges (bytes : Nat) (s shown : String) : Prop where
  whole : s.utf8ByteSize ≤ bytes → shown = s
  marked : bytes < s.utf8ByteSize →
    ∃ kept, IsLongestWithin bytes s kept ∧ shown = kept ++ "..." ∧
      bytes ≤ shown.utf8ByteSize ∧ shown.utf8ByteSize ≤ bytes + 3

theorem abridge_of_le {bytes : Nat} {s : String} (h : s.utf8ByteSize ≤ bytes) :
    abridge bytes s = s := by
  rw [← byteCount_toList] at h
  rw [abridge, if_pos h]

theorem abridge_of_lt {bytes : Nat} {s : String} (h : bytes < s.utf8ByteSize) :
    abridge bytes s = truncate bytes s ++ "..." := by
  rw [← byteCount_toList] at h
  rw [abridge, if_neg (Nat.not_le_of_lt h)]

theorem abridges_abridge (bytes : Nat) (s : String) : Abridges bytes s (abridge bytes s) where
  whole := abridge_of_le
  marked := by
    intro hlong
    have hkept := isLongestWithin_truncate bytes s
    have hsize : (truncate bytes s ++ "...").utf8ByteSize =
        (truncate bytes s).utf8ByteSize + 3 :=
      String.utf8ByteSize_append
    rw [abridge_of_lt hlong, hsize]
    exact ⟨_, hkept, rfl, le_utf8ByteSize_truncate hlong, Nat.add_le_add_right hkept.fits 3⟩

end Text

open Text

/-- A text is cut at the nearest place between two characters, going back from the number of bytes,
so that the longest beginning is kept that fits: all of it, if it fits, and nothing, if the first
character does not. Error messages are abridged to 512 bytes so, and logged queries to the number of
bytes that the style of logging gives, if it gives one. -/
theorem texts_abridged (bytes : Nat) (s : String) (style : Hook.LogStyle) :
    (IsLongestWithin bytes s (truncate bytes s) ∧
      (truncate bytes s).utf8ByteSize =
        Nat.findGreatest (fun k => (String.Pos.Raw.mk k).IsValid s) bytes ∧
      (s.utf8ByteSize ≤ bytes → truncate bytes s = s) ∧
      ∀ c cs, s.toList = c :: cs → bytes < c.utf8Size → truncate bytes s = "") ∧
    (∃ shown, Outcome.ofMessage s = .failed shown ∧ Abridges 512 s shown) ∧
    match style.queryBytes with
    | some limit => Abridges limit s (style.shown s)
    | none => style.shown s = s := by
  refine ⟨⟨isLongestWithin_truncate bytes s, utf8ByteSize_truncate bytes s, truncate_of_le,
    fun c cs => truncate_of_first⟩, ⟨_, rfl, abridges_abridge 512 s⟩, ?_⟩
  unfold Hook.LogStyle.shown
  cases style.queryBytes with
  | none => rfl
  | some limit => exact abridges_abridge limit s

/-- The place behind two bytes is inside the second character, which is left out. -/
example : truncate 2 "h\u00e9llo" = "h" := by
  decide

end DerivedQuery
