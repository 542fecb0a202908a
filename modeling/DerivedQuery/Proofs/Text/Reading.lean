import Mathlib.Data.List.Forall2
import DerivedQuery.Proofs.Text.Blank

/-!
# What a scanner takes off

A scanner that has come to the end of what it reads does not look further. So what it takes off is a
piece of text of its own, and it takes off the same piece whatever follows.

* `Reads read p`: the scanner takes off `p`, whatever follows.
* `keywordChars_eq_some_iff`: the pieces that a keyword is read from.
* `exists_reads_untilAfter`, `exists_reads_phrase`: every text that is read begins with such a piece.
-/

namespace DerivedQuery.Text

/-- The scanner takes off `p`, whatever follows. -/
def Reads (read : Scanner) (p : List Char) : Prop :=
  ∀ rest, read (p ++ rest) = some rest

/-! ## White space -/

/-- White space is taken off as far as it goes. -/
theorem not_isBlank_of_trimStart {cs rest : List Char} {c : Char}
    (h : trimStart cs = c :: rest) : isBlank c = false := by
  have hhead := List.head?_dropWhile_not isBlank cs
  rw [show cs.dropWhile isBlank = c :: rest from h] at hhead
  simpa using hhead

/-- White space is taken off up to the first other character. -/
theorem trimStart_of_blank {w y : List Char} (hw : ∀ c ∈ w, isBlank c = true)
    (hy : y.head?.any isBlank = false) : trimStart (w ++ y) = y := by
  rw [trimStart, List.dropWhile_append_of_pos hw]
  cases y with
  | nil => rfl
  | cons c y =>
    have hc : isBlank c = false := by simpa using hy
    exact List.dropWhile_cons_of_neg (by simp [hc])

/-- A text is white space and what is left without it. -/
theorem exists_blank_append (cs : List Char) :
    ∃ w, (∀ c ∈ w, isBlank c = true) ∧ cs = w ++ trimStart cs :=
  ⟨cs.takeWhile isBlank, fun _ hc => List.all_eq_true.1 List.all_takeWhile _ hc,
    (List.takeWhile_append_dropWhile).symm⟩

/-- So it is where some has to be. -/
theorem space_of_blank {w y : List Char} (hw : ∀ c ∈ w, isBlank c = true) (hne : w ≠ [])
    (hy : y.head?.any isBlank = false) : space (w ++ y) = some y := by
  cases w with
  | nil => exact absurd rfl hne
  | cons c w =>
    rw [List.forall_mem_cons] at hw
    rw [List.cons_append, space, if_pos hw.1, trimStart_of_blank hw.2 hy]

/-- White space that is taken off, and what is left. -/
theorem exists_of_space {cs rest : List Char} (h : space cs = some rest) :
    ∃ w, (∀ c ∈ w, isBlank c = true) ∧ w ≠ [] ∧ cs = w ++ rest ∧
      rest.head?.any isBlank = false := by
  cases cs with
  | nil => cases h
  | cons c cs =>
    simp only [space] at h
    split at h
    · next hc =>
      cases h
      rcases exists_blank_append cs with ⟨w, hw, hcs⟩
      refine ⟨c :: w, List.forall_mem_cons.2 ⟨hc, hw⟩, List.cons_ne_nil c w, ?_, ?_⟩
      · rw [List.cons_append, ← hcs]
      · cases htrim : trimStart cs with
        | nil => rfl
        | cons d rest => exact not_isBlank_of_trimStart htrim
    · cases h

/-- What follows white space that was taken off does not begin with more of it. -/
theorem not_isBlank_of_space {cs rest : List Char} {c : Char} (h : space cs = some (c :: rest)) :
    isBlank c = false := by
  rcases exists_of_space h with ⟨-, -, -, -, hhead⟩
  exact hhead

/-! ## Keywords -/

/-- A keyword is read from characters that stand for its letters. -/
theorem keywordChars_eq_some_iff {ks cs rest : List Char} :
    keywordChars ks cs = some rest ↔
      ∃ w, List.Forall₂ (fun k c => foldsTo k c = true) ks w ∧ cs = w ++ rest := by
  induction ks generalizing cs with
  | nil => simp [keywordChars]
  | cons k ks ih =>
    cases cs with
    | nil => simp [keywordChars, List.forall₂_cons_left_iff]
    | cons c cs =>
      constructor
      · intro h
        simp only [keywordChars] at h
        split at h
        · next hc =>
          rcases ih.1 h with ⟨w, hw, rfl⟩
          exact ⟨c :: w, .cons hc hw, rfl⟩
        · cases h
      · rintro ⟨w, hw, hcs⟩
        rcases List.forall₂_cons_left_iff.1 hw with ⟨d, v, hd, hv, rfl⟩
        rw [List.cons_append, List.cons.injEq] at hcs
        rcases hcs with ⟨rfl, hcs⟩
        rw [keywordChars, if_pos hd]
        exact ih.2 ⟨v, hv, hcs⟩

/-- What a keyword was read from is read as the keyword, whatever follows. -/
theorem exists_reads_keyword {word : String} {cs rest : List Char}
    (h : keyword word cs = some rest) : ∃ w, cs = w ++ rest ∧ Reads (keyword word) w := by
  rcases keywordChars_eq_some_iff.1 h with ⟨w, hw, rfl⟩
  exact ⟨w, rfl, fun _ => keywordChars_eq_some_iff.2 ⟨w, hw, rfl⟩⟩

/-- What a keyword is read from has no characters but those that stand for its letters. -/
theorem exists_foldsTo_of_mem {ks w : List Char}
    (h : List.Forall₂ (fun k c => foldsTo k c = true) ks w) {c : Char} (hc : c ∈ w) :
    ∃ k ∈ ks, foldsTo k c = true := by
  induction h with
  | nil => cases hc
  | @cons k d ks w hkd _ ih =>
    rcases List.mem_cons.1 hc with rfl | hc
    · exact ⟨k, List.mem_cons_self, hkd⟩
    · rcases ih hc with ⟨l, hl, hfolds⟩
      exact ⟨l, List.mem_cons_of_mem k hl, hfolds⟩

/-- A character that may be there is taken off or not. -/
theorem eq_or_eq_cons_optionally (c : Char) (cs : List Char) :
    cs = optionally c cs ∨ cs = c :: optionally c cs := by
  cases cs with
  | nil => exact .inl rfl
  | cons d cs =>
    by_cases hd : d = c
    · exact .inr (by rw [optionally, if_pos hd, hd])
    · exact .inl (by rw [optionally, if_neg hd])

/-! ## Everything up to a character -/

/-- The text up to the first `stop` is taken off. -/
theorem reads_untilAfter {stop : Char} {t : List Char} (h : stop ∉ t) :
    Reads (untilAfter stop) (t ++ [stop]) := by
  intro rest
  induction t with
  | nil => simp [untilAfter]
  | cons c t ih =>
    rw [List.mem_cons, not_or] at h
    rw [List.cons_append, List.cons_append, untilAfter, if_neg (Ne.symm h.1), ih h.2]

theorem exists_reads_untilAfter {stop : Char} {cs rest : List Char}
    (h : untilAfter stop cs = some rest) :
    ∃ p, p ≠ [] ∧ cs = p ++ rest ∧ Reads (untilAfter stop) p := by
  induction cs with
  | nil => cases h
  | cons c cs ih =>
    simp only [untilAfter] at h
    split at h
    · next hc =>
      cases h
      exact ⟨[c], by simp, rfl, fun rest => by simp [untilAfter, hc]⟩
    · next hc =>
      rcases ih h with ⟨p, -, rfl, hp⟩
      refine ⟨c :: p, by simp, rfl, fun rest => ?_⟩
      rw [List.cons_append, untilAfter, if_neg hc, hp rest]

/-! ## A keyword, white space and something behind it -/

/-- A keyword, white space and what is read behind it are taken off together. -/
theorem reads_phrase {word : String} {read : Scanner} {k w p : List Char}
    (hk : Reads (keyword word) k) (hw : ∀ c ∈ w, isBlank c = true) (hne : w ≠ [])
    (hp : Reads read p) (hhead : ∀ rest, (p ++ rest).head?.any isBlank = false) :
    Reads (fun cs => keyword word cs >>= space >>= read) (k ++ (w ++ p)) := by
  intro rest
  simp only [List.append_assoc, Option.bind_eq_bind]
  rw [hk, Option.bind_some, space_of_blank hw hne (hhead rest), Option.bind_some, hp]

theorem exists_reads_phrase {word : String} {read : Scanner} {cs rest : List Char}
    (hread : ∀ {a b : List Char}, read a = some b → ∃ p, p ≠ [] ∧ a = p ++ b ∧ Reads read p)
    (h : keyword word cs >>= space >>= read = some rest) :
    ∃ p, cs = p ++ rest ∧ Reads (fun cs => keyword word cs >>= space >>= read) p := by
  simp only [Option.bind_eq_bind, Option.bind_eq_some_iff] at h
  rcases h with ⟨b, ⟨a, ha, hb⟩, hc⟩
  rcases exists_reads_keyword ha with ⟨k, rfl, hk⟩
  rcases exists_of_space hb with ⟨w, hw, hne, rfl, hhead⟩
  rcases hread hc with ⟨p, hp, rfl, hreads⟩
  refine ⟨k ++ (w ++ p), by simp only [List.append_assoc], reads_phrase hk hw hne hreads ?_⟩
  -- The first character behind the white space is one that is read.
  intro rest'
  cases p with
  | nil => exact absurd rfl hp
  | cons c p => exact hhead

end DerivedQuery.Text
