import Mathlib.Data.List.DropRight
import DerivedQuery.Text.Blank

/-!
# Texts without the white space around them

* `trim_eq_nil_iff`: nothing is left of white space only.
* `trimStart_trim`: what is left does not begin with white space.
-/

namespace DerivedQuery.Text

theorem trimStart_trimStart (cs : List Char) : trimStart (trimStart cs) = trimStart cs :=
  List.dropWhile_idempotent isBlank cs

theorem trimStart_eq_nil_iff {cs : List Char} : trimStart cs = [] ↔ ∀ c ∈ cs, isBlank c = true :=
  List.dropWhile_eq_nil_iff

theorem trimEnd_eq_nil_iff {cs : List Char} : trimEnd cs = [] ↔ ∀ c ∈ cs, isBlank c = true :=
  List.rdropWhile_eq_nil_iff

/-- A text that does not begin with white space begins the same when its end is trimmed. -/
theorem trimStart_of_isPrefix {p cs : List Char} (h : p <+: cs) (hcs : trimStart cs = cs) :
    trimStart p = p := by
  cases p with
  | nil => rfl
  | cons c p =>
    rcases h with ⟨rest, rfl⟩
    have hc : isBlank c = false := by
      by_contra hblank
      rw [Bool.not_eq_false] at hblank
      rw [List.cons_append, trimStart, List.dropWhile_cons_of_pos hblank] at hcs
      have hlength := (List.dropWhile_suffix isBlank (l := p ++ rest)).length_le
      rw [hcs, List.length_cons] at hlength
      omega
    exact List.dropWhile_cons_of_neg (by simp [hc])

theorem trimStart_trim (cs : List Char) : trimStart (trim cs) = trim cs := by
  have htrim : trim cs <+: trimStart cs := List.rdropWhile_prefix isBlank (trimStart cs)
  exact trimStart_of_isPrefix htrim (trimStart_trimStart cs)

/-- Nothing is left of white space, and of nothing else. -/
theorem trim_eq_nil_iff {cs : List Char} : trim cs = [] ↔ ∀ c ∈ cs, isBlank c = true := by
  rw [trim, trimEnd_eq_nil_iff, ← trimStart_eq_nil_iff, trimStart_trimStart, trimStart_eq_nil_iff]

theorem trim_of_blank {s : String} (h : isBlankText s = true) : trim s.toList = [] :=
  trim_eq_nil_iff.2 (List.all_eq_true.1 h)

theorem isEmpty_trim (s : String) : (trim s.toList).isEmpty = isBlankText s := by
  rw [Bool.eq_iff_iff, List.isEmpty_iff, trim_eq_nil_iff, isBlankText, List.all_eq_true]

end DerivedQuery.Text
