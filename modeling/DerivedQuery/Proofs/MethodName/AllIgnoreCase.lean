import DerivedQuery.Proofs.MethodName.Criteria
import DerivedQuery.Proofs.MethodName.Decomposition

/-!
# Names in which all criteria ignore case

`AllIgnoreCase` at the end of the criteria changes the mode of every criterion that has none of its
own, and nothing else of what the name says.

* `Term.ignoringCase`, `ignoringCase`: a term and a name with that mode.
* `readTerm_whenPossible`, `readGroups_whenPossible`: the mode is all that the reader passes on.
* `read_findBy`: a name without an order is read as its criteria are.
* `parse_allIgnoreCase_iff`: names with and without the keyword.
-/

namespace DerivedQuery

open MethodName Text

/-- The term where all criteria ignore case if they can. -/
def Term.ignoringCase (t : Term) : Term :=
  { t with mode := if t.mode = .never then .whenPossible else t.mode }

namespace MethodName

/-- The name where all criteria ignore case if they can. -/
def ignoringCase (n : MethodName) : MethodName :=
  { n with groups := n.groups.map (·.map Term.ignoringCase) }

theorem terms_ignoringCase (n : MethodName) : n.ignoringCase.terms = n.terms.map Term.ignoringCase :=
  List.map_flatten.symm

/-! ## Criteria -/

/-- A criterion has the mode of its own, whatever the mode of all criteria is. -/
theorem readMode_cases (raw : List Char) :
    let own? := dropKeyword? (ignoreCaseKeywords.map (·, CaseMode.always)) raw
    (∃ test, ∀ mode, own?.getD (raw, mode) = (test, .always)) ∨
      ∀ mode, own?.getD (raw, mode) = (raw, mode) := by
  intro own?
  cases hdrop : own? with
  | none => exact .inr fun _ => rfl
  | some found =>
    obtain ⟨test, own⟩ := found
    obtain ⟨word, hword, -⟩ := eq_of_dropKeyword? hdrop
    obtain ⟨s, -, hpair⟩ := List.mem_map.1 hword
    cases hpair
    exact .inl ⟨test, fun _ => rfl⟩

/-- The mode of all criteria is that of a term without a mode of its own. -/
theorem readTerm_whenPossible (raw : List Char) :
    readTerm .whenPossible raw = (readTerm .never raw).map Term.ignoringCase := by
  unfold readTerm
  obtain ⟨test, hown⟩ | hnone := readMode_cases raw
  · rw [hown, hown]
    generalize (dropKeyword? operatorKeywords test).getD (test, .equals) = found
    obtain ⟨property, operator⟩ := found
    simp only
    split
    · rfl
    · split <;> rfl
  · rw [hnone, hnone]
    generalize (dropKeyword? operatorKeywords raw).getD (raw, .equals) = found
    obtain ⟨property, operator⟩ := found
    simp only
    split
    · rfl
    · split <;> rfl

theorem readGroups_whenPossible (criteria : List Char) :
    readGroups .whenPossible criteria =
      (readGroups .never criteria).map (List.map (List.map Term.ignoringCase)) :=
  mapM_eq_map_of_forall
    (fun group => mapM_eq_map_of_forall readTerm_whenPossible (cutAtKeyword "And" group)) _

/-- The keyword is taken off and sets the mode. -/
theorem readCriteria_allIgnoreCase {criteria : List Char} (hne : criteria ≠ []) :
    readCriteria (criteria ++ "AllIgnoreCase".toList) = readGroups .whenPossible criteria := by
  have hdrop : dropKeyword? (allIgnoreCaseKeywords.map (·, ()))
      (criteria ++ "AllIgnoreCase".toList) = some (criteria, ()) :=
    dropKeyword?_mode () (by simp) (by simp [allIgnoreCaseKeywords]) criteria
  obtain ⟨c, cs, rfl⟩ := List.exists_cons_of_ne_nil hne
  rw [readCriteria, hdrop]

/-- Criteria without the keyword have no mode in common. -/
theorem readCriteria_of_not_suffix {criteria : List Char}
    (h : ∀ k ∈ allIgnoreCaseKeywords, ¬ k.toList <:+ criteria) :
    readCriteria criteria = if criteria.isEmpty then .ok [] else readGroups .never criteria := by
  have hdrop : dropKeyword? (allIgnoreCaseKeywords.map (·, ())) criteria = none := by
    apply dropKeyword?_eq_none_iff.2
    intro k hk
    obtain ⟨word, hword, rfl⟩ := List.mem_map.1 hk
    exact h word hword
  rw [readCriteria, hdrop]

/-! ## Names without an order -/

/-- A keyword that does not occur cuts nothing off. -/
theorem cutAtKeyword_of_absent {keyword : String} {cs : List Char}
    (h : ¬ keyword.toList <:+: cs) : cutAtKeyword keyword cs = [cs] := by
  have hquiet : Quiet keyword cs [] := by
    rw [Quiet, throughout_iff]
    rintro b ⟨a, rfl⟩ - ⟨c, rest, heq, -⟩
    rw [List.append_nil] at heq
    exact h ⟨a, c :: rest, by rw [heq, List.append_assoc]⟩
  have hcut := cutFrom_quiet hquiet none
  rw [List.append_nil] at hcut
  rw [cutAtKeyword, hcut, cutFrom]
  simp

/-- `OrderBy` does not begin in criteria and go on in `AllIgnoreCase`. -/
theorem absent_allIgnoreCase {criteria : List Char} (h : ¬ "OrderBy".toList <:+: criteria) :
    ¬ "OrderBy".toList <:+: criteria ++ "AllIgnoreCase".toList := by
  rw [List.infix_append_iff_ne_nil]
  rintro (hinside | hkeyword | ⟨first, last, -, hlast, hsplit, -, hprefix⟩)
  · exact h hinside
  · have hletter : 'O' ∈ "AllIgnoreCase".toList := hkeyword.subset (by decide)
    revert hletter
    decide
  · -- What stands in the keyword begins with `A`, which is no letter of `OrderBy`.
    obtain ⟨c, cs, rfl⟩ := List.exists_cons_of_ne_nil hlast
    obtain ⟨rest, hrest⟩ := hprefix
    have hc : c = 'A' := by
      simpa using congrArg List.head? hrest
    have hletter : c ∈ "OrderBy".toList := by
      rw [hsplit]
      simp
    rw [hc] at hletter
    revert hletter
    decide

/-- Behind `findBy`, criteria without an order are all that a name says. -/
theorem read_findBy {criteria : String} (h : ¬ "OrderBy".toList <:+: criteria.toList) :
    read ("findBy" ++ criteria) =
      (readCriteria criteria.toList).map fun groups => ⟨false, none, groups, []⟩ := by
  have hprefix : splitPrefix? ("findBy" ++ criteria).toList =
      some ("By".toList ++ criteria.toList) := by
    rw [String.toList_append]
    rfl
  have hby : splitBy? ("By".toList ++ criteria.toList) = some ([], criteria.toList) := by
    have hdrop : dropStart? "By" ("By".toList ++ criteria.toList) = some criteria.toList :=
      dropStart?_eq_some_iff.2 rfl
    rw [splitBy?.eq_def, hdrop]
  have hsubject : readSubject [] = .ok ⟨false, none, [], []⟩ := by
    decide
  have hpredicate : readPredicate criteria.toList =
      (readCriteria criteria.toList).map fun groups => (groups, []) := by
    rw [readPredicate, cutAtKeyword_of_absent h]
    rfl
  simp only [read, hprefix, hby, hsubject, hpredicate, ok_bind]
  cases readCriteria criteria.toList <;> rfl

/-- A name is parsed when its criteria are read. -/
theorem parse_findBy_eq_ok_iff {criteria : String} {n : MethodName}
    (h : ¬ "OrderBy".toList <:+: criteria.toList) :
    parse ("findBy" ++ criteria) = .ok n ↔
      ∃ groups, readCriteria criteria.toList = .ok groups ∧ ⟨false, none, groups, []⟩ = n := by
  rw [parse, mapError_eq_ok_iff, read_findBy h]
  cases readCriteria criteria.toList <;> simp [Except.map]

section Keyword

variable {criteria : String} {n : MethodName}
  (horder : ¬ "OrderBy".toList <:+: criteria.toList)
  (hall : ∀ k ∈ allIgnoreCaseKeywords, ¬ k.toList <:+ criteria.toList)
include horder hall

/-- Criteria without a mode in common spell the terms that are read of them. -/
theorem isJoinedBy_of_parse_findBy (h : parse ("findBy" ++ criteria) = .ok n) :
    IsJoinedBy "Or" (IsJoinedBy "And" (Term.IsSpelledBy .never)) n.groups criteria := by
  obtain ⟨groups, hgroups, rfl⟩ := (parse_findBy_eq_ok_iff horder).1 h
  rw [readCriteria_of_not_suffix hall] at hgroups
  split at hgroups
  · next hempty =>
    cases hgroups
    have hcriteria : criteria = "" := by simpa using hempty
    exact ⟨[], .nil, hcriteria⟩
  · simpa using isJoinedBy_of_readGroups hgroups

/-- With the keyword behind its criteria, a name says the same of terms that ignore case. Either is
parsed if the other is, when there are criteria at all. -/
theorem parse_allIgnoreCase_iff (n' : MethodName) :
    (parse ("findBy" ++ criteria ++ "AllIgnoreCase") = .ok n' ∧ n'.groups ≠ []) ↔
      ∃ n, parse ("findBy" ++ criteria) = .ok n ∧ n.groups ≠ [] ∧ n.ignoringCase = n' := by
  have horder' : ¬ "OrderBy".toList <:+: (criteria ++ "AllIgnoreCase").toList := by
    rw [String.toList_append]
    exact absent_allIgnoreCase horder
  rw [String.append_assoc]
  simp only [parse_findBy_eq_ok_iff horder, parse_findBy_eq_ok_iff horder',
    readCriteria_of_not_suffix hall, String.toList_append]
  by_cases hempty : criteria.toList = []
  · -- There are no criteria that could ignore case.
    have halone : readCriteria "AllIgnoreCase".toList = .error .ignoreCaseAlone := by
      decide
    simp only [hempty, List.nil_append, halone]
    simp
  · have hread := readCriteria_allIgnoreCase hempty
    rw [readGroups_whenPossible] at hread
    simp only [hread, List.isEmpty_iff, hempty, if_false]
    cases hgroups : readGroups .never criteria.toList with
    | error err => simp [Except.map]
    | ok groups =>
      have hne : groups ≠ [] := ne_nil_of_mapM hgroups
      simp only [Except.map, Except.ok.injEq, exists_eq_left']
      constructor
      · rintro ⟨rfl, -⟩
        exact ⟨hne, rfl⟩
      · rintro ⟨-, rfl⟩
        exact ⟨rfl, by simpa [ignoringCase] using hne⟩

end Keyword

end MethodName

end DerivedQuery
