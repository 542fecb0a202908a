import DerivedQuery.Condition
import DerivedQuery.Proofs.Numbering.Taking
import DerivedQuery.Proofs.PropertyPath
import DerivedQuery.Proofs.Text.Ascii
import DerivedQuery.Proofs.Text.Joined

/-!
# The characters of conditions

What a criterion is written with: a path below the name of the object, placeholders, and the fixed
words of its operator.

* `isPathChar`: the characters of paths and placeholders, none of which is white space or a
  parenthesis.
* `pathChar_of_mem_qualified`, `pathChar_of_mem_placeholder`: paths and placeholders are made of
  them.
* `Condition.Complete`: every criterion has the placeholders it takes; a criterion that has them is
  written with them (`render_eq_phrase`).
* `Condition.Assembled`: the conditions that can be built, all of which are complete.
-/

namespace DerivedQuery

open Text

/-- A text that is put into another stands there as it is. -/
@[simp] theorem toString_text (s : String) : toString s = s := rfl

/-- A character of an identifier, a dot between identifiers or the `$` of a placeholder. -/
def isPathChar (c : Char) : Bool :=
  continuesIdentifier c || c == '.'

/-! ## Path characters -/

theorem isPathChar_iff {c : Char} :
    isPathChar c = true ↔ c.isAlphanum = true ∨ c = '_' ∨ c = '$' ∨ c = '.' := by
  simp [isPathChar, continuesIdentifier, or_assoc]

theorem isBlank_of_pathChar {c : Char} (h : isPathChar c = true) : isBlank c = false := by
  rcases isPathChar_iff.1 h with h | rfl | rfl | rfl
  · rw [isAlphanum_iff] at h
    exact isBlank_of_visible (by omega) (by omega)
  · decide
  · decide
  · decide

theorem ne_of_pathChar {c d : Char} (h : isPathChar c = true) (hd : isPathChar d = false) :
    c ≠ d := by
  rintro rfl
  rw [h] at hd
  cases hd

/-! ## Paths and placeholders -/

theorem pathChar_of_mem_identifier {s : String} (hs : isIdentifier s.toList = true) :
    ∀ c ∈ s.toList, isPathChar c = true := by
  intro c hc
  rw [isPathChar, continuesIdentifier_of_mem hs c hc, Bool.true_or]

theorem pathChar_of_mem_text (p : PropertyPath) : ∀ c ∈ p.text.toList, isPathChar c = true := by
  intro c hc
  rw [PropertyPath.text, String.toList_intercalate] at hc
  rcases mem_of_mem_intercalate hc with hdot | ⟨piece, hpiece, hc⟩
  · have hc : c = '.' := by simpa using hdot
    subst hc
    decide
  · -- A segment is the root of the path or one of those below it.
    rcases List.mem_map.1 hpiece with ⟨s, hs, rfl⟩
    have hid : isIdentifier s.toList = true := by
      rcases List.mem_cons.1 hs with rfl | hs
      · exact p.root.property
      · rcases List.mem_map.1 hs with ⟨segment, -, rfl⟩
        exact segment.property
    exact pathChar_of_mem_identifier hid c hc

/-- A path below an object. -/
theorem toList_qualified (p : PropertyPath) {object : String}
    (h : isIdentifier object.toList = true) :
    (p.qualified object).toList = object.toList ++ '.' :: p.text.toList := by
  simp [PropertyPath.qualified, isEmpty_of_isIdentifier h]

theorem pathChar_of_mem_qualified (p : PropertyPath) {object : String}
    (h : isIdentifier object.toList = true) :
    ∀ c ∈ (p.qualified object).toList, isPathChar c = true := by
  intro c hc
  rw [toList_qualified p h, List.mem_append, List.mem_cons] at hc
  rcases hc with hc | rfl | hc
  · exact pathChar_of_mem_identifier h c hc
  · decide
  · exact pathChar_of_mem_text p c hc

theorem pathChar_of_mem_placeholder (i : Nat) :
    ∀ c ∈ (Criterion.placeholder i).toList, isPathChar c = true := by
  intro c hc
  simp only [Criterion.placeholder, toString_text, String.toList_append, Nat.toString_eq_repr,
    Nat.toList_repr, List.mem_append] at hc
  rcases hc with hc | hc
  · have hc : c = '$' := by simpa using hc
    subst hc
    decide
  · have hdigit := Nat.isDigit_of_mem_toDigits (by decide) (by decide) hc
    rw [isPathChar_iff, Char.isAlphanum, hdigit, Bool.or_true]
    exact .inl rfl

theorem toList_placeholder (i : Nat) :
    (Criterion.placeholder i).toList = '$' :: Nat.toDigits 10 i := by
  simp [Criterion.placeholder]

/-! ## Criteria with their placeholders -/

/-- A criterion that has the placeholders it takes is written with them; what stands for one that
it does not take is not written. -/
theorem Criterion.render_eq_phrase (c : Criterion) {placeholders : List Nat}
    (h : placeholders.length = c.arity) (object : String) :
    c.render placeholders object =
      phrase c.operator c.ignoreCase (c.path.qualified object)
        (placeholder (placeholders.getD 0 0)) (placeholder (placeholders.getD 1 0)) := by
  rcases c with ⟨path, kind, op, ignoreCase, supported⟩
  simp only [Criterion.arity] at h
  -- With fewer than two placeholders, only operators that take no more are left.
  match placeholders with
  | [] => cases op <;> simp [Operator.arity] at h <;> rfl
  | [a] => cases op <;> simp [Operator.arity] at h <;> rfl
  | a :: b :: rest => simp [Criterion.render]

namespace Condition

/-- A criterion is made with the next placeholders. -/
theorem eq_test_of_ofCriterion {criterion : Criterion} {n m : Numbering} {c : Condition}
    (h : ofCriterion criterion n = (.ok c, m)) :
    c = test criterion (List.range' (n.issued + 1) criterion.arity) ∧
      m = ⟨n.max, n.issued + criterion.arity⟩ := by
  unfold ofCriterion at h
  split at h
  · next placeholders k htake =>
    rcases Numbering.eq_range_of_take htake with ⟨rfl, rfl⟩
    cases h
    exact ⟨rfl, rfl⟩
  · cases h

/-- Every criterion has as many placeholders as it takes. -/
def Complete (c : Condition) : Prop :=
  ∀ t ∈ c.tests, t.2.length = t.1.arity

@[simp] theorem complete_test (criterion : Criterion) (placeholders : List Nat) :
    (test criterion placeholders).Complete ↔ placeholders.length = criterion.arity := by
  simp [Complete, tests]

@[simp] theorem complete_and (a b : Condition) :
    (and a b).Complete ↔ a.Complete ∧ b.Complete := by
  simp only [Complete, tests, List.forall_mem_append]

@[simp] theorem complete_or (a b : Condition) :
    (or a b).Complete ↔ a.Complete ∧ b.Complete := by
  simp only [Complete, tests, List.forall_mem_append]

/-- Conditions as callers build them: criteria made with the next placeholders of a numbering, put
together with `and` and `or`. -/
inductive Assembled : Condition → Prop
  | made (criterion : Criterion) (n : Numbering) {m : Numbering} {c : Condition}
      (h : ofCriterion criterion n = (.ok c, m)) : Assembled c
  | and {a b : Condition} (ha : Assembled a) (hb : Assembled b) : Assembled (.and a b)
  | or {a b : Condition} (ha : Assembled a) (hb : Assembled b) : Assembled (.or a b)

theorem Assembled.complete {c : Condition} (h : c.Assembled) : c.Complete := by
  induction h with
  | made criterion n h =>
    rcases eq_test_of_ofCriterion h with ⟨rfl, -⟩
    simp
  | and _ _ iha ihb => exact (complete_and _ _).2 ⟨iha, ihb⟩
  | or _ _ iha ihb => exact (complete_or _ _).2 ⟨iha, ihb⟩

end Condition

end DerivedQuery
