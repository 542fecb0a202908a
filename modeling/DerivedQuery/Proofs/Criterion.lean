import DerivedQuery.Criterion
import DerivedQuery.Proofs.Except

/-!
# Criteria that ignore case

Whether a test ignores case is decided by the mode, and whether it can do so is checked when the
criterion is made. Where the kind of the property is unknown the two part: such a test may ignore
case, but is not made to when it only should where possible.

* `Operator.supports_ignoringCase_iff`: which tests can ignore case.
* `Criterion.ignoresCase_whenPossible_iff`: which of them do when they should where possible.
* `Criterion.resolve_whenPossible`: ignoring case where possible against always and never doing so.
-/

namespace DerivedQuery

/-! ## Which tests can ignore case -/

/-- A test for equality applies to every kind. -/
theorem Operator.accepts_of_supportsIgnoreCase {op : Operator} (h : op.supportsIgnoreCase = true)
    (kind : PropertyKind) : op.accepts kind = true := by
  unfold Operator.accepts
  cases op with
  | equals => simp [isOrdering, isLike, isBoolean]
  | notEquals => simp [isOrdering, isLike, isBoolean]
  | _ => simp [supportsIgnoreCase] at h

theorem Operator.supports_ignoringCase_iff {op : Operator} {kind : PropertyKind} :
    op.supports kind true = true ↔
      op.supportsIgnoreCase = true ∧ (kind = .string ∨ kind = .object) := by
  simp only [supports, Bool.and_eq_true, Bool.not_true, Bool.false_or, Bool.or_eq_true,
    decide_eq_true_eq]
  constructor
  · rintro ⟨-, hcase⟩
    exact hcase
  · intro hcase
    exact ⟨accepts_of_supportsIgnoreCase hcase.1 kind, hcase⟩

namespace Criterion

theorem ignoresCase_whenPossible_iff {op : Operator} {kind : PropertyKind} :
    ignoresCase .whenPossible op kind = true ↔
      op.supports kind true = true ∧ kind ≠ .object := by
  simp only [ignoresCase, Bool.and_eq_true, decide_eq_true_eq, Operator.supports_ignoringCase_iff]
  constructor
  · rintro ⟨hop, rfl⟩
    exact ⟨⟨hop, .inl rfl⟩, by decide⟩
  · rintro ⟨⟨hop, hkind⟩, hne⟩
    exact ⟨hop, hkind.resolve_right hne⟩

/-! ## Modes compared -/

theorem make_eq_ok {path : PropertyPath} {kind : PropertyKind} {op : Operator} {ignoreCase : Bool}
    (h : op.supports kind ignoreCase = true) :
    make path kind op ignoreCase = .ok ⟨path, kind, op, ignoreCase, h⟩ :=
  dif_pos h

theorem make_eq_error {path : PropertyPath} {kind : PropertyKind} {op : Operator}
    {ignoreCase : Bool} (h : op.supports kind ignoreCase = false) :
    make path kind op ignoreCase =
      .error (.incompatible path.text (describe op ignoreCase) kind.text) :=
  dif_neg (by simp [h])

/-- Ignoring case makes another criterion. -/
theorem make_ignoringCase_ne {path : PropertyPath} {kind : PropertyKind} {op : Operator}
    (h : op.supports kind true = true) : make path kind op true ≠ make path kind op false := by
  intro heq
  rw [make_eq_ok h, make] at heq
  split at heq
  · simp at heq
  · cases heq

theorem resolve_of_ok {e : Entity} {written : String} {path : PropertyPath} {kind : PropertyKind}
    (h : e.resolve written = .ok (path, kind)) (op : Operator) (mode : CaseMode) :
    resolve e written op mode = make path kind op (ignoresCase mode op kind) := by
  rw [resolve, h, ok_bind]

theorem resolve_of_error {e : Entity} {written : String} {err : QueryError}
    (h : e.resolve written = .error err) (op : Operator) (mode : CaseMode) :
    resolve e written op mode = .error err := by
  rw [resolve, h]
  rfl

/-- The criterion that always ignores case, or the one that never does where there is no such. -/
def alwaysElseNever (e : Entity) (written : String) (op : Operator) : Except QueryError Criterion :=
  tryCatch (resolve e written op .always) fun _ => resolve e written op .never

/-- Of the two it is the one that ignores case whenever the kind supports it. -/
theorem alwaysElseNever_of_ok {e : Entity} {written : String} {path : PropertyPath}
    {kind : PropertyKind} (h : e.resolve written = .ok (path, kind)) (op : Operator) :
    alwaysElseNever e written op = make path kind op (op.supports kind true) := by
  unfold alwaysElseNever
  rw [resolve_of_ok h, resolve_of_ok h]
  show tryCatch (make path kind op true) (fun _ => make path kind op false) = _
  cases hcase : op.supports kind true with
  | true =>
    rw [make_eq_ok hcase]
    rfl
  | false =>
    rw [make_eq_error hcase]
    rfl

/-- A property whose kind is unknown is compared exactly where case should be ignored if possible. -/
theorem resolve_whenPossible_of_object {e : Entity} {written : String} {path : PropertyPath}
    (h : e.resolve written = .ok (path, .object)) (op : Operator) :
    resolve e written op .whenPossible = make path .object op false := by
  have hcase : ignoresCase .whenPossible op .object = false := by
    rw [Bool.eq_false_iff, ne_eq, ignoresCase_whenPossible_iff]
    exact fun hcase => hcase.2 rfl
  rw [resolve_of_ok h, hcase]

/-- A test of such a property that can ignore case is another one where it always does. -/
theorem resolve_whenPossible_ne_of_object {e : Entity} {written : String} {path : PropertyPath}
    (h : e.resolve written = .ok (path, .object)) {op : Operator}
    (hop : op.supportsIgnoreCase = true) :
    resolve e written op .whenPossible ≠ alwaysElseNever e written op := by
  have hcase : op.supports .object true = true :=
    Operator.supports_ignoringCase_iff.2 ⟨hop, .inr rfl⟩
  rw [resolve_whenPossible_of_object h, alwaysElseNever_of_ok h, hcase]
  exact (make_ignoringCase_ne hcase).symm

/-- Where possible means always, and never where that fails, except for a test for equality of a
property whose kind is unknown. Such a test can ignore case, but then never does. -/
theorem resolve_whenPossible (e : Entity) (written : String) (op : Operator) :
    (resolve e written op .whenPossible = alwaysElseNever e written op ↔
      ¬ (op.supportsIgnoreCase = true ∧ ∃ path, e.resolve written = .ok (path, .object))) ∧
    ∀ path, e.resolve written = .ok (path, .object) →
      resolve e written op .whenPossible = resolve e written op .never := by
  refine ⟨?_, fun path h =>
    (resolve_whenPossible_of_object h op).trans (resolve_of_ok h op .never).symm⟩
  constructor
  · rintro heq ⟨hop, path, h⟩
    exact resolve_whenPossible_ne_of_object h hop heq
  · intro hknown
    cases h : e.resolve written with
    | error err =>
      rw [alwaysElseNever, resolve_of_error h, resolve_of_error h, resolve_of_error h]
      rfl
    | ok found =>
      obtain ⟨path, kind⟩ := found
      -- The choice of the mode and the check of the criterion agree on a known kind.
      have hcase : ignoresCase .whenPossible op kind = op.supports kind true := by
        rw [Bool.eq_iff_iff, ignoresCase_whenPossible_iff, and_iff_left_iff_imp]
        rintro hcase rfl
        exact hknown ⟨(Operator.supports_ignoringCase_iff.1 hcase).1, path, h⟩
      rw [resolve_of_ok h, alwaysElseNever_of_ok h, hcase]

/-- Of a person's properties the name is compared without regard to case and the payload exactly. -/
theorem resolve_whenPossible_people :
    resolve ⟨"People", [⟨"lastname", .string, false⟩]⟩ "Lastname" .equals .whenPossible =
        alwaysElseNever ⟨"People", [⟨"lastname", .string, false⟩]⟩ "Lastname" .equals ∧
      resolve ⟨"People", [⟨"payload", .object, false⟩]⟩ "Payload" .equals .whenPossible =
        resolve ⟨"People", [⟨"payload", .object, false⟩]⟩ "Payload" .equals .never := by
  constructor
  · refine (resolve_whenPossible _ _ _).1.2 ?_
    rintro ⟨-, path, h⟩
    cases h
  · exact (resolve_whenPossible _ _ _).2 _ rfl

/-- The payload of a person may be anything. A test for equality with it can ignore case, but does
not do so where it should when possible. -/
theorem resolve_whenPossible_payload :
    resolve ((Entity.ofRegion "People").declare "payload" .object) "Payload" .equals
        .whenPossible ≠
      alwaysElseNever ((Entity.ofRegion "People").declare "payload" .object) "Payload" .equals := by
  obtain ⟨path, hpayload⟩ : ∃ path,
      ((Entity.ofRegion "People").declare "payload" .object).resolve "Payload" =
        .ok (path, .object) :=
    ⟨_, rfl⟩
  exact resolve_whenPossible_ne_of_object hpayload rfl

end Criterion

end DerivedQuery
