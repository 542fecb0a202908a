import DerivedQuery.Compilation
import DerivedQuery.Proofs.Condition.Phrase
import DerivedQuery.Proofs.Except

/-!
# The steps of a compilation

The criteria of a name are made from left to right, and each takes the next placeholders; then the
region and the sort keys are read.

* `Compilation.Made`: the conditions made of a list, one after the other.
* `Compilation.combine_eq_ok_iff`: a combination is the fold of what was made of its list.
* `Compilation.compile_eq_ok_iff`: a compilation succeeds when each of its steps does; the order of
  the call takes part in none of them.
-/

namespace DerivedQuery

namespace Compilation

variable {α : Type} {make : α → Numbering → Except QueryError (Condition × Numbering)}
  {join : Condition → Condition → Condition}

/-- `Made make as n cs m`: from the numbering `n` on, `make` gives the conditions `cs` of the list
`as`, one after the other, and leaves the numbering `m`. -/
inductive Made (make : α → Numbering → Except QueryError (Condition × Numbering)) :
    List α → Numbering → List Condition → Numbering → Prop
  | nil (n : Numbering) : Made make [] n [] n
  | cons {a : α} {as : List α} {n k m : Numbering} {c : Condition} {cs : List Condition}
      (head : make a n = .ok (c, k)) (tail : Made make as k cs m) : Made make (a :: as) n (c :: cs) m

theorem made_nil_iff {n m : Numbering} {cs : List Condition} :
    Made make [] n cs m ↔ cs = [] ∧ m = n := by
  constructor
  · intro h
    cases h
    exact ⟨rfl, rfl⟩
  · rintro ⟨rfl, rfl⟩
    exact .nil _

theorem made_cons_iff {a : α} {as : List α} {n m : Numbering} {cs : List Condition} :
    Made make (a :: as) n cs m ↔
      ∃ c k, make a n = .ok (c, k) ∧ ∃ ds, Made make as k ds m ∧ cs = c :: ds := by
  constructor
  · intro h
    cases h with
    | cons head tail => exact ⟨_, _, head, _, tail, rfl⟩
  · rintro ⟨c, k, head, ds, tail, rfl⟩
    exact .cons head tail

/-- The loop of a combination, from a condition `c` on. -/
theorem foldlM_eq_ok_iff {as : List α} {c d : Condition} {n m : Numbering} :
    (as.foldlM (fun (c, n) a => do
      let (d, n) ← make a n
      return (join c d, n)) (c, n) = Except.ok (d, m)) ↔
    ∃ cs, Made make as n cs m ∧ d = cs.foldl join c := by
  -- Each step changes the condition and the numbering, so the induction is over both.
  induction as generalizing c n with
  | nil =>
    simp only [List.foldlM_nil, pure_eq_ok_iff, made_nil_iff, Prod.mk.injEq]
    constructor
    · rintro ⟨rfl, rfl⟩
      exact ⟨[], ⟨rfl, rfl⟩, rfl⟩
    · rintro ⟨_, ⟨rfl, rfl⟩, rfl⟩
      exact ⟨rfl, rfl⟩
  | cons a as ih =>
    simp only [List.foldlM_cons, bind_eq_ok_iff, pure_eq_ok_iff, made_cons_iff]
    constructor
    · rintro ⟨_, ⟨⟨b, k⟩, ha, rfl⟩, hrest⟩
      rcases ih.1 hrest with ⟨cs, hmade, rfl⟩
      exact ⟨b :: cs, ⟨b, k, ha, cs, hmade, rfl⟩, rfl⟩
    · rintro ⟨_, ⟨b, k, ha, cs, hmade, rfl⟩, rfl⟩
      exact ⟨_, ⟨(b, k), ha, rfl⟩, ih.2 ⟨cs, hmade, rfl⟩⟩

/-- A combination succeeds when its list is not empty and something can be made of each of its
elements; it is the fold of what was made. -/
theorem combine_eq_ok_iff {as : List α} {n m : Numbering} {c : Condition} :
    combine make join as n = .ok (c, m) ↔
      ∃ d ds, Made make as n (d :: ds) m ∧ c = ds.foldl join d := by
  cases as with
  | nil =>
    -- Nothing can be put together from an empty list, and `Made` gives no first condition of it.
    simp [combine, made_nil_iff, throw, throwThe, MonadExceptOf.throw]
  | cons a as =>
    simp only [combine, bind_eq_ok_iff, made_cons_iff]
    constructor
    · rintro ⟨⟨b, k⟩, ha, hrest⟩
      rcases foldlM_eq_ok_iff.1 hrest with ⟨ds, hmade, rfl⟩
      exact ⟨b, ds, ⟨b, k, ha, ds, hmade, rfl⟩, rfl⟩
    · rintro ⟨d, ds, ⟨b, k, ha, es, hmade, heq⟩, rfl⟩
      cases heq
      exact ⟨(d, k), ha, foldlM_eq_ok_iff.2 ⟨ds, hmade, rfl⟩⟩

/-- A term is made of a property that the entity has and of the next placeholders. -/
theorem eq_test_of_termCondition {e : Entity} {t : Term} {n m : Numbering} {c : Condition}
    (h : termCondition e t n = .ok (c, m)) :
    ∃ criterion, Criterion.resolve e t.property t.operator t.mode = .ok criterion ∧
      c = .test criterion (List.range' (n.issued + 1) criterion.arity) ∧
      m = ⟨n.max, n.issued + criterion.arity⟩ := by
  simp only [termCondition, bind_eq_ok_iff] at h
  rcases h with ⟨criterion, hresolve, h⟩
  refine ⟨criterion, hresolve, ?_⟩
  -- The criterion is resolved; what can still fail is to number it.
  split at h
  · next d k hmade =>
    rcases Condition.eq_test_of_ofCriterion hmade with ⟨rfl, rfl⟩
    cases h
    exact ⟨rfl, rfl⟩
  · cases h

/-- What a criterion resolves to: the property it names, which supports its test. -/
theorem eq_ok_of_resolve {e : Entity} {property : String} {op : Operator} {mode : CaseMode}
    {criterion : Criterion} (h : Criterion.resolve e property op mode = .ok criterion) :
    e.resolve property = .ok (criterion.path, criterion.kind) ∧ criterion.operator = op ∧
      criterion.ignoreCase = Criterion.ignoresCase mode op criterion.kind := by
  simp only [Criterion.resolve, bind_eq_ok_iff] at h
  rcases h with ⟨⟨path, kind⟩, hresolve, h⟩
  simp only [Criterion.make] at h
  split at h
  · cases h
    exact ⟨hresolve, rfl, rfl⟩
  · cases h

/-- The objects of an entity are selected when its region can be read. -/
theorem selection_eq_ok_iff {e : Entity} {distinct : Bool} {selection : Selection} :
    Selection.ofEntity e distinct = .ok selection ↔
      ∃ region, RegionName.parse e.region = .ok region ∧
        ⟨.region region distinct, Selection.defaultObject⟩ = selection := by
  simp only [Selection.ofEntity, bind_eq_ok_iff, pure_eq_ok_iff]

theorem statement_eq_ok_iff {e : Entity} {n : MethodName} {c : Option Condition}
    {order : SortOrder} {s : Statement} :
    statement e n c order = .ok s ↔
      ∃ region keys, RegionName.parse e.region = .ok region ∧ staticOrder e n = .ok keys ∧
        (Selection.filtered ⟨.region region n.distinct, Selection.defaultObject⟩ c).orderBy
          (keys.and order) = s := by
  simp only [statement, bind_eq_ok_iff, pure_eq_ok_iff, selection_eq_ok_iff]
  constructor
  · rintro ⟨_, ⟨region, hregion, rfl⟩, keys, hkeys, rfl⟩
    exact ⟨region, keys, hregion, hkeys, rfl⟩
  · rintro ⟨region, keys, hregion, hkeys, rfl⟩
    exact ⟨_, ⟨region, hregion, rfl⟩, keys, hkeys, rfl⟩

/-- A compilation succeeds when the name has criteria, a condition can be made of them, and the
region and the sort keys can be read. -/
theorem compile_eq_ok_iff {e : Entity} {n : MethodName} {max : Option Nat} {order : SortOrder}
    {c : Compiled} :
    compile e n max order = .ok c ↔
      n.isEmpty = false ∧ ∃ w m, condition e n (.upTo (max.getD n.parameterCount)) = .ok (w, m) ∧
        ∃ region keys, RegionName.parse e.region = .ok region ∧ staticOrder e n = .ok keys ∧
          ⟨(Selection.filtered ⟨.region region n.distinct, Selection.defaultObject⟩
            (some w)).orderBy (keys.and order), w.bindings⟩ = c := by
  unfold compile
  cases n.isEmpty with
  | true =>
    -- A name without criteria is refused.
    simp [bind, Except.bind, throw, throwThe, MonadExceptOf.throw]
  | false =>
    simp only [Bool.false_eq_true, if_false, bind_eq_ok_iff, pure_eq_ok_iff,
      statement_eq_ok_iff, true_and]
    constructor
    · rintro ⟨⟨w, m⟩, hw, _, ⟨region, keys, hregion, hkeys, rfl⟩, rfl⟩
      exact ⟨w, m, hw, region, keys, hregion, hkeys, rfl⟩
    · rintro ⟨w, m, hw, region, keys, hregion, hkeys, rfl⟩
      exact ⟨(w, m), hw, _, ⟨region, keys, hregion, hkeys, rfl⟩, rfl⟩

/-- A compilation for a method succeeds as one without does. -/
theorem compileFor_eq_ok_iff {method : Option String} {e : Entity} {n : MethodName}
    {max : Option Nat} {order : SortOrder} {c : Compiled} :
    compileFor method e n max order = .ok c ↔ compile e n max order = .ok c := by
  cases method with
  | none => rfl
  | some m => exact mapError_eq_ok_iff

end Compilation

end DerivedQuery
