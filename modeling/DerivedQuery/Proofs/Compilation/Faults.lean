import DerivedQuery.Proofs.Compilation.QueryText
import DerivedQuery.Proofs.MethodName.Decomposition
import DerivedQuery.Proofs.Numbering.Taking

/-!
# Which error a compilation reports

A name can be wrong in several places at once. What is reported is said here once more, straight
from the name and the entity; a placeholder is too many when the terms up to it take too many
arguments.

* `Compilable`: nothing is wrong.
* `TermFault`, `CompilationFault`: what is reported about a term, and about a name.
* `foldlM_checkTerm_eq_ok_iff`: the terms of a name are checked in one pass over all groups.
* `compile_outcome`: a parsed name compiles when it is compilable, and else reports its fault.
-/

namespace DerivedQuery

/-! ## What can be wrong -/

/-- The entity has the property of the term, and a property of its kind can be tested so. -/
def Term.IsSupported (e : Entity) (t : Term) : Prop :=
  ∃ path kind, e.resolve? t.property = some (path, kind) ∧
    t.operator.supports kind (t.asksIgnoreCase kind) = true

/-- Every one of some terms is supported, and they take at most `max` arguments together. -/
structure TermsFit (e : Entity) (max : Nat) (ts : List Term) : Prop where
  supported : ∀ t ∈ ts, t.IsSupported e
  count_le : argumentCount ts ≤ max

/-- A name of which a query of at most `max` arguments can be made. -/
structure Compilable (e : Entity) (n : MethodName) (max : Nat) : Prop where
  criteria : n.terms ≠ []
  terms : TermsFit e max n.terms
  region : ∃ region, RegionName.read e.region = .ok region
  order : ∀ o ∈ n.order, ∃ found, e.resolve? o.property = some found

/-- What is reported about a term, when the terms before it take `before` of `max` arguments. -/
inductive TermFault (e : Entity) (max before : Nat) (t : Term) : QueryError → Prop
  | unknown (missing : e.resolve? t.property = none) :
    TermFault e max before t (.noSuchProperty t.property e.region)
  | unsupported {path : PropertyPath} {kind : PropertyKind}
      (found : e.resolve? t.property = some (path, kind))
      (refused : t.operator.supports kind (t.asksIgnoreCase kind) = false) :
    TermFault e max before t
      (.incompatible path.text (Criterion.describe t.operator (t.asksIgnoreCase kind)) kind.text)
  | overflow (supported : t.IsSupported e) (lt : max < before + t.operator.arity) :
    TermFault e max before t (.placeholderOverflow max)

/-- What is reported about a name: the fault of the first term that has one, else that of the
region, else that of the first sort key that has one. -/
inductive CompilationFault (e : Entity) (n : MethodName) (max : Nat) : QueryError → Prop
  | criteria (none : n.terms = []) : CompilationFault e n max .noCriteria
  | term {earlier later : List Term} {t : Term} {err : QueryError}
      (split : n.terms = earlier ++ t :: later) (fit : TermsFit e max earlier)
      (fault : TermFault e max (argumentCount earlier) t err) : CompilationFault e n max err
  | region {fault : RequestFault} (criteria : n.terms ≠ []) (fit : TermsFit e max n.terms)
      (refused : RegionName.read e.region = .error fault) :
    CompilationFault e n max (.invalidRequest fault)
  | order {earlier later : List OrderTerm} {o : OrderTerm} {region : RegionName}
      (criteria : n.terms ≠ []) (fit : TermsFit e max n.terms)
      (found : RegionName.read e.region = .ok region) (split : n.order = earlier ++ o :: later)
      (before : ∀ p ∈ earlier, ∃ found, e.resolve? p.property = some found)
      (missing : e.resolve? o.property = none) :
    CompilationFault e n max (.noSuchProperty o.property e.region)

/-! ## Properties -/

namespace Entity

variable {e : Entity} {written : String}

/-- A property is resolved when the entity has it. -/
theorem resolve_eq_ok_iff {found : PropertyPath × PropertyKind} :
    e.resolve written = .ok found ↔ e.resolve? written = some found := by
  unfold resolve
  cases e.resolve? written <;> simp

/-- What is reported of a property is that the entity does not have it. -/
theorem resolve_eq_error_iff {err : QueryError} :
    e.resolve written = .error err ↔
      e.resolve? written = none ∧ err = .noSuchProperty written e.region := by
  unfold resolve
  cases e.resolve? written <;> simp [eq_comm]

end Entity

/-! ## Terms -/

namespace Compilation

variable {e : Entity} {k m : Numbering} {t : Term} {err : QueryError}

/-- The numbering after a term, if a condition can be made of the term. -/
def checkTerm (e : Entity) (k : Numbering) (t : Term) : Except QueryError Numbering :=
  (·.2) <$> termCondition e t k

/-- A term without a property is not looked at any further. -/
theorem checkTerm_of_unknown (h : e.resolve? t.property = none) :
    checkTerm e k t = .error (.noSuchProperty t.property e.region) := by
  simp only [checkTerm, termCondition, Criterion.resolve, Entity.resolve, h]
  rfl

/-- A term whose property cannot be tested so is reported with the property as the entity names it.
-/
theorem checkTerm_of_unsupported {path : PropertyPath} {kind : PropertyKind}
    (found : e.resolve? t.property = some (path, kind))
    (h : t.operator.supports kind (t.asksIgnoreCase kind) = false) :
    checkTerm e k t = .error
      (.incompatible path.text (Criterion.describe t.operator (t.asksIgnoreCase kind))
        kind.text) := by
  rw [Reading.asksIgnoreCase_eq] at h ⊢
  simp only [checkTerm, termCondition, Criterion.resolve, Entity.resolve, found, ok_bind,
    Criterion.make, h]
  rfl

/-- What remains of a supported term is to number its placeholders. -/
theorem checkTerm_of_supported (h : t.IsSupported e) :
    checkTerm e k t =
      (k.take t.operator.arity).1.map fun _ => (k.take t.operator.arity).2 := by
  rcases h with ⟨path, kind, found, h⟩
  rw [Reading.asksIgnoreCase_eq] at h
  simp only [checkTerm, termCondition, Criterion.resolve, Entity.resolve, found, ok_bind,
    Criterion.make, h, dite_true, Condition.ofCriterion, Criterion.arity]
  rcases k.take t.operator.arity with ⟨_ | _, _⟩ <;> rfl

/-- A term is passed with its arguments counted, or its fault is reported. -/
theorem checkTerm_cases (e : Entity) (k : Numbering) (t : Term) :
    t.IsSupported e ∧ (t.operator.arity = 0 ∨ k.issued + t.operator.arity ≤ k.max) ∧
        checkTerm e k t = .ok ⟨k.max, k.issued + t.operator.arity⟩ ∨
      ∃ err, TermFault e k.max k.issued t err ∧ checkTerm e k t = .error err := by
  rcases hfound : e.resolve? t.property with _ | ⟨path, kind⟩
  · exact .inr ⟨_, .unknown hfound, checkTerm_of_unknown hfound⟩
  · by_cases hsupports : t.operator.supports kind (t.asksIgnoreCase kind) = true
    · have hsupported : t.IsSupported e := ⟨path, kind, hfound, hsupports⟩
      rw [checkTerm_of_supported hsupported]
      by_cases hzero : t.operator.arity = 0
      · -- Without arguments nothing is taken, however many numbers there are left.
        rw [hzero]
        exact .inl ⟨hsupported, .inl rfl, rfl⟩
      · by_cases hle : k.issued + t.operator.arity ≤ k.max
        · rw [Numbering.take_of_le hle]
          exact .inl ⟨hsupported, .inr hle, rfl⟩
        · rw [Nat.not_le] at hle
          rw [Numbering.take_of_lt hzero hle]
          exact .inr ⟨_, .overflow hsupported hle, rfl⟩
    · rw [Bool.not_eq_true] at hsupports
      exact .inr ⟨_, .unsupported hfound hsupports, checkTerm_of_unsupported hfound hsupports⟩

/-- As long as the bound has been kept, a term is passed when it keeps it too. -/
theorem checkTerm_eq_ok_iff (hk : k.issued ≤ k.max) :
    checkTerm e k t = .ok m ↔ t.IsSupported e ∧ k.issued + t.operator.arity ≤ k.max ∧
      m = ⟨k.max, k.issued + t.operator.arity⟩ := by
  constructor
  · intro h
    rcases checkTerm_cases e k t with ⟨hsupported, hle, hok⟩ | ⟨err, -, herr⟩
    · rw [hok] at h
      exact ⟨hsupported, by omega, (Except.ok.inj h).symm⟩
    · rw [herr] at h
      cases h
  · rintro ⟨hsupported, hle, rfl⟩
    rw [checkTerm_of_supported hsupported, Numbering.take_of_le hle]
    rfl

/-- What is reported of a term is its fault. -/
theorem fault_of_checkTerm (h : checkTerm e k t = .error err) :
    TermFault e k.max k.issued t err := by
  rcases checkTerm_cases e k t with ⟨-, -, hok⟩ | ⟨cause, hfault, herr⟩
  · rw [hok] at h
    cases h
  · rw [herr] at h
    cases h
    exact hfault

/-- As long as the bound has been kept, every fault of a term is reported. -/
theorem checkTerm_eq_error_iff (hk : k.issued ≤ k.max) :
    checkTerm e k t = .error err ↔ TermFault e k.max k.issued t err := by
  constructor
  · exact fault_of_checkTerm
  · intro h
    cases h with
    | unknown missing => exact checkTerm_of_unknown missing
    | unsupported found refused => exact checkTerm_of_unsupported found refused
    -- More than a bound that was kept is more than no argument at all.
    | overflow supported lt =>
      rw [checkTerm_of_supported supported, Numbering.take_of_lt (by omega) lt]
      rfl

/-- Terms are passed one after the other, with their arguments counted. -/
theorem foldlM_checkTerm_eq_ok_iff {ts : List Term} (hk : k.issued ≤ k.max) :
    ts.foldlM (checkTerm e) k = .ok m ↔ (∀ t ∈ ts, t.IsSupported e) ∧
      k.issued + argumentCount ts ≤ k.max ∧ m = ⟨k.max, k.issued + argumentCount ts⟩ := by
  induction ts generalizing k with
  | nil =>
    have hcount : argumentCount [] = 0 := rfl
    simp only [List.foldlM_nil, pure_eq_ok_iff, List.not_mem_nil, false_imp_iff, implies_true,
      hcount, Nat.add_zero, hk, true_and]
    exact eq_comm
  | cons t ts ih =>
    have hcount : argumentCount (t :: ts) = t.operator.arity + argumentCount ts := rfl
    simp only [List.foldlM_cons, bind_eq_ok_iff, checkTerm_eq_ok_iff hk, List.forall_mem_cons,
      hcount, ← Nat.add_assoc]
    constructor
    · rintro ⟨j, ⟨ht, hle, rfl⟩, hrest⟩
      rcases (ih hle).1 hrest with ⟨hts, hcounted, rfl⟩
      exact ⟨⟨ht, hts⟩, hcounted, rfl⟩
    · rintro ⟨⟨ht, hts⟩, hcounted, rfl⟩
      have hle : k.issued + t.operator.arity ≤ k.max := by omega
      exact ⟨_, ⟨ht, hle, rfl⟩, (ih hle).2 ⟨hts, hcounted, rfl⟩⟩

/-- From the first number on, the terms that fit are passed. -/
theorem foldlM_checkTerm_upTo_eq_ok_iff {ts : List Term} {max : Nat} :
    ts.foldlM (checkTerm e) (.upTo max) = .ok m ↔
      TermsFit e max ts ∧ m = ⟨max, argumentCount ts⟩ := by
  have hk : (Numbering.upTo max).issued ≤ (Numbering.upTo max).max := Nat.zero_le max
  rw [foldlM_checkTerm_eq_ok_iff hk]
  simp only [Numbering.upTo, Nat.zero_add]
  constructor
  · rintro ⟨hts, hle, rfl⟩
    exact ⟨⟨hts, hle⟩, rfl⟩
  · rintro ⟨⟨hts, hle⟩, rfl⟩
    exact ⟨hts, hle, rfl⟩

/-- The fault of the first term that does not fit is reported. -/
theorem foldlM_checkTerm_upTo_eq_error_iff {ts : List Term} {max : Nat} :
    ts.foldlM (checkTerm e) (.upTo max) = .error err ↔
      ∃ earlier t later, ts = earlier ++ t :: later ∧ TermsFit e max earlier ∧
        TermFault e max (argumentCount earlier) t err := by
  simp only [foldlM_eq_error_iff, foldlM_checkTerm_upTo_eq_ok_iff]
  constructor
  · rintro ⟨earlier, t, later, _, hsplit, ⟨hfit, rfl⟩, herr⟩
    -- The terms before it fit, so that the bound has been kept up to it.
    exact ⟨earlier, t, later, hsplit, hfit, (checkTerm_eq_error_iff hfit.count_le).1 herr⟩
  · rintro ⟨earlier, t, later, hsplit, hfit, hfault⟩
    exact ⟨earlier, t, later, _, hsplit, ⟨hfit, rfl⟩,
      (checkTerm_eq_error_iff hfit.count_le).2 hfault⟩

/-! ## Groups -/

section Combination

variable {α : Type} {make : α → Numbering → Except QueryError (Condition × Numbering)}
  {join : Condition → Condition → Condition}

/-- The numbering does not depend on how conditions are joined. -/
theorem map_foldlM (as : List α) (c : Condition) (k : Numbering) :
    (·.2) <$> as.foldlM (fun (c, n) a => do
        let (d, n) ← make a n
        return (join c d, n)) (c, k) =
      as.foldlM (fun k a => (·.2) <$> make a k) k := by
  -- What has been joined so far is arbitrary, and only the numbers are passed on.
  induction as generalizing c k with
  | nil => rfl
  | cons a as ih =>
    simp only [List.foldlM_cons]
    rcases make a k with err | ⟨d, j⟩
    · rfl
    · exact ih (join c d) j

/-- A combination of at least one condition numbers them one after the other. -/
theorem map_combine {as : List α} (h : as ≠ []) (k : Numbering) :
    (·.2) <$> combine make join as k = as.foldlM (fun k a => (·.2) <$> make a k) k := by
  cases as with
  | nil => exact absurd rfl h
  | cons a as =>
    rw [combine, List.foldlM_cons]
    rcases make a k with err | ⟨c, j⟩
    · rfl
    · exact map_foldlM as c j

end Combination

/-- The terms of a group are checked one after the other. -/
theorem map_groupCondition {group : List Term} (h : group ≠ []) (k : Numbering) :
    (·.2) <$> groupCondition e group k = group.foldlM (checkTerm e) k :=
  map_combine h k

/-- Checking the groups in turn is checking all their terms in turn. -/
theorem foldlM_groups {groups : List (List Term)} (h : ∀ group ∈ groups, group ≠ [])
    (k : Numbering) :
    groups.foldlM (fun k group => (·.2) <$> groupCondition e group k) k =
      groups.flatten.foldlM (checkTerm e) k := by
  induction groups generalizing k with
  | nil => rfl
  | cons group groups ih =>
    rw [List.forall_mem_cons] at h
    rw [List.foldlM_cons, map_groupCondition h.1, List.flatten_cons, List.foldlM_append]
    congr 1
    funext j
    exact ih h.2 j

/-- The criteria of a name are checked in one pass over the terms of all groups. -/
theorem map_condition {n : MethodName} (hgroups : n.groups ≠ [])
    (h : ∀ group ∈ n.groups, group ≠ []) (k : Numbering) :
    (·.2) <$> condition e n k = n.terms.foldlM (checkTerm e) k := by
  rw [condition, map_combine hgroups, foldlM_groups h, MethodName.terms]

/-- A group with a term is never reported to have no criteria. -/
theorem groupCondition_ne_noCriteria {group : List Term} (h : group ≠ []) (k : Numbering) :
    groupCondition e group k ≠ .error .noCriteria := by
  intro herr
  rw [← map_eq_error_iff (f := (·.2)), map_groupCondition h, foldlM_eq_error_iff] at herr
  -- The error would be that of one of its terms, and there is none of this kind.
  rcases herr with ⟨-, t, -, j, -, -, herr⟩
  cases fault_of_checkTerm herr

/-! ## Compilations -/

variable {n : MethodName} {max : Option Nat} {order : SortOrder}

/-- The sort keys of a name are read when the entity has the property of each. -/
theorem exists_staticOrder_iff :
    (∃ keys, staticOrder e n = .ok keys) ↔
      ∀ o ∈ n.order, ∃ found, e.resolve? o.property = some found := by
  simp only [Reading.staticOrder_eq_ok_iff, Entity.resolve_eq_ok_iff]
  constructor
  · rintro ⟨_, horder, -⟩
    exact horder
  · intro horder
    exact ⟨⟨_⟩, horder, rfl⟩

/-- The first sort key without a property is reported. -/
theorem staticOrder_eq_error_iff :
    staticOrder e n = .error err ↔
      ∃ earlier o later, n.order = earlier ++ o :: later ∧
        (∀ p ∈ earlier, ∃ found, e.resolve? p.property = some found) ∧
        e.resolve? o.property = none ∧ err = .noSuchProperty o.property e.region := by
  simp [staticOrder, bind_eq_error_iff, mapM_eq_error_iff, bind_eq_ok_iff,
    Entity.resolve_eq_error_iff, Entity.resolve_eq_ok_iff, pure, Except.pure]

/-- A compilation fails at the first of its steps that does. -/
theorem compile_eq_error_iff :
    compile e n max order = .error err ↔
      n.groups = [] ∧ err = .noCriteria ∨
      n.groups ≠ [] ∧ (condition e n (.upTo (max.getD n.parameterCount)) = .error err ∨
        (∃ w, condition e n (.upTo (max.getD n.parameterCount)) = .ok w) ∧
          (RegionName.parse e.region = .error err ∨
            (∃ region, RegionName.parse e.region = .ok region) ∧
              staticOrder e n = .error err)) := by
  unfold compile
  by_cases hne : n.groups = []
  · -- No criteria: the remaining steps are not reached.
    simp [MethodName.isEmpty, hne, bind, Except.bind, throw, throwThe, MonadExceptOf.throw, eq_comm]
  · simp [MethodName.isEmpty, hne, bind_eq_error_iff, statement, Selection.ofEntity, pure,
      Except.pure]

section Groups

variable (hgroups : ∀ group ∈ n.groups, group ≠ [])
include hgroups

/-- Groups that are not empty have terms as soon as there is one of them. -/
theorem terms_eq_nil_iff : n.terms = [] ↔ n.groups = [] := by
  rw [MethodName.terms, List.flatten_eq_nil_iff]
  constructor
  · intro h
    rcases hn : n.groups with _ | ⟨group, groups⟩
    · rfl
    · have hmem : group ∈ n.groups := hn ▸ List.mem_cons_self
      exact absurd (h group hmem) (hgroups group hmem)
  · intro h
    simp [h]

/-- The criteria of a name are put together when they fit. -/
theorem exists_condition_iff {max : Nat} (hne : n.groups ≠ []) :
    (∃ w, condition e n (.upTo max) = .ok w) ↔ TermsFit e max n.terms := by
  have hpass := map_condition (e := e) hne hgroups (.upTo max)
  constructor
  · rintro ⟨w, hw⟩
    rw [hw] at hpass
    exact (foldlM_checkTerm_upTo_eq_ok_iff.1 hpass.symm).1
  · intro hfit
    rw [foldlM_checkTerm_upTo_eq_ok_iff.2 ⟨hfit, rfl⟩, map_eq_ok_iff] at hpass
    rcases hpass with ⟨w, hw, -⟩
    exact ⟨w, hw⟩

/-- The fault of the first term that does not fit is reported, in whichever group it stands. -/
theorem condition_eq_error_iff {max : Nat} (hne : n.groups ≠ []) :
    condition e n (.upTo max) = .error err ↔
      ∃ earlier t later, n.terms = earlier ++ t :: later ∧ TermsFit e max earlier ∧
        TermFault e max (argumentCount earlier) t err := by
  rw [← map_eq_error_iff (f := (·.2)), map_condition hne hgroups,
    foldlM_checkTerm_upTo_eq_error_iff]

/-- A name compiles when nothing is wrong with it. -/
theorem exists_compile_iff :
    (∃ c, compile e n max order = .ok c) ↔
      Compilable e n (max.getD (argumentCount n.terms)) := by
  constructor
  · rintro ⟨c, hc⟩
    rcases compile_eq_ok_iff.1 hc with ⟨hname, w, m, hw, region, keys, hregion, hkeys, -⟩
    have hne : n.groups ≠ [] := by
      simpa [MethodName.isEmpty] using hname
    exact {
      criteria := mt (terms_eq_nil_iff hgroups).1 hne
      terms := (exists_condition_iff hgroups hne).1 ⟨_, hw⟩
      region := ⟨region, RegionName.parse_eq_ok_iff.1 hregion⟩
      order := exists_staticOrder_iff.1 ⟨keys, hkeys⟩ }
  · rintro ⟨hterms, hfit, ⟨region, hregion⟩, horder⟩
    have hne : n.groups ≠ [] := mt (terms_eq_nil_iff hgroups).2 hterms
    have hname : n.isEmpty = false := by
      simpa [MethodName.isEmpty] using hne
    rcases (exists_condition_iff hgroups hne).2 hfit with ⟨⟨w, m⟩, hw⟩
    rcases exists_staticOrder_iff.2 horder with ⟨keys, hkeys⟩
    exact ⟨_, compile_eq_ok_iff.2 ⟨hname, w, m, hw, region, keys,
      RegionName.parse_eq_ok_iff.2 hregion, hkeys, rfl⟩⟩

/-- What a compilation reports is the fault of the name. -/
theorem compile_eq_error_iff_fault :
    compile e n max order = .error err ↔
      CompilationFault e n (max.getD (argumentCount n.terms)) err := by
  rw [compile_eq_error_iff, ne_eq, ← terms_eq_nil_iff hgroups]
  constructor
  · -- The steps are the constructors, from the one that is taken first to the last.
    rintro (⟨hnil, rfl⟩ | ⟨hterms, h⟩)
    · exact .criteria hnil
    · have hne : n.groups ≠ [] := mt (terms_eq_nil_iff hgroups).2 hterms
      rcases h with hw | ⟨hw, hregion | ⟨⟨region, hregion⟩, horder⟩⟩
      · rcases (condition_eq_error_iff hgroups hne).1 hw with
          ⟨earlier, t, later, hsplit, hfit, ht⟩
        exact .term hsplit hfit ht
      · rcases RegionName.parse_eq_error_iff.1 hregion with ⟨fault, hfault, rfl⟩
        exact .region hterms ((exists_condition_iff hgroups hne).1 hw) hfault
      · rcases staticOrder_eq_error_iff.1 horder with
          ⟨earlier, o, later, hsplit, hbefore, hmissing, rfl⟩
        exact .order hterms ((exists_condition_iff hgroups hne).1 hw)
          (RegionName.parse_eq_ok_iff.1 hregion) hsplit hbefore hmissing
  · intro h
    -- Back again, each constructor fails at its own step, and passes those in front of it.
    cases h with
    | criteria hnil => exact .inl ⟨hnil, rfl⟩
    | @term earlier later t _ hsplit hfit ht =>
      have hterms : n.terms ≠ [] := by
        simp [hsplit]
      have hne : n.groups ≠ [] := mt (terms_eq_nil_iff hgroups).2 hterms
      exact .inr ⟨hterms, .inl ((condition_eq_error_iff hgroups hne).2
        ⟨earlier, t, later, hsplit, hfit, ht⟩)⟩
    | region hterms hfit hfault =>
      have hne : n.groups ≠ [] := mt (terms_eq_nil_iff hgroups).2 hterms
      exact .inr ⟨hterms, .inr ⟨(exists_condition_iff hgroups hne).2 hfit,
        .inl (RegionName.parse_eq_error_iff.2 ⟨_, hfault, rfl⟩)⟩⟩
    | order hterms hfit hregion hsplit hbefore hmissing =>
      have hne : n.groups ≠ [] := mt (terms_eq_nil_iff hgroups).2 hterms
      exact .inr ⟨hterms, .inr ⟨(exists_condition_iff hgroups hne).2 hfit,
        .inr ⟨⟨_, RegionName.parse_eq_ok_iff.2 hregion⟩,
          staticOrder_eq_error_iff.2 ⟨_, _, _, hsplit, hbefore, hmissing, rfl⟩⟩⟩⟩

end Groups

/-! ## The method of a compilation -/

/-- An error as it is reported for a method, if the method has a name. -/
def reported (method : Option String) (cause : QueryError) : QueryError :=
  match method with
  | some m => .inMethod m cause
  | none => cause

/-- The fault of a name has no method of its own that would be kept. -/
theorem within_of_fault {bound : Nat} (h : CompilationFault e n bound err) (m : String) :
    err.within m = .inMethod m err := by
  cases h with
  | criteria | region | order => rfl
  | term _ _ fault => cases fault <;> rfl

/-- A compilation for a method reports the same faults, in the name of the method. -/
theorem compileFor_eq_error_iff {method : Option String}
    (hgroups : ∀ group ∈ n.groups, group ≠ []) :
    compileFor method e n max order = .error err ↔
      ∃ cause, CompilationFault e n (max.getD (argumentCount n.terms)) cause ∧
        err = reported method cause := by
  cases method with
  | none => simp [compileFor, reported, compile_eq_error_iff_fault hgroups]
  | some m =>
    simp only [compileFor, mapError_eq_error_iff, compile_eq_error_iff_fault hgroups, reported]
    constructor
    · rintro ⟨cause, hfault, rfl⟩
      exact ⟨cause, hfault, within_of_fault hfault m⟩
    · rintro ⟨cause, hfault, rfl⟩
      exact ⟨cause, hfault, within_of_fault hfault m⟩

/-- With room for all arguments of a name, no placeholder of it is too many. -/
theorem not_overflow_of_le {bound max : Nat} (hle : argumentCount n.terms ≤ bound) :
    ¬ CompilationFault e n bound (.placeholderOverflow max) := by
  intro h
  cases h with
  | @term earlier later t _ hsplit _ fault =>
    cases fault with
    | overflow _ hlt =>
      -- The term's own arguments and those of the terms before it are among all of the name.
      have hcount : argumentCount n.terms =
          argumentCount earlier + (t.operator.arity + argumentCount later) := by
        rw [hsplit, Reading.argumentCount_append]
        rfl
      omega

/-- Reports for one method tell the faults apart. -/
theorem reported_injective (method : Option String) {a b : QueryError}
    (h : reported method a = reported method b) : a = b := by
  cases method with
  | none => exact h
  | some m => exact (QueryError.inMethod.inj h).2

/-- A parsed name compiles for an entity when nothing is wrong with it; else its fault is reported,
for the method if there is one. Without a bound of its own a name has room for all its arguments,
and no group of a parsed name is without criteria. -/
theorem compile_outcome {name : String} {n : MethodName} (h : MethodName.parse name = .ok n)
    (e : Entity) (method : Option String) (max : Option Nat) (order : SortOrder) :
    let bound := max.getD (argumentCount n.terms)
    ((∃ c, compileFor method e n max order = .ok c) ↔ Compilable e n bound) ∧
      (∀ err, compileFor method e n max order = .error err ↔
        ∃ cause, CompilationFault e n bound cause ∧ err = reported method cause) ∧
      (∀ m, compileFor method e n none order ≠ .error (reported method (.placeholderOverflow m))) ∧
      ∀ group ∈ n.groups, ∀ k, groupCondition e group k ≠ .error .noCriteria := by
  intro bound
  have hgroups := MethodName.groups_ne_nil_of_parse h
  refine ⟨?_, fun err => compileFor_eq_error_iff hgroups, ?_, ?_⟩
  · simp only [compileFor_eq_ok_iff]
    exact exists_compile_iff hgroups
  · intro m herr
    rcases (compileFor_eq_error_iff hgroups).1 herr with ⟨cause, hfault, heq⟩
    -- Of a report only its cause matters, which is no overflow.
    rw [← reported_injective method heq] at hfault
    exact not_overflow_of_le (Nat.le_refl _) hfault
  · intro group hgroup k
    exact groupCondition_ne_noCriteria (hgroups group hgroup) k

/-- The second group asks for one argument too many, which is reported although the region and the
sort key are wrong as well. -/
theorem compile_outcome_people :
    let name := "findByLastnameOrAgeGreaterThanAndActiveTrueOrderByHeightDesc"
    let n : MethodName := ⟨false, none,
      [[⟨"Lastname", .equals, .never⟩],
        [⟨"Age", .greaterThan, .never⟩, ⟨"Active", .isTrue, .never⟩]],
      [⟨"Height", .descending⟩]⟩
    let e : Entity := ⟨"Peo ple",
      [⟨"lastname", .string, false⟩, ⟨"age", .integer, false⟩, ⟨"active", .boolean, false⟩]⟩
    MethodName.parse name = .ok n ∧
      compileFor (some name) e n (some 1) .unsorted =
        .error (.inMethod name (.placeholderOverflow 1)) := by
  intro name n e
  -- The first term takes the one argument, and the second would take another.
  have hparse : MethodName.parse name = .ok n := by
    decide +kernel
  have hlastname : e.resolve? "Lastname" = some (⟨⟨"lastname", by decide⟩, []⟩, .string) := by
    decide +kernel
  have hage : e.resolve? "Age" = some (⟨⟨"age", by decide⟩, []⟩, .integer) := by
    decide +kernel
  have hfirst : TermsFit e 1 [⟨"Lastname", .equals, .never⟩] := by
    refine ⟨?_, by decide⟩
    rintro t (_ | ⟨_, ⟨⟩⟩)
    exact ⟨_, _, hlastname, by decide⟩
  have hfault : CompilationFault e n 1 (.placeholderOverflow 1) :=
    .term rfl hfirst (.overflow ⟨_, _, hage, by decide⟩ (by decide))
  exact ⟨hparse, ((compile_outcome hparse e (some name) (some 1) .unsorted).2.1 _).2
    ⟨_, hfault, rfl⟩⟩

end Compilation

end DerivedQuery
