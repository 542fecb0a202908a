import DerivedQuery.Method
import DerivedQuery.Proofs.Compilation.Steps

/-!
# Registering a query method

Everything about a query method that can be wrong is found when it is made. The query of a call is
compiled with the order of the call, but no step of the compilation that can fail looks at it.

* `IsDeclarationFault`: the errors that a declaration can be refused with.
* `compile_any_order`: a name that compiles with one order compiles with every order.
* `make_eq_ok_iff`, `errors_make`: when a method is made, and how it is refused.
* `result_register`: what is logged on the way does not matter for that.
* `make_sound`: a method that was made never fails to give its query.
-/

namespace DerivedQuery

/-! ## Faults of a declaration -/

/-- The errors that a declaration can be refused with: what it says cannot be used, or a value was
refused. None of them is tagged with a method. -/
def QueryError.IsDeclarationFault (e : QueryError) : Prop :=
  e.method? = none ∧ (e.isValidation = true ∨ e.isConfiguration = true)

namespace QueryError

theorem isDeclarationFault_invalidName (name : String) (fault : NameFault) :
    (invalidName name fault).IsDeclarationFault :=
  ⟨rfl, .inr rfl⟩

theorem isDeclarationFault_invalidRequest (fault : RequestFault) :
    (invalidRequest fault).IsDeclarationFault :=
  ⟨rfl, .inl rfl⟩

/-- A fault is tagged with the method it is found in. -/
theorem IsDeclarationFault.within {e : QueryError} (h : e.IsDeclarationFault) (name : String) :
    e.within name = inMethod name e := by
  cases e with
  | inMethod method cause => cases h.1
  | _ => rfl

end QueryError

open QueryError

/-! ## Errors of a compilation -/

/-- A property is refused with a fault of the declaration. -/
theorem Entity.errors_resolve (e : Entity) (written : String) :
    ErrorsAre IsDeclarationFault (e.resolve written) := by
  unfold Entity.resolve
  split
  · exact .ok _
  · exact .error ⟨rfl, .inr rfl⟩

theorem Criterion.errors_make (path : PropertyPath) (kind : PropertyKind) (op : Operator)
    (ignoreCase : Bool) : ErrorsAre IsDeclarationFault (Criterion.make path kind op ignoreCase) := by
  unfold Criterion.make
  split
  · exact .ok _
  · exact .error ⟨rfl, .inr rfl⟩

theorem Criterion.errors_resolve (e : Entity) (written : String) (op : Operator)
    (mode : CaseMode) : ErrorsAre IsDeclarationFault (Criterion.resolve e written op mode) :=
  (e.errors_resolve written).bind fun (path, kind) => Criterion.errors_make path kind op _

/-- Too many placeholders are a fault of the declaration. -/
theorem Numbering.errors_take (n : Numbering) (count : Nat) :
    ErrorsAre IsDeclarationFault (n.take count).1 := by
  by_cases hcount : count = 0
  · rw [hcount]
    exact .ok []
  · by_cases hle : n.issued + count ≤ n.max
    · rw [take_of_le hle]
      exact .ok _
    · rw [take_of_lt hcount (Nat.lt_of_not_le hle)]
      exact .error ⟨rfl, .inr rfl⟩

namespace Compilation

/-- A term is refused for its property, for its test or for its placeholders. -/
theorem errors_termCondition (e : Entity) (t : Term) (n : Numbering) :
    ErrorsAre IsDeclarationFault (termCondition e t n) := by
  refine (Criterion.errors_resolve e t.property t.operator t.mode).bind ?_
  intro criterion
  have htake := n.errors_take criterion.arity
  unfold Condition.ofCriterion
  cases hn : n.take criterion.arity with
  | mk taken k =>
    rw [hn] at htake
    cases taken with
    | ok is => exact .ok _
    | error err => exact .error (htake err rfl)

theorem errors_combine {α : Type}
    {make : α → Numbering → Except QueryError (Condition × Numbering)}
    (hmake : ∀ a n, ErrorsAre IsDeclarationFault (make a n))
    (join : Condition → Condition → Condition) (as : List α) (n : Numbering) :
    ErrorsAre IsDeclarationFault (combine make join as n) := by
  cases as with
  | nil => exact .error ⟨rfl, .inr rfl⟩
  | cons a as =>
    refine (hmake a n).bind ?_
    intro made
    apply ErrorsAre.foldlM
    -- Each step of the fold makes one more condition, from whatever has been joined.
    rintro ⟨c, k⟩ b
    exact (hmake b k).bind fun _ => .pure _

/-- Groups and terms are combined in the same way. -/
theorem errors_condition (e : Entity) (name : MethodName) (n : Numbering) :
    ErrorsAre IsDeclarationFault (condition e name n) :=
  errors_combine (errors_combine (errors_termCondition e) .and) .or name.groups n

theorem errors_staticOrder (e : Entity) (name : MethodName) :
    ErrorsAre IsDeclarationFault (staticOrder e name) := by
  refine ErrorsAre.bind (ErrorsAre.mapM ?_ name.order) fun _ => .pure _
  intro o
  exact (e.errors_resolve o.property).bind fun _ => .pure _

/-- A statement is refused for its region or for its sort keys. -/
theorem errors_statement (e : Entity) (name : MethodName) (c : Option Condition)
    (order : SortOrder) : ErrorsAre IsDeclarationFault (statement e name c order) := by
  unfold statement
  have hregion : ErrorsAre IsDeclarationFault (RegionName.parse e.region) :=
    .mapError fun cause _ => isDeclarationFault_invalidRequest cause
  have hselection : ErrorsAre IsDeclarationFault (Selection.ofEntity e name.distinct) :=
    hregion.bind fun _ => .pure _
  refine hselection.bind ?_
  intro selection
  refine (errors_staticOrder e name).bind ?_
  intro keys
  exact .pure _

/-- Every step of a compilation that fails reports a fault of the declaration. -/
theorem errors_compile (e : Entity) (name : MethodName) (max : Option Nat) (order : SortOrder) :
    ErrorsAre IsDeclarationFault (compile e name max order) := by
  unfold compile
  cases name.isEmpty with
  | true => exact .error ⟨rfl, .inr rfl⟩
  | false =>
    exact (errors_condition e name _).bind fun _ =>
      (errors_statement e name _ order).bind fun _ => .pure _

/-- A name that compiles with one order compiles with every order. -/
theorem compile_any_order {e : Entity} {n : MethodName} {max : Option Nat} {order : SortOrder}
    {c : Compiled} (h : compile e n max order = .ok c) (order' : SortOrder) :
    ∃ c', compile e n max order' = .ok c' := by
  rcases compile_eq_ok_iff.1 h with ⟨hname, w, m, hcondition, region, keys, hregion, hkeys, -⟩
  exact ⟨_, compile_eq_ok_iff.2 ⟨hname, w, m, hcondition, region, keys, hregion, hkeys, rfl⟩⟩

end Compilation

/-! ## Registration -/

namespace Run

/-- The result of two steps, apart from their notes. -/
theorem result_bind {α β : Type} (x : Run α) (f : α → Run β) :
    (x >>= f).run.result = x.run.result >>= fun a => (f a).run.result := by
  rw [ExceptT.run_bind, Journaled.result_bind]
  cases x.run.result <;> rfl

@[simp] theorem result_ofExcept {α : Type} (r : Except QueryError α) :
    (ofExcept r).run.result = r :=
  rfl

end Run

namespace Method

/-- A query that is given may only be refused for being blank. -/
theorem errors_ofText (text : String) : ErrorsAre IsDeclarationFault (Statement.ofText text) := by
  unfold Statement.ofText
  split
  · exact .error (isDeclarationFault_invalidRequest _)
  · exact .ok _

theorem errors_parse (name : String) : ErrorsAre IsDeclarationFault (MethodName.parse name) :=
  .mapError fun fault _ => isDeclarationFault_invalidName name fault

variable {name : String} {parameterCount : Nat} {e : Entity} {options : Options}

/-- A refusal: a fault that is tagged with the method, and tagged once. -/
def IsRefusal (name : String) (err : QueryError) : Prop :=
  ∃ cause : QueryError, cause.IsDeclarationFault ∧ err = .inMethod name cause

theorem isRefusal_within {cause : QueryError} (h : cause.IsDeclarationFault) :
    IsRefusal name (cause.within name) :=
  ⟨cause, h, h.within name⟩

/-- A derived query is refused in the name of its method. -/
theorem errors_derive (name : String) (parameterCount : Nat) (e : Entity) (n : MethodName)
    (order : SortOrder) : ErrorsAre (IsRefusal name) (derive name parameterCount e n order) :=
  .mapError fun cause h => isRefusal_within (Compilation.errors_compile e n _ order cause h)

theorem errors_findOrigin (name : String) (parameterCount : Nat) (e : Entity)
    (options : Options) :
    ErrorsAre (IsRefusal name) (findOrigin name parameterCount e options) := by
  unfold findOrigin
  cases options.query with
  | some text =>
    have htext : ErrorsAre (IsRefusal name)
        ((Statement.ofText text).mapError (·.within name)) :=
      .mapError fun cause h => isRefusal_within (errors_ofText text cause h)
    exact htext.map
  | none =>
    have hparse : ErrorsAre (IsRefusal name)
        ((MethodName.parse name).mapError (·.within name)) :=
      .mapError fun cause h => isRefusal_within (errors_parse name cause h)
    exact hparse.bind fun n => (errors_derive name parameterCount e n _).bind fun _ => .pure _

/-- A method that is not made is refused, for its limit or for what it is made of. -/
theorem errors_make (name : String) (parameterCount : Nat) (e : Entity) (options : Options) :
    ErrorsAre (IsRefusal name) (make name parameterCount e options) := by
  unfold make
  by_cases hlimit : options.limit = some 0
  · rw [if_pos hlimit]
    exact .error (isRefusal_within (isDeclarationFault_invalidRequest _))
  · rw [if_neg hlimit]
    exact (errors_findOrigin name parameterCount e options).bind fun _ => .pure _

/-- A method is made when its limit is not zero and its query has an origin. -/
theorem make_eq_ok_iff {m : Method} :
    make name parameterCount e options = .ok m ↔
      options.limit ≠ some 0 ∧ ∃ origin, findOrigin name parameterCount e options = .ok origin ∧
        ⟨name, parameterCount, e, options, origin⟩ = m := by
  unfold make
  by_cases hlimit : options.limit = some 0
  · simp [hlimit, bind, Except.bind, throw, throwThe, MonadExceptOf.throw]
  · simp only [hlimit, if_false, bind_eq_ok_iff, pure_eq_ok_iff, ne_eq, not_false_eq_true,
      true_and]

/-- Without a query among the options, the origin is the name, which has to compile. -/
theorem findOrigin_eq_ok_iff (hquery : options.query = none) {origin : QueryOrigin} :
    findOrigin name parameterCount e options = .ok origin ↔
      ∃ n, MethodName.parse name = .ok n ∧
        (∃ c, Compilation.compile e n (some parameterCount) .unsorted = .ok c) ∧
          .derived n = origin := by
  simp only [findOrigin, hquery, bind_eq_ok_iff, pure_eq_ok_iff, mapError_eq_ok_iff, derive,
    Compilation.compileFor_eq_ok_iff]
  constructor
  · rintro ⟨n, hn, c, hc, rfl⟩
    exact ⟨n, hn, ⟨c, hc⟩, rfl⟩
  · rintro ⟨n, hn, ⟨c, hc⟩, rfl⟩
    exact ⟨n, hn, c, hc, rfl⟩

/-- A query among the options is the origin, unless it is blank. -/
theorem findOrigin_some_eq_ok_iff {text : String} (hquery : options.query = some text)
    {origin : QueryOrigin} :
    findOrigin name parameterCount e options = .ok origin ↔
      ∃ statement, Statement.ofText text = .ok statement ∧ .explicit statement = origin := by
  simp only [findOrigin, hquery]
  cases htext : Statement.ofText text with
  | error err =>
    constructor
    · intro h
      cases h
    · rintro ⟨statement, h, -⟩
      cases h
  | ok statement =>
    constructor
    · intro h
      cases h
      exact ⟨statement, rfl, rfl⟩
    · rintro ⟨_, h, rfl⟩
      cases h
      rfl

/-- A method that is derived from its name was made of a name that can be parsed and compiles. -/
theorem derived_of_make {m : Method} {n : MethodName}
    (h : make name parameterCount e options = .ok m) (hn : m.parsedName? = some n) :
    m = ⟨name, parameterCount, e, options, .derived n⟩ ∧ options.limit ≠ some 0 ∧
      MethodName.parse name = .ok n ∧
      ∃ c, Compilation.compile e n (some parameterCount) .unsorted = .ok c := by
  rcases make_eq_ok_iff.1 h with ⟨hlimit, origin, horigin, rfl⟩
  cases hquery : options.query with
  | some text =>
    -- The origin would be the text that was given.
    rcases (findOrigin_some_eq_ok_iff hquery).1 horigin with ⟨statement, -, rfl⟩
    cases hn
  | none =>
    rcases (findOrigin_eq_ok_iff hquery).1 horigin with ⟨n', hparse, hcompile, rfl⟩
    cases hn
    exact ⟨rfl, hlimit, hparse, hcompile⟩

/-- Whatever the order of a call is, a method that was made gives its query. -/
theorem plainQuery_of_make {m : Method} (h : make name parameterCount e options = .ok m)
    (order : SortOrder) : ∃ c, m.plainQuery order = .ok c := by
  rcases make_eq_ok_iff.1 h with ⟨-, origin, horigin, rfl⟩
  cases hquery : options.query with
  | some text =>
    -- A query that was given is kept as it is, and the order is not compiled into it.
    simp only [findOrigin, hquery] at horigin
    cases htext : Statement.ofText text with
    | error err =>
      rw [htext] at horigin
      cases horigin
    | ok statement =>
      rw [htext] at horigin
      cases horigin
      exact ⟨_, rfl⟩
  | none =>
    -- The name compiled without an order when the method was made.
    rcases (findOrigin_eq_ok_iff hquery).1 horigin with ⟨n, -, ⟨c, hc⟩, rfl⟩
    rcases Compilation.compile_any_order hc order with ⟨c', hc'⟩
    exact ⟨c', mapError_eq_ok_iff.2 hc'⟩

/-- What is logged decides neither whether a method is registered nor what is registered. -/
theorem result_register :
    (register name parameterCount e options).run.result = make name parameterCount e options := by
  unfold register
  simp only [Run.result_bind, Run.result_ofExcept]
  cases hmake : make name parameterCount e options with
  | error err => rfl
  | ok m =>
    -- The query that is logged is compiled once more, which cannot fail.
    rcases plainQuery_of_make hmake .unsorted with ⟨c, hc⟩
    rw [ok_bind]
    cases m.isExplicit with
    | true => rfl
    | false =>
      simp only [Bool.not_false, if_true, Run.result_bind, Run.result_ofExcept, hc]
      rfl

/-- Registration finds everything that can be wrong with a query method. A method that was made
gives its query in every order; a refusal is tagged with the name, once, and its cause is a refused
value or a fault of the declaration. A method without a query among its options is made just when
its name can be read and compiles, in some order or in every order. -/
theorem make_sound (name : String) (parameterCount : Nat) (e : Entity) (options : Options) :
    (∀ m, make name parameterCount e options = .ok m →
      ∀ order, ∃ c, m.createQuery order = .ok c) ∧
    (∀ err, make name parameterCount e options = .error err →
      ∃ cause : QueryError, err = .inMethod name cause ∧ cause.method? = none ∧
        (err.isValidation = true ∨ err.isConfiguration = true)) ∧
    (options.query = none → options.limit ≠ some 0 →
      ((∃ m, make name parameterCount e options = .ok m) ↔
        ∃ n, MethodName.parse name = .ok n ∧
          ∃ order c, Compilation.compile e n (some parameterCount) order = .ok c) ∧
      ((∃ m, make name parameterCount e options = .ok m) ↔
        ∃ n, MethodName.parse name = .ok n ∧
          ∀ order, ∃ c, Compilation.compile e n (some parameterCount) order = .ok c)) := by
  refine ⟨?_, ?_, ?_⟩
  · intro m hm order
    rcases plainQuery_of_make hm order with ⟨c, hc⟩
    exact ⟨_, bind_eq_ok_iff.2 ⟨c, hc, rfl⟩⟩
  · intro err herr
    rcases errors_make name parameterCount e options err herr with ⟨cause, hcause, rfl⟩
    exact ⟨cause, rfl, hcause.1, hcause.2⟩
  · intro hquery hlimit
    -- It is made when the name compiles without an order, and then with every other one.
    have hmake : (∃ m, make name parameterCount e options = .ok m) ↔
        ∃ n, MethodName.parse name = .ok n ∧
          ∃ c, Compilation.compile e n (some parameterCount) .unsorted = .ok c := by
      simp only [make_eq_ok_iff, findOrigin_eq_ok_iff hquery]
      constructor
      · rintro ⟨_, -, _, ⟨n, hn, hc, rfl⟩, rfl⟩
        exact ⟨n, hn, hc⟩
      · rintro ⟨n, hn, hc⟩
        exact ⟨_, hlimit, _, ⟨n, hn, hc, rfl⟩, rfl⟩
    constructor
    · rw [hmake]
      constructor
      · rintro ⟨n, hn, c, hc⟩
        exact ⟨n, hn, .unsorted, c, hc⟩
      · rintro ⟨n, hn, order, c, hc⟩
        exact ⟨n, hn, Compilation.compile_any_order hc .unsorted⟩
    · rw [hmake]
      constructor
      · rintro ⟨n, hn, c, hc⟩
        exact ⟨n, hn, Compilation.compile_any_order hc⟩
      · rintro ⟨n, hn, hc⟩
        exact ⟨n, hn, hc .unsorted⟩

/-- One method is made, and another one is refused for its property. -/
theorem make_sound_people :
    let e := (Entity.ofRegion "/People").declare "age" .integer
    (∃ m, make "findByAge" 1 e .none = .ok m ∧ ∀ order, ∃ c, m.createQuery order = .ok c) ∧
      (∃ n, MethodName.parse "findByAge" = .ok n ∧
        ∀ order, ∃ c, Compilation.compile e n (some 1) order = .ok c) ∧
      ∃ cause, make "findByName" 1 e .none = .error (.inMethod "findByName" cause) := by
  intro e
  obtain ⟨m, hm⟩ : ∃ m, make "findByAge" 1 e .none = .ok m :=
    exists_ok_of_isOk (by decide)
  obtain ⟨err, herr⟩ : ∃ err, make "findByName" 1 e .none = .error err :=
    exists_error_of_isOk (by decide)
  rcases make_sound "findByAge" 1 e .none with ⟨hquery, -, hderived⟩
  rcases make_sound "findByName" 1 e .none with ⟨-, hrefusal, -⟩
  refine ⟨⟨m, hm, hquery m hm⟩, ?_, ?_⟩
  · exact (hderived rfl (by decide)).2.1 ⟨m, hm⟩
  · rcases hrefusal err herr with ⟨cause, rfl, -⟩
    exact ⟨cause, herr⟩

end Method

end DerivedQuery
