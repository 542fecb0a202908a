import DerivedQuery.MethodName
import DerivedQuery.Selection
import DerivedQuery.Statement.Extension

/-!
# From names to statements

* `condition`: the criteria of a name as one condition, their placeholders numbered in the order of
  the name.
* `staticOrder`: the sort keys of a name.
* `compile`, `compileFor`: the whole statement, and how arguments are bound to it; in the second the
  errors name the method.
-/

namespace DerivedQuery

/-- A statement and its placeholders. -/
structure Compiled where
  statement : Statement
  bindings : List Binding
deriving DecidableEq, Repr

/-- The arguments as they are bound: each is completed to the pattern of its placeholder, and one
without a placeholder stays as it is. -/
def Compiled.bindArguments (c : Compiled) (arguments : List Json) : List Json :=
  arguments.zipIdx.map fun (a, i) =>
    match c.bindings.find? fun b => b.index = i + 1 with
    | some b => b.pattern.apply a
    | none => a

namespace Compilation

/-- A term as a condition, with the next placeholders. -/
def termCondition (e : Entity) (t : Term) (n : Numbering) :
    Except QueryError (Condition × Numbering) := do
  let c ← Criterion.resolve e t.property t.operator t.mode
  match Condition.ofCriterion c n with
  | (.ok c, n) => return (c, n)
  | (.error e, _) => throw e

/-- The conditions of a list, combined from the left. `make` numbers the placeholders of one. -/
def combine (make : α → Numbering → Except QueryError (Condition × Numbering))
    (join : Condition → Condition → Condition) :
    List α → Numbering → Except QueryError (Condition × Numbering)
  | [], _ => throw .noCriteria
  | a :: as, n => do
    as.foldlM (fun (c, n) a => do
      let (d, n) ← make a n
      return (join c d, n)) (← make a n)

/-- The terms of a group, all of which have to hold. -/
def groupCondition (e : Entity) :
    List Term → Numbering → Except QueryError (Condition × Numbering) :=
  combine (termCondition e) .and

/-- The groups of a name, one of which has to hold. -/
def condition (e : Entity) (name : MethodName) (n : Numbering) :
    Except QueryError (Condition × Numbering) :=
  combine (groupCondition e) .or name.groups n

/-- The sort keys of a name. -/
def staticOrder (e : Entity) (name : MethodName) : Except QueryError SortOrder := do
  let keys ← name.order.mapM fun o => do
    let (path, _) ← e.resolve o.property
    return (⟨path, o.direction⟩ : SortKey)
  return ⟨keys⟩

/-- The statement for a condition, sorted as the name says and then by `order`. -/
def statement (e : Entity) (name : MethodName) (c : Option Condition) (order : SortOrder) :
    Except QueryError Statement := do
  let selection ← Selection.ofEntity e name.distinct
  let keys ← staticOrder e name
  return (selection.filtered c).orderBy (keys.and order)

/-- The statement of a name, with at most `max` placeholders; without a bound there are as many as
the criteria take. -/
def compile (e : Entity) (name : MethodName) (max : Option Nat) (order : SortOrder) :
    Except QueryError Compiled := do
  if name.isEmpty then throw .noCriteria
  let (c, _) ← condition e name (Numbering.upTo (max.getD name.parameterCount))
  return ⟨← statement e name (some c) order, c.bindings⟩

/-- The statement of a name that is compiled for the method `method`, if it has a name of its own;
an error then names the method. -/
def compileFor (method : Option String) (e : Entity) (name : MethodName) (max : Option Nat)
    (order : SortOrder) : Except QueryError Compiled :=
  match method with
  | some m => (compile e name max order).mapError (·.within m)
  | none => compile e name max order

end Compilation

end DerivedQuery
