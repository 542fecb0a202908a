import DerivedQuery.Compilation
import DerivedQuery.Journal
import DerivedQuery.Method.Options
import DerivedQuery.MethodName.Reader

/-!
# Query methods

A query method has a name, a number of parameters, an entity and options. Everything about it that
can be wrong is found when it is made.

* `Method.make`: makes a method; its query comes from its options or else from its name.
* `Method.createQuery`: the statement of one call, with the clauses that the options ask for.
* `Method.register`, `Method.queryNoted`: the same with what is logged.
-/

namespace DerivedQuery

/-- Where the query of a method comes from. -/
inductive QueryOrigin where
  | explicit (statement : Statement)
  | derived (name : MethodName)
deriving DecidableEq, Repr

/-- A query method that has been checked. -/
structure Method where
  name : String
  parameterCount : Nat
  entity : Entity
  options : Options
  origin : QueryOrigin
deriving DecidableEq, Repr

namespace Method

/-- The compiled query of a name; an error names the method. -/
def derive (name : String) (parameterCount : Nat) (e : Entity) (n : MethodName)
    (order : SortOrder) : Except QueryError Compiled :=
  Compilation.compileFor (some name) e n (some parameterCount) order

/-- The origin of a method's query. A derived query is compiled once, to find what is wrong with
it. -/
def findOrigin (name : String) (parameterCount : Nat) (e : Entity) (options : Options) :
    Except QueryError QueryOrigin :=
  match options.query with
  | some text => ((Statement.ofText text).mapError (·.within name)).map .explicit
  | none => do
    let n ← (MethodName.parse name).mapError (·.within name)
    let _ ← derive name parameterCount e n .unsorted
    return .derived n

/-- Makes a method. A limit among the options must be positive. -/
def make (name : String) (parameterCount : Nat) (e : Entity) (options : Options) :
    Except QueryError Method := do
  if options.limit = some 0 then throw ((QueryError.invalidRequest .zeroLimit).within name)
  return ⟨name, parameterCount, e, options, ← findOrigin name parameterCount e options⟩

/-- The parsed name, if the query is derived from it. -/
def parsedName? (m : Method) : Option MethodName :=
  match m.origin with
  | .derived n => some n
  | .explicit _ => none

/-- The query comes from the options. -/
def isExplicit (m : Method) : Bool :=
  m.parsedName?.isNone

/-- The number of results at most; the options prevail over the name. -/
def limit? (m : Method) : Option Nat :=
  m.options.limit.or (m.parsedName?.bind (·.limit))

/-- The query of a call without the clauses that the options ask for. -/
def plainQuery (m : Method) (order : SortOrder) : Except QueryError Compiled :=
  match m.origin with
  | .explicit statement => .ok ⟨statement.orderBy order, []⟩
  | .derived n => derive m.name m.parameterCount m.entity n order

/-- A statement with the clauses that the options and the limit ask for. -/
def extend (m : Method) (s : Statement) : Statement :=
  let o := m.options
  let s := if o.distinct then s.withDistinct else s
  let s := match o.importing with
    | some statement => if o.hasImport then s.withImport statement else s
    | none => s
  let s := if o.hasHints then s.withHints o.hints else s
  let s := match m.limit? with
    | some n => s.withLimit n
    | none => s
  if o.trace then s.withTrace else s

/-- The query of a call. -/
def createQuery (m : Method) (order : SortOrder) : Except QueryError Compiled := do
  let c ← m.plainQuery order
  return { c with statement := m.extend c.statement }

/-! ## With what is logged -/

/-- What is logged of a query that was compiled from a name. -/
def derivedEvent (method : Option String) (c : Compiled) : Note :=
  .event (.derived method c.bindings.length c.statement.text)

/-- What is logged of a query before its clauses are added: nothing, unless it is derived. -/
def plainNotes (m : Method) (c : Compiled) : List Note :=
  if m.isExplicit then [] else [derivedEvent (some m.name) c]

/-- The query of a call. -/
def queryNoted (m : Method) (order : SortOrder) : Run Compiled := do
  let c ← Run.ofExcept (m.plainQuery order)
  Run.note (m.plainNotes c)
  return { c with statement := m.extend c.statement }

/-- Makes a method. -/
def register (name : String) (parameterCount : Nat) (e : Entity) (options : Options) :
    Run Method := do
  let m ← Run.ofExcept (make name parameterCount e options)
  if !m.isExplicit then
    Run.note (m.plainNotes (← Run.ofExcept (m.plainQuery .unsorted)))
  Run.note [.event (.registered name e.region m.isExplicit)]
  return m

end Method

end DerivedQuery
