import DerivedQuery.Json
import DerivedQuery.QueryError
import DerivedQuery.Text.Quoted
import DerivedQuery.Text.Truncation

/-!
# What happens around a query

Running a query leaves notes behind: log events, and the calls of executors and observers.

* `QueryContext`, `Outcome`: what hooks are shown before and after a query.
* `Event`: what is logged, with its level, its fields and its message.
* `Note`: one entry of the journal.
* `Journaled`, `Run`: a result with the notes that were made on the way to it, and one that may
  also be an error.
-/

namespace DerivedQuery

/-! ## What hooks are shown -/

/-- A query on its way to execution. -/
structure QueryContext where
  method : String
  region : String
  text : String
  parameterCount : Nat
  trace : Bool
  /-- Further entries, in the order of their keys. -/
  fields : List (String × String)
deriving DecidableEq, Repr

/-- The entries with one more; an entry under the same key is replaced. -/
def insertField (key value : String) : List (String × String) → List (String × String)
  | [] => [(key, value)]
  | (k, v) :: fields =>
    if key < k then (key, value) :: (k, v) :: fields
    else if key = k then (key, value) :: fields
    else (k, v) :: insertField key value fields

/-- The context with one more entry. -/
def QueryContext.withField (c : QueryContext) (key value : String) : QueryContext :=
  { c with fields := insertField key value c.fields }

/-- How a query ended. -/
inductive Outcome where
  | rows (count : Nat)
  | failed (message : String)
deriving DecidableEq, Repr

namespace Outcome

/-- The number of bytes of an error message that are kept. -/
def messageBytes : Nat := 512

/-- The outcome for an error message, which is abridged if it is long. -/
def ofMessage (message : String) : Outcome :=
  .failed (Text.abridge messageBytes message)

def text : Outcome → String
  | rows count => s!"{count} rows"
  | failed message => s!"error: {message}"

/-- The outcome of a query that gives rows or an error. -/
def ofResult : Except QueryError (List α) → Outcome
  | .ok found => .rows found.length
  | .error e => ofMessage e.message

end Outcome

/-! ## Log events -/

/-- Levels of log events, the gravest first. -/
inductive Level where
  | error
  | warn
  | info
  | debug
  | trace
deriving DecidableEq, Repr

namespace Level

/-- How much is logged at a level: the graver, the less. -/
def verbosity : Level → Nat
  | error => 0
  | warn => 1
  | info => 2
  | debug => 3
  | trace => 4

def text : Level → String
  | error => "ERROR"
  | warn => "WARN"
  | info => "INFO"
  | debug => "DEBUG"
  | trace => "TRACE"

end Level

/-- What is logged. -/
inductive Event where
  /-- A query was derived from a method name. -/
  | derived (method : Option String) (placeholders : Nat) (query : String)
  | registered (method region : String) (explicit : Bool)
  | prepared (method query : String) (parameterCount : Nat)
  /-- A query of a traced method was prepared. -/
  | preparedTraced (method query : String)
  /-- An executor left the query to the next one. -/
  | declined (method : String) (position : Nat)
  /-- A query is about to be executed; its text may be abridged. -/
  | executing (level : Level) (context : QueryContext) (query : String)
  | completed (method : String) (rows : Nat)
  | failed (method message : String)
deriving DecidableEq, Repr

/-- The entries of a context as one text. -/
def showFields (fields : List (String × String)) : String :=
  "\x7b" ++ ", ".intercalate (fields.map fun (k, v) => Text.quoted k ++ ": " ++ Text.quoted v) ++
    "\x7d"

namespace Event

def level : Event → Level
  | derived .. | registered .. | prepared .. | completed .. => .debug
  | preparedTraced .. => .info
  | declined .. => .trace
  | executing level .. => level
  | failed .. => .warn

/-- The fields of an event; its message, if it has one, is a field too. -/
def fields : Event → List (String × Json)
  | derived method placeholders query =>
    [("message", .str "compiled derived query"), ("method", .str (method.getD "-")),
      ("placeholders", .int placeholders), ("oql", .str query)]
  | registered method region explicit =>
    [("message", .str "registered query method"), ("method", .str method),
      ("region", .str region), ("explicit", .bool explicit)]
  | prepared method query parameterCount =>
    [("message", .str "prepared query"), ("method", .str method), ("oql", .str query),
      ("param_count", .int parameterCount)]
  | preparedTraced method query =>
    [("message", .str "prepared traced query"), ("method", .str method), ("oql", .str query)]
  | declined method position =>
    [("message", .str "executor declined query"), ("method", .str method),
      ("position", .int position)]
  | executing _ context query =>
    [("method", .str context.method), ("region", .str context.region),
      ("param_count", .int context.parameterCount), ("trace", .bool context.trace),
      ("oql", .str query), ("fields", .str (showFields context.fields))]
  | completed method rows =>
    [("message", .str "query completed"), ("method", .str method), ("rows", .int rows)]
  | failed method message =>
    [("message", .str "query failed"), ("method", .str method), ("error", .str message)]

end Event

/-! ## The journal -/

/-- One entry of the journal. -/
inductive Note where
  | event (e : Event)
  /-- The executor at `path` was called. -/
  | called (path : List Nat) (query : String) (arguments : List Json)
  /-- An observer was shown a query. -/
  | before (tag : String) (context : QueryContext)
  /-- An observer was shown how a query ended. -/
  | after (tag : String) (query : String) (outcome : Outcome)

/-- A result and the notes made on the way to it, the earliest first. -/
structure Journaled (α : Type) where
  result : α
  notes : List Note

instance : Monad Journaled where
  pure a := ⟨a, []⟩
  bind x f :=
    let y := f x.result
    ⟨y.result, x.notes ++ y.notes⟩

namespace Journaled

/-- A result with some notes. -/
def noting (notes : List Note) (a : α) : Journaled α :=
  ⟨a, notes⟩

@[simp] theorem result_pure (a : α) : (pure a : Journaled α).result = a := rfl

@[simp] theorem notes_pure (a : α) : (pure a : Journaled α).notes = [] := rfl

@[simp] theorem result_bind (x : Journaled α) (f : α → Journaled β) :
    (x >>= f).result = (f x.result).result := rfl

@[simp] theorem notes_bind (x : Journaled α) (f : α → Journaled β) :
    (x >>= f).notes = x.notes ++ (f x.result).notes := rfl

@[ext] theorem ext {x y : Journaled α} (hr : x.result = y.result) (hn : x.notes = y.notes) :
    x = y := by
  cases x
  cases y
  cases hr
  cases hn
  rfl

instance : LawfulMonad Journaled :=
  LawfulMonad.mk' Journaled
    (fun x => ext rfl (List.append_nil x.notes))
    (fun _ _ => ext rfl rfl)
    (fun x f g => ext rfl (List.append_assoc x.notes _ _))

end Journaled

/-- A computation that makes notes and may fail; what was noted before a failure is kept. -/
abbrev Run := ExceptT QueryError Journaled

namespace Run

/-- Makes some notes. -/
def note (notes : List Note) : Run Unit :=
  ExceptT.lift (Journaled.noting notes ())

/-- A result or an error, without notes. -/
def ofExcept (r : Except QueryError α) : Run α :=
  ExceptT.mk (pure r)

end Run

end DerivedQuery
