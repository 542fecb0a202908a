import DerivedQuery.Method

/-!
# Executors

An executor hands a statement and its arguments to an engine, or declines it.

* `Executor.answer`: a chain tries its parts in order until one does not decline.
* `Executor.run`: a statement that all decline is an error.
-/

namespace DerivedQuery

/-- A statement on its way to an executor, with the options of the method it belongs to. -/
structure BoundStatement where
  statement : Statement
  options : Option Options
deriving DecidableEq, Repr

/-- What an executor answers if nothing goes wrong. -/
inductive Answer (α : Type) where
  | completed (rows : List α)
  | declined
deriving DecidableEq, Repr

/-- The rows, if there are any. -/
def Answer.rows? : Answer α → Option (List α)
  | completed rows => some rows
  | declined => none

/-- Executes statements, or declines them. -/
inductive Executor (α : Type) where
  /-- An executor of its own. -/
  | single (respond : Method → BoundStatement → List Json → Except QueryError (Answer α))
  /-- Executors that are tried in order. -/
  | chain (parts : List (Executor α))

namespace Executor

mutual

/-- What the executor at `path` answers. -/
def answer (m : Method) (s : BoundStatement) (arguments : List Json) (path : List Nat) :
    Executor α → Run (Answer α)
  | single respond => do
    Run.note [.called path s.statement.text arguments]
    Run.ofExcept (respond m s arguments)
  | chain parts => answerFrom m s arguments path 0 parts

/-- What the first executor of a list answers that does not decline; the list begins at `position`
in the chain at `path`. -/
def answerFrom (m : Method) (s : BoundStatement) (arguments : List Json) (path : List Nat)
    (position : Nat) : List (Executor α) → Run (Answer α)
  | [] => return .declined
  | e :: es => do
    match ← e.answer m s arguments (path ++ [position]) with
    | .completed rows => return .completed rows
    | .declined =>
      Run.note [.event (.declined m.name position)]
      answerFrom m s arguments path (position + 1) es

end

/-- The rows of a statement. -/
def run (e : Executor α) (m : Method) (s : BoundStatement) (arguments : List Json) :
    Run (List α) := do
  match ← e.answer m s arguments [] with
  | .completed rows => return rows
  | .declined => throw (.unsupported s.statement.text)

/-! ## Some executors -/

/-- Declines everything. -/
def declining : Executor α :=
  .single fun _ _ _ => .ok .declined

/-- Gives the same rows for every statement. -/
def giving (rows : List α) : Executor α :=
  .single fun _ _ _ => .ok (.completed rows)

/-- Gives rows for statements in which a text occurs. -/
def givingIf (text : String) (rows : List α) : Executor α :=
  .single fun _ s _ => .ok <|
    if Text.occursIn text.toList s.statement.text.toList then .completed rows else .declined

/-- Gives rows for statements whose method limits its results. -/
def givingLimited (rows : List α) : Executor α :=
  .single fun _ s _ => .ok <|
    if (s.options.bind (·.limit)).isSome then .completed rows else .declined

/-- Fails with an error. -/
def failing (e : QueryError) : Executor α :=
  .single fun _ _ _ => .error e

/-- Hands the text and the arguments to an engine, whose failures are texts. -/
def ofEngine (engine : String → List Json → Except String (List α)) : Executor α :=
  .single fun _ s arguments =>
    ((engine s.statement.text arguments).mapError .engine).map .completed

/-- A chain in diagnostic output. -/
def description (parts : List (Executor α)) : String :=
  s!"ExecutorChain \x7b executors: {parts.length} \x7d"

end Executor

end DerivedQuery
