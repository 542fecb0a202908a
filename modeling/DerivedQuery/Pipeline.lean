import DerivedQuery.Executor
import DerivedQuery.Hook
import DerivedQuery.Paging.PagedView
import DerivedQuery.Rewriter

/-!
# Calls of query methods

A pipeline takes the arguments of a call to rows: the query is created, rewritten, shown to hooks
and executed.

* `Call`: how a method is called.
* `Pipeline.prepare`: the statement and its arguments.
* `Pipeline.execute`: the rows.
* `Pipeline.executePaged`: the rows with a page to look at them through.
-/

namespace DerivedQuery

/-- How a method is called: sorted, and paged if a page is given. -/
structure Call where
  order : SortOrder
  page : Option PageRequest
deriving DecidableEq

/-- The sort of the call, then that of its page. -/
def Call.dynamicOrder (call : Call) : SortOrder :=
  match call.page with
  | some p => call.order.and p.order
  | none => call.order

/-- A statement with the arguments bound to its placeholders. -/
structure PreparedCall where
  query : BoundStatement
  arguments : List Json

/-- A method and what happens to its queries. -/
structure Pipeline (α : Type) where
  method : Method
  executors : List (Executor α)
  rewriters : RewriterChain
  hooks : List Hook

namespace Pipeline

/-- What is logged of a prepared query. -/
def preparedEvent (m : Method) (s : Statement) (arguments : List Json) : Event :=
  if m.options.trace then .preparedTraced m.name s.text
  else .prepared m.name s.text arguments.length

/-- The statement after the rewriters, which must not leave it blank. -/
def rewritten (q : Pipeline α) (s : Statement) (arguments : List Json) :
    Except QueryError Statement :=
  if q.rewriters.parts.isEmpty then .ok s
  else (Statement.ofText (q.rewriters.apply q.method s.text arguments)).mapError
    (·.within q.method.name)

/-- The statement and the arguments of a call. -/
def prepare (q : Pipeline α) (arguments : List Json) (call : Call) : Run PreparedCall := do
  let c ← q.method.queryNoted call.dynamicOrder
  let bound := c.bindArguments arguments
  let s ← Run.ofExcept (q.rewritten c.statement bound)
  Run.note [.event (preparedEvent q.method s bound)]
  return ⟨⟨s, some q.method.options⟩, bound⟩

/-- What hooks are shown of a prepared query. -/
def context (q : Pipeline α) (p : PreparedCall) : QueryContext where
  method := q.method.name
  region := q.method.entity.region
  text := p.query.statement.text
  parameterCount := p.arguments.length
  trace := q.method.options.trace
  fields := []

/-- The statement that hooks leave of the one in a context. -/
def hooked (q : Pipeline α) (c : QueryContext) : Run Statement := do
  match ← ExceptT.lift ((Hook.group q.hooks).before c) with
  | .proceed => return ⟨c.text⟩
  | .rewrite text => Run.ofExcept (Statement.ofText text)
  | .abort reason => throw (.aborted reason)

/-- Executes a statement and shows hooks how that ended. -/
def observed (q : Pipeline α) (c : QueryContext) (arguments : List Json) : Run (List α) :=
  ExceptT.mk do
    let bound : BoundStatement := ⟨⟨c.text⟩, some q.method.options⟩
    let r ← ((Executor.chain q.executors).run q.method bound arguments).run
    Journaled.noting ((Hook.group q.hooks).after c (Outcome.ofResult r)) r

/-- The rows of a call. -/
def execute (q : Pipeline α) (arguments : List Json) (call : Call) : Run (List α) := do
  let p ← q.prepare arguments call
  let c := q.context p
  let s ← q.hooked c
  q.observed { c with text := s.text } p.arguments

/-- The rows of a call and the page to look at them through; the call must ask for one. -/
def executePaged (q : Pipeline α) (arguments : List Json) (call : Call) :
    Run (ViewStore α) := do
  let some page := call.page | throw (.invalidRequest (.unpagedCall q.method.name))
  let rows ← q.execute arguments call
  return ViewStore.ofSource (fun _ => rows) page

/-- The pipeline in diagnostic output. -/
def description (q : Pipeline α) : String :=
  "RepositoryQuery \x7b method: " ++ Text.quoted q.method.name ++
    s!", executors: {q.executors.length}, post_processors: {q.rewriters.parts.length}, " ++
    s!"hooks: {q.hooks.length} \x7d"

end Pipeline

end DerivedQuery
