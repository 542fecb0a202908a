import DerivedQuery.Journal
import DerivedQuery.Text.Slice

/-!
# Hooks

A hook is shown a query before it is executed, and may change or stop it, and is shown how it ended.

* `Hook`: one hook, or several that act as one.
* `Hook.before`: each hook of a group sees the text that the earlier ones left; the first that
  aborts ends the group's turn.
* `Hook.after`: every hook is shown the outcome.
* `Hook.logging`: logs queries before and after their execution.
-/

namespace DerivedQuery

/-- What a hook wants to be done with a query. -/
inductive Verdict where
  | proceed
  | rewrite (query : String)
  | abort (reason : String)
deriving DecidableEq, Repr

/-- Acts around the execution of queries. -/
inductive Hook where
  /-- A hook of its own: what it does, and what is noted of that. -/
  | single (before : QueryContext → Journaled Verdict)
      (after : QueryContext → Outcome → List Note)
  /-- Hooks that act as one, in order. -/
  | group (hooks : List Hook)

namespace Hook

/-- The verdict of a group that was given the text `given` and leaves `final`. -/
def groupVerdict (given final : String) : Verdict :=
  if final = given then .proceed else .rewrite final

mutual

/-- What the hook does before a query. -/
def before : Hook → QueryContext → Journaled Verdict
  | single act _, c => act c
  | group hooks, c => do
    match ← beforeAll hooks c with
    | .ok final => return groupVerdict c.text final
    | .error reason => return .abort reason

/-- The text that hooks leave, or the reason of the first that aborts. -/
def beforeAll : List Hook → QueryContext → Journaled (Except String String)
  | [], c => pure (.ok c.text)
  | h :: hs, c => do
    match ← h.before c with
    | .proceed => beforeAll hs c
    | .rewrite query => beforeAll hs { c with text := query }
    | .abort reason => return .error reason

end

mutual

/-- What is noted when the hook is shown how a query ended. -/
def after (c : QueryContext) (o : Outcome) : Hook → List Note
  | single _ notes => notes c o
  | group hooks => afterAll c o hooks

def afterAll (c : QueryContext) (o : Outcome) : List Hook → List Note
  | [] => []
  | h :: hs => h.after c o ++ afterAll c o hs

end

/-! ## Some hooks -/

/-- A hook that acts before a query and notes nothing. -/
def acting (act : QueryContext → Verdict) : Hook :=
  .single (fun c => pure (act c)) fun _ _ => []

/-- Does nothing. -/
def idle : Hook :=
  acting fun _ => .proceed

/-- Puts a text behind the query. -/
def append (text : String) : Hook :=
  acting fun c => .rewrite (c.text ++ text)

/-- Replaces every occurrence of a text. -/
def replace (old new : String) : Hook :=
  acting fun c => .rewrite (Text.replaceAll old new c.text)

/-- Puts another text in place of the query. -/
def constant (text : String) : Hook :=
  acting fun _ => .rewrite text

/-- Stops every query. -/
def refuse (reason : String) : Hook :=
  acting fun _ => .abort reason

/-- Stops queries in which a text does not occur. -/
def require (text reason : String) : Hook :=
  acting fun c => if Text.occursIn text.toList c.text.toList then .proceed else .abort reason

/-- Notes what it is shown. -/
def observe (tag : String) : Hook :=
  .single (fun c => Journaled.noting [.before tag c] .proceed) fun c o => [.after tag c.text o]

/-! ## Logging -/

/-- How queries are logged. -/
structure LogStyle where
  /-- The level of the event before a query. -/
  level : Level
  /-- The number of bytes of a query that are logged; without a bound, all of it. -/
  queryBytes : Option Nat
deriving DecidableEq, Repr

namespace LogStyle

def default : LogStyle :=
  ⟨.debug, some 200⟩

/-- A query as it is logged. -/
def shown (style : LogStyle) (query : String) : String :=
  match style.queryBytes with
  | some bytes => Text.abridge bytes query
  | none => query

/-- The level of a query; that of a traced query is at least `info`. -/
def levelOf (style : LogStyle) (c : QueryContext) : Level :=
  if c.trace && Level.verbosity .info < style.level.verbosity then .info else style.level

end LogStyle

/-- What is logged when a query has ended. -/
def endEvent (c : QueryContext) : Outcome → Event
  | .rows count => .completed c.method count
  | .failed message => .failed c.method message

/-- Logs queries before and after their execution. -/
def logging (style : LogStyle) : Hook :=
  .single
    (fun c =>
      Journaled.noting [.event (.executing (style.levelOf c) c (style.shown c.text))] .proceed)
    fun c o => [.event (endEvent c o)]

/-- A group in diagnostic output. -/
def description (hooks : List Hook) : String :=
  s!"CompositeHook \x7b hooks: {hooks.length} \x7d"

end Hook

end DerivedQuery
