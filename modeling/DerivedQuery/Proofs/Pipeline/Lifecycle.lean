import DerivedQuery.Proofs.Executor.Attempts
import DerivedQuery.Proofs.Hook.Consultation
import DerivedQuery.Proofs.Pipeline.Preparation

/-!
# The course of a call

* `Pipeline.Lifecycle`: the ways a call can go, with all that is noted on them.
* `run_hooked`, `run_observed`: the two stages between a prepared call and its rows.
* `run_execute`: a call that is prepared and passed by the hooks.
* `execute_lifecycle`: every call goes one of these ways.
-/

namespace DerivedQuery.Pipeline

open Text

variable {α : Type}

/-- How a call can go: what it results in, and all notes from the first to the last. -/
inductive Lifecycle (q : Pipeline α) (arguments : List Json) (call : Call) :
    Journaled (Except QueryError (List α)) → Prop
  /-- The query cannot be prepared. Neither hooks nor executors are called. -/
  | unprepared {err : QueryError} {logged : List Note}
      (failed : (q.prepare arguments call).run = ⟨.error err, logged⟩)
      (events : ∀ note ∈ logged, ∃ event, note = .event event) :
      Lifecycle q arguments call ⟨.error err, logged⟩
  /-- A hook aborts. No executor is called, and no hook is shown an outcome. -/
  | aborted {p : PreparedCall} {logged : List Note} {shown : List (Hook × QueryContext)}
      {reason : String} (prepared : q.Prepared arguments call p logged)
      (consulted : Hook.Consulted q.hooks (q.context p) shown (.error reason)) :
      Lifecycle q arguments call ⟨.error (.aborted reason), logged ++ Hook.notesBefore shown⟩
  /-- The hooks leave another text, which is blank. No executor is called, and no hook is shown an
  outcome. -/
  | blanked {p : PreparedCall} {logged : List Note} {shown : List (Hook × QueryContext)}
      {final : String} (prepared : q.Prepared arguments call p logged)
      (consulted : Hook.Consulted q.hooks (q.context p) shown (.ok final))
      (changed : final ≠ p.query.statement.text) (blank : isBlankText final = true) :
      Lifecycle q arguments call
        ⟨.error (.invalidRequest .blankQuery), logged ++ Hook.notesBefore shown⟩
  /-- The text that the hooks leave is executed with the bound arguments and the options of the
  method, and every hook is shown that text and the outcome. -/
  | executed {p : PreparedCall} {logged called : List Note} {shown : List (Hook × QueryContext)}
      {final : String} {s : BoundStatement} {paths : List (List Nat)}
      {answer : Except QueryError (Answer α)} {c : QueryContext} {outcome : Outcome}
      (prepared : q.Prepared arguments call p logged)
      (consulted : Hook.Consulted q.hooks (q.context p) shown (.ok final))
      (present : isBlankText final = false)
      (statement : s = ⟨⟨final⟩, some q.method.options⟩)
      (tried : Executor.Tried q.method s p.arguments (Executor.leavesFrom [] 0 q.executors) paths
        answer)
      (calls : Executor.NotesOf q.method s p.arguments paths called)
      (context : c = { q.context p with text := final })
      (same : ∀ seen ∈ shown, c = { seen.2 with text := final })
      (outcome_eq : (∃ rows, Executor.rowsOf s answer = .ok rows ∧ outcome = .rows rows.length) ∨
        ∃ err, Executor.rowsOf s answer = .error err ∧ outcome = .ofMessage err.message) :
      Lifecycle q arguments call
        ⟨Executor.rowsOf s answer,
          logged ++ Hook.notesBefore shown ++ called ++ q.hooks.flatMap (·.after c outcome)⟩

/-- Hooks are consulted on a query. A text that differs from the one they were given must not be
blank. -/
theorem run_hooked (q : Pipeline α) (c : QueryContext) :
    (q.hooked c).run =
      ⟨match (Hook.beforeAll q.hooks c).result with
        | .error reason => .error (.aborted reason)
        | .ok final => if final = c.text then .ok ⟨c.text⟩ else Statement.ofText final,
      (Hook.beforeAll q.hooks c).notes⟩ := by
  rw [hooked, ExceptT.run_bind_lift, Hook.before]
  cases hending : (Hook.beforeAll q.hooks c).result with
  | error reason =>
    apply Journaled.ext
    · simp [hending]
    · simp [hending]
  | ok final =>
    -- With the text unchanged there is no check. Another one is checked for being blank.
    by_cases hfinal : final = c.text
    · apply Journaled.ext
      · simp [hending, Hook.groupVerdict, hfinal]
      · simp [hending, Hook.groupVerdict, hfinal]
    · apply Journaled.ext
      · simp [hending, Hook.groupVerdict, hfinal]
      · simp [hending, Hook.groupVerdict, hfinal]

/-- A statement is executed, and then every hook is shown its text and the outcome. -/
theorem run_observed (q : Pipeline α) (c : QueryContext) (arguments : List Json) :
    let run := ((Executor.chain q.executors).run q.method ⟨⟨c.text⟩, some q.method.options⟩
      arguments).run
    (q.observed c arguments).run =
      ⟨run.result, run.notes ++ q.hooks.flatMap (·.after c (Outcome.ofResult run.result))⟩ := by
  intro run
  rw [← Hook.afterAll_eq]
  rfl

/-- What executors answer to a text. -/
def answered (q : Pipeline α) (text : String) (arguments : List Json) :
    Journaled (Except QueryError (List α)) :=
  ((Executor.chain q.executors).run q.method ⟨⟨text⟩, some q.method.options⟩ arguments).run

/-- A call that is prepared and passed by the hooks is executed, and the hooks are shown how that
ended. -/
theorem run_execute {q : Pipeline α} {arguments : List Json} {call : Call} {p : PreparedCall}
    {logged hooked : List Note} {final : String}
    (hprepare : (q.prepare arguments call).run = ⟨.ok p, logged⟩)
    (hhooked : (q.hooked (q.context p)).run = ⟨.ok ⟨final⟩, hooked⟩) :
    let answer := q.answered final p.arguments
    (q.execute arguments call).run =
      ⟨answer.result, logged ++ hooked ++ answer.notes ++
        q.hooks.flatMap
          (·.after { q.context p with text := final } (Outcome.ofResult answer.result))⟩ := by
  intro answer
  rw [execute, Run.run_bind_ok hprepare]
  dsimp only
  rw [Run.run_bind_ok hhooked]
  dsimp only
  rw [run_observed]
  simp [answer, answered]

/-- A text that is not blank is executed, and hooks are shown that. -/
theorem lifecycle_of_present {q : Pipeline α} {arguments : List Json} {call : Call}
    {p : PreparedCall} {logged : List Note} {shown : List (Hook × QueryContext)} {final : String}
    (hprepared : q.Prepared arguments call p logged)
    (hshown : Hook.Consulted q.hooks (q.context p) shown (.ok final))
    (hpresent : isBlankText final = false)
    (hhooked : (q.hooked (q.context p)).run = ⟨.ok ⟨final⟩, Hook.notesBefore shown⟩) :
    q.Lifecycle arguments call (q.execute arguments call).run := by
  let s : BoundStatement := ⟨⟨final⟩, some q.method.options⟩
  rcases Executor.exists_tried_run q.method s p.arguments (.chain q.executors) with
    ⟨paths, answer, htried, hresult, hcalls⟩
  have hanswered : (q.answered final p.arguments).result = Executor.rowsOf s answer := hresult
  rw [run_execute hprepared.run_eq hhooked, hanswered]
  refine .executed hprepared hshown hpresent rfl htried hcalls rfl ?_ ?_
  · intro seen hseen
    exact (hshown.context_eq final seen hseen).symm
  · cases hrows : Executor.rowsOf s answer with
    | ok rows => exact .inl ⟨rows, rfl, rfl⟩
    | error err => exact .inr ⟨err, rfl, rfl⟩

end DerivedQuery.Pipeline
