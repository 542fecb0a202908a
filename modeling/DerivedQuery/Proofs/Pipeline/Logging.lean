import DerivedQuery.Proofs.Hook.Nesting
import DerivedQuery.Proofs.Pipeline.Lifecycle

/-!
# What is logged and what is executed

A logging hook logs the text that the hooks in front of it leave. The hooks behind it are asked
afterwards, and executors are given the text that those leave. The two texts are the same just when
no change is made behind the logging hook.

* `Hook.beforeAll_logging`: a logging hook changes nothing and logs what it is shown.
* `Hook.KeepsText`, `Hook.eq_text_of_keeps`: hooks that rewrite nothing leave the text as it was.
* `Hook.exists_logged`: the text that is logged, between the hooks in front and those behind.
* `Pipeline.Executes`: calls that get as far as the executors; `Executes.notes_execute`: what is
  noted of them.
* `Pipeline.execute_logged`: the logged text and the executed one.
-/

namespace DerivedQuery

/-- The text that is logged of a query before its execution, if the note is such an event. -/
def Note.executing? : Note → Option String
  | .event (.executing _ _ query) => some query
  | _ => none

/-! ## Logging hooks among others -/

namespace Hook

/-- A logging hook changes nothing and logs what it is shown. -/
theorem beforeAll_logging (style : LogStyle) (later : List Hook) (c : QueryContext) :
    beforeAll (logging style :: later) c =
      ⟨(beforeAll later c).result,
        .event (.executing (style.levelOf c) c (style.shown c.text)) ::
          (beforeAll later c).notes⟩ := by
  rw [beforeAll]
  rfl

/-- The hook never leaves another text than it is shown. -/
def KeepsText (h : Hook) : Prop :=
  ∀ c query, (h.before c).result = .rewrite query → query = c.text

/-- Hooks that rewrite nothing leave the text they are given. -/
theorem eq_text_of_keeps {hooks : List Hook} (h : ∀ hook ∈ hooks, hook.KeepsText) {c : QueryContext}
    {final : String} (hfinal : (beforeAll hooks c).result = .ok final) : final = c.text := by
  induction hooks generalizing c with
  | nil => exact (Except.ok.inj hfinal).symm
  | cons hook hooks ih =>
    -- The verdict of the first hook decides what the others are shown.
    obtain ⟨hhook, hhooks⟩ := List.forall_mem_cons.1 h
    rw [beforeAll, Journaled.result_bind] at hfinal
    cases hverdict : (hook.before c).result with
    | proceed =>
      rw [hverdict] at hfinal
      exact ih hhooks hfinal
    | rewrite query =>
      rw [hverdict] at hfinal
      rw [ih hhooks hfinal]
      exact hhook c query hverdict
    | abort reason =>
      rw [hverdict] at hfinal
      cases hfinal

/-- What a logging hook logs stands between the notes of the hooks in front of it, which leave the
text that is logged, and the notes of those behind it, which are given that text. -/
theorem exists_logged {hooks earlier later : List Hook} {style : LogStyle}
    (hleaves : leavesOf hooks = earlier ++ logging style :: later) {c : QueryContext}
    {final : String} (hfinal : (beforeAll hooks c).result = .ok final) :
    ∃ text, (beforeAll earlier c).result = .ok text ∧
      (beforeAll later { c with text }).result = .ok final ∧
      (beforeAll hooks c).notes =
        (beforeAll earlier c).notes ++
          .event (.executing (style.levelOf c) { c with text } (style.shown text)) ::
            (beforeAll later { c with text }).notes := by
  have hsplit : beforeAll hooks c =
      beforeAll earlier c >>= continueWith (logging style :: later) c := by
    rw [beforeAll_leaves, hleaves, beforeAll_append]
  rw [hsplit, Journaled.result_bind] at hfinal
  rw [hsplit, Journaled.notes_bind]
  cases hearlier : (beforeAll earlier c).result with
  | error reason =>
    -- A hook in front aborts, so nothing would be left to execute.
    rw [hearlier] at hfinal
    cases hfinal
  | ok text =>
    rw [hearlier, continueWith, beforeAll_logging] at hfinal
    refine ⟨text, rfl, hfinal, ?_⟩
    rw [continueWith, beforeAll_logging]
    rfl

end Hook

/-! ## Calls that are executed -/

namespace Pipeline

variable {α : Type} {q : Pipeline α} {arguments : List Json} {call : Call} {p : PreparedCall}
  {executed : String}

/-- The call is prepared as `p`, and the hooks let it pass: executors are given the text
`executed`. -/
structure Executes (q : Pipeline α) (arguments : List Json) (call : Call) (p : PreparedCall)
    (executed : String) : Prop where
  prepared : (q.prepare arguments call).run.result = .ok p
  passed : (q.hooked (q.context p)).run.result = .ok ⟨executed⟩

/-- The executed text is the one that the hooks leave. -/
theorem Executes.result_beforeAll (h : q.Executes arguments call p executed) :
    (Hook.beforeAll q.hooks (q.context p)).result = .ok executed := by
  have hpassed := h.passed
  rw [run_hooked] at hpassed
  cases hending : (Hook.beforeAll q.hooks (q.context p)).result with
  | error reason =>
    rw [hending] at hpassed
    cases hpassed
  | ok final =>
    simp only [hending] at hpassed
    -- The same text, or another one that is not blank.
    split at hpassed
    · next hfinal =>
      cases hpassed
      rw [hfinal]
    · unfold Statement.ofText at hpassed
      split at hpassed
      · cases hpassed
      · cases hpassed
        rfl

/-- What is noted of a call that is executed: when it is prepared, by the hooks before that, by the
executors and by the hooks that are shown the outcome. -/
theorem Executes.notes_execute (h : q.Executes arguments call p executed) :
    let answer := q.answered executed p.arguments
    (q.execute arguments call).run.notes =
      (q.prepare arguments call).run.notes ++ (Hook.beforeAll q.hooks (q.context p)).notes ++
        answer.notes ++ q.hooks.flatMap
          (·.after { q.context p with text := executed } (Outcome.ofResult answer.result)) := by
  intro answer
  have hprepare : (q.prepare arguments call).run =
      ⟨.ok p, (q.prepare arguments call).run.notes⟩ :=
    Journaled.ext h.prepared rfl
  have hhooked : (q.hooked (q.context p)).run =
      ⟨.ok ⟨executed⟩, (Hook.beforeAll q.hooks (q.context p)).notes⟩ := by
    apply Journaled.ext h.passed
    rw [run_hooked]
  rw [run_execute hprepare hhooked]

/-- Executors are given one text and the same arguments. -/
theorem call_eq_of_answered {text : String} {note : Note}
    (hnote : note ∈ (q.answered text arguments).notes) {path : List Nat} {query : String}
    {given : List Json} (hcall : note.call? = some (path, query, given)) :
    query = text ∧ given = arguments := by
  -- Executors make their calls on leaves only, each of them with what the chain was given.
  obtain ⟨paths, -, -, -, hcalls⟩ := Executor.exists_tried_run q.method
    ⟨⟨text⟩, some q.method.options⟩ arguments (.chain q.executors)
  have hmem : (path, query, given) ∈ (q.answered text arguments).notes.filterMap Note.call? :=
    List.mem_filterMap.2 ⟨note, hnote, hcall⟩
  have hall : (q.answered text arguments).notes.filterMap Note.call? =
      paths.map fun path => (path, text, arguments) := hcalls.calls
  rw [hall, List.mem_map] at hmem
  obtain ⟨_, -, heq⟩ := hmem
  cases heq
  exact ⟨rfl, rfl⟩

/-- Of a call that is executed, a logging hook that does not abridge logs the text that the hooks in
front of it leave, and executors are given what the hooks behind it leave of that text. So it logs
what is executed just when those leave the text they are given, as they do if none of them rewrites
it. -/
theorem execute_logged {earlier later : List Hook} {style : Hook.LogStyle}
    (hhooks : Hook.leavesOf q.hooks = earlier ++ .logging style :: later)
    (hstyle : style.queryBytes = none) (h : q.Executes arguments call p executed) :
    ∃ logged,
      let c : QueryContext := { q.context p with text := logged }
      let answer := q.answered executed p.arguments
      (Hook.beforeAll earlier (q.context p)).result = .ok logged ∧
      (q.execute arguments call).run.notes =
        (q.prepare arguments call).run.notes ++ (Hook.beforeAll earlier (q.context p)).notes ++
          .event (.executing (style.levelOf c) c logged) ::
            ((Hook.beforeAll later c).notes ++ answer.notes ++ q.hooks.flatMap
              (·.after { c with text := executed } (Outcome.ofResult answer.result))) ∧
      (∀ note ∈ answer.notes, ∀ path query given,
        note.call? = some (path, query, given) → query = executed ∧ given = p.arguments) ∧
      (Hook.beforeAll later c).result = .ok executed ∧
      (logged = executed ↔ (Hook.beforeAll later c).result = .ok logged) ∧
      ((∀ hook ∈ later, hook.KeepsText) → logged = executed) := by
  obtain ⟨logged, hearlier, hlater, hnotes⟩ := Hook.exists_logged hhooks h.result_beforeAll
  -- Nothing is abridged, so what is logged is the text itself.
  have hshown : style.shown logged = logged := by
    rw [Hook.LogStyle.shown, hstyle]
  refine ⟨logged, hearlier, ?_, ?_, hlater, ?_, ?_⟩
  · rw [h.notes_execute, hnotes, hshown]
    simp only [List.append_assoc, List.cons_append]
    rfl
  · intro note hnote path query given hcall
    exact call_eq_of_answered hnote hcall
  · rw [hlater, Except.ok.injEq, eq_comm]
  · intro hkeeps
    exact (Hook.eq_text_of_keeps hkeeps hlater).symm

/-- A logging hook in a group, behind a hook that changes the text and in front of one that does
not. -/
theorem execute_logged_people :
    let e := (Entity.ofRegion "/People").declare "age" .integer
    let m : Method :=
      ⟨"findByAge", 1, e, .none, .derived ⟨false, none, [[⟨"Age", .equals, .never⟩]], []⟩⟩
    let style : Hook.LogStyle := ⟨.info, none⟩
    let q : Pipeline Nat :=
      ⟨m, [.giving [7, 8]], .empty, [.group [.append " LIMIT 1", .logging style], .idle]⟩
    let executed := "SELECT * FROM /People x WHERE x.age = $1 LIMIT 1"
    Hook.leavesOf q.hooks = [.append " LIMIT 1"] ++ .logging style :: [.idle] ∧
      style.queryBytes = none ∧
      ∃ p, q.Executes [.int 3] ⟨.unsorted, none⟩ p executed ∧
        .event (.executing .info { q.context p with text := executed } executed) ∈
          (q.execute [.int 3] ⟨.unsorted, none⟩).run.notes := by
  intro e m style q executed
  have hhooks : Hook.leavesOf q.hooks = [.append " LIMIT 1"] ++ .logging style :: [.idle] := rfl
  have hkeeps : ∀ hook ∈ [Hook.idle], hook.KeepsText := by
    intro hook hhook c query hquery
    rw [List.mem_singleton.1 hhook] at hquery
    cases hquery
  have hprepare : (q.prepare [.int 3] ⟨.unsorted, none⟩).run.result.toOption.map
      (fun p => (p.query.statement.text, p.arguments.length)) =
        some ("SELECT * FROM /People x WHERE x.age = $1", 1) := by
    decide +kernel
  obtain ⟨p, hp, hfields⟩ := Option.map_eq_some_iff.1 hprepare
  have hcontext : q.context p =
      ⟨"findByAge", "People", "SELECT * FROM /People x WHERE x.age = $1", 1, false, []⟩ := by
    rw [context, (Prod.mk.inj hfields).1, (Prod.mk.inj hfields).2]
    rfl
  have hpassed : (q.hooked (q.context p)).run.result = .ok ⟨executed⟩ := by
    rw [hcontext]
    exact eq_ok_of_toOption (by decide +kernel)
  have hexecutes : q.Executes [.int 3] ⟨.unsorted, none⟩ p executed :=
    ⟨toOption_eq_some_iff.1 hp, hpassed⟩
  obtain ⟨logged, -, hnotes, -, -, -, hlogged⟩ := execute_logged hhooks rfl hexecutes
  obtain rfl := hlogged hkeeps
  refine ⟨hhooks, rfl, p, hexecutes, ?_⟩
  rw [hnotes]
  exact List.mem_append_right _ List.mem_cons_self

/-- A text that is changed behind a logging hook is not the one that was logged. -/
theorem logged_before_rewrite :
    let e := (Entity.ofRegion "/People").declare "age" .integer
    let m : Method :=
      ⟨"findByAge", 1, e, .none, .derived ⟨false, none, [[⟨"Age", .equals, .never⟩]], []⟩⟩
    let q : Pipeline Nat :=
      ⟨m, [.giving [7]], .empty, [.logging ⟨.debug, none⟩, .append " LIMIT 5"]⟩
    let run := (q.execute [.int 3] ⟨.unsorted, none⟩).run
    (Method.make "findByAge" 1 e .none).toOption = some m ∧
      run.notes.filterMap Note.executing? = ["SELECT * FROM /People x WHERE x.age = $1"] ∧
      run.notes.filterMap (fun note => note.call?.map (·.2.1)) =
        ["SELECT * FROM /People x WHERE x.age = $1 LIMIT 5"] := by
  decide +kernel

end Pipeline

end DerivedQuery
