import DerivedQuery.Pipeline
import DerivedQuery.Proofs.Compilation.Layout
import DerivedQuery.Proofs.Method.Registration
import DerivedQuery.Proofs.Run
import DerivedQuery.Proofs.Statement.Presence

/-!
# Preparing calls

A prepared call holds a statement that is not blank and the arguments as the query of the method
binds them. Rewriters change the statement and nothing else.

* `Method.isPresent_of_createQuery`: the query of a method that was made is not blank.
* `Pipeline.prepare_of_make`: a preparation creates the query and rewrites it, and logs that.
* `Pipeline.prepared_of_make`: what a prepared call holds.
-/

namespace DerivedQuery

open Text Statement

namespace Method

variable {name : String} {parameterCount : Nat} {e : Entity} {options : Options}

/-- The clauses that the options ask for leave a statement as present as it was. -/
theorem isPresent_extend {m : Method} {s : Statement} (h : s.IsPresent) :
    (m.extend s).IsPresent := by
  unfold extend
  extract_lets o s₁ s₂ s₃ s₄
  have hdistinct : s₁.IsPresent := by
    unfold s₁
    split
    · exact h.withDistinct
    · exact h
  have himport : s₂.IsPresent := by
    unfold s₂
    split
    · split
      · exact hdistinct.withImport _
      · exact hdistinct
    · exact hdistinct
  have hhints : s₃.IsPresent := by
    unfold s₃
    split
    · exact himport.withHints _
    · exact himport
  have hlimit : s₄.IsPresent := by
    unfold s₄
    split
    · exact hhints.withLimit _
    · exact hhints
  split
  · exact hlimit.withTrace
  · exact hlimit

/-- The query of a method that was made is not blank. -/
theorem isPresent_of_createQuery {m : Method} (hm : make name parameterCount e options = .ok m)
    {order : SortOrder} {c : Compiled} (hc : m.createQuery order = .ok c) :
    c.statement.IsPresent := by
  rcases bind_eq_ok_iff.1 hc with ⟨plain, hplain, hextended⟩
  cases hextended
  apply isPresent_extend
  rcases make_eq_ok_iff.1 hm with ⟨-, origin, horigin, rfl⟩
  cases hquery : options.query with
  | some text =>
    -- The text was not blank when it was given.
    rcases (findOrigin_some_eq_ok_iff hquery).1 horigin with ⟨statement, htext, rfl⟩
    cases hplain
    exact (isPresent_of_ofText htext).1.orderBy order
  | none =>
    -- The query begins with `SELECT`.
    rcases (findOrigin_eq_ok_iff hquery).1 horigin with ⟨n, -, -, rfl⟩
    have hcompile := mapError_eq_ok_iff.1 hplain
    rcases Compilation.parts_of_compile hcompile with ⟨r, w, -, -, -, hparts⟩
    rcases hparts order with ⟨c, hc, -, htext⟩
    rw [hcompile] at hc
    cases hc
    have hword : isBlankText "SELECT " = false := rfl
    rw [IsPresent, htext]
    simp [Selection.selectFrom, hword]

end Method

namespace Pipeline

variable {α : Type} {name : String} {parameterCount : Nat} {e : Entity} {options : Options}

/-- The query of a call is created with what is logged of it. -/
theorem run_queryNoted {m : Method} {order : SortOrder} {c : Compiled}
    (h : m.plainQuery order = .ok c) :
    (m.queryNoted order).run =
      ⟨.ok { c with statement := m.extend c.statement }, m.plainNotes c⟩ := by
  rw [Method.queryNoted, Run.run_ofExcept_bind_ok h, Run.run_note_bind]
  simp

/-- A preparation creates the query of the call, binds the arguments to it and rewrites it. It notes
log events only. -/
theorem prepare_of_make {q : Pipeline α}
    (hq : Method.make name parameterCount e options = .ok q.method) (arguments : List Json)
    (call : Call) :
    ∃ c, q.method.createQuery call.dynamicOrder = .ok c ∧
      (∀ note ∈ (q.prepare arguments call).run.notes, ∃ event, note = .event event) ∧
      (q.prepare arguments call).run.result =
        (q.rewritten c.statement (c.bindArguments arguments)).map fun s =>
          ⟨⟨s, some q.method.options⟩, c.bindArguments arguments⟩ := by
  rcases Method.plainQuery_of_make hq call.dynamicOrder with ⟨plain, hplain⟩
  -- All that is noted while the query is created is that a plain query was derived.
  have hnotes : ∀ note ∈ q.method.plainNotes plain, ∃ event, note = .event event := by
    intro note hnote
    unfold Method.plainNotes at hnote
    split at hnote
    · cases hnote
    · exact ⟨_, List.mem_singleton.1 hnote⟩
  obtain ⟨c, hc, hquery⟩ : ∃ c, q.method.createQuery call.dynamicOrder = .ok c ∧
      (q.method.queryNoted call.dynamicOrder).run = ⟨.ok c, q.method.plainNotes plain⟩ :=
    ⟨_, bind_eq_ok_iff.2 ⟨plain, hplain, rfl⟩, run_queryNoted hplain⟩
  refine ⟨c, hc, ?_⟩
  rw [prepare, Run.run_bind_ok hquery]
  dsimp only
  -- A rewriter that fails leaves these notes, and rewriting that succeeds adds one more.
  cases hs : q.rewritten c.statement (c.bindArguments arguments) with
  | error err =>
    rw [Run.run_ofExcept_bind_error rfl]
    exact ⟨by simpa using hnotes, rfl⟩
  | ok s =>
    rw [Run.run_ofExcept_bind_ok rfl, Run.run_note_bind]
    refine ⟨?_, rfl⟩
    intro note hnote
    simp only [Run.run_pure, List.append_nil, List.mem_append, List.mem_singleton] at hnote
    rcases hnote with hnote | rfl
    · exact hnotes note hnote
    · exact ⟨_, rfl⟩

/-- What rewriters leave is not blank. -/
theorem isPresent_of_rewritten {q : Pipeline α} {s t : Statement} {arguments : List Json}
    (hs : s.IsPresent) (h : q.rewritten s arguments = .ok t) : t.IsPresent := by
  unfold rewritten at h
  split at h
  · cases h
    exact hs
  · exact (isPresent_of_ofText (mapError_eq_ok_iff.1 h)).1

/-- `Prepared q arguments call p logged`: the call is prepared as `p`, with a statement that is not
blank, the arguments as the query of the method binds them, and the options of the method. Nothing
but log events is noted. -/
structure Prepared (q : Pipeline α) (arguments : List Json) (call : Call) (p : PreparedCall)
    (logged : List Note) : Prop where
  run_eq : (q.prepare arguments call).run = ⟨.ok p, logged⟩
  events : ∀ note ∈ logged, ∃ event, note = .event event
  present : p.query.statement.IsPresent
  options_eq : p.query.options = some q.method.options
  arguments_eq : ∃ c, q.method.createQuery call.dynamicOrder = .ok c ∧
    p.arguments = c.bindArguments arguments

theorem prepared_of_make {q : Pipeline α}
    (hq : Method.make name parameterCount e options = .ok q.method) {arguments : List Json}
    {call : Call} {p : PreparedCall} {logged : List Note}
    (hp : (q.prepare arguments call).run = ⟨.ok p, logged⟩) :
    q.Prepared arguments call p logged := by
  rcases prepare_of_make hq arguments call with ⟨c, hc, hevents, hresult⟩
  rw [hp] at hevents hresult
  cases hs : q.rewritten c.statement (c.bindArguments arguments) with
  | error err =>
    rw [hs] at hresult
    cases hresult
  | ok s =>
    rw [hs] at hresult
    cases hresult
    have hcreated := Method.isPresent_of_createQuery hq hc
    exact ⟨hp, hevents, isPresent_of_rewritten hcreated hs, rfl, c, hc, rfl⟩

end Pipeline

end DerivedQuery
