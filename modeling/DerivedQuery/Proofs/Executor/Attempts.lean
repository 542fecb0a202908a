import DerivedQuery.Executor
import DerivedQuery.Proofs.Run

/-!
# Attempts of executors

An executor may be a chain of chains. What counts are the executors at its leaves.

* `Executor.leaves`: the leaves of an executor, from left to right, with their paths.
* `Executor.Tried`: which leaves are called, and what the last of them answers.
* `exists_tried`: an executor tries its leaves until one does not decline, and each is called with
  the same statement and the same arguments.
-/

namespace DerivedQuery

/-- The call of an executor, if the note is one: its path, and the text and the arguments that it was
given. -/
def Note.call? : Note → Option (List Nat × String × List Json)
  | .called path query arguments => some (path, query, arguments)
  | _ => none

namespace Executor

variable {α : Type}

/-- An executor that is not a chain, and its path. -/
abbrev Leaf (α : Type) :=
  List Nat × (Method → BoundStatement → List Json → Except QueryError (Answer α))

mutual

/-- The leaves of the executor at `path`. -/
def leaves (path : List Nat) : Executor α → List (Leaf α)
  | single respond => [(path, respond)]
  | chain parts => leavesFrom path 0 parts

/-- The leaves of a list that begins at `position` in the chain at `path`. -/
def leavesFrom (path : List Nat) (position : Nat) : List (Executor α) → List (Leaf α)
  | [] => []
  | e :: es => e.leaves (path ++ [position]) ++ leavesFrom path (position + 1) es

end

variable {m : Method} {s : BoundStatement} {arguments : List Json}

/-- `Tried m s arguments ls paths r`: the leaves `ls` are called from the first on, each with the
statement and the arguments, until one does not decline. Those at `paths` are called, and the answer
is `r`. -/
inductive Tried (m : Method) (s : BoundStatement) (arguments : List Json) :
    List (Leaf α) → List (List Nat) → Except QueryError (Answer α) → Prop
  | exhausted : Tried m s arguments [] [] (.ok .declined)
  | declines {leaf : Leaf α} {ls : List (Leaf α)} {paths : List (List Nat)}
      {r : Except QueryError (Answer α)} (response : leaf.2 m s arguments = .ok .declined)
      (rest : Tried m s arguments ls paths r) : Tried m s arguments (leaf :: ls) (leaf.1 :: paths) r
  | answers {leaf : Leaf α} {ls : List (Leaf α)} {r : Except QueryError (Answer α)}
      (response : leaf.2 m s arguments = r) (accepted : r ≠ .ok .declined) :
      Tried m s arguments (leaf :: ls) [leaf.1] r

/-- Leaves that all decline are followed by others. -/
theorem Tried.append {ls ls' : List (Leaf α)} {paths paths' : List (List Nat)}
    {r : Except QueryError (Answer α)} (h : Tried m s arguments ls paths (.ok .declined))
    (h' : Tried m s arguments ls' paths' r) :
    Tried m s arguments (ls ++ ls') (paths ++ paths') r := by
  generalize hdeclined : (.ok .declined : Except QueryError (Answer α)) = declined at h
  induction h with
  | exhausted => exact h'
  | declines response rest ih => exact .declines response (ih hdeclined)
  | answers response accepted => exact absurd hdeclined.symm accepted

/-- An answer ends the attempts. -/
theorem Tried.append_right {ls : List (Leaf α)} {paths : List (List Nat)}
    {r : Except QueryError (Answer α)} (h : Tried m s arguments ls paths r)
    (hr : r ≠ .ok .declined) (ls' : List (Leaf α)) : Tried m s arguments (ls ++ ls') paths r := by
  induction h with
  | exhausted => exact absurd rfl hr
  | declines response rest ih => exact .declines response (ih hr)
  | answers response accepted => exact .answers response accepted

/-- What is noted while leaves are tried: each call with the statement and the arguments, and
otherwise that a call was declined. -/
structure NotesOf (m : Method) (s : BoundStatement) (arguments : List Json)
    (paths : List (List Nat)) (notes : List Note) : Prop where
  calls : notes.filterMap Note.call? = paths.map fun path => (path, s.statement.text, arguments)
  others : ∀ note ∈ notes, note.call? = none →
    ∃ position, note = .event (.declined m.name position)

theorem NotesOf.append {paths paths' : List (List Nat)} {notes notes' : List Note}
    (h : NotesOf m s arguments paths notes) (h' : NotesOf m s arguments paths' notes') :
    NotesOf m s arguments (paths ++ paths') (notes ++ notes') := by
  constructor
  · rw [List.filterMap_append, h.calls, h'.calls, List.map_append]
  · intro note hnote
    rcases List.mem_append.1 hnote with hnote | hnote
    · exact h.others note hnote
    · exact h'.others note hnote

/-- That a call was declined is no call. -/
theorem NotesOf.declined (position : Nat) :
    NotesOf m s arguments [] [.event (.declined m.name position)] := by
  refine ⟨rfl, ?_⟩
  intro note hnote _
  exact ⟨position, List.mem_singleton.1 hnote⟩

variable (m s arguments)

mutual

/-- An executor tries its leaves, one after the other. -/
theorem exists_tried (path : List Nat) : (e : Executor α) →
    ∃ paths, Tried m s arguments (e.leaves path) paths (e.answer m s arguments path).run.result ∧
      NotesOf m s arguments paths (e.answer m s arguments path).run.notes
  | single respond => by
    have hcall : (answer m s arguments path (single respond)).run =
        ⟨respond m s arguments, [.called path s.statement.text arguments]⟩ := by
      rw [answer, Run.run_note_bind]
      rfl
    have hnotes : NotesOf m s arguments [path] [.called path s.statement.text arguments] :=
      ⟨rfl, by simp [Note.call?]⟩
    refine ⟨[path], ?_, by rwa [hcall]⟩
    rw [hcall]
    by_cases hr : respond m s arguments = .ok .declined
    · rw [hr]
      exact .declines hr .exhausted
    · exact .answers rfl hr
  | chain parts => by
    rw [leaves, answer]
    exact exists_tried_from path 0 parts

theorem exists_tried_from (path : List Nat) (position : Nat) : (es : List (Executor α)) →
    ∃ paths, Tried m s arguments (leavesFrom path position es) paths
        (answerFrom m s arguments path position es).run.result ∧
      NotesOf m s arguments paths (answerFrom m s arguments path position es).run.notes
  | [] => ⟨[], .exhausted, rfl, by simp [answerFrom]⟩
  | e :: es => by
    rcases exists_tried (path ++ [position]) e with ⟨paths, htried, hnotes⟩
    rcases exists_tried_from path (position + 1) es with ⟨paths', htried', hnotes'⟩
    rcases hanswer : (e.answer m s arguments (path ++ [position])).run with ⟨r, notes⟩
    rw [hanswer] at htried hnotes
    rw [leavesFrom, answerFrom]
    cases r with
    | error err =>
      rw [Run.run_bind_error hanswer]
      exact ⟨paths, htried.append_right (by simp) _, hnotes⟩
    | ok answer =>
      rw [Run.run_bind_ok hanswer]
      cases answer with
      | completed rows =>
        refine ⟨paths, htried.append_right (by simp) _, ?_⟩
        simpa using hnotes
      | declined =>
        -- The next executor of the list is tried.
        simp only [Run.run_note_bind]
        exact ⟨paths ++ paths', htried.append htried',
          hnotes.append ((NotesOf.declined position).append hnotes')⟩

end

/-- The rows of an answer. That every leaf declines is an error. -/
def rowsOf (s : BoundStatement) : Except QueryError (Answer α) → Except QueryError (List α)
  | .ok (.completed rows) => .ok rows
  | .ok .declined => .error (.unsupported s.statement.text)
  | .error err => .error err

/-- The rows of a statement are those that one of the leaves gives. -/
theorem exists_tried_run (e : Executor α) :
    ∃ paths answer, Tried m s arguments (e.leaves []) paths answer ∧
      (e.run m s arguments).run.result = rowsOf s answer ∧
      NotesOf m s arguments paths (e.run m s arguments).run.notes := by
  rcases exists_tried m s arguments [] e with ⟨paths, htried, hnotes⟩
  rcases hanswer : (e.answer m s arguments []).run with ⟨r, notes⟩
  rw [hanswer] at htried hnotes
  refine ⟨paths, r, htried, ?_⟩
  rw [run]
  cases r with
  | error err =>
    rw [Run.run_bind_error hanswer]
    exact ⟨rfl, hnotes⟩
  | ok answer =>
    rw [Run.run_bind_ok hanswer]
    cases answer <;> exact ⟨rfl, by simpa using hnotes⟩

end Executor

end DerivedQuery
