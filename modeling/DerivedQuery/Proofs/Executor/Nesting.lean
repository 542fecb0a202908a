import Mathlib.Data.List.Nodup
import DerivedQuery.Proofs.Executor.Attempts

/-!
# Chains in chains

How executors are nested makes no difference: a chain of chains answers as the one chain of all its
leaves does, and calls the same leaves in the same order.

* `Executor.flat`: the leaves of some executors, in one list.
* `Executor.Decided`: which leaves are called, and what comes of that.
* `Tried.unique`, `Tried.relabel`: leaves are tried in one way only, wherever they stand.
* `nodup_paths`: no two leaves have the same path.
* `run_nested`: the run of a chain of chains.
-/

namespace DerivedQuery.Executor

variable {α : Type} {m : Method} {s : BoundStatement} {arguments : List Json}

/-! ## Attempts on a list of leaves -/

/-- The leaf declines the statement. -/
def Declines (m : Method) (s : BoundStatement) (arguments : List Json) (leaf : Leaf α) : Prop :=
  leaf.2 m s arguments = .ok .declined

/-- `Decided m s arguments leaves called result`: of `leaves`, those in `called` are called, and
`result` is what comes of it. The first leaf that does not decline is the last that is called, and
its rows or its error are the result. -/
inductive Decided (m : Method) (s : BoundStatement) (arguments : List Json)
    (leaves : List (Leaf α)) : List (Leaf α) → Except QueryError (List α) → Prop
  | unsupported (declined : ∀ leaf ∈ leaves, Declines m s arguments leaf) :
    Decided m s arguments leaves leaves (.error (.unsupported s.statement.text))
  | completed {before after : List (Leaf α)} {leaf : Leaf α} {rows : List α}
      (split : leaves = before ++ leaf :: after)
      (declined : ∀ earlier ∈ before, Declines m s arguments earlier)
      (response : leaf.2 m s arguments = .ok (.completed rows)) :
    Decided m s arguments leaves (before ++ [leaf]) (.ok rows)
  | failed {before after : List (Leaf α)} {leaf : Leaf α} {err : QueryError}
      (split : leaves = before ++ leaf :: after)
      (declined : ∀ earlier ∈ before, Declines m s arguments earlier)
      (response : leaf.2 m s arguments = .error err) :
    Decided m s arguments leaves (before ++ [leaf]) (.error err)

/-- One more leaf in front that declines. -/
theorem Decided.cons {leaf : Leaf α} {leaves called : List (Leaf α)}
    {result : Except QueryError (List α)} (hleaf : Declines m s arguments leaf)
    (h : Decided m s arguments leaves called result) :
    Decided m s arguments (leaf :: leaves) (leaf :: called) result := by
  cases h with
  | unsupported declined => exact .unsupported (List.forall_mem_cons.2 ⟨hleaf, declined⟩)
  | completed split declined response =>
    rw [split]
    exact .completed (List.cons_append ..).symm (List.forall_mem_cons.2 ⟨hleaf, declined⟩) response
  | failed split declined response =>
    rw [split]
    exact .failed (List.cons_append ..).symm (List.forall_mem_cons.2 ⟨hleaf, declined⟩) response

/-- Leaves that are tried decide what comes of it. -/
theorem Tried.exists_decided {leaves : List (Leaf α)} {paths : List (List Nat)}
    {answer : Except QueryError (Answer α)} (h : Tried m s arguments leaves paths answer) :
    ∃ called, paths = called.map (·.1) ∧ Decided m s arguments leaves called (rowsOf s answer) := by
  induction h with
  | exhausted => exact ⟨[], rfl, .unsupported (by simp)⟩
  | @declines leaf ls paths r response rest ih =>
    obtain ⟨called, rfl, hdecided⟩ := ih
    exact ⟨leaf :: called, rfl, hdecided.cons response⟩
  | @answers leaf ls r response accepted =>
    refine ⟨[leaf], rfl, ?_⟩
    have hsplit : leaf :: ls = [] ++ leaf :: ls := rfl
    have hnone : ∀ earlier ∈ ([] : List (Leaf α)), Declines m s arguments earlier := by
      intro earlier hearlier
      cases hearlier
    match r with
    | .ok (.completed rows) => exact .completed hsplit hnone response
    | .ok .declined => exact absurd rfl accepted
    | .error err => exact .failed hsplit hnone response

/-- Leaves that all decline are all called. -/
theorem tried_of_declined {leaves : List (Leaf α)}
    (h : ∀ leaf ∈ leaves, Declines m s arguments leaf) :
    Tried m s arguments leaves (leaves.map (·.1)) (.ok .declined) := by
  induction leaves with
  | nil => exact .exhausted
  | cons leaf leaves ih =>
    rw [List.forall_mem_cons] at h
    exact .declines h.1 (ih h.2)

/-- What is decided about leaves is what trying them comes to. -/
theorem Decided.exists_tried {leaves called : List (Leaf α)} {result : Except QueryError (List α)}
    (h : Decided m s arguments leaves called result) :
    ∃ answer, Tried m s arguments leaves (called.map (·.1)) answer ∧ result = rowsOf s answer := by
  -- The leaves before the last one decline, and the last one answers.
  have hanswered {before after : List (Leaf α)} {leaf : Leaf α}
      {r : Except QueryError (Answer α)}
      (hbefore : ∀ earlier ∈ before, Declines m s arguments earlier)
      (hresponse : leaf.2 m s arguments = r) (haccepted : r ≠ .ok .declined) :
      Tried m s arguments (before ++ leaf :: after) ((before ++ [leaf]).map (·.1)) r := by
    rw [List.map_append]
    exact (tried_of_declined hbefore).append (.answers hresponse haccepted)
  cases h with
  | unsupported declined => exact ⟨_, tried_of_declined declined, rfl⟩
  | completed split declined response =>
    rw [split]
    exact ⟨_, hanswered declined response (by simp), rfl⟩
  | failed split declined response =>
    rw [split]
    exact ⟨_, hanswered declined response (by simp), rfl⟩

/-- Leaves are tried in one way. -/
theorem Tried.unique {leaves : List (Leaf α)} {paths paths' : List (List Nat)}
    {r r' : Except QueryError (Answer α)} (h : Tried m s arguments leaves paths r)
    (h' : Tried m s arguments leaves paths' r') : paths = paths' ∧ r = r' := by
  induction h generalizing paths' with
  | exhausted =>
    cases h'
    exact ⟨rfl, rfl⟩
  | declines response rest ih =>
    cases h' with
    | declines response' rest' =>
      obtain ⟨rfl, rfl⟩ := ih rest'
      exact ⟨rfl, rfl⟩
    | answers response' accepted' => exact absurd (response'.symm.trans response) accepted'
  | answers response accepted =>
    cases h' with
    | declines response' rest' => exact absurd (response.symm.trans response') accepted
    | answers response' accepted' => exact ⟨rfl, response.symm.trans response'⟩

/-- Where leaves stand makes no difference to how many of them are called, and to the answer. -/
theorem Tried.relabel {leaves leaves' : List (Leaf α)} {paths : List (List Nat)}
    {r : Except QueryError (Answer α)} (h : Tried m s arguments leaves paths r)
    (hsame : leaves'.map (·.2) = leaves.map (·.2)) :
    Tried m s arguments leaves' ((leaves'.map (·.1)).take paths.length) r := by
  induction h generalizing leaves' with
  | exhausted =>
    cases List.map_eq_nil_iff.1 hsame
    exact .exhausted
  | @declines leaf ls paths r response rest ih =>
    obtain ⟨leaf', ls', rfl, hleaf, hls⟩ := List.map_eq_cons_iff.1 hsame
    change leaf'.2 = leaf.2 at hleaf
    rw [← hleaf] at response
    exact .declines response (ih hls)
  | @answers leaf ls r response accepted =>
    obtain ⟨leaf', ls', rfl, hleaf, hls⟩ := List.map_eq_cons_iff.1 hsame
    change leaf'.2 = leaf.2 at hleaf
    rw [← hleaf] at response
    exact .answers response accepted

theorem Decided.length_le {leaves called : List (Leaf α)} {result : Except QueryError (List α)}
    (h : Decided m s arguments leaves called result) : called.length ≤ leaves.length := by
  cases h with
  | unsupported declined => exact Nat.le_refl _
  | completed split declined response => simp [split]
  | failed split declined response => simp [split]

/-- What is decided is the error for a statement that nothing supports just when all leaves decline,
or when the first that does not answers with that error itself. -/
theorem Decided.eq_unsupported_iff {leaves called : List (Leaf α)}
    {result : Except QueryError (List α)} (h : Decided m s arguments leaves called result) :
    result = .error (.unsupported s.statement.text) ↔
      (∀ leaf ∈ leaves, Declines m s arguments leaf) ∨
        ∃ before leaf after, leaves = before ++ leaf :: after ∧
          (∀ earlier ∈ before, Declines m s arguments earlier) ∧
          leaf.2 m s arguments = .error (.unsupported s.statement.text) := by
  constructor
  · intro hresult
    cases h with
    | unsupported declined => exact .inl declined
    | completed split declined response => cases hresult
    | failed split declined response =>
      cases hresult
      exact .inr ⟨_, _, _, split, declined, response⟩
  · -- The leaves are tried in one way only, so a decision with this error is the one of `h`.
    intro hleaves
    obtain ⟨called', h'⟩ : ∃ called',
        Decided m s arguments leaves called' (.error (.unsupported s.statement.text)) := by
      rcases hleaves with declined | ⟨before, leaf, after, split, declined, response⟩
      · exact ⟨_, .unsupported declined⟩
      · exact ⟨_, .failed split declined response⟩
    obtain ⟨answer, htried, hresult⟩ := h.exists_tried
    obtain ⟨answer', htried', hresult'⟩ := h'.exists_tried
    rw [hresult, hresult', (htried.unique htried').2]

/-! ## Paths -/

mutual

/-- The path of a leaf leads through the executor that it is a leaf of. -/
theorem prefix_of_mem_leaves (path : List Nat) :
    (e : Executor α) → ∀ leaf ∈ e.leaves path, path <+: leaf.1
  | single respond => by
    intro leaf hleaf
    rw [leaves, List.mem_singleton] at hleaf
    subst hleaf
    exact List.prefix_refl path
  | chain parts => by
    intro leaf hleaf
    rw [leaves] at hleaf
    obtain ⟨i, -, hprefix⟩ := exists_prefix_of_mem_leavesFrom path 0 parts leaf hleaf
    exact (List.prefix_append path [i]).trans hprefix

/-- A leaf of a list stands under one of the positions of the list. -/
theorem exists_prefix_of_mem_leavesFrom (path : List Nat) (position : Nat) :
    (es : List (Executor α)) → ∀ leaf ∈ leavesFrom path position es,
      ∃ i, position ≤ i ∧ path ++ [i] <+: leaf.1
  | [] => by
    intro leaf hleaf
    cases hleaf
  | e :: es => by
    intro leaf hleaf
    -- The leaves of the first part, and those of the others.
    rw [leavesFrom, List.mem_append] at hleaf
    rcases hleaf with hleaf | hleaf
    · exact ⟨position, Nat.le_refl position, prefix_of_mem_leaves (path ++ [position]) e leaf hleaf⟩
    · obtain ⟨i, hi, hprefix⟩ :=
        exists_prefix_of_mem_leavesFrom path (position + 1) es leaf hleaf
      exact ⟨i, by omega, hprefix⟩

end

mutual

/-- No two leaves have the same path. -/
theorem nodup_paths (path : List Nat) :
    (e : Executor α) → ((e.leaves path).map (·.1)).Nodup
  | single respond => by
    rw [leaves]
    exact List.nodup_singleton path
  | chain parts => by
    rw [leaves]
    exact nodup_pathsFrom path 0 parts

theorem nodup_pathsFrom (path : List Nat) (position : Nat) :
    (es : List (Executor α)) → ((leavesFrom path position es).map (·.1)).Nodup
  | [] => List.nodup_nil
  | e :: es => by
    rw [leavesFrom, List.map_append, List.nodup_append]
    refine ⟨nodup_paths (path ++ [position]) e, nodup_pathsFrom path (position + 1) es, ?_⟩
    intro p hp q hq hpq
    obtain ⟨leaf, hleaf, rfl⟩ := List.mem_map.1 hp
    obtain ⟨leaf', hleaf', rfl⟩ := List.mem_map.1 hq
    -- The two paths part at this list: one leads under `position`, and the other behind it.
    have hprefix := prefix_of_mem_leaves (path ++ [position]) e leaf hleaf
    obtain ⟨i, hi, hprefix'⟩ :=
      exists_prefix_of_mem_leavesFrom path (position + 1) es leaf' hleaf'
    rw [hpq] at hprefix
    have hsame : path ++ [position] = path ++ [i] := by
      refine (List.prefix_of_prefix_length_le hprefix hprefix' ?_).eq_of_length ?_
      · simp
      · simp
    have hposition : position = i := by simpa using hsame
    omega

end

/-! ## The flat chain -/

/-- The leaves of a list of executors, as executors of one list. -/
def flat (es : List (Executor α)) : List (Executor α) :=
  (leavesFrom [] 0 es).map fun leaf => .single leaf.2

/-- Leaves that stand side by side are told apart by their positions. -/
theorem leavesFrom_singles (position : Nat) (leaves : List (Leaf α)) :
    (leavesFrom [] position (leaves.map fun leaf => .single leaf.2)).map (·.1) =
        (List.range' position leaves.length).map ([·]) ∧
      (leavesFrom [] position (leaves.map fun leaf => .single leaf.2)).map (·.2) =
        leaves.map (·.2) := by
  induction leaves generalizing position with
  | nil => exact ⟨rfl, rfl⟩
  | cons leaf ls ih =>
    obtain ⟨hpaths, hresponses⟩ := ih (position + 1)
    constructor
    · simp [leavesFrom, Executor.leaves, List.range'_succ, hpaths]
    · simp [leavesFrom, Executor.leaves, hresponses]

/-- The calls among some notes: the path of each leaf that was called, and what it was given. -/
def calls (notes : List Note) : List (List Nat × String × List Json) :=
  notes.filterMap Note.call?

/-- A chain of chains calls its leaves from left to right, each at most once and all with the same
text and arguments, up to the first that does not decline; the rows or the error of that leaf are
the result, and that all decline is an error. The flat chain of the leaves has the same result, and
calls as many of them. -/
theorem run_nested (m : Method) (s : BoundStatement) (arguments : List Json)
    (es : List (Executor α)) :
    let leaves := leavesFrom [] 0 es
    let nested := ((chain es).run m s arguments).run
    let flattened := ((chain (flat es)).run m s arguments).run
    (leaves.map (·.1)).Nodup ∧
      (∃ called, Decided m s arguments leaves called nested.result ∧
        calls nested.notes = called.map (fun leaf => (leaf.1, s.statement.text, arguments)) ∧
        calls flattened.notes =
          (List.range called.length).map (fun i => ([i], s.statement.text, arguments))) ∧
      flattened.result = nested.result ∧
      (nested.result = .error (.unsupported s.statement.text) ↔
        (∀ leaf ∈ leaves, Declines m s arguments leaf) ∨
          ∃ before leaf after, leaves = before ++ leaf :: after ∧
            (∀ earlier ∈ before, Declines m s arguments earlier) ∧
            leaf.2 m s arguments = .error (.unsupported s.statement.text)) := by
  intro leaves nested flattened
  obtain ⟨paths, answer, htried, hresult, hnotes⟩ := exists_tried_run m s arguments (chain es)
  obtain ⟨paths', answer', htried', hresult', hnotes'⟩ :=
    exists_tried_run m s arguments (chain (flat es))
  rw [Executor.leaves] at htried htried'
  obtain ⟨hpositions, hresponses⟩ := leavesFrom_singles 0 leaves
  -- The flat leaves answer as the nested ones do, and only their paths are others.
  obtain ⟨rfl, rfl⟩ := htried'.unique (htried.relabel hresponses)
  obtain ⟨called, rfl, hdecided⟩ := htried.exists_decided
  rw [← hresult] at hdecided
  refine ⟨nodup_pathsFrom [] 0 es, ⟨called, hdecided, ?_, ?_⟩, ?_, hdecided.eq_unsupported_iff⟩
  · show nested.notes.filterMap Note.call? = _
    rw [hnotes.calls, List.map_map]
    rfl
  · show flattened.notes.filterMap Note.call? = _
    rw [hnotes'.calls, flat, hpositions, List.length_map, ← List.map_take, List.map_map,
      List.range_eq_range', List.take_range'_of_length_ge hdecided.length_le]
    rfl
  · rw [show flattened.result = _ from hresult', show nested.result = _ from hresult]

/-- Not every leaf declines a statement that ends as one that nothing supports: the leaf in front
fails with that very error, and the one behind it is not called. -/
theorem unsupported_without_declining :
    let text := "SELECT * FROM /People x WHERE x.age = $1"
    let e := (Entity.ofRegion "/People").declare "age" .integer
    let m : Method :=
      ⟨"findByAge", 1, e, .none, .derived ⟨false, none, [[⟨"Age", .equals, .never⟩]], []⟩⟩
    let s : BoundStatement := ⟨⟨text⟩, some m.options⟩
    let es : List (Executor Nat) := [failing (.unsupported text), giving [7]]
    ¬(((chain es).run m s [.int 3]).run.result = .error (.unsupported s.statement.text) ↔
      ∀ leaf ∈ leavesFrom [] 0 es, leaf.2 m s [.int 3] = .ok .declined) := by
  intro text e m s es hiff
  have hresult : ((chain es).run m s [.int 3]).run.result =
      .error (.unsupported s.statement.text) := rfl
  have hfirst := hiff.1 hresult ([0], fun _ _ _ => .error (.unsupported text)) List.mem_cons_self
  cases hfirst

end DerivedQuery.Executor
