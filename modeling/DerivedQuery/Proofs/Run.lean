import DerivedQuery.Journal

/-!
# Computations that make notes

What a computation in steps leaves behind: the notes of each step that is reached, and the result of
the last one.

* `Run.run_bind_ok`, `Run.run_bind_error`: a step that succeeds, and one that ends the computation.
* `Run.run_ofExcept_bind_ok`, `Run.run_note_bind`: steps that make no notes, and nothing but notes.
-/

namespace DerivedQuery.Run

variable {α β : Type} {x : Run α} {f : α → Run β} {notes : List Note}

@[simp] theorem run_pure (a : α) : (pure a : Run α).run = ⟨.ok a, []⟩ :=
  rfl

@[simp] theorem run_note (notes : List Note) : (note notes).run = ⟨.ok (), notes⟩ :=
  Journaled.ext rfl (List.append_nil notes)

@[simp] theorem run_ofExcept (r : Except QueryError α) : (ofExcept r).run = ⟨r, []⟩ :=
  rfl

/-- After a step that succeeds, the computation goes on with its result. -/
theorem run_bind_ok {a : α} (h : x.run = ⟨.ok a, notes⟩) :
    (x >>= f).run = ⟨(f a).run.result, notes ++ (f a).run.notes⟩ := by
  rw [ExceptT.run_bind, h]
  rfl

/-- A step that fails is the last one. -/
theorem run_bind_error {err : QueryError} (h : x.run = ⟨.error err, notes⟩) :
    (x >>= f).run = ⟨.error err, notes⟩ := by
  rw [ExceptT.run_bind, h]
  exact Journaled.ext rfl (List.append_nil notes)

theorem run_ofExcept_bind_ok {r : Except QueryError α} {a : α} (h : r = .ok a) :
    (ofExcept r >>= f).run = (f a).run := by
  rw [h, run_bind_ok (run_ofExcept _)]
  rfl

theorem run_ofExcept_bind_error {r : Except QueryError α} {err : QueryError} (h : r = .error err) :
    (ofExcept r >>= f).run = ⟨.error err, []⟩ := by
  rw [h, run_bind_error (run_ofExcept _)]

/-- A step that only makes notes. -/
theorem run_note_bind {f : Unit → Run β} :
    (note notes >>= f).run = ⟨(f ()).run.result, notes ++ (f ()).run.notes⟩ :=
  run_bind_ok (run_note notes)

end DerivedQuery.Run
