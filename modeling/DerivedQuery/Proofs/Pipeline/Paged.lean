import DerivedQuery.Proofs.Except
import DerivedQuery.Proofs.Paging.Pages
import DerivedQuery.Proofs.Run
import DerivedQuery.Pipeline

/-!
# Paged calls

The page of a call says which of the rows are looked at. Of everything that happens before, only the
sort of the page is a part.

* `execute_congr`: a call matters only for its sort.
* `run_executePaged`: a paged call goes as any other call with its sort.
* `executePaged_pages`: the pages of the rows lose and repeat nothing.
-/

namespace DerivedQuery.Pipeline

variable {α : Type}

/-- Calls with the same sort go the same way. -/
theorem execute_congr (q : Pipeline α) (arguments : List Json) {call call' : Call}
    (h : call.dynamicOrder = call'.dynamicOrder) :
    q.execute arguments call = q.execute arguments call' := by
  unfold execute prepare
  rw [h]

/-- A call with a page notes what the call notes without it, and opens a view of the rows. -/
theorem run_executePaged (q : Pipeline α) (arguments : List Json) {call : Call} {p : PageRequest}
    (hp : call.page = some p) :
    (q.executePaged arguments call).run =
      ⟨(q.execute arguments call).run.result.map fun rows => ViewStore.ofSource (fun _ => rows) p,
        (q.execute arguments call).run.notes⟩ := by
  rcases hexecute : (q.execute arguments call).run with ⟨r, notes⟩
  rw [executePaged, hp]
  cases r with
  | error err =>
    simp only [Run.run_bind_error hexecute]
    rfl
  | ok rows =>
    simp only [Run.run_bind_ok hexecute]
    exact Journaled.ext rfl (List.append_nil notes)

/-- A call without a page is refused before anything happens. -/
theorem run_executePaged_unpaged (q : Pipeline α) (arguments : List Json) (order : SortOrder) :
    (q.executePaged arguments ⟨order, none⟩).run =
      ⟨.error (.invalidRequest (.unpagedCall q.method.name)), []⟩ :=
  rfl

/-- The elements of the first view of a store, once it was looked at. -/
def firstItems (s : ViewStore α) : Option (List α) :=
  (s.read 0).map (·.1.items)

/-- What is seen through the page of a call. -/
theorem firstItems_ofSource {rows : List α} (hrows : rows.length ≤ maxCount) (p : PageRequest) :
    firstItems (ViewStore.ofSource (fun _ => rows) p) =
      some ((rows.drop (p.number * p.size)).take p.size) := by
  rw [← items_ofElements p hrows]
  rfl

/-- Whatever the number and the size of the page are, a paged call notes what an unpaged call with
the same sort notes, the texts and the arguments that executors are given among it, and fails when
that fails. If the call gives rows, their pages of one size lose and repeat nothing, as long as the
number of rows fits into a counter. Without a page, the call is refused before a hook or an executor
is asked. -/
theorem executePaged_pages (q : Pipeline α) (arguments : List Json) (order pageOrder : SortOrder)
    {call : Call} (hcall : call.dynamicOrder = order.and pageOrder) :
    let paged (number size : Nat) :=
      (q.executePaged arguments ⟨order, some ⟨number, size, pageOrder⟩⟩).run
    let unpaged := (q.executePaged arguments ⟨order, none⟩).run
    let plain := (q.execute arguments call).run
    (∀ number size, (paged number size).notes = plain.notes) ∧
    (∀ err, plain.result = .error err → ∀ number size, (paged number size).result = .error err) ∧
    (∀ rows, plain.result = .ok rows → rows.length ≤ maxCount → ∀ size, 0 < size →
      ∃ pages, CutInto rows size pages ∧
        ∀ number, ∃ s, (paged number size).result = .ok s ∧ firstItems s = some (pages number)) ∧
    ∃ err, unpaged = ⟨.error err, []⟩ ∧ err.isValidation = true := by
  intro paged unpaged plain
  -- Number and size of the page only open the view. All else is the call with the joined sort.
  have hpaged : ∀ number size, paged number size =
      ⟨plain.result.map fun rows =>
        ViewStore.ofSource (fun _ => rows) ⟨number, size, pageOrder⟩, plain.notes⟩ := by
    intro number size
    have hsame : q.execute arguments ⟨order, some ⟨number, size, pageOrder⟩⟩ =
        q.execute arguments call :=
      execute_congr q arguments hcall.symm
    show paged number size =
      ⟨(q.execute arguments call).run.result.map _, (q.execute arguments call).run.notes⟩
    rw [← hsame]
    exact run_executePaged q arguments rfl
  refine ⟨?_, ?_, ?_, ?_⟩
  · intro number size
    rw [hpaged]
  · intro err herr number size
    rw [hpaged, herr]
    rfl
  · intro rows hrows hlength size hsize
    refine ⟨_, cutInto_pages rows hsize, ?_⟩
    intro number
    refine ⟨ViewStore.ofSource (fun _ => rows) ⟨number, size, pageOrder⟩, ?_, ?_⟩
    · rw [hpaged, hrows]
      rfl
    · exact firstItems_ofSource hlength _
  · exact ⟨_, run_executePaged_unpaged q arguments order, rfl⟩

/-- Five rows on pages of two. -/
theorem executePaged_pages_people :
    let e := (Entity.ofRegion "/People").declare "age" .integer
    let m : Method :=
      ⟨"findByAge", 1, e, .none, .derived ⟨false, none, [[⟨"Age", .equals, .never⟩]], []⟩⟩
    let q : Pipeline Nat := ⟨m, [.declining, .giving [7, 8, 9, 10, 11]], .empty, [.observe "seen"]⟩
    let call : Call := ⟨.unsorted, none⟩
    let rows := [7, 8, 9, 10, 11]
    call.dynamicOrder = SortOrder.unsorted.and .unsorted ∧
      (q.execute [.int 3] call).run.result = .ok rows ∧ rows.length ≤ maxCount ∧ 0 < 2 ∧
      ∃ pages, CutInto rows 2 pages ∧ ∀ number, ∃ s,
        (q.executePaged [.int 3] ⟨.unsorted, some ⟨number, 2, .unsorted⟩⟩).run.result = .ok s ∧
          firstItems s = some (pages number) := by
  intro e m q call rows
  have hcall : call.dynamicOrder = SortOrder.unsorted.and .unsorted := rfl
  have hrows : (q.execute [.int 3] call).run.result = .ok rows :=
    eq_ok_of_toOption (by decide +kernel)
  have hlength : rows.length ≤ maxCount := by decide
  have hsize : 0 < 2 := by decide
  rcases executePaged_pages q [.int 3] .unsorted .unsorted hcall with ⟨-, -, hpages, -⟩
  exact ⟨hcall, hrows, hlength, hsize, hpages rows hrows hlength 2 hsize⟩

end DerivedQuery.Pipeline
