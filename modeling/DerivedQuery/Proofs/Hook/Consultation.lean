import DerivedQuery.Hook

/-!
# Consulting hooks

* `Hook.Consulted`: which hooks of a list are shown a query, what each of them sees, and how that
  ends.
* `exists_consulted`: the hooks of a group are consulted, and nothing else is noted.
* `Consulted.context_eq`: hooks see nothing changed but the text.
* `afterAll_eq`: every hook is shown how a query ended, once.
-/

namespace DerivedQuery.Hook

/-- `Consulted hooks c shown ending`: hooks are shown the query of the context `c` from the first on.
Each sees the text that the earlier ones left. The consultation ends with the text that the last one
leaves, or with the reason of the first that aborts. -/
inductive Consulted :
    List Hook → QueryContext → List (Hook × QueryContext) → Except String String → Prop
  | done (c : QueryContext) : Consulted [] c [] (.ok c.text)
  | proceeds {h : Hook} {hs : List Hook} {c : QueryContext} {shown : List (Hook × QueryContext)}
      {ending : Except String String} (verdict : (h.before c).result = .proceed)
      (rest : Consulted hs c shown ending) : Consulted (h :: hs) c ((h, c) :: shown) ending
  | rewrites {h : Hook} {hs : List Hook} {c : QueryContext} {query : String}
      {shown : List (Hook × QueryContext)} {ending : Except String String}
      (verdict : (h.before c).result = .rewrite query)
      (rest : Consulted hs { c with text := query } shown ending) :
      Consulted (h :: hs) c ((h, c) :: shown) ending
  | aborts {h : Hook} {hs : List Hook} {c : QueryContext} {reason : String}
      (verdict : (h.before c).result = .abort reason) :
      Consulted (h :: hs) c [(h, c)] (.error reason)

/-- What hooks note of the queries that they are shown. -/
def notesBefore (shown : List (Hook × QueryContext)) : List Note :=
  shown.flatMap fun (h, c) => (h.before c).notes

/-- The hooks of a list are consulted, and nothing is noted but what they note themselves. -/
theorem exists_consulted (hooks : List Hook) (c : QueryContext) :
    ∃ shown, Consulted hooks c shown (beforeAll hooks c).result ∧
      (beforeAll hooks c).notes = notesBefore shown := by
  induction hooks generalizing c with
  | nil => exact ⟨[], .done c, rfl⟩
  | cons h hs ih =>
    rw [beforeAll, Journaled.result_bind, Journaled.notes_bind]
    cases verdict : (h.before c).result with
    | proceed =>
      rcases ih c with ⟨shown, hshown, hnotes⟩
      refine ⟨(h, c) :: shown, .proceeds verdict hshown, ?_⟩
      simp [hnotes, notesBefore]
    | rewrite query =>
      rcases ih { c with text := query } with ⟨shown, hshown, hnotes⟩
      refine ⟨(h, c) :: shown, .rewrites verdict hshown, ?_⟩
      simp [hnotes, notesBefore]
    | abort reason =>
      refine ⟨[(h, c)], .aborts verdict, ?_⟩
      simp [notesBefore]

/-- The contexts that hooks are shown differ in the text only. -/
theorem Consulted.context_eq {hooks : List Hook} {c : QueryContext}
    {shown : List (Hook × QueryContext)} {ending : Except String String}
    (h : Consulted hooks c shown ending) (text : String) :
    ∀ s ∈ shown, { s.2 with text } = { c with text } := by
  induction h with
  | done c => simp
  | proceeds verdict rest ih => exact List.forall_mem_cons.2 ⟨rfl, ih⟩
  | rewrites verdict rest ih => exact List.forall_mem_cons.2 ⟨rfl, ih⟩
  | aborts verdict => simp

/-- Every hook is shown how a query ended, once and in order. -/
theorem afterAll_eq (c : QueryContext) (o : Outcome) (hooks : List Hook) :
    afterAll c o hooks = hooks.flatMap (·.after c o) := by
  induction hooks with
  | nil => rfl
  | cons h hs ih => rw [afterAll, ih, List.flatMap_cons]

end DerivedQuery.Hook
