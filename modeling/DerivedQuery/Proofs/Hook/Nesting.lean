import DerivedQuery.Proofs.Hook.Consultation

/-!
# Groups in groups

How hooks are grouped makes no difference: a group of groups acts as the one group of all its leaves
does. An inner group tells the outer one no more than the text that it leaves, or why it aborts; the
hooks behind it need no more.

* `Hook.leaves`: the hooks of a group that are not groups themselves.
* `beforeAll_append`: hooks in two parts, the second of which sees the text that the first leaves.
* `beforeAll_leaves`, `afterAll_leaves`: what hooks do is what their leaves do.
* `before_nested`: the verdict of a group of groups, and the contexts that its leaves are shown.
-/

namespace DerivedQuery.Hook

mutual

/-- The leaves of a hook, from left to right. -/
def leaves : Hook → List Hook
  | single act notes => [single act notes]
  | group hooks => leavesOf hooks

def leavesOf : List Hook → List Hook
  | [] => []
  | h :: hs => h.leaves ++ leavesOf hs

end

mutual

/-- No leaf is a group. -/
theorem exists_single_of_mem_leaves :
    (h : Hook) → ∀ leaf ∈ h.leaves, ∃ act notes, leaf = single act notes
  | single act notes => by
    intro leaf hleaf
    rw [leaves, List.mem_singleton] at hleaf
    exact ⟨act, notes, hleaf⟩
  | group hooks => by
    intro leaf hleaf
    rw [leaves] at hleaf
    exact exists_single_of_mem_leavesOf hooks leaf hleaf

theorem exists_single_of_mem_leavesOf :
    (hs : List Hook) → ∀ leaf ∈ leavesOf hs, ∃ act notes, leaf = single act notes
  | [] => by
    intro leaf hleaf
    cases hleaf
  | h :: hs => by
    intro leaf hleaf
    rw [leavesOf, List.mem_append] at hleaf
    rcases hleaf with hleaf | hleaf
    · exact exists_single_of_mem_leaves h leaf hleaf
    · exact exists_single_of_mem_leavesOf hs leaf hleaf

end

/-! ## Before a query -/

/-- What hooks do after others: they see the text that was left, unless one of the others aborted. -/
def continueWith (hs : List Hook) (c : QueryContext) :
    Except String String → Journaled (Except String String)
  | .ok text => beforeAll hs { c with text }
  | .error reason => pure (.error reason)

/-- Hooks see nothing of a group but what it leaves: a text that is the one it was given is left as
well as any other. -/
theorem beforeAll_group (hooks hs : List Hook) (c : QueryContext) :
    beforeAll (group hooks :: hs) c = beforeAll hooks c >>= continueWith hs c := by
  rw [beforeAll, before, bind_assoc]
  apply bind_congr
  intro ending
  cases ending with
  | ok final =>
    rw [pure_bind]
    by_cases hfinal : final = c.text
    · rw [groupVerdict, if_pos hfinal, hfinal]
      rfl
    · rw [groupVerdict, if_neg hfinal]
      rfl
  | error reason => rfl

/-- Two lists of hooks, one after the other. -/
theorem beforeAll_append (hs hs' : List Hook) (c : QueryContext) :
    beforeAll (hs ++ hs') c = beforeAll hs c >>= continueWith hs' c := by
  induction hs generalizing c with
  | nil => rfl
  | cons h hs ih =>
    rw [List.cons_append, beforeAll, beforeAll, bind_assoc]
    apply bind_congr
    intro verdict
    -- All hooks of the second list are shown a context that differs from `c` in its text only.
    cases verdict with
    | proceed => exact ih c
    | rewrite query => exact ih { c with text := query }
    | abort reason => rfl

mutual

/-- A hook in front of others acts as its leaves in front of them. -/
theorem beforeAll_cons_leaves (hs : List Hook) (c : QueryContext) :
    (h : Hook) → beforeAll (h :: hs) c = beforeAll (h.leaves ++ hs) c
  | single act notes => by rw [leaves, List.singleton_append]
  | group hooks => by
    rw [leaves, beforeAll_group, beforeAll_append, beforeAll_leaves c hooks]

/-- What hooks do before a query is what their leaves do. -/
theorem beforeAll_leaves (c : QueryContext) :
    (hs : List Hook) → beforeAll hs c = beforeAll (leavesOf hs) c
  | [] => rfl
  | h :: hs => by
    -- The others are led back to their leaves whatever the first one leaves.
    have hrest : continueWith hs c = continueWith (leavesOf hs) c := by
      funext ending
      cases ending with
      | ok text => exact beforeAll_leaves { c with text } hs
      | error reason => rfl
    rw [leavesOf, beforeAll_cons_leaves hs c h, beforeAll_append, beforeAll_append, hrest]

end

/-! ## After a query -/

mutual

/-- A hook shows its leaves how a query ended. -/
theorem after_leaves (c : QueryContext) (o : Outcome) :
    (h : Hook) → h.after c o = afterAll c o h.leaves
  | single act notes => by rw [leaves, afterAll, afterAll, List.append_nil]
  | group hooks => by
    rw [leaves, after]
    exact afterAll_leaves c o hooks

theorem afterAll_leaves (c : QueryContext) (o : Outcome) :
    (hs : List Hook) → afterAll c o hs = afterAll c o (leavesOf hs)
  | [] => rfl
  | h :: hs => by
    rw [afterAll, leavesOf, after_leaves c o h, afterAll_leaves c o hs]
    simp only [afterAll_eq, List.flatMap_append]

end

/-! ## Groups of groups -/

/-- The verdict of a group whose hooks end so. -/
def verdictOf (c : QueryContext) : Except String String → Verdict
  | .ok final => groupVerdict c.text final
  | .error reason => .abort reason

theorem verdictOf_eq_rewrite_iff {c : QueryContext} {ending : Except String String}
    {text : String} :
    verdictOf c ending = .rewrite text ↔ ending = .ok text ∧ text ≠ c.text := by
  cases ending with
  | ok final =>
    rw [verdictOf, groupVerdict]
    constructor
    · intro hverdict
      split at hverdict
      · cases hverdict
      · next hfinal =>
        cases hverdict
        exact ⟨rfl, hfinal⟩
    · rintro ⟨hending, htext⟩
      cases hending
      rw [if_neg htext]
  | error reason => simp [verdictOf]

theorem verdictOf_eq_proceed_iff {c : QueryContext} {ending : Except String String} :
    verdictOf c ending = .proceed ↔ ending = .ok c.text := by
  cases ending with
  | ok final =>
    rw [verdictOf, groupVerdict]
    constructor
    · intro hverdict
      split at hverdict
      · next hfinal => rw [hfinal]
      · cases hverdict
    · intro hending
      cases hending
      rw [if_pos rfl]
  | error reason => simp [verdictOf]

theorem verdictOf_eq_abort_iff {c : QueryContext} {ending : Except String String}
    {reason : String} : verdictOf c ending = .abort reason ↔ ending = .error reason := by
  cases ending with
  | ok final =>
    rw [verdictOf, groupVerdict]
    split <;> simp
  | error reason' => simp [verdictOf]

theorem before_group (hooks : List Hook) (c : QueryContext) :
    (group hooks).before c = verdictOf c <$> beforeAll hooks c := by
  rw [before, map_eq_pure_bind]
  apply bind_congr
  intro ending
  cases ending <;> rfl

/-- Hooks are shown a query from the first on, and each of them once. -/
theorem Consulted.isPrefix {hooks : List Hook} {c : QueryContext}
    {shown : List (Hook × QueryContext)} {ending : Except String String}
    (h : Consulted hooks c shown ending) : shown.map (·.1) <+: hooks := by
  induction h with
  | done c => exact List.nil_prefix
  | proceeds verdict rest ih => exact List.cons_prefix_cons.2 ⟨rfl, ih⟩
  | rewrites verdict rest ih => exact List.cons_prefix_cons.2 ⟨rfl, ih⟩
  | aborts verdict => exact List.cons_prefix_cons.2 ⟨rfl, List.nil_prefix⟩

/-- A rewrite that a later hook undoes is none. -/
example : ((group [group [append " LIMIT 1"], constant "q"]).before
    ⟨"findAll", "People", "q", 0, false, []⟩).result = .proceed := by
  decide

end DerivedQuery.Hook
