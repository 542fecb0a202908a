import DerivedQuery.Proofs.Paging.Pages
import Mathlib.Data.List.Basic

/-!
# Views that share a source

A session opens views of one source, describes them and looks at them, in any order. What it leaves
behind can be read off its steps: the pages of the views, and the views that were looked at, in the
order of the first looks.

* `pagesOf`, `lookedAt`: what the steps of a session say.
* `ViewStore.ofHistory`: the store that they lead to; `perform_ofHistory` and `session_ofHistory`
  go on from there.
* `session_once_per_view`: the source is read once for each view that is looked at, which is
  answered from that list ever after.
-/

namespace DerivedQuery

namespace ViewStep

/-- The pages of the views after a step, where they were `pages` before. -/
def pagesAfter (pages : List PageRequest) : ViewStep → List PageRequest
  | add p => pages ++ [p]
  | next view => pages ++ (pages[view]?.map PageRequest.next).toList
  | previous view => pages ++ (pages[view]?.map PageRequest.previousOrFirst).toList
  | describe _ => pages
  | look _ _ => pages

/-- The views that were looked at after a step, where they were `seen` before. -/
def seenAfter (seen : List Nat) : ViewStep → List Nat
  | look view _ => if view ∈ seen then seen else seen ++ [view]
  | _ => seen

/-- The view that a step refers to is one of the first `count`. -/
def RefersBelow (count : Nat) : ViewStep → Prop
  | add _ => True
  | next view => view < count
  | previous view => view < count
  | describe view => view < count
  | look view _ => view < count

/-- Each step refers to a view that exists by then; the views at the beginning have the pages
`pages`. -/
def InScope : List PageRequest → List ViewStep → Prop
  | _, [] => True
  | pages, step :: steps => step.RefersBelow pages.length ∧ InScope (step.pagesAfter pages) steps

end ViewStep

open ViewStep

/-- The pages of all views of a session that begins with one view. -/
def pagesOf (p : PageRequest) (steps : List ViewStep) : List PageRequest :=
  steps.foldl pagesAfter [p]

/-- The views that are looked at, each once and in the order of the first looks. -/
def lookedAt (steps : List ViewStep) : List Nat :=
  steps.foldl seenAfter []

/-! ## What the steps say -/

/-- A step adds at most one view, behind the others. -/
theorem prefix_pagesAfter (pages : List PageRequest) (step : ViewStep) :
    pages <+: step.pagesAfter pages := by
  cases step with
  | add p => exact List.prefix_append _ _
  | next view => exact List.prefix_append _ _
  | previous view => exact List.prefix_append _ _
  | describe view => exact List.prefix_rfl
  | look view how => exact List.prefix_rfl

/-- Views keep their pages. -/
theorem prefix_foldl_pagesAfter (pages : List PageRequest) (steps : List ViewStep) :
    pages <+: steps.foldl pagesAfter pages := by
  induction steps generalizing pages with
  | nil => exact List.prefix_rfl
  | cons step steps ih => exact (prefix_pagesAfter pages step).trans (ih _)

/-- A view keeps its page through all further steps. -/
theorem getElem?_foldl_pagesAfter {pages : List PageRequest} {view : Nat} {p : PageRequest}
    (hp : pages[view]? = some p) (steps : List ViewStep) :
    (steps.foldl pagesAfter pages)[view]? = some p := by
  obtain ⟨rest, hrest⟩ := prefix_foldl_pagesAfter pages steps
  have hlt : view < pages.length := (List.getElem?_eq_some_iff.1 hp).1
  rw [← hrest, List.getElem?_append_left hlt, hp]

/-- A view was looked at before, or is looked at now. -/
theorem mem_seenAfter {seen : List Nat} {step : ViewStep} {view : Nat} :
    view ∈ step.seenAfter seen ↔ view ∈ seen ∨ ∃ how, step = .look view how := by
  cases step with
  | look other how =>
    by_cases hother : other ∈ seen
    · simp only [seenAfter, if_pos hother, look.injEq, exists_and_left, exists_eq', and_true]
      constructor
      · exact .inl
      · rintro (hview | rfl)
        · exact hview
        · exact hother
    · simp only [seenAfter, if_neg hother, List.mem_append, List.mem_singleton, look.injEq,
        exists_and_left, exists_eq', and_true]
      exact or_congr_right eq_comm
  | _ => simp [seenAfter]

/-- A view was looked at if some step looks at it. -/
theorem mem_foldl_seenAfter {seen : List Nat} {steps : List ViewStep} {view : Nat} :
    view ∈ steps.foldl seenAfter seen ↔ view ∈ seen ∨ ∃ how, .look view how ∈ steps := by
  induction steps generalizing seen with
  | nil => simp
  | cons step steps ih =>
    rw [List.foldl_cons, ih, mem_seenAfter, or_assoc, ← exists_or]
    simp only [List.mem_cons, eq_comm]

/-- The order of the first looks is kept. -/
theorem prefix_seenAfter (seen : List Nat) (step : ViewStep) : seen <+: step.seenAfter seen := by
  cases step with
  | look view how =>
    show seen <+: if view ∈ seen then seen else seen ++ [view]
    split
    · exact List.prefix_rfl
    · exact List.prefix_append _ _
  | _ => exact List.prefix_rfl

/-- And so it is through all further steps. -/
theorem prefix_foldl_seenAfter (seen : List Nat) (steps : List ViewStep) :
    seen <+: steps.foldl seenAfter seen := by
  induction steps generalizing seen with
  | nil => exact List.prefix_rfl
  | cons step steps ih => exact (prefix_seenAfter seen step).trans (ih _)

/-- No view is listed twice. -/
theorem nodup_foldl_seenAfter {seen : List Nat} (h : seen.Nodup) (steps : List ViewStep) :
    (steps.foldl seenAfter seen).Nodup := by
  induction steps generalizing seen with
  | nil => exact h
  | cons step steps ih =>
    apply ih
    cases step with
    | look view how =>
      by_cases hview : view ∈ seen
      · rw [seenAfter, if_pos hview]
        exact h
      · rw [seenAfter, if_neg hview]
        -- The view is new, and so different from those that were looked at.
        refine List.nodup_append.2 ⟨h, List.pairwise_singleton _ view, ?_⟩
        intro a ha b hb hab
        rw [hab, List.mem_singleton.1 hb] at ha
        exact hview ha
    | _ => exact h

/-- The first look at a view keeps its place. -/
theorem idxOf_eq_of_prefix {seen later : List Nat} (h : seen <+: later) {view : Nat}
    (hview : view ∈ seen) : later.idxOf view = seen.idxOf view := by
  obtain ⟨rest, rfl⟩ := h
  rw [List.idxOf_append, if_pos hview]

/-! ## The store of a history -/

namespace ViewStore

variable {α : Type} {source : Nat → List α} {pages : List PageRequest} {seen : List Nat}

/-- What a view has kept: the slice of the list that was read for it, once it was looked at. -/
def keptSlice (source : Nat → List α) (seen : List Nat) (view : Nat) (p : PageRequest) :
    Option (Slice α) :=
  if view ∈ seen then some (Slice.ofElements p (source (seen.idxOf view))) else none

/-- The store of a source whose views have the pages `pages`, when those in `seen` were looked
at. -/
def ofHistory (source : Nat → List α) (pages : List PageRequest) (seen : List Nat) :
    ViewStore α where
  source := source
  materialized := seen.length
  views := pages.mapIdx fun view p => ⟨p, keptSlice source seen view p⟩

/-- There is a view for each page. -/
theorem length_views_ofHistory : (ofHistory source pages seen).views.length = pages.length :=
  List.length_mapIdx

/-- A view has its page, and what it has kept of it. -/
theorem getElem?_views_ofHistory (view : Nat) :
    (ofHistory source pages seen).views[view]? =
      pages[view]?.map fun p => ⟨p, keptSlice source seen view p⟩ :=
  List.getElem?_mapIdx

/-- At the beginning there is one view, and nothing was read. -/
theorem ofSource_eq (source : Nat → List α) (p : PageRequest) :
    ofSource source p = ofHistory source [p] [] := by
  simp [ofSource, ofHistory, keptSlice]

/-- A new view has not been looked at. -/
theorem addView_ofHistory (hseen : ∀ view ∈ seen, view < pages.length) (p : PageRequest) :
    (ofHistory source pages seen).addView p = ofHistory source (pages ++ [p]) seen := by
  have hnew : pages.length ∉ seen := by
    intro hmem
    exact Nat.lt_irrefl _ (hseen _ hmem)
  simp [addView, ofHistory, List.mapIdx_append, keptSlice, hnew]

/-- A look at one view leaves what the others have kept. -/
theorem keptSlice_append_of_ne {view other : Nat} (h : view ≠ other) :
    keptSlice source (seen ++ [view]) other = keptSlice source seen other := by
  funext p
  by_cases hother : other ∈ seen
  · simp [keptSlice, hother, List.idxOf_append]
  · simp [keptSlice, hother, h.symm]

/-- A view that is looked at is answered from the list that is read then, or was read when it was
looked at first. -/
theorem read_ofHistory {view : Nat} {p : PageRequest} (hp : pages[view]? = some p) (how : Look) :
    (ofHistory source pages seen).read view =
      some (Slice.ofElements p (source (((look view how).seenAfter seen).idxOf view)),
        ofHistory source pages ((look view how).seenAfter seen)) := by
  have hview : (ofHistory source pages seen).views[view]? =
      some ⟨p, keptSlice source seen view p⟩ := by
    rw [getElem?_views_ofHistory, hp]
    rfl
  unfold read
  rw [hview]
  by_cases hseen : view ∈ seen
  · -- It has been looked at, so that its slice is returned and nothing is read.
    simp only [keptSlice, seenAfter, if_pos hseen]
  · -- The list is the next one that the source gives, and the view keeps its slice.
    have hindex : (seen ++ [view]).idxOf view = seen.length := by
      rw [List.idxOf_append, if_neg hseen]
      simp
    simp only [keptSlice, seenAfter, if_neg hseen, hindex]
    have hviews : (ofHistory source pages seen).views.set view
        ⟨p, some (Slice.ofElements p (source seen.length))⟩ =
          (ofHistory source pages (seen ++ [view])).views := by
      -- Views are compared one by one: the one that was looked at and any other.
      apply List.ext_getElem?
      intro other
      rw [List.getElem?_set, getElem?_views_ofHistory, getElem?_views_ofHistory]
      by_cases hother : view = other
      · subst hother
        have hlt : view < (ofHistory source pages seen).views.length := by
          rw [length_views_ofHistory]
          exact (List.getElem?_eq_some_iff.1 hp).1
        simp [hlt, hp, keptSlice, hindex]
      · have hkept : keptSlice source (seen ++ [view]) other = keptSlice source seen other :=
          keptSlice_append_of_ne hother
        rw [if_neg hother, hkept]
    have hsource : (ofHistory source pages seen).source (ofHistory source pages seen).materialized =
        source seen.length := rfl
    rw [hsource, hviews]
    simp [ofHistory]

/-! ## Steps -/

variable [BEq α]

/-- What looking at a view would show. -/
def shows (s : ViewStore α) (view : Nat) (how : Look) : Option (ViewReply α) :=
  (s.perform (.look view how)).map Prod.fst

/-- A look shows the page of the list that was read for the view. -/
theorem perform_look_ofHistory {view : Nat} {p : PageRequest} (hp : pages[view]? = some p)
    (how : Look) :
    (ofHistory source pages seen).perform (.look view how) =
      some (.seen (how.sight p
          (Slice.ofElements p (source (((look view how).seenAfter seen).idxOf view)))),
        ofHistory source pages ((look view how).seenAfter seen)) := by
  have hview : (ofHistory source pages seen).views[view]? =
      some ⟨p, keptSlice source seen view p⟩ := by
    rw [getElem?_views_ofHistory, hp]
    rfl
  simp [perform, hview, read_ofHistory hp how]

/-- A step that refers to an existing view leads from a history to a longer one. -/
theorem perform_ofHistory (source : Nat → List α) {step : ViewStep}
    (hstep : step.RefersBelow pages.length) (hseen : ∀ view ∈ seen, view < pages.length) :
    ∃ reply, (ofHistory source pages seen).perform step =
      some (reply, ofHistory source (step.pagesAfter pages) (step.seenAfter seen)) := by
  have hview {view : Nat} (hlt : view < pages.length) :
      ∃ p, pages[view]? = some p ∧ (ofHistory source pages seen).views[view]? =
        some ⟨p, keptSlice source seen view p⟩ := by
    refine ⟨_, List.getElem?_eq_getElem hlt, ?_⟩
    rw [getElem?_views_ofHistory, List.getElem?_eq_getElem hlt]
    rfl
  cases step with
  -- Opening a view, by itself or from another one, adds its page.
  | add p =>
    refine ⟨.opened pages.length, ?_⟩
    simp [perform, addView_ofHistory hseen, length_views_ofHistory, pagesAfter, seenAfter]
  | next view =>
    obtain ⟨p, hp, hv⟩ := hview hstep
    refine ⟨.opened pages.length, ?_⟩
    simp [perform, hv, hp, addView_ofHistory hseen, length_views_ofHistory, pagesAfter, seenAfter]
  | previous view =>
    obtain ⟨p, hp, hv⟩ := hview hstep
    refine ⟨.opened pages.length, ?_⟩
    simp [perform, hv, hp, addView_ofHistory hseen, length_views_ofHistory, pagesAfter, seenAfter]
  -- A description needs no list.
  | describe view =>
    obtain ⟨p, hp, hv⟩ := hview hstep
    refine ⟨.described (PagedView.description ⟨p, keptSlice source seen view p⟩), ?_⟩
    simp [perform, hv, pagesAfter, seenAfter]
  | look view how =>
    obtain ⟨p, hp, -⟩ := hview hstep
    exact ⟨_, perform_look_ofHistory hp how⟩

/-! ## Sessions -/

/-- The views that were looked at exist. -/
theorem lt_of_mem_seenAfter {step : ViewStep} (hstep : step.RefersBelow pages.length)
    (hseen : ∀ view ∈ seen, view < pages.length) :
    ∀ view ∈ step.seenAfter seen, view < (step.pagesAfter pages).length := by
  intro view hview
  have hlength := (prefix_pagesAfter pages step).length_le
  rcases mem_seenAfter.1 hview with hmem | ⟨how, rfl⟩
  · exact Nat.lt_of_lt_of_le (hseen view hmem) hlength
  · exact Nat.lt_of_lt_of_le hstep hlength

/-- And so they do through all further steps. -/
theorem lt_of_mem_foldl_seenAfter {steps : List ViewStep} (hscope : InScope pages steps)
    (hseen : ∀ view ∈ seen, view < pages.length) :
    ∀ view ∈ steps.foldl seenAfter seen, view < (steps.foldl pagesAfter pages).length := by
  induction steps generalizing pages seen with
  | nil => exact hseen
  | cons step steps ih => exact ih hscope.2 (lt_of_mem_seenAfter hscope.1 hseen)

/-- A session whose steps refer to existing views leads from a history to a longer one, and every
look on the way is answered from the list that is read for its view. -/
theorem session_ofHistory (source : Nat → List α) {steps : List ViewStep}
    (hscope : InScope pages steps) (hseen : ∀ view ∈ seen, view < pages.length) :
    ∃ replies, (ofHistory source pages seen).session steps = some (replies,
        ofHistory source (steps.foldl pagesAfter pages) (steps.foldl seenAfter seen)) ∧
      ∀ (i view : Nat) (how : Look), steps[i]? = some (.look view how) →
        ∃ p, (steps.foldl pagesAfter pages)[view]? = some p ∧
          replies[i]? = some (.seen (how.sight p
            (Slice.ofElements p (source ((steps.foldl seenAfter seen).idxOf view))))) := by
  induction steps generalizing pages seen with
  | nil => exact ⟨[], rfl, by simp⟩
  | cons step steps ih =>
    -- The first step leads to a history again, where the other steps go on.
    obtain ⟨hstep, hsteps⟩ := hscope
    obtain ⟨reply, hreply⟩ := perform_ofHistory source hstep hseen
    obtain ⟨replies, hreplies, hlooks⟩ := ih hsteps (lt_of_mem_seenAfter hstep hseen)
    refine ⟨reply :: replies, ?_, ?_⟩
    · simp [session, hreply, hreplies]
    · intro i view how hi
      cases i with
      | zero =>
        -- The first step is the look. The page of its view and the place of its list are kept.
        obtain rfl : step = .look view how := by simpa using hi
        obtain ⟨p, hp⟩ : ∃ p, pages[view]? = some p := ⟨_, List.getElem?_eq_getElem hstep⟩
        have hlook : (ofHistory source pages seen).perform (.look view how) = _ :=
          perform_look_ofHistory hp how
        -- The reply is the one that was computed above.
        rw [hreply] at hlook
        have hshown := congrArg Prod.fst (Option.some.inj hlook)
        have hmem : view ∈ (look view how).seenAfter seen := mem_seenAfter.2 (.inr ⟨how, rfl⟩)
        -- Later looks come behind, so that the place found now is the place in the end.
        have hplace := idxOf_eq_of_prefix (prefix_foldl_seenAfter _ steps) hmem
        refine ⟨p, getElem?_foldl_pagesAfter hp (look view how :: steps), ?_⟩
        rw [List.foldl_cons, hplace, List.getElem?_cons_zero]
        exact congrArg some hshown
      | succ i => exact hlooks i view how (by simpa using hi)

/-- No look, nothing more that was looked at. -/
theorem foldl_seenAfter_of_no_look {steps : List ViewStep}
    (h : ∀ view how, .look view how ∉ steps) (seen : List Nat) :
    steps.foldl seenAfter seen = seen := by
  induction steps with
  | nil => rfl
  | cons step steps ih =>
    have hsteps : ∀ view how, .look view how ∉ steps := by
      intro view how hmem
      exact h view how (List.mem_cons_of_mem step hmem)
    cases step with
    | look view how => exact absurd List.mem_cons_self (h view how)
    | _ => exact ih hsteps

/-- What a look at a view would show, from its history. -/
theorem shows_ofHistory {view : Nat} {p : PageRequest} (hp : pages[view]? = some p) (how : Look) :
    (ofHistory source pages seen).shows view how = some (.seen (how.sight p
      (Slice.ofElements p (source (((look view how).seenAfter seen).idxOf view))))) := by
  rw [shows, perform_look_ofHistory hp how]
  rfl

/-- What a session has answered, and where it leaves its store. -/
structure Served (source : Nat → List α) (p : PageRequest) (steps : List ViewStep)
    (replies : List (ViewReply α)) (s : ViewStore α) : Prop where
  /-- The source is read once for each view that is looked at, and for no other. -/
  materialized_eq : s.materialized = (lookedAt steps).length
  nodup : (lookedAt steps).Nodup
  mem_lookedAt : ∀ view, view ∈ lookedAt steps ↔ ∃ how, .look view how ∈ steps
  /-- Every look at a view sees its page of the list that was read for it. -/
  looks : ∀ (i view : Nat) (how : Look), steps[i]? = some (.look view how) →
    let read := source ((lookedAt steps).idxOf view)
    ∃ q, (pagesOf p steps)[view]? = some q ∧ (Slice.ofElements q read).IsPart q read ∧
      replies[i]? = some (.seen (how.sight q (Slice.ofElements q read)))

/-- What further steps, after those of `steps`, leave of the store `s` in the store `t`. -/
structure Undisturbed (steps more : List ViewStep) (s t : ViewStore α) : Prop where
  /-- A view that was looked at shows what it showed. -/
  looked : ∀ view ∈ lookedAt steps, ∀ how, t.shows view how = s.shows view how
  /-- A view is as it was unless it is looked at. -/
  unlooked : ∀ view < s.views.length, (∀ how, .look view how ∉ more) →
    t.views[view]? = s.views[view]?
  /-- Without a look at any view, all show what they would have shown. -/
  opened : (∀ view how, .look view how ∉ more) → ∀ view < s.views.length, ∀ how,
    t.shows view how = s.shows view how

/-- Further steps lead to a history that goes on from this one. -/
theorem undisturbed_ofHistory {steps more : List ViewStep} {p : PageRequest}
    (hseen : ∀ view ∈ lookedAt steps, view < (pagesOf p steps).length) :
    Undisturbed steps more (ofHistory source (pagesOf p steps) (lookedAt steps))
      (ofHistory source (more.foldl pagesAfter (pagesOf p steps))
        (more.foldl seenAfter (lookedAt steps))) := by
  have hpage {view : Nat} (hview : view < (pagesOf p steps).length) :
      ∃ q, (pagesOf p steps)[view]? = some q ∧
        (more.foldl pagesAfter (pagesOf p steps))[view]? = some q :=
    ⟨_, List.getElem?_eq_getElem hview,
      getElem?_foldl_pagesAfter (List.getElem?_eq_getElem hview) more⟩
  -- The views that were looked at keep their places.
  have hkeeps := prefix_foldl_seenAfter (lookedAt steps) more
  constructor
  · -- A view that was looked at has its list already.
    intro view hview how
    obtain ⟨q, hq, hq'⟩ := hpage (hseen view hview)
    have hplace := idxOf_eq_of_prefix hkeeps hview
    have hlater := hkeeps.subset hview
    rw [shows_ofHistory hq, shows_ofHistory hq', seenAfter, seenAfter, if_pos hview,
      if_pos hlater, hplace]
  · -- A view that is not looked at: either it has its slice, or it has none before and after.
    intro view hview hmore
    rw [length_views_ofHistory] at hview
    obtain ⟨q, hq, hq'⟩ := hpage hview
    have hkept : keptSlice source (more.foldl seenAfter (lookedAt steps)) view q =
        keptSlice source (lookedAt steps) view q := by
      by_cases hmem : view ∈ lookedAt steps
      · have hplace := idxOf_eq_of_prefix hkeeps hmem
        rw [keptSlice, keptSlice, if_pos hmem, if_pos (hkeeps.subset hmem), hplace]
      · have hlater : view ∉ more.foldl seenAfter (lookedAt steps) := by
          intro hlater
          rcases mem_foldl_seenAfter.1 hlater with hbefore | ⟨how, hlook⟩
          · exact hmem hbefore
          · exact hmore how hlook
        rw [keptSlice, keptSlice, if_neg hmem, if_neg hlater]
    rw [getElem?_views_ofHistory, getElem?_views_ofHistory, hq, hq', Option.map_some,
      Option.map_some, hkept]
  · -- Without a look nothing is read, so that the next list is the same.
    intro hmore view hview how
    rw [length_views_ofHistory] at hview
    obtain ⟨q, hq, hq'⟩ := hpage hview
    rw [shows_ofHistory hq, shows_ofHistory hq', foldl_seenAfter_of_no_look hmore]

/-- Whatever is done with the views of a source, and whatever the source holds each time it is read:
it is read once for each view that is looked at, which is answered from that one list through its
own page, and nothing that is done later with any view changes that. -/
theorem session_once_per_view (source : Nat → List α) (p : PageRequest) {steps : List ViewStep}
    (h : InScope [p] steps) :
    ∃ replies s, (ofSource source p).session steps = some (replies, s) ∧
      Served source p steps replies s ∧
      ∀ more, InScope (pagesOf p steps) more →
        ∃ later t, s.session more = some (later, t) ∧ Undisturbed steps more s t := by
  have hnone : ∀ view ∈ ([] : List Nat), view < [p].length := by simp
  obtain ⟨replies, hsession, hlooks⟩ := session_ofHistory source h hnone
  have hseen := lt_of_mem_foldl_seenAfter h hnone
  refine ⟨replies, ofHistory source (pagesOf p steps) (lookedAt steps), ?_, ?_, ?_⟩
  · rw [ofSource_eq]
    exact hsession
  · refine ⟨rfl, nodup_foldl_seenAfter List.nodup_nil steps, ?_, ?_⟩
    · intro view
      rw [lookedAt, mem_foldl_seenAfter]
      simp
    · intro i view how hi
      obtain ⟨q, hq, hreply⟩ := hlooks i view how hi
      exact ⟨q, hq, isPart_ofElements q _, hreply⟩
  · -- Further steps start from the history that the steps have led to.
    intro more hmore
    obtain ⟨later, hlater, -⟩ := session_ofHistory source hmore hseen
    exact ⟨later, _, hlater, undisturbed_ofHistory hseen⟩

/-- A source that holds something else each time it is read, two views of it, and a look at the
first one after the second was looked at. -/
theorem session_once_per_view_changing_source :
    let source (k : Nat) : List Nat := [k, k + 10, k + 20]
    let p : PageRequest := ⟨0, 2, .unsorted⟩
    let steps : List ViewStep :=
      [.look 0 .list, .next 0, .describe 1, .look 1 .page, .previous 1, .look 0 .size]
    InScope [p] steps ∧ lookedAt steps = [0, 1] ∧
      ∃ replies s, (ofSource source p).session steps = some (replies, s) ∧
        Served source p steps replies s ∧
        replies[0]? = some (.seen (.elements [0, 10])) ∧
        replies[5]? = some (.seen (.count 2)) ∧
        ∀ more, InScope (pagesOf p steps) more →
          ∃ later t, s.session more = some (later, t) ∧ Undisturbed steps more s t := by
  intro source p steps
  have hscope : InScope [p] steps := by
    simp [steps, InScope, RefersBelow, pagesAfter]
  obtain ⟨replies, s, hsession, hserved, hlater⟩ := session_once_per_view source p hscope
  -- The first view shows its page of the list that was read first, then and later.
  have hreplies : ((ofSource source p).session steps).map (fun r => (r.1[0]?, r.1[5]?)) =
      some (some (.seen (.elements [0, 10])), some (.seen (.count 2))) := by
    rfl
  rw [hsession, Option.map_some, Option.some.injEq, Prod.mk.injEq] at hreplies
  exact ⟨hscope, rfl, replies, s, hsession, hserved, hreplies.1, hreplies.2, hlater⟩

end ViewStore

end DerivedQuery
