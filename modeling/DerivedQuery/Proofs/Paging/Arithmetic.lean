import DerivedQuery.Proofs.Except
import DerivedQuery.Proofs.Paging.Pages
import DerivedQuery.Proofs.Paging.Session
import Mathlib.Order.Bounds.Basic

/-!
# Page arithmetic

The counters of a page request stop at the largest number. What is computed from them is what
unbounded numbers give all the same, for every page of every list that can be counted.

* `PageTurn`, `PageRequest.turned`: the pages that are reached from one by going on and back.
* `Page.Describes`: what a page says about a list, in unbounded numbers.
* `isLeast_pageCount`: the number of pages is the least that takes all elements.
* `viewed_page_exact`: the page that a view shows, and the view behind it.
-/

namespace DerivedQuery

variable {α : Type}

/-- A step from a page to one beside it. -/
inductive PageTurn where
  | forward
  | back
deriving DecidableEq, Repr

namespace PageRequest

variable {p : PageRequest}

def turn (p : PageRequest) : PageTurn → PageRequest
  | .forward => p.next
  | .back => p.previousOrFirst

/-- The page that is reached by some steps. -/
def turned (p : PageRequest) (turns : List PageTurn) : PageRequest :=
  turns.foldl turn p

theorem size_turn (p : PageRequest) (t : PageTurn) : (p.turn t).size = p.size := by
  cases t <;> rfl

/-- All pages that are reached have one size. -/
theorem size_turned (p : PageRequest) (turns : List PageTurn) :
    (p.turned turns).size = p.size := by
  induction turns generalizing p with
  | nil => rfl
  | cons t ts ih =>
    rw [turned, List.foldl_cons, ← size_turn p t]
    exact ih (p.turn t)

theorem size_of {number size : Int} (h : of number size = .ok p) : 0 < p.size := by
  unfold of at h
  split at h
  · cases h
  · split at h
    · cases h
    · cases h
      show 0 < size.toNat
      omega

/-- Below the largest number the next page is one further. -/
theorem next_of_lt (h : p.number < maxCount) : p.next = { p with number := p.number + 1 } := by
  have hmin : min (p.number + 1) maxCount = p.number + 1 := Nat.min_eq_left h
  rw [next, hmin]

end PageRequest

/-- As many pages as hold something take all elements, and fewer do not. -/
theorem isLeast_pageCount (total : Nat) {size : Nat} (hsize : 0 < size) :
    IsLeast {k | total ≤ k * size} (pageCount total size) := by
  constructor
  · exact length_le_pageCount_mul hsize
  · intro k hk
    apply Nat.le_of_not_lt
    intro hlt
    have hmore := (lt_pageCount_iff hsize).1 hlt
    exact Nat.lt_irrefl _ (Nat.lt_of_lt_of_le hmore hk)

/-- What a page says about the elements of a list, in unbounded numbers. -/
structure Page.Describes (page : Page α) (p : PageRequest) (all : List α) : Prop where
  number_eq : page.number = p.number
  size_eq : page.size = p.size
  total_eq : page.totalElements = all.length
  isLeast_totalPages : IsLeast {k | all.length ≤ k * p.size} page.totalPages
  content_eq : page.content = (all.drop (p.number * p.size)).take p.size
  length_content : page.content.length =
    min p.size (all.length - min (p.number * p.size) all.length)
  hasPrevious_iff : page.hasPrevious = true ↔ 0 < p.number

theorem describes_ofSlice {p : PageRequest} (hsize : 0 < p.size) {all : List α}
    (hall : all.length ≤ maxCount) :
    (Page.ofSlice p (Slice.ofElements p all)).Describes p all where
  number_eq := rfl
  size_eq := rfl
  total_eq := rfl
  isLeast_totalPages := isLeast_pageCount all.length hsize
  content_eq := items_ofElements p hall
  length_content := by
    show (Slice.ofElements p all).items.length = _
    rw [items_ofElements p hall, List.length_take, List.length_drop]
    omega
  hasPrevious_iff := decide_eq_true_iff

/-- Another page follows just when it holds something. -/
theorem isEmpty_next {p : PageRequest} (hsize : 0 < p.size) (hbelow : p.number < maxCount)
    {all : List α} (hall : all.length ≤ maxCount) :
    ((Slice.ofElements p.next all).items.length == 0) =
      !decide (p.number + 1 < pageCount all.length p.size) := by
  have hcount : p.number + 1 < pageCount all.length p.size ↔
      (p.number + 1) * p.size < all.length :=
    lt_pageCount_iff hsize
  have hitems : (Slice.ofElements p.next all).items =
      (all.drop ((p.number + 1) * p.size)).take p.size := by
    rw [items_ofElements p.next hall, PageRequest.next_of_lt hbelow]
  -- The items behind the page are what is left of the list, and of that at most a page.
  rw [hitems, List.length_take, List.length_drop, Bool.eq_iff_iff, beq_iff_eq,
    Bool.not_eq_true', decide_eq_false_iff_not, hcount]
  omega

/-! ## Views -/

/-- A page is looked at, the view behind it is opened, and that is looked at. -/
theorem session_next [BEq α] (source : Nat → List α) (p : PageRequest) :
    ((ViewStore.ofSource source p).session [.look 0 .page, .next 0, .look 1 .isEmpty]).map
        Prod.fst =
      some [.seen (.page (Page.ofSlice p (Slice.ofElements p (source 0)))), .opened 1,
        .seen (.holds ((Slice.ofElements p.next (source 1)).items.length == 0))] :=
  rfl

/-- The bounds of a page are those of unbounded arithmetic, and lie within the list. A view shows
what `Page.Describes` says of any page that is reached from one that was asked for, as long as the
number behind it can still be counted; another page follows just when the view behind it is not
empty. -/
theorem viewed_page_exact [BEq α] :
    (∀ (p : PageRequest) (total : Nat), total ≤ maxCount →
      p.bounds total =
          (min (p.number * p.size) total, min (p.number * p.size + p.size) total) ∧
        (p.bounds total).1 ≤ (p.bounds total).2 ∧ (p.bounds total).2 ≤ total) ∧
    ∀ (number size : Int) (first : PageRequest) (turns : List PageTurn)
      (source : Nat → List α) (total : Nat),
      PageRequest.of number size = .ok first → (first.turned turns).number < maxCount →
      total ≤ maxCount → (∀ k, (source k).length = total) →
      let p := first.turned turns
      ∃ page, page.Describes p (source 0) ∧
        ((ViewStore.ofSource source p).session
            [.look 0 .page, .next 0, .look 1 .isEmpty]).map Prod.fst =
          some [.seen (.page page), .opened 1, .seen (.holds (!page.hasNext))] := by
  constructor
  · intro p total htotal
    rw [bounds_eq p htotal]
    refine ⟨rfl, ?_, Nat.min_le_right _ _⟩
    show min (p.number * p.size) total ≤ min (p.number * p.size + p.size) total
    omega
  · intro number size first turns source total hfirst hbelow htotal hsource p
    have hsize : 0 < p.size := by
      -- Turning pages leaves the size alone, so it is still the positive one that was asked for.
      rw [PageRequest.size_turned]
      exact PageRequest.size_of hfirst
    have hread (k : Nat) : (source k).length ≤ maxCount := by
      rw [hsource k]
      exact htotal
    refine ⟨_, describes_ofSlice hsize (hread 0), ?_⟩
    rw [session_next, isEmpty_next hsize hbelow (hread 1), hsource 1, ← hsource 0]
    rfl

/-- A page far beyond what can be counted, and the last page of a list whose length is a multiple of
the size, reached by going back beyond the first. -/
theorem viewed_page_exact_multiple :
    let far : PageRequest := ⟨Nat.pow 2 63, Nat.pow 2 63, .unsorted⟩
    let first : PageRequest := ⟨1, 2, .unsorted⟩
    let turns : List PageTurn := [.forward, .back, .back, .back, .forward]
    let source (k : Nat) : List Nat := [k, k + 1, k + 2, k + 3]
    7 ≤ maxCount ∧ far.bounds 7 = (7, 7) ∧
      PageRequest.of 1 2 = .ok first ∧ (first.turned turns).number < maxCount ∧ 4 ≤ maxCount ∧
      (∀ k, (source k).length = 4) ∧
      ∃ page, page.Describes (first.turned turns) (source 0) ∧ page.hasNext = false ∧
        ((ViewStore.ofSource source (first.turned turns)).session
            [.look 0 .page, .next 0, .look 1 .isEmpty]).map Prod.fst =
          some [.seen (.page page), .opened 1, .seen (.holds true)] := by
  intro far first turns source
  have hseven : 7 ≤ maxCount := by decide
  have hfour : 4 ≤ maxCount := by decide
  have hfirst : PageRequest.of 1 2 = .ok first := rfl
  have hbelow : (first.turned turns).number < maxCount := by decide
  have hsource : ∀ k, (source k).length = 4 := fun _ => rfl
  obtain ⟨hbounds, hviews⟩ := @viewed_page_exact Nat _
  obtain ⟨hfar, -, -⟩ := hbounds far 7 hseven
  obtain ⟨page, hpage, hsession⟩ :=
    hviews 1 2 first turns source 4 hfirst hbelow hfour hsource
  have hempty :
      ((Slice.ofElements (first.turned turns).next (source 1)).items.length == 0) = true := by
    decide
  -- The view behind the page is empty, and so none follows it.
  have hnext : page.hasNext = false := by
    rw [session_next, hempty] at hsession
    simp only [Option.some.injEq, List.cons.injEq, ViewReply.seen.injEq,
      Sight.holds.injEq] at hsession
    simpa using hsession.2.2.1
  rw [hnext] at hsession
  exact ⟨hseven, hfar, hfirst, hbelow, hfour, hsource, page, hpage, hnext, hsession⟩

end DerivedQuery
