import DerivedQuery.Paging.PageRequest
import DerivedQuery.Text.Quoted

/-!
# Paged views of a result

A source of results is read once for each view that is looked at, and never for one that is not.

* `Slice.ofElements`: the elements on a page.
* `Page.ofSlice`: the page with where it stands among the others.
* `ViewStore`: the views of one source. `ViewStore.addView` adds a view, and `ViewStore.read`
  looks at one.
* `Look`: the ways to look at a view, each of which sees the slice that was read for it.
* `ViewStore.perform`, `ViewStore.session`: steps that open views, describe them and look at them.
-/

namespace DerivedQuery

/-- The elements on a page, and how many there are on all pages. -/
structure Slice (α : Type) where
  items : List α
  total : Nat
deriving DecidableEq, Repr

/-- The elements of `all` on a page. -/
def Slice.ofElements (p : PageRequest) (all : List α) : Slice α :=
  let (start, stop) := p.bounds all.length
  ⟨(all.take stop).drop start, all.length⟩

/-- A page of results and where it stands among the others. -/
structure Page (α : Type) where
  content : List α
  number : Nat
  size : Nat
  totalElements : Nat
  totalPages : Nat
  hasNext : Bool
  hasPrevious : Bool
deriving DecidableEq, Repr

/-- The page for a slice. -/
def Page.ofSlice (p : PageRequest) (s : Slice α) : Page α :=
  let pages := (s.total + (p.size - 1)) / p.size
  ⟨s.items, p.number, p.size, s.total, pages, p.number + 1 < pages, p.hasPrevious⟩

/-! ## Views -/

/-- A view of a source through one page; what was read is kept. -/
structure PagedView (α : Type) where
  request : PageRequest
  slice : Option (Slice α)
deriving DecidableEq

/-- The views of one source. -/
structure ViewStore (α : Type) where
  /-- What the source holds when it is read for the `k`-th time, counted from 0. -/
  source : Nat → List α
  /-- How often the source has been read. -/
  materialized : Nat
  /-- The views in the order in which they were opened. -/
  views : List (PagedView α)

namespace ViewStore

/-- A source with one view, at which nobody has looked. -/
def ofSource (source : Nat → List α) (p : PageRequest) : ViewStore α :=
  ⟨source, 0, [⟨p, none⟩]⟩

/-- One more view, which nobody has looked at. -/
def addView (s : ViewStore α) (p : PageRequest) : ViewStore α :=
  { s with views := s.views ++ [⟨p, none⟩] }

/-- Looks at the view with the given number. -/
def read (s : ViewStore α) (view : Nat) : Option (Slice α × ViewStore α) :=
  match s.views[view]? with
  | none => none
  | some ⟨_, some slice⟩ => some (slice, s)
  | some ⟨request, none⟩ =>
    let slice := Slice.ofElements request (s.source s.materialized)
    some (slice,
      { s with
        materialized := s.materialized + 1
        views := s.views.set view ⟨request, some slice⟩ })

end ViewStore

/-! ## Descriptions -/

/-- A sort key in diagnostic output. -/
def SortKey.description (k : SortKey) : String :=
  let direction := match k.direction with
    | .ascending => "Asc"
    | .descending => "Desc"
  "Order \x7b property: PropertyPath \x7b segments: [" ++
    ", ".intercalate (k.path.segments.map Text.quoted) ++ "] \x7d, direction: " ++ direction ++
    " \x7d"

/-- A page request in diagnostic output. -/
def PageRequest.description (p : PageRequest) : String :=
  s!"PageRequest \x7b page: {p.number}, size: {p.size}, sort: Sort \x7b orders: [" ++
    ", ".intercalate (p.order.keys.map (·.description)) ++ "] \x7d \x7d"

/-- A view in diagnostic output; it is not looked at for that. -/
def PagedView.description (v : PagedView α) : String :=
  "PagedResults \x7b page: " ++ v.request.description ++ ", materialized: " ++
    toString v.slice.isSome ++ " \x7d"

/-! ## Sessions -/

/-- The ways to look at a view. -/
inductive Look where
  | list
  | slice
  | iterator
  | set
  | size
  | isEmpty
  /-- The number of elements on all pages. -/
  | total
  | page
deriving DecidableEq, Repr

/-- What is seen of a view. -/
inductive Sight (α : Type) where
  | elements (items : List α)
  /-- The different elements; they have no order of their own. -/
  | members (items : List α)
  | count (n : Nat)
  | holds (b : Bool)
  | page (p : Page α)
deriving DecidableEq, Repr

/-- What is seen of a slice that was read for the page `p`. -/
def Look.sight [BEq α] (how : Look) (p : PageRequest) (s : Slice α) : Sight α :=
  match how with
  | .list | .slice | .iterator => .elements s.items
  | .set => .members s.items.eraseDups
  | .size => .count s.items.length
  | .isEmpty => .holds (s.items.length == 0)
  | .total => .count s.total
  | .page => .page (Page.ofSlice p s)

/-- What can be done with the views of a source. -/
inductive ViewStep where
  /-- Opens a view of another page. -/
  | add (p : PageRequest)
  /-- Opens a view of the page behind that of a view. -/
  | next (view : Nat)
  /-- Opens a view of the page in front of that of a view. -/
  | previous (view : Nat)
  | describe (view : Nat)
  | look (view : Nat) (how : Look)
deriving DecidableEq

/-- What a step gives. -/
inductive ViewReply (α : Type) where
  /-- The number of a new view. -/
  | opened (view : Nat)
  | described (text : String)
  | seen (sight : Sight α)
deriving DecidableEq, Repr

namespace ViewStore

/-- Does one step; the view it refers to must exist. -/
def perform [BEq α] (s : ViewStore α) : ViewStep → Option (ViewReply α × ViewStore α)
  | .add p => some (.opened s.views.length, s.addView p)
  | .next view => do
    let v ← s.views[view]?
    return (.opened s.views.length, s.addView v.request.next)
  | .previous view => do
    let v ← s.views[view]?
    return (.opened s.views.length, s.addView v.request.previousOrFirst)
  | .describe view => do
    let v ← s.views[view]?
    return (.described v.description, s)
  | .look view how => do
    let v ← s.views[view]?
    let (slice, s) ← s.read view
    return (.seen (how.sight v.request slice), s)

/-- Does some steps, one after the other. -/
def session [BEq α] (s : ViewStore α) :
    List ViewStep → Option (List (ViewReply α) × ViewStore α)
  | [] => some ([], s)
  | step :: steps => do
    let (reply, s) ← s.perform step
    let (replies, s) ← s.session steps
    return (reply :: replies, s)

end ViewStore

end DerivedQuery
