import DerivedQuery.Numbering
import DerivedQuery.SortOrder

/-!
# Page requests

* `PageRequest.of`: a page by its number, from 0, and its size.
* `PageRequest.bounds`: which of a number of elements are on the page.
* `PageRequest.next`, `PageRequest.previousOrFirst`: the pages beside it.
-/

namespace DerivedQuery

/-- A page of results. -/
structure PageRequest where
  number : Nat
  size : Nat
  order : SortOrder
deriving DecidableEq

namespace PageRequest

/-- An unsorted page; its number must not be negative, and its size must be positive. -/
def of (number size : Int) : Except QueryError PageRequest :=
  if number < 0 then .error (.invalidRequest (.negativePage number))
  else if size ≤ 0 then .error (.invalidRequest (.emptyPageSize size))
  else .ok ⟨number.toNat, size.toNat, .unsorted⟩

/-- The number of elements before the page, as far as a counter goes. -/
def offset (p : PageRequest) : Nat :=
  min (p.number * p.size) maxCount

/-- The first element of the page and the first behind it, of `total` elements. -/
def bounds (p : PageRequest) (total : Nat) : Nat × Nat :=
  let start := min p.offset total
  (start, min (min (start + p.size) maxCount) total)

/-- The page behind this one. -/
def next (p : PageRequest) : PageRequest :=
  { p with number := min (p.number + 1) maxCount }

/-- The page in front of this one; the first page stays. -/
def previousOrFirst (p : PageRequest) : PageRequest :=
  { p with number := p.number - 1 }

/-- There is a page in front of this one. -/
def hasPrevious (p : PageRequest) : Bool :=
  0 < p.number

end PageRequest

end DerivedQuery
