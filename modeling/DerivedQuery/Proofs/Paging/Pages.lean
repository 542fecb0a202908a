import DerivedQuery.Paging.PagedView

/-!
# The pages of a list

Pages of one size cut a list into pieces. The counters of a page request stop at the largest number,
which makes no difference to a list that is not longer than that.

* `pageCount`: the number of pages that hold something.
* `bounds_eq`: where a page begins and ends.
* `items_ofElements`: what is on a page; `Slice.IsPart` says it of any slice.
* `CutInto`: pages of one size that lose and repeat nothing; `cutInto_pages`: the pages of a list.
-/

namespace DerivedQuery

variable {α : Type}

/-- The number of pages of `size` elements that hold `total` elements. -/
def pageCount (total size : Nat) : Nat :=
  (total + (size - 1)) / size

/-- A page holds something when the list goes on where it begins. -/
theorem lt_pageCount_iff {total size number : Nat} (hsize : 0 < size) :
    number < pageCount total size ↔ number * size < total := by
  have hdiv := Nat.le_div_iff_mul_le (x := number + 1) (y := total + (size - 1)) hsize
  have hsucc : (number + 1) * size = number * size + size := Nat.succ_mul number size
  unfold pageCount
  constructor
  · intro h
    have hle := hdiv.1 h
    omega
  · intro h
    apply hdiv.2
    omega

/-- The bounds of a page are those of unbounded arithmetic, cut off at the end of the list. -/
theorem bounds_eq (p : PageRequest) {total : Nat} (htotal : total ≤ maxCount) :
    p.bounds total =
      (min (p.number * p.size) total, min (p.number * p.size + p.size) total) := by
  have hstart : min p.offset total = min (p.number * p.size) total := by
    unfold PageRequest.offset
    omega
  have hstop : min (min (min (p.number * p.size) total + p.size) maxCount) total =
      min (p.number * p.size + p.size) total := by
    omega
  unfold PageRequest.bounds
  rw [hstart]
  exact Prod.ext rfl hstop

/-- The elements on a page: as many as it takes, from where the pages before it end. -/
theorem items_ofElements (p : PageRequest) {all : List α} (hall : all.length ≤ maxCount) :
    (Slice.ofElements p all).items = (all.drop (p.number * p.size)).take p.size := by
  have hitems : (Slice.ofElements p all).items =
      (all.take (p.bounds all.length).2).drop (p.bounds all.length).1 := rfl
  rw [hitems, bounds_eq p hall, List.drop_take]
  by_cases hbehind : all.length ≤ p.number * p.size
  · have hend : min (p.number * p.size) all.length = all.length := Nat.min_eq_right hbehind
    rw [hend, List.drop_length, List.take_nil, List.drop_eq_nil_of_le hbehind, List.take_nil]
  · have hwithin : min (p.number * p.size) all.length = p.number * p.size :=
      Nat.min_eq_left (Nat.le_of_not_le hbehind)
    rw [hwithin, List.take_eq_take_iff, List.length_drop]
    omega

/-- The slice is the part of a list that stands on a page: what lies between the bounds of the page,
which is as many elements as it takes, from where the pages before it end, if the elements of the
list can be counted. -/
structure Slice.IsPart (s : Slice α) (p : PageRequest) (all : List α) : Prop where
  total_eq : s.total = all.length
  bounds : s.items = (all.take (p.bounds all.length).2).drop (p.bounds all.length).1
  counted : all.length ≤ maxCount → s.items = (all.drop (p.number * p.size)).take p.size

theorem isPart_ofElements (p : PageRequest) (all : List α) :
    (Slice.ofElements p all).IsPart p all where
  total_eq := rfl
  bounds := rfl
  counted := items_ofElements p

/-- `CutInto all size pages`: the pages that hold something are the list when they stand in a row;
those that another one follows are full, and those behind them are empty. -/
structure CutInto (all : List α) (size : Nat) (pages : Nat → List α) : Prop where
  inRow : (List.range (pageCount all.length size)).flatMap pages = all
  full : ∀ number, number + 1 < pageCount all.length size → (pages number).length = size
  behind : ∀ number, pageCount all.length size ≤ number → pages number = []

/-- The pages in a row are the list as far as they go. -/
theorem flatMap_pages (all : List α) (size count : Nat) :
    (List.range count).flatMap (fun number => (all.drop (number * size)).take size) =
      all.take (count * size) := by
  induction count with
  | zero => simp
  | succ count ih =>
    rw [List.range_succ, List.flatMap_append, ih, Nat.succ_mul, List.take_add]
    simp

/-- A page is full if another one that holds something follows it. -/
theorem length_page {all : List α} {size number : Nat} (hsize : 0 < size)
    (h : number + 1 < pageCount all.length size) :
    ((all.drop (number * size)).take size).length = size := by
  have hnext := (lt_pageCount_iff hsize).1 h
  rw [Nat.succ_mul] at hnext
  rw [List.length_take, List.length_drop]
  omega

/-- There is nothing on the pages behind the last. -/
theorem page_eq_nil {all : List α} {size number : Nat} (hsize : 0 < size)
    (h : pageCount all.length size ≤ number) : (all.drop (number * size)).take size = [] := by
  have hbehind : all.length ≤ number * size := by
    apply Nat.le_of_not_lt
    intro hlt
    have hwithin := (lt_pageCount_iff hsize).2 hlt
    omega
  rw [List.drop_eq_nil_of_le hbehind, List.take_nil]

/-- The pages reach the end of the list. -/
theorem length_le_pageCount_mul {total size : Nat} (hsize : 0 < size) :
    total ≤ pageCount total size * size := by
  apply Nat.le_of_not_lt
  intro hlt
  have hself := (lt_pageCount_iff hsize).2 hlt
  exact Nat.lt_irrefl _ hself

/-- The pages of a list lose and repeat nothing. -/
theorem cutInto_pages (all : List α) {size : Nat} (hsize : 0 < size) :
    CutInto all size fun number => (all.drop (number * size)).take size := by
  refine ⟨?_, ?_, ?_⟩
  · rw [flatMap_pages, List.take_of_length_le (length_le_pageCount_mul hsize)]
  · intro number hnext
    exact length_page hsize hnext
  · intro number hbehind
    exact page_eq_nil hsize hbehind

end DerivedQuery
