import DerivedQuery.Proofs.Statement.OrderText
import DerivedQuery.Proofs.Statement.Recognition

/-!
# Orders and limits together

An order is put in front of a limit at the end, and a limit is appended behind an order. Both are
tails, so each is found where it was put and neither hides the other, and it does not matter which
of the two is added first.

* `limitCount`, `orderCount`: how many limits and orders a statement has.
* `exists_orderBy`: where an order is put.
* `limitCount_withLimit`, `orderCount_orderBy` and their like: one clause is added, or none.
* `orderBy_withLimit_comm`: an order and a limit are added in either sequence.
-/

namespace DerivedQuery.Statement

open Text

/-! ## Counting clauses -/

/-- The number of limits in a statement. -/
def limitCount (s : Statement) : Nat :=
  occurrences limitAt none s.text.toList

/-- The number of orders in a statement. -/
def orderCount (s : Statement) : Nat :=
  occurrences orderByAt none s.text.toList

/-- There is a limit when one is counted. -/
theorem hasLimit_eq (s : Statement) : s.hasLimit = decide (0 < s.limitCount) := by
  rw [Bool.eq_iff_iff, decide_eq_true_iff]
  exact somewhere_iff none s.text.toList

theorem hasOrderBy_eq (s : Statement) : s.hasOrderBy = decide (0 < s.orderCount) := by
  rw [Bool.eq_iff_iff, decide_eq_true_iff]
  exact somewhere_iff none s.text.toList

theorem limitAt_nil (before : Option Char) : limitAt before [] = false :=
  Bool.and_false _

theorem orderByAt_nil (before : Option Char) : orderByAt before [] = false :=
  Bool.and_false _

/-- No limit begins at another letter. -/
theorem limitAt_cons {c : Char} (h : foldsTo 'L' c = false) (before : Option Char)
    (cs : List Char) : limitAt before (c :: cs) = false := by
  simp [limitAt, limitDigits?, keyword, keywordChars, h]

/-- No order begins at another letter. -/
theorem orderByAt_cons {c : Char} (h : foldsTo 'O' c = false) (before : Option Char)
    (cs : List Char) : orderByAt before (c :: cs) = false := by
  simp [orderByAt, keyword, keywordChars, h]

/-- Limits are counted apart, in front of a tail and in the tail. -/
theorem limitCount_append (t : String) {x : String} (hx : IsTail x.toList) :
    (⟨t ++ x⟩ : Statement).limitCount =
      (⟨t⟩ : Statement).limitCount + (⟨x⟩ : Statement).limitCount := by
  unfold limitCount
  rw [String.toList_append]
  exact occurrences_append hx.limitAt_append limitAt_nil none t.toList

/-- Orders are counted apart as well. -/
theorem orderCount_append (t : String) {x : String} (hx : IsTail x.toList) :
    (⟨t ++ x⟩ : Statement).orderCount =
      (⟨t⟩ : Statement).orderCount + (⟨x⟩ : Statement).orderCount := by
  unfold orderCount
  rw [String.toList_append]
  exact occurrences_append hx.orderByAt_append orderByAt_nil none t.toList

/-! ## A limit that is added -/

theorem isTail_limit (n : Nat) : IsTail (" LIMIT " ++ toString n).toList :=
  isTail_of_isTrailingLimit (isTrailingLimit_limit n)

theorem limitCount_limit (n : Nat) : (⟨" LIMIT " ++ toString n⟩ : Statement).limitCount = 1 := by
  -- The digits of the bound begin no limit of their own.
  have hdigits : occurrences limitAt (some ' ') (Nat.toDigits 10 n) = 0 := by
    apply occurrences_of_forall limitAt_nil
    intro c hc
    have hdigit := Nat.isDigit_of_mem_toDigits (by decide) (by decide) hc
    exact limitAt_cons (foldsTo_of_isDigit (by decide) (by decide) hdigit)
  have hat := limitAt_limit n
  rw [limitCount, toList_limit]
  simp only [String.reduceToList, List.cons_append, List.nil_append] at hat ⊢
  simp [occurrences, limitAt_cons, foldsTo, hat, hdigits]

/-- There is no order in a limit at the end. -/
theorem orderCount_trailing {limit : String} (h : isTrailingLimit limit.toList = true) :
    (⟨limit⟩ : Statement).orderCount = 0 := by
  apply occurrences_of_forall orderByAt_nil
  intro c hc
  exact orderByAt_cons (foldsTo_of_class (by decide) (by decide) (by decide +kernel)
    (by decide +kernel) (limitChar_of_mem h c hc))

/-- A limit is added to a statement without one. -/
theorem limitCount_withLimit (s : Statement) (n : Nat) :
    (s.withLimit n).limitCount = max s.limitCount 1 := by
  rw [withLimit, hasLimit_eq]
  by_cases hlimit : 0 < s.limitCount
  · rw [decide_eq_true hlimit, if_pos rfl]
    omega
  · rw [decide_eq_false hlimit, if_neg (by decide), String.append_assoc,
      limitCount_append s.text (isTail_limit n), limitCount_limit]
    show s.limitCount + 1 = _
    omega

/-- A limit brings no order with it. -/
theorem orderCount_withLimit (s : Statement) (n : Nat) :
    (s.withLimit n).orderCount = s.orderCount := by
  rw [withLimit]
  split
  · rfl
  · rw [String.append_assoc, orderCount_append s.text (isTail_limit n),
      orderCount_trailing (isTrailingLimit_limit n), Nat.add_zero]

/-! ## An order that is added -/

/-- What is added for an order: nothing, if there is one already. -/
def addedOrder (s : Statement) (order : SortOrder) : String :=
  if s.hasOrderBy then "" else orderText order

theorem isTail_addedOrder (s : Statement) (order : SortOrder) :
    IsTail (s.addedOrder order).toList := by
  unfold addedOrder
  split
  · exact .nil
  · exact isTail_orderText order

theorem limitCount_addedOrder (s : Statement) (order : SortOrder) :
    (⟨s.addedOrder order⟩ : Statement).limitCount = 0 := by
  unfold addedOrder
  split
  · rfl
  · exact occurrences_limitAt_orderText order

theorem orderCount_addedOrder (s : Statement) (order : SortOrder) :
    (⟨s.addedOrder order⟩ : Statement).orderCount =
      if order.isEmpty then 0 else 1 - s.orderCount := by
  have hone := occurrences_orderByAt_orderText order
  unfold addedOrder
  rw [hasOrderBy_eq]
  by_cases hordered : 0 < s.orderCount
  · rw [decide_eq_true hordered, if_pos rfl, Nat.sub_eq_zero_of_le hordered, ite_self]
    rfl
  · rw [decide_eq_false hordered, if_neg (by decide), Nat.eq_zero_of_not_pos hordered]
    exact hone

/-- An order is put in front of what is split off as a limit. -/
theorem text_orderBy (s : Statement) (order : SortOrder) :
    (s.orderBy order).text = String.ofList (splitTrailingLimit s.text.toList).1 ++
      (s.addedOrder order ++ String.ofList (splitTrailingLimit s.text.toList).2) := by
  unfold orderBy addedOrder orderText
  cases order.isEmpty with
  | true => simp [← String.ofList_append, splitTrailingLimit_append]
  | false =>
    cases s.hasOrderBy with
    | true => simp [← String.ofList_append, splitTrailingLimit_append]
    | false => simp [String.append_assoc]

/-- Where an order is put: in front of a limit at the end, or at the end. -/
theorem exists_orderBy (s : Statement) : ∃ body limit : String, s = ⟨body ++ limit⟩ ∧
    splitTrailingLimit s.text.toList = (body.toList, limit.toList) ∧ IsTail limit.toList ∧
    ∀ order, s.orderBy order = ⟨body ++ (s.addedOrder order ++ limit)⟩ := by
  have htext : s.text = String.ofList (splitTrailingLimit s.text.toList).1 ++
      -- The text is what is split off, and what stands in front of that.
      String.ofList (splitTrailingLimit s.text.toList).2 := by
    rw [← String.ofList_append, splitTrailingLimit_append, String.ofList_toList]
  refine ⟨String.ofList (splitTrailingLimit s.text.toList).1,
    String.ofList (splitTrailingLimit s.text.toList).2, ?_, ?_, ?_, ?_⟩
  · rw [← htext]
  · rw [String.toList_ofList, String.toList_ofList]
  · rw [String.toList_ofList]
    exact isTail_split s.text.toList
  · intro order
    rw [← text_orderBy s order]

/-- An order brings no limit with it. -/
theorem limitCount_orderBy (s : Statement) (order : SortOrder) :
    (s.orderBy order).limitCount = s.limitCount := by
  rcases exists_orderBy s with ⟨body, limit, hs, -, hlimit, horder⟩
  have htail := (s.isTail_addedOrder order).append hlimit
  rw [← String.toList_append] at htail
  rw [horder, limitCount_append body htail, limitCount_append _ hlimit, limitCount_addedOrder,
    Nat.zero_add, ← limitCount_append body hlimit, ← hs]

/-- An order is added to a statement without one, unless it has no keys. -/
theorem orderCount_orderBy (s : Statement) (order : SortOrder) :
    (s.orderBy order).orderCount = if order.isEmpty then s.orderCount else max s.orderCount 1 := by
  rcases exists_orderBy s with ⟨body, limit, hs, -, hlimit, horder⟩
  have htail := (s.isTail_addedOrder order).append hlimit
  rw [← String.toList_append] at htail
  have hself : s.orderCount =
      (⟨body⟩ : Statement).orderCount + (⟨limit⟩ : Statement).orderCount := by
    rw [← orderCount_append body hlimit, ← hs]
  rw [horder, orderCount_append body htail, orderCount_append _ hlimit, orderCount_addedOrder]
  split <;> omega

/-! ## Both -/

/-- An order makes no difference to whether there is a limit. -/
theorem hasLimit_orderBy (s : Statement) (order : SortOrder) :
    (s.orderBy order).hasLimit = s.hasLimit := by
  rw [hasLimit_eq, hasLimit_eq, limitCount_orderBy]

/-- An order is put at the end of a statement without a limit. -/
theorem orderBy_of_unlimited {s : Statement} (h : s.hasLimit = false) (order : SortOrder) :
    s.orderBy order = ⟨s.text ++ s.addedOrder order⟩ := by
  have htext := text_orderBy s order
  rw [splitTrailingLimit_of_unlimited h, String.ofList_toList, String.ofList_nil,
    String.append_empty] at htext
  exact congrArg Statement.mk htext

/-- An order is put in front of a limit behind a text that does not end in white space. -/
theorem orderBy_of_limit {s : Statement} {limit : String} (hs : EndsSolid s.text.toList)
    (hlimit : isTrailingLimit limit.toList = true) (order : SortOrder) :
    (⟨s.text ++ limit⟩ : Statement).orderBy order = ⟨s.text ++ (s.addedOrder order ++ limit)⟩ := by
  have hordered : (⟨s.text ++ limit⟩ : Statement).hasOrderBy = s.hasOrderBy := by
    rw [hasOrderBy_eq, hasOrderBy_eq, orderCount_append s.text (isTail_of_isTrailingLimit hlimit),
      orderCount_trailing hlimit, Nat.add_zero]
  have htext := text_orderBy ⟨s.text ++ limit⟩ order
  rw [addedOrder, hordered, String.toList_append, splitTrailingLimit_of_limit (.inr hs) hlimit,
    String.ofList_toList, String.ofList_toList] at htext
  exact congrArg Statement.mk htext

/-- A limit with a placeholder for its bound is one at the end. -/
theorem isTrailingLimit_placeholder (k : Nat) :
    isTrailingLimit (" LIMIT $" ++ toString k).toList = true := by
  rcases exists_digits k with ⟨d, ds, hdigits, hd, hds⟩
  have hrest : ds.dropWhile isDecimalDigit = [] :=
    List.dropWhile_eq_nil_iff.2 fun c hc => isDecimalDigit_of_isDigit (hds c hc)
  simp [isTrailingLimit, limitDigits?, keyword, keywordChars, foldsTo, space, trimStart, isBlank,
    optionally, hdigits, isDecimalDigit_of_isDigit hd, hrest]

/-- An order and a limit are added in either sequence, to a statement that does not end in white
space. Without the two it gets the order and then the limit, and a limit that stands at its end
stays there. Neither brings a second limit or a second order. -/
theorem orderBy_withLimit_comm {s : Statement} (hs : EndsSolid s.text.toList) (order : SortOrder)
    (n : Nat) :
    (s.orderBy order).withLimit n = (s.withLimit n).orderBy order ∧
      (s.hasLimit = false → s.hasOrderBy = false → ((s.withLimit n).orderBy order).text =
        s.text ++ (orderText order ++ (" LIMIT " ++ toString n))) ∧
      (s.hasOrderBy = false → ∀ limit : String, isTrailingLimit limit.toList = true →
        ((⟨s.text ++ limit⟩ : Statement).orderBy order).text =
          s.text ++ (orderText order ++ limit)) ∧
      (∀ k : Nat, isTrailingLimit (" LIMIT $" ++ toString k).toList = true) ∧
      (s.withLimit n).limitCount = max s.limitCount 1 ∧
      (s.withLimit n).orderCount = s.orderCount ∧
      (s.orderBy order).limitCount = s.limitCount ∧
      (s.orderBy order).orderCount =
        if order.isEmpty then s.orderCount else max s.orderCount 1 := by
  -- A limit that was added is split off again, and the order goes in front of it.
  have hlimit (h : s.hasLimit = false) : (s.withLimit n).orderBy order =
      ⟨s.text ++ (s.addedOrder order ++ (" LIMIT " ++ toString n))⟩ := by
    rw [withLimit, h, if_neg (by decide), String.append_assoc,
      orderBy_of_limit hs (isTrailingLimit_limit n)]
  refine ⟨?_, ?_, ?_, isTrailingLimit_placeholder, limitCount_withLimit s n,
    orderCount_withLimit s n, limitCount_orderBy s order, orderCount_orderBy s order⟩
  · -- The order does not hide a limit, and the limit does not hide an order.
    cases h : s.hasLimit with
    | true => rw [withLimit, withLimit, hasLimit_orderBy, h, if_pos rfl, if_pos rfl]
    | false =>
      rw [hlimit h, withLimit, hasLimit_orderBy, h, if_neg (by decide), orderBy_of_unlimited h]
      simp only [String.append_assoc]
  · intro h hordered
    rw [hlimit h, addedOrder, hordered]
    rfl
  · intro hordered limit htrailing
    rw [orderBy_of_limit hs htrailing, addedOrder, hordered]
    rfl

/-- A property that is named as the clauses are, and a limit with a placeholder. -/
theorem orderBy_withLimit_comm_credit :
    let s : Statement := ⟨"SELECT * FROM /Accounts x WHERE x.limit > 5 OR x.order = 'BY'"⟩
    let order : SortOrder := ⟨[⟨⟨⟨"limit", by decide⟩, []⟩, .descending⟩,
      ⟨⟨⟨"by", by decide⟩, []⟩, .ascending⟩]⟩
    EndsSolid s.text.toList ∧ s.hasLimit = false ∧ s.hasOrderBy = false ∧
      (s.orderBy order).withLimit 3 = (s.withLimit 3).orderBy order ∧
      ((s.withLimit 3).orderBy order).text =
        s.text ++ (orderText order ++ (" LIMIT " ++ toString 3)) ∧
      ((⟨s.text ++ (" LIMIT $" ++ toString 2)⟩ : Statement).orderBy order).text =
        s.text ++ (orderText order ++ (" LIMIT $" ++ toString 2)) ∧
      (s.withLimit 3).limitCount = max s.limitCount 1 ∧
      (s.orderBy order).limitCount = s.limitCount ∧
      (s.orderBy order).orderCount = max s.orderCount 1 := by
  intro s order
  have hs : EndsSolid s.text.toList := by
    unfold EndsSolid
    decide
  have hlimit : s.hasLimit = false := by
    decide +kernel
  have horder : s.hasOrderBy = false := by
    decide +kernel
  rcases orderBy_withLimit_comm hs order 3 with
    ⟨hcomm, htext, htrailing, hbound, hlimits, -, hlimits', horders⟩
  exact ⟨hs, hlimit, horder, hcomm, htext hlimit horder, htrailing horder _ (hbound 2), hlimits,
    hlimits', horders⟩

end DerivedQuery.Statement
