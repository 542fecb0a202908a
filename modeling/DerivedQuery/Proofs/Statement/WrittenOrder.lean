import DerivedQuery.Proofs.SortOrder
import DerivedQuery.Proofs.Statement.Ordering

/-!
# The order that a statement has

The keys of a statement stand behind the last ` ORDER BY ` in it, and in front of a limit at its end.
There is no other place to look for them: a property that is called `ORDER` is followed by a comma or
by `DESC`, and no key ends with a number.

* `orderClause`: the order of a statement, as its clause.
* `afterLast?_orderText`: the keys of an order that is appended are found.
* `orderClause_of_plain`: a statement without the words of a clause has none.
* `orderClause_append`: an order that is appended, and a limit behind it perhaps.
-/

namespace DerivedQuery.Statement

open Text

/-- The `ORDER BY` clause of a statement: from the last ` ORDER BY ` on, and without a limit at the
end. It is empty if there is none. -/
def orderClause (s : Statement) : String :=
  match afterLast? " ORDER BY ".toList (splitTrailingLimit s.text.toList).1 with
  | some list => "ORDER BY " ++ String.ofList list
  | none => ""

/-! ## Where the keys are -/

/-- Where no order begins, the words of a clause do not stand. -/
theorem afterLast?_eq_none {cs : List Char} {before : Option Char}
    (h : somewhere orderByAt before cs = false) : afterLast? " ORDER BY ".toList cs = none := by
  rw [Option.eq_none_iff_forall_ne_some]
  intro rest hrest
  obtain ⟨front, rfl⟩ := exists_of_afterLast? hrest
  have hat : orderByAt (some ' ') ("ORDER BY ".toList ++ rest) = true := by
    simp [orderByAt, keyword, keywordChars, foldsTo, space, trimStart, isBlank, startsWord, endsWord,
      isWordChar_of_isBlank]
  have hfound : somewhere orderByAt before (front ++ ' ' :: ("ORDER BY ".toList ++ rest)) = true :=
    somewhere_of_append hat before front
  exact Bool.false_ne_true (h.symm.trans hfound)

/-- The keys of an order that is appended to a text are found. -/
theorem afterLast?_orderText {order : SortOrder} (h : order.isEmpty = false) (t : List Char) :
    afterLast? " ORDER BY ".toList (t ++ (orderText order).toList) = some order.list.toList := by
  have hkeys : afterLast? " ORDER BY ".toList (' ' :: order.list.toList) = none := by
    have hunjoined : Throughout Unjoined (' ' :: order.list.toList) [] :=
      ⟨unjoined_of_head (by decide) _, unjoined_keys order.keys⟩
    exact afterLast?_eq_none (somewhere_orderByAt_of_unjoined hunjoined none)
  -- No clause begins inside the words themselves.
  have hword {cs : List Char} (hcs : afterLast? " ORDER BY ".toList cs = none) :
      afterLast? " ORDER BY ".toList ("ORDER BY".toList ++ cs) = none := by
    simp only [String.reduceToList] at hcs ⊢
    simp [afterLast?, hcs]
  apply afterLast?_append
  have htext : (orderText order).toList =
      ' ' :: ("ORDER BY".toList ++ ' ' :: order.list.toList) := by
    rw [toList_orderText h]
    rfl
  have hhere : " ORDER BY ".toList.isPrefixOf? (' ' :: ("ORDER BY".toList ++ ' ' ::
      order.list.toList)) = some order.list.toList := isPrefixOf?_eq_some_iff.2 rfl
  rw [htext, afterLast?, hword hkeys, Option.none_or, hhere]

/-! ## What stands behind the keys -/

theorem endsSolid_of_solid {t : List Char} (hne : t ≠ []) (h : ∀ c ∈ t, isBlank c = false) :
    EndsSolid t := by
  rw [EndsSolid, List.getLast?_eq_some_getLast hne, Option.any_some, h _ (List.getLast_mem hne)]
  rfl

theorem endsSolid_key (k : SortKey) : EndsSolid k.text.toList := by
  rcases k with ⟨path, direction⟩
  cases direction with
  | ascending =>
    have hread : PropertyPath.read path.text = .ok path := PropertyPath.read_eq_ok_iff.2 rfl
    have hne : path.text.toList ≠ [] := by
      rw [ne_eq, String.toList_eq_nil_iff]
      intro hempty
      rw [hempty] at hread
      cases hread
    exact endsSolid_of_solid hne fun c hc => isBlank_of_pathChar (pathChar_of_mem_text path c hc)
  | descending =>
    show EndsSolid (path.text ++ " DESC").toList
    rw [String.toList_append]
    exact EndsSolid.append (by unfold EndsSolid; decide) _

theorem endsSolid_list {order : SortOrder} (h : order.isEmpty = false) :
    EndsSolid order.list.toList := by
  rcases order with ⟨keys⟩
  unfold SortOrder.list
  induction keys with
  | nil => cases h
  | cons k keys ih =>
    cases keys with
    | nil =>
      rw [List.map_singleton, String.intercalate_singleton]
      exact endsSolid_key k
    | cons l keys =>
      rw [List.map_cons, List.map_cons, String.intercalate_cons_cons, ← List.map_cons,
        String.toList_append]
      exact (ih rfl).append _

/-- The keys are not split off as a limit, and a limit behind them is. -/
theorem splitTrailingLimit_orderText {order : SortOrder} (h : order.isEmpty = false)
    (t : List Char) {limit : List Char} (hlimit : limit = [] ∨ isTrailingLimit limit = true) :
    splitTrailingLimit (t ++ (orderText order).toList ++ limit) =
      (t ++ (orderText order).toList, limit) := by
  have htext : (orderText order).toList = " ORDER BY ".toList ++ order.list.toList :=
    toList_orderText h
  rcases hlimit with rfl | hlimit
  · -- A limit would have to begin behind the `Y`, where there are only keys.
    have hclear : Throughout Clear (" " ++ order.list).toList [] := by
      rw [String.toList_append]
      exact ⟨clear_of_head (by decide) (by decide) _, clear_keys order.keys ⟨rfl, rfl⟩⟩
    have hlist := splitTrailingLimit_of_unlimited (hasLimit_of_clear (s := ⟨_⟩) hclear)
    have hparts : t ++ (orderText order).toList =
        (t ++ " ORDER B".toList) ++ 'Y' :: (" " ++ order.list).toList := by
      rw [htext, List.append_assoc, String.toList_append]
      rfl
    rw [List.append_nil, hparts, splitTrailingLimit_stop (by decide), hlist]
  · have hsolid : EndsSolid (t ++ (orderText order).toList) := by
      rw [htext, ← List.append_assoc]
      exact (endsSolid_list h).append _
    exact splitTrailingLimit_of_limit (.inr hsolid) hlimit

/-! ## The clause of a statement -/

/-- A statement without the words of a clause has none. -/
theorem orderClause_of_plain {s : Statement} (h : Throughout Plain s.text.toList []) :
    s.orderClause = "" := by
  have hnone : afterLast? " ORDER BY ".toList s.text.toList = none :=
    afterLast?_eq_none (hasOrderBy_of_plain h)
  rw [orderClause, splitTrailingLimit_of_plain h, hnone]

/-- An order that is appended is the order of the statement, whatever stands in front of it and
whether a limit is put behind it. -/
theorem orderClause_append (t : String) {order : SortOrder} (h : order.isEmpty = false)
    {limit : String} (hlimit : limit = "" ∨ isTrailingLimit limit.toList = true) :
    (⟨t ++ orderText order ++ limit⟩ : Statement).orderClause = order.clause := by
  have hclause : order.clause = "ORDER BY " ++ order.list := by
    rw [SortOrder.clause, h]
    rfl
  rw [← String.toList_eq_nil_iff] at hlimit
  simp only [orderClause, String.toList_append, splitTrailingLimit_orderText h _ hlimit,
    afterLast?_orderText h, String.ofList_toList, hclause]

end DerivedQuery.Statement
