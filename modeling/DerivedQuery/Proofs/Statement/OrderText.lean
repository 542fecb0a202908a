import DerivedQuery.Proofs.Condition.Phrase
import DerivedQuery.Proofs.Statement.Clauseless
import DerivedQuery.Proofs.Statement.Tail

/-!
# The text of an order

An order is written with property paths, which may have the names of keywords. Still no limit and no
second order is found in it.

* `orderChar_of_mem`: the characters that an order is written with.
* `clear_orderText`: no limit is found in an order.
* `Unjoined`: no `ORDER` that ends here goes on with `BY`.
* `isTail_orderText`: an order can be appended to a statement.
* `occurrences_orderByAt_orderText`: it is one order, and `occurrences_limitAt_orderText`: no limit.
-/

namespace DerivedQuery

open Text Statement

/-! ## The characters of an order -/

/-- A character of a path, or what stands between paths. -/
def isOrderChar (c : Char) : Bool :=
  isPathChar c || c == ' ' || c == ','

/-- A key is written with the characters of paths, a blank and the letters of `DESC`. -/
theorem orderChar_of_mem_key (k : SortKey) : ∀ c ∈ k.text.toList, isOrderChar c = true := by
  have hpath : ∀ c ∈ k.path.text.toList, isOrderChar c = true := by
    intro c hc
    rw [isOrderChar, pathChar_of_mem_text k.path c hc]
    rfl
  rcases k with ⟨path, direction⟩
  cases direction with
  | ascending => exact hpath
  | descending =>
    have hword : " DESC".toList.all isOrderChar = true := by
      decide
    intro c hc
    rw [SortKey.text, String.toList_append, List.mem_append] at hc
    exact hc.elim (hpath c) (List.all_eq_true.1 hword c)

theorem toList_orderText {order : SortOrder} (h : order.isEmpty = false) :
    (orderText order).toList = " ORDER BY ".toList ++ order.list.toList := by
  simp [orderText, SortOrder.clause, h]

/-- An order is written with few characters. -/
theorem orderChar_of_mem (order : SortOrder) :
    ∀ c ∈ (orderText order).toList, isOrderChar c = true := by
  have hlist : ∀ c ∈ order.list.toList, isOrderChar c = true := by
    intro c hc
    rw [SortOrder.list, String.toList_intercalate] at hc
    rcases mem_of_mem_intercalate hc with hcomma | ⟨piece, hpiece, hc⟩
    · have hfixed : ", ".toList.all isOrderChar = true := by
        decide
      exact List.all_eq_true.1 hfixed c hcomma
    · rw [List.map_map] at hpiece
      rcases List.mem_map.1 hpiece with ⟨k, -, rfl⟩
      exact orderChar_of_mem_key k c hc
  have hword : " ORDER BY ".toList.all isOrderChar = true := by
    decide
  intro c hc
  -- Without keys nothing is written.
  cases hempty : order.isEmpty with
  | true => simp [orderText, hempty] at hc
  | false =>
    rw [toList_orderText hempty, List.mem_append] at hc
    exact hc.elim (List.all_eq_true.1 hword c) (hlist c)

/-! ## No limit in an order -/

theorem foldsTo_of_pathChar {c : Char} (h : isPathChar c = true) : foldsTo '<' c = false :=
  foldsTo_of_ne (ne_of_pathChar h (by decide))

/-- A path is clear in front of whatever may follow a name. -/
theorem clear_path {s : String} (h : ∀ c ∈ s.toList, isPathChar c = true) {rest : List Char}
    (hrest : FollowsName rest) : Throughout Clear s.toList rest :=
  clear_of_solid (fun c hc => ⟨isBlank_of_pathChar (h c hc), foldsTo_of_pathChar (h c hc)⟩) hrest

/-- Keys are clear, with commas between them. -/
theorem clear_keys (keys : List SortKey) {rest : List Char} (hrest : FollowsName rest) :
    Throughout Clear (", ".intercalate (keys.map (·.text))).toList rest := by
  have hkey (k : SortKey) {rest : List Char} (hrest : FollowsName rest) :
      Throughout Clear k.text.toList rest := by
    have hpath {rest : List Char} (hrest : FollowsName rest) :=
      clear_path (pathChar_of_mem_text k.path) hrest
    rcases k with ⟨path, direction⟩
    cases direction with
    | ascending => exact hpath hrest
    | descending =>
      simp [SortKey.text, hpath, clear_of_head, foldsTo, followsName_blank, isBlank, isDecimalDigit]
  induction keys with
  | nil => trivial
  -- Behind a key there is a comma, or the end of the list.
  | cons k keys ih =>
    cases keys with
    | nil => simpa using hkey k hrest
    | cons l keys =>
      rw [List.map_cons, List.map_cons, String.intercalate_cons_cons, ← List.map_cons,
        String.toList_append, String.toList_append, throughout_append, throughout_append]
      refine ⟨⟨hkey k ?_, ?_⟩, ih⟩
      · exact followsName_cons (by decide) (by decide) _
      · simp [clear_of_head, foldsTo]

theorem clear_orderText (order : SortOrder) {rest : List Char} (hrest : FollowsName rest) :
    Throughout Clear (orderText order).toList rest := by
  unfold orderText SortOrder.clause
  cases order.isEmpty with
  | true => trivial
  | false =>
    have hkeys := clear_keys order.keys hrest
    simp [-String.toList_intercalate, SortOrder.list, hkeys, clear_of_head, foldsTo]

namespace Statement

/-! ## No order among the keys -/

/-- No `ORDER` that ends here goes on with `BY`. -/
def Unjoined (cs : List Char) : Prop :=
  ∀ rest, keyword "R" cs = some rest → space rest >>= keyword "BY" = none

/-- Only at an `R` can the words be joined. -/
theorem unjoined_of_head {c : Char} (h : foldsTo 'R' c = false) (cs : List Char) :
    Unjoined (c :: cs) := by
  intro rest hr
  simp [keyword, keywordChars, h] at hr

/-- A name goes on with neither white space nor `BY`. -/
theorem unjoined_of_solid {t rest : List Char} (h : ∀ c ∈ t, isBlank c = false)
    (hrest : space rest >>= keyword "BY" = none) : Throughout Unjoined t rest := by
  induction t with
  | nil => trivial
  | cons c t ih =>
    rcases List.forall_mem_cons.1 h with ⟨hc, ht⟩
    refine ⟨?_, ih ht⟩
    intro behind hr
    have hbehind : t ++ rest = behind := by
      simp only [keyword, String.reduceToList, keywordChars] at hr
      split at hr
      · exact Option.some.inj hr
      · cases hr
    subst hbehind
    -- Either the name ends here, or it goes on with a character that is not white space.
    cases t with
    | nil => exact hrest
    | cons d t =>
      have hd : ¬ isBlank d = true := by
        simp [ht d List.mem_cons_self]
      rw [List.cons_append, space, if_neg hd]
      rfl

/-- Where no words are joined, there is no order. -/
theorem somewhere_orderByAt_of_unjoined {cs : List Char} (h : Throughout Unjoined cs [])
    (before : Option Char) : somewhere orderByAt before cs = false := by
  rw [Bool.eq_false_iff]
  intro horder
  rcases exists_of_somewhere horder with ⟨d, cs', hsuffix, hat⟩
  simp only [orderByAt, Bool.and_eq_true] at hat
  rcases (Option.any_eq_true _ _).1 hat.2 with ⟨rest, hrest, -⟩
  -- The last character of `ORDER` stands further on in the text.
  have hparts : "ORDER".toList = "ORDE".toList ++ "R".toList := by decide
  simp only [keyword, hparts, keywordChars_append, Option.bind_eq_bind,
    Option.bind_eq_some_iff] at hrest
  rcases hrest with ⟨by', ⟨behind, ⟨middle, hstart, hend⟩, hspace⟩, hby⟩
  have hne : middle ≠ [] := by
    rintro rfl
    cases hend
  have hunjoined := h.of_suffix ((keywordChars_suffix hstart).trans hsuffix) hne
  rw [List.append_nil] at hunjoined
  have hnone := hunjoined behind hend
  rw [hspace] at hnone
  exact absurd (hnone.symm.trans hby) (by simp)

/-- A property that is called `ORDER` is not followed by white space and `BY`. -/
theorem unjoined_keys (keys : List SortKey) :
    Throughout Unjoined (", ".intercalate (keys.map (·.text))).toList [] := by
  have hkey (k : SortKey) {rest : List Char} (hrest : space rest >>= keyword "BY" = none) :
      Throughout Unjoined k.text.toList rest := by
    have hpath {rest : List Char} (hrest : space rest >>= keyword "BY" = none) :
        Throughout Unjoined k.path.text.toList rest :=
      unjoined_of_solid (fun c hc => isBlank_of_pathChar (pathChar_of_mem_text k.path c hc)) hrest
    -- Behind an ascending key stands a comma or nothing, behind a descending one the blank before
    -- `DESC`.
    rcases k with ⟨path, direction⟩
    cases direction with
    | ascending => exact hpath hrest
    | descending =>
      rw [SortKey.text, String.toList_append, throughout_append]
      refine ⟨hpath rfl, ?_⟩
      simp [unjoined_of_head, foldsTo]
  induction keys with
  | nil => trivial
  | cons k keys ih =>
    cases keys with
    | nil => simpa using hkey k rfl
    | cons l keys =>
      rw [List.map_cons, List.map_cons, String.intercalate_cons_cons, ← List.map_cons,
        String.toList_append, String.toList_append, throughout_append, throughout_append]
      refine ⟨⟨hkey k rfl, ?_⟩, ih⟩
      simp [unjoined_of_head, foldsTo]

/-! ## An order behind a statement -/

/-- An order is a tail. It begins with a blank and an `O`, unless it is empty. -/
theorem isTail_orderText (order : SortOrder) : IsTail (orderText order).toList := by
  constructor
  · intro hne
    cases hempty : order.isEmpty with
    | true => simp [orderText, hempty] at hne
    | false => exact ⟨'O', "RDER BY ".toList ++ order.list.toList, by
        rw [toList_orderText hempty]; rfl, rfl⟩
  · intro c hc
    have hchar := orderChar_of_mem order c hc
    refine ⟨?_, ?_, ?_⟩ <;> rintro rfl <;> exact absurd hchar (by decide)

/-- There is one order in an order, unless it has no keys. -/
theorem occurrences_orderByAt_orderText (order : SortOrder) :
    occurrences orderByAt none (orderText order).toList = if order.isEmpty then 0 else 1 := by
  cases hempty : order.isEmpty with
  | true =>
    simp only [orderText, hempty, if_true]
    rfl
  | false =>
    have hkeys : occurrences orderByAt (some ' ') order.list.toList = 0 :=
      occurrences_eq_zero (somewhere_orderByAt_of_unjoined (unjoined_keys order.keys) _)
    have hword : " ORDER BY ".toList = [' ', 'O', 'R', 'D', 'E', 'R', ' ', 'B', 'Y', ' '] := rfl
    have hend : isWordChar ' ' = false := by
      decide
    rw [toList_orderText hempty, hword]
    simp [occurrences, orderByAt, keyword, keywordChars, foldsTo, space, trimStart, isBlank,
      startsWord, endsWord, hend, hkeys]

/-- There is no limit in an order. -/
theorem occurrences_limitAt_orderText (order : SortOrder) :
    occurrences limitAt none (orderText order).toList = 0 := by
  have hclear : Throughout Clear (orderText order).toList [] :=
    clear_orderText order ⟨rfl, rfl⟩
  exact occurrences_eq_zero (hasLimit_of_clear (s := ⟨orderText order⟩) hclear)

end Statement

end DerivedQuery
