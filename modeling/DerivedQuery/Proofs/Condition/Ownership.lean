import Mathlib.Algebra.GroupWithZero.Nat
import Mathlib.Data.List.Forall2
import DerivedQuery.Proofs.Condition.Placeholders

/-!
# Whose placeholders are read

A condition is rendered, and its bindings are collected, each in its own pass over the criteria. Here
the text is written once more with an owner for every character, the operator that it was written
for, so that the placeholders that are read can be compared with the bindings one by one.

* `ownedPlaceholders`: the placeholders in a text with owners. They are the same without the owners
  (`map_bareText_ownedPlaceholdersFrom`).
* `Condition.owned`: the text of a condition, with owners.
* `Owns`: the placeholders in a piece of text belong to some bindings. Pieces are put together with
  `Owns.append`.
* `Condition.placeholders_owned`: the placeholders of a condition that was assembled.
-/

namespace DerivedQuery

/-! ## Reading text with owners -/

section Owners

variable {α : Type}

/-- The placeholders in a text with owners, read as `placeholdersFrom` reads those of a text. -/
def ownedPlaceholdersFrom (before : Option Char) : List (Char × α) → List (List (Char × α))
  | [] => []
  | x :: xs =>
    let digits := xs.takeWhile fun y => y.1.isDigit
    if x.1 = '$' ∧ before.any continuesIdentifier = false ∧ digits ≠ [] then
      (x :: digits) :: ownedPlaceholdersFrom (some x.1) xs
    else ownedPlaceholdersFrom (some x.1) xs

/-- The placeholders in a text with owners. -/
def ownedPlaceholders (text : List (Char × α)) : List (List (Char × α)) :=
  ownedPlaceholdersFrom none text

/-- The text without the owners. -/
def bareText (text : List (Char × α)) : String :=
  String.ofList (text.map (·.1))

/-- The same placeholders are read without the owners. -/
theorem map_bareText_ownedPlaceholdersFrom (before : Option Char) (xs : List (Char × α)) :
    (ownedPlaceholdersFrom before xs).map bareText = placeholdersFrom before (xs.map (·.1)) := by
  induction xs generalizing before with
  | nil => rfl
  | cons x xs ih =>
    have hdigits : (xs.map (·.1)).takeWhile Char.isDigit =
        (xs.takeWhile fun y => y.1.isDigit).map (·.1) :=
      List.takeWhile_map ..
    simp only [ownedPlaceholdersFrom, List.map_cons, placeholdersFrom, hdigits, ne_eq,
      List.map_eq_nil_iff]
    split
    · rw [List.map_cons, ih]
      rfl
    · exact ih _

theorem map_bareText_ownedPlaceholders (text : List (Char × α)) :
    (ownedPlaceholders text).map bareText = placeholdersIn (bareText text) := by
  rw [ownedPlaceholders, map_bareText_ownedPlaceholdersFrom, placeholdersIn, bareText,
    String.toList_ofList]

/-- The characters of a placeholder have their owners in the text. -/
theorem mem_of_mem_ownedPlaceholdersFrom {before : Option Char} {xs token : List (Char × α)}
    (h : token ∈ ownedPlaceholdersFrom before xs) : ∀ x ∈ token, x ∈ xs := by
  induction xs generalizing before with
  | nil => cases h
  | cons y ys ih =>
    simp only [ownedPlaceholdersFrom] at h
    have hlater (h : token ∈ ownedPlaceholdersFrom (some y.1) ys) : ∀ x ∈ token, x ∈ y :: ys :=
      fun x hx => List.mem_cons_of_mem y (ih h x hx)
    -- A placeholder at this character takes its digits along. They stand in the rest.
    split at h
    · rcases List.mem_cons.1 h with rfl | h
      · intro x hx
        rcases List.mem_cons.1 hx with rfl | hx
        · exact List.mem_cons_self
        · exact List.mem_cons_of_mem y ((List.takeWhile_sublist _).subset hx)
      · exact hlater h
    · exact hlater h

/-- In front of a text that stands apart, all placeholders are read that would be without it. -/
theorem ownedPlaceholdersFrom_append {rest : List (Char × α)} (h : Apart (rest.map (·.1)))
    (before : Option Char) (xs : List (Char × α)) :
    ownedPlaceholdersFrom before (xs ++ rest) =
      ownedPlaceholdersFrom before xs ++ ownedPlaceholdersFrom none rest := by
  -- What follows begins neither with a `$` nor with a digit.
  have hhead : ∀ x ∈ rest.head?, x.1 ≠ '$' ∧ x.1.isDigit = false := by
    cases rest with
    | nil => simp
    | cons x rest => simpa [Apart] using h
  have hend : rest.takeWhile (fun y => y.1.isDigit) = [] := by
    cases rest with
    | nil => rfl
    | cons x rest => simp [(hhead x rfl).2]
  induction xs generalizing before with
  | nil =>
    cases rest with
    | nil => rfl
    | cons x rest => simp [ownedPlaceholdersFrom, (hhead x rfl).1]
  | cons x xs ih =>
    have hdigits : (xs ++ rest).takeWhile (fun y => y.1.isDigit) =
        xs.takeWhile fun y => y.1.isDigit := by
      rw [List.takeWhile_append, hend, List.append_nil]
      split
      · next hall => exact (List.takeWhile_prefix _).eq_of_length hall |>.symm
      · rfl
    simp only [List.cons_append, ownedPlaceholdersFrom, hdigits, ih]
    split
    · rw [List.cons_append]
    · rfl

end Owners

/-! ## Conditions with owners -/

/-- A text that belongs to an operator, or to none. -/
def ownedBy (operator : Option Operator) (text : String) : List (Char × Option Operator) :=
  text.toList.map (·, operator)

namespace Condition

/-- The text of the condition about the object called `object`. A criterion belongs to its operator,
and what joins criteria belongs to none. -/
def owned (object : String) : Condition → List (Char × Option Operator)
  | test c placeholders => ownedBy (some c.operator) (c.render placeholders object)
  | and a b => operand a (a.owned object) ++ ownedBy none " AND " ++
      operand b (b.owned object)
  | or a b => a.owned object ++ ownedBy none " OR " ++ b.owned object
where
  /-- An operand of `AND`, in parentheses where `OR` would bind too far. -/
  operand (c : Condition) (text : List (Char × Option Operator)) : List (Char × Option Operator) :=
    if c.isOr then ownedBy none "(" ++ text ++ ownedBy none ")" else text

end Condition

@[simp] theorem bareText_append {α : Type} (s t : List (Char × α)) :
    bareText (s ++ t) = bareText s ++ bareText t := by
  simp [bareText]

@[simp] theorem bareText_ownedBy (operator : Option Operator) (text : String) :
    bareText (ownedBy operator text) = text := by
  simp [bareText, ownedBy, Function.comp_def]

/-- Without the owners, this is the text of the condition. -/
theorem Condition.bareText_owned (c : Condition) (object : String) :
    bareText (c.owned object) = c.render object := by
  induction c with
  | test criterion placeholders => exact bareText_ownedBy _ _
  | and a b iha ihb =>
    -- Owners change nothing about the parentheses.
    have hoperand (c : Condition) (text : List (Char × Option Operator)) :
        bareText (owned.operand c text) = render.operand c (bareText text) := by
      unfold owned.operand render.operand
      split <;> simp [String.append_assoc]
    rw [owned, render, bareText_append, bareText_append, hoperand, hoperand, iha, ihb,
      bareText_ownedBy]
  | or a b iha ihb =>
    rw [owned, render, bareText_append, bareText_append, iha, ihb, bareText_ownedBy]

/-- The placeholders that are read in the piece `t` belong to the operators whose bindings are `bs`,
one to one, and the piece keeps apart from what stands in front of it. -/
structure Owns (t : List (Char × Option Operator)) (bs : List Binding) : Prop where
  apart : Apart (t.map (·.1))
  owners : List.Forall₂ (fun token b => ∀ x ∈ token, x.2.map (·.pattern) = some b.pattern)
    (ownedPlaceholders t) bs

namespace Owns

variable {t u : List (Char × Option Operator)} {bs cs : List Binding}

theorem append (ht : Owns t bs) (hu : Owns u cs) : Owns (t ++ u) (bs ++ cs) where
  apart := by
    rw [List.map_append]
    exact ht.apart.append hu.apart
  owners := by
    rw [ownedPlaceholders, ownedPlaceholdersFrom_append hu.apart]
    exact List.rel_append ht.owners hu.owners

/-- A text of one operator shows as many placeholders as the operator has bindings. -/
theorem of_shows {text : String} {is : List Nat} (h : Shows text is) (operator : Operator) :
    Owns (ownedBy (some operator) text) (is.map fun i => ⟨i, operator.pattern⟩) where
  apart := by
    simpa [ownedBy, Function.comp_def] using h.apart
  owners := by
    -- There are as many owned placeholders as bindings, so they can be compared place by place.
    have hlength : (ownedPlaceholders (ownedBy (some operator) text)).length = is.length := by
      rw [← List.length_map bareText, map_bareText_ownedPlaceholders, bareText_ownedBy,
        h.placeholdersIn_eq, List.length_map]
    rw [List.forall₂_iff_zip]
    refine ⟨by rw [hlength, List.length_map], ?_⟩
    intro token b hpair x hx
    obtain ⟨htoken, hb⟩ := List.of_mem_zip hpair
    obtain ⟨i, -, rfl⟩ := List.mem_map.1 hb
    obtain ⟨c, -, rfl⟩ := List.mem_map.1 (mem_of_mem_ownedPlaceholdersFrom htoken x hx)
    rfl

/-- A fixed word belongs to no operator. -/
theorem word (text : String) (h : Apart text.toList ∧ placeholdersIn text = []) :
    Owns (ownedBy none text) [] where
  apart := by
    simpa [ownedBy, Function.comp_def] using h.1
  owners := by
    have hnone : (ownedPlaceholders (ownedBy none text)).map bareText = [] := by
      rw [map_bareText_ownedPlaceholders, bareText_ownedBy, h.2]
    rw [List.map_eq_nil_iff.1 hnone]
    exact .nil

end Owns

namespace Condition

theorem owns_operand (c : Condition) {text : List (Char × Option Operator)} {bs : List Binding}
    (h : Owns text bs) : Owns (owned.operand c text) bs := by
  unfold owned.operand
  split
  · have hparentheses := ((Owns.word "(" (by decide)).append h).append (.word ")" (by decide))
    simpa using hparentheses
  · exact h

/-- The placeholders of a condition belong to the operators that its bindings come from. -/
theorem owns_owned {c : Condition} (hc : c.Complete) {object : String}
    (hobject : isIdentifier object.toList = true) : Owns (c.owned object) c.bindings := by
  induction c with
  | test criterion placeholders =>
    have hshows := criterion.shows_render ((complete_test criterion placeholders).1 hc) hobject
    have howns := Owns.of_shows hshows criterion.operator
    simpa [bindings, tests, bindingsOf, owned] using howns
  | and a b iha ihb =>
    obtain ⟨ha, hb⟩ := (complete_and a b).1 hc
    have hjoint : Owns (ownedBy none " AND ") [] := .word " AND " (by decide)
    have happend := ((owns_operand a (iha ha)).append hjoint).append (owns_operand b (ihb hb))
    rwa [List.append_nil, ← bindings_and] at happend
  | or a b iha ihb =>
    obtain ⟨ha, hb⟩ := (complete_or a b).1 hc
    have hjoint : Owns (ownedBy none " OR ") [] := .word " OR " (by decide)
    have happend := ((iha ha).append hjoint).append (ihb hb)
    rwa [List.append_nil, ← bindings_or] at happend

/-- A condition that was assembled has the arguments that its criteria take. -/
theorem placeholderCount_eq_sum {c : Condition} (hc : c.Complete) :
    c.placeholderCount = (c.tests.map (·.1.arity)).sum := by
  have hcount : c.placeholderCount = (c.tests.map (·.2.length)).sum := by
    unfold placeholderCount
    induction c.tests with
    | nil => rfl
    | cons t ts ih => rw [List.foldr_cons, ih, List.map_cons, List.sum_cons]
  rw [hcount, List.map_congr_left hc]

/-- The placeholders that are read in the text of a condition, however it was assembled, are those of
its bindings, from left to right; there are as many as its criteria take together. The characters of
each belong to an operator with the pattern of the binding. -/
theorem placeholders_owned {c : Condition} (hc : c.Assembled) {object : String}
    (hobject : isIdentifier object.toList = true) :
    placeholdersIn (c.render object) = c.bindings.map (fun b => Criterion.placeholder b.index) ∧
      (placeholdersIn (c.render object)).length = c.placeholderCount ∧
      c.placeholderCount = (c.tests.map (·.1.arity)).sum ∧
      bareText (c.owned object) = c.render object ∧
      (ownedPlaceholders (c.owned object)).map bareText = placeholdersIn (c.render object) ∧
      List.Forall₂ (fun token b => ∀ x ∈ token, x.2.map (·.pattern) = some b.pattern)
        (ownedPlaceholders (c.owned object)) c.bindings := by
  have hcomplete := hc.complete
  have hread : placeholdersIn (c.render object) =
      c.bindings.map fun b => Criterion.placeholder b.index := by
    rw [(shows_render hcomplete hobject).placeholdersIn_eq, ← map_index_bindings, List.map_map]
    rfl
  have hlength : (placeholdersIn (c.render object)).length = c.placeholderCount := by
    rw [hread, List.length_map, length_bindings]
  have hbare := c.bareText_owned object
  refine ⟨hread, hlength, placeholderCount_eq_sum hcomplete, hbare, ?_,
    (owns_owned hcomplete hobject).owners⟩
  rw [map_bareText_ownedPlaceholders, hbare]

/-- A criterion that stands in a condition twice, with numbers that another one has as well. -/
theorem placeholders_owned_twice :
    let beginning : Criterion :=
      ⟨⟨⟨"a$1", by decide⟩, []⟩, .string, .startingWith, false, by decide⟩
    let range : Criterion := ⟨⟨⟨"b", by decide⟩, []⟩, .integer, .between, false, by decide⟩
    let c := and (or (test beginning [1]) (test range [1, 2])) (test beginning [1])
    c.Assembled ∧ isIdentifier "x".toList = true ∧
      placeholdersIn (c.render "x") = ["$1", "$1", "$2", "$1"] ∧
      List.Forall₂ (fun token b => ∀ x ∈ token, x.2.map (·.pattern) = some b.pattern)
        (ownedPlaceholders (c.owned "x")) c.bindings ∧
      c.bindings =
        [⟨1, .startingWith⟩, ⟨1, .asGiven⟩, ⟨2, .asGiven⟩, ⟨1, .startingWith⟩] := by
  intro beginning range c
  have hbeginning : (test beginning [1]).Assembled := .made beginning ⟨3, 0⟩ rfl
  have hrange : (test range [1, 2]).Assembled := .made range ⟨2, 0⟩ rfl
  have hc : c.Assembled := .and (.or hbeginning hrange) hbeginning
  obtain ⟨hread, -, -, -, -, howners⟩ :=
    placeholders_owned hc (by decide : isIdentifier "x".toList = true)
  refine ⟨hc, by decide, ?_, howners, rfl⟩
  rw [hread]
  decide

end Condition

end DerivedQuery
