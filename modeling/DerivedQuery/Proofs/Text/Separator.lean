import DerivedQuery.Text.Slice

/-!
# Separators of several characters

* `piecesAt`: a text cut at every occurrence of a separator.
* `piecesFrom_intercalate`: texts without the first character of the separator are the pieces of what
  they are joined to.
* `afterLast?`: what follows the last occurrence of a text. `exists_of_afterLast?`: there is one.
-/

namespace DerivedQuery.Text

/-! ## Cutting -/

/-- `cs` cut at every occurrence of `sep`, found from left to right. `skip` counts the characters of
an occurrence that are still to be passed over. -/
def piecesFrom (sep : List Char) : Nat → List Char → List (List Char)
  | skip + 1, _ :: cs => piecesFrom sep skip cs
  | _, [] => [[]]
  | 0, c :: cs =>
    if sep.isPrefixOf (c :: cs) then [] :: piecesFrom sep (sep.length - 1) cs
    else match piecesFrom sep 0 cs with
      | p :: ps => (c :: p) :: ps
      | [] => [[c]]

/-- The text cut at every occurrence of a separator. -/
def piecesAt (sep : String) (cs : List Char) : List (List Char) :=
  piecesFrom sep.toList 0 cs

section Cutting

variable {s : Char} {sep : List Char}

/-- The rest of an occurrence is passed over. -/
theorem piecesFrom_skip (part cs : List Char) :
    piecesFrom sep part.length (part ++ cs) = piecesFrom sep 0 cs := by
  induction part with
  | nil => rfl
  | cons c part ih => exact ih

/-- No separator begins at a character that is not its first one. -/
theorem piecesFrom_cons_of_ne {c : Char} (h : c ≠ s) (cs : List Char) :
    piecesFrom (s :: sep) 0 (c :: cs) =
      match piecesFrom (s :: sep) 0 cs with
      | p :: ps => (c :: p) :: ps
      | [] => [[c]] := by
  have hprefix : (s :: sep).isPrefixOf (c :: cs) = false := by
    simp [List.isPrefixOf, Ne.symm h]
  rw [piecesFrom, hprefix]
  rfl

theorem piecesFrom_of_not_mem {p : List Char} (h : s ∉ p) : piecesFrom (s :: sep) 0 p = [p] := by
  induction p with
  | nil => rfl
  | cons c p ih =>
    rw [List.mem_cons, not_or] at h
    rw [piecesFrom_cons_of_ne (Ne.symm h.1), ih h.2]

/-- A piece ends where the separator begins. -/
theorem piecesFrom_append {p : List Char} (h : s ∉ p) (cs : List Char) :
    piecesFrom (s :: sep) 0 (p ++ (s :: sep) ++ cs) = p :: piecesFrom (s :: sep) 0 cs := by
  induction p with
  | nil =>
    have hprefix : (s :: sep).isPrefixOf (s :: (sep ++ cs)) = true :=
      List.isPrefixOf_iff_prefix.2 (List.prefix_append (s :: sep) cs)
    rw [List.nil_append, List.cons_append, piecesFrom, if_pos hprefix]
    exact congrArg ([] :: ·) (piecesFrom_skip sep cs)
  | cons c p ih =>
    rw [List.mem_cons, not_or] at h
    rw [List.cons_append, List.cons_append, piecesFrom_cons_of_ne (Ne.symm h.1), ih h.2]

/-- Texts without the first character of the separator are found again in what they are joined to. -/
theorem piecesFrom_intercalate {ps : List (List Char)} (hps : ps ≠ []) (h : ∀ p ∈ ps, s ∉ p) :
    piecesFrom (s :: sep) 0 ((s :: sep).intercalate ps) = ps := by
  induction ps with
  | nil => exact absurd rfl hps
  | cons p ps ih =>
    rw [List.forall_mem_cons] at h
    cases ps with
    | nil => rw [List.intercalate_singleton, piecesFrom_of_not_mem h.1]
    | cons q ps =>
      rw [List.intercalate_cons_cons, piecesFrom_append h.1, ih (List.cons_ne_nil q ps) h.2]

end Cutting

/-! ## The last occurrence -/

/-- What follows the last occurrence of `part`. -/
def afterLast? (part : List Char) : List Char → Option (List Char)
  | [] => part.isPrefixOf? []
  | c :: cs => (afterLast? part cs).or (part.isPrefixOf? (c :: cs))

variable {part cs rest : List Char}

theorem exists_of_afterLast? (h : afterLast? part cs = some rest) :
    ∃ front, cs = front ++ (part ++ rest) := by
  have here {cs : List Char} (hcs : part.isPrefixOf? cs = some rest) :
      ∃ front, cs = front ++ (part ++ rest) := by
    refine ⟨[], ?_⟩
    rw [List.nil_append, isPrefixOf?_eq_some_iff.1 hcs]
  induction cs with
  | nil => exact here h
  | cons c cs ih =>
    rcases Option.or_eq_some_iff.1 h with hfurther | ⟨-, hhere⟩
    · obtain ⟨front, hcs⟩ := ih hfurther
      exact ⟨c :: front, congrArg (c :: ·) hcs⟩
    · exact here hhere

/-- What stands in front of a text does not change what follows the last occurrence in it. -/
theorem afterLast?_append (front : List Char) (h : afterLast? part cs = some rest) :
    afterLast? part (front ++ cs) = some rest := by
  induction front with
  | nil => exact h
  | cons c front ih => rw [List.cons_append, afterLast?, ih, Option.some_or]

end DerivedQuery.Text
