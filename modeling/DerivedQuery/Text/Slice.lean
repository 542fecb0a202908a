/-!
# Cutting and joining texts

Texts are cut as lists of characters.

* `pieces`: a text cut at every occurrence of a separator, and `joinPieces`, which undoes it
  (`joinPieces_pieces`).
* `dropStart?`, `dropEnd?`: a text without a given beginning or end.
* `replaceAll`: every occurrence of one text replaced by another.
-/

namespace DerivedQuery.Text

/-! ## Separators -/

/-- The text cut at every separator: one piece more than there are separators. -/
def pieces (sep : Char) : List Char → List (List Char)
  | [] => [[]]
  | c :: cs =>
    if c = sep then [] :: pieces sep cs
    else match pieces sep cs with
      | p :: ps => (c :: p) :: ps
      | [] => [[c]]

/-- The pieces with a separator between any two. -/
def joinPieces (sep : Char) : List (List Char) → List Char
  | [] => []
  | [p] => p
  | p :: q :: ps => p ++ sep :: joinPieces sep (q :: ps)

theorem pieces_ne_nil (sep : Char) (cs : List Char) : pieces sep cs ≠ [] := by
  cases cs with
  | nil => simp [pieces]
  | cons c cs =>
    unfold pieces
    split
    · simp
    · split <;> simp

/-- Cutting loses nothing but the separators. -/
theorem joinPieces_pieces (sep : Char) (cs : List Char) : joinPieces sep (pieces sep cs) = cs := by
  induction cs with
  | nil => rfl
  | cons c cs ih =>
    unfold pieces
    split
    · next h =>
      cases hp : pieces sep cs with
      | nil => exact absurd hp (pieces_ne_nil sep cs)
      | cons p ps => rw [hp] at ih; simp [joinPieces, ih, h]
    · cases hp : pieces sep cs with
      | nil => exact absurd hp (pieces_ne_nil sep cs)
      | cons p ps =>
        rw [hp] at ih
        cases ps <;> simp_all [joinPieces]

/-! ## Beginnings and ends -/

/-- What follows a given beginning. -/
def dropStart? (start : String) (cs : List Char) : Option (List Char) :=
  start.toList.isPrefixOf? cs

/-- What precedes a given end. -/
def dropEnd? (ending : String) (cs : List Char) : Option (List Char) :=
  ending.toList.isSuffixOf? cs

@[simp] theorem nil_isPrefixOf? (cs : List Char) : [].isPrefixOf? cs = some cs := by
  cases cs <;> rfl

@[simp] theorem isPrefixOf?_nil (c : Char) (cs : List Char) : (c :: cs).isPrefixOf? [] = none :=
  rfl

@[simp] theorem isPrefixOf?_cons (c d : Char) (cs ds : List Char) :
    (c :: cs).isPrefixOf? (d :: ds) = if c == d then cs.isPrefixOf? ds else none :=
  rfl

theorem isPrefixOf?_eq_some_iff {start cs rest : List Char} :
    start.isPrefixOf? cs = some rest ↔ cs = start ++ rest := by
  induction start generalizing cs with
  | nil => simp
  | cons s start ih =>
    cases cs with
    | nil => simp
    | cons c cs =>
      by_cases h : s = c
      · subst h
        simp [ih]
      · simp [h, Ne.symm h]

/-- A text begins with `start` just when it is `start` and what is left. -/
theorem dropStart?_eq_some_iff {start : String} {cs rest : List Char} :
    dropStart? start cs = some rest ↔ cs = start.toList ++ rest :=
  isPrefixOf?_eq_some_iff

theorem dropStart?_eq_none_iff {start : String} {cs : List Char} :
    dropStart? start cs = none ↔ ¬ start.toList <+: cs := by
  constructor
  · rintro hnone ⟨rest, rfl⟩
    rw [dropStart?_eq_some_iff.2 rfl] at hnone
    cases hnone
  · intro hprefix
    rw [Option.eq_none_iff_forall_ne_some]
    intro rest hsome
    exact hprefix ⟨rest, (dropStart?_eq_some_iff.1 hsome).symm⟩

/-- A text ends with `ending` just when it is what is left and `ending`. -/
theorem dropEnd?_eq_some_iff {ending : String} {cs rest : List Char} :
    dropEnd? ending cs = some rest ↔ cs = rest ++ ending.toList := by
  have hreverse : dropEnd? ending cs =
      (ending.toList.reverse.isPrefixOf? cs.reverse).map List.reverse := rfl
  simp only [hreverse, Option.map_eq_some_iff, isPrefixOf?_eq_some_iff]
  constructor
  · rintro ⟨r, h, rfl⟩
    rw [← List.reverse_reverse cs, h, List.reverse_append, List.reverse_reverse]
  · rintro rfl
    exact ⟨rest.reverse, List.reverse_append, List.reverse_reverse rest⟩

theorem dropEnd?_eq_none_iff {ending : String} {cs : List Char} :
    dropEnd? ending cs = none ↔ ¬ ending.toList <:+ cs := by
  constructor
  · rintro hnone ⟨rest, rfl⟩
    rw [dropEnd?_eq_some_iff.2 rfl] at hnone
    cases hnone
  · intro hsuffix
    rw [Option.eq_none_iff_forall_ne_some]
    intro rest hsome
    exact hsuffix ⟨rest, (dropEnd?_eq_some_iff.1 hsome).symm⟩

/-! ## Occurrences -/

/-- Whether a text occurs in another. -/
def occursIn (part : List Char) : List Char → Bool
  | [] => part.isEmpty
  | c :: cs => part.isPrefixOf (c :: cs) || occursIn part cs

/-- `cs` with every occurrence of `old` replaced by `new`, found from left to right. `skip` counts
the characters of an occurrence that are still to be passed over. -/
def replaceFrom (old new : List Char) : Nat → List Char → List Char
  | skip + 1, _ :: cs => replaceFrom old new skip cs
  | _, [] => []
  | 0, c :: cs =>
    if old.isPrefixOf (c :: cs) then new ++ replaceFrom old new (old.length - 1) cs
    else c :: replaceFrom old new 0 cs

/-- Every occurrence of `old` replaced by `new`. An empty `old` occurs before each character and
at the end. -/
def replaceAll (old new s : String) : String :=
  if old.isEmpty then
    String.ofList (s.toList.flatMap (fun c => new.toList ++ [c]) ++ new.toList)
  else String.ofList (replaceFrom old.toList new.toList 0 s.toList)

end DerivedQuery.Text
