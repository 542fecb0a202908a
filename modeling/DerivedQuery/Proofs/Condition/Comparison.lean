import DerivedQuery.Proofs.Condition.Phrase

/-!
# Where a comparison ends

A comparison is one test as it is written: a range is two of them. A comparison may contain blanks
and parentheses, but no connective stands in it outside parentheses. So a scanner that counts
parentheses finds its end, and what follows a comparison is determined by the text.

* `IsComparison`: the texts of single tests.
* `operandEnd`: what follows an operand.
* `IsComparison.append_inj`: a comparison that is followed by a mark can be told from the text.
-/

namespace DerivedQuery

/-- One test as it is written, with its placeholders. -/
def IsComparison (object text : String) : Prop :=
  ∃ (criterion : Criterion) (placeholders : List Nat), criterion.operator ≠ .between ∧
    placeholders.length = criterion.arity ∧ criterion.render placeholders object = text

/-- What stands behind an operand, apart from the end of the text. -/
def operandMarks : List String :=
  [")", " AND ", " OR "]

/-- What follows an operand, where as many parentheses are open as `depth` says. -/
def operandEnd : Nat → List Char → List Char
  | _, [] => []
  | 0, c :: cs =>
    if operandMarks.any fun mark => mark.toList.isPrefixOf (c :: cs) then c :: cs
    else operandEnd (if c = '(' then 1 else 0) cs
  | depth + 1, c :: cs =>
    operandEnd (if c = '(' then depth + 2 else if c = ')' then depth else depth + 1) cs

/-- The text ends here, or one of the marks stands here. -/
def Follows (marks : List String) (cs : List Char) : Prop :=
  cs = [] ∨ ∃ mark ∈ marks, mark.toList <+: cs

theorem Follows.mono {marks more : List String} {cs : List Char} (h : Follows marks cs)
    (hmarks : ∀ mark ∈ marks, mark ∈ more) : Follows more cs := by
  rcases h with hnil | ⟨mark, hmark, hcs⟩
  · exact .inl hnil
  · exact .inr ⟨mark, hmarks mark hmark, hcs⟩

/-! ## The scanner -/

/-- The scanner stops at once where an operand has ended. -/
theorem operandEnd_of_follows {cs : List Char} (h : Follows operandMarks cs) :
    operandEnd 0 cs = cs := by
  rcases h with rfl | ⟨mark, hmark, hcs⟩
  · rfl
  · cases cs with
    | nil => rfl
    | cons c cs =>
      have hany : operandMarks.any (fun mark => mark.toList.isPrefixOf (c :: cs)) = true :=
        List.any_eq_true.2 ⟨mark, hmark, List.isPrefixOf_iff_prefix.2 hcs⟩
      simp [operandEnd, hany]

/-- The scanner passes over paths and placeholders. -/
theorem operandEnd_solid {t : List Char} (h : ∀ c ∈ t, isPathChar c = true) (depth : Nat)
    (rest : List Char) : operandEnd depth (t ++ rest) = operandEnd depth rest := by
  induction t with
  | nil => rfl
  | cons c t ih =>
    have hc : isPathChar c = true := h c List.mem_cons_self
    have hopen : c ≠ '(' := ne_of_pathChar hc (by decide)
    have hclose : c ≠ ')' := ne_of_pathChar hc (by decide)
    have hblank : c ≠ ' ' := ne_of_pathChar hc (by decide)
    have htail : operandEnd depth (t ++ rest) = operandEnd depth rest :=
      ih fun d hd => h d (List.mem_cons_of_mem c hd)
    cases depth <;>
      simp [operandEnd, operandMarks, hopen, hclose, hblank.symm, hclose.symm, htail]

/-- A word that ends in a blank does not begin a piece without blanks that is at least as long. -/
theorem isPrefixOf_solid {word t : List Char} (hblank : ' ' ∈ word) (hlen : word.length ≤ t.length)
    (h : ∀ c ∈ t, isPathChar c = true) (rest : List Char) :
    word.isPrefixOf (t ++ rest) = false := by
  rw [Bool.eq_false_iff]
  intro hbegins
  -- The word would lie within the piece, and its blank with it.
  have hword : word <+: t :=
    List.prefix_of_prefix_length_le (List.isPrefixOf_iff_prefix.1 hbegins)
      (List.prefix_append t rest) hlen
  exact absurd (h ' ' (hword.subset hblank)) (by decide)

/-! ## Comparisons -/

/-- A comparison does not begin with a parenthesis. -/
theorem IsComparison.head {object text : String} (h : IsComparison object text)
    (hobject : isIdentifier object.toList = true) :
    ∃ c cs, text.toList = c :: cs ∧ c ≠ '(' := by
  rcases h with ⟨criterion, placeholders, -, hcount, rfl⟩
  rw [criterion.render_eq_phrase hcount]
  rcases criterion with ⟨path, kind, op, ignoreCase, supported⟩
  -- A comparison begins with the path, or else with `NOT`.
  obtain ⟨c, cs, hcs⟩ : ∃ c cs, (path.qualified object).toList = c :: cs := by
    cases hpath : (path.qualified object).toList with
    | nil => simp [toList_qualified path hobject] at hpath
    | cons c cs => exact ⟨c, cs, rfl⟩
  have hc : c ≠ '(' := by
    have hmem : c ∈ (path.qualified object).toList := by
      rw [hcs]
      exact List.mem_cons_self
    exact ne_of_pathChar (pathChar_of_mem_qualified path hobject c hmem) (by decide)
  cases op with
  | equals | notEquals => cases ignoreCase <;> simp [Criterion.phrase, hcs, hc]
  | _ => simp [Criterion.phrase, hcs, hc]

/-- The scanner finds the end of a comparison. -/
theorem operandEnd_comparison {object text : String} (h : IsComparison object text)
    (hobject : isIdentifier object.toList = true) {rest : List Char}
    (hrest : Follows operandMarks rest) : operandEnd 0 (text.toList ++ rest) = rest := by
  rcases h with ⟨criterion, placeholders, hsingle, hcount, rfl⟩
  rw [criterion.render_eq_phrase hcount]
  rcases criterion with ⟨path, kind, op, ignoreCase, supported⟩
  simp only at hsingle ⊢
  -- The scanner passes over the path and the placeholders and stops at the mark.
  have hend := operandEnd_of_follows hrest
  have hpath := operandEnd_solid (pathChar_of_mem_qualified path hobject)
  have hdigits (i depth : Nat) (cs : List Char) :
      operandEnd depth (Nat.toDigits 10 i ++ cs) = operandEnd depth cs := by
    apply operandEnd_solid
    intro c hc
    apply pathChar_of_mem_placeholder i
    rw [toList_placeholder]
    exact List.mem_cons_of_mem '$' hc
  -- Behind `NOT` stands a path, which is no connective, also where the object has such a name.
  have hname (word : List Char) (hblank : ' ' ∈ word) (hlen : word.length ≤ 4)
      (cs : List Char) :
      word.isPrefixOf ((path.qualified object).toList ++ '.' :: 'e' :: 'q' :: 'u' :: cs) =
        false := by
    have hfixed : ['.', 'e', 'q', 'u'].all isPathChar = true := by decide
    have hsolid : ∀ c ∈ (path.qualified object).toList ++ ['.', 'e', 'q', 'u'],
        isPathChar c = true := by
      intro c hc
      rcases List.mem_append.1 hc with hc | hc
      · exact pathChar_of_mem_qualified path hobject c hc
      · exact List.all_eq_true.1 hfixed c hc
    have hno := isPrefixOf_solid hblank (by simp; omega) hsolid cs
    simpa using hno
  have hand := hname "AND ".toList (by decide) (by decide)
  have hor := hname "OR ".toList (by decide) (by decide)
  simp only [String.reduceToList] at hand hor
  cases op with
  | equals | notEquals =>
    cases ignoreCase <;>
      simp [Criterion.phrase, toList_placeholder, operandEnd, operandMarks, hpath, hdigits, hend,
        hand, hor]
  | between => exact absurd rfl hsingle
  | _ =>
    simp [Criterion.phrase, toList_placeholder, operandEnd, operandMarks, hpath, hdigits, hend]

/-- What follows a comparison is determined by the text, and so is the comparison. -/
theorem IsComparison.append_inj {object s t : String} (hs : IsComparison object s)
    (ht : IsComparison object t) (hobject : isIdentifier object.toList = true)
    {rest rest' : List Char} (hrest : Follows operandMarks rest)
    (hrest' : Follows operandMarks rest') (h : s.toList ++ rest = t.toList ++ rest') :
    s = t ∧ rest = rest' := by
  -- Both rests are what the scanner finds in the one text.
  have heq : rest = rest' := by
    rw [← operandEnd_comparison hs hobject hrest, h, operandEnd_comparison ht hobject hrest']
  subst heq
  exact ⟨String.toList_inj.1 (List.append_cancel_right h), rfl⟩

end DerivedQuery
