import DerivedQuery.Proofs.Statement.Insertion
import DerivedQuery.Proofs.Statement.Leading
import DerivedQuery.Proofs.Text.Occurrence

/-!
# Clauses behind a statement

A limit and an order are written behind a statement, or in front of a limit that stands there. They
begin with white space and a word that continues no clause, and they have none of the characters
that close one. So whatever is found in the statement is found as before, and a clause that the
statement leaves open stays open.

* `IsTail`: what may be appended. `IsTail.phrase`: how a scanner reads across the end of the
  statement.
* `IsTail.importAt`, `IsTail.limitAt` and their like: what is found in the statement stays the same.
* `IsTail.afterSelect?`: so does the `SELECT`.
-/

namespace DerivedQuery

namespace Text

/-- White space at the beginning of two texts ends in the first, unless that is all white space. -/
theorem trimStart_append (b y : List Char) :
    trimStart (b ++ y) = if (trimStart b).isEmpty then trimStart y else trimStart b ++ y :=
  List.dropWhile_append

/-- No letter of the word stands for white space. -/
def isSolidWord (word : String) : Bool :=
  word.toList.all fun k => !isBlank k && !isBlank k.toLower

/-- A word without white space is not read across white space. -/
theorem foldsTo_of_solid {word : String} (h : isSolidWord word = true) {k c : Char}
    (hk : k ∈ word.toList) (hc : isBlank c = true) : foldsTo k c = false := by
  have hletter := List.all_eq_true.1 h k hk
  rw [Bool.and_eq_true, Bool.not_eq_true', Bool.not_eq_true'] at hletter
  exact foldsTo_of_isBlank hletter.1 hletter.2 hc

/-- White space that is taken off a text is taken off a longer one. -/
theorem space_append {x rest : List Char} {h : Char} (hx : space x = some (h :: rest))
    (y : List Char) : space (x ++ y) = some (h :: rest ++ y) := by
  cases x with
  | nil => cases hx
  | cons c x =>
    simp only [space] at hx
    split at hx
    · next hc =>
      have htrim : trimStart x = h :: rest := Option.some.inj hx
      rw [List.cons_append, space, if_pos hc, trimStart_append, htrim]
      rfl
    · cases hx

end Text

namespace Statement

open Text

/-! ## Tails -/

/-- What may be appended to a statement: nothing, or white space and a word that begins with `L` or
`O`, without a semicolon, a quote or a `>`. -/
structure IsTail (x : List Char) : Prop where
  begins : x ≠ [] → ∃ h rest, space x = some (h :: rest) ∧ (foldsTo 'L' h || foldsTo 'O' h) = true
  closed : ∀ c ∈ x, c ≠ ';' ∧ c ≠ '\'' ∧ c ≠ '>'

namespace IsTail

theorem nil : IsTail [] :=
  ⟨fun h => absurd rfl h, by simp⟩

/-- What may be appended in two steps may be appended at once. -/
theorem append {x y : List Char} (hx : IsTail x) (hy : IsTail y) : IsTail (x ++ y) := by
  by_cases hne : x = []
  · rwa [hne, List.nil_append]
  · constructor
    · intro _
      rcases hx.begins hne with ⟨h, rest, hspace, hh⟩
      exact ⟨h, rest ++ y, space_append hspace y, hh⟩
    · intro c hc
      rcases List.mem_append.1 hc with hc | hc
      · exact hx.closed c hc
      · exact hy.closed c hc

variable {x : List Char} (hx : IsTail x)
include hx

/-- A tail that is not empty begins with white space. -/
theorem exists_blank (hne : x ≠ []) : ∃ c y, x = c :: y ∧ isBlank c = true := by
  rcases hx.begins hne with ⟨h, rest, hspace, -⟩
  cases x with
  | nil => exact absurd rfl hne
  | cons c y =>
    by_cases hc : isBlank c = true
    · exact ⟨c, y, rfl, hc⟩
    · simp [space, hc] at hspace

/-- Behind its white space a tail is empty, or it begins with a letter that begins neither a bound
nor a clause in front of a `SELECT`. -/
theorem trimStart_cases : trimStart x = [] ∨
    ∃ h rest, trimStart x = h :: rest ∧ (∀ c ∈ rest, c ∈ x) ∧
      (h = 'L' ∨ h = 'l' ∨ h = 'O' ∨ h = 'o') := by
  by_cases hne : x = []
  · exact .inl (by rw [hne]; rfl)
  · right
    rcases hx.begins hne with ⟨h, rest, hspace, hh⟩
    have hletter : h = 'L' ∨ h = 'l' ∨ h = 'O' ∨ h = 'o' := by
      simpa [foldsTo, or_assoc] using hh
    have hsuffix : h :: rest <:+ x := (shorterEnd_of_space hspace).suffix
    refine ⟨h, rest, ?_, fun c hc => hsuffix.subset (List.mem_cons_of_mem h hc), hletter⟩
    rcases hx.exists_blank hne with ⟨c, y, rfl, hc⟩
    rw [space, if_pos hc] at hspace
    rw [trimStart, List.dropWhile_cons_of_pos hc]
    exact Option.some.inj hspace

/-- A word ends at the end of the statement, with or without a tail. -/
theorem endsWord_append (t : List Char) : endsWord (t ++ x) = endsWord t := by
  cases t with
  | cons c t => rfl
  | nil =>
    by_cases hne : x = []
    · rw [hne]
      rfl
    · rcases hx.exists_blank hne with ⟨c, y, rfl, hc⟩
      simp [endsWord, isWordChar_of_isBlank hc]

/-- A keyword is read in the statement or not at all. -/
theorem keyword_append {word : String}
    (hword : isSolidWord word = true) (b : List Char) :
    keyword word (b ++ x) = (keyword word b).map (· ++ x) := by
  by_cases hne : x = []
  · simp [hne]
  · rcases hx.exists_blank hne with ⟨c, y, rfl, hc⟩
    exact stopsAt_keyword (fun k hk => foldsTo_of_solid hword hk hc) b y

/-- White space, read across the end of the statement. Either the statement goes on behind it, or it
reaches the end and the tail follows. -/
theorem space_cases (b : List Char) :
    (∃ c r, space b = some (c :: r) ∧ space (b ++ x) = some (c :: r ++ x)) ∨
    ((space b = none ∨ space b = some []) ∧
      (space (b ++ x) = none ∨ space (b ++ x) = some (trimStart x))) := by
  cases b with
  | nil =>
    refine .inr ⟨.inl rfl, ?_⟩
    -- At the end of the statement the white space of the tail is read, if there is any.
    by_cases hne : x = []
    · exact .inl (by rw [hne]; rfl)
    · rcases hx.exists_blank hne with ⟨c, y, rfl, hc⟩
      right
      rw [List.nil_append, space, if_pos hc, trimStart, trimStart, List.dropWhile_cons_of_pos hc]
  | cons d b =>
    by_cases hd : isBlank d = true
    · rw [List.cons_append, space, if_pos hd, space, if_pos hd, trimStart_append]
      cases trimStart b with
      | nil => exact .inr ⟨.inr rfl, .inr rfl⟩
      | cons c r => exact .inl ⟨c, r, rfl, rfl⟩
    · refine .inr ⟨.inl ?_, .inl ?_⟩
      · rw [space, if_neg hd]
      · rw [List.cons_append, space, if_neg hd]

/-- A keyword and white space behind it, read across the end of the statement. -/
theorem phrase {word : String}
    (hword : isSolidWord word = true) (b : List Char) :
    (∃ c r, keyword word b >>= space = some (c :: r) ∧
      keyword word (b ++ x) >>= space = some (c :: r ++ x)) ∨
    ((keyword word b >>= space = none ∨ keyword word b >>= space = some []) ∧
      (keyword word (b ++ x) >>= space = none ∨
        keyword word (b ++ x) >>= space = some (trimStart x))) := by
  rw [hx.keyword_append hword]
  cases keyword word b with
  | none => exact .inr ⟨.inl rfl, .inl rfl⟩
  | some rest => exact hx.space_cases rest

/-- What is seen behind a keyword and white space. -/
theorem any_phrase {word : String} {seen : List Char → Bool}
    (hword : isSolidWord word = true)
    (hnil : seen [] = false) (hend : seen (trimStart x) = false)
    (hwithin : ∀ c r, seen (c :: r ++ x) = seen (c :: r)) (b : List Char) :
    (keyword word (b ++ x) >>= space).any seen = (keyword word b >>= space).any seen := by
  rcases hx.phrase hword b with ⟨c, r, hb, hbx⟩ | ⟨hb, hbx⟩
  · rw [hb, hbx]
    exact hwithin c r
  · have hnone : (keyword word b >>= space).any seen = false := by
      rcases hb with hb | hb <;> simp [hb, hnil]
    have hnone' : (keyword word (b ++ x) >>= space).any seen = false := by
      rcases hbx with hbx | hbx <;> simp [hbx, hend]
    rw [hnone, hnone']

/-- What is read behind a keyword and white space. -/
theorem bind_phrase {word : String} {read : Scanner}
    (hword : isSolidWord word = true)
    (hnil : read [] = none) (hend : read (trimStart x) = none)
    (hwithin : ∀ c r, read (c :: r ++ x) = (read (c :: r)).map (· ++ x)) (b : List Char) :
    keyword word (b ++ x) >>= space >>= read =
      (keyword word b >>= space >>= read).map (· ++ x) := by
  rcases hx.phrase hword b with ⟨c, r, hb, hbx⟩ | ⟨hb, hbx⟩
  · rw [hb, hbx]
    exact hwithin c r
  · have hnone : keyword word b >>= space >>= read = none := by
      rcases hb with hb | hb <;> simp [hb, hnil]
    have hnone' : keyword word (b ++ x) >>= space >>= read = none := by
      rcases hbx with hbx | hbx <;> simp [hbx, hend]
    rw [hnone, hnone']
    rfl

/-! ## What is found in the statement -/

theorem not_mem_mark : ';' ∉ x :=
  fun h => (hx.closed _ h).1 rfl

theorem not_mem_quote : '\'' ∉ x :=
  fun h => (hx.closed _ h).2.1 rfl

/-- A limit is found in the statement or not at all. -/
theorem limitAt_append (before : Option Char) (b : List Char) :
    limitAt before (b ++ x) = limitAt before b := by
  have hlimit (cs : List Char) : limitAt before cs = (startsWord before &&
      -- The test, with its phrase in front and what is seen behind it.
      (keyword "LIMIT" cs >>= space).any fun r => (optionally '$' r).head?.any isDecimalDigit) := by
    rw [limitAt, limitDigits?]
    cases keyword "LIMIT" cs >>= space <;> rfl
  have hhead : x.head?.any isDecimalDigit = false := by
    by_cases hne : x = []
    · rw [hne]
      rfl
    · rcases hx.exists_blank hne with ⟨c, y, rfl, hc⟩
      exact isDecimalDigit_of_isBlank hc
  rw [hlimit, hlimit, hx.any_phrase (by decide) rfl]
  · rcases hx.trimStart_cases with htrim | ⟨h, y, htrim, -, rfl | rfl | rfl | rfl⟩ <;>
      rw [htrim] <;> rfl
  · intro c r
    -- Only a `$` at the very end would let the tail follow, and no digit begins the tail.
    by_cases hc : c = '$'
    · cases r with
      | nil => simpa [optionally, hc] using hhead
      | cons d r => simp [optionally, hc]
    · simp [optionally, hc]

/-- So is an order. -/
theorem orderByAt_append (before : Option Char) (b : List Char) :
    orderByAt before (b ++ x) = orderByAt before b := by
  have horder (cs : List Char) : orderByAt before cs = (startsWord before &&
      (keyword "ORDER" cs >>= space).any fun r => (keyword "BY" r).any endsWord) := by
    rw [orderByAt]
    cases keyword "ORDER" cs >>= space <;> rfl
  rw [horder, horder, hx.any_phrase (by decide) rfl]
  · rcases hx.trimStart_cases with htrim | ⟨h, y, htrim, -, rfl | rfl | rfl | rfl⟩ <;>
      rw [htrim] <;> rfl
  · intro c r
    rw [hx.keyword_append (by decide)]
    cases keyword "BY" (c :: r) with
    | none => rfl
    | some rest => exact hx.endsWord_append rest

/-- An import is not closed by a tail. -/
theorem importAt_append (before : Option Char) (b : List Char) :
    importAt before (b ++ x) = importAt before b := by
  have himport (cs : List Char) : importAt before cs = (startsWord before &&
      (keyword "IMPORT" cs >>= space).any fun r => r.tail.contains ';') := by
    rw [importAt]
    rcases keyword "IMPORT" cs >>= space with _ | _ | ⟨c, r⟩ <;> rfl
  rw [himport, himport, hx.any_phrase (by decide) rfl]
  · rcases hx.trimStart_cases with htrim | ⟨h, y, htrim, hy, -⟩
    · rw [htrim]
      rfl
    · have hmark : ';' ∉ y := fun h => hx.not_mem_mark (hy _ h)
      simp [htrim, hmark]
  · intro c r
    simp [hx.not_mem_mark]

/-- A hint clause is closed in the statement or not at all. -/
theorem hintNames_append (state : HintState) (b : List Char) :
    hintNames state (b ++ x) = (hintNames state b).map (· ++ x) := by
  induction b generalizing state with
  | nil =>
    -- In the tail there is nothing that opens a name or closes the clause.
    have hnone (y : List Char) (hy : ∀ c ∈ y, c ≠ '\'' ∧ c ≠ '>') (state : HintState) :
        hintNames state y = none := by
      induction y generalizing state with
      | nil => cases state <;> rfl
      | cons c y ih =>
        rcases List.forall_mem_cons.1 hy with ⟨⟨hquote, hclose⟩, hy⟩
        cases state <;> simp [hintNames, hquote, hclose, ih hy]
    rw [List.nil_append, hnone x (fun c hc => (hx.closed c hc).2)]
    cases state <;> rfl
  | cons c b ih =>
    cases state <;> simp only [List.cons_append, hintNames, apply_ite (Option.map (· ++ x)), ih] <;>
      rfl

/-- The whole clause, with the phrase that opens it. -/
theorem hintClause?_append (b : List Char) :
    hintClause? (b ++ x) = (hintClause? b).map (· ++ x) := by
  refine hx.bind_phrase (by decide) rfl ?_ (fun c r => hx.hintNames_append .beforeName (c :: r)) b
  rcases hx.trimStart_cases with htrim | ⟨h, y, htrim, hy, -⟩
  · rw [htrim]
    rfl
  · have hquote : '\'' ∉ trimStart x :=
      fun h => hx.not_mem_quote ((trimStart_suffix x).subset h)
    exact hintNames_beforeName hquote

theorem traceClause?_append (b : List Char) :
    traceClause? (b ++ x) = (traceClause? b).map (· ++ x) :=
  hx.keyword_append (by decide) b

/-- An import clause ends at its semicolon, which the tail does not have. -/
theorem importClause?_append (b : List Char) :
    importClause? (b ++ x) = (importClause? b).map (· ++ x) := by
  have huntil (y : List Char) (hy : ';' ∉ y) : untilAfter ';' y = none := by
    induction y with
    | nil => rfl
    | cons c y ih =>
      rw [List.mem_cons, not_or] at hy
      rw [untilAfter, if_neg (Ne.symm hy.1), ih hy.2]
  refine hx.bind_phrase (by decide) rfl ?_ ?_ b
  · exact huntil _ fun h => hx.not_mem_mark ((trimStart_suffix x).subset h)
  · intro c r
    induction c :: r with
    | nil => exact huntil x hx.not_mem_mark
    | cons d r ih =>
      rw [List.cons_append, untilAfter, untilAfter]
      split
      · rfl
      · exact ih

theorem leadingClause?_append (b : List Char) :
    leadingClause? (b ++ x) = (leadingClause? b).map (· ++ x) := by
  rw [leadingClause?, leadingClause?, hx.importClause?_append, hx.hintClause?_append,
    hx.traceClause?_append, Option.map_or, Option.map_or]

/-- The `SELECT` of a statement is found in front of a tail, or there is none. -/
theorem afterSelect?_append (b : List Char) :
    afterSelect? (b ++ x) = (afterSelect? b).map (· ++ x) := by
  have htrim {b : List Char} (hb : trimStart b ≠ []) : trimStart (b ++ x) = trimStart b ++ x := by
    rw [trimStart_append, if_neg (by simpa using hb)]
  -- The induction is over the clauses in front of the `SELECT`, each of which is read in the
  -- statement.
  fun_induction afterSelect? b with
  | case1 b rest hrest ih =>
    have hb : trimStart b ≠ [] := by
      intro hnil
      rw [hnil] at hrest
      cases hrest
    have hclause : leadingClause? (trimStart (b ++ x)) = some (rest ++ x) := by
      rw [htrim hb, hx.leadingClause?_append, hrest, Option.map_some]
    rw [afterSelect?_of_leading hclause, ih]
  | case2 b hnone =>
    by_cases hb : trimStart b = []
    · -- The tail begins with neither a clause nor a `SELECT`.
      have htail : trimStart (b ++ x) = trimStart x := by
        rw [trimStart_append, if_pos (by simpa using hb)]
      have hbegin : leadingClause? (trimStart x) = none ∧ keyword "SELECT" (trimStart x) = none := by
        rcases hx.trimStart_cases with hx | ⟨h, rest, hx, -, rfl | rfl | rfl | rfl⟩ <;> rw [hx] <;>
          exact ⟨rfl, rfl⟩
      rw [afterSelect?_of_none (by rw [htail, hbegin.1]), htail, hbegin.2, hb]
      rfl
    · -- No clause here, so that a `SELECT` is looked for.
      have hclause : leadingClause? (trimStart (b ++ x)) = none := by
        rw [htrim hb, hx.leadingClause?_append, hnone, Option.map_none]
      rw [afterSelect?_of_none hclause, htrim hb, hx.keyword_append (by decide)]
      cases keyword "SELECT" (trimStart b) with
      | none => rfl
      | some rest =>
        simp only [Option.map_some, Option.filter_some, hx.endsWord_append]
        split <;> rfl

/-- Whether a `DISTINCT` follows the `SELECT` does not depend on a tail. -/
theorem startsDistinct_append (b : List Char) : startsDistinct (b ++ x) = startsDistinct b := by
  rw [startsDistinct, startsDistinct]
  rcases hx.space_cases b with ⟨c, r, hb, hbx⟩ | ⟨hb, hbx⟩
  · rw [hb, hbx]
    show (keyword "DISTINCT" (c :: r ++ x)).any endsWord =
      (keyword "DISTINCT" (c :: r)).any endsWord
    rw [hx.keyword_append (by decide)]
    cases keyword "DISTINCT" (c :: r) with
    | none => rfl
    | some rest => exact hx.endsWord_append rest
  · -- The statement ends behind the `SELECT`, and the tail begins with another word.
    have hnone : (space b >>= keyword "DISTINCT").any endsWord = false := by
      rcases hb with hb | hb <;> rw [hb] <;> rfl
    have hnone' : (space (b ++ x) >>= keyword "DISTINCT").any endsWord = false := by
      rcases hbx with hbx | hbx
      · rw [hbx]
        rfl
      · rw [hbx]
        rcases hx.trimStart_cases with hx | ⟨h, rest, hx, -, rfl | rfl | rfl | rfl⟩ <;> rw [hx] <;>
          rfl
    rw [hnone, hnone']

end IsTail

end Statement

end DerivedQuery
