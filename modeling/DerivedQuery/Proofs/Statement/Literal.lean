import Mathlib.Algebra.Group.Nat.Even
import DerivedQuery.Proofs.Statement.Addition
import DerivedQuery.Proofs.Statement.TrailingLimit

/-!
# Literals in a statement

Clauses are looked for in the whole text of a statement, its literals included. What a literal
contributes to the answers is said here exactly, and literals that contribute the same are
interchangeable: whatever is then added to the statement does not depend on which of them it has.

* `withLiteral`: a statement with a literal at some place.
* `LiteralMarks`: all that the search for clauses sees of a literal.
* `hasLimit_withLiteral` and its like: each answer, from what precedes the literal, from the literal
  and from what follows it.
* `literals_interchangeable`: literals with the same marks get the same answers and additions.
* `hasLimit_in_literal`: a literal that passes for a limit.
-/

namespace DerivedQuery.Statement

open Text

/-! ## What is seen of a literal -/

/-- The statement `a 'literal' b`. -/
def withLiteral (a literal b : String) : Statement :=
  ⟨a ++ "'" ++ literal ++ "'" ++ b⟩

/-- `IMPORT` and white space, which a semicolon further on makes an import. -/
def opensImportAt (before : Option Char) (cs : List Char) : Bool :=
  startsWord before && (keyword "IMPORT" cs >>= space).isSome

/-- The text has the beginning of an import. -/
def opensImport (text : String) : Bool :=
  somewhere opensImportAt none text.toList

/-- The text ends with `<HINT` and white space, so that a quote behind it begins a name. -/
def endsInHint (text : String) : Bool :=
  somewhere (fun _ cs => (keyword "<HINT" cs >>= space) == some []) none text.toList

/-- What the search for clauses sees of a literal: the clauses in it, and what may become a clause
together with the text around it. -/
structure LiteralMarks where
  imports : Bool
  opensImport : Bool
  closesImport : Bool
  endsInHint : Bool
  limit : Bool
  trace : Bool
  order : Bool
deriving DecidableEq

/-- What the search for clauses sees of a literal. -/
def marks (literal : String) : LiteralMarks where
  imports := (⟨literal⟩ : Statement).hasImport
  opensImport := opensImport literal
  closesImport := literal.toList.contains ';'
  endsInHint := endsInHint literal
  limit := (⟨literal⟩ : Statement).hasLimit
  trace := (⟨literal⟩ : Statement).hasTrace
  order := (⟨literal⟩ : Statement).hasOrderBy

/-- The literal stands between two quotes. -/
theorem toList_withLiteral (a literal b : String) :
    (withLiteral a literal b).text.toList =
      a.toList ++ '\'' :: (literal.toList ++ '\'' :: b.toList) := by
  simp [withLiteral]

/-! ## Limits, traces and orders -/

/-- A test that reads across no quote finds what it finds in the literal or on one of its sides. -/
theorem somewhere_withLiteral {test : Option Char → List Char → Bool}
    (hacross : ∀ before cs rest, test before (cs ++ '\'' :: rest) = test before cs)
    (hquote : ∀ cs, test (some '\'') cs = test none cs) (a literal b : List Char) :
    somewhere test none (a ++ '\'' :: (literal ++ '\'' :: b)) =
      (somewhere test none a || (somewhere test none literal || somewhere test none b)) := by
  rw [somewhere_barrier fun before cs _ => hacross before cs _, somewhere_behind hquote,
    somewhere_barrier fun before cs _ => hacross before cs _, somewhere_behind hquote]

/-- A word may begin behind a quote as at the beginning of a text. -/
theorem startsWord_quote : startsWord (some '\'') = startsWord none := by
  decide

/-- A limit stands in the literal or on one of its sides. -/
theorem hasLimit_withLiteral (a literal b : String) :
    (withLiteral a literal b).hasLimit = ((⟨a⟩ : Statement).hasLimit ||
      ((⟨literal⟩ : Statement).hasLimit || (⟨b⟩ : Statement).hasLimit)) := by
  unfold hasLimit
  rw [toList_withLiteral]
  apply somewhere_withLiteral
  · exact limitAt_append _ (by simp [foldsTo]) (by decide) (by decide) (by decide)
  · intro cs
    rw [limitAt, limitAt, startsWord_quote]

/-- A trace stands in the literal or on one of its sides. -/
theorem hasTrace_withLiteral (a literal b : String) :
    (withLiteral a literal b).hasTrace = ((⟨a⟩ : Statement).hasTrace ||
      ((⟨literal⟩ : Statement).hasTrace || (⟨b⟩ : Statement).hasTrace)) := by
  have hstops : StopsAt '\'' traceClause? := stopsAt_keyword (by simp [foldsTo])
  unfold hasTrace
  rw [toList_withLiteral]
  apply somewhere_withLiteral
  · exact fun _ cs rest => hstops.isSome_eq cs rest
  · exact fun _ => rfl

/-- No order reads across a quote. -/
theorem orderByAt_append (before : Option Char) (cs rest : List Char) :
    orderByAt before (cs ++ '\'' :: rest) = orderByAt before cs := by
  have hstops : StopsAt '\'' fun cs => keyword "ORDER" cs >>= space >>= keyword "BY" :=
    (stopsAt_phrase (by simp [foldsTo]) (by decide)).bind
      (stopsAt_keyword (by simp [foldsTo]))
  simp only [orderByAt, hstops cs rest]
  cases keyword "ORDER" cs >>= space >>= keyword "BY" with
  | none => rfl
  | some left => cases left <;> rfl

/-- An order stands in the literal or on one of its sides. -/
theorem hasOrderBy_withLiteral (a literal b : String) :
    (withLiteral a literal b).hasOrderBy = ((⟨a⟩ : Statement).hasOrderBy ||
      ((⟨literal⟩ : Statement).hasOrderBy || (⟨b⟩ : Statement).hasOrderBy)) := by
  unfold hasOrderBy
  rw [toList_withLiteral]
  apply somewhere_withLiteral orderByAt_append
  intro cs
  rw [orderByAt, orderByAt, startsWord_quote]

/-! ## Imports -/

/-- An import is closed on either side of a quote, if it is opened in front of it. -/
theorem importAt_append (before : Option Char) (cs rest : List Char) :
    importAt before (cs ++ '\'' :: rest) =
      (importAt before cs || (opensImportAt before cs && rest.contains ';')) := by
  have hstops : StopsAt '\'' fun cs => keyword "IMPORT" cs >>= space :=
    stopsAt_phrase (by simp [foldsTo]) (by decide)
  simp only [importAt, opensImportAt, hstops cs rest]
  cases keyword "IMPORT" cs >>= space with
  | none => simp
  -- The phrase ends at the quote, where either side may hold the semicolon.
  | some left =>
    cases left with
    | nil => simp
    | cons c left => simp [Bool.and_or_distrib_left]

/-- An import in front of the quote, one that is closed behind it, or one behind it. -/
theorem somewhere_importAt_append (t rest : List Char) :
    somewhere importAt none (t ++ '\'' :: rest) =
      (somewhere importAt none t || (somewhere opensImportAt none t && rest.contains ';') ||
        somewhere importAt none rest) := by
  rw [somewhere_barrier fun before cs _ => importAt_append before cs rest, somewhere_or,
    somewhere_and, somewhere_behind]
  intro cs
  rw [importAt, importAt, startsWord_quote]

/-- An import may be opened in front of the literal or in it, and closed further on. -/
theorem hasImport_withLiteral (a literal b : String) :
    (withLiteral a literal b).hasImport =
      ((⟨a⟩ : Statement).hasImport ||
        (opensImport a && (literal.toList.contains ';' || b.toList.contains ';')) ||
      ((⟨literal⟩ : Statement).hasImport || (opensImport literal && b.toList.contains ';') ||
        (⟨b⟩ : Statement).hasImport)) := by
  have hcontains : (literal.toList ++ '\'' :: b.toList).contains ';' =
      (literal.toList.contains ';' || b.toList.contains ';') := by
    simp
  unfold hasImport opensImport
  rw [toList_withLiteral, somewhere_importAt_append, somewhere_importAt_append, hcontains]

/-! ## Hints -/

/-- Every hint clause of the text opens outside its literals: the quotes in front of it are
paired. -/
def HintsOpenOutside (text : String) : Prop :=
  ∀ i ≤ text.toList.length, (keyword "<HINT" (text.toList.drop i) >>= space).isSome = true →
    Even ((text.toList.take i).count '\'')

instance (text : String) : Decidable (HintsOpenOutside text) :=
  inferInstanceAs (Decidable (∀ i ≤ _, _))

/-- A keyword takes off no character that none of its letters is. -/
theorem count_of_keywordChars {ks cs rest : List Char} {c : Char}
    (hks : ∀ k ∈ ks, foldsTo k c = false) (h : keywordChars ks cs = some rest) :
    rest.count c = cs.count c := by
  induction ks generalizing cs with
  | nil =>
    cases h
    rfl
  | cons k ks ih =>
    rcases List.forall_mem_cons.1 hks with ⟨hk, hks⟩
    cases cs with
    | nil => cases h
    | cons d cs =>
      simp only [keywordChars] at h
      split at h
      · next hd =>
        -- What is taken off folds to a letter of the keyword.
        have hne : d ≠ c := by
          rintro rfl
          rw [hk] at hd
          cases hd
        rw [ih hks h, List.count_cons_of_ne hne]
      · cases h

/-- White space takes off no other character. -/
theorem count_of_space {cs rest : List Char} {c : Char} (hc : isBlank c = false)
    (h : space cs = some rest) : rest.count c = cs.count c := by
  -- Of the first blank and those behind it, none is the character.
  have hdrop (cs : List Char) : (trimStart cs).count c = cs.count c := by
    have hnot : c ∉ cs.takeWhile isBlank := by
      intro hmem
      rw [List.all_eq_true.1 List.all_takeWhile c hmem] at hc
      cases hc
    conv_rhs => rw [← List.takeWhile_append_dropWhile (p := isBlank) (l := cs)]
    rw [List.count_append, List.count_eq_zero.2 hnot, Nat.zero_add]
    rfl
  cases cs with
  | nil => cases h
  | cons d cs =>
    simp only [space] at h
    split at h
    · next hd =>
      cases h
      have hne : d ≠ c := by
        rintro rfl
        rw [hc] at hd
        cases hd
      rw [hdrop, List.count_cons_of_ne hne]
    · cases h

/-- The quote in front of a literal begins a name, if it stands where one may begin, and then the
literal is the name. -/
theorem isSome_hintNames_literal {state : HintState} {left literal : List Char}
    (hparity : Even (left.count '\'') ↔ state ≠ .inName) (h : '\'' ∉ literal) (b : List Char) :
    (hintNames state (left ++ '\'' :: (literal ++ '\'' :: b))).isSome =
      (hintNames state (left ++ '\'' :: '\'' :: b)).isSome := by
  -- In a name the quotes that remain are odd in number, and elsewhere they are even.
  induction left generalizing state with
  | nil =>
    have hname := hintNames_inName_append h ('\'' :: b)
    cases state with
    | inName => simp at hparity
    | beforeName => simp [hintNames, hname]
    | atQuote => simp [hintNames, hname]
    | afterName => simp [hintNames, isBlank]
  | cons c left ih =>
    -- A quote changes the parity and the state; any other character changes neither.
    by_cases hc : c = '\''
    · subst hc
      have hflip : Even (left.count '\'') ↔ state = .inName := by
        rw [List.count_cons_self, Nat.even_add_one] at hparity
        exact not_iff_not.1 hparity
      cases state with
      | inName => simpa [hintNames] using @ih .atQuote (by simpa using hflip)
      | beforeName => simpa [hintNames] using @ih .inName (by simpa using hflip)
      | atQuote => simpa [hintNames] using @ih .inName (by simpa using hflip)
      | afterName => simp [hintNames, isBlank]
    · rw [List.count_cons_of_ne hc] at hparity
      cases state with
      | inName => simpa [hintNames, hc] using ih hparity
      | beforeName =>
        have hrest := ih hparity
        -- A comma or white space goes on, and anything else ends the clause.
        simp only [List.cons_append, hintNames, if_neg hc]
        split
        · exact hrest
        · rfl
      | atQuote =>
        -- Behind a quote that was not doubled the name is over.
        have hnames := @ih .beforeName (by simpa using hparity)
        have hbehind := @ih .afterName (by simpa using hparity)
        -- Which state comes next depends on the character only, and both states agree.
        simp only [List.cons_append, hintNames, if_neg hc, apply_ite Option.isSome, hnames, hbehind]
        rfl
      | afterName =>
        have hnames := @ih .beforeName (by simpa using hparity)
        have hbehind := ih hparity
        simp only [List.cons_append, hintNames, apply_ite Option.isSome, hnames, hbehind]
        rfl

/-- A hint clause that opens in front of a quote and goes on behind it. -/
def hintAcross (rest cs : List Char) : Bool :=
  (keyword "<HINT" cs >>= space).any fun left =>
    (hintNames .beforeName (left ++ '\'' :: rest)).isSome

/-- Across a quote only what opens a clause in front of it counts. -/
theorem isSome_hintClause?_append (cs rest : List Char) :
    (hintClause? (cs ++ '\'' :: rest)).isSome = hintAcross rest cs := by
  have hstops : StopsAt '\'' fun cs => keyword "<HINT" cs >>= space :=
    stopsAt_phrase (by simp [foldsTo]) (by decide)
  unfold hintClause? hintAcross
  simp only [hstops cs rest]
  cases keyword "<HINT" cs >>= space <;> rfl

/-- A search for hint clauses across a quote. -/
theorem somewhere_hintClause?_append (t rest : List Char) :
    somewhere (fun _ cs => (hintClause? cs).isSome) none (t ++ '\'' :: rest) =
      (somewhere (fun _ cs => hintAcross rest cs) none t ||
        somewhere (fun _ cs => (hintClause? cs).isSome) none rest) := by
  rw [somewhere_barrier fun _ cs _ => isSome_hintClause?_append cs rest,
    somewhere_behind fun _ => rfl]

/-- What opens a hint clause has no quotes. -/
theorem count_of_opening {cs left : List Char} (h : keyword "<HINT" cs >>= space = some left) :
    left.count '\'' = cs.count '\'' := by
  simp only [Option.bind_eq_bind, Option.bind_eq_some_iff] at h
  rcases h with ⟨mid, hkeyword, hspace⟩
  rw [count_of_space (by decide) hspace, count_of_keywordChars (by simp [foldsTo]) hkeyword]

/-- A hint clause that opens outside the literals in front of a literal closes whatever that literal
is. -/
theorem hintAcross_literal {cs literal : List Char}
    (hcs : (keyword "<HINT" cs >>= space).isSome = true → Even (cs.count '\''))
    (h : '\'' ∉ literal) (b : List Char) :
    hintAcross (literal ++ '\'' :: b) cs = hintAcross ('\'' :: b) cs := by
  unfold hintAcross
  cases hopening : keyword "<HINT" cs >>= space with
  | none => rfl
  | some left =>
    have heven := hcs (by rw [hopening]; rfl)
    -- The opening took no quote away, so that the parity is still even.
    rw [← count_of_opening hopening] at heven
    exact isSome_hintNames_literal (by simpa using heven) h b

/-- A hint clause that opens in a text without quotes goes on behind it with a name. -/
theorem hintAcross_unquoted {cs : List Char} (h : '\'' ∉ cs) (b : List Char) :
    hintAcross b cs =
      (((keyword "<HINT" cs >>= space) == some []) && (hintNames .inName b).isSome) := by
  unfold hintAcross
  cases hopening : keyword "<HINT" cs >>= space with
  | none => rfl
  | some left =>
    cases left with
    -- The quote that follows begins the name.
    | nil => simp [hintNames]
    | cons c left =>
      have hquote : '\'' ∉ c :: left := by
        rw [← List.count_eq_zero, count_of_opening hopening, List.count_eq_zero]
        exact h
      -- Any other character in front of the quote ends the clause.
      rw [List.mem_cons, not_or] at hquote
      simp only [Option.bind_eq_bind, Option.bind_eq_some_iff] at hopening
      rcases hopening with ⟨mid, -, hspace⟩
      simp [hintNames, Ne.symm hquote.1, not_isBlank_of_space hspace]

/-- Of a literal it matters whether it ends in the beginning of a hint clause. -/
theorem hasHints_withLiteral {a literal : String} (ha : Even (a.toList.count '\''))
    (hopen : HintsOpenOutside a) (h : '\'' ∉ literal.toList) (b : String) :
    (withLiteral a literal b).hasHints = ((withLiteral a "" b).hasHints ||
      (endsInHint literal && (hintNames .inName b.toList).isSome)) := by
  have hbefore : somewhere (fun _ cs => hintAcross (literal.toList ++ '\'' :: b.toList) cs) none
      a.toList = somewhere (fun _ cs => hintAcross ('\'' :: b.toList) cs) none a.toList := by
    apply somewhere_congr
    -- Clauses that open in front of the literal see it as a name or not at all.
    rintro - cs ⟨x, hx⟩
    -- The quotes in front of the clause are paired, as all of `a` are, and so are those behind.
    refine hintAcross_literal (fun hopening => ?_) h b.toList
    have heven := hopen x.length (by simp [← hx])
    rw [← hx, List.drop_left, List.take_left] at heven
    rw [← hx, List.count_append, Nat.even_add] at ha
    exact ha.1 (heven hopening)
  have hwithin : somewhere (fun _ cs => hintAcross b.toList cs) none literal.toList =
      (endsInHint literal && (hintNames .inName b.toList).isSome) := by
    unfold endsInHint
    rw [← somewhere_and]
    -- Clauses that open in the literal must reach its end.
    apply somewhere_congr
    intro _ cs hcs
    exact hintAcross_unquoted (fun hquote => h (hcs.subset hquote)) b.toList
  have hquote := somewhere_hintClause?_append [] b.toList
  have hnone : somewhere (fun _ cs => hintAcross b.toList cs) none [] = false := rfl
  rw [List.nil_append, hnone, Bool.false_or] at hquote
  unfold hasHints
  -- Both statements are split at the first quote and then at the second one.
  rw [toList_withLiteral, toList_withLiteral, somewhere_hintClause?_append, hbefore,
    somewhere_hintClause?_append, hwithin, String.toList_empty, List.nil_append,
    somewhere_hintClause?_append, hquote, Bool.or_left_comm, Bool.or_comm]

/-! ## Additions -/

/-- A limit at the end is split off from what stands behind the literal. -/
theorem splitTrailingLimit_withLiteral (a literal b : String) :
    splitTrailingLimit (withLiteral a literal b).text.toList =
      ((withLiteral a literal (String.ofList (splitTrailingLimit b.toList).1)).text.toList,
        (splitTrailingLimit b.toList).2) := by
  have hquote : isLimitChar '\'' = false := by
    decide
  rw [toList_withLiteral, splitTrailingLimit_stop hquote, splitTrailingLimit_stop hquote,
    toList_withLiteral, String.toList_ofList]

/-- Statements with the same answers that differ in a literal get the same clause at the same
place. -/
theorem apply_withLiteral {a b literal literal' : String}
    (h : SameAnswers (withLiteral a literal b) (withLiteral a literal' b)) (addition : Addition) :
    ∃ front b', (addition.apply (withLiteral a literal b)).text =
        front ++ (withLiteral a literal b').text ∧
      (addition.apply (withLiteral a literal' b)).text =
        front ++ (withLiteral a literal' b').text := by
  -- A clause that is there already is not added again.
  have hsame : ∃ front b',
      (withLiteral a literal b).text = front ++ (withLiteral a literal b').text ∧
        (withLiteral a literal' b).text = front ++ (withLiteral a literal' b').text :=
    ⟨"", b, String.empty_append.symm, String.empty_append.symm⟩
  cases addition with
  | importing statement =>
    -- The guard asks one of the answers, which is the same for both statements.
    simp only [Addition.apply, withImport, h.imports]
    split
    · exact hsame
    · exact ⟨"IMPORT " ++ bareImport statement ++ "; ", b, rfl, rfl⟩
  | hints hs =>
    simp only [Addition.apply, withHints, h.hints]
    split
    · exact hsame
    · exact ⟨hintClause (bareHints hs) ++ " ", b, rfl, rfl⟩
  | limit n =>
    simp only [Addition.apply, withLimit, h.limit]
    split
    · exact hsame
    · refine ⟨"", b ++ " LIMIT " ++ toString n, ?_, ?_⟩
      · simp [withLiteral, String.append_assoc]
      · simp [withLiteral, String.append_assoc]
  | trace =>
    simp only [Addition.apply, withTrace, h.trace]
    split
    · exact hsame
    · exact ⟨"<TRACE> ", b, rfl, rfl⟩
  | order o =>
    simp only [Addition.apply, orderBy, h.order, splitTrailingLimit_withLiteral]
    split
    · exact hsame
    · -- The order is put in front of a limit at the end, which stands behind the literal.
      rcases splitTrailingLimit b.toList with ⟨body, limit⟩
      refine ⟨"", String.ofList body ++ " " ++ o.clause ++ String.ofList limit, ?_, ?_⟩
      · simp [withLiteral, String.append_assoc]
      · simp [withLiteral, String.append_assoc]

/-! ## Interchangeable literals -/

/-- Two literals with the same marks are interchangeable, whatever stands around them: the five
answers are the same, and so is every clause that is then added, and where. A hint clause in front
of the literal must not begin inside another literal. -/
theorem literals_interchangeable {a b literal literal' : String}
    (ha : Even (a.toList.count '\'')) (hopen : HintsOpenOutside a)
    (hliteral : '\'' ∉ literal.toList) (hliteral' : '\'' ∉ literal'.toList)
    (hmarks : marks literal = marks literal') :
    SameAnswers (withLiteral a literal b) (withLiteral a literal' b) ∧
      ∀ addition : Addition, ∃ front b',
        (addition.apply (withLiteral a literal b)).text =
          front ++ (withLiteral a literal b').text ∧
        (addition.apply (withLiteral a literal' b)).text =
          front ++ (withLiteral a literal' b').text := by
  simp only [marks, LiteralMarks.mk.injEq] at hmarks
  -- Each answer is put together from marks, so that equal marks give equal answers.
  rcases hmarks with ⟨himports, hopens, hcloses, hhint, hlimit, htrace, horder⟩
  have hanswers : SameAnswers (withLiteral a literal b) (withLiteral a literal' b) := {
    imports := by
      rw [hasImport_withLiteral, hasImport_withLiteral, himports, hopens, hcloses]
    hints := by
      rw [hasHints_withLiteral ha hopen hliteral, hasHints_withLiteral ha hopen hliteral', hhint]
    limit := by
      rw [hasLimit_withLiteral, hasLimit_withLiteral, hlimit]
    trace := by
      rw [hasTrace_withLiteral, hasTrace_withLiteral, htrace]
    order := by
      rw [hasOrderBy_withLiteral, hasOrderBy_withLiteral, horder] }
  exact ⟨hanswers, fun addition => apply_withLiteral hanswers addition⟩

/-- A literal that mentions a limit without a number, behind a hint clause and another literal: an
order is put in front of the limit at the end, whichever of the two literals there is. -/
theorem literals_interchangeable_people :
    let a := "<HINT 'IdIdx'> SELECT * FROM /People x WHERE x.city = 'Paris' AND x.name = "
    let b := " AND x.age > 30 LIMIT 10"
    let byAge : Addition := .order ⟨[⟨⟨⟨"age", by decide⟩, []⟩, .descending⟩]⟩
    SameAnswers (withLiteral a "no LIMIT; order" b) (withLiteral a "one; two" b) ∧
      ∃ front b',
        (byAge.apply (withLiteral a "no LIMIT; order" b)).text =
          front ++ (withLiteral a "no LIMIT; order" b').text ∧
        (byAge.apply (withLiteral a "one; two" b)).text =
          front ++ (withLiteral a "one; two" b').text := by
  intro a b byAge
  have heven : Even (a.toList.count '\'') := by
    decide +kernel
  have hopen : HintsOpenOutside a := by
    decide +kernel
  have hmarks : marks "no LIMIT; order" = marks "one; two" := by
    decide +kernel
  rcases literals_interchangeable heven hopen (by decide) (by decide) hmarks with
    ⟨hanswers, hadditions⟩
  exact ⟨hanswers, hadditions byAge⟩

/-- A literal that mentions a limit passes for one, so that no limit is added; any other name in its
place gets one. -/
theorem hasLimit_in_literal :
    let a := "SELECT * FROM /People x WHERE x.name = "
    (withLiteral a "LIMIT 5" "").hasLimit = true ∧ (withLiteral a "Ada" "").hasLimit = false ∧
      (withLiteral a "LIMIT 5" "").withLimit 3 = withLiteral a "LIMIT 5" "" ∧
      (withLiteral a "Ada" "").withLimit 3 = withLiteral a "Ada" " LIMIT 3" := by
  decide +kernel

end DerivedQuery.Statement
