import DerivedQuery.Proofs.Statement.HintNames

/-!
# Clauses in front of the `SELECT`

The `SELECT` of a statement is looked for behind the clauses in front of it. Each of these is closed
by a text of its own. So the `SELECT` that is found is found whatever follows it, and a clause that
is put in front is passed over.

* `exists_reads_leadingClause`: a clause in front of a `SELECT` is read whatever follows it.
* `LeadingClauses`: what may stand in front of a `SELECT`; `afterSelect?_leading` and
  `exists_afterSelect` say that the `SELECT` is found behind it, and nowhere else.
* `IsFront`: what is passed over in front of a statement; `isFront_trace`, `isFront_hintClause` and
  `isFront_import` are what is written there.
-/

namespace DerivedQuery.Statement

open Text

/-! ## One clause after the other -/

/-- A leading clause is passed over. -/
theorem afterSelect?_of_leading {cs rest : List Char}
    (h : leadingClause? (trimStart cs) = some rest) : afterSelect? cs = afterSelect? rest := by
  rw [afterSelect?]
  split
  · next hsome =>
    rw [h] at hsome
    cases hsome
    rfl
  · next hnone =>
    rw [h] at hnone
    cases hnone

/-- Without one, the next word has to be `SELECT`. -/
theorem afterSelect?_of_none {cs : List Char} (h : leadingClause? (trimStart cs) = none) :
    afterSelect? cs = (keyword "SELECT" (trimStart cs)).filter endsWord := by
  rw [afterSelect?]
  split
  · next hsome =>
    rw [h] at hsome
    cases hsome
  · rfl

/-- White space in front of a statement is passed over. -/
theorem afterSelect?_trimStart (cs : List Char) :
    afterSelect? (trimStart cs) = afterSelect? cs := by
  have htrim := trimStart_trimStart cs
  cases h : leadingClause? (trimStart cs) with
  | some rest => rw [afterSelect?_of_leading h, afterSelect?_of_leading (by rw [htrim, h])]
  | none => rw [afterSelect?_of_none h, afterSelect?_of_none (by rw [htrim, h]), htrim]

/-- A clause in front of a `SELECT` begins with `IMPORT` or with `<`. -/
theorem leadingClause?_cons {c : Char} (himport : foldsTo 'I' c = false)
    (hmark : foldsTo '<' c = false) (cs : List Char) : leadingClause? (c :: cs) = none := by
  simp [leadingClause?, importClause?, hintClause?, traceClause?, keyword, keywordChars, himport,
    hmark]

/-! ## A clause is read whatever follows it -/

/-- An import, which is read whatever follows, is so as a leading clause. -/
theorem reads_of_import {p : List Char} (hp : Reads importClause? p) : Reads leadingClause? p := by
  intro rest
  rw [leadingClause?, hp rest, Option.some_or]

/-- So are hints, which are no import. -/
theorem reads_of_hints {p : List Char} (hp : Reads hintClause? p) : Reads leadingClause? p := by
  intro rest
  have himport : importClause? (p ++ rest) = none := by
    have hself := hp []
    rcases p with _ | ⟨c, q⟩
    · cases hself
    · by_cases hc : c = '<'
      · subst hc
        rfl
      · simp [hintClause?, keyword, keywordChars, foldsTo, hc] at hself
  rw [leadingClause?, himport, hp rest, Option.none_or, Option.some_or]

theorem reads_of_trace {p : List Char} (hp : Reads traceClause? p) : Reads leadingClause? p := by
  intro rest
  -- The `T` tells a trace from a hint clause.
  have hothers : importClause? (p ++ rest) = none ∧ hintClause? (p ++ rest) = none := by
    have hself := hp []
    rcases p with _ | ⟨c, _ | ⟨d, q⟩⟩
    · cases hself
    · by_cases hc : c = '<' <;> simp [traceClause?, keyword, keywordChars, foldsTo, hc] at hself
    · by_cases hc : c = '<'
      · subst hc
        have hd : d = 'T' ∨ d = 't' := by
          by_contra hd
          simp [traceClause?, keyword, keywordChars, foldsTo, hd] at hself
        rcases hd with rfl | rfl <;> exact ⟨rfl, rfl⟩
      · simp [traceClause?, keyword, keywordChars, foldsTo, hc] at hself
  rw [leadingClause?, hothers.1, hothers.2, hp rest, Option.none_or, Option.none_or]

/-- A clause in front of a `SELECT` is read whatever follows it. -/
theorem exists_reads_leadingClause {cs rest : List Char} (h : leadingClause? cs = some rest) :
    ∃ p, cs = p ++ rest ∧ Reads leadingClause? p := by
  simp only [leadingClause?, Option.or_eq_some_iff] at h
  rcases h with himport | ⟨-, hhint | ⟨-, htrace⟩⟩
  · rcases exists_reads_phrase exists_reads_untilAfter himport with ⟨p, hcs, hp⟩
    exact ⟨p, hcs, reads_of_import hp⟩
  · rcases exists_reads_hintClause hhint with ⟨p, hcs, hp⟩
    exact ⟨p, hcs, reads_of_hints hp⟩
  · rcases exists_reads_keyword htrace with ⟨p, hcs, hp⟩
    exact ⟨p, hcs, reads_of_trace hp⟩

/-- Such a clause does not begin with white space. -/
theorem trimStart_of_reads {p : List Char} (hp : Reads leadingClause? p) (rest : List Char) :
    trimStart (p ++ rest) = p ++ rest := by
  have hself := hp []
  rcases p with _ | ⟨c, q⟩
  · cases hself
  · have hc : ¬ isBlank c = true := by
      intro hblank
      rw [List.cons_append, leadingClause?_cons (foldsTo_of_isBlank (by decide) (by decide) hblank)
        (foldsTo_of_isBlank (by decide) (by decide) hblank)] at hself
      cases hself
    exact List.dropWhile_cons_of_neg hc

/-! ## The `SELECT` -/

/-- The letters of a `SELECT`. -/
theorem exists_letters_select {w : List Char} (hw : Reads (keyword "SELECT") w) :
    ∃ s e l e' c t, w = [s, e, l, e', c, t] ∧ foldsTo 'S' s = true ∧ foldsTo 'L' l = true ∧
      foldsTo 'E' e' = true ∧ foldsTo 'C' c = true ∧ foldsTo 'T' t = true := by
  rcases keywordChars_eq_some_iff.1 (hw []) with ⟨v, hv, hwv⟩
  rw [List.append_nil, List.append_nil] at hwv
  subst hwv
  have hword : "SELECT".toList = ['S', 'E', 'L', 'E', 'C', 'T'] := rfl
  simp only [hword, List.forall₂_cons_left_iff, List.forall₂_nil_left_iff] at hv
  rcases hv with ⟨s, _, hs, ⟨e, _, -, ⟨l, _, hl, ⟨e', _, he, ⟨c, _, hc, ⟨t, _, ht, rfl, rfl⟩, rfl⟩,
    rfl⟩, rfl⟩, rfl⟩, rfl⟩
  exact ⟨s, e, l, e', c, t, rfl, hs, hl, he, hc, ht⟩

/-- White space and clauses, as they may stand in front of a `SELECT`. -/
inductive LeadingClauses : List Char → Prop
  | blank {blanks : List Char} (hblanks : ∀ c ∈ blanks, isBlank c = true) : LeadingClauses blanks
  | clause {blanks clause rest : List Char} (hblanks : ∀ c ∈ blanks, isBlank c = true)
      (hclause : Reads leadingClause? clause) (hrest : LeadingClauses rest) :
      LeadingClauses (blanks ++ (clause ++ rest))

/-- A `SELECT` is no clause, and it does not begin with white space. -/
theorem leadingClause?_select {w : List Char} (hw : Reads (keyword "SELECT") w) (cs : List Char) :
    leadingClause? (w ++ cs) = none ∧ ∃ c q, w = c :: q ∧ isBlank c = false := by
  rcases exists_letters_select hw with ⟨s, e, l, e', c, t, rfl, hs, -⟩
  -- The long `s` is the one letter beyond ASCII that folds to an `S`.
  have hletter : s = 'S' ∨ s = 's' ∨ s = 'ſ' := by
    simpa [foldsTo, or_assoc] using hs
  constructor
  · rcases hletter with rfl | rfl | rfl <;> exact leadingClause?_cons (by decide) (by decide) _
  · exact ⟨s, _, rfl, by rcases hletter with rfl | rfl | rfl <;> decide +kernel⟩

/-- The `SELECT` behind leading clauses is found, whatever follows that does not go on with the
word. -/
theorem afterSelect?_leading {a w rest : List Char} (ha : LeadingClauses a)
    (hw : Reads (keyword "SELECT") w) (hend : endsWord rest = true) :
    afterSelect? (a ++ (w ++ rest)) = some rest := by
  induction ha with
  | blank hblanks =>
    -- Behind white space stands the `SELECT` itself.
    rcases leadingClause?_select hw rest with ⟨hnone, c, q, rfl, hsolid⟩
    have hbegin : trimStart (_ ++ (c :: q ++ rest)) = c :: q ++ rest :=
      trimStart_of_blank hblanks hsolid
    rw [afterSelect?_of_none (by rw [hbegin, hnone]), hbegin, hw, Option.filter_some, if_pos hend]
  | @clause blanks clause a hblanks hclause _ ih =>
    -- The clause is passed over, and the search goes on behind it.
    have hfirst : leadingClause? (trimStart (blanks ++ (clause ++ a) ++ (w ++ rest))) =
        some (a ++ (w ++ rest)) := by
      simp only [List.append_assoc]
      rw [trimStart, List.dropWhile_append_of_pos hblanks]
      exact (congrArg leadingClause? (trimStart_of_reads hclause _)).trans (hclause _)
    rw [afterSelect?_of_leading hfirst, ih]

/-- A statement whose `SELECT` is found is leading clauses, the `SELECT`, and what follows it. -/
theorem exists_afterSelect {cs rest : List Char} (h : afterSelect? cs = some rest) :
    ∃ a w, cs = a ++ (w ++ rest) ∧ LeadingClauses a ∧ Reads (keyword "SELECT") w ∧
      endsWord rest = true := by
  fun_induction afterSelect? cs with
  | case1 cs mid hmid ih =>
    rcases ih h with ⟨a, w, rfl, ha, hw, hend⟩
    rcases exists_reads_leadingClause hmid with ⟨p, htrim, hp⟩
    rcases exists_blank_append cs with ⟨blanks, hblanks, hcs⟩
    refine ⟨blanks ++ (p ++ a), w, ?_, .clause hblanks hp ha, hw, hend⟩
    rw [hcs, htrim]
    simp only [List.append_assoc]
  | case2 cs hnone =>
    rcases Option.filter_eq_some_iff.1 h with ⟨hselect, hend⟩
    rcases exists_reads_keyword hselect with ⟨w, htrim, hw⟩
    rcases exists_blank_append cs with ⟨blanks, hblanks, hcs⟩
    exact ⟨blanks, w, by rw [hcs, htrim], .blank hblanks, hw, hend⟩

/-! ## What is put in front -/

/-- What is passed over in front of a statement. -/
def IsFront (t : List Char) : Prop :=
  ∀ cs, afterSelect? (t ++ cs) = afterSelect? cs

theorem IsFront.append {t u : List Char} (ht : IsFront t) (hu : IsFront u) : IsFront (t ++ u) := by
  intro cs
  rw [List.append_assoc, ht, hu]

theorem isFront_of_reads {p : List Char} (hp : Reads leadingClause? p) : IsFront (p ++ [' ']) := by
  intro cs
  have hclause : leadingClause? (trimStart (p ++ (' ' :: cs))) = some (' ' :: cs) := by
    rw [trimStart_of_reads hp, hp]
  have hblank : trimStart (' ' :: cs) = trimStart cs := rfl
  rw [List.append_assoc, List.singleton_append, afterSelect?_of_leading hclause,
    ← afterSelect?_trimStart, hblank, afterSelect?_trimStart]

/-- A trace is passed over. -/
theorem isFront_trace : IsFront "<TRACE> ".toList :=
  isFront_of_reads (reads_of_trace (p := "<TRACE>".toList) fun _ => rfl)

/-- A hint clause is passed over. -/
theorem isFront_hintClause {names : List String} (hne : names ≠ []) :
    IsFront (hintClause names ++ " ").toList := by
  rw [String.toList_append]
  exact isFront_of_reads (reads_of_hints (reads_hintClause hne))

/-- There is no semicolon in the import, once it is trimmed and has no semicolons behind it. -/
def IsOneImport (statement : String) : Prop :=
  ';' ∉ (trim statement.toList).rdropWhile (· = ';')

instance (statement : String) : Decidable (IsOneImport statement) :=
  inferInstanceAs (Decidable (_ ∉ _))

theorem prefix_bareImport (statement : String) :
    (bareImport statement).toList <+: (trim statement.toList).rdropWhile (· = ';') := by
  rw [bareImport, String.toList_ofList]
  exact List.rdropWhile_prefix isBlank _

/-- An import that is left has no white space in front. -/
theorem trimStart_bareImport (statement : String) :
    trimStart (bareImport statement).toList = (bareImport statement).toList := by
  have hmarks : (trim statement.toList).rdropWhile (· = ';') <+: trim statement.toList :=
    List.rdropWhile_prefix _ _
  have hbare := (prefix_bareImport statement).trans hmarks
  exact trimStart_of_isPrefix hbare (trimStart_trim statement.toList)

/-- Nothing is left of an import that has only semicolons. -/
theorem isEmpty_bareImport (statement : String) :
    (bareImport statement).isEmpty = (trim statement.toList).all (· = ';') := by
  have hmarks : (trim statement.toList).rdropWhile (· = ';') <+: trim statement.toList :=
    List.rdropWhile_prefix _ _
  have hstart := trimStart_of_isPrefix hmarks (trimStart_trim statement.toList)
  have hbare : (bareImport statement).toList =
      trimEnd ((trim statement.toList).rdropWhile (· = ';')) :=
    String.toList_ofList
  rw [Bool.eq_iff_iff, String.isEmpty_iff, ← String.toList_eq_nil_iff, hbare, trimEnd_eq_nil_iff,
    ← trimStart_eq_nil_iff, hstart, List.rdropWhile_eq_nil_iff, List.all_eq_true]

/-- One import is passed over, whose only semicolon is the one behind it. -/
theorem isFront_import {statement : String} (h : IsOneImport statement) :
    IsFront ("IMPORT " ++ bareImport statement ++ "; ").toList := by
  have hmark : ';' ∉ (bareImport statement).toList :=
    fun hmem => h ((prefix_bareImport statement).subset hmem)
  have hreads : Reads importClause? ("IMPORT".toList ++
      ([' '] ++ ((bareImport statement).toList ++ [';']))) := by
    refine reads_phrase (fun _ => rfl) (by simp [isBlank]) (by simp) (reads_untilAfter hmark) ?_
    -- Behind the blank stands the first character of the import, or the semicolon.
    intro rest
    have htrim := trimStart_bareImport statement
    cases hbare : (bareImport statement).toList with
    | nil => rfl
    | cons c cs =>
      rw [hbare] at htrim
      exact not_isBlank_of_trimStart htrim
  have htext : ("IMPORT " ++ bareImport statement ++ "; ").toList = "IMPORT".toList ++
      ([' '] ++ ((bareImport statement).toList ++ [';'])) ++ [' '] := by
    simp
  rw [htext]
  exact isFront_of_reads (reads_of_import hreads)

end DerivedQuery.Statement
