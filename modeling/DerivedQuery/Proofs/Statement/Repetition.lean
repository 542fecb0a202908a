import DerivedQuery.Proofs.Statement.Distinct

/-!
# Clauses that are added again

A clause that was added is found in the statement, whatever it says, and no clause that is added
later hides it. So adding clauses a second time adds nothing.

* `IsSteady`: a test that sees nothing of a tail. The searches for clauses are such tests.
* `Grows`: what one clause does to a statement. `IsSteady.mono`: what was found is found again.
* `Addition.IsSettled`: there is nothing to add; `Addition.isSettled_apply`: not once it was added.
* `Addition.applyAll_applyAll`: clauses that are added again.
* `withDistinct_withDistinct`: a selection that is made distinct again.
-/

namespace DerivedQuery.Statement

open Text

/-! ## What was found is found again -/

/-- A test that sees nothing of a tail, and takes a blank in front for the beginning. -/
structure IsSteady (test : Option Char → List Char → Bool) : Prop where
  tail : ∀ x, IsTail x → ∀ before b, test before (b ++ x) = test before b
  nil : ∀ before, test before [] = false
  blank : ∀ cs, test (some ' ') cs = test none cs

theorem isSteady_importAt : IsSteady importAt where
  tail _ hx := hx.importAt_append
  nil _ := Bool.and_false _
  blank _ := by rw [importAt, importAt]; rfl

theorem isSteady_hints : IsSteady fun _ cs => (hintClause? cs).isSome where
  tail _ hx _ b := by rw [hx.hintClause?_append, Option.isSome_map]
  nil _ := rfl
  blank _ := rfl

theorem isSteady_limitAt : IsSteady limitAt where
  tail _ hx := hx.limitAt_append
  nil := limitAt_nil
  blank _ := by rw [limitAt, limitAt]; rfl

theorem isSteady_trace : IsSteady fun _ cs => (traceClause? cs).isSome where
  tail _ hx _ b := by rw [hx.traceClause?_append, Option.isSome_map]
  nil _ := rfl
  blank _ := rfl

theorem isSteady_orderByAt : IsSteady orderByAt where
  tail _ hx := hx.orderByAt_append
  nil := orderByAt_nil
  blank _ := by rw [orderByAt, orderByAt]; rfl

/-- One statement comes from the other by a text in front that ends with a blank, and by a tail in
front of another one. -/
def Grows (s s' : Statement) : Prop :=
  ∃ front body added rest : String, s = ⟨body ++ rest⟩ ∧ s' = ⟨front ++ (body ++ (added ++ rest))⟩ ∧
    (front = "" ∨ ∃ t, front = t ++ " ") ∧ IsTail added.toList ∧ IsTail rest.toList

theorem Grows.refl (s : Statement) : Grows s s :=
  ⟨"", s.text, "", "", by rw [String.append_empty], by simp, .inl rfl, .nil, .nil⟩

/-- A clause that is found in a statement is found in what comes from it. -/
theorem IsSteady.mono {test : Option Char → List Char → Bool} (htest : IsSteady test)
    {s s' : Statement} (h : Grows s s') (hs : somewhere test none s.text.toList = true) :
    somewhere test none s'.text.toList = true := by
  rcases h with ⟨front, body, added, rest, rfl, rfl, hfront, hadded, hrest⟩
  -- The tails are counted apart, so the one between the other two takes nothing away.
  have hgrown : somewhere test none (body ++ (added ++ rest)).toList = true := by
    have hboth := hadded.append hrest
    rw [somewhere_iff] at hs ⊢
    rw [String.toList_append, occurrences_append (htest.tail _ hrest) htest.nil] at hs
    rw [String.toList_append, String.toList_append,
      occurrences_append (htest.tail _ hboth) htest.nil,
      occurrences_append (htest.tail _ hrest) htest.nil]
    omega
  rcases hfront with rfl | ⟨t, rfl⟩
  · rwa [String.empty_append]
  · have hblank : somewhere test (some ' ') (body ++ (added ++ rest)).toList = true := by
      rwa [somewhere_congr_before htest.blank]
    rw [String.toList_append, String.toList_append, List.append_assoc]
    exact somewhere_append_right hblank none t.toList

/-! ## A clause that is added is found -/

/-- An import that is added is found. -/
theorem hasImport_withImport (s : Statement) (statement : String) :
    (s.withImport statement).hasImport = (s.hasImport || !(bareImport statement).isEmpty) := by
  rw [withImport]
  cases himport : s.hasImport with
  | true => simp [himport]
  | false =>
    cases hbare : (bareImport statement).isEmpty with
    | true => simp [himport]
    | false =>
      -- The import begins with a character of its own, and the semicolon stands behind it.
      have hat : importAt none ("IMPORT " ++ bareImport statement ++ "; " ++ s.text).toList =
          true := by
        have htext : ("IMPORT " ++ bareImport statement ++ "; " ++ s.text).toList =
            "IMPORT ".toList ++ ((bareImport statement).toList ++ ("; " ++ s.text).toList) := by
          simp
        have hopening (cs : List Char) :
            keyword "IMPORT" ("IMPORT ".toList ++ cs) >>= space = some (trimStart cs) := rfl
        have htrim := trimStart_bareImport statement
        rw [htext, importAt, hopening]
        cases hchars : (bareImport statement).toList with
        | nil =>
          rw [String.toList_eq_nil_iff.1 hchars] at hbare
          cases hbare
        | cons c cs =>
          rw [hchars] at htrim
          have hc : ¬ isBlank c = true := by
            simp [not_isBlank_of_trimStart htrim]
          rw [List.cons_append, trimStart, List.dropWhile_cons_of_neg hc]
          simp [startsWord]
      exact somewhere_of_here hat

/-- So are hints. -/
theorem hasHints_withHints (s : Statement) (hints : List String) :
    (s.withHints hints).hasHints = (s.hasHints || !(bareHints hints).isEmpty) := by
  rw [withHints]
  cases hhints : s.hasHints with
  | true => simp [hhints]
  | false =>
    by_cases hbare : bareHints hints = []
    · simp [hhints, hbare]
    · have hat : (hintClause? (hintClause (bareHints hints) ++ " " ++ s.text).toList).isSome := by
        rw [String.append_assoc, String.toList_append, reads_hintClause hbare]
        rfl
      rw [if_neg (by simpa using hbare), hasHints, somewhere_of_here hat]
      simpa using hbare

theorem hasLimit_withLimit (s : Statement) (n : Nat) : (s.withLimit n).hasLimit = true := by
  rw [hasLimit_eq, limitCount_withLimit, decide_eq_true_iff]
  omega

theorem hasTrace_withTrace (s : Statement) : s.withTrace.hasTrace = true := by
  rw [withTrace]
  split
  · next h => exact h
  · exact hasTrace_of_trace s.text

/-- So is an order with keys. -/
theorem hasOrderBy_orderBy (s : Statement) (order : SortOrder) :
    (s.orderBy order).hasOrderBy = (s.hasOrderBy || !order.isEmpty) := by
  rw [hasOrderBy_eq, hasOrderBy_eq, orderCount_orderBy]
  cases order.isEmpty with
  | true => simp
  | false =>
    have hpos : 0 < max s.orderCount 1 := by
      omega
    simp [hpos]

/-! ## Adding clauses again -/

/-- One clause leaves the rest of a statement as it is. -/
theorem grows_apply (addition : Addition) (s : Statement) : Grows s (addition.apply s) := by
  -- Imports, hints and traces are put in front, limits and orders behind.
  have hfront (t : String) : Grows s ⟨t ++ " " ++ s.text⟩ :=
    ⟨t ++ " ", s.text, "", "", by rw [String.append_empty], by simp, .inr ⟨t, rfl⟩, .nil, .nil⟩
  cases addition with
  | importing statement =>
    rw [Addition.apply, withImport]
    split
    · exact .refl s
    · have hmark : "; " = ";" ++ " " := rfl
      rw [hmark, ← String.append_assoc]
      exact hfront _
  | hints hints =>
    rw [Addition.apply, withHints]
    split
    · exact .refl s
    · exact hfront _
  | limit n =>
    rw [Addition.apply, withLimit]
    split
    · exact .refl s
    · exact ⟨"", s.text, " LIMIT " ++ toString n, "", by rw [String.append_empty],
        by simp [String.append_assoc], .inl rfl, isTail_limit n, .nil⟩
  | trace =>
    rw [Addition.apply, withTrace]
    split
    · exact .refl s
    · exact hfront "<TRACE>"
  | order order =>
    rcases exists_orderBy s with ⟨body, limit, hs, -, hlimit, horder⟩
    exact ⟨"", body, s.addedOrder order, limit, hs, by
      rw [Addition.apply, horder, String.empty_append], .inl rfl, isTail_addedOrder s order, hlimit⟩

namespace Addition

/-- The clause has nothing to say: an import of semicolons, blank hints, or an order without
keys. -/
def saysNothing : Addition → Bool
  | importing statement => (trim statement.toList).all (· = ';')
  | hints hs => hs.all isBlankText
  | order o => o.isEmpty
  | limit _ | trace => false

/-- A clause of this kind is found in the statement. -/
def isFound : Addition → Statement → Bool
  | importing _, s => s.hasImport
  | hints _, s => s.hasHints
  | limit _, s => s.hasLimit
  | trace, s => s.hasTrace
  | order _, s => s.hasOrderBy

/-- There is nothing to add. -/
def IsSettled (addition : Addition) (s : Statement) : Prop :=
  addition.saysNothing = true ∨ addition.isFound s = true

theorem apply_of_isSettled {addition : Addition} {s : Statement} (h : addition.IsSettled s) :
    addition.apply s = s := by
  have hguard : (addition.saysNothing || addition.isFound s) = true := by
    rwa [Bool.or_eq_true]
  cases addition with
  | importing statement =>
    rw [saysNothing, ← isEmpty_bareImport] at hguard
    rw [Addition.apply, withImport]
    exact if_pos hguard
  | hints hints =>
    rw [saysNothing, ← isEmpty_bareHints] at hguard
    rw [Addition.apply, withHints]
    exact if_pos hguard
  | limit n => exact if_pos hguard
  | trace => exact if_pos hguard
  | order order => exact if_pos hguard

/-- A clause that is added is found, unless it has nothing to say. -/
theorem isFound_apply (addition : Addition) (s : Statement) :
    addition.isFound (addition.apply s) = (addition.isFound s || !addition.saysNothing) := by
  cases addition with
  | importing statement =>
    rw [saysNothing, ← isEmpty_bareImport]
    exact hasImport_withImport s statement
  | hints hints =>
    rw [saysNothing, ← isEmpty_bareHints]
    exact hasHints_withHints s hints
  | limit n => exact (hasLimit_withLimit s n).trans (Bool.or_true _).symm
  | trace => exact (hasTrace_withTrace s).trans (Bool.or_true _).symm
  | order order => exact hasOrderBy_orderBy s order

/-- A clause is settled once it was added. -/
theorem isSettled_apply (addition : Addition) (s : Statement) :
    addition.IsSettled (addition.apply s) := by
  unfold IsSettled
  rw [isFound_apply]
  cases addition.saysNothing <;> simp

/-- Of two clauses of one kind the first is added, unless it has nothing to say. -/
theorem apply_apply {α : Type} (clause : α → Addition)
    (h : ∀ x y s, (clause x).isFound s = (clause y).isFound s) (x y : α) (s : Statement) :
    (clause y).apply ((clause x).apply s) =
      (clause (if (clause x).saysNothing then y else x)).apply s := by
  cases hsays : (clause x).saysNothing with
  | true => rw [if_pos rfl, apply_of_isSettled (.inl hsays)]
  | false =>
    have hfound : (clause y).isFound ((clause x).apply s) = true := by
      rw [h y x, isFound_apply, hsays, Bool.not_false, Bool.or_true]
    rw [if_neg (by decide), apply_of_isSettled (.inr hfound)]

/-- What is in a statement is in it with one clause more. -/
theorem IsSettled.apply {addition : Addition} {s : Statement} (h : addition.IsSettled s)
    (other : Addition) : addition.IsSettled (other.apply s) := by
  have hgrows := grows_apply other s
  refine h.imp_right fun hfound => ?_
  cases addition with
  | importing statement => exact isSteady_importAt.mono hgrows hfound
  | hints hints => exact isSteady_hints.mono hgrows hfound
  | limit n => exact isSteady_limitAt.mono hgrows hfound
  | trace => exact isSteady_trace.mono hgrows hfound
  | order order => exact isSteady_orderByAt.mono hgrows hfound

/-- Any further clauses leave it settled. -/
theorem IsSettled.applyAll {addition : Addition} {s : Statement} (h : addition.IsSettled s)
    (additions : List Addition) : addition.IsSettled (applyAll additions s) := by
  induction additions generalizing s with
  | nil => exact h
  | cons other additions ih => exact ih (h.apply other)

/-- Clauses that were added one after the other are all in the statement. -/
theorem isSettled_applyAll (additions : List Addition) (s : Statement) :
    ∀ addition ∈ additions, addition.IsSettled (Addition.applyAll additions s) := by
  induction additions generalizing s with
  | nil => simp
  | cons first additions ih =>
    rw [List.forall_mem_cons]
    exact ⟨(isSettled_apply first s).applyAll additions, ih (first.apply s)⟩

theorem applyAll_append (first others : List Addition) (s : Statement) :
    applyAll (first ++ others) s = applyAll others (applyAll first s) :=
  List.foldl_append

/-- Clauses that are all settled add nothing. -/
theorem applyAll_of_isSettled {additions : List Addition} {s : Statement}
    (h : ∀ addition ∈ additions, addition.IsSettled s) : applyAll additions s = s := by
  induction additions with
  | nil => rfl
  | cons first additions ih =>
    rcases List.forall_mem_cons.1 h with ⟨hfirst, hothers⟩
    rw [applyAll, List.foldl_cons, apply_of_isSettled hfirst]
    exact ih hothers

/-- Clauses that are added again add nothing. -/
theorem applyAll_applyAll (additions : List Addition) (s : Statement) :
    applyAll additions (applyAll additions s) = applyAll additions s :=
  applyAll_of_isSettled (isSettled_applyAll additions s)

/-- A selection is made distinct before any clauses or after them. -/
theorem applyAll_withDistinct {additions : List Addition}
    (h : ∀ addition ∈ additions, addition.IsSealed) (s : Statement) :
    applyAll additions s.withDistinct = (applyAll additions s).withDistinct := by
  induction additions generalizing s with
  | nil => rfl
  | cons first additions ih =>
    rcases List.forall_mem_cons.1 h with ⟨hfirst, hothers⟩
    rw [applyAll, applyAll, List.foldl_cons, List.foldl_cons, apply_withDistinct hfirst]
    exact ih hothers (first.apply s)

end Addition

/-- A selection that was made distinct is distinct. -/
theorem withDistinct_withDistinct (s : Statement) :
    s.withDistinct.withDistinct = s.withDistinct := by
  cases hselect : afterSelect? s.text.toList with
  | none => rw [withDistinct_of_none hselect, withDistinct_of_none hselect]
  | some rest =>
    rcases exists_isSelection hselect with ⟨front, select, behind, rfl, rfl, h⟩
    by_cases hdistinct : startsDistinct behind.toList = true
    · rw [withDistinct_of_startsDistinct hselect hdistinct,
        withDistinct_of_startsDistinct hselect hdistinct]
    · -- The `SELECT` is found again, and the `DISTINCT` behind it.
      have hinserted : (" DISTINCT" ++ behind).toList = " DISTINCT".toList ++ behind.toList :=
        String.toList_append
      have hagain : IsSelection front select (" DISTINCT" ++ behind) :=
        ⟨h.leading, h.select, by rw [hinserted]; rfl⟩
      have hstarts : startsDistinct (" DISTINCT" ++ behind).toList = true := by
        rw [hinserted]
        exact h.ending
      rw [withDistinct_of_some h.afterSelect?_eq, if_neg hdistinct,
        withDistinct_of_some hagain.afterSelect?_eq, if_pos hstarts]

end DerivedQuery.Statement
