import DerivedQuery.Proofs.Statement.Extensible
import DerivedQuery.Proofs.Text.Barrier

/-!
# Clauses in front of a statement

An import and hints are put in front of a statement, where the clauses that are added later are
looked for as well. Each of the two ends with a mark, across which no clause is read. So what is
found in the whole statement is found in what stands in front, or else in the statement itself.

* `EndsMarked`: a text that is empty, or ends with a mark and a blank.
* `somewhere_marked`: a search of such a text does not depend on what follows.
* `hasLimit_marked`, `hasTrace_marked`, `hasHints_marked`: whether there is a clause.
-/

namespace DerivedQuery.Statement

open Text

/-- The text is empty, or it ends with one of the marks and a blank. -/
def EndsMarked (marks t : List Char) : Prop :=
  t = [] ∨ ∃ body, ∃ mark ∈ marks, t = body ++ [mark, ' ']

theorem EndsMarked.mono {marks more t : List Char} (h : EndsMarked marks t)
    (hmarks : ∀ mark ∈ marks, mark ∈ more) : EndsMarked more t := by
  rcases h with rfl | ⟨body, mark, hmark, rfl⟩
  · exact .inl rfl
  · exact .inr ⟨body, mark, hmarks mark hmark, rfl⟩

theorem EndsMarked.append {marks t u : List Char} (ht : EndsMarked marks t)
    (hu : EndsMarked marks u) : EndsMarked marks (t ++ u) := by
  rcases hu with rfl | ⟨body, mark, hmark, rfl⟩
  · rwa [List.append_nil]
  · exact .inr ⟨t ++ body, mark, hmark, by rw [List.append_assoc]⟩

/-- A test that sees nothing of what follows the marks finds what it finds in a text that ends with
one of them, whatever follows. -/
theorem somewhere_marked {test : Option Char → List Char → Bool} {marks t rest : List Char}
    (ht : EndsMarked marks t)
    (hmark : ∀ mark ∈ marks, ∀ before cs,
      test before (cs ++ mark :: ' ' :: rest) = test before (cs ++ [mark, ' ']))
    (hblank : ∀ before, test before (' ' :: rest) = test before [' '])
    (hrest : ∀ before, somewhere test before rest = test before []) (before : Option Char) :
    somewhere test before (t ++ rest) = somewhere test before t := by
  rcases ht with rfl | ⟨body, mark, hmem, rfl⟩
  · exact hrest before
  · refine somewhere_append ?_ hrest before
    intro d b hb hne
    -- What is left of the text is its last blank, or it begins in front of the mark.
    have hsplit : body ++ [mark, ' '] = body ++ [mark] ++ [' '] := by
      simp
    rw [hsplit] at hb
    rcases List.suffix_concat_iff.1 hb with rfl | ⟨c, rfl, hc⟩
    · exact absurd rfl hne
    · rcases List.suffix_concat_iff.1 hc with rfl | ⟨cs, rfl, -⟩
      · exact hblank d
      · simpa using hmark mark hmem d cs

/-! ## Limits -/

/-- The digits of a bound are not read across a character that is no part of one. -/
theorem stopsAt_limitDigits {stop : Char} (hword : ∀ k ∈ "LIMIT".toList, foldsTo k stop = false)
    (hblank : isBlank stop = false) (hdollar : stop ≠ '$') : StopsAt stop limitDigits? := by
  have hoptionally (cs rest : List Char) :
      optionally '$' (cs ++ stop :: rest) = optionally '$' cs ++ stop :: rest := by
    cases cs with
    | nil => simp [optionally, hdollar]
    | cons c cs => by_cases hc : c = '$' <;> simp [optionally, hc]
  intro cs rest
  have hstops := stopsAt_phrase hword hblank cs rest
  simp only [limitDigits?, hstops]
  cases keyword "LIMIT" cs >>= space with
  | none => rfl
  | some bound => exact congrArg some (hoptionally bound rest)

/-- No limit is read across a character that stands neither for a letter of the keyword nor for a
part of the bound. -/
theorem limitAt_append (stop : Char) (hword : ∀ k ∈ "LIMIT".toList, foldsTo k stop = false)
    (hblank : isBlank stop = false) (hdollar : stop ≠ '$') (hdigit : isDecimalDigit stop = false)
    (before : Option Char) (cs rest : List Char) :
    limitAt before (cs ++ stop :: rest) = limitAt before cs := by
  rw [limitAt, limitAt, stopsAt_limitDigits hword hblank hdollar cs rest]
  cases limitDigits? cs with
  | none => rfl
  | some digits => cases digits <;> simp [hdigit]

/-- A text without a limit has none behind any character. -/
theorem somewhere_limitAt {s : Statement} (h : s.hasLimit = false) (before : Option Char) :
    somewhere limitAt before s.text.toList = false := by
  rw [Bool.eq_false_iff]
  intro hlimit
  rw [hasLimit] at h
  cases hcs : s.text.toList with
  | nil =>
    rw [hcs] at hlimit
    simp [somewhere, limitAt, limitDigits?, keyword, keywordChars] at hlimit
  | cons c cs =>
    rw [hcs] at hlimit h
    simp only [somewhere, Bool.or_eq_true, Bool.or_eq_false_iff] at hlimit h
    rcases hlimit with hhere | hlater
    · -- At the beginning of a text a word may always begin.
      simp only [limitAt, Bool.and_eq_true] at hhere
      have hbegin : limitAt none (c :: cs) = true := by
        rw [limitAt, hhere.2]
        rfl
      rw [hbegin] at h
      cases h.1
    · rw [h.2] at hlater
      cases hlater

/-- A limit in front of a statement without one is a limit in what stands in front. -/
theorem hasLimit_marked {t : String} {s : Statement} (ht : EndsMarked [';', '>'] t.toList)
    (hs : s.hasLimit = false) :
    (⟨t ++ s.text⟩ : Statement).hasLimit = (⟨t⟩ : Statement).hasLimit := by
  unfold hasLimit
  rw [String.toList_append]
  -- The marks stand for no part of a limit, a blank begins none, and in `s` there is none.
  refine somewhere_marked ht ?_ ?_ ?_ none
  · intro mark hmark before cs
    simp only [List.mem_cons, List.not_mem_nil, or_false] at hmark
    rcases hmark with rfl | rfl
    · have hstops := limitAt_append ';' (by simp [foldsTo]) (by decide) (by decide)
        (by decide) before cs
      rw [hstops, hstops]
    · have hstops := limitAt_append '>' (by simp [foldsTo]) (by decide) (by decide)
        (by decide) before cs
      rw [hstops, hstops]
  · intro before
    simp [limitAt, limitDigits?, keyword, keywordChars, foldsTo]
  · intro before
    rw [somewhere_limitAt hs]
    simp [limitAt, limitDigits?, keyword, keywordChars]

/-! ## Traces -/

/-- A trace in front of a statement without one is a trace in what stands in front. -/
theorem hasTrace_marked {marks : List Char} {t : String} {s : Statement}
    (ht : EndsMarked marks t.toList) (hs : Throughout Untraced s.text.toList []) :
    (⟨t ++ s.text⟩ : Statement).hasTrace = (⟨t⟩ : Statement).hasTrace := by
  have hstops : StopsAt ' ' traceClause? := stopsAt_keyword (by simp [foldsTo])
  have hnone : s.hasTrace = false := hasTrace_of_untraced hs
  unfold hasTrace
  rw [String.toList_append]
  refine somewhere_marked ht ?_ ?_ ?_ none
  · intro mark _ before cs
    have hblank := hstops.isSome_eq (cs ++ [mark])
    simpa using (hblank s.text.toList).trans (hblank []).symm
  · intro before
    have hblank := hstops.isSome_eq []
    simpa using (hblank s.text.toList).trans (hblank []).symm
  · intro before
    -- The test does not look at the character in front.
    have hsame : somewhere (fun _ cs => (traceClause? cs).isSome) before s.text.toList =
        s.hasTrace := by
      unfold hasTrace
      cases s.text.toList <;> rfl
    rw [hsame, hnone]
    rfl

/-! ## Hints and imports -/

/-- A name that is not closed. -/
theorem hintNames_inName {cs : List Char} (h : '\'' ∉ cs) : hintNames .inName cs = none := by
  induction cs with
  | nil => rfl
  | cons c cs ih =>
    simp only [List.mem_cons, not_or] at h
    rw [hintNames, if_neg (Ne.symm h.1), ih h.2]

/-- A name that does not begin. -/
theorem hintNames_beforeName {cs : List Char} (h : '\'' ∉ cs) :
    hintNames .beforeName cs = none := by
  induction cs with
  | nil => rfl
  | cons c cs ih =>
    simp only [List.mem_cons, not_or] at h
    rw [hintNames, if_neg (Ne.symm h.1), ih h.2, ite_self]

/-- A name goes on up to the next quote. -/
theorem hintNames_inName_append {t : List Char} (h : '\'' ∉ t) (rest : List Char) :
    hintNames .inName (t ++ rest) = hintNames .inName rest := by
  induction t with
  | nil => rfl
  | cons c t ih =>
    rw [List.mem_cons, not_or] at h
    rw [List.cons_append, hintNames, if_neg (Ne.symm h.1), ih h.2]

/-- Whether a hint clause is closed depends on what stands behind a character that is no part of
one only inside a name. -/
theorem isSome_hintNames_congr {stop : Char} {rest rest' : List Char} (hblank : isBlank stop = false)
    (hmarks : stop ≠ '\'' ∧ stop ≠ ',' ∧ stop ≠ '>')
    (h : (hintNames .inName rest).isSome = (hintNames .inName rest').isSome) (state : HintState)
    (cs : List Char) :
    (hintNames state (cs ++ stop :: rest)).isSome =
      (hintNames state (cs ++ stop :: rest')).isSome := by
  induction cs generalizing state with
  | nil => cases state <;> simp [hintNames, hblank, hmarks, h]
  | cons c cs ih =>
    cases state <;> simp only [List.cons_append, hintNames, apply_ite Option.isSome, ih] <;> rfl

/-- There is no hint clause without quotes. -/
theorem hintClause?_of_unquoted {cs : List Char} (h : '\'' ∉ cs) : hintClause? cs = none := by
  rw [hintClause?]
  cases hstart : keyword "<HINT" cs >>= space with
  | none => rfl
  | some rest =>
    simp only [Option.bind_eq_bind, Option.bind_eq_some_iff] at hstart
    rcases hstart with ⟨blanks, hkeyword, hspace⟩
    have hrest : rest <:+ cs := (shorterEnd_of_space hspace).suffix.trans
      (keywordChars_suffix hkeyword)
    exact hintNames_beforeName fun hquote => h (hrest.subset hquote)

/-- A hint clause in front of a statement without quotes stands in what is in front. -/
theorem hasHints_marked {t : String} {s : Statement} (ht : EndsMarked [';'] t.toList)
    (hs : '\'' ∉ s.text.toList) :
    (⟨t ++ s.text⟩ : Statement).hasHints = (⟨t⟩ : Statement).hasHints := by
  have hstops : StopsAt ';' fun cs => keyword "<HINT" cs >>= space :=
    stopsAt_phrase (by simp [foldsTo]) (by decide)
  have hblank : '\'' ∉ ' ' :: s.text.toList := by
    simpa using hs
  unfold hasHints
  rw [String.toList_append]
  refine somewhere_marked ht ?_ ?_ ?_ none
  · intro mark hmark before cs
    rw [List.mem_singleton.1 hmark]
    unfold hintClause?
    simp only [hstops cs]
    cases keyword "<HINT" cs >>= space with
    | none => rfl
    | some left =>
      -- Both texts have no quote behind the mark, so a name that is open there is never closed.
      have hname : (hintNames .inName (' ' :: s.text.toList)).isSome =
          (hintNames .inName [' ']).isSome := by
        rw [hintNames_inName hblank, hintNames_inName (by decide)]
      exact isSome_hintNames_congr (by decide) (by decide) hname .beforeName left
  · intro before
    rw [hintClause?_of_unquoted hblank]
    rfl
  · intro before
    have hnone : somewhere (fun _ cs => (hintClause? cs).isSome) before s.text.toList = false := by
      rw [Bool.eq_false_iff]
      intro hhints
      rcases exists_of_somewhere hhints with ⟨d, cs, hcs, hat⟩
      rw [hintClause?_of_unquoted fun hquote => hs (hcs.subset hquote)] at hat
      cases hat
    rw [hnone]
    rfl

/-- There is no import without a semicolon. -/
theorem hasImport_of_unmarked {s : Statement} (h : ';' ∉ s.text.toList) : s.hasImport = false := by
  rw [Bool.eq_false_iff]
  intro himport
  rcases exists_of_somewhere himport with ⟨before, cs, hcs, hat⟩
  -- What is found has its semicolon behind it, and so does the text.
  simp only [importAt, Bool.and_eq_true] at hat
  rcases hat with ⟨-, hat⟩
  split at hat
  · next c statement hstart =>
    simp only [Option.bind_eq_bind, Option.bind_eq_some_iff] at hstart
    rcases hstart with ⟨blanks, hkeyword, hspace⟩
    have hstatement : c :: statement <:+ s.text.toList :=
      (shorterEnd_of_space hspace).suffix.trans ((keywordChars_suffix hkeyword).trans hcs)
    have hmark : ';' ∈ statement := by
      simpa using hat
    exact h (hstatement.subset (List.mem_cons_of_mem c hmark))
  · cases hat

end DerivedQuery.Statement
