import Mathlib.Data.List.DropRight
import DerivedQuery.Proofs.Statement.Leading
import DerivedQuery.Proofs.Text.Trim

/-!
# The text of an import

An import is put in front of a statement with a semicolon behind it. What ends the import already is
taken off in three steps: white space, semicolons, and white space again. That leaves the import
itself if the semicolons at its end stand together. If there is white space between them, the import
keeps all but the last of them, and then it is ended more than once.

* `importName`, `importEnding`: an import without what ends it, and what ends it.
* `StandTogether`: white space with one run of semicolons in it.
* `bareImport_eq`: what is left of an import. `keptMarks_eq_nil_iff`: when that is the import itself.
* `withImport_named`: the statement with the import. `withImport_dividedMarks`: an import that is
  ended twice.
-/

namespace DerivedQuery.Statement

open Text

/-! ## An import and what ends it -/

/-- White space or a semicolon, which may end an import. -/
def isEnding (c : Char) : Bool :=
  isBlank c || c = ';'

/-- An import without white space in front of it, and without the white space and the semicolons
behind it. -/
def importName (statement : String) : String :=
  String.ofList ((trimStart statement.toList).rdropWhile isEnding)

/-- The white space and the semicolons behind an import. -/
def importEnding (statement : String) : List Char :=
  (trimStart statement.toList).rtakeWhile isEnding

/-- There is white space only, but for one run of semicolons. -/
def StandTogether (ending : List Char) : Prop :=
  ∃ before n behind, (∀ c ∈ before, isBlank c = true) ∧ (∀ c ∈ behind, isBlank c = true) ∧
    ending = before ++ List.replicate n ';' ++ behind

/-- What the three steps leave of an ending. -/
def keptMarks (ending : List Char) : List Char :=
  trimEnd ((trimEnd ending).rdropWhile (· = ';'))

/-- An ending has white space and semicolons only. -/
theorem isEnding_of_mem (statement : String) : ∀ c ∈ importEnding statement, isEnding c = true :=
  fun _ => List.mem_rtakeWhile_imp

/-- An import is its name and its ending, behind white space. -/
theorem importName_append_importEnding (statement : String) :
    (importName statement).toList ++ importEnding statement = trimStart statement.toList := by
  rw [importName, String.toList_ofList]
  exact List.rdropWhile_append_rtakeWhile

/-- The last character of an import is neither white space nor a semicolon. -/
theorem not_isEnding_of_getLast? {statement : String} {c : Char}
    (h : (importName statement).toList.getLast? = some c) : isBlank c = false ∧ c ≠ ';' := by
  rw [importName, String.toList_ofList] at h
  have hne : (trimStart statement.toList).rdropWhile isEnding ≠ [] := by
    intro hnil
    rw [hnil] at h
    cases h
  have hlast := List.rdropWhile_last_not isEnding _ hne
  rw [List.getLast?_eq_some_getLast hne, Option.some.injEq] at h
  rw [h] at hlast
  simpa [isEnding] using hlast

theorem trimStart_importName (statement : String) :
    trimStart (importName statement).toList = (importName statement).toList := by
  refine trimStart_of_isPrefix ?_ (trimStart_trimStart statement.toList)
  exact ⟨importEnding statement, importName_append_importEnding statement⟩

/-- There is no import in white space and semicolons, and in nothing else. -/
theorem importName_eq_empty_iff {statement : String} :
    importName statement = "" ↔ ∀ c ∈ statement.toList, isEnding c = true := by
  have hblank : ∀ c ∈ statement.toList.takeWhile isBlank, isEnding c = true := by
    intro c hc
    have hc : isBlank c = true := List.all_eq_true.1 List.all_takeWhile c hc
    simp [isEnding, hc]
  rw [← String.toList_eq_nil_iff, importName, String.toList_ofList, List.rdropWhile_eq_nil_iff]
  constructor
  · intro h c hc
    rw [← List.takeWhile_append_dropWhile (p := isBlank) (l := statement.toList),
      List.mem_append] at hc
    exact hc.elim (hblank c) (h c)
  · intro h c hc
    exact h c ((trimStart_suffix statement.toList).subset hc)

/-! ## What is left of an ending -/

variable {p : Char → Bool} {a b : List Char}

/-- What is taken off an appended text is taken off the whole, up to a character that stays. -/
theorem rdropWhile_append_of_last (h : ∀ c, a.getLast? = some c → p c = false) :
    (a ++ b).rdropWhile p = a ++ b.rdropWhile p := by
  have ha : a.reverse.dropWhile p = a.reverse := by
    cases hrev : a.reverse with
    | nil => rfl
    | cons c cs =>
      have hlast : a.getLast? = some c := by
        rw [← List.head?_reverse, hrev, List.head?_cons]
      exact List.dropWhile_cons_of_neg (by simp [h c hlast])
  rw [List.rdropWhile, List.reverse_append, List.dropWhile_append]
  split
  · next hnil =>
    rw [ha, List.reverse_reverse, List.rdropWhile, List.isEmpty_iff.1 hnil, List.reverse_nil,
      List.append_nil]
  · rw [List.reverse_append, List.reverse_reverse, List.rdropWhile]

theorem rdropWhile_of_last (h : ∀ c, a.getLast? = some c → p c = false) : a.rdropWhile p = a := by
  have happend := rdropWhile_append_of_last (b := []) h
  rwa [List.append_nil, List.rdropWhile_nil, List.append_nil] at happend

/-- What is taken off as a whole is taken off in front of the rest. -/
theorem rdropWhile_append_of_all (h : ∀ c ∈ b, p c = true) :
    (a ++ b).rdropWhile p = a.rdropWhile p := by
  have hb : b.reverse.dropWhile p = [] :=
    List.dropWhile_eq_nil_iff.2 fun c hc => h c (List.mem_reverse.1 hc)
  rw [List.rdropWhile, List.reverse_append, List.dropWhile_append, hb, List.isEmpty_nil, if_pos rfl,
    List.rdropWhile]

/-- What is kept of an ending stands at its beginning. -/
theorem prefix_keptMarks (ending : List Char) : keptMarks ending <+: ending :=
  (List.rdropWhile_prefix isBlank _).trans
    ((List.rdropWhile_prefix _ _).trans (List.rdropWhile_prefix isBlank ending))

/-- Nothing is left of an ending just when its semicolons stand together. -/
theorem keptMarks_eq_nil_iff {ending : List Char} :
    keptMarks ending = [] ↔ StandTogether ending := by
  rw [keptMarks, trimEnd_eq_nil_iff]
  constructor
  · intro h
    -- The white space behind the semicolons, and the semicolons themselves.
    have hblanks : trimEnd ending ++ ending.rtakeWhile isBlank = ending :=
      List.rdropWhile_append_rtakeWhile
    have hmarks : (trimEnd ending).rdropWhile (· = ';') ++ (trimEnd ending).rtakeWhile (· = ';') =
        trimEnd ending := List.rdropWhile_append_rtakeWhile
    have hrun : (trimEnd ending).rtakeWhile (· = ';') =
        List.replicate ((trimEnd ending).rtakeWhile (· = ';')).length ';' := by
      apply List.eq_replicate_of_mem
      intro c hc
      simpa using List.mem_rtakeWhile_imp hc
    refine ⟨_, ((trimEnd ending).rtakeWhile (· = ';')).length, ending.rtakeWhile isBlank, h,
      fun c hc => List.mem_rtakeWhile_imp hc, ?_⟩
    rw [← hrun, hmarks, hblanks]
  · rintro ⟨before, n, behind, hbefore, hbehind, rfl⟩ c hc
    have htrim : trimEnd (before ++ List.replicate n ';' ++ behind) =
        trimEnd (before ++ List.replicate n ';') := rdropWhile_append_of_all hbehind
    rw [htrim] at hc
    -- With semicolons in it, trimming stops at the last of them. Without any, nothing is left at
    -- all.
    cases n with
    | zero =>
      have hnil : trimEnd before = [] := trimEnd_eq_nil_iff.2 hbefore
      rw [List.replicate_zero, List.append_nil, hnil] at hc
      cases hc
    | succ n =>
      have hsolid : trimEnd (before ++ List.replicate (n + 1) ';') =
          before ++ List.replicate (n + 1) ';' := by
        refine List.rdropWhile_eq_self_iff.2 fun hne => ?_
        simp [isBlank]
      have hdrop : (before ++ List.replicate (n + 1) ';').rdropWhile (· = ';') =
          before.rdropWhile (· = ';') := rdropWhile_append_of_all (by simp)
      rw [hsolid, hdrop] at hc
      exact hbefore c ((List.rdropWhile_prefix _ before).subset hc)

/-- What is left of an ending ends with a semicolon. -/
theorem eq_mark_of_getLast? {ending : List Char} (h : ∀ c ∈ ending, isEnding c = true) {c : Char}
    (hc : (keptMarks ending).getLast? = some c) : c = ';' := by
  have hmem : c ∈ ending := (prefix_keptMarks ending).subset (List.mem_of_getLast? hc)
  have hne : keptMarks ending ≠ [] := by
    intro hnil
    rw [hnil] at hc
    cases hc
  have hlast : ¬ isBlank ((keptMarks ending).getLast hne) = true :=
    List.rdropWhile_last_not isBlank _ hne
  rw [List.getLast?_eq_some_getLast hne, Option.some.injEq] at hc
  have hblank : isBlank c = false := by
    rw [← hc]
    simpa using hlast
  simpa [isEnding, hblank] using h c hmem

/-- The import is what it names and what is left of its ending. -/
theorem bareImport_eq (statement : String) :
    bareImport statement =
      importName statement ++ String.ofList (keptMarks (importEnding statement)) := by
  have htrim {b : List Char} : trimEnd ((importName statement).toList ++ b) =
      (importName statement).toList ++ trimEnd b :=
    rdropWhile_append_of_last fun _ hc => (not_isEnding_of_getLast? hc).1
  have hmarks {b : List Char} : ((importName statement).toList ++ b).rdropWhile (· = ';') =
      (importName statement).toList ++ b.rdropWhile (· = ';') :=
    rdropWhile_append_of_last fun _ hc => decide_eq_false (not_isEnding_of_getLast? hc).2
  -- The name ends with a character that no step takes off, so all three go on in the ending alone.
  have hbare : (bareImport statement).toList =
      trimEnd ((trimEnd (trimStart statement.toList)).rdropWhile (· = ';')) :=
    String.toList_ofList
  apply String.toList_injective
  rw [hbare, ← importName_append_importEnding, htrim, hmarks, htrim, String.toList_append,
    String.toList_ofList, keptMarks]

/-- Nothing is taken off an import that has nothing at its end. -/
theorem bareImport_importName (statement : String) :
    bareImport (importName statement) = importName statement := by
  have hend : trimEnd (importName statement).toList = (importName statement).toList :=
    rdropWhile_of_last fun _ hc => (not_isEnding_of_getLast? hc).1
  have hmarks : (importName statement).toList.rdropWhile (· = ';') =
      (importName statement).toList :=
    rdropWhile_of_last fun _ hc => decide_eq_false (not_isEnding_of_getLast? hc).2
  have hbare : (bareImport (importName statement)).toList =
      trimEnd ((trimEnd (trimStart (importName statement).toList)).rdropWhile (· = ';')) :=
    String.toList_ofList
  apply String.toList_injective
  rw [hbare, trimStart_importName, hend, hmarks, hend]

/-- What is left of an import is left of itself just when nothing is left of its ending. -/
theorem bareImport_bareImport_eq_iff (statement : String) :
    bareImport (bareImport statement) = bareImport statement ↔
      keptMarks (importEnding statement) = [] := by
  have hsolid : trimEnd (bareImport statement).toList = (bareImport statement).toList := by
    rw [bareImport, String.toList_ofList]
    exact List.rdropWhile_idempotent _ _
  have htrim : trim (bareImport statement).toList = (bareImport statement).toList := by
    rw [trim, trimStart_bareImport, hsolid]
  have hagain : (bareImport (bareImport statement)).toList =
      trimEnd ((bareImport statement).toList.rdropWhile (· = ';')) := by
    rw [bareImport, String.toList_ofList, htrim]
    rfl
  have hlast : (bareImport statement).toList.getLast? =
      (keptMarks (importEnding statement)).getLast?.or (importName statement).toList.getLast? := by
    rw [bareImport_eq, String.toList_append, String.toList_ofList, List.getLast?_append]
  rw [← String.toList_inj, hagain]
  constructor
  · intro hsame
    -- No semicolon was taken off, so none stands at the end.
    have hstart : (bareImport statement).toList.rdropWhile (· = ';') <+:
        (bareImport statement).toList := List.rdropWhile_prefix _ _
    have hback : (bareImport statement).toList <+:
        (bareImport statement).toList.rdropWhile (· = ';') := by
      conv_lhs => rw [← hsame]
      exact List.rdropWhile_prefix isBlank _
    have hunmarked := List.rdropWhile_eq_self_iff.1
      (hstart.eq_of_length (le_antisymm hstart.length_le hback.length_le))
    cases hkept : (keptMarks (importEnding statement)).getLast? with
    | none => exact List.getLast?_eq_none_iff.1 hkept
    | some c =>
      have hmark := eq_mark_of_getLast? (isEnding_of_mem statement) hkept
      rw [hkept, Option.some_or, hmark] at hlast
      rcases List.getLast?_eq_some_iff.1 hlast with ⟨body, hbody⟩
      simp [hbody] at hunmarked
  · -- With nothing kept the import ends with a character that no step takes off.
    intro hkept
    rw [hkept, List.getLast?_nil, Option.none_or] at hlast
    have hunmarked : (bareImport statement).toList.rdropWhile (· = ';') =
        (bareImport statement).toList :=
      rdropWhile_of_last fun _ hc => decide_eq_false (not_isEnding_of_getLast? (hlast ▸ hc)).2
    rw [hunmarked, hsolid]

/-! ## The statement with an import -/

/-- Nothing is left of white space and semicolons that stand together. -/
theorem bareImport_eq_empty_iff {statement : String} :
    bareImport statement = "" ↔
      (∀ c ∈ statement.toList, isEnding c = true) ∧ StandTogether (importEnding statement) := by
  rw [bareImport_eq, String.append_eq_empty_iff, importName_eq_empty_iff, String.ofList_eq_empty_iff,
    keptMarks_eq_nil_iff]

theorem withImport_of_ne_empty {s : Statement} (h : s.hasImport = false) {statement : String}
    (hne : bareImport statement ≠ "") :
    s.withImport statement = ⟨"IMPORT " ++ bareImport statement ++ "; " ++ s.text⟩ := by
  have hempty : (bareImport statement).isEmpty = false := by
    rwa [Bool.eq_false_iff, ne_eq, String.isEmpty_iff]
  rw [withImport, hempty, h]
  rfl

theorem withImport_eq_self_iff {s : Statement} (h : s.hasImport = false) {statement : String} :
    s.withImport statement = s ↔ bareImport statement = "" := by
  constructor
  · intro hsame
    by_contra hne
    -- The statement would be as long as it is with the import.
    rw [withImport_of_ne_empty h hne] at hsame
    have hlength := congrArg (fun t => t.text.length) hsame
    simp only [String.length_append] at hlength
    have hword : "IMPORT ".length = 7 := rfl
    omega
  · intro hempty
    rw [withImport, hempty]
    rfl

/-- A statement with no import, and one that is added to it. Nothing is added just when there are
only semicolons, which stand together, and white space. Otherwise the import is put in front without
the white space around it. The semicolons at its end are taken off if they stand together; it is
then ended by the one that is added, and nothing more would be taken off it. If there is white space
between them, it keeps one at least. -/
theorem withImport_named {s : Statement} (h : s.hasImport = false) (statement : String) :
    ∃ kept, kept <+: importEnding statement ∧
      (kept = [] ↔ StandTogether (importEnding statement)) ∧
      kept.getLast?.all (· = ';') = true ∧
      (s.withImport statement = s ↔
        (∀ c ∈ statement.toList, isEnding c = true) ∧ StandTogether (importEnding statement)) ∧
      (s.withImport statement = s ∨ s.withImport statement =
        ⟨"IMPORT " ++ (importName statement ++ String.ofList kept) ++ "; " ++ s.text⟩) ∧
      (importName statement).toList.head?.all (fun c => !isBlank c) = true ∧
      (importName statement).toList.getLast?.all (fun c => !isEnding c) = true ∧
      bareImport (importName statement) = importName statement ∧
      (bareImport (importName statement ++ String.ofList kept) =
        importName statement ++ String.ofList kept ↔ kept = []) := by
  have hkept := bareImport_eq statement
  refine ⟨keptMarks (importEnding statement), prefix_keptMarks _, keptMarks_eq_nil_iff, ?_, ?_, ?_, ?_,
    ?_, bareImport_importName statement, ?_⟩
  · -- What is kept ends with a semicolon.
    cases hlast : (keptMarks (importEnding statement)).getLast? with
    | none => rfl
    | some c => simp [eq_mark_of_getLast? (isEnding_of_mem statement) hlast]
  · rw [withImport_eq_self_iff h, bareImport_eq_empty_iff]
  · by_cases hempty : bareImport statement = ""
    · exact .inl ((withImport_eq_self_iff h).2 hempty)
    · rw [← hkept]
      exact .inr (withImport_of_ne_empty h hempty)
  · -- The name begins with a character that is not white space, and ends with one that is no
    -- ending.
    cases hhead : (importName statement).toList with
    | nil => rfl
    | cons c cs =>
      have hstart := trimStart_importName statement
      rw [hhead] at hstart
      simp [not_isBlank_of_trimStart hstart]
  · cases hlast : (importName statement).toList.getLast? with
    | none => rfl
    | some c =>
      have hsolid := not_isEnding_of_getLast? hlast
      simp [isEnding, hsolid]
  · rw [← hkept]
    exact bareImport_bareImport_eq_iff statement

/-- The semicolons of this import stand together. -/
theorem withImport_named_marked :
    (⟨"SELECT * FROM /People x"⟩ : Statement).hasImport = false ∧
      (⟨"SELECT * FROM /People x"⟩ : Statement).withImport " org.example.Person ;; " =
        ⟨"IMPORT org.example.Person; SELECT * FROM /People x"⟩ := by
  have himport : (⟨"SELECT * FROM /People x"⟩ : Statement).hasImport = false := by decide +kernel
  obtain ⟨kept, -, hkept, -, hself, htext, -⟩ :=
    withImport_named himport " org.example.Person ;; "
  have hending : importEnding " org.example.Person ;; " = [' ', ';', ';', ' '] := by decide +kernel
  have hname : importName " org.example.Person ;; " = "org.example.Person" := by decide +kernel
  have hnil : kept = [] := by
    rw [hkept, hending]
    exact ⟨[' '], 2, [' '], by simp [isBlank], by simp [isBlank], rfl⟩
  have hne : (⟨"SELECT * FROM /People x"⟩ : Statement).withImport " org.example.Person ;; " ≠
      ⟨"SELECT * FROM /People x"⟩ := by
    rw [ne_eq, hself]
    exact fun h => absurd (h.1 'o' (by decide +kernel)) (by decide +kernel)
  rw [hname, hnil] at htext
  exact ⟨himport, htext.resolve_left hne⟩

/-- With white space between its semicolons an import keeps one, and white space and semicolons
alone are an import. The query is not found behind the second semicolon. -/
theorem withImport_dividedMarks :
    (⟨"SELECT * FROM /People x"⟩ : Statement).hasImport = false ∧
      (⟨"SELECT * FROM /People x"⟩ : Statement).withImport "org.example.Person; ;" =
        ⟨"IMPORT org.example.Person;; SELECT * FROM /People x"⟩ ∧
      (⟨"SELECT * FROM /People x"⟩ : Statement).withImport "; ;" =
        ⟨"IMPORT ;; SELECT * FROM /People x"⟩ ∧
      (⟨"IMPORT org.example.Person;; SELECT * FROM /People x"⟩ : Statement).withDistinct =
        ⟨"IMPORT org.example.Person;; SELECT * FROM /People x"⟩ := by
  decide +kernel

end DerivedQuery.Statement
