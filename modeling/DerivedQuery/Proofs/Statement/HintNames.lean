import DerivedQuery.Proofs.Text.Reading
import DerivedQuery.Proofs.Text.Trim
import DerivedQuery.Statement.Extension

/-!
# The names in a hint clause

Hints are written in quotes, with a quote inside a hint doubled, and a hint clause is found by a
reader that only tells where it ends. Here the clause is read by the rule of quoting: the reader
that returns the names ends where the other one ends, and it returns the hints that were written.

* `readName`, `readNames`, `readHints?`: the names of a hint clause, and what follows it.
* `hintClause?_eq`: a hint clause is found exactly where its names can be read.
* `readHints?_hintClause`: the hints that were written are the names that are read.
* `withHints_decodes`: the clause that is added, and which hints give the same one.
-/

namespace DerivedQuery.Statement

open Text

/-! ## Reading the names -/

/-- A name up to the quote that ends it, and what follows that quote. A quote that is written twice
stands for one. -/
def readName : List Char → Option (List Char × List Char)
  | [] => none
  | '\'' :: '\'' :: cs => (readName cs).map fun (name, rest) => ('\'' :: name, rest)
  | '\'' :: cs => some ([], cs)
  | c :: cs => (readName cs).map fun (name, rest) => (c :: name, rest)

/-- Behind a name there is less text than there was. -/
theorem length_readName {cs name rest : List Char} (h : readName cs = some (name, rest)) :
    rest.length < cs.length := by
  fun_induction readName cs generalizing name with
  | case1 => cases h
  | case2 cs ih =>
    rcases Option.map_eq_some_iff.1 h with ⟨⟨name', rest'⟩, hread, heq⟩
    cases heq
    have hshorter := ih hread
    simp only [List.length_cons]
    omega
  | case3 cs =>
    cases h
    exact Nat.lt_succ_self _
  | case4 c cs _ _ ih =>
    rcases Option.map_eq_some_iff.1 h with ⟨⟨name', rest'⟩, hread, heq⟩
    cases heq
    exact Nat.lt_succ_of_lt (ih hread)

/-- Names in quotes with commas between them, up to the closing `>`, and what follows it. There may
be white space around a name. -/
def readNames (cs : List Char) : Option (List String × List Char) :=
  match _hopen : trimStart cs with
  | '\'' :: quoted =>
    match _hname : readName quoted with
    | none => none
    | some (name, behind) =>
      match _hclose : trimStart behind with
      | '>' :: rest => some ([String.ofList name], rest)
      | ',' :: more => (readNames more).map fun (names, rest) => (String.ofList name :: names, rest)
      | _ => none
  | _ => none
termination_by cs.length
decreasing_by
  have hquoted := (trimStart_suffix cs).length_le
  have hbehind := length_readName _hname
  have hmore := (trimStart_suffix behind).length_le
  rw [_hopen] at hquoted
  rw [_hclose] at hmore
  simp only [List.length_cons] at hquoted hmore
  omega

/-- The names of a hint clause, and what follows it. -/
def readHints? (cs : List Char) : Option (List String × List Char) :=
  keyword "<HINT" cs >>= space >>= readNames

/-! ## Where a clause ends -/

/-- In a name the clause goes on to the quote that ends it, and from there as behind a name. -/
theorem hintNames_inName_eq (cs : List Char) :
    hintNames .inName cs = (readName cs).bind fun r => hintNames .afterName r.2 := by
  fun_induction readName cs with
  | case1 => rfl
  | case2 cs ih =>
    rw [hintNames, if_pos rfl, hintNames, if_pos rfl, ih]
    cases readName cs <;> rfl
  | case3 cs h =>
    rw [hintNames, if_pos rfl, Option.bind_some]
    cases cs with
    | nil => rfl
    -- A quote that is not doubled has no quote behind it.
    | cons c cs =>
      have hc : c ≠ '\'' := fun hc => h cs (by rw [hc])
      rw [hintNames, if_neg hc, hintNames]
  | case4 c cs h h' ih =>
    have hc : c ≠ '\'' := h'
    rw [hintNames, if_neg hc, ih]
    cases readName cs <;> rfl

/-- Behind a name the clause is closed, or goes on with another name. -/
theorem hintNames_afterName_eq (cs : List Char) : hintNames .afterName cs =
    match trimStart cs with
    | '>' :: rest => some rest
    | ',' :: more => hintNames .beforeName more
    | _ => none := by
  induction cs with
  | nil => rfl
  | cons c cs ih =>
    by_cases hc : isBlank c = true
    · have hclose : c ≠ '>' := by
        rintro rfl
        cases hc
      have hcomma : c ≠ ',' := by
        rintro rfl
        cases hc
      rw [hintNames, if_neg hclose, if_neg hcomma, if_pos hc, ih, trimStart, trimStart,
        List.dropWhile_cons_of_pos hc]
    · rw [trimStart, List.dropWhile_cons_of_neg hc, hintNames]
      by_cases hclose : c = '>'
      · subst hclose
        rfl
      · by_cases hcomma : c = ','
        · subst hcomma
          rfl
        · rw [if_neg hclose, if_neg hcomma, if_neg hc]
          split
          · next heq => exact absurd (List.cons.inj heq).1 hclose
          · next heq => exact absurd (List.cons.inj heq).1 hcomma
          · rfl

/-- In front of a name there is nothing but white space and its quote. -/
theorem hintNames_beforeName_eq (cs : List Char) : hintNames .beforeName cs =
    match trimStart cs with
    | '\'' :: quoted => hintNames .inName quoted
    | _ => none := by
  induction cs with
  | nil => rfl
  | cons c cs ih =>
    by_cases hc : isBlank c = true
    · have hquote : c ≠ '\'' := by
        rintro rfl
        cases hc
      rw [hintNames, if_neg hquote, if_pos hc, ih, trimStart, trimStart,
        List.dropWhile_cons_of_pos hc]
    · rw [trimStart, List.dropWhile_cons_of_neg hc, hintNames]
      by_cases hquote : c = '\''
      · subst hquote
        rfl
      · rw [if_neg hquote, if_neg hc]
        split
        · next heq => exact absurd (List.cons.inj heq).1 hquote
        · rfl

/-- The names are closed exactly where they can be read. -/
theorem hintNames_eq (cs : List Char) :
    hintNames .beforeName cs = (readNames cs).map (·.2) := by
  fun_induction readNames cs with
  | case1 cs quoted hopen hname =>
    rw [hintNames_beforeName_eq, hopen]
    simp only
    rw [hintNames_inName_eq, hname]
    rfl
  | case2 cs quoted hopen name behind hname rest hclose =>
    rw [hintNames_beforeName_eq, hopen]
    simp only
    rw [hintNames_inName_eq, hname, Option.bind_some, hintNames_afterName_eq, hclose]
    rfl
  | case3 cs quoted hopen name behind hname more hclose ih =>
    rw [hintNames_beforeName_eq, hopen]
    simp only
    rw [hintNames_inName_eq, hname, Option.bind_some, hintNames_afterName_eq, hclose]
    simp only
    rw [ih]
    cases readNames more <;> rfl
  -- Neither mark follows the name, and neither reader goes on.
  | case4 cs quoted hopen name behind hname hclose hcomma =>
    rw [hintNames_beforeName_eq, hopen]
    simp only
    rw [hintNames_inName_eq, hname, Option.bind_some, hintNames_afterName_eq]
    split
    · next heq => exact absurd heq (hclose _)
    · next heq => exact absurd heq (hcomma _)
    · rfl
  | case5 cs hopen =>
    rw [hintNames_beforeName_eq]
    split
    · next heq => exact absurd heq (hopen _)
    · rfl

/-- A hint clause is found exactly where its names can be read. -/
theorem hintClause?_eq (cs : List Char) : hintClause? cs = (readHints? cs).map (·.2) := by
  rw [hintClause?, readHints?]
  cases keyword "<HINT" cs >>= space with
  | none => rfl
  | some rest => exact hintNames_eq rest

/-- The names are closed by the same text, whatever follows. -/
theorem exists_reads_hintNames {state : HintState} {cs rest : List Char}
    (h : hintNames state cs = some rest) :
    ∃ p, p ≠ [] ∧ cs = p ++ rest ∧ Reads (hintNames state) p := by
  induction cs generalizing state with
  | nil => cases state <;> cases h
  | cons c cs ih =>
    -- Either the clause closes at this character, or the reader goes on in some state.
    have close (hrest : some cs = some rest)
        (hstep : ∀ ds, hintNames state (c :: ds) = some ds) :
        ∃ p, p ≠ [] ∧ c :: cs = p ++ rest ∧ Reads (hintNames state) p := by
      cases hrest
      exact ⟨[c], by simp, rfl, hstep⟩
    have further {next : HintState} (hrest : hintNames next cs = some rest)
        (hstep : ∀ ds, hintNames state (c :: ds) = hintNames next ds) :
        ∃ p, p ≠ [] ∧ c :: cs = p ++ rest ∧ Reads (hintNames state) p := by
      rcases ih hrest with ⟨p, -, rfl, hp⟩
      refine ⟨c :: p, by simp, rfl, fun rest' => ?_⟩
      rw [List.cons_append, hstep, hp rest']
    cases state with
    | beforeName =>
      simp only [hintNames] at h
      split_ifs at h with hquote hblank
      · exact further h fun _ => by simp [hintNames, hquote]
      · exact further h fun _ => by simp [hintNames, hquote, hblank]
    | inName => exact further h fun _ => by rw [hintNames]
    | atQuote =>
      simp only [hintNames] at h
      split_ifs at h with hquote hclose hcomma hblank
      · exact further h fun _ => by simp [hintNames, hquote]
      · exact close h fun _ => by simp [hintNames, hclose]
      · exact further h fun _ => by simp [hintNames, hcomma]
      · exact further h fun _ => by simp [hintNames, hquote, hclose, hcomma, hblank]
    | afterName =>
      simp only [hintNames] at h
      split_ifs at h with hclose hcomma hblank
      · exact close h fun _ => by simp [hintNames, hclose]
      · exact further h fun _ => by simp [hintNames, hcomma]
      · exact further h fun _ => by simp [hintNames, hclose, hcomma, hblank]

/-- So is every hint clause. -/
theorem exists_reads_hintClause {cs rest : List Char} (h : hintClause? cs = some rest) :
    ∃ p, cs = p ++ rest ∧ Reads hintClause? p :=
  exists_reads_phrase exists_reads_hintNames h

/-! ## Reading what was written -/

/-- A name is read back from its doubled quotes, unless one more quote follows. -/
theorem readName_doubled (name : List Char) {rest : List Char} (hrest : rest.head? ≠ some '\'') :
    readName (name.flatMap (fun c => if c = '\'' then [c, c] else [c]) ++ '\'' :: rest) =
      some (name, rest) := by
  induction name with
  | nil =>
    cases rest with
    | nil => rfl
    | cons c rest =>
      have hc : c ≠ '\'' := by simpa using hrest
      simp [readName, hc]
  | cons c name ih =>
    by_cases hc : c = '\''
    · subst hc
      simp [readName, ih]
    · simp [readName, hc, ih]

/-- A name that is read, and what follows it. -/
theorem readNames_of_readName {cs quoted name behind : List Char}
    (hopen : trimStart cs = '\'' :: quoted) (hname : readName quoted = some (name, behind)) :
    readNames cs =
      match trimStart behind with
      | '>' :: rest => some ([String.ofList name], rest)
      | ',' :: more => (readNames more).map fun (names, rest) => (String.ofList name :: names, rest)
      | _ => none := by
  -- The reader has one branch for each of the cases.
  fun_cases readNames cs <;> grind

/-- White space in front of the names is passed over. -/
theorem readNames_trimStart (cs : List Char) : readNames (trimStart cs) = readNames cs := by
  have htrim := trimStart_trimStart cs
  fun_cases readNames cs <;> grind [readNames]

theorem readNames_quoteHint (name : String) {rest : List Char} (hrest : rest.head? ≠ some '\'') :
    readNames ((quoteHint name).toList ++ rest) =
      match trimStart rest with
      | '>' :: rest => some ([name], rest)
      | ',' :: more => (readNames more).map fun (names, rest) => (name :: names, rest)
      | _ => none := by
  have hopen : trimStart ((quoteHint name).toList ++ rest) = '\'' ::
      (name.toList.flatMap (fun c => if c = '\'' then [c, c] else [c]) ++ '\'' :: rest) := by
    simp [quoteHint, trimStart, isBlank]
  rw [readNames_of_readName hopen (readName_doubled name.toList hrest), String.ofList_toList]

/-- A comma and the blank behind it lead to the next name. -/
theorem readNames_comma (name : String) (cs : List Char) :
    readNames ((quoteHint name).toList ++ (", ".toList ++ cs)) =
      (readNames cs).map fun (names, rest) => (name :: names, rest) := by
  have hblank : readNames (' ' :: cs) = readNames cs := by
    rw [← readNames_trimStart, ← readNames_trimStart cs]
    rfl
  rw [readNames_quoteHint name (by simp), ← hblank]
  rfl

/-- All names that were written are read, up to the `>`. -/
theorem readNames_intercalate {names : List String} (hne : names ≠ []) (rest : List Char) :
    readNames ((", ".intercalate (names.map quoteHint)).toList ++ '>' :: rest) =
      some (names, rest) := by
  induction names with
  | nil => exact absurd rfl hne
  | cons name names ih =>
    cases names with
    | nil =>
      rw [List.map_singleton, String.intercalate_singleton, readNames_quoteHint name (by simp)]
      rfl
    | cons next names =>
      rw [List.map_cons, List.map_cons, String.intercalate_cons_cons, ← List.map_cons,
        String.toList_append, String.toList_append, List.append_assoc, List.append_assoc,
        readNames_comma, ih (by simp)]
      rfl

/-- The hints that were written are the names that are read. -/
theorem readHints?_hintClause {names : List String} (hne : names ≠ []) (rest : List Char) :
    readHints? ((hintClause names).toList ++ rest) = some (names, rest) := by
  have hword (cs : List Char) :
      keyword "<HINT" ("<HINT ".toList ++ cs) >>= space = some (trimStart cs) := rfl
  rw [readHints?, hintClause, String.toList_append, String.toList_append, List.append_assoc,
    List.append_assoc, hword, Option.bind_eq_bind, Option.bind_some, readNames_trimStart]
  exact readNames_intercalate hne rest

/-- A clause that was written is a hint clause, whatever follows it. -/
theorem reads_hintClause {names : List String} (hne : names ≠ []) :
    Reads hintClause? (hintClause names).toList := by
  intro rest
  rw [hintClause?_eq, readHints?_hintClause hne rest]
  rfl

/-! ## The clause that is added -/

/-- The hints that are not blank, without the white space around them. -/
def trimmedHints (hints : List String) : List String :=
  (hints.filter fun hint => !isBlankText hint).map fun hint => String.ofList (trim hint.toList)

/-- The hints that are written are those that are left when they are trimmed. -/
theorem bareHints_eq (hints : List String) : bareHints hints = trimmedHints hints := by
  have hblank : ((fun hint : String => !hint.isEmpty) ∘ fun hint => String.ofList (trim hint.toList)) =
      fun hint => !isBlankText hint := by
    funext hint
    rw [Function.comp_apply, ← isEmpty_trim]
    cases trim hint.toList <;> simp
  rw [bareHints, trimmedHints, List.filter_map, hblank]

/-- Nothing is written just when all hints are blank. -/
theorem isEmpty_bareHints (hints : List String) :
    (bareHints hints).isEmpty = hints.all isBlankText := by
  rw [bareHints_eq, Bool.eq_iff_iff, List.isEmpty_iff, trimmedHints, List.map_eq_nil_iff,
    List.filter_eq_nil_iff, List.all_eq_true]
  simp

theorem trimmedHints_ne_nil {hints : List String} (h : ∃ hint ∈ hints, isBlankText hint = false) :
    trimmedHints hints ≠ [] := by
  rcases h with ⟨hint, hmem, hblank⟩
  have hkept : hint ∈ hints.filter fun hint => !isBlankText hint :=
    List.mem_filter.2 ⟨hmem, by simp [hblank]⟩
  rw [trimmedHints, ne_eq, List.map_eq_nil_iff]
  exact List.ne_nil_of_mem hkept

/-- The clause that is added is a hint clause as a whole, and the names that are read in it are the
hints that are not blank, trimmed and in their order. No beginning of it is a hint clause, and other
hints get the same clause only if they are the same when trimmed. -/
theorem withHints_decodes {s : Statement} {hints : List String} (hs : s.hasHints = false)
    (hhints : ∃ hint ∈ hints, isBlankText hint = false) :
    ∃ clause : String, (s.withHints hints).text = clause ++ " " ++ s.text ∧
      hintClause? clause.toList = some [] ∧
      (∀ rest, readHints? (clause.toList ++ rest) = some (trimmedHints hints, rest)) ∧
      (∀ t, t <+: clause.toList → (hintClause? t).isSome = true → t = clause.toList) ∧
      ∀ hints', s.withHints hints' = s.withHints hints ↔
        trimmedHints hints' = trimmedHints hints := by
  have hne : trimmedHints hints ≠ [] := trimmedHints_ne_nil hhints
  have htext (names : List String) (hnames : trimmedHints names ≠ []) :
      s.withHints names = ⟨hintClause (trimmedHints names) ++ " " ++ s.text⟩ := by
    rw [withHints, bareHints_eq, hs, Bool.or_false, if_neg (by simpa using hnames)]
  have hwhole : hintClause? (hintClause (trimmedHints hints)).toList = some [] := by
    simpa using reads_hintClause hne []
  refine ⟨hintClause (trimmedHints hints), by rw [htext hints hne], hwhole,
    readHints?_hintClause hne, ?_, ?_⟩
  · intro t ht hclause
    rcases Option.isSome_iff_exists.1 hclause with ⟨rest, hrest⟩
    rcases exists_reads_hintClause hrest with ⟨p, rfl, hp⟩
    rcases ht with ⟨u, hu⟩
    -- What closes the clause in its beginning closes it in the whole, where nothing is left.
    have hleft : rest ++ u = [] := by
      rw [← hu, List.append_assoc, hp] at hwhole
      exact Option.some.inj hwhole
    rw [← hu, (List.append_eq_nil_iff.1 hleft).2, List.append_nil]
  · intro hints'
    constructor
    · -- A clause was added, so that the other hints are not all blank.
      intro hsame
      have hne' : trimmedHints hints' ≠ [] := by
        intro hnil
        have hself : s.withHints hints' = s := by
          simp [withHints, bareHints_eq, hnil]
        have hlength := congrArg (fun s => s.text.length) (hself.symm.trans hsame)
        simp [htext hints hne] at hlength
      have hclause : hintClause (trimmedHints hints') = hintClause (trimmedHints hints) := by
        rw [htext hints hne, htext hints' hne'] at hsame
        simpa using hsame
      -- Both clauses are the same text, and the names are read from it.
      have hread := readHints?_hintClause hne' []
      rw [hclause, readHints?_hintClause hne] at hread
      simpa using hread.symm
    · intro hsame
      rw [withHints, withHints, bareHints_eq, bareHints_eq, hsame]

/-- Names that begin and end with quotes, and names that hold what stands between names and behind
them. -/
theorem withHints_decodes_quotes :
    let s : Statement := ⟨"SELECT * FROM /People x"⟩
    let hints := ["''a''", " ", "', 'b", " '> ", "'"]
    s.hasHints = false ∧ (∃ hint ∈ hints, isBlankText hint = false) ∧
      trimmedHints hints = ["''a''", "', 'b", "'>", "'"] ∧
      ∃ clause : String, (s.withHints hints).text = clause ++ " " ++ s.text ∧
        hintClause? clause.toList = some [] ∧
        (∀ rest, readHints? (clause.toList ++ rest) = some (trimmedHints hints, rest)) ∧
        (∀ t, t <+: clause.toList → (hintClause? t).isSome = true → t = clause.toList) ∧
        ∀ hints', s.withHints hints' = s.withHints hints ↔
          trimmedHints hints' = trimmedHints hints := by
  intro s hints
  have hs : s.hasHints = false := by
    decide +kernel
  have hhints : ∃ hint ∈ hints, isBlankText hint = false := by
    decide
  exact ⟨hs, hhints, by decide, withHints_decodes hs hhints⟩

end DerivedQuery.Statement
