import DerivedQuery.Statement
import DerivedQuery.Text.Numeric
import DerivedQuery.Text.Scan

/-!
# Finding clauses in a statement

Keywords are read in any case and count only as whole words.

* `hasImport`, `hasHints`, `hasLimit`, `hasTrace`, `hasOrderBy`: whether a statement has a clause.
* `splitTrailingLimit`: a statement before and from a `LIMIT` at its end.
* `afterSelect?`: what follows the first `SELECT`, which only `IMPORT`, `<HINT>` and `<TRACE>`
  clauses may precede.
-/

namespace DerivedQuery.Statement

open Text

/-! ## Clauses at a position -/

/-- `IMPORT`, a statement that is not empty, and a semicolon. -/
def importAt (before : Option Char) (cs : List Char) : Bool :=
  startsWord before &&
    match keyword "IMPORT" cs >>= space with
    | some (_ :: statement) => statement.contains ';'
    | _ => false

/-- Where a reader stands among the quoted names of a hint clause. -/
inductive HintState where
  /-- A name has to begin. -/
  | beforeName
  /-- Inside the quotes of a name. -/
  | inName
  /-- After a quote, which ends the name unless another quote follows. -/
  | atQuote
  /-- Behind a name. -/
  | afterName
deriving DecidableEq, Repr

/-- Quoted names with commas between them, up to and including the closing `>`. A quote inside a
name is written twice. -/
def hintNames : HintState → Scanner
  | _, [] => none
  | .beforeName, c :: cs =>
    if c = '\'' then hintNames .inName cs
    else if isBlank c then hintNames .beforeName cs
    else none
  | .inName, c :: cs => hintNames (if c = '\'' then .atQuote else .inName) cs
  | .atQuote, c :: cs =>
    if c = '\'' then hintNames .inName cs
    else if c = '>' then some cs
    else if c = ',' then hintNames .beforeName cs
    else if isBlank c then hintNames .afterName cs
    else none
  | .afterName, c :: cs =>
    if c = '>' then some cs
    else if c = ',' then hintNames .beforeName cs
    else if isBlank c then hintNames .afterName cs
    else none

/-- A hint clause: `<HINT 'first', 'second'>`. -/
def hintClause? : Scanner := fun cs =>
  keyword "<HINT" cs >>= space >>= hintNames .beforeName

/-- The clause that asks for a trace of the execution. -/
def traceClause? : Scanner :=
  keyword "<TRACE>"

/-- `LIMIT` with white space and the digits of a number or of a placeholder behind it. -/
def limitDigits? (cs : List Char) : Option (List Char) := do
  let bound ← keyword "LIMIT" cs >>= space
  return optionally '$' bound

/-- `LIMIT` and a number or a placeholder. -/
def limitAt (before : Option Char) (cs : List Char) : Bool :=
  startsWord before && (limitDigits? cs).any fun digits => digits.head?.any isDecimalDigit

/-- `ORDER BY`. -/
def orderByAt (before : Option Char) (cs : List Char) : Bool :=
  startsWord before && (keyword "ORDER" cs >>= space >>= keyword "BY").any endsWord

/-! ## Clauses anywhere -/

/-- There is an `IMPORT` clause. -/
def hasImport (s : Statement) : Bool :=
  somewhere importAt none s.text.toList

/-- There is a hint clause. -/
def hasHints (s : Statement) : Bool :=
  somewhere (fun _ cs => (hintClause? cs).isSome) none s.text.toList

/-- There is a `LIMIT`. -/
def hasLimit (s : Statement) : Bool :=
  somewhere limitAt none s.text.toList

/-- There is a `<TRACE>`. -/
def hasTrace (s : Statement) : Bool :=
  somewhere (fun _ cs => (traceClause? cs).isSome) none s.text.toList

/-- There is an `ORDER BY`. -/
def hasOrderBy (s : Statement) : Bool :=
  somewhere orderByAt none s.text.toList

/-! ## A limit at the end -/

/-- White space, a `LIMIT`, and nothing but white space behind it. -/
def isTrailingLimit (cs : List Char) : Bool :=
  match space cs >>= limitDigits? with
  | some (c :: digits) => isDecimalDigit c && (digits.dropWhile isDecimalDigit).all isBlank
  | _ => false

/-- The text before a `LIMIT` at its end, and from the white space in front of it. -/
def splitTrailingLimit : List Char → List Char × List Char
  | [] => ([], [])
  | c :: cs =>
    if isTrailingLimit (c :: cs) then ([], c :: cs)
    else
      let (body, limit) := splitTrailingLimit cs
      (c :: body, limit)

theorem splitTrailingLimit_append (cs : List Char) :
    (splitTrailingLimit cs).1 ++ (splitTrailingLimit cs).2 = cs := by
  induction cs with
  | nil => rfl
  | cons c cs ih =>
    unfold splitTrailingLimit
    split
    · rfl
    · simp [ih]

/-! ## The first `SELECT` -/

/-- An import in front of the `SELECT`; its statement may be empty. -/
def importClause? : Scanner := fun cs =>
  keyword "IMPORT" cs >>= space >>= untilAfter ';'

/-- A clause that may precede the `SELECT`. -/
def leadingClause? : Scanner := fun cs =>
  (importClause? cs).or <| (hintClause? cs).or <| traceClause? cs

theorem shorterEnd_of_hintNames {state : HintState} {cs rest : List Char}
    (h : hintNames state cs = some rest) : ShorterEnd rest cs := by
  induction cs generalizing state with
  | nil => cases state <;> simp [hintNames] at h
  | cons c cs ih =>
    -- Either the clause closes here, or the reader goes on in some state.
    have close : some cs = some rest → ShorterEnd rest (c :: cs) := by
      rintro ⟨⟩
      exact .cons c List.suffix_rfl
    have further (s : HintState) : hintNames s cs = some rest → ShorterEnd rest (c :: cs) :=
      fun h => .cons c (ih h).suffix
    cases state <;> simp only [hintNames] at h
    · split at h
      · exact further _ h
      · split at h
        · exact further _ h
        · cases h
    · exact further _ h
    · split at h
      · exact further _ h
      · split at h
        · exact close h
        · split at h
          · exact further _ h
          · split at h
            · exact further _ h
            · cases h
    · split at h
      · exact close h
      · split at h
        · exact further _ h
        · split at h
          · exact further _ h
          · cases h

/-- A keyword, white space and something behind it take something off. -/
theorem shorterEnd_of_phrase {word : String} {read : Scanner} {cs rest : List Char}
    (hread : ∀ {a b : List Char}, read a = some b → ShorterEnd b a)
    (h : keyword word cs >>= space >>= read = some rest) : ShorterEnd rest cs := by
  simp only [Option.bind_eq_bind, Option.bind_eq_some_iff] at h
  obtain ⟨b, ⟨a, ha, hb⟩, hc⟩ := h
  have hab := shorterEnd_of_space hb
  have hbc := hread hc
  have hca := keywordChars_suffix ha
  exact ⟨hbc.suffix.trans (hab.suffix.trans hca),
    Nat.lt_of_lt_of_le (Nat.lt_trans hbc.shorter hab.shorter) hca.length_le⟩

/-- A leading clause takes something off. -/
theorem shorterEnd_of_leadingClause {cs rest : List Char} (h : leadingClause? cs = some rest) :
    ShorterEnd rest cs := by
  simp only [leadingClause?, Option.or_eq_some_iff] at h
  rcases h with himport | ⟨_, hhint | ⟨_, htrace⟩⟩
  · exact shorterEnd_of_phrase shorterEnd_of_untilAfter himport
  · exact shorterEnd_of_phrase shorterEnd_of_hintNames hhint
  · have hlength := length_keywordChars htrace
    have : "<TRACE>".toList.length = 7 := by decide
    exact ⟨keywordChars_suffix htrace, by omega⟩

/-- What follows the first `SELECT`, if only leading clauses and white space precede it. -/
def afterSelect? (cs : List Char) : Option (List Char) :=
  match _h : leadingClause? (trimStart cs) with
  | some rest => afterSelect? rest
  | none => (keyword "SELECT" (trimStart cs)).filter endsWord
termination_by cs.length
decreasing_by
  exact Nat.lt_of_lt_of_le (shorterEnd_of_leadingClause _h).shorter (trimStart_suffix cs).length_le

/-- Whether a `DISTINCT` follows a `SELECT`. -/
def startsDistinct (afterSelect : List Char) : Bool :=
  (space afterSelect >>= keyword "DISTINCT").any endsWord

end DerivedQuery.Statement
