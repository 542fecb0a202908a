import DerivedQuery.SortOrder
import DerivedQuery.Statement.Clause

/-!
# Adding clauses to a statement

A clause that a statement has already is not added again.

* `withImport`, `withHints`, `withTrace` put a clause in front; `withLimit` puts one at the end.
* `withDistinct` makes the first `SELECT` distinct.
* `orderBy` adds an `ORDER BY`, before a limit at the end.
-/

namespace DerivedQuery.Statement

open Text

/-- An import statement without the white space around it and the semicolons behind it. -/
def bareImport (statement : String) : String :=
  let cs := trim statement.toList
  String.ofList (trimEnd (cs.reverse.dropWhile (· = ';')).reverse)

/-- `IMPORT …;` in front. An empty import adds nothing. -/
def withImport (s : Statement) (statement : String) : Statement :=
  if (bareImport statement).isEmpty || s.hasImport then s
  else ⟨"IMPORT " ++ bareImport statement ++ "; " ++ s.text⟩

/-- A hint as it is written: in quotes, a quote inside it twice. -/
def quoteHint (hint : String) : String :=
  "'" ++ String.ofList (hint.toList.flatMap fun c => if c = '\'' then [c, c] else [c]) ++ "'"

/-- The hints without the white space around them, and without blank ones. -/
def bareHints (hints : List String) : List String :=
  (hints.map fun h => String.ofList (trim h.toList)).filter fun h => !h.isEmpty

/-- A clause of the given hints. -/
def hintClause (hints : List String) : String :=
  "<HINT " ++ ", ".intercalate (hints.map quoteHint) ++ ">"

/-- `<HINT …>` in front. Blank hints add nothing. -/
def withHints (s : Statement) (hints : List String) : Statement :=
  if (bareHints hints).isEmpty || s.hasHints then s
  else ⟨hintClause (bareHints hints) ++ " " ++ s.text⟩

/-- `LIMIT n` at the end. -/
def withLimit (s : Statement) (n : Nat) : Statement :=
  if s.hasLimit then s else ⟨s.text ++ " LIMIT " ++ toString n⟩

/-- `<TRACE>` in front. -/
def withTrace (s : Statement) : Statement :=
  if s.hasTrace then s else ⟨"<TRACE> " ++ s.text⟩

/-- `DISTINCT` behind the first `SELECT`. -/
def withDistinct (s : Statement) : Statement :=
  let cs := s.text.toList
  match afterSelect? cs with
  | none => s
  | some rest =>
    if startsDistinct rest then s
    else ⟨String.ofList (cs.take (cs.length - rest.length)) ++ " DISTINCT" ++ String.ofList rest⟩

/-- `ORDER BY …` at the end, or before a limit at the end. Without keys nothing is added. -/
def orderBy (s : Statement) (order : SortOrder) : Statement :=
  if order.isEmpty || s.hasOrderBy then s
  else
    let (body, limit) := splitTrailingLimit s.text.toList
    ⟨String.ofList body ++ " " ++ order.clause ++ String.ofList limit⟩

end DerivedQuery.Statement
