import DerivedQuery.QueryError
import DerivedQuery.Text.Blank

/-!
# Query statements

A statement is the text of a query. Clauses are found in it and added to it as text
(`Statement.Clause`, `Statement.Extension`).
-/

namespace DerivedQuery

/-- The text of a query. -/
structure Statement where
  text : String
deriving DecidableEq, Repr

/-- A statement given as text, which must not be blank. -/
def Statement.ofText (text : String) : Except QueryError Statement :=
  if Text.isBlankText text then .error (.invalidRequest .blankQuery) else .ok ⟨text⟩

end DerivedQuery
