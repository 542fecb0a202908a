import DerivedQuery.Statement.Extension

/-!
# Additions to a statement

* `Addition`: a clause that can be added to a statement.
* `SameAnswers`: two statements in which the same clauses are found.
-/

namespace DerivedQuery.Statement

/-- A clause that can be added to a statement. -/
inductive Addition where
  | importing (statement : String)
  | hints (hints : List String)
  | limit (n : Nat)
  | trace
  | order (order : SortOrder)

/-- The statement with the clause, unless it has one already. -/
def Addition.apply : Addition → Statement → Statement
  | importing statement, s => s.withImport statement
  | hints hs, s => s.withHints hs
  | limit n, s => s.withLimit n
  | trace, s => s.withTrace
  | order o, s => s.orderBy o

/-- Two statements that get the same five answers. -/
structure SameAnswers (s s' : Statement) : Prop where
  imports : s.hasImport = s'.hasImport
  hints : s.hasHints = s'.hasHints
  limit : s.hasLimit = s'.hasLimit
  trace : s.hasTrace = s'.hasTrace
  order : s.hasOrderBy = s'.hasOrderBy

theorem SameAnswers.refl (s : Statement) : SameAnswers s s :=
  ⟨rfl, rfl, rfl, rfl, rfl⟩

end DerivedQuery.Statement
