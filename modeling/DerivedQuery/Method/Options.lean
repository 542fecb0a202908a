import DerivedQuery.Json
import DerivedQuery.Text.Blank

/-!
# Options of a query method

What the declaration of a query method adds to its name. An option that is blank counts as absent.
-/

namespace DerivedQuery

/-- The options of a query method; without any, everything comes from its name. -/
structure Options where
  /-- A query to use instead of the one derived from the name. -/
  query : Option String
  /-- Names of indexes for the engine to use. -/
  hints : List String
  /-- A statement to import. -/
  importing : Option String
  /-- The number of results at most. -/
  limit : Option Nat
  /-- Each result once. -/
  distinct : Bool
  /-- Trace the execution. -/
  trace : Bool
deriving DecidableEq, Repr

namespace Options

/-- No options. -/
def none : Options :=
  ⟨.none, [], .none, .none, false, false⟩

/-- There is a query that is not blank. -/
def hasQuery (o : Options) : Bool :=
  o.query.any fun q => !Text.isBlankText q

/-- There is a hint that is not blank. -/
def hasHints (o : Options) : Bool :=
  o.hints.any fun h => !Text.isBlankText h

/-- There is an import that is not blank. -/
def hasImport (o : Options) : Bool :=
  o.importing.any fun i => !Text.isBlankText i

end Options

end DerivedQuery
