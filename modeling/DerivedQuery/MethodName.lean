import DerivedQuery.Criterion
import DerivedQuery.SortOrder

/-!
# Method names

What the name of a query method says: how many results, which criteria, in what order. Properties
stand as written; which ones an entity has is not decided here.
-/

namespace DerivedQuery

/-- One criterion of a name. -/
structure Term where
  property : String
  operator : Operator
  mode : CaseMode
deriving DecidableEq, Repr

/-- One sort key of a name. -/
structure OrderTerm where
  property : String
  direction : Direction
deriving DecidableEq, Repr

/-- What a method name says. -/
structure MethodName where
  /-- Each result once. -/
  distinct : Bool
  /-- The number of results at most. -/
  limit : Option Nat
  /-- Alternatives, of which one has to hold; in an alternative all terms have to hold. -/
  groups : List (List Term)
  /-- The sort keys, the most significant first. -/
  order : List OrderTerm
deriving DecidableEq, Repr

namespace MethodName

/-- The terms of all groups, in the order of the name. -/
def terms (n : MethodName) : List Term :=
  n.groups.flatten

/-- The name states no criteria. -/
def isEmpty (n : MethodName) : Bool :=
  n.groups.isEmpty

/-- The number of arguments that the criteria take. -/
def parameterCount (n : MethodName) : Nat :=
  n.terms.foldr (fun t count => t.operator.arity + count) 0

end MethodName

end DerivedQuery
