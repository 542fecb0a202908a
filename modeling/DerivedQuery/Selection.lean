import DerivedQuery.Condition
import DerivedQuery.Statement

/-!
# Selections

A selection is the query before its `WHERE` clause: the objects of a region, or a text given by the
caller.

* `Selection.ofEntity`, `Selection.ofText`: the two kinds.
* `Selection.named`: another name for the objects.
* `Selection.filtered`: the statement with a condition.
-/

namespace DerivedQuery

/-- What a query selects from. -/
inductive Selection.Source where
  | text (query : String)
  | region (name : RegionName) (distinct : Bool)
deriving DecidableEq

/-- A source and the name that its objects have in conditions. -/
structure Selection where
  source : Selection.Source
  object : String
deriving DecidableEq

namespace Selection

/-- The name of the selected objects, unless another is chosen. -/
def defaultObject : String := "x"

/-- `SELECT * FROM` a region, with a name for the objects. -/
def selectFrom (region : RegionName) (distinct : Bool) (object : String) : String :=
  "SELECT " ++ (if distinct then "DISTINCT " else "") ++ "* FROM " ++ region.address ++ " " ++
    object

/-- A query given as text, which must not be blank. -/
def ofText (query : String) : Except QueryError Selection :=
  if Text.isBlankText query then .error (.invalidRequest .blankQuery)
  else .ok ⟨.text query, defaultObject⟩

/-- The objects of an entity's region. -/
def ofEntity (e : Entity) (distinct : Bool) : Except QueryError Selection := do
  return ⟨.region (← RegionName.parse e.region) distinct, defaultObject⟩

/-- The selection with another name for its objects, which is a single identifier. -/
def named (s : Selection) (name : String) : Except QueryError Selection := do
  let path ← PropertyPath.parse name
  if path.isNested then throw (.invalidRequest (.compoundAlias name))
  return { s with object := name }

/-- The selection as text. -/
def base (s : Selection) : String :=
  match s.source with
  | .text query => query
  | .region name distinct => selectFrom name distinct s.object

/-- The statement that selects what meets a condition, if one is given. -/
def filtered (s : Selection) : Option Condition → Statement
  | some c => ⟨s.base ++ " WHERE " ++ c.render s.object⟩
  | none => ⟨s.base⟩

end Selection

end DerivedQuery
