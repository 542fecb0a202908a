/-!
# Kinds of properties

The kind of a property decides which operators apply to it.
-/

namespace DerivedQuery

/-- What sort of values a property holds. -/
inductive PropertyKind where
  | string
  | integer
  | float
  | boolean
  | temporal
  /-- Lists, sets and maps. -/
  | collection
  /-- Anything else; nothing is known of it, so nothing is ruled out. -/
  | object
deriving DecidableEq, Repr

namespace PropertyKind

/-- Every kind. -/
def all : List PropertyKind :=
  [string, integer, float, boolean, temporal, collection, object]

def text : PropertyKind → String
  | string => "String"
  | integer => "Integer"
  | float => "Float"
  | boolean => "Boolean"
  | temporal => "Temporal"
  | collection => "Collection"
  | object => "Object"

/-- Values of this kind are ordered, or may be. -/
def isComparable : PropertyKind → Bool
  | boolean | collection => false
  | _ => true

/-- Nothing is known of values of this kind. -/
def isOpaque : PropertyKind → Bool
  | object => true
  | _ => false

/-- The kind with a given name. -/
def ofText? (s : String) : Option PropertyKind :=
  all.find? fun k => k.text = s

theorem mem_all (k : PropertyKind) : k ∈ all := by
  cases k <;> decide

end PropertyKind

end DerivedQuery
