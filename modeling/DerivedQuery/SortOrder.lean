import DerivedQuery.PropertyPath

/-!
# Sort orders

A sort order is a list of keys, the most significant first.

* `SortOrder.key`, `SortOrder.and`: one more key, and the keys of two orders.
* `SortOrder.clause`: the `ORDER BY` clause, where an ascending key is a bare path.
-/

namespace DerivedQuery

inductive Direction where
  | ascending
  | descending
deriving DecidableEq, Repr

/-- A property to sort by. -/
structure SortKey where
  path : PropertyPath
  direction : Direction
deriving DecidableEq

/-- The keys to sort by, the most significant first. -/
structure SortOrder where
  keys : List SortKey
deriving DecidableEq

/-- The key as it stands in a clause. -/
def SortKey.text (k : SortKey) : String :=
  match k.direction with
  | .ascending => k.path.text
  | .descending => k.path.text ++ " DESC"

namespace SortOrder

/-- No keys. -/
def unsorted : SortOrder :=
  ⟨[]⟩

def isEmpty (s : SortOrder) : Bool :=
  s.keys.isEmpty

/-- The order with one more key, given as text. -/
def key (s : SortOrder) (path : String) (direction : Direction) : Except QueryError SortOrder := do
  return ⟨s.keys ++ [⟨← PropertyPath.parse path, direction⟩]⟩

/-- The keys of `s`, then those of `t`. -/
def and (s t : SortOrder) : SortOrder :=
  ⟨s.keys ++ t.keys⟩

/-- The keys with commas between them. -/
def list (s : SortOrder) : String :=
  ", ".intercalate (s.keys.map (·.text))

/-- The `ORDER BY` clause; without keys there is none. -/
def clause (s : SortOrder) : String :=
  if s.isEmpty then "" else "ORDER BY " ++ s.list

end SortOrder

end DerivedQuery
