import DerivedQuery.Entity
import DerivedQuery.Text.CamelCase

/-!
# From names to properties

Method names write properties in capitalised words, with `_` before each step into a nested object
(`Lastname`, `Address_City`).

* `Entity.declaredAs?`: the declaration that one word stands for.
* `Entity.resolve`: the path and the kind that a written property stands for.
-/

namespace DerivedQuery.Entity

/-- The declaration that a written word stands for: the one under its lower camel case, else under
its snake case, else the first name without a dot that differs in ASCII case only. -/
def declaredAs? (e : Entity) (word : String) : Option Property :=
  (e.property? (Text.lowerCamel word)).or <|
    (e.property? (Text.snake word)).or <|
      e.properties.find? fun p =>
        !p.name.toList.contains '.' && Text.sameIgnoringAsciiCase p.name word

/-- The pieces of a written property: the words between `_`, without the empty ones. -/
def steps (written : String) : List String :=
  ((Text.pieces '_' written.toList).filter fun piece => !piece.isEmpty).map String.ofList

/-- The path, with dots, that starts at the declaration `root` and goes on through `inner`. -/
def dotted (root : Property) (inner : List String) : String :=
  ".".intercalate (root.name :: inner.map Text.lowerCamel)

/-- The kind found at the end of a path; what is not declared below an object may be anything. -/
def kindAt (e : Entity) (root : Property) : List String → PropertyKind
  | [] => root.kind
  | inner => ((e.property? (dotted root inner)).map (·.kind)).getD .object

/-- The path and the kind that a written property stands for, if there is one. -/
def resolve? (e : Entity) (written : String) : Option (PropertyPath × PropertyKind) :=
  match steps written with
  | [] => none
  | first :: inner => do
    let root ← e.declaredAs? first
    let path ← (PropertyPath.read (dotted root inner)).toOption
    return (path, e.kindAt root inner)

/-- The path and the kind that a written property stands for. -/
def resolve (e : Entity) (written : String) : Except QueryError (PropertyPath × PropertyKind) :=
  match e.resolve? written with
  | some found => .ok found
  | none => .error (.noSuchProperty written e.region)

end DerivedQuery.Entity
