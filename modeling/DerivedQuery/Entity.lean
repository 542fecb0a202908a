import DerivedQuery.PropertyKind
import DerivedQuery.PropertyPath
import DerivedQuery.RegionName

/-!
# Entities

An entity is a region together with the properties of the objects in it.

* `Entity.declare`, `Entity.identify`: add a property, or the one that identifies an object.
* `Entity.property?`, `Entity.identity?`: what is declared under a name, and the identity.
-/

namespace DerivedQuery

/-- A declared property. -/
structure Property where
  name : String
  kind : PropertyKind
  isIdentity : Bool
deriving DecidableEq, Repr

/-- A region and its declared properties, in order of first declaration. -/
structure Entity where
  region : String
  properties : List Property
deriving DecidableEq, Repr

namespace Entity

/-- An entity without properties. One leading slash of the region is dropped. -/
def ofRegion (region : String) : Entity :=
  ⟨dropSlash region, []⟩

/-- The property declared under exactly this name. -/
def property? (e : Entity) (name : String) : Option Property :=
  e.properties.find? fun p => p.name = name

/-- The property that identifies an object. -/
def identity? (e : Entity) : Option Property :=
  e.properties.find? fun p => p.isIdentity

/-- The list with `name` declared: the declaration under that name changed by `change`, or `fresh`
added at the end. -/
def redeclare (name : String) (change : Property → Property) (fresh : Property) :
    List Property → List Property
  | [] => [fresh]
  | p :: ps =>
    if p.name = name then change p :: ps else p :: redeclare name change fresh ps

/-- Declares a property. A name that is declared already gets the new kind and stays in place. -/
def declare (e : Entity) (name : String) (kind : PropertyKind) : Entity :=
  { e with
    properties := redeclare name (fun p => { p with kind }) ⟨name, kind, false⟩ e.properties }

/-- Declares the identity; the property that was it before no longer is. -/
def identify (e : Entity) (name : String) (kind : PropertyKind) : Entity :=
  { e with
    properties := redeclare name (fun p => { p with kind, isIdentity := true }) ⟨name, kind, true⟩
      (e.properties.map fun p => { p with isIdentity := false }) }

end Entity

end DerivedQuery
