import DerivedQuery.Declaration.Attribute
import DerivedQuery.Declaration.FieldType
import DerivedQuery.Entity

/-!
# Entities from structure declarations

* `StructDeclaration.plan`: the region and the properties that a structure declares.
* `EntityPlan.entity`: the entity with these properties.
-/

namespace DerivedQuery

/-- A field of a structure. -/
structure FieldDeclaration where
  name : String
  type : FieldType
  attributes : List Attribute

/-- What is declared. -/
inductive Shape where
  /-- A structure with named fields. -/
  | named
  /-- A structure without names for its fields, or without fields. -/
  | unnamed
  /-- An enumeration or a union. -/
  | notAStruct
deriving DecidableEq, Repr

/-- A declaration that may describe an entity. -/
structure StructDeclaration where
  name : String
  shape : Shape
  isGeneric : Bool
  attributes : List Attribute
  fields : List FieldDeclaration

/-- A region and the properties to declare, in order. -/
structure EntityPlan where
  region : String
  properties : List Property
deriving DecidableEq, Repr

/-- The entity with the properties of a plan. -/
def EntityPlan.entity (p : EntityPlan) : Entity :=
  p.properties.foldl
    (fun e q => if q.isIdentity then e.identify q.name q.kind else e.declare q.name q.kind)
    (Entity.ofRegion p.region)

namespace StructDeclaration

/-- The property of a field, unless the field is skipped. -/
def property? (rule : RenameRule) (f : FieldDeclaration) :
    Except DeclarationFault (Option Property) := do
  let s ← FieldSettings.read f.attributes
  if s.isSkipped then return none
  return some ⟨s.name.getD (rule.apply f.name), s.kind.getD f.type.kind, s.isIdentity⟩

/-- The properties of fields, of which one at most is the identity. `identified` says that there
was one already. -/
def properties (rule : RenameRule) (identified : Bool) :
    List FieldDeclaration → Except DeclarationFault (List Property)
  | [] => .ok []
  | f :: fs => do
    match ← property? rule f with
    | none => properties rule identified fs
    | some p =>
      if identified && p.isIdentity then throw .severalIdentities
      return p :: (← properties rule (identified || p.isIdentity) fs)

/-- What a structure declares. -/
def plan (d : StructDeclaration) : Except DeclarationFault EntityPlan := do
  if d.isGeneric then throw .generic
  match d.shape with
  | .notAStruct => throw .notAStruct
  | .unnamed => throw .unnamedFields
  | .named =>
    let s ← StructSettings.read d.attributes
    return ⟨s.region.getD d.name, ← properties s.rule false d.fields⟩

end StructDeclaration

end DerivedQuery
