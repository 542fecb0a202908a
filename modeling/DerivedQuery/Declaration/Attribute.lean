import DerivedQuery.PropertyKind
import DerivedQuery.Text.CamelCase

/-!
# Attributes of structure declarations

Structures and their fields carry attributes `region(item, …)`, where an item is a key or `key =
value`.

* `StructSettings.read`, `FieldSettings.read`: what the attributes of a structure, or of a field,
  say. Items are read in order, a later one replaces an earlier one, and the first fault counts.
* `RenameRule.apply`: the property name of a field.
-/

namespace DerivedQuery

/-- Why a structure cannot be declared as an entity. -/
inductive DeclarationFault where
  | generic
  | unnamedFields
  | notAStruct
  | bareAttribute
  | missingValue
  | nonTextValue
  | unexpectedValue
  | emptyRegion
  | unknownRule (rule : String)
  | unknownStructKey
  | unknownFieldKey
  | unknownKind (kind : String)
  | skippedIdentity
  | severalIdentities
deriving DecidableEq, Repr

def DeclarationFault.message : DeclarationFault → String
  | generic => "Region cannot be derived for generic structs"
  | unnamedFields => "Region can only be derived for structs with named fields"
  | notAStruct => "Region can only be derived for structs"
  | bareAttribute => "expected attribute arguments in parentheses: #[region(...)]"
  | missingValue => "expected `=`"
  | nonTextValue => "expected string literal"
  | unexpectedValue => "expected `,`"
  | emptyRegion => "region name must not be empty"
  | unknownRule rule =>
    s!"unknown rename_all rule \"{rule}\", " ++
      "expected camelCase, snake_case, PascalCase or lowercase"
  | unknownStructKey => "unsupported region attribute, expected `name` or `rename_all`"
  | unknownFieldKey => "unsupported region attribute, expected `id`, `skip`, `rename` or `kind`"
  | unknownKind kind => s!"unknown property kind \"{kind}\""
  | skippedIdentity => "an identity field cannot be skipped"
  | severalIdentities => "Region allows only one #[region(id)] field"

/-- What stands behind the key of an item. -/
inductive ItemValue where
  | absent
  | text (s : String)
  /-- A literal that is no text. -/
  | literal
deriving DecidableEq, Repr

/-- An item of an attribute. -/
structure AttributeItem where
  key : String
  value : ItemValue
deriving DecidableEq, Repr

/-- An attribute; without parentheses it has no items. -/
structure Attribute where
  name : String
  items : Option (List AttributeItem)
deriving DecidableEq, Repr

namespace Attribute

/-- The value of an item that needs a text. -/
def textOf : ItemValue → Except DeclarationFault String
  | .absent => .error .missingValue
  | .literal => .error .nonTextValue
  | .text s => .ok s

/-- Nothing may stand behind the key of an item that is a mere mark. -/
def mark (value : ItemValue) (a : α) : Except DeclarationFault α :=
  match value with
  | .absent => .ok a
  | _ => .error .unexpectedValue

/-- Applies the items of all `region` attributes in order; other attributes are passed over. -/
def fold (apply : α → AttributeItem → Except DeclarationFault α) (start : α)
    (attributes : List Attribute) : Except DeclarationFault α :=
  (attributes.filter fun a => a.name = "region").foldlM (fun s a =>
    match a.items with
    | none => .error .bareAttribute
    | some items => items.foldlM apply s) start

end Attribute

/-! ## Names -/

/-- How fields without a name of their own are named. -/
inductive RenameRule where
  | asWritten
  | camelCase
  | snakeCase
  | pascalCase
  | lowercase
deriving DecidableEq, Repr

namespace RenameRule

/-- The rule with a given name. -/
def read : String → Except DeclarationFault RenameRule
  | "camelCase" => .ok camelCase
  | "snake_case" => .ok snakeCase
  | "PascalCase" => .ok pascalCase
  | "lowercase" => .ok lowercase
  | rule => .error (.unknownRule rule)

/-- A field's name without the mark of an identifier that would else be a keyword. -/
def unmarked (field : String) : String :=
  match field.toList with
  | 'r' :: '#' :: cs => String.ofList cs
  | _ => field

/-- The property name of a field. -/
def apply (rule : RenameRule) (field : String) : String :=
  match rule with
  | asWritten => unmarked field
  | camelCase => Text.lowerCamel (unmarked field)
  | snakeCase => Text.snake (unmarked field)
  | pascalCase => Text.upperCamel (unmarked field)
  | lowercase => Text.lowerText (unmarked field)

end RenameRule

/-! ## Structures -/

/-- What the attributes of a structure say. -/
structure StructSettings where
  region : Option String
  rule : RenameRule
deriving DecidableEq, Repr

namespace StructSettings

/-- A region's name consists of slashes only. -/
def isSlashes (s : String) : Bool :=
  s.toList.all (· = '/')

def apply (s : StructSettings) (item : AttributeItem) : Except DeclarationFault StructSettings :=
  if item.key = "name" then do
    let name ← Attribute.textOf item.value
    if isSlashes name then throw .emptyRegion
    return { s with region := some name }
  else if item.key = "rename_all" then do
    return { s with rule := ← RenameRule.read (← Attribute.textOf item.value) }
  else throw .unknownStructKey

def read (attributes : List Attribute) : Except DeclarationFault StructSettings :=
  Attribute.fold apply ⟨none, .asWritten⟩ attributes

end StructSettings

/-! ## Fields -/

/-- What the attributes of a field say. -/
structure FieldSettings where
  isIdentity : Bool
  isSkipped : Bool
  name : Option String
  kind : Option PropertyKind
deriving DecidableEq, Repr

namespace FieldSettings

/-- The kind with a given name, whatever the case of its ASCII letters. -/
def readKind (s : String) : Except DeclarationFault PropertyKind :=
  let lower (t : String) : String := String.ofList (t.toList.map Char.toLower)
  match PropertyKind.all.find? fun k => lower k.text = lower s with
  | some k => .ok k
  | none => .error (.unknownKind (lower s))

def apply (s : FieldSettings) (item : AttributeItem) : Except DeclarationFault FieldSettings :=
  if item.key = "id" then Attribute.mark item.value { s with isIdentity := true }
  else if item.key = "skip" then Attribute.mark item.value { s with isSkipped := true }
  else if item.key = "rename" then do
    return { s with name := some (← Attribute.textOf item.value) }
  else if item.key = "kind" then do
    return { s with kind := some (← readKind (← Attribute.textOf item.value)) }
  else throw .unknownFieldKey

def read (attributes : List Attribute) : Except DeclarationFault FieldSettings := do
  let s ← Attribute.fold apply ⟨false, false, none, none⟩ attributes
  if s.isSkipped && s.isIdentity then throw .skippedIdentity
  return s

end FieldSettings

end DerivedQuery
