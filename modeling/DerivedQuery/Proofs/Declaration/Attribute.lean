import DerivedQuery.Declaration.Attribute
import DerivedQuery.Proofs.Except

/-!
# What attributes say

Attributes are read item by item, and each item changes what has been read so far. Here it is said
of all items at once: which of them are valid, and what the last item of a key says.

* `AttributeItem.DescribesStruct`, `AttributeItem.DescribesField`: the items that a structure and a
  field may have.
* `StructSettings.ofItems`, `FieldSettings.ofItems`: what some items say together.
* `StructSettings.read_eq_ok_iff`, `FieldSettings.read_eq_ok_iff`: attributes can be read when all
  their items are valid, and then just this is read.
-/

namespace DerivedQuery

/-! ## Valid items -/

/-- The rules that fields can be renamed by. -/
def ruleNames : List (String × RenameRule) :=
  [("camelCase", .camelCase), ("snake_case", .snakeCase), ("PascalCase", .pascalCase),
    ("lowercase", .lowercase)]

namespace AttributeItem

/-- What may be said of a structure: a region whose name does not consist of slashes only, and a
rule. -/
inductive DescribesStruct : AttributeItem → Prop
  | region {name : String} (named : ∃ c ∈ name.toList, c ≠ '/') :
    DescribesStruct ⟨"name", .text name⟩
  | rule {name : String} {rule : RenameRule} (known : (name, rule) ∈ ruleNames) :
    DescribesStruct ⟨"rename_all", .text name⟩

/-- What may be said of a field: two marks, any name, and the name of a kind in small letters or
capitals. -/
inductive DescribesField : AttributeItem → Prop
  | identity : DescribesField ⟨"id", .absent⟩
  | skipped : DescribesField ⟨"skip", .absent⟩
  | name (name : String) : DescribesField ⟨"rename", .text name⟩
  | kind {name : String} {kind : PropertyKind}
      (known : Text.sameIgnoringAsciiCase kind.text name = true) :
    DescribesField ⟨"kind", .text name⟩

end AttributeItem

/-- The items of all `region` attributes, in order. -/
def regionItems (attributes : List Attribute) : List AttributeItem :=
  (attributes.filter fun a => a.name = "region").flatMap fun a => a.items.getD []

/-- Every `region` attribute has its items in parentheses, and all of them are valid. -/
def AttributesAre (valid : AttributeItem → Prop) (attributes : List Attribute) : Prop :=
  ∀ a ∈ attributes, a.name = "region" → ∃ items, a.items = some items ∧ ∀ i ∈ items, valid i

/-! ## What items say together -/

/-- The text that an item has. -/
def AttributeItem.text? (i : AttributeItem) : Option String :=
  match i.value with
  | .text s => some s
  | _ => none

/-- The text of the last item of a key. -/
def lastText? (key : String) (items : List AttributeItem) : Option String :=
  (items.findRev? fun i => i.key = key).bind (·.text?)

/-- The rule of a name. -/
def RenameRule.ofName? (name : String) : Option RenameRule :=
  (ruleNames.find? fun row => row.1 = name).map (·.2)

/-- The kind of a name, whatever the case of its ASCII letters. -/
def PropertyKind.ofName? (name : String) : Option PropertyKind :=
  all.find? fun k => Text.sameIgnoringAsciiCase k.text name

/-- What items say of a structure. -/
def StructSettings.ofItems (items : List AttributeItem) : StructSettings where
  region := lastText? "name" items
  rule := ((lastText? "rename_all" items).bind RenameRule.ofName?).getD .asWritten

/-- What items say of a field. -/
def FieldSettings.ofItems (items : List AttributeItem) : FieldSettings where
  isIdentity := items.any fun i => i.key = "id"
  isSkipped := items.any fun i => i.key = "skip"
  name := lastText? "rename" items
  kind := (lastText? "kind" items).bind PropertyKind.ofName?

theorem lastText?_append (key : String) (items : List AttributeItem) (i : AttributeItem) :
    lastText? key (items ++ [i]) = if i.key = key then i.text? else lastText? key items := by
  by_cases hkey : i.key = key <;> simp [lastText?, hkey]

/-! ## One item -/

namespace Attribute

theorem textOf_eq_ok_iff {value : ItemValue} {s : String} :
    textOf value = .ok s ↔ value = .text s := by
  cases value <;> simp [textOf]

theorem mark_eq_ok_iff {α : Type} {value : ItemValue} {a b : α} :
    mark value a = .ok b ↔ value = .absent ∧ b = a := by
  cases value <;> simp [mark, eq_comm]

end Attribute

theorem RenameRule.read_eq_ok_iff {name : String} {rule : RenameRule} :
    RenameRule.read name = .ok rule ↔ (name, rule) ∈ ruleNames := by
  unfold RenameRule.read
  split <;> simp_all [ruleNames, eq_comm]

theorem RenameRule.ofName?_of_mem {name : String} {rule : RenameRule}
    (h : (name, rule) ∈ ruleNames) : RenameRule.ofName? name = some rule := by
  revert h
  simp only [ruleNames, List.mem_cons, Prod.mk.injEq, List.not_mem_nil, or_false]
  rintro (⟨rfl, rfl⟩ | ⟨rfl, rfl⟩ | ⟨rfl, rfl⟩ | ⟨rfl, rfl⟩) <;> decide

theorem FieldSettings.readKind_eq_ok_iff {name : String} {kind : PropertyKind} :
    FieldSettings.readKind name = .ok kind ↔ PropertyKind.ofName? name = some kind := by
  have hsame (k : PropertyKind) :
      decide (String.ofList (k.text.toList.map Char.toLower) =
        String.ofList (name.toList.map Char.toLower)) = Text.sameIgnoringAsciiCase k.text name := by
    simp [Text.sameIgnoringAsciiCase, ← String.toList_inj]
  simp only [FieldSettings.readKind, PropertyKind.ofName?, hsame]
  cases PropertyKind.all.find? fun k => Text.sameIgnoringAsciiCase k.text name <;> simp

theorem PropertyKind.exists_ofName?_iff {name : String} :
    (∃ kind, ofName? name = some kind) ↔
      ∃ kind : PropertyKind, Text.sameIgnoringAsciiCase kind.text name = true := by
  rw [← Option.isSome_iff_exists, ofName?, List.find?_isSome]
  constructor
  · rintro ⟨kind, -, hkind⟩
    exact ⟨kind, hkind⟩
  · rintro ⟨kind, hkind⟩
    exact ⟨kind, mem_all kind, hkind⟩

theorem StructSettings.isSlashes_eq_false_iff {name : String} :
    isSlashes name = false ↔ ∃ c ∈ name.toList, c ≠ '/' := by
  simp [isSlashes]

/-- One more item of a structure is taken in when it is valid. -/
theorem StructSettings.apply_ofItems_iff {items : List AttributeItem} {i : AttributeItem}
    {s : StructSettings} :
    (ofItems items).apply i = .ok s ↔ i.DescribesStruct ∧ s = ofItems (items ++ [i]) := by
  -- A valid item is taken in, and nothing but a valid item is.
  have htaken (h : i.DescribesStruct) :
      (ofItems items).apply i = .ok (ofItems (items ++ [i])) := by
    cases h with
    | region named =>
      have hslashes := isSlashes_eq_false_iff.2 named
      simp [apply, ofItems, lastText?_append, AttributeItem.text?, Attribute.textOf, hslashes,
        ok_bind, pure, Except.pure]
    | rule known =>
      have hread := RenameRule.read_eq_ok_iff.2 known
      have hnamed := RenameRule.ofName?_of_mem known
      simp [apply, ofItems, lastText?_append, AttributeItem.text?, Attribute.textOf, hread,
        hnamed, ok_bind, pure, Except.pure]
  have hvalid (h : (ofItems items).apply i = .ok s) : i.DescribesStruct := by
    obtain ⟨key, value⟩ := i
    simp only [apply] at h
    split at h
    · next hkey =>
      subst hkey
      simp only [bind_eq_ok_iff, Attribute.textOf_eq_ok_iff] at h
      obtain ⟨name, rfl, h⟩ := h
      cases hslashes : isSlashes name with
      | true => simp [hslashes, map_eq_ok_iff] at h
      | false => exact .region (isSlashes_eq_false_iff.1 hslashes)
    · split at h
      · next hkey =>
        subst hkey
        simp only [bind_eq_ok_iff, Attribute.textOf_eq_ok_iff, RenameRule.read_eq_ok_iff] at h
        obtain ⟨name, rfl, rule, hrule, -⟩ := h
        exact .rule hrule
      · exact absurd h throw_ne_ok
  exact eq_ok_iff_of_imp htaken hvalid

/-- One more item of a field is taken in when it is valid. -/
theorem FieldSettings.apply_ofItems_iff {items : List AttributeItem} {i : AttributeItem}
    {s : FieldSettings} :
    (ofItems items).apply i = .ok s ↔ i.DescribesField ∧ s = ofItems (items ++ [i]) := by
  -- As for a structure: valid items are taken in, and no others.
  have htaken (h : i.DescribesField) :
      (ofItems items).apply i = .ok (ofItems (items ++ [i])) := by
    cases h with
    | identity | skipped =>
      simp [apply, ofItems, lastText?_append, Attribute.mark]
    | name name =>
      simp [apply, ofItems, lastText?_append, AttributeItem.text?, Attribute.textOf, ok_bind, pure,
        Except.pure]
    | kind known =>
      obtain ⟨kind, hkind⟩ := PropertyKind.exists_ofName?_iff.2 ⟨_, known⟩
      have hread := readKind_eq_ok_iff.2 hkind
      simp [apply, ofItems, lastText?_append, AttributeItem.text?, Attribute.textOf, hread, hkind,
        ok_bind, pure, Except.pure]
  -- Each key has its own kind of value, and an item with any other key is refused.
  have hvalid (h : (ofItems items).apply i = .ok s) : i.DescribesField := by
    obtain ⟨key, value⟩ := i
    simp only [apply] at h
    split at h
    · next hkey =>
      subst hkey
      obtain ⟨rfl, -⟩ := Attribute.mark_eq_ok_iff.1 h
      exact .identity
    · split at h
      · next hkey =>
        subst hkey
        obtain ⟨rfl, -⟩ := Attribute.mark_eq_ok_iff.1 h
        exact .skipped
      · split at h
        · next hkey =>
          subst hkey
          simp only [bind_eq_ok_iff, Attribute.textOf_eq_ok_iff] at h
          obtain ⟨name, rfl, -⟩ := h
          exact .name name
        · split at h
          · next hkey =>
            subst hkey
            simp only [bind_eq_ok_iff, Attribute.textOf_eq_ok_iff, readKind_eq_ok_iff] at h
            obtain ⟨name, rfl, kind, hkind, -⟩ := h
            obtain ⟨kind, hkind⟩ := PropertyKind.exists_ofName?_iff.1 ⟨kind, hkind⟩
            exact .kind hkind
          · exact absurd h throw_ne_ok
  exact eq_ok_iff_of_imp htaken hvalid

/-! ## All items -/

/-- The items of all attributes are read as one list. -/
theorem Attribute.fold_eq_ok_iff {σ : Type}
    {apply : σ → AttributeItem → Except DeclarationFault σ} {valid : AttributeItem → Prop}
    (state : List AttributeItem → σ)
    (hstep : ∀ items i s, apply (state items) i = .ok s ↔ valid i ∧ s = state (items ++ [i]))
    {attributes : List Attribute} {s : σ} :
    Attribute.fold apply (state []) attributes = .ok s ↔
      AttributesAre valid attributes ∧ s = state (regionItems attributes) := by
  unfold Attribute.fold
  refine (foldlM_eq_ok_iff_of_step (fun a => ∃ items, a.items = some items ∧ ∀ i ∈ items, valid i)
    (fun as => state (as.flatMap fun a : Attribute => a.items.getD [])) ?_ []).trans ?_
  · intro done a s
    cases hitems : a.items with
    | none => simp [hitems]
    | some items =>
      simp only [hitems, Option.some.injEq, exists_eq_left',
        foldlM_eq_ok_iff_of_step valid state hstep, List.flatMap_append, List.flatMap_singleton,
        Option.getD_some]
  · simp [AttributesAre, regionItems]

theorem StructSettings.read_eq_ok_iff {attributes : List Attribute} {s : StructSettings} :
    StructSettings.read attributes = .ok s ↔
      AttributesAre AttributeItem.DescribesStruct attributes ∧ s = ofItems (regionItems attributes) :=
  Attribute.fold_eq_ok_iff ofItems fun _ _ _ => apply_ofItems_iff

/-- Attributes of a field can be read when they are valid and do not both skip the field and make it
the identity. -/
theorem FieldSettings.read_eq_ok_iff {attributes : List Attribute} {s : FieldSettings} :
    FieldSettings.read attributes = .ok s ↔
      AttributesAre AttributeItem.DescribesField attributes ∧ s = ofItems (regionItems attributes) ∧
        ¬(s.isSkipped = true ∧ s.isIdentity = true) := by
  have hfold (s : FieldSettings) : Attribute.fold apply ⟨false, false, none, none⟩ attributes = .ok s ↔
      AttributesAre AttributeItem.DescribesField attributes ∧
        s = ofItems (regionItems attributes) :=
    Attribute.fold_eq_ok_iff ofItems fun _ _ _ => apply_ofItems_iff
  rw [FieldSettings.read, bind_eq_ok_iff]
  simp only [hfold]
  constructor
  · rintro ⟨s', ⟨hvalid, rfl⟩, h⟩
    split at h
    · cases h
    · next hboth =>
      cases h
      exact ⟨hvalid, rfl, by simpa using hboth⟩
  · rintro ⟨hvalid, rfl, hboth⟩
    refine ⟨_, ⟨hvalid, rfl⟩, ?_⟩
    rw [if_neg (by simpa using hboth)]
    rfl

end DerivedQuery
