import DerivedQuery.Declaration
import DerivedQuery.Proofs.Declaration.Attribute
import DerivedQuery.Proofs.Entity.Declared

/-!
# What a structure declares

A structure can be declared as an entity unless something is wrong with it, and then its entity is
told by its fields: a name that several fields have, maybe because they are renamed to it, is
declared once.

* `StructDeclaration.IsDerivable`: nothing is wrong with the structure.
* `StructDeclaration.kept`, `nameOf`, `FieldDeclaration.declaredKind`: the fields that are declared,
  under which names and of which kinds.
* `FieldType.Wraps`: a type in wrappers, references and parentheses.
* `StructDeclaration.plan_eq_ok_iff`: when there is a plan, and what it is.
* `StructDeclaration.plan_outcome`: the same for the entity of the plan.
-/

namespace DerivedQuery

/-! ## Fields -/

namespace FieldDeclaration

/-- What the attributes of a field say. -/
def settings (f : FieldDeclaration) : FieldSettings :=
  .ofItems (regionItems f.attributes)

/-- The kind that is given to a field, or else the one of its type. -/
def declaredKind (f : FieldDeclaration) : PropertyKind :=
  f.settings.kind.getD f.type.kind

/-- A field without anything that is wrong with it. -/
structure IsDerivable (f : FieldDeclaration) : Prop where
  attributes : AttributesAre AttributeItem.DescribesField f.attributes
  keptIdentity : ¬(f.settings.isSkipped = true ∧ f.settings.isIdentity = true)

end FieldDeclaration

namespace StructDeclaration

/-- What the attributes of a structure say. -/
def settings (d : StructDeclaration) : StructSettings :=
  .ofItems (regionItems d.attributes)

/-- The name that is given to a field, or else the one that the structure's rule makes of its own. -/
def nameOf (d : StructDeclaration) (f : FieldDeclaration) : String :=
  f.settings.name.getD (d.settings.rule.apply f.name)

/-- The fields that are not skipped. -/
def kept (d : StructDeclaration) : List FieldDeclaration :=
  d.fields.filter fun f => !f.settings.isSkipped

/-- A structure without anything that is wrong with it. -/
structure IsDerivable (d : StructDeclaration) : Prop where
  notGeneric : d.isGeneric = false
  named : d.shape = .named
  attributes : AttributesAre AttributeItem.DescribesStruct d.attributes
  fields : ∀ f ∈ d.fields, f.IsDerivable
  oneIdentity : d.fields.countP (·.settings.isIdentity) ≤ 1

end StructDeclaration

/-! ## Types in wrappers -/

/-- `t.Wraps w`: the type `w` is `t`, with any number of owning wrappers, references and parentheses
around it. -/
inductive FieldType.Wraps (t : FieldType) : FieldType → Prop
  | self : Wraps t t
  | owned {name : String} {w : FieldType} (hname : name ∈ wrappers) (h : Wraps t w) :
    Wraps t (.path name [some w])
  | reference {w : FieldType} (h : Wraps t w) : Wraps t (.reference w)
  | grouped {w : FieldType} (h : Wraps t w) : Wraps t (.grouped w)

/-- What is around a type does not change its kind. -/
theorem FieldType.Wraps.kind_eq {t w : FieldType} (h : t.Wraps w) : w.kind = t.kind := by
  induction h with
  | self => rfl
  | owned hname _ ih =>
    have hcontains := List.contains_iff_mem.2 hname
    rw [FieldType.kind, if_pos hcontains, ih]
  | reference _ ih => rw [FieldType.kind, ih]
  | grouped _ ih => rw [FieldType.kind, ih]

namespace StructDeclaration

/-! ## Plans -/

/-- The property that a field is declared as. -/
def declaration (d : StructDeclaration) (f : FieldDeclaration) : Property :=
  ⟨d.nameOf f, f.declaredKind, f.settings.isIdentity⟩

theorem property?_eq_ok_iff {d : StructDeclaration} {f : FieldDeclaration} {q : Option Property} :
    property? d.settings.rule f = .ok q ↔
      f.IsDerivable ∧ q = if f.settings.isSkipped then none else some (d.declaration f) := by
  simp only [property?, bind_eq_ok_iff, FieldSettings.read_eq_ok_iff]
  constructor
  · rintro ⟨s, ⟨hvalid, rfl, hboth⟩, h⟩
    refine ⟨⟨hvalid, hboth⟩, ?_⟩
    split at h
    · next hskipped =>
      cases h
      exact (if_pos hskipped).symm
    · next hskipped =>
      cases h
      exact (if_neg hskipped).symm
  · rintro ⟨⟨hvalid, hboth⟩, rfl⟩
    refine ⟨f.settings, ⟨hvalid, rfl, hboth⟩, ?_⟩
    split
    · rfl
    · rfl

/-- A skipped field changes nothing for the others. -/
theorem properties_cons_skipped_iff {d : StructDeclaration} {f : FieldDeclaration}
    {fs : List FieldDeclaration} {identified : Bool} {ps : List Property}
    (hskipped : f.settings.isSkipped = true) :
    properties d.settings.rule identified (f :: fs) = .ok ps ↔
      f.IsDerivable ∧ properties d.settings.rule identified fs = .ok ps := by
  simp only [properties, bind_eq_ok_iff, property?_eq_ok_iff, if_pos hskipped]
  constructor
  · rintro ⟨_, ⟨hf, rfl⟩, h⟩
    exact ⟨hf, h⟩
  · rintro ⟨hf, h⟩
    exact ⟨none, ⟨hf, rfl⟩, h⟩

/-- A field that is kept is declared before the others, and may be the identity if none was. -/
theorem properties_cons_kept_iff {d : StructDeclaration} {f : FieldDeclaration}
    {fs : List FieldDeclaration} {identified : Bool} {ps : List Property}
    (hskipped : f.settings.isSkipped = false) :
    properties d.settings.rule identified (f :: fs) = .ok ps ↔
      f.IsDerivable ∧ (identified && f.settings.isIdentity) = false ∧
        ∃ rest, properties d.settings.rule (identified || f.settings.isIdentity) fs = .ok rest ∧
          ps = d.declaration f :: rest := by
  have hdeclared : (d.declaration f).isIdentity = f.settings.isIdentity := rfl
  simp only [properties, bind_eq_ok_iff, property?_eq_ok_iff, hskipped, Bool.false_eq_true, if_false]
  -- The one thing that can go wrong with a kept field is that it is an identity, and not the first.
  constructor
  · rintro ⟨_, ⟨hf, rfl⟩, h⟩
    simp only [hdeclared] at h
    cases hagain : identified && f.settings.isIdentity with
    | true => simp [hagain, bind_eq_ok_iff] at h
    | false =>
      simp only [hagain, Bool.false_eq_true, if_false, bind_eq_ok_iff, pure_eq_ok_iff] at h
      obtain ⟨rest, hrest, rfl⟩ := h
      exact ⟨hf, rfl, rest, hrest, rfl⟩
  · rintro ⟨hf, hagain, rest, hrest, rfl⟩
    refine ⟨_, ⟨hf, rfl⟩, ?_⟩
    simp only [hdeclared, hagain, Bool.false_eq_true, if_false, bind_eq_ok_iff, pure_eq_ok_iff]
    exact ⟨rest, hrest, rfl⟩

/-- The properties of fields can be told when each field can be declared and one at most is the
identity; none is if there was one before. -/
theorem properties_eq_ok_iff {d : StructDeclaration} {fields : List FieldDeclaration}
    {identified : Bool} {ps : List Property} :
    properties d.settings.rule identified fields = .ok ps ↔
      (∀ f ∈ fields, f.IsDerivable) ∧
      fields.countP (·.settings.isIdentity) ≤ (if identified then 0 else 1) ∧
      ps = (fields.filter fun f => !f.settings.isSkipped).map d.declaration := by
  induction fields generalizing identified ps with
  | nil =>
    have hnil : (.ok [] : Except DeclarationFault (List Property)) = .ok ps ↔ ps = [] := by
      simp [eq_comm]
    simp [properties, hnil]
  | cons f fs ih =>
    rw [List.forall_mem_cons, List.countP_cons]
    cases hskipped : f.settings.isSkipped with
    | true =>
      rw [properties_cons_skipped_iff hskipped, ih, List.filter_cons_of_neg (by simp [hskipped])]
      constructor
      · rintro ⟨hf, hfs, hcount, rfl⟩
        have hidentity : ¬f.settings.isIdentity = true := fun h => hf.keptIdentity ⟨hskipped, h⟩
        exact ⟨⟨hf, hfs⟩, by rwa [if_neg hidentity], rfl⟩
      · rintro ⟨⟨hf, hfs⟩, hcount, rfl⟩
        exact ⟨hf, hfs, by omega, rfl⟩
    | false =>
      rw [properties_cons_kept_iff hskipped, List.filter_cons_of_pos (by simp [hskipped])]
      simp only [ih]
      -- The identities that are left for the other fields.
      have hcount : (identified && f.settings.isIdentity) = false ∧
            fs.countP (·.settings.isIdentity) ≤
              (if (identified || f.settings.isIdentity) = true then 0 else 1) ↔
          fs.countP (·.settings.isIdentity) + (if f.settings.isIdentity = true then 1 else 0) ≤
            (if identified = true then 0 else 1) := by
        cases identified <;> cases f.settings.isIdentity <;> simp
      rw [← hcount]
      constructor
      · rintro ⟨hf, hagain, rest, ⟨hfs, hleft, rfl⟩, rfl⟩
        exact ⟨⟨hf, hfs⟩, ⟨hagain, hleft⟩, rfl⟩
      · rintro ⟨⟨hf, hfs⟩, ⟨hagain, hleft⟩, rfl⟩
        exact ⟨hf, hagain, _, ⟨hfs, hleft, rfl⟩, rfl⟩

/-- A structure can be declared when nothing is wrong with it, and then its fields are, in order. -/
theorem plan_eq_ok_iff {d : StructDeclaration} {p : EntityPlan} :
    d.plan = .ok p ↔
      d.IsDerivable ∧ p = ⟨d.settings.region.getD d.name, d.kept.map d.declaration⟩ := by
  have hread {s : StructSettings} : StructSettings.read d.attributes = .ok s ↔
      AttributesAre AttributeItem.DescribesStruct d.attributes ∧ s = d.settings :=
    StructSettings.read_eq_ok_iff
  constructor
  · intro h
    -- The checks, in the order of the code: generics, shape, attributes, fields.
    simp only [plan] at h
    cases hgeneric : d.isGeneric with
    | true => simp [hgeneric, bind_eq_ok_iff] at h
    | false =>
      cases hshape : d.shape with
      | unnamed | notAStruct => simp [hgeneric, hshape] at h
      | named =>
        simp only [hgeneric, hshape, Bool.false_eq_true, if_false, bind_eq_ok_iff, hread,
          pure_eq_ok_iff] at h
        obtain ⟨s, ⟨hattributes, rfl⟩, ps, hps, rfl⟩ := h
        obtain ⟨hfields, hcount, rfl⟩ := properties_eq_ok_iff.1 hps
        exact ⟨⟨hgeneric, hshape, hattributes, hfields, hcount⟩, rfl⟩
  · rintro ⟨h, rfl⟩
    have hps : properties d.settings.rule false d.fields = .ok (d.kept.map d.declaration) :=
      properties_eq_ok_iff.2 ⟨h.fields, h.oneIdentity, rfl⟩
    simp [plan, h.notGeneric, h.named, hread.2 ⟨h.attributes, rfl⟩, hps, ok_bind, pure, Except.pure]

/-! ## Entities -/

/-- The last of the kept fields with a name says the kind. -/
theorem lastKind?_declarations (d : StructDeclaration) (name : String) :
    Entity.lastKind? (d.kept.map d.declaration) name =
      (d.kept.findRev? fun f => d.nameOf f = name).map (·.declaredKind) := by
  simp only [Entity.lastKind?, List.findRev?_eq_find?_reverse, ← List.map_reverse, List.find?_map,
    Option.map_map]
  rfl

/-- Elements with a property that one element has at most are the same. -/
theorem eq_of_countP_le_one {α : Type} {test : α → Bool} {as : List α} (h : as.countP test ≤ 1)
    {a b : α} (ha : a ∈ as) (hb : b ∈ as) (hatest : test a = true) (hbtest : test b = true) :
    a = b := by
  rw [List.countP_eq_length_filter] at h
  have hafiltered := List.mem_filter.2 ⟨ha, hatest⟩
  have hbfiltered := List.mem_filter.2 ⟨hb, hbtest⟩
  rcases hfiltered : as.filter test with _ | ⟨c, _ | ⟨c', cs⟩⟩
  · simp [hfiltered] at hafiltered
  · rw [hfiltered, List.mem_singleton] at hafiltered hbfiltered
    rw [hafiltered, hbfiltered]
  · simp [hfiltered] at h

/-- The identity that is declared is that of the field that is marked. -/
theorem IsDerivable.lastIdentity?_eq_some_iff {d : StructDeclaration} (h : d.IsDerivable)
    {name : String} :
    Entity.lastIdentity? (d.kept.map d.declaration) = some name ↔
      ∃ f ∈ d.fields, f.settings.isIdentity = true ∧ d.nameOf f = name := by
  -- Fields are what is searched, and not their declarations: the mark belongs to the field.
  have hfound : Entity.lastIdentity? (d.kept.map d.declaration) =
      (d.kept.reverse.find? (·.settings.isIdentity)).map d.nameOf := by
    simp only [Entity.lastIdentity?, List.findRev?_eq_find?_reverse, ← List.map_reverse,
      List.find?_map, Option.map_map]
    rfl
  have hkept {f : FieldDeclaration} : f ∈ d.kept.reverse ∧ f.settings.isIdentity = true ↔
      f ∈ d.fields ∧ f.settings.isIdentity = true := by
    rw [List.mem_reverse, kept, List.mem_filter]
    constructor
    · rintro ⟨⟨hf, -⟩, hidentity⟩
      exact ⟨hf, hidentity⟩
    · rintro ⟨hf, hidentity⟩
      refine ⟨⟨hf, ?_⟩, hidentity⟩
      rw [Bool.not_eq_true']
      exact Bool.eq_false_iff.2 fun hskipped => (h.fields f hf).keptIdentity ⟨hskipped, hidentity⟩
  -- With one mark at most, first and last marked field are the same.
  have hunique : ∀ f ∈ d.kept.reverse, ∀ g ∈ d.kept.reverse, f.settings.isIdentity = true →
      g.settings.isIdentity = true → f = g := by
    intro f hf g hg hfidentity hgidentity
    exact eq_of_countP_le_one h.oneIdentity (hkept.1 ⟨hf, hfidentity⟩).1
      (hkept.1 ⟨hg, hgidentity⟩).1 hfidentity hgidentity
  rw [hfound, Option.map_eq_some_iff]
  simp only [Entity.find?_eq_some_iff_of_unique hunique, hkept, and_assoc]

/-- A structure can be derived from just when nothing is wrong with it. The entity then has one
property for each name of the fields that are not skipped, in the order in which the names appear
first; the last field with a name says its kind. The identity is the property of the field that is
marked, and there is none without such a field, also when other fields have the same name. The kind
of a field is the one that is given to it, or else that of its type, which wrappers, references and
parentheses do not change. -/
theorem plan_outcome (d : StructDeclaration) :
    ((∃ p, d.plan = .ok p) ↔ d.IsDerivable) ∧
      (∀ p, d.plan = .ok p →
        p.entity.names = (d.kept.map d.nameOf).eraseDups ∧ p.entity.names.Nodup ∧
        (∀ q ∈ p.entity.properties,
          (d.kept.findRev? fun f => d.nameOf f = q.name).map (·.declaredKind) = some q.kind ∧
          (q.isIdentity = true ↔ ∃ f ∈ d.fields, f.settings.isIdentity = true ∧ d.nameOf f = q.name)) ∧
        ∀ name, p.entity.identity?.map (·.name) = some name ↔
          ∃ f ∈ d.fields, f.settings.isIdentity = true ∧ d.nameOf f = name) ∧
      ∀ (t w : FieldType), t.Wraps w → w.kind = t.kind := by
  refine ⟨?_, ?_, fun t w hw => hw.kind_eq⟩
  · constructor
    · rintro ⟨p, hp⟩
      exact (plan_eq_ok_iff.1 hp).1
    · intro h
      exact ⟨_, plan_eq_ok_iff.2 ⟨h, rfl⟩⟩
  · intro p hp
    obtain ⟨hd, rfl⟩ := plan_eq_ok_iff.1 hp
    -- A plan declares its fields one after the other, so that what holds of all declarations
    -- applies.
    have h : (EntityPlan.entity ⟨d.settings.region.getD d.name, d.kept.map d.declaration⟩).Reflects
        (d.kept.map d.declaration) := Entity.reflects_declareAll _ _
    have hnames : (d.kept.map d.declaration).map (·.name) = d.kept.map d.nameOf := by
      rw [List.map_map]
      rfl
    refine ⟨by rw [h.names_eq, hnames], h.nodup, fun q hq => ⟨?_, ?_⟩, fun name => ?_⟩
    · rw [← lastKind?_declarations, h.kind q hq]
    · rw [h.identity q hq, hd.lastIdentity?_eq_some_iff]
    · rw [h.map_name_identity?, hd.lastIdentity?_eq_some_iff]

/-- A structure whose identity has the name that another field is given. -/
def sharedName : StructDeclaration where
  name := "Person"
  shape := .named
  isGeneric := false
  attributes := [⟨"region", some [⟨"rename_all", .text "camelCase"⟩]⟩]
  fields := [
    ⟨"id", .path "Option" [some (.path "Box" [some (.path "u64" [])])],
      [⟨"region", some [⟨"id", .absent⟩, ⟨"rename", .text "key"⟩]⟩]⟩,
    ⟨"first_name", .reference (.path "str" []), [⟨"doc", none⟩]⟩,
    ⟨"cache", .path "Vec" [], [⟨"region", some [⟨"skip", .absent⟩]⟩]⟩,
    ⟨"legacy", .path "i64" [], [⟨"region", some [⟨"rename", .text "key"⟩]⟩,
      ⟨"region", some [⟨"kind", .text "String"⟩]⟩]⟩]

theorem plan_outcome_sharedName :
    ∃ p, sharedName.plan = .ok p ∧ sharedName.IsDerivable ∧
      p.entity.names = ["key", "firstName"] ∧ p.entity.identity?.map (·.name) = some "key" ∧
      ∀ q ∈ p.entity.properties, q.kind = .string := by
  obtain ⟨hok, hentity, -⟩ := plan_outcome sharedName
  have hplan : sharedName.plan = .ok ⟨"Person", [⟨"key", .integer, true⟩,
      ⟨"firstName", .string, false⟩, ⟨"key", .string, false⟩]⟩ := by
    rfl
  obtain ⟨hnames, -, -, hidentity⟩ := hentity _ hplan
  refine ⟨_, hplan, hok.1 ⟨_, hplan⟩, ?_, ?_, ?_⟩
  · rw [hnames]
    decide
  · rw [hidentity]
    decide
  · decide

end StructDeclaration

end DerivedQuery
