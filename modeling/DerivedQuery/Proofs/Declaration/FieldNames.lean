import Mathlib.Data.List.Nodup
import DerivedQuery.Declaration
import DerivedQuery.Entity.Resolution
import DerivedQuery.Proofs.Except
import DerivedQuery.Proofs.PropertyPath
import DerivedQuery.Proofs.Text.Words

/-!
# Fields under their names

A structure declares a property for each of its fields. Whatever the rule that names the properties,
a method name reaches a field by the words of the field's own name. All names that a rule makes of a
field have the same letters, and these tell the fields apart; so whichever look-up finds a property
finds that of the field, and for each rule there is a look-up that does.

* `StructDeclaration.declared`: the fields that become properties.
* `nameKey`: the letters of a name, which its case and its `_` do not change.
* `nameKey_of_declaredAs?`, `declaredAs?_isSome`: a look-up finds nothing but the key it looks for,
  and finds it in each of the forms that a rule makes.
* `StructDeclaration.HasFieldNames`: no two of the fields have the same letters.
* `resolve_spelled`: a field is found under the words of its name.
-/

namespace DerivedQuery

open Text

/-! ## Declared properties -/

namespace StructDeclaration

/-- The field with its settings, unless it is skipped. -/
def declaredField? (f : FieldDeclaration) : Option (FieldDeclaration × FieldSettings) :=
  match FieldSettings.read f.attributes with
  | .ok s => if s.isSkipped then none else some (f, s)
  | .error _ => none

/-- The fields that are declared as properties, with their settings. -/
def declared (d : StructDeclaration) : List (FieldDeclaration × FieldSettings) :=
  d.fields.filterMap declaredField?

/-- The property that a field is declared as. -/
def propertyOf (rule : RenameRule) (f : FieldDeclaration × FieldSettings) : Property :=
  ⟨f.2.name.getD (rule.apply f.1.name), f.2.kind.getD f.1.type.kind, f.2.isIdentity⟩

/-- The properties of a structure are those of its declared fields, in order. -/
theorem properties_eq {rule : RenameRule} {identified : Bool} {fields : List FieldDeclaration}
    {ps : List Property} (h : properties rule identified fields = .ok ps) :
    ps = (fields.filterMap declaredField?).map (propertyOf rule) := by
  -- Whether an identity was declared before only decides if another one is refused.
  induction fields generalizing identified ps with
  | nil =>
    cases h
    rfl
  | cons f fs ih =>
    simp only [properties, property?, bind_eq_ok_iff] at h
    rcases h with ⟨found, ⟨s, hs, hfound⟩, h⟩
    by_cases hskip : s.isSkipped = true
    · -- A skipped field declares nothing.
      rw [if_pos hskip, pure_eq_ok_iff] at hfound
      subst hfound
      have hf : declaredField? f = none := by
        rw [declaredField?, hs]
        exact if_pos hskip
      rw [List.filterMap_cons_none hf]
      exact ih h
    · rw [if_neg hskip, pure_eq_ok_iff] at hfound
      subst hfound
      -- Any other field declares its own property in front of the rest.
      have hf : declaredField? f = some (f, s) := by
        rw [declaredField?, hs]
        exact if_neg hskip
      rw [List.filterMap_cons_some hf, List.map_cons]
      -- A second identity would be refused.
      by_cases hidentity : (identified && s.isIdentity) = true
      · simp [hidentity, throw, throwThe, MonadExceptOf.throw, bind, Except.bind] at h
      · simp only [hidentity, if_false, Bool.false_eq_true, bind_eq_ok_iff, pure_eq_ok_iff] at h
        rcases h with ⟨rest, hrest, rfl⟩
        rw [ih hrest]
        rfl

/-- The properties of a plan are those that the rule of the structure makes of its fields. -/
theorem plan_eq {d : StructDeclaration} {p : EntityPlan} (h : d.plan = .ok p) :
    ∃ s, StructSettings.read d.attributes = .ok s ∧
      p.properties = d.declared.map (propertyOf s.rule) := by
  -- Only a structure with named fields and without parameters has a plan.
  unfold plan at h
  by_cases hgeneric : d.isGeneric = true
  · simp [hgeneric, bind_eq_ok_iff] at h
  · cases hshape : d.shape with
    | named =>
      simp only [hgeneric, hshape, Bool.false_eq_true, if_false, bind_eq_ok_iff,
        pure_eq_ok_iff] at h
      rcases h with ⟨s, hs, ps, hps, rfl⟩
      exact ⟨s, hs, properties_eq hps⟩
    | unnamed => simp [hgeneric, hshape] at h
    | notAStruct => simp [hgeneric, hshape] at h

end StructDeclaration

/-! ## Entities of plans -/

namespace EntityPlan

/-- What an entity tells of a property by its name. -/
abbrev entry (p : Property) : String × PropertyKind :=
  (p.name, p.kind)

/-- Two properties tell an entity the same when they agree in name and kind. -/
theorem entry_eq_iff {p q : Property} : entry p = entry q ↔ p.name = q.name ∧ p.kind = q.kind :=
  Prod.ext_iff

/-- A new name comes behind all others. -/
theorem redeclare_of_not_mem {name : String} {change : Property → Property} {fresh : Property}
    {ps : List Property} (h : name ∉ ps.map (·.name)) :
    Entity.redeclare name change fresh ps = ps ++ [fresh] := by
  induction ps with
  | nil => rfl
  | cons p ps ih =>
    rw [List.map_cons, List.mem_cons, not_or] at h
    rw [Entity.redeclare, if_neg (Ne.symm h.1), ih h.2, List.cons_append]

/-- One more property of a new name, be it the identity or not, stands behind the others. -/
theorem entries_step {e : Entity} {q : Property} (h : q.name ∉ e.properties.map (·.name)) :
    (if q.isIdentity then e.identify q.name q.kind
      else e.declare q.name q.kind).properties.map entry = e.properties.map entry ++ [entry q] := by
  by_cases hidentity : q.isIdentity = true
  · -- Taking the mark from another identity changes no name.
    have hnames : q.name ∉
        (e.properties.map fun p => { p with isIdentity := false }).map (·.name) := by
      simpa using h
    rw [if_pos hidentity, Entity.identify, redeclare_of_not_mem hnames]
    simp [Function.comp_def]
  · rw [if_neg hidentity, Entity.declare, redeclare_of_not_mem h]
    simp

/-- The entity of a plan has the properties of the plan, if these have different names. -/
theorem entries_entity {p : EntityPlan} (h : (p.properties.map (·.name)).Nodup) :
    p.entity.properties.map entry = p.properties.map entry := by
  -- For any entity to start from, whose names are different from the new ones.
  have hfold (qs : List Property) (e : Entity)
      (hnames : (e.properties.map (·.name) ++ qs.map (·.name)).Nodup) :
      (qs.foldl (fun e q =>
        if q.isIdentity then e.identify q.name q.kind
        else e.declare q.name q.kind) e).properties.map entry =
        e.properties.map entry ++ qs.map entry := by
    induction qs generalizing e with
    | nil => simp
    | cons q qs ih =>
      have hnew : q.name ∉ e.properties.map (·.name) := by
        intro hmem
        exact (List.nodup_append.1 hnames).2.2 _ hmem _ List.mem_cons_self rfl
      have hstep := entries_step hnew
      -- The names go with the entries, so that they stay different from those to come.
      have hstepnames := congrArg (List.map Prod.fst) hstep
      simp only [List.map_map, List.map_append, Function.comp_def, List.map_cons,
        List.map_nil] at hstepnames
      rw [List.foldl_cons, ih _ (by rw [hstepnames]; simpa using hnames), hstep, List.map_cons,
        List.append_assoc, List.singleton_append]
  exact hfold p.properties (Entity.ofRegion p.region) (by simpa [Entity.ofRegion] using h)

end EntityPlan

/-! ## The letters of a name -/

/-- The letters of a name, in small letters and without `_`. -/
def nameKey (s : String) : List Char :=
  (s.toList.map Char.toLower).filter (· ≠ '_')

/-- A field name without its `_`. -/
def bareName (name : String) : List Char :=
  name.toList.filter (· ≠ '_')

/-- Without the separators a text is its pieces in a row. -/
theorem filter_eq_flatten (sep : Char) (cs : List Char) :
    cs.filter (· ≠ sep) = (pieces sep cs).flatten := by
  induction cs with
  | nil => rfl
  | cons c cs ih =>
    by_cases hc : c = sep
    · rw [List.filter_cons_of_neg (by simpa using hc), ih, pieces, if_pos hc, List.flatten_cons,
        List.nil_append]
    · rcases hp : pieces sep cs with _ | ⟨p, ps⟩
      · exact absurd hp (pieces_ne_nil sep cs)
      · simpa [pieces, hc, hp] using ih

/-- Texts that have the letters of a field name, up to case, have its key. -/
theorem nameKey_of_flatten {name s : String}
    (h : s.toList.map Char.toLower = (pieces '_' name.toList).flatten) :
    nameKey s = bareName name := by
  rw [nameKey, h, ← filter_eq_flatten, List.filter_filter, bareName]
  simp

section Name

variable {name : String} (h : isFieldName name = true)
include h

/-- A field name is its own key, apart from its `_`. -/
theorem nameKey_name : nameKey name = bareName name := by
  rw [nameKey, map_toLower_name h, bareName]

/-- The words of a name have the key of the name. -/
theorem nameKey_spelled : nameKey (spelled name) = bareName name := by
  apply nameKey_of_flatten
  rw [spelled, String.toList_ofList, map_toLower_flatMap (isFieldWord_of_mem h)]

/-- Its lower camel case has the key of the name. -/
theorem nameKey_lowerCamel : nameKey (lowerCamel name) = bareName name := by
  rcases exists_words h with ⟨w, ws, hpieces, hw, hws⟩
  apply nameKey_of_flatten
  -- Only the capitals are new, and case does not count.
  rw [lowerCamel_name h hpieces, String.toList_ofList, List.map_append, map_toLower_flatMap hws,
    map_toLower_of_isSmall (isSmall_of_mem hw), hpieces, List.flatten_cons]

end Name

/-- Each rule leaves a field name as it is, or writes its words in one of the camel cases. -/
theorem RenameRule.apply_cases (rule : RenameRule) {field : String}
    (h : isFieldName (unmarked field) = true) :
    rule.apply field = unmarked field ∨ rule.apply field = lowerCamel (unmarked field) ∨
      rule.apply field = spelled (unmarked field) := by
  cases rule with
  | asWritten => exact .inl rfl
  | camelCase => exact .inr (.inl rfl)
  | snakeCase => exact .inl (snake_name h)
  | pascalCase => exact .inr (.inr (upperCamel_name h))
  | lowercase => exact .inl (lowerText_name h)

/-- No rule changes the letters of a name. -/
theorem RenameRule.nameKey_apply (rule : RenameRule) {field : String}
    (h : isFieldName (unmarked field) = true) :
    nameKey (rule.apply field) = bareName (unmarked field) := by
  rcases rule.apply_cases h with hrule | hrule | hrule
  · rw [hrule, nameKey_name h]
  · rw [hrule, nameKey_lowerCamel h]
  · rw [hrule, nameKey_spelled h]

/-! ## Identifiers -/

/-- Whatever a rule makes of a field name, it is an identifier. -/
theorem isIdentifier_apply (rule : RenameRule) {field : String}
    (h : isFieldName (RenameRule.unmarked field) = true) :
    isIdentifier (rule.apply field).toList = true := by
  rcases exists_words h with ⟨w, ws, hpieces, hw, hws⟩
  have hsmall := isSmall_of_mem hw
  have hcapitals := isAlphanum_of_mem_spelled h
  rcases exists_of_isFieldWord hw with ⟨c, d, cs, rfl, hc, -⟩
  rcases rule.apply_cases h with hrule | hrule | hrule
  · -- As written: letters, digits and `_` behind the first letter.
    rcases exists_of_pieces hpieces with ⟨rest, hname⟩
    rw [hrule, hname]
    refine isIdentifier_of_letters (isAlpha_of_isLower hc) fun e he => ?_
    rcases isSmall_of_mem_name h e (hname ▸ List.mem_cons_of_mem c he) with hsep | hsmall
    · exact .inl hsep
    · exact .inr (isAlphanum_of_isSmall hsmall)
  · -- In lower camel case: the first word is small, and the others are words with capitals.
    rw [hrule, lowerCamel_name h hpieces, String.toList_ofList, List.cons_append]
    refine isIdentifier_of_letters (isAlpha_of_isLower hc) fun e he => ?_
    rcases List.mem_append.1 he with he | he
    · exact .inr (isAlphanum_of_isSmall (hsmall e (List.mem_cons_of_mem c he)))
    · exact .inr (isAlphanum_of_mem_flatMap hws e he)
  · -- In upper camel case, where the first letter is a capital as well.
    rw [spelled, hpieces, String.toList_ofList, List.flatMap_cons, capitalised,
      List.cons_append] at hcapitals
    rw [hrule, spelled, hpieces, String.toList_ofList, List.flatMap_cons, capitalised,
      List.cons_append]
    refine isIdentifier_of_letters (isAlpha_of_isUpper (toUpper_of_isLower hc).1) fun e he => ?_
    exact .inr (hcapitals e (List.mem_cons_of_mem _ he))

/-! ## Look-ups -/

namespace Entity

variable {e : Entity} {name : String}

/-- A property that is looked up by its name has the name. -/
theorem mem_of_property? {written : String} {q : Property} (h : e.property? written = some q) :
    q ∈ e.properties ∧ q.name = written :=
  ⟨List.mem_of_find?_eq_some h, by simpa using List.find?_some h⟩

/-- A field name is looked up in three ways, and each finds nothing but its key. -/
theorem nameKey_of_declaredAs? (h : isFieldName name = true) {q : Property}
    (hq : e.declaredAs? (spelled name) = some q) :
    q ∈ e.properties ∧ nameKey q.name = bareName name := by
  simp only [declaredAs?, Option.or_eq_some_iff] at hq
  -- Whichever look-up succeeds, its key is the letters of the name.
  rcases hq with hcamel | ⟨-, hsnake | ⟨-, hfirst⟩⟩
  · rcases mem_of_property? hcamel with ⟨hmem, hname⟩
    rw [hname, lowerCamel_spelled h, nameKey_lowerCamel h]
    exact ⟨hmem, rfl⟩
  · rcases mem_of_property? hsnake with ⟨hmem, hname⟩
    rw [hname, snake_spelled h, nameKey_name h]
    exact ⟨hmem, rfl⟩
  · -- The last look-up compares texts up to case, which the key does not see.
    refine ⟨List.mem_of_find?_eq_some hfirst, ?_⟩
    have hsame := List.find?_some hfirst
    simp only [sameIgnoringAsciiCase, Bool.and_eq_true, decide_eq_true_eq] at hsame
    rw [← nameKey_spelled h, nameKey, nameKey, hsame.2]

/-- A property that is declared under one of the forms of a name is found. -/
theorem declaredAs?_isSome (h : isFieldName name = true) {q : Property} (hq : q ∈ e.properties)
    (hname : q.name = name ∨ q.name = lowerCamel name ∨ q.name = spelled name) :
    (e.declaredAs? (spelled name)).isSome = true := by
  have hproperty : (e.property? q.name).isSome = true := by
    rw [property?, List.find?_isSome]
    exact ⟨q, hq, by simp⟩
  rw [declaredAs?, Option.isSome_or, Option.isSome_or, Bool.or_eq_true, Bool.or_eq_true,
    lowerCamel_spelled h, snake_spelled h]
  rcases hname with hname | hname | hname
  -- Each form has a look-up that finds it: as written the second one, in lower camel case the first
  -- one, as words in a row the third one.
  · rw [hname] at hproperty
    exact .inr (.inl hproperty)
  · rw [hname] at hproperty
    exact .inl hproperty
  · have hdot : '.' ∉ (spelled name).toList := by
      intro hmem
      exact absurd (isAlphanum_of_mem_spelled h '.' hmem) (by decide)
    refine .inr (.inr ?_)
    rw [List.find?_isSome]
    exact ⟨q, hq, by simp [hname, hdot, sameIgnoringAsciiCase]⟩

/-- The words of a field name are one step. -/
theorem steps_spelled (h : isFieldName name = true) : steps (spelled name) = [spelled name] := by
  have hsep : '_' ∉ (spelled name).toList := by
    intro hmem
    exact absurd (isAlphanum_of_mem_spelled h '_' hmem) (by decide)
  have hne : (spelled name).toList.isEmpty = false := by
    rcases exists_words h with ⟨w, ws, hpieces, hw, -⟩
    rcases exists_of_isFieldWord hw with ⟨c, d, cs, rfl, -⟩
    simp [spelled, hpieces, capitalised]
  rw [steps, pieces_of_not_mem hsep, List.filter_cons_of_pos (by simp [hne])]
  simp

/-- The words of a field name resolve to the property that is found for them. -/
theorem resolve_of_declaredAs? (h : isFieldName name = true) {q : Property}
    (hq : e.declaredAs? (spelled name) = some q) (hid : isIdentifier q.name.toList = true) :
    e.resolve (spelled name) = .ok (⟨⟨q.name, hid⟩, []⟩, q.kind) := by
  have hdotted : dotted q [] = q.name := by
    simp [dotted]
  have hpath : (PropertyPath.read (dotted q [])).toOption = some ⟨⟨q.name, hid⟩, []⟩ := by
    rw [hdotted, PropertyPath.read_of_isIdentifier hid]
    rfl
  have hfound : e.resolve? (spelled name) = some (⟨⟨q.name, hid⟩, []⟩, q.kind) := by
    simp [resolve?, steps_spelled h, hq, hpath, kindAt]
  rw [resolve, hfound]

end Entity

/-! ## Fields -/

namespace StructDeclaration

/-- The names of the declared fields are field names, none is renamed, and no two have the same
letters. -/
structure HasFieldNames (d : StructDeclaration) : Prop where
  unnamed : ∀ f ∈ d.declared, f.2.name = none
  isFieldName : ∀ f ∈ d.declared, isFieldName (RenameRule.unmarked f.1.name) = true
  nodup : (d.declared.map fun f => bareName (RenameRule.unmarked f.1.name)).Nodup

section Named

variable {d : StructDeclaration} (h : d.HasFieldNames)
include h

/-- The name of a property is what the rule makes of the field. -/
theorem HasFieldNames.name_propertyOf (rule : RenameRule) {f : FieldDeclaration × FieldSettings}
    (hf : f ∈ d.declared) : (propertyOf rule f).name = rule.apply f.1.name := by
  rw [propertyOf, h.unnamed f hf, Option.getD_none]

/-- The letters of a property are those of its field. -/
theorem HasFieldNames.nameKey_propertyOf (rule : RenameRule)
    {f : FieldDeclaration × FieldSettings} (hf : f ∈ d.declared) :
    nameKey (propertyOf rule f).name = bareName (RenameRule.unmarked f.1.name) := by
  rw [h.name_propertyOf rule hf, rule.nameKey_apply (h.isFieldName f hf)]

/-- Different properties have different letters. -/
theorem HasFieldNames.keys_nodup {p : EntityPlan} {rule : RenameRule}
    (hp : p.properties = d.declared.map (propertyOf rule)) :
    (p.properties.map fun q => nameKey q.name).Nodup := by
  have hkeys : (d.declared.map fun f => nameKey (propertyOf rule f).name) =
      d.declared.map fun f => bareName (RenameRule.unmarked f.1.name) :=
    List.map_congr_left fun f hf => h.nameKey_propertyOf rule hf
  rw [hp, List.map_map, Function.comp_def, hkeys]
  exact h.nodup

/-- Different letters, and so different names. -/
theorem HasFieldNames.names_nodup {p : EntityPlan} {rule : RenameRule}
    (hp : p.properties = d.declared.map (propertyOf rule)) :
    (p.properties.map (·.name)).Nodup := by
  have hkeys : ((p.properties.map (·.name)).map nameKey).Nodup := by
    rw [List.map_map]
    exact h.keys_nodup hp
  exact hkeys.of_map

/-- In the entity, no property but the one declared for a field has the letters of the field. -/
theorem HasFieldNames.entry_eq {p : EntityPlan} {rule : RenameRule}
    (hp : p.properties = d.declared.map (propertyOf rule)) {f : FieldDeclaration × FieldSettings}
    (hf : f ∈ d.declared) {q : Property} (hq : q ∈ p.entity.properties)
    (hkey : nameKey q.name = bareName (RenameRule.unmarked f.1.name)) :
    EntityPlan.entry q = EntityPlan.entry (propertyOf rule f) := by
  -- The declared property and the one that is found are both among the planned ones.
  have hmem : propertyOf rule f ∈ p.properties := hp ▸ List.mem_map_of_mem hf
  have hentry : EntityPlan.entry q ∈ p.properties.map EntityPlan.entry := by
    rw [← p.entries_entity (h.names_nodup hp)]
    exact List.mem_map_of_mem hq
  rcases List.mem_map.1 hentry with ⟨planned, hplanned, heq⟩
  have hplannedkey : nameKey planned.name = nameKey (propertyOf rule f).name := by
    -- Of those only one has the letters of the field.
    rw [(EntityPlan.entry_eq_iff.1 heq).1, hkey, h.nameKey_propertyOf rule hf]
  rw [← heq, List.inj_on_of_nodup_map (h.keys_nodup hp) hplanned hmem hplannedkey]

/-- One of the look-ups finds a property for a field. -/
theorem HasFieldNames.exists_declaredAs? {p : EntityPlan} {rule : RenameRule}
    (hp : p.properties = d.declared.map (propertyOf rule)) {f : FieldDeclaration × FieldSettings}
    (hf : f ∈ d.declared) :
    ∃ q, p.entity.declaredAs? (spelled (RenameRule.unmarked f.1.name)) = some q := by
  have hentry : EntityPlan.entry (propertyOf rule f) ∈
      p.entity.properties.map EntityPlan.entry := by
    rw [p.entries_entity (h.names_nodup hp), hp]
    exact List.mem_map_of_mem (List.mem_map_of_mem hf)
  -- The entity holds the property under its name, and that is one of the three forms.
  rcases List.mem_map.1 hentry with ⟨q, hq, heq⟩
  have hname : q.name = rule.apply f.1.name := by
    rw [← h.name_propertyOf rule hf]
    exact (EntityPlan.entry_eq_iff.1 heq).1
  have hform := rule.apply_cases (h.isFieldName f hf)
  rw [← hname] at hform
  exact Option.isSome_iff_exists.1 (Entity.declaredAs?_isSome (h.isFieldName f hf) hq hform)

end Named

/-- A field is found under the words of its name, whatever rule names the properties: the path is
the property that is declared for it, and for no other field. -/
theorem resolve_spelled {d : StructDeclaration} {p : EntityPlan} (hplan : d.plan = .ok p)
    (h : d.HasFieldNames) :
    ∃ s, StructSettings.read d.attributes = .ok s ∧
      ∀ f ∈ d.declared, ∃ q ∈ p.properties, ∃ path : PropertyPath,
        p.entity.resolve (spelled (RenameRule.unmarked f.1.name)) = .ok (path, q.kind) ∧
          path.segments = [q.name] ∧
          q.name = s.rule.apply f.1.name ∧ q.kind = f.2.kind.getD f.1.type.kind ∧
          ∀ g ∈ d.declared, s.rule.apply g.1.name = q.name → g = f := by
  rcases plan_eq hplan with ⟨s, hs, hp⟩
  refine ⟨s, hs, ?_⟩
  intro f hf
  have hfield := h.isFieldName f hf
  have hname := h.name_propertyOf s.rule hf
  -- Some property is found, it has the letters of the field, and so it is the one of the field.
  rcases h.exists_declaredAs? hp hf with ⟨found, hfound⟩
  rcases Entity.nameKey_of_declaredAs? hfield hfound with ⟨hmem, hkey⟩
  rcases EntityPlan.entry_eq_iff.1 (h.entry_eq hp hf hmem hkey) with ⟨hfoundname, hfoundkind⟩
  have hid : isIdentifier found.name.toList = true := by
    rw [hfoundname, hname]
    exact isIdentifier_apply s.rule hfield
  refine ⟨propertyOf s.rule f, hp ▸ List.mem_map_of_mem hf, ⟨⟨found.name, hid⟩, []⟩, ?_, ?_,
    hname, rfl, ?_⟩
  · rw [Entity.resolve_of_declaredAs? hfield hfound hid, hfoundkind]
  · simp [PropertyPath.segments, hfoundname]
  · -- Another field has other letters, and so has its property.
    intro g hg hsame
    have hletters : bareName (RenameRule.unmarked g.1.name) =
        bareName (RenameRule.unmarked f.1.name) := by
      rw [← h.nameKey_propertyOf s.rule hg, ← h.nameKey_propertyOf s.rule hf,
        h.name_propertyOf s.rule hg, hsame]
    exact List.inj_on_of_nodup_map h.nodup hg hf hletters

/-- Two fields whose names differ in `_` and a digit only, one of them with a kind of its own,
beside a skipped field and one that is named like a keyword. -/
theorem resolve_spelled_people :
    let text : FieldType := .path "String" []
    let homeTown : FieldDeclaration :=
      ⟨"home_town2", text, [⟨"region", some [⟨"kind", .text "object"⟩]⟩]⟩
    let d : StructDeclaration := ⟨"Person", .named, false,
      [⟨"region", some [⟨"rename_all", .text "camelCase"⟩]⟩],
      [⟨"hometown", text, []⟩, homeTown,
        ⟨"HomeTown2", text, [⟨"region", some [⟨"skip", .absent⟩]⟩]⟩,
        ⟨"r#type", .path "Option" [some (.path "u32" [])], []⟩]⟩
    let p : EntityPlan := ⟨"Person",
      [⟨"hometown", .string, false⟩, ⟨"homeTown2", .object, false⟩, ⟨"type", .integer, false⟩]⟩
    d.HasFieldNames ∧ d.plan = .ok p ∧
      ∃ path : PropertyPath,
        p.entity.resolve "HomeTown2" = .ok (path, .object) ∧ path.segments = ["homeTown2"] := by
  intro text homeTown d p
  have hdeclared : d.declared = [(⟨"hometown", text, []⟩, ⟨false, false, none, none⟩),
      (homeTown, ⟨false, false, none, some .object⟩),
      (⟨"r#type", .path "Option" [some (.path "u32" [])], []⟩, ⟨false, false, none, none⟩)] := by
    rfl
  have hnames : d.HasFieldNames := by
    refine { unnamed := ?_, isFieldName := ?_, nodup := ?_ }
    · simp [hdeclared]
    · simp only [hdeclared, List.forall_mem_cons]
      decide +kernel
    · rw [hdeclared]
      decide +kernel
  have hplan : d.plan = .ok p := by
    decide +kernel
  have hsettings : StructSettings.read d.attributes = .ok ⟨none, .camelCase⟩ := by
    decide +kernel
  have hmem : (homeTown, ⟨false, false, none, some .object⟩) ∈ d.declared := by
    simp [hdeclared]
  have hspelled : spelled (RenameRule.unmarked homeTown.name) = "HomeTown2" := by
    decide +kernel
  have happly : RenameRule.camelCase.apply homeTown.name = "homeTown2" := by
    decide +kernel
  rcases resolve_spelled hplan hnames with ⟨s, hs, hfields⟩
  obtain rfl : s = ⟨none, .camelCase⟩ := Except.ok.inj (hs.symm.trans hsettings)
  rcases hfields _ hmem with ⟨q, -, path, hpath, hsegments, hname, hkind, -⟩
  rw [hspelled, hkind] at hpath
  exact ⟨hnames, hplan, path, hpath, by rw [hsegments, hname, happly]⟩

end StructDeclaration

end DerivedQuery
