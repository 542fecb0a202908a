import DerivedQuery.Proofs.Entity.Resolution

/-!
# Entities by their declarations

A property may be declared again, as a plain property or as the identity. What an entity is then
like is said here straight from the declarations: a property stands where its name was declared
first, its kind is that of the last declaration of the name, and the identity is the one that was
declared as such last.

* `Entity.lastKind?`, `Entity.lastIdentity?`: what some declarations say of a name, and of the
  identity.
* `Entity.Reflects`: an entity is as its declarations say. One more declaration keeps this up
  (`Reflects.declareOne`), so it holds after every sequence of them (`reflects_declareAll`).
* `Entity.properties_declareAll`: the properties, the identity and the look-ups of an entity.
-/

namespace DerivedQuery.Entity

variable {e : Entity} {ds : List Property}

/-! ## What declarations say -/

/-- The kind in the last declaration of a name. -/
def lastKind? (ds : List Property) (name : String) : Option PropertyKind :=
  (ds.findRev? fun d => d.name = name).map (·.kind)

/-- The name in the last declaration of an identity. -/
def lastIdentity? (ds : List Property) : Option String :=
  (ds.findRev? fun d => d.isIdentity).map (·.name)

theorem lastKind?_append (ds : List Property) (d : Property) (name : String) :
    lastKind? (ds ++ [d]) name = if d.name = name then some d.kind else lastKind? ds name := by
  by_cases hname : d.name = name <;> simp [lastKind?, hname]

theorem lastIdentity?_append (ds : List Property) (d : Property) :
    lastIdentity? (ds ++ [d]) = if d.isIdentity then some d.name else lastIdentity? ds := by
  cases hidentity : d.isIdentity <;> simp [lastIdentity?, hidentity]

/-- The identity is declared. -/
theorem mem_of_lastIdentity? {name : String} (h : lastIdentity? ds = some name) :
    name ∈ ds.map (·.name) := by
  obtain ⟨d, hd, rfl⟩ := Option.map_eq_some_iff.1 h
  rw [List.findRev?_eq_find?_reverse] at hd
  exact List.mem_map_of_mem (List.mem_reverse.1 (List.mem_of_find?_eq_some hd))

/-- The entity is as the declarations say. -/
structure Reflects (ds : List Property) (e : Entity) : Prop where
  names_eq : e.names = (ds.map (·.name)).eraseDups
  nodup : e.names.Nodup
  kind : ∀ p ∈ e.properties, lastKind? ds p.name = some p.kind
  identity : ∀ p ∈ e.properties, p.isIdentity = true ↔ lastIdentity? ds = some p.name

/-! ## One more declaration -/

section Redeclaration

variable {name : String} {change : Property → Property} {fresh : Property} {ps : List Property}

/-- A name is added behind the others, unless it is one of them. -/
theorem map_name_redeclare (hchange : ∀ p, (change p).name = p.name) (hfresh : fresh.name = name) :
    (redeclare name change fresh ps).map (·.name) =
      ps.map (·.name) ++ if name ∈ ps.map (·.name) then [] else [name] := by
  induction ps with
  | nil => simp [redeclare, hfresh]
  | cons p ps ih =>
    by_cases hname : p.name = name
    · simp [redeclare, hname, hchange]
    · simp only [redeclare, hname, if_false, List.map_cons, ih, List.mem_cons, Ne.symm hname,
        false_or, List.cons_append]

/-- In a list of different names, what is declared again is the one declaration of the name, and the
others stay as they are. -/
theorem cases_of_mem_redeclare (hnames : (ps.map (·.name)).Nodup) {p : Property}
    (h : p ∈ redeclare name change fresh ps) :
    p ∈ ps ∧ p.name ≠ name ∨ (∃ q ∈ ps, q.name = name ∧ p = change q) ∨
      name ∉ ps.map (·.name) ∧ p = fresh := by
  induction ps with
  | nil => exact .inr (.inr ⟨by simp, by simpa [redeclare] using h⟩)
  | cons q ps ih =>
    rw [List.map_cons, List.nodup_cons] at hnames
    by_cases hname : q.name = name
    · rw [redeclare, if_pos hname] at h
      rcases List.mem_cons.1 h with rfl | hp
      · exact .inr (.inl ⟨q, List.mem_cons_self, hname, rfl⟩)
      · -- No other declaration has the name.
        refine .inl ⟨List.mem_cons_of_mem q hp, ?_⟩
        intro hsame
        exact hnames.1 (hname ▸ hsame ▸ List.mem_map_of_mem hp)
    · rw [redeclare, if_neg hname] at h
      rcases List.mem_cons.1 h with rfl | hp
      · exact .inl ⟨List.mem_cons_self, hname⟩
      · rcases ih hnames.2 hp with ⟨hmem, hne⟩ | ⟨q', hq', hsame, rfl⟩ | ⟨hnew, rfl⟩
        · exact .inl ⟨List.mem_cons_of_mem q hmem, hne⟩
        · exact .inr (.inl ⟨q', List.mem_cons_of_mem q hq', hsame, rfl⟩)
        · exact .inr (.inr ⟨by simp [Ne.symm hname, hnew], rfl⟩)

end Redeclaration

/-- Another name is listed behind those before it, unless it is one of them. -/
theorem eraseDups_append_singleton (names : List String) (name : String) :
    (names ++ [name]).eraseDups = names.eraseDups ++ if name ∈ names then [] else [name] := by
  rw [List.eraseDups_append]
  by_cases hname : name ∈ names <;> simp [List.removeAll, hname, List.eraseDups_cons]

namespace Reflects

theorem mem_names_iff (h : e.Reflects ds) {name : String} :
    name ∈ e.names ↔ name ∈ ds.map (·.name) := by
  rw [h.names_eq, List.mem_eraseDups]

/-- The names after a declaration, whatever it changes of the one that is declared already. -/
theorem names_declared (h : e.Reflects ds) {d : Property} {e' : Entity}
    (hnames : e'.names = e.names ++ if d.name ∈ e.names then [] else [d.name]) :
    e'.names = ((ds ++ [d]).map (·.name)).eraseDups ∧ e'.names.Nodup := by
  have hlisted : e'.names = ((ds ++ [d]).map (·.name)).eraseDups := by
    simp only [List.map_append, List.map_singleton, eraseDups_append_singleton, ← h.names_eq,
      hnames, h.mem_names_iff]
  refine ⟨hlisted, ?_⟩
  rw [hnames]
  split
  · simpa using h.nodup
  · next hnew =>
    rw [List.nodup_append]
    refine ⟨h.nodup, List.nodup_singleton _, ?_⟩
    rintro name hname _ hlast rfl
    exact hnew (List.mem_singleton.1 hlast ▸ hname)

/-- A property that is declared gets the new kind, and is the identity if it was. -/
theorem declare (h : e.Reflects ds) (name : String) (kind : PropertyKind) :
    (e.declare name kind).Reflects (ds ++ [⟨name, kind, false⟩]) := by
  have hchange (p : Property) : ({ p with kind } : Property).name = p.name := rfl
  have hnames : (e.declare name kind).names =
      e.names ++ if name ∈ e.names then [] else [name] := map_name_redeclare hchange rfl
  obtain ⟨hnames, hnodup⟩ := h.names_declared (d := ⟨name, kind, false⟩) hnames
  refine { names_eq := hnames, nodup := hnodup, kind := ?_, identity := ?_ }
  · intro p hp
    rw [lastKind?_append]
    rcases cases_of_mem_redeclare h.nodup hp with ⟨hmem, hne⟩ | ⟨q, -, rfl, rfl⟩ | ⟨-, rfl⟩
    · rw [if_neg (Ne.symm hne), h.kind p hmem]
    · rw [if_pos rfl]
    · rw [if_pos rfl]
  · intro p hp
    rw [lastIdentity?_append, if_neg (by simp)]
    rcases cases_of_mem_redeclare h.nodup hp with ⟨hmem, -⟩ | ⟨q, hq, -, rfl⟩ | ⟨hnew, rfl⟩
    · exact h.identity p hmem
    · exact h.identity q hq
    · -- A new name cannot be that of the identity.
      refine ⟨fun hfalse => absurd hfalse (by simp), fun hlast => ?_⟩
      exact absurd (h.mem_names_iff.2 (mem_of_lastIdentity? hlast)) hnew

/-- The identity that is declared is the only one. -/
theorem identify (h : e.Reflects ds) (name : String) (kind : PropertyKind) :
    (e.identify name kind).Reflects (ds ++ [⟨name, kind, true⟩]) := by
  have hchange (p : Property) : ({ p with kind, isIdentity := true } : Property).name = p.name :=
    rfl
  have hcleared : (e.properties.map fun p => { p with isIdentity := false }).map (·.name) =
      e.names := by
    simp [Entity.names, Function.comp_def]
  have hnames : (e.identify name kind).names =
      e.names ++ if name ∈ e.names then [] else [name] := by
    rw [← hcleared]
    exact map_name_redeclare hchange rfl
  obtain ⟨hnames, hnodup⟩ := h.names_declared (d := ⟨name, kind, true⟩) hnames
  have hmem {p : Property} (hp : p ∈ (e.identify name kind).properties) :=
    cases_of_mem_redeclare (hcleared ▸ h.nodup) hp
  refine { names_eq := hnames, nodup := hnodup, kind := ?_, identity := ?_ }
  · intro p hp
    rw [lastKind?_append]
    rcases hmem hp with ⟨hold, hne⟩ | ⟨q, -, rfl, rfl⟩ | ⟨-, rfl⟩
    · obtain ⟨q, hq, rfl⟩ := List.mem_map.1 hold
      rw [if_neg (Ne.symm hne), h.kind q hq]
    · rw [if_pos rfl]
    · rw [if_pos rfl]
  · intro p hp
    rw [lastIdentity?_append, if_pos rfl, Option.some.injEq]
    rcases hmem hp with ⟨hold, hne⟩ | ⟨q, -, rfl, rfl⟩ | ⟨-, rfl⟩
    · -- The mark of every other property was taken off.
      obtain ⟨q, hq, rfl⟩ := List.mem_map.1 hold
      exact ⟨fun hfalse => absurd hfalse (by simp), fun hsame => absurd hsame.symm hne⟩
    · simp
    · simp

/-- One more declaration keeps an entity as its declarations say. -/
theorem declareOne (h : e.Reflects ds) (d : Property) : (e.declareOne d).Reflects (ds ++ [d]) := by
  obtain ⟨name, kind, isIdentity⟩ := d
  cases isIdentity with
  | false => exact h.declare name kind
  | true => exact h.identify name kind

theorem declareAll (h : e.Reflects ds) (additions : List Property) :
    (e.declareAll additions).Reflects (ds ++ additions) := by
  induction additions generalizing e ds with
  | nil => simpa [Entity.declareAll] using h
  | cons d additions ih =>
    have hrest := ih (h.declareOne d)
    rwa [List.append_assoc, List.singleton_append] at hrest

end Reflects

/-- An entity is as the declarations say that it was built of. -/
theorem reflects_declareAll (region : String) (ds : List Property) :
    ((ofRegion region).declareAll ds).Reflects ds := by
  have hempty : (ofRegion region).Reflects [] :=
    { names_eq := rfl, nodup := List.nodup_nil, kind := by simp [ofRegion],
      identity := by simp [ofRegion] }
  simpa using hempty.declareAll ds

/-! ## Look-ups -/

/-- Where a test holds of one element at most, that one is found. -/
theorem find?_eq_some_iff_of_unique {α : Type} {as : List α} {test : α → Bool}
    (hunique : ∀ a ∈ as, ∀ b ∈ as, test a = true → test b = true → a = b) {a : α} :
    as.find? test = some a ↔ a ∈ as ∧ test a = true := by
  constructor
  · intro h
    exact ⟨List.mem_of_find?_eq_some h, List.find?_some h⟩
  · rintro ⟨ha, htest⟩
    obtain ⟨b, hb⟩ := Option.isSome_iff_exists.1 (List.find?_isSome.2 ⟨a, ha, htest⟩)
    rw [hb, hunique b (List.mem_of_find?_eq_some hb) a ha (List.find?_some hb) htest]

namespace Reflects

variable {p q : Property}

theorem eq_of_name_eq (h : e.Reflects ds) (hp : p ∈ e.properties) (hq : q ∈ e.properties)
    (hname : p.name = q.name) : p = q :=
  List.inj_on_of_nodup_map h.nodup hp hq hname

/-- The one declaration of a name is looked up under it. -/
theorem property?_eq_some_iff_mem (h : e.Reflects ds) {name : String} :
    e.property? name = some p ↔ p ∈ e.properties ∧ p.name = name := by
  have hunique : ∀ p ∈ e.properties, ∀ q ∈ e.properties, decide (p.name = name) = true →
      decide (q.name = name) = true → p = q := by
    intro p hp q hq hpname hqname
    exact h.eq_of_name_eq hp hq ((of_decide_eq_true hpname).trans (of_decide_eq_true hqname).symm)
  rw [property?, find?_eq_some_iff_of_unique hunique, decide_eq_true_eq]

theorem identity?_eq_some_iff_mem (h : e.Reflects ds) :
    e.identity? = some p ↔ p ∈ e.properties ∧ p.isIdentity = true := by
  refine find?_eq_some_iff_of_unique ?_
  intro p hp q hq hpidentity hqidentity
  -- Both have the name of the last identity.
  have hname := ((h.identity p hp).1 hpidentity).symm.trans ((h.identity q hq).1 hqidentity)
  exact h.eq_of_name_eq hp hq (Option.some.inj hname)

/-- The identity has the name that was declared as such last. -/
theorem map_name_identity? (h : e.Reflects ds) : e.identity?.map (·.name) = lastIdentity? ds := by
  rcases hlast : lastIdentity? ds with _ | name
  · rw [Option.map_eq_none_iff, Option.eq_none_iff_forall_ne_some]
    intro p hp
    obtain ⟨hmem, hidentity⟩ := h.identity?_eq_some_iff_mem.1 hp
    rw [h.identity p hmem, hlast] at hidentity
    cases hidentity
  · obtain ⟨p, hp, rfl⟩ := List.mem_map.1 (h.mem_names_iff.2 (mem_of_lastIdentity? hlast))
    rw [h.identity?_eq_some_iff_mem.2 ⟨hp, (h.identity p hp).2 hlast⟩]
    rfl

end Reflects

/-- An entity that is built of declarations, each of a plain property or of the identity, has one
property for each name, in the order in which the names were declared first. Its kind is that of the
last declaration of the name. The identity is the name that was declared as such last, and there is
none if no name was; plain declarations of a name do not change that. The look-ups find just
these. -/
theorem properties_declareAll (region : String) (ds : List Property) :
    let e := (ofRegion region).declareAll ds
    e.names = (ds.map (·.name)).eraseDups ∧ e.names.Nodup ∧
      (∀ p ∈ e.properties, lastKind? ds p.name = some p.kind ∧
        (p.isIdentity = true ↔ lastIdentity? ds = some p.name)) ∧
      (∀ name p, e.property? name = some p ↔ p ∈ e.properties ∧ p.name = name) ∧
      (∀ p, e.identity? = some p ↔ p ∈ e.properties ∧ p.isIdentity = true) ∧
      e.identity?.map (·.name) = lastIdentity? ds := by
  intro e
  have h : e.Reflects ds := reflects_declareAll region ds
  exact ⟨h.names_eq, h.nodup, fun p hp => ⟨h.kind p hp, h.identity p hp⟩,
    fun name p => h.property?_eq_some_iff_mem, fun p => h.identity?_eq_some_iff_mem,
    h.map_name_identity?⟩

/-- The identity stays where a plain property of its name was declared, and keeps its mark when its
kind is changed. -/
example :
    ((ofRegion "/People").declareAll [⟨"id", .string, false⟩, ⟨"age", .integer, true⟩,
        ⟨"id", .integer, true⟩, ⟨"id", .object, false⟩]).properties =
      [⟨"id", .object, true⟩, ⟨"age", .integer, false⟩] := by
  decide

end DerivedQuery.Entity
