import DerivedQuery.Entity.Resolution
import DerivedQuery.Proofs.Compilation.Faults
import DerivedQuery.Proofs.Text.Letters

/-!
# What a written property resolves to

The first word of a written property is looked up in three forms, and the words after it are added
behind the name that was found. The result must be a path once more, whose segments are then that
name and the words.

* `Entity.Hit`: the declaration that a word finds, and in which of its forms.
* `Entity.Resolution`, `Entity.Unresolved`: what a written property resolves to, and when to
  nothing.
* `Entity.hitName?`: a look-up reads the names of the declarations only.
* `Entity.declareAll`: an entity with further declarations, behind those it had.
* `Entity.resolve_outcome`: the path and the kind, the error, and what further declarations change.
-/

namespace DerivedQuery.Entity

open Text

variable {e : Entity} {word written : String} {p : Property}

/-! ## Hits -/

/-- The first property of an entity that a test holds of. -/
def IsFirst (e : Entity) (test : Property → Prop) (p : Property) : Prop :=
  ∃ before after, e.properties = before ++ p :: after ∧ test p ∧ ∀ q ∈ before, ¬test q

/-- A name without a dot that is the word up to the case of ASCII letters. -/
def Matches (word : String) (q : Property) : Prop :=
  '.' ∉ q.name.toList ∧ q.name.toList.map Char.toLower = word.toList.map Char.toLower

/-- The property that a word finds: each form is looked up where the forms before it are not
declared. -/
inductive Hit (e : Entity) (word : String) (p : Property) : Prop
  | camel (first : e.IsFirst (fun q => q.name = lowerCamel word) p)
  | snake (camel : ∀ q ∈ e.properties, q.name ≠ lowerCamel word)
      (first : e.IsFirst (fun q => q.name = Text.snake word) p)
  | anyCase (camel : ∀ q ∈ e.properties, q.name ≠ lowerCamel word)
      (snake : ∀ q ∈ e.properties, q.name ≠ Text.snake word)
      (first : e.IsFirst (Matches word) p)

/-- The word finds nothing. -/
structure Undeclared (e : Entity) (word : String) : Prop where
  camel : ∀ q ∈ e.properties, q.name ≠ lowerCamel word
  snake : ∀ q ∈ e.properties, q.name ≠ Text.snake word
  anyCase : ∀ q ∈ e.properties, ¬Matches word q

/-- A property that is found is one of the entity. -/
theorem IsFirst.mem {test : Property → Prop} (h : e.IsFirst test p) : p ∈ e.properties := by
  obtain ⟨before, after, hsplit, -⟩ := h
  rw [hsplit]
  exact List.mem_append_right before List.mem_cons_self

/-- Looking for a property stops at the first one that the test holds of. -/
theorem find?_eq_some_iff_isFirst {test : Property → Bool} :
    e.properties.find? test = some p ↔ e.IsFirst (fun q => test q = true) p := by
  simp only [List.find?_eq_some_iff_append, IsFirst, Bool.not_eq_true', Bool.not_eq_true]
  constructor
  · rintro ⟨hp, before, after, hsplit, hbefore⟩
    exact ⟨before, after, hsplit, hp, hbefore⟩
  · rintro ⟨before, after, hsplit, hp, hbefore⟩
    exact ⟨hp, before, after, hsplit, hbefore⟩

/-- A name finds the first property that is declared with it. -/
theorem property?_eq_some_iff {name : String} :
    e.property? name = some p ↔ e.IsFirst (fun q => q.name = name) p := by
  rw [property?, find?_eq_some_iff_isFirst]
  simp only [decide_eq_true_eq]

/-- A name finds nothing where no property is declared with it. -/
theorem property?_eq_none_iff {name : String} :
    e.property? name = none ↔ ∀ q ∈ e.properties, q.name ≠ name := by
  simp [property?]

/-- The test of the third form, as a statement. -/
theorem matches_iff {q : Property} :
    (!q.name.toList.contains '.' && sameIgnoringAsciiCase q.name word) = true ↔ Matches word q := by
  simp [Matches, sameIgnoringAsciiCase]

/-- The three forms are looked up in turn, which are the cases of a hit. -/
theorem declaredAs?_eq_some_iff : e.declaredAs? word = some p ↔ e.Hit word p := by
  simp only [declaredAs?, Option.or_eq_some_iff, property?_eq_some_iff, property?_eq_none_iff,
    find?_eq_some_iff_isFirst, matches_iff]
  constructor
  · rintro (hcamel | ⟨hnocamel, hsnake | ⟨hnosnake, hany⟩⟩)
    · exact .camel hcamel
    · exact .snake hnocamel hsnake
    · exact .anyCase hnocamel hnosnake hany
  · intro h
    cases h with
    | camel first => exact .inl first
    | snake camel first => exact .inr ⟨camel, .inl first⟩
    | anyCase camel snake first => exact .inr ⟨camel, .inr ⟨snake, first⟩⟩

/-- A word finds nothing where none of its forms does. -/
theorem declaredAs?_eq_none_iff : e.declaredAs? word = none ↔ e.Undeclared word := by
  simp only [declaredAs?, Option.or_eq_none_iff, property?_eq_none_iff, List.find?_eq_none,
    matches_iff]
  constructor
  · rintro ⟨hcamel, hsnake, hany⟩
    exact ⟨hcamel, hsnake, hany⟩
  · intro h
    exact ⟨h.camel, h.snake, h.anyCase⟩

namespace Hit

/-- The declaration that a word finds is one of the entity. -/
theorem mem (h : e.Hit word p) : p ∈ e.properties := by
  cases h with
  | camel first => exact first.mem
  | snake _ first => exact first.mem
  | anyCase _ _ first => exact first.mem

/-- The name that is found is one of the forms. -/
theorem name_cases (h : e.Hit word p) :
    p.name = lowerCamel word ∨ p.name = Text.snake word ∨ Matches word p := by
  cases h with
  | camel first =>
    obtain ⟨_, _, _, hname, _⟩ := first
    exact .inl hname
  | snake _ first =>
    obtain ⟨_, _, _, hname, _⟩ := first
    exact .inr (.inl hname)
  | anyCase _ _ first =>
    obtain ⟨_, _, _, hmatches, _⟩ := first
    exact .inr (.inr hmatches)

/-- No word finds a property with a dot in its name. -/
theorem undotted (h : e.Hit word p) : '.' ∉ p.name.toList := by
  -- A dotted name could be declared, but neither form of a word has a dot.
  rcases h.name_cases with hname | hname | hmatches
  · rw [hname]
    exact dot_not_mem_lowerCamel word
  · rw [hname]
    exact dot_not_mem_snake word
  · exact hmatches.1

/-- What an ASCII word finds has the letters and digits of the word. -/
theorem nameLetters_eq (h : e.Hit word p) (hascii : ∀ c ∈ word.toList, c.toNat < 0x80) :
    nameLetters p.name = nameLetters word := by
  rcases h.name_cases with hname | hname | hmatches
  · rw [hname, nameLetters_lowerCamel fun c hc _ => hascii c hc]
  · rw [hname, nameLetters_snake fun c hc _ => hascii c hc]
  · exact nameLetters_congr hmatches.2

end Hit

/-! ## Resolutions -/

/-- What stands between `_` in a written property, wherever something does. -/
def namedPieces (written : String) : List String :=
  ((written.toList.splitOn '_').filter (· ≠ [])).map String.ofList

/-- A written property that starts at the declaration `p` and goes on through `inner`. -/
structure Resolution (e : Entity) (written : String) (path : PropertyPath) (kind : PropertyKind)
    (first : String) (inner : List String) (p : Property) : Prop where
  pieces : namedPieces written = first :: inner
  declared : p ∈ e.properties
  hit : e.Hit first p
  undotted : '.' ∉ p.name.toList
  letters : (∀ c ∈ written.toList, c.toNat < 0x80) → nameLetters p.name = nameLetters first
  segments : path.segments = p.name :: inner.map lowerCamel
  kind_of_single : inner = [] → kind = p.kind
  kind_of_nested : inner ≠ [] →
    (∃ q, e.IsFirst (fun q => q.name = path.text) q ∧ kind = q.kind) ∨
      (∀ q ∈ e.properties, q.name ≠ path.text) ∧ kind = .object

/-- A written property that resolves to nothing. -/
inductive Unresolved (e : Entity) (written : String) : Prop
  | empty (pieces : namedPieces written = [])
  | undeclared {first : String} {inner : List String}
      (pieces : namedPieces written = first :: inner) (missing : e.Undeclared first)
  | malformed {first : String} {inner : List String} {p : Property} {err : QueryError}
      (pieces : namedPieces written = first :: inner) (hit : e.Hit first p)
      (refused : PropertyPath.parse (".".intercalate (p.name :: inner.map lowerCamel)) = .error err)

/-- The steps of a written property are the pieces that are not empty. -/
theorem steps_eq (written : String) : steps written = namedPieces written := by
  simp only [steps, namedPieces, pieces_eq_splitOn]
  congr 1
  refine List.filter_congr fun piece _ => ?_
  cases piece <;> rfl

/-- The characters of the first word are characters of the text, and none of them is `_`. -/
theorem mem_of_mem_first {first : String} {inner : List String}
    (h : namedPieces written = first :: inner) :
    ∀ c ∈ first.toList, c ∈ written.toList ∧ c ≠ '_' := by
  intro c hc
  have hfirst : first ∈ namedPieces written := by
    rw [h]
    exact List.mem_cons_self
  simp only [namedPieces, ← pieces_eq_splitOn, List.mem_map, List.mem_filter] at hfirst
  obtain ⟨cs, ⟨hcs, -⟩, rfl⟩ := hfirst
  rw [String.toList_ofList] at hc
  constructor
  · -- The text is put together from its pieces again, so that each has only characters of it.
    rw [← intercalate_pieces '_' written.toList]
    exact mem_intercalate_of_mem hcs hc
  · rintro rfl
    exact not_mem_of_mem_pieces cs hcs hc

/-- A path is read behind the declaration that the first word finds. -/
theorem read_dotted_iff {path : PropertyPath} {inner : List String} (h : e.Hit word p) :
    PropertyPath.read (dotted p inner) = .ok path ↔
      path.segments = p.name :: inner.map lowerCamel := by
  refine PropertyPath.read_dotted_eq_ok_iff (List.cons_ne_nil _ _) ?_
  -- Neither the name that was found nor a converted word brings a dot of its own.
  refine List.forall_mem_cons.2 ⟨h.undotted, ?_⟩
  intro segment hsegment
  obtain ⟨piece, -, rfl⟩ := List.mem_map.1 hsegment
  exact dot_not_mem_lowerCamel piece

/-- Nothing but `_` is resolved to nothing. -/
theorem resolve?_of_nil (h : namedPieces written = []) : e.resolve? written = none := by
  rw [resolve?, steps_eq, h]

/-- The first word is looked up, and what it finds is read with the other words behind it. -/
theorem resolve?_of_cons {first : String} {inner : List String}
    (h : namedPieces written = first :: inner) :
    e.resolve? written = (e.declaredAs? first).bind fun p =>
      (PropertyPath.read (dotted p inner)).toOption.map fun path => (path, e.kindAt p inner) := by
  rw [resolve?, steps_eq, h]
  simp only [Option.map_eq_bind]
  rfl

/-- A property resolves where its first word finds a declaration and the dotted text is a path. -/
theorem resolve?_eq_some_iff {path : PropertyPath} {kind : PropertyKind} :
    e.resolve? written = some (path, kind) ↔
      ∃ first inner p, namedPieces written = first :: inner ∧ e.Hit first p ∧
        path.segments = p.name :: inner.map lowerCamel ∧ kind = e.kindAt p inner := by
  rcases hpieces : namedPieces written with _ | ⟨first, inner⟩
  · simp [resolve?_of_nil hpieces]
  · simp only [resolve?_of_cons hpieces, Option.bind_eq_some_iff, declaredAs?_eq_some_iff,
      Option.map_eq_some_iff, toOption_eq_some_iff, Prod.mk.injEq]
    constructor
    · rintro ⟨p, hit, path, hread, rfl, rfl⟩
      exact ⟨first, inner, p, rfl, hit, (read_dotted_iff hit).1 hread, rfl⟩
    · rintro ⟨_, _, p, hcons, hit, hsegments, rfl⟩
      obtain ⟨rfl, rfl⟩ := List.cons_eq_cons.1 hcons
      exact ⟨p, hit, path, (read_dotted_iff hit).2 hsegments, rfl, rfl⟩

/-- The kind is that of the declaration at the end of the path. -/
theorem eq_kindAt_iff {path : PropertyPath} {kind : PropertyKind} {inner : List String}
    (hsegments : path.segments = p.name :: inner.map lowerCamel) :
    kind = e.kindAt p inner ↔
      (inner = [] → kind = p.kind) ∧
        (inner ≠ [] → (∃ q, e.IsFirst (fun q => q.name = path.text) q ∧ kind = q.kind) ∨
          (∀ q ∈ e.properties, q.name ≠ path.text) ∧ kind = .object) := by
  have htext : path.text = dotted p inner := by
    rw [PropertyPath.text, hsegments, dotted]
  rw [htext]
  cases inner with
  | nil => simp [kindAt]
  -- A property that is declared under the whole path gives its kind; else it is an object.
  | cons piece inner =>
    simp only [kindAt, ← property?_eq_some_iff, ← property?_eq_none_iff, reduceCtorEq,
      false_implies, true_and, ne_eq, not_false_eq_true, true_implies]
    cases e.property? (dotted p (piece :: inner)) <;> simp

/-- A resolution is just what a written property resolves to. -/
theorem resolve_eq_ok_iff_resolution {path : PropertyPath} {kind : PropertyKind} :
    e.resolve written = .ok (path, kind) ↔
      ∃ first inner p, Resolution e written path kind first inner p := by
  rw [resolve_eq_ok_iff, resolve?_eq_some_iff]
  constructor
  · rintro ⟨first, inner, p, hpieces, hit, hsegments, hkind⟩
    obtain ⟨hsingle, hnested⟩ := (eq_kindAt_iff hsegments).1 hkind
    refine ⟨first, inner, p, hpieces, hit.mem, hit, hit.undotted, ?_, hsegments, hsingle, hnested⟩
    intro hascii
    exact hit.nameLetters_eq fun c hc => hascii c (mem_of_mem_first hpieces c hc).1
  · rintro ⟨first, inner, p, h⟩
    exact ⟨first, inner, p, h.pieces, h.hit, h.segments,
      (eq_kindAt_iff h.segments).2 ⟨h.kind_of_single, h.kind_of_nested⟩⟩

/-- A path is refused as a step of a request where it is not read. -/
theorem exists_parse_eq_error_iff {path : String} :
    (∃ err, PropertyPath.parse path = .error err) ↔
      (PropertyPath.read path).toOption = none := by
  rw [toOption_eq_none_iff, PropertyPath.parse]
  cases PropertyPath.read path <;> simp [Except.mapError]

/-- There are three ways to resolve to nothing: no word, no declaration, no path. -/
theorem resolve?_eq_none_iff : e.resolve? written = none ↔ Unresolved e written := by
  constructor
  · -- The look-up passes its stages in the order of the three ways.
    intro h
    rcases hpieces : namedPieces written with _ | ⟨first, inner⟩
    · exact .empty hpieces
    · rw [resolve?_of_cons hpieces] at h
      rcases hfound : e.declaredAs? first with _ | p
      · exact .undeclared hpieces (declaredAs?_eq_none_iff.1 hfound)
      · rw [hfound, Option.bind_some, Option.map_eq_none_iff] at h
        obtain ⟨err, refused⟩ := exists_parse_eq_error_iff.2 h
        exact .malformed hpieces (declaredAs?_eq_some_iff.1 hfound) refused
  · intro h
    cases h with
    | empty hpieces => exact resolve?_of_nil hpieces
    | undeclared hpieces missing =>
      rw [resolve?_of_cons hpieces, declaredAs?_eq_none_iff.2 missing, Option.bind_none]
    | malformed hpieces hit refused =>
      rw [resolve?_of_cons hpieces, declaredAs?_eq_some_iff.2 hit, Option.bind_some, dotted,
        exists_parse_eq_error_iff.1 ⟨_, refused⟩, Option.map_none]

/-- The error always names the property as it was written. -/
theorem resolve_eq_error_iff_unresolved {err : QueryError} :
    e.resolve written = .error err ↔
      Unresolved e written ∧ err = .noSuchProperty written e.region := by
  rw [resolve_eq_error_iff, resolve?_eq_none_iff]

/-! ## Further declarations -/

/-- The names of the declarations, in order. -/
def names (e : Entity) : List String :=
  e.properties.map (·.name)

/-- The name that a word finds among the declared ones. -/
def hitName? (names : List String) (word : String) : Option String :=
  if lowerCamel word ∈ names then some (lowerCamel word)
  else if Text.snake word ∈ names then some (Text.snake word)
  else names.find? fun name => !name.toList.contains '.' && sameIgnoringAsciiCase name word

/-- Looking up a name tells no more of it than whether it is declared. -/
theorem map_name_property? (e : Entity) (name : String) :
    (e.property? name).map (·.name) = if name ∈ e.names then some name else none := by
  rcases hfound : e.property? name with _ | q
  · rw [property?_eq_none_iff] at hfound
    rw [if_neg]
    · rfl
    · intro hmem
      obtain ⟨q, hq, hname⟩ := List.mem_map.1 hmem
      exact hfound q hq hname
  · rw [property?_eq_some_iff] at hfound
    have hmem : q.name ∈ e.names := List.mem_map_of_mem hfound.mem
    obtain ⟨_, _, _, rfl, _⟩ := hfound
    rw [if_pos hmem]
    rfl

/-- Which name a word finds depends on the declared names only. -/
theorem map_name_declaredAs? (e : Entity) (word : String) :
    (e.declaredAs? word).map (·.name) = hitName? e.names word := by
  -- The forms are tried in sequence, where `hitName?` branches.
  have hor {c : Prop} [Decidable c] (name : String) (rest : Option String) :
      (if c then some name else none).or rest = if c then some name else rest := by
    split <;> rfl
  rw [declaredAs?, Option.map_or, Option.map_or, map_name_property?, map_name_property?, hor, hor,
    hitName?, names, List.find?_map]
  rfl

/-- A written property resolves where a name is found that makes a path with the other words. -/
theorem exists_resolve_iff :
    (∃ found, e.resolve written = .ok found) ↔
      ∃ first inner name, namedPieces written = first :: inner ∧
        hitName? e.names first = some name ∧
        ∀ segment ∈ name :: inner.map lowerCamel, isIdentifier segment.toList = true := by
  simp only [resolve_eq_ok_iff, Prod.exists, resolve?_eq_some_iff, ← map_name_declaredAs?,
    Option.map_eq_some_iff, declaredAs?_eq_some_iff, ← PropertyPath.exists_segments_eq_iff]
  constructor
  · rintro ⟨path, kind, first, inner, p, hpieces, hit, hsegments, -⟩
    exact ⟨first, inner, p.name, hpieces, ⟨p, hit, rfl⟩, path, hsegments⟩
  · rintro ⟨first, inner, _, hpieces, ⟨p, hit, rfl⟩, path, hsegments⟩
    exact ⟨path, _, first, inner, p, hpieces, hit, hsegments, rfl⟩

/-- A name that differs from a word in case only is an identifier where the word is one. -/
theorem isIdentifier_of_sameIgnoringAsciiCase {name : String}
    (h : sameIgnoringAsciiCase name word = true) (hname : isIdentifier name.toList = true) :
    isIdentifier word.toList = true := by
  simp only [sameIgnoringAsciiCase, decide_eq_true_eq] at h
  rw [← isIdentifier_map_toLower, ← h, isIdentifier_map_toLower, hname]

/-- Where names are added behind others, a word still finds a name. If it found an identifier, it
still does, unless its lower camel case is added and is none. -/
theorem hitName?_append {declared : List String} (added : List String) {name : String}
    (hsep : '_' ∉ word.toList) (h : hitName? declared word = some name)
    (hname : isIdentifier name.toList = true) :
    ∃ found, hitName? (declared ++ added) word = some found ∧
      (isIdentifier found.toList = true ∨ lowerCamel word ∈ added ∧
        kelvinSign ∈ word.toList ∧ isIdentifier (lowerCamel word).toList = false) := by
  simp only [hitName?, List.mem_append, List.find?_append] at h ⊢
  -- The form that was found decides which forms may come in front of it among the added names.
  by_cases hcamel : lowerCamel word ∈ declared
  · rw [if_pos hcamel] at h
    obtain rfl := Option.some.inj h
    exact ⟨_, if_pos (.inl hcamel), .inl hname⟩
  · rw [if_neg hcamel] at h
    by_cases hsnake : Text.snake word ∈ declared
    · rw [if_pos hsnake] at h
      obtain rfl := Option.some.inj h
      -- Added in snake case it would come behind; added in lower camel case it comes in front.
      by_cases hadded : lowerCamel word ∈ added
      · refine ⟨lowerCamel word, if_pos (.inr hadded), ?_⟩
        cases hform : isIdentifier (lowerCamel word).toList with
        | true => exact .inl rfl
        | false => exact .inr ⟨hadded, kelvinSign_mem_of_isIdentifier_snake hname hform, rfl⟩
      · refine ⟨Text.snake word, ?_, .inl hname⟩
        rw [if_neg (by simp [hcamel, hadded]), if_pos (.inl hsnake)]
    · -- The word is the name up to case, and so both of its other forms are identifiers.
      rw [if_neg hsnake] at h
      have hsame := List.find?_some h
      rw [Bool.and_eq_true] at hsame
      have hforms := isIdentifier_forms
        (isIdentifier_of_sameIgnoringAsciiCase hsame.2 hname) hsep
      -- Any of its forms that is added in front is an identifier, so that nothing is lost.
      rw [h, Option.some_or]
      split
      · exact ⟨lowerCamel word, rfl, .inl hforms.1⟩
      · split
        · exact ⟨Text.snake word, rfl, .inl hforms.2⟩
        · exact ⟨name, rfl, .inl hname⟩

/-- The entity with a property declared, be it the identity or not. -/
def declareOne (e : Entity) (q : Property) : Entity :=
  if q.isIdentity then e.identify q.name q.kind else e.declare q.name q.kind

/-- The entity with further properties declared, one after the other. -/
def declareAll (e : Entity) (additions : List Property) : Entity :=
  additions.foldl declareOne e

/-- A name that is declared already stays in its place; another one comes last. -/
theorem names_redeclare {name : String} (change : Property → Property) (fresh : Property)
    (hchange : ∀ q, (change q).name = q.name) (hfresh : fresh.name = name) (ps : List Property) :
    (redeclare name change fresh ps).map (·.name) = ps.map (·.name) ∨
      (redeclare name change fresh ps).map (·.name) = ps.map (·.name) ++ [name] := by
  induction ps with
  | nil => exact .inr (by simp [redeclare, hfresh])
  | cons q ps ih =>
    rw [redeclare]
    split
    · exact .inl (by simp [hchange])
    · rcases ih with hsame | hnew
      · left
        rw [List.map_cons, hsame, List.map_cons]
      · right
        rw [List.map_cons, hnew, List.map_cons, List.cons_append]

/-- A declaration adds its name behind the others, or changes none. -/
theorem names_declareOne (e : Entity) (q : Property) :
    (e.declareOne q).names = e.names ∨ (e.declareOne q).names = e.names ++ [q.name] := by
  unfold declareOne
  split
  · -- Of the other properties an identity takes its mark away, and leaves their names.
    have hnames : (e.properties.map fun p => { p with isIdentity := false }).map (·.name) =
        e.names := by
      simp [names, Function.comp_def]
    rw [← hnames]
    exact names_redeclare (fun p => { p with kind := q.kind, isIdentity := true })
      ⟨q.name, q.kind, true⟩ (fun _ => rfl) rfl _
  · exact names_redeclare (fun p => { p with kind := q.kind })
      ⟨q.name, q.kind, false⟩ (fun _ => rfl) rfl e.properties

/-- Further declarations change no name of an entity and add theirs behind. -/
theorem names_declareAll (e : Entity) (additions : List Property) :
    ∃ added, (e.declareAll additions).names = e.names ++ added ∧
      ∀ name ∈ added, name ∈ additions.map (·.name) := by
  induction additions generalizing e with
  | nil => exact ⟨[], by simp [declareAll], by simp⟩
  | cons q additions ih =>
    -- The first declaration adds at most its own name; what comes behind it is the induction's.
    obtain ⟨added, hadded, hmem⟩ := ih (e.declareOne q)
    have hlater : ∀ name ∈ added, name ∈ (q :: additions).map (·.name) := fun name hname =>
      List.mem_cons_of_mem _ (hmem name hname)
    have hunfold : e.declareAll (q :: additions) = (e.declareOne q).declareAll additions := rfl
    rw [hunfold, hadded]
    rcases names_declareOne e q with hsame | hnew
    · rw [hsame]
      exact ⟨added, rfl, hlater⟩
    · rw [hnew, List.append_assoc]
      refine ⟨q.name :: added, rfl, List.forall_mem_cons.2 ⟨?_, hlater⟩⟩
      exact List.mem_map_of_mem List.mem_cons_self

/-- A property that resolves still does after further declarations, or they declare its first word
in a lower camel case that is no identifier. -/
theorem resolve_declareAll {found : PropertyPath × PropertyKind} (additions : List Property)
    (h : e.resolve written = .ok found) :
    (∃ found, (e.declareAll additions).resolve written = .ok found) ∨
      ∃ first inner, namedPieces written = first :: inner ∧
        lowerCamel first ∈ additions.map (·.name) ∧ kelvinSign ∈ first.toList ∧
        isIdentifier (lowerCamel first).toList = false := by
  obtain ⟨first, inner, name, hpieces, hname, hsegments⟩ := exists_resolve_iff.1 ⟨found, h⟩
  obtain ⟨added, hadded, hmem⟩ := names_declareAll e additions
  -- Only the first word is looked up, and its other segments do not depend on the entity.
  rw [List.forall_mem_cons] at hsegments
  have hsep : '_' ∉ first.toList := fun hc => (mem_of_mem_first hpieces '_' hc).2 rfl
  obtain ⟨other, hother, hcase⟩ := hitName?_append added hsep hname hsegments.1
  rcases hcase with hidentifier | ⟨hcamel, hkelvin, hform⟩
  · left
    rw [exists_resolve_iff]
    refine ⟨first, inner, other, hpieces, ?_, List.forall_mem_cons.2 ⟨hidentifier, hsegments.2⟩⟩
    rw [hadded, hother]
  · exact .inr ⟨first, inner, hpieces, hmem _ hcamel, hkelvin, hform⟩

/-! ## Outcome -/

/-- What a written property resolves to, and when to nothing. Further declarations leave it
resolvable, unless they declare its first word in a lower camel case with a kelvin sign, which is
found first and makes no path. -/
theorem resolve_outcome (e : Entity) (written : String) :
    (∀ path kind, e.resolve written = .ok (path, kind) ↔
      ∃ first inner p, Resolution e written path kind first inner p) ∧
    (∀ err, e.resolve written = .error err ↔
      Unresolved e written ∧ err = .noSuchProperty written e.region) ∧
    ∀ found additions, e.resolve written = .ok found →
      (∃ found, (e.declareAll additions).resolve written = .ok found) ∨
        ∃ first inner, namedPieces written = first :: inner ∧
          lowerCamel first ∈ additions.map (·.name) ∧ kelvinSign ∈ first.toList ∧
          isIdentifier (lowerCamel first).toList = false := by
  refine ⟨fun path kind => resolve_eq_ok_iff_resolution,
    fun err => resolve_eq_error_iff_unresolved, ?_⟩
  intro found additions h
  exact resolve_declareAll additions h

/-- A property below an object, one that is not declared, and one that is found before and after
another is declared. -/
theorem resolve_outcome_address :
    (∃ first inner p, Resolution ⟨"People", [⟨"address", .object, false⟩]⟩ "Address_ZipCode"
      ⟨⟨"address", by decide⟩, [⟨"zipCode", by decide⟩]⟩ .object first inner p) ∧
    Unresolved ⟨"People", [⟨"address", .object, false⟩]⟩ "Nickname" ∧
    ∃ found, (declareAll ⟨"People", [⟨"address", .object, false⟩]⟩
      [⟨"Address", .string, true⟩]).resolve "Address" = .ok found := by
  -- The three results are computed; the theorem says what they mean.
  have hnested : resolve ⟨"People", [⟨"address", .object, false⟩]⟩ "Address_ZipCode" =
      .ok (⟨⟨"address", by decide⟩, [⟨"zipCode", by decide⟩]⟩, .object) :=
    eq_ok_of_toOption (by decide +kernel)
  have hmissing : resolve ⟨"People", [⟨"address", .object, false⟩]⟩ "Nickname" =
      .error (.noSuchProperty "Nickname" "People") := by
    rw [resolve_eq_error_iff]
    exact ⟨by decide +kernel, rfl⟩
  have hsingle : resolve ⟨"People", [⟨"address", .object, false⟩]⟩ "Address" =
      .ok (⟨⟨"address", by decide⟩, []⟩, .object) :=
    eq_ok_of_toOption (by decide +kernel)
  have haddress : namedPieces "Address" = ["Address"] := by
    decide +kernel
  refine ⟨((resolve_outcome _ _).1 _ _).1 hnested,
    (((resolve_outcome _ _).2.1 _).1 hmissing).1, ?_⟩
  rcases (resolve_outcome _ _).2.2 _ [⟨"Address", .string, true⟩] hsingle with
    hfound | ⟨first, inner, hpieces, -, hkelvin, -⟩
  · exact hfound
  · rw [haddress] at hpieces
    obtain ⟨rfl, rfl⟩ := List.cons_eq_cons.1 hpieces
    -- The exception would need a kelvin sign in an ASCII word.
    exact absurd hkelvin (by decide)

/-- A property that the snake case finds is lost behind one that the lower camel case finds, if a
word begins with the kelvin sign. -/
theorem lost_by_declaring :
    ((Entity.mk "People" [⟨"a_k", .string, false⟩]).resolve "a\u212a").isOk = true ∧
      (((Entity.mk "People" [⟨"a_k", .string, false⟩]).declareAll
        [⟨"a\u212a", .string, false⟩]).resolve "a\u212a").isOk = false := by
  have hpieces : namedPieces "a\u212a" = ["a\u212a"] := by
    decide +kernel
  have hfound : (Entity.mk "People" [⟨"a_k", .string, false⟩]).declaredAs? "a\u212a" =
      some ⟨"a_k", .string, false⟩ := by
    -- The tables of letters are not evaluated here, only the forms that were computed from them.
    rw [declaredAs?, lowerCamel_kelvin, snake_kelvin]
    decide
  have hlost : ((Entity.mk "People" [⟨"a_k", .string, false⟩]).declareAll
      [⟨"a\u212a", .string, false⟩]).declaredAs? "a\u212a" = some ⟨"a\u212a", .string, false⟩ := by
    rw [declaredAs?, lowerCamel_kelvin]
    decide
  rw [resolve, resolve, resolve?_of_cons hpieces, resolve?_of_cons hpieces, hfound, hlost]
  decide +kernel

end DerivedQuery.Entity
