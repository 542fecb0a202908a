import DerivedQuery.Proofs.Compilation.Faults
import DerivedQuery.Proofs.Method.InsertedText
import DerivedQuery.Proofs.MethodName.AllIgnoreCase

/-!
# Methods in which all criteria ignore case

`AllIgnoreCase` can be added to the criteria of a method without risk: it applies where a text is
tested for equality, and only there.

* `MethodName.write`: the groups of a name as text, from the text of each term.
* `Term.textIgnoringCase`: a term as it is written with the keyword.
* `compilable_ignoringCase_iff`: a name compiles with the keyword if it does without.
* `Method.createQuery_allIgnoreCase`: methods and their queries with and without the keyword.
-/

namespace DerivedQuery

open MethodName Statement

/-! ## Terms -/

section Terms

variable {e : Entity}

/-- Of the tests that a kind supports, those for equality can ignore case in texts. -/
theorem Term.supports_ignoringCase (t : Term) (kind : PropertyKind) :
    t.operator.supports kind (t.ignoringCase.asksIgnoreCase kind) =
      t.operator.supports kind (t.asksIgnoreCase kind) := by
  obtain ⟨property, operator, mode⟩ := t
  cases mode with
  | always | whenPossible => rfl
  | never => cases operator <;> cases kind <;> rfl

theorem Term.isSupported_ignoringCase_iff {t : Term} :
    t.ignoringCase.IsSupported e ↔ t.IsSupported e := by
  have hsupports (path : PropertyPath) (kind : PropertyKind) :
      (e.resolve? t.ignoringCase.property = some (path, kind) ∧
        t.ignoringCase.operator.supports kind (t.ignoringCase.asksIgnoreCase kind) = true) ↔
      (e.resolve? t.property = some (path, kind) ∧
        t.operator.supports kind (t.asksIgnoreCase kind) = true) := by
    rw [← t.supports_ignoringCase kind]
    rfl
  simp only [IsSupported, hsupports]

theorem argumentCount_map_ignoringCase (ts : List Term) :
    argumentCount (ts.map Term.ignoringCase) = argumentCount ts := by
  induction ts with
  | nil => rfl
  | cons t ts ih => exact congrArg (t.operator.arity + ·) ih

/-- The elements of a list are changed before they are numbered. -/
theorem mapIdx_map {α β γ : Type} (f : Nat → β → γ) (g : α → β) (as : List α) :
    (as.map g).mapIdx f = as.mapIdx fun i a => f i (g a) := by
  simp [List.mapIdx_eq_iff, Function.comp_def]

/-- The arguments are bound alike. -/
theorem bindingsFrom_map_ignoringCase (first : Nat) (ts : List Term) :
    bindingsFrom first (ts.map Term.ignoringCase) = bindingsFrom first ts := by
  have howners : owners (ts.map Term.ignoringCase) = (owners ts).map Term.ignoringCase := by
    simp only [owners, List.flatMap_map, List.map_flatMap, List.map_replicate]
    rfl
  unfold bindingsFrom
  rw [howners, mapIdx_map]
  rfl

theorem Compilable.groups_ne_nil {n : MethodName} {max : Nat} (h : Compilable e n max) :
    n.groups ≠ [] := by
  intro hnil
  exact h.criteria (by rw [MethodName.terms, hnil, List.flatten_nil])

theorem termsFit_map_ignoringCase_iff {ts : List Term} {max : Nat} :
    TermsFit e max (ts.map Term.ignoringCase) ↔ TermsFit e max ts := by
  have hcount := argumentCount_map_ignoringCase ts
  constructor
  · rintro ⟨hsupported, hle⟩
    refine ⟨fun t ht => ?_, hcount ▸ hle⟩
    exact Term.isSupported_ignoringCase_iff.1 (hsupported _ (List.mem_map_of_mem ht))
  · rintro ⟨hsupported, hle⟩
    refine ⟨List.forall_mem_map.2 fun t ht => ?_, hcount.symm ▸ hle⟩
    exact Term.isSupported_ignoringCase_iff.2 (hsupported t ht)

/-- A name compiles with the keyword if it does without. -/
theorem compilable_ignoringCase_iff {n : MethodName} {max : Nat} :
    Compilable e n.ignoringCase max ↔ Compilable e n max := by
  have hterms := terms_ignoringCase n
  have hne : n.ignoringCase.terms ≠ [] ↔ n.terms ≠ [] := by
    rw [hterms, ne_eq, List.map_eq_nil_iff]
  have hfit : TermsFit e max n.ignoringCase.terms ↔ TermsFit e max n.terms := by
    rw [hterms, termsFit_map_ignoringCase_iff]
  constructor
  · rintro ⟨hcriteria, hterms, hregion, horder⟩
    exact ⟨hne.1 hcriteria, hfit.1 hterms, hregion, horder⟩
  · rintro ⟨hcriteria, hterms, hregion, horder⟩
    exact ⟨hne.2 hcriteria, hfit.2 hterms, hregion, horder⟩

end Terms

/-! ## Texts -/

/-- The groups with `OR` between them and `AND` between their terms, where each term is written with
the number of its first argument. -/
def MethodName.write (n : MethodName) (text : Term → Nat → String) : String :=
  " OR ".intercalate <| n.groups.mapIdx fun g group =>
    " AND ".intercalate <| group.mapIdx fun i t =>
      text t (1 + argumentCount ((n.groups.take g).flatten ++ group.take i))

/-- A term on a property of `x` in a name with the keyword. A text that is tested for equality is
tested without regard to case; any other term, and one with a mode of its own, is written as in a
name without the keyword. -/
def Term.textIgnoringCase (t : Term) (path : PropertyPath) (kind : PropertyKind) (first : Nat) :
    String :=
  if t.mode = .never ∧ (t.operator = .equals ∨ t.operator = .notEquals) ∧ kind = .string then
    (if t.operator = .notEquals then "NOT " else "") ++ "x." ++ path.text ++ ".equalsIgnoreCase(" ++
      Criterion.placeholder first ++ ")"
  else t.text path kind first

namespace Reading

variable {e : Entity} {n : MethodName}

/-- A term in a name with the keyword, its placeholders numbered from `first` on. -/
def textIgnoringCase (r : Reading e n) (t : Term) (first : Nat) : String :=
  t.textIgnoringCase (r.property t.property).1 (r.property t.property).2 first

theorem whereText_eq_write (r : Reading e n) : r.whereText = n.write r.termText :=
  rfl

end Reading

theorem MethodName.write_congr {n : MethodName} {text text' : Term → Nat → String}
    (h : ∀ t ∈ n.terms, ∀ first, text t first = text' t first) : n.write text = n.write text' := by
  have hgroup (group : List Term) (hgroup : group ∈ n.groups) (before : List Term) :
      (group.mapIdx fun i t => text t (1 + argumentCount (before ++ group.take i))) =
        group.mapIdx fun i t => text' t (1 + argumentCount (before ++ group.take i)) := by
    rw [List.mapIdx_eq_mapIdx_iff]
    intro i hi
    exact h _ (List.mem_flatten_of_mem hgroup (List.getElem_mem hi)) _
  unfold write
  congr 1
  rw [List.mapIdx_eq_mapIdx_iff]
  intro g hg
  rw [hgroup _ (List.getElem_mem hg)]

/-- The keyword changes how terms are written, and not where they stand. -/
theorem MethodName.write_ignoringCase (n : MethodName) (text : Term → Nat → String) :
    n.ignoringCase.write text = n.write fun t first => text t.ignoringCase first := by
  unfold write ignoringCase
  simp only [mapIdx_map, ← List.map_take, ← List.map_flatten, ← List.map_append,
    argumentCount_map_ignoringCase]

/-- A term that ignores case where it can is written as the keyword asks for. -/
theorem Term.text_ignoringCase (t : Term) (path : PropertyPath) (kind : PropertyKind)
    (first : Nat) : t.ignoringCase.text path kind first = t.textIgnoringCase path kind first := by
  obtain ⟨property, operator, mode⟩ := t
  cases mode with
  | always | whenPossible => rfl
  | never =>
    by_cases h : (operator = .equals ∨ operator = .notEquals) ∧ kind = .string
    · obtain ⟨rfl | rfl, rfl⟩ := h <;> rfl
    · -- The term asks for nothing, with the mode or without.
      have hasks : (ignoringCase ⟨property, operator, .never⟩).asksIgnoreCase kind = false := by
        simpa [asksIgnoreCase, ignoringCase] using h
      have hnever : asksIgnoreCase ⟨property, operator, .never⟩ kind = false := by
        simp [asksIgnoreCase]
      rw [textIgnoringCase, if_neg (by simpa using h), text, text, hasks, hnever]
      rfl

namespace Reading

variable {e : Entity} {n : MethodName}

/-- The properties of a name are those of the name with the keyword. -/
theorem property_eq (r : Reading e n) (r' : Reading e n.ignoringCase) {t : Term}
    (ht : t ∈ n.terms) : r'.property t.property = r.property t.property := by
  have hmem : t.ignoringCase ∈ n.ignoringCase.terms := by
    rw [terms_ignoringCase]
    exact List.mem_map_of_mem ht
  have hterm := r'.term_eq _ hmem
  exact Except.ok.inj (hterm.symm.trans (r.term_eq t ht))

theorem whereText_ignoringCase (r : Reading e n) (r' : Reading e n.ignoringCase) :
    r'.whereText = n.write r.textIgnoringCase := by
  rw [whereText_eq_write, write_ignoringCase]
  apply write_congr
  intro t ht first
  have hproperty := r.property_eq r' ht
  rw [termText, Term.text_ignoringCase, textIgnoringCase, ← hproperty]
  rfl

theorem staticKeys_ignoringCase (r : Reading e n) (r' : Reading e n.ignoringCase) :
    r'.staticKeys = r.staticKeys := by
  unfold staticKeys
  apply List.map_congr_left
  intro o ho
  rw [Except.ok.inj ((r'.key_eq o ho).symm.trans (r.key_eq o ho))]

theorem region_ignoringCase (r : Reading e n) (r' : Reading e n.ignoringCase) :
    r'.region = r.region :=
  Except.ok.inj (r'.region_eq.symm.trans r.region_eq)

end Reading

/-! ## Methods -/

namespace Method

variable {name : String} {parameterCount : Nat} {e : Entity} {options : Options}

/-- A method without a query among its options is derived from its name. -/
theorem derived_of_make_of_query (hquery : options.query = none) {m : Method}
    (h : make name parameterCount e options = .ok m) :
    ∃ n, m = ⟨name, parameterCount, e, options, .derived n⟩ ∧ parse name = .ok n ∧
      ∃ c, Compilation.compile e n (some parameterCount) .unsorted = .ok c := by
  obtain ⟨-, origin, horigin, rfl⟩ := make_eq_ok_iff.1 h
  obtain ⟨n, hn, hc, rfl⟩ := (findOrigin_eq_ok_iff hquery).1 horigin
  exact ⟨n, rfl, hn, hc⟩

/-- A method without a query among its options is made when its name can be parsed and compiles. -/
theorem exists_make_iff (hquery : options.query = none) :
    (∃ m, make name parameterCount e options = .ok m) ↔ options.limit ≠ some 0 ∧
      ∃ n, parse name = .ok n ∧ Compilable e n parameterCount := by
  simp only [make_eq_ok_iff, findOrigin_eq_ok_iff hquery]
  constructor
  · rintro ⟨_, hlimit, _, ⟨n, hn, hc, rfl⟩, rfl⟩
    exact ⟨hlimit, n, hn, (Compilation.exists_compile_iff (groups_ne_nil_of_parse hn)).1 hc⟩
  · rintro ⟨hlimit, n, hn, hc⟩
    exact ⟨_, hlimit, _,
      ⟨n, hn, (Compilation.exists_compile_iff (groups_ne_nil_of_parse hn)).2 hc, rfl⟩, rfl⟩

/-- The arguments of a derived query are bound in the order of its terms. -/
theorem bindings_of_createQuery {n : MethodName} {order : SortOrder} {c : Compiled}
    (h : createQuery ⟨name, parameterCount, e, options, .derived n⟩ order = .ok c) :
    c.bindings = bindingsFrom 1 n.terms := by
  obtain ⟨plain, hplain, hextended⟩ := bind_eq_ok_iff.1 h
  obtain rfl := pure_eq_ok_iff.1 hextended
  have hcompile := mapError_eq_ok_iff.1 hplain
  obtain ⟨r, w, -, hbindings, -, hparts⟩ := Compilation.parts_of_compile hcompile
  obtain ⟨c, hc, hsame, -⟩ := hparts order
  rw [hcompile] at hc
  cases hc
  exact hsame.trans hbindings

/-- `AllIgnoreCase` behind criteria without an order, which do not end with it already, leaves a
method as it was: it is made if it was made without, and its queries bind the same arguments. Their
texts are the same up to the criteria that test a text for equality and have no mode of their own;
with the keyword, these ignore case. -/
theorem createQuery_allIgnoreCase (e : Entity) (parameterCount : Nat) {options : Options}
    {criteria : String} (hquery : options.query = none)
    (horder : ¬ "OrderBy".toList <:+: criteria.toList)
    (hall : ∀ k ∈ allIgnoreCaseKeywords, ¬ k.toList <:+ criteria.toList) :
    let name := "findBy" ++ criteria
    let name' := name ++ "AllIgnoreCase"
    ((∃ m, make name parameterCount e options = .ok m) ↔
      ∃ m', make name' parameterCount e options = .ok m') ∧
    ∀ m m', make name parameterCount e options = .ok m →
      make name' parameterCount e options = .ok m' →
      ∃ n, ∃ r : Reading e n, m.parsedName? = some n ∧
        IsJoinedBy "Or" (IsJoinedBy "And" (Term.IsSpelledBy .never)) n.groups criteria ∧
        ∀ order, ∃ c c' front behind,
          m.createQuery order = .ok c ∧ m'.createQuery order = .ok c' ∧ c.bindings = c'.bindings ∧
          c.statement.text = front ++ n.write r.termText ++ behind ∧
          c'.statement.text = front ++ n.write r.textIgnoringCase ++ behind := by
  intro name name'
  have hkeyword := parse_allIgnoreCase_iff horder hall
  constructor
  · rw [exists_make_iff hquery, exists_make_iff hquery]
    refine and_congr_right fun _ => ?_
    constructor
    · rintro ⟨n, hn, hc⟩
      exact ⟨_, ((hkeyword _).2 ⟨n, hn, hc.groups_ne_nil, rfl⟩).1, compilable_ignoringCase_iff.2 hc⟩
    · rintro ⟨n', hn', hc'⟩
      obtain ⟨n, hn, -, rfl⟩ := (hkeyword _).1 ⟨hn', hc'.groups_ne_nil⟩
      exact ⟨n, hn, compilable_ignoringCase_iff.1 hc'⟩
  · intro m m' hm hm'
    obtain ⟨n, rfl, hn, plain, hplain⟩ := derived_of_make_of_query hquery hm
    obtain ⟨n', rfl, hn', plain', hplain'⟩ := derived_of_make_of_query hquery hm'
    have hcompilable := (Compilation.exists_compile_iff (groups_ne_nil_of_parse hn)).1 ⟨_, hplain⟩
    -- The name with the keyword says the same, but that its terms ignore case.
    obtain rfl : n' = n.ignoringCase :=
      Except.ok.inj (hn'.symm.trans ((hkeyword _).2 ⟨n, hn, hcompilable.groups_ne_nil, rfl⟩).1)
    obtain ⟨r, w, -, hwhere, hparts⟩ := createQuery_parts name hplain
    obtain ⟨r', w', -, hwhere', hparts'⟩ := createQuery_parts name' hplain'
    refine ⟨n, r, rfl, isJoinedBy_of_parse_findBy horder hall hn, fun order => ?_⟩
    obtain ⟨c, hc, -, htext⟩ := hparts options order
    obtain ⟨c', hc', -, htext'⟩ := hparts' options order
    have hbindings : c.bindings = c'.bindings := by
      rw [bindings_of_createQuery hc, bindings_of_createQuery hc', terms_ignoringCase,
        bindingsFrom_map_ignoringCase]
    rw [hwhere, r.whereText_eq_write] at htext
    rw [hwhere', r.whereText_ignoringCase r', r.region_ignoringCase r',
      r.staticKeys_ignoringCase r'] at htext'
    let front := traceText (options.trace && !options.insertsTrace) ++ options.insertedText ++
      (Selection.selectFrom r.region (options.distinct || n.distinct) "x" ++ " WHERE ")
    let behind := orderText ((⟨r.staticKeys⟩ : SortOrder).and order) ++
      limitText (if options.insertsLimit then none else options.limit.or n.limit)
    refine ⟨c, c', front, behind, hc, hc', hbindings, ?_, ?_⟩
    · rw [htext]
      simp only [front, behind, String.append_assoc]
    · rw [htext']
      simp only [front, behind, String.append_assoc]
      rfl

/-- Of four criteria, one ignores case already, and one more does with the keyword. -/
theorem createQuery_allIgnoreCase_people :
    let e := (Entity.ofRegion "/People").declare "name" .string |>.declare "age" .integer
    let criteria := "NameIgnoreCaseAndAgeOrNameNotAndNameLike"
    let n : MethodName := ⟨false, none,
      [[⟨"Name", .equals, .always⟩, ⟨"Age", .equals, .never⟩],
        [⟨"Name", .notEquals, .never⟩, ⟨"Name", .like, .never⟩]], []⟩
    let m : Method := ⟨"findBy" ++ criteria, 4, e, .none, .derived n⟩
    let m' : Method :=
      ⟨"findBy" ++ criteria ++ "AllIgnoreCase", 4, e, .none, .derived n.ignoringCase⟩
    let text := "SELECT * FROM /People x WHERE x.name.equalsIgnoreCase($1) AND x.age = $2 OR " ++
      "x.name != $3 AND x.name LIKE $4"
    let text' := "SELECT * FROM /People x WHERE x.name.equalsIgnoreCase($1) AND x.age = $2 OR " ++
      "NOT x.name.equalsIgnoreCase($3) AND x.name LIKE $4"
    Options.none.query = none ∧ (¬ "OrderBy".toList <:+: criteria.toList) ∧
      (∀ k ∈ allIgnoreCaseKeywords, ¬ k.toList <:+ criteria.toList) ∧
      make m.name 4 e .none = .ok m ∧ make m'.name 4 e .none = .ok m' ∧
      ∃ c c', m.createQuery .unsorted = .ok c ∧ m'.createQuery .unsorted = .ok c' ∧
        c.bindings = c'.bindings ∧ c.statement.text = text ∧ c'.statement.text = text' := by
  intro e criteria n m m' text text'
  have horder : ¬ "OrderBy".toList <:+: criteria.toList := by
    decide +kernel
  have hall : ∀ k ∈ allIgnoreCaseKeywords, ¬ k.toList <:+ criteria.toList := by
    decide +kernel
  have hm : make m.name 4 e .none = .ok m := by
    decide +kernel
  have hm' : make m'.name 4 e .none = .ok m' := by
    decide +kernel
  obtain ⟨-, hqueries⟩ :=
    createQuery_allIgnoreCase e 4 (rfl : Options.none.query = none) horder hall
  obtain ⟨_, _, -, -, hquery⟩ := hqueries m m' hm hm'
  obtain ⟨c, c', -, -, hc, hc', hbindings, -⟩ := hquery .unsorted
  refine ⟨rfl, horder, hall, hm, hm', c, c', hc, hc', hbindings, ?_, ?_⟩
  · have htext : (m.createQuery .unsorted).map (·.statement.text) = .ok text := by
      decide +kernel
    rw [hc] at htext
    exact Except.ok.inj htext
  · have htext : (m'.createQuery .unsorted).map (·.statement.text) = .ok text' := by
      decide +kernel
    rw [hc'] at htext
    exact Except.ok.inj htext

end Method

end DerivedQuery
