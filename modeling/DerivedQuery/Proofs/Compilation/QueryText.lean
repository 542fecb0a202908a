import DerivedQuery.Proofs.Compilation.Steps
import DerivedQuery.Proofs.Condition.Phrase
import DerivedQuery.Proofs.RegionName
import DerivedQuery.Proofs.Statement.Clauseless

/-!
# The text of a compiled query

The text of a query is written down here once more, straight from the name: a fixed beginning, the
groups with `OR` between them, and the sort keys.

* `Reading`: the region and the properties that a name stands for in an entity.
* `Reading.queryText`: the text, in which a placeholder's number is a sum over the terms before it.
* `compile_text`: a compiled query has this text.
-/

namespace DerivedQuery

/-! ## The text, from the name -/

/-- The number of arguments that some terms take. -/
def argumentCount (ts : List Term) : Nat :=
  ts.foldr (fun t count => t.operator.arity + count) 0

/-- A term asks for a comparison without regard to case: always, or where a text is tested for
equality. -/
def Term.asksIgnoreCase (t : Term) (kind : PropertyKind) : Bool :=
  t.mode = .always ||
    (t.mode = .whenPossible && (t.operator = .equals || t.operator = .notEquals) && kind = .string)

/-- A term on a property of `x`, its placeholders numbered from `first` on. -/
def Term.text (t : Term) (path : PropertyPath) (kind : PropertyKind) (first : Nat) : String :=
  let property := "x." ++ path.text
  let a := Criterion.placeholder first
  if t.asksIgnoreCase kind then
    (if t.operator = .notEquals then "NOT " else "") ++ property ++ ".equalsIgnoreCase(" ++ a ++ ")"
  else Criterion.phrase t.operator false property a (Criterion.placeholder (first + 1))

/-- What a name stands for in an entity: the region, and the property behind each written one. -/
structure Reading (e : Entity) (n : MethodName) where
  region : RegionName
  property : String → PropertyPath × PropertyKind
  region_eq : RegionName.parse e.region = .ok region
  term_eq : ∀ t ∈ n.terms, e.resolve t.property = .ok (property t.property)
  key_eq : ∀ o ∈ n.order, e.resolve o.property = .ok (property o.property)

namespace Reading

variable {e : Entity} {n : MethodName}

/-- A term, its placeholders numbered from `first` on. -/
def termText (r : Reading e n) (t : Term) (first : Nat) : String :=
  t.text (r.property t.property).1 (r.property t.property).2 first

/-- A group that comes after the terms `before`. -/
def groupText (r : Reading e n) (before group : List Term) : String :=
  " AND ".intercalate <| group.mapIdx fun i t =>
    r.termText t (1 + argumentCount (before ++ group.take i))

/-- The groups, each of which comes after those before it. -/
def whereText (r : Reading e n) : String :=
  " OR ".intercalate <| n.groups.mapIdx fun g group =>
    r.groupText (n.groups.take g).flatten group

/-- The keys of the name. -/
def staticKeys (r : Reading e n) : List SortKey :=
  n.order.map fun o => ⟨(r.property o.property).1, o.direction⟩

/-- The keys of the name and then those of the call. -/
def orderText (r : Reading e n) (order : SortOrder) : String :=
  let keys := r.staticKeys ++ order.keys
  if keys = [] then ""
  else " ORDER BY " ++ ", ".intercalate (keys.map fun k =>
    k.path.text ++ if k.direction = .descending then " DESC" else "")

/-- The whole query. -/
def queryText (r : Reading e n) (order : SortOrder) : String :=
  "SELECT " ++ (if n.distinct then "DISTINCT " else "") ++ "* FROM /" ++ r.region.text ++
    " x WHERE " ++ r.whereText ++ r.orderText order

end Reading

/-! ## Conditions -/

namespace Condition

/-- Conditions without an `OR` on top are joined by `AND` as they are written. -/
theorem render_foldl_and (object : String) (cs : List Condition) (c : Condition)
    (hc : c.isOr = false) (hcs : ∀ d ∈ cs, d.isOr = false) :
    (cs.foldl .and c).render object = " AND ".intercalate ((c :: cs).map (render object)) ∧
      (cs.foldl .and c).isOr = false := by
  induction cs generalizing c with
  | nil => simp [hc]
  | cons d cs ih =>
    have hd : d.isOr = false := hcs d List.mem_cons_self
    rcases ih (.and c d) rfl fun f hf => hcs f (List.mem_cons_of_mem d hf) with ⟨hrender, hisOr⟩
    refine ⟨?_, hisOr⟩
    -- Neither operand is an `OR`, so there are no parentheses.
    rw [List.foldl_cons, hrender]
    simp [render, render.operand, hc, hd, String.intercalate_cons_append, String.append_assoc]

/-- A condition that is joined from complete ones is complete. -/
theorem complete_foldl {join : Condition → Condition → Condition}
    (hjoin : ∀ a b, (join a b).Complete ↔ a.Complete ∧ b.Complete) (cs : List Condition)
    (c : Condition) (hc : c.Complete) (hcs : ∀ d ∈ cs, d.Complete) :
    (cs.foldl join c).Complete := by
  induction cs generalizing c with
  | nil => exact hc
  | cons d cs ih =>
    have hd : d.Complete := hcs d List.mem_cons_self
    exact ih (join c d) ((hjoin c d).2 ⟨hc, hd⟩) fun f hf => hcs f (List.mem_cons_of_mem d hf)

/-- Operands of an `OR` are written one after the other. -/
theorem render_foldl_or (object : String) (cs : List Condition) (c : Condition) :
    (cs.foldl .or c).render object = " OR ".intercalate ((c :: cs).map (render object)) := by
  induction cs generalizing c with
  | nil => simp
  | cons d cs ih =>
    rw [List.foldl_cons, ih]
    simp [render, String.intercalate_cons_append, String.append_assoc]

end Condition

/-! ## Groups of terms -/

namespace Reading

open Compilation

variable {e : Entity} {n : MethodName}

/-- The arguments of terms are counted one term after the other. -/
@[simp] theorem argumentCount_append (ts us : List Term) :
    argumentCount (ts ++ us) = argumentCount ts + argumentCount us := by
  induction ts with
  | nil => simp [argumentCount]
  | cons t ts ih =>
    simp only [argumentCount, List.cons_append, List.foldr_cons] at ih ⊢
    omega

@[simp] theorem argumentCount_singleton (t : Term) : argumentCount [t] = t.operator.arity := by
  simp [argumentCount]

/-- A supported test without regard to case is one for equality. -/
theorem eq_of_supports_ignoreCase {op : Operator} {kind : PropertyKind}
    (h : op.supports kind true = true) : op = .equals ∨ op = .notEquals := by
  cases op <;> simp [Operator.supports, Operator.supportsIgnoreCase] at h ⊢

/-- A term asks for what its criterion does. -/
theorem asksIgnoreCase_eq (t : Term) (kind : PropertyKind) :
    t.asksIgnoreCase kind = Criterion.ignoresCase t.mode t.operator kind := by
  unfold Term.asksIgnoreCase Criterion.ignoresCase
  cases t.mode <;> cases t.operator <;> simp [Operator.supportsIgnoreCase]

/-- The condition of a term is written as its text. -/
theorem render_term {t : Term} {criterion : Criterion} {k : Nat}
    (hop : criterion.operator = t.operator)
    (hcase : criterion.ignoreCase = Criterion.ignoresCase t.mode t.operator criterion.kind) :
    (Condition.test criterion (List.range' k criterion.arity)).render "x" =
      t.text criterion.path criterion.kind k := by
  rcases criterion with ⟨path, kind, op, ignoreCase, supported⟩
  simp only at hop hcase
  subst hop
  have hproperty : path.qualified "x" = "x." ++ path.text := by
    simp [PropertyPath.qualified]
  simp only [Condition.render, Criterion.render, Criterion.arity, Term.text, asksIgnoreCase_eq,
    ← hcase, hproperty]
  cases ignoreCase with
  | true =>
    rcases eq_of_supports_ignoreCase supported with hop | hop <;>
      simp [hop, Criterion.phrase, Operator.arity, String.append_assoc]
  | false =>
    cases hop : t.operator <;> simp [Criterion.phrase, Operator.arity, List.range'_succ]

/-- The terms of a group are written one after the other, and take the next placeholders. -/
theorem render_group {ts before : List Term} {k m : Numbering} {cs : List Condition}
    (hmade : Made (termCondition e) ts k cs m) (r : Reading e n)
    (hterms : ∀ t ∈ ts, e.resolve t.property = .ok (r.property t.property))
    (hk : k.issued = argumentCount before) :
    cs.map (Condition.render "x") =
        ts.mapIdx (fun i t => r.termText t (1 + argumentCount (before ++ ts.take i))) ∧
      m.issued = argumentCount (before ++ ts) ∧ ∀ c ∈ cs, c.isOr = false ∧ c.Complete := by
  induction hmade generalizing before with
  | nil k => simp [hk]
  | @cons t ts k j m c cs head tail ih =>
    rcases eq_test_of_termCondition head with ⟨criterion, hresolve, rfl, rfl⟩
    rcases eq_ok_of_resolve hresolve with ⟨hfound, hop, hcase⟩
    -- A property resolves in one way, so the criterion is about the one of the reading.
    have hproperty : r.property t.property = (criterion.path, criterion.kind) := by
      have h := hterms t List.mem_cons_self
      rw [hfound] at h
      exact (Except.ok.inj h).symm
    have harity : criterion.arity = t.operator.arity := by
      rw [Criterion.arity, hop]
    -- The rest of the group comes after the terms before it and this one.
    have hcount : k.issued + criterion.arity = argumentCount (before ++ [t]) := by
      simp [hk, harity]
    rcases ih (fun u hu => hterms u (List.mem_cons_of_mem t hu)) hcount with ⟨htexts, hissued, hor⟩
    refine ⟨?_, ?_, ?_⟩
    · rw [List.map_cons, htexts, List.mapIdx_cons, render_term hop hcase]
      simp only [List.take_zero, List.append_nil, termText, hproperty, hk, List.take_succ_cons,
        List.append_assoc, List.singleton_append, Nat.add_comm 1]
    · simpa using hissued
    · intro d hd
      rcases List.mem_cons.1 hd with rfl | hd
      · exact ⟨rfl, by simp⟩
      · exact hor d hd

/-- The groups of a name are written one after the other. -/
theorem render_groups {groups : List (List Term)} {before : List Term} {k m : Numbering}
    {cs : List Condition} (hmade : Made (groupCondition e) groups k cs m) (r : Reading e n)
    (hterms : ∀ t ∈ groups.flatten, e.resolve t.property = .ok (r.property t.property))
    (hk : k.issued = argumentCount before) :
    cs.map (Condition.render "x") =
        groups.mapIdx (fun g group => r.groupText (before ++ (groups.take g).flatten) group) ∧
      ∀ c ∈ cs, c.Complete := by
  induction hmade generalizing before with
  | nil k => simp
  | @cons group groups k j m c cs head tail ih =>
    rcases combine_eq_ok_iff.1 head with ⟨d, ds, hgroup, rfl⟩
    rcases render_group hgroup r
      (fun t ht => hterms t (List.mem_append_left _ ht)) hk with ⟨htexts, hissued, hds⟩
    rcases ih (fun t ht => hterms t (List.mem_append_right _ ht)) hissued with ⟨hrest, hcomplete⟩
    -- A group is the fold of its criteria, none of which is an `OR`.
    have hd := hds d List.mem_cons_self
    have htail (f : Condition) (hf : f ∈ ds) := hds f (List.mem_cons_of_mem d hf)
    constructor
    · rw [List.map_cons, hrest, List.mapIdx_cons,
        (Condition.render_foldl_and "x" ds d hd.1 fun f hf => (htail f hf).1).1, htexts]
      simp [groupText, List.append_assoc]
    · intro f hf
      rcases List.mem_cons.1 hf with rfl | hf
      · exact Condition.complete_foldl Condition.complete_and ds d hd.2 fun g hg => (htail g hg).2
      · exact hcomplete f hf

end Reading

/-! ## The text before the order is plain -/

open Text Statement

/-- What is written for a criterion on a property of `x` is plain. -/
theorem plain_phrase (op : Operator) (ignoreCase : Bool) (path : PropertyPath) (a b : Nat)
    (rest : List Char) :
    Throughout Plain (Criterion.phrase op ignoreCase (path.qualified "x")
      (Criterion.placeholder a) (Criterion.placeholder b)).toList rest := by
  have hpath (rest : List Char) : Throughout Plain (path.qualified "x").toList rest :=
    plain_of_solid fun c hc =>
      isBlank_of_pathChar (pathChar_of_mem_qualified path (by decide) c hc)
  have hplaceholder (i : Nat) (rest : List Char) :
      Throughout Plain (Criterion.placeholder i).toList rest :=
    plain_of_solid fun c hc => isBlank_of_pathChar (pathChar_of_mem_placeholder i c hc)
  -- Behind the blanks of a phrase stand the object, a placeholder and fixed words.
  have hobject (rest : List Char) : BeginsPlain ((path.qualified "x").toList ++ rest) := by
    rw [toList_qualified path (by decide)]
    exact beginsPlain_cons (by decide) (by decide) _
  have hdollar (i : Nat) (rest : List Char) :
      BeginsPlain ((Criterion.placeholder i).toList ++ rest) := by
    rw [toList_placeholder]
    exact beginsPlain_cons (by decide) (by decide) _
  have hlike (rest : List Char) : BeginsPlain ('L' :: 'I' :: 'K' :: rest) := ⟨rfl, rfl⟩
  cases op with
  | equals | notEquals =>
    cases ignoreCase <;>
      simp [Criterion.phrase, hpath, hplaceholder, hdollar, hobject, Plain, isBlank,
        beginsPlain_cons, foldsTo]
  | _ =>
    simp [Criterion.phrase, hpath, hplaceholder, hdollar, hobject, hlike, Plain, isBlank,
      beginsPlain_cons, foldsTo]

namespace Condition

/-- A condition about `x` begins with the object, with `NOT` or with a parenthesis. -/
theorem head_render (c : Condition) :
    ∃ d, (c.render "x").toList.head? = some d ∧ d ∈ ['x', 'N', '('] := by
  induction c with
  | test criterion placeholders =>
    rcases criterion with ⟨path, kind, op, ignoreCase, supported⟩
    have hpath := toList_qualified path (by decide : isIdentifier "x".toList = true)
    cases op with
    | equals | notEquals =>
      cases ignoreCase <;> simp [render, Criterion.render, Criterion.phrase, hpath]
    | _ => simp [render, Criterion.render, Criterion.phrase, hpath]
  | and a b iha ihb =>
    rcases iha with ⟨d, hhead, hd⟩
    cases ha : a.isOr with
    | true => exact ⟨'(', by simp [render, render.operand, ha], by simp⟩
    | false => exact ⟨d, by simp [render, render.operand, ha, hhead], hd⟩
  | or a b iha ihb =>
    rcases iha with ⟨d, hhead, hd⟩
    exact ⟨d, by simp [render, hhead], hd⟩

/-- What a condition begins with is plain behind a blank. -/
theorem beginsPlain_render (c : Condition) (rest : List Char) :
    BeginsPlain ((c.render "x").toList ++ rest) := by
  rcases c.head_render with ⟨d, hhead, hd⟩
  rcases List.head?_eq_some_iff.1 hhead with ⟨cs, hrender⟩
  rw [hrender]
  simp only [List.mem_cons, List.not_mem_nil, or_false] at hd
  rcases hd with rfl | rfl | rfl <;> exact beginsPlain_cons (by decide) (by decide) _

/-- The text of a complete condition is plain, by induction on the condition. -/
theorem plain_render {c : Condition} (hc : c.Complete) (rest : List Char) :
    Throughout Plain (c.render "x").toList rest := by
  induction c generalizing rest with
  | test criterion placeholders =>
    rw [render, criterion.render_eq_phrase (complete_test _ _ |>.1 hc)]
    exact plain_phrase _ _ _ _ _ rest
  | and a b iha ihb =>
    rcases (complete_and a b).1 hc with ⟨ha, hb⟩
    -- Either operand may stand in parentheses, where it is plain before `)` as well.
    cases hor : a.isOr <;> cases hor' : b.isOr <;>
      simp [render, render.operand, hor, hor', iha ha, ihb hb, Plain, isBlank,
        beginsPlain_render, beginsPlain_cons, foldsTo]
  | or a b iha ihb =>
    rcases (complete_or a b).1 hc with ⟨ha, hb⟩
    simp [render, iha ha, ihb hb, beginsPlain_render, Plain, beginsPlain_cons, foldsTo]

end Condition

/-- The beginning of a query is plain. -/
theorem plain_selectFrom (region : RegionName) (distinct : Bool) (rest : List Char) :
    Throughout Plain (Selection.selectFrom region distinct "x").toList (' ' :: 'W' :: rest) := by
  have hregion (rest : List Char) : Throughout Plain region.text.toList rest :=
    plain_of_solid region.isBlank_of_mem
  cases distinct <;>
    simp [Selection.selectFrom, RegionName.address, hregion, Plain, isBlank, beginsPlain_cons,
      foldsTo]

/-! ## The whole query -/

namespace Reading

open Compilation

variable {e : Entity} {n : MethodName}

/-- Every term of which a condition was made has a property of the entity. -/
theorem resolves_of_made {ts : List Term} {k m : Numbering} {cs : List Condition}
    (hmade : Made (termCondition e) ts k cs m) :
    ∀ t ∈ ts, ∃ found, e.resolve t.property = .ok found := by
  induction hmade with
  | nil k => simp
  | @cons t ts k j m c cs head tail ih =>
    intro u hu
    rcases List.mem_cons.1 hu with rfl | hu
    · rcases eq_test_of_termCondition head with ⟨criterion, hresolve, -⟩
      exact ⟨_, (eq_ok_of_resolve hresolve).1⟩
    · exact ih u hu

/-- So has every term of every group. -/
theorem resolves_of_groups {groups : List (List Term)} {k m : Numbering} {cs : List Condition}
    (hmade : Made (groupCondition e) groups k cs m) :
    ∀ t ∈ groups.flatten, ∃ found, e.resolve t.property = .ok found := by
  induction hmade with
  | nil k => simp
  | @cons group groups k j m c cs head tail ih =>
    intro t ht
    rcases List.mem_append.1 ht with ht | ht
    · rcases combine_eq_ok_iff.1 head with ⟨d, ds, hgroup, -⟩
      exact resolves_of_made hgroup t ht
    · exact ih t ht

/-- The property behind a written one, or else some property. -/
def found (e : Entity) (written : String) : PropertyPath × PropertyKind :=
  (e.resolve? written).getD (⟨⟨"x", by decide⟩, []⟩, .object)

theorem resolve_eq_found {written : String} (h : ∃ p, e.resolve written = .ok p) :
    e.resolve written = .ok (found e written) := by
  rcases h with ⟨p, hp⟩
  unfold Entity.resolve at hp ⊢
  unfold found
  cases hresolve : e.resolve? written with
  | none => simp [hresolve] at hp
  | some q => rfl

/-- The keys of a name are read when the entity has the property of each. -/
theorem staticOrder_eq_ok_iff {keys : SortOrder} :
    staticOrder e n = .ok keys ↔
      (∀ o ∈ n.order, ∃ p, e.resolve o.property = .ok p) ∧
        n.order.map (fun o => ⟨(found e o.property).1, o.direction⟩) = keys.keys := by
  rcases keys with ⟨keys⟩
  simp only [staticOrder, bind_eq_ok_iff, pure_eq_ok_iff, SortOrder.mk.injEq, exists_eq_right]
  induction n.order generalizing keys with
  | nil => simp [pure_eq_ok_iff]
  | cons o os ih =>
    simp only [List.mapM_cons, bind_eq_ok_iff, pure_eq_ok_iff, ih, List.forall_mem_cons,
      List.map_cons]
    constructor
    · rintro ⟨_, ⟨p, hp, rfl⟩, ks, ⟨hos, rfl⟩, rfl⟩
      have hfound : p = found e o.property := by
        have h := resolve_eq_found ⟨p, hp⟩
        rw [hp] at h
        exact Except.ok.inj h
      exact ⟨⟨⟨p, hp⟩, hos⟩, by rw [hfound]⟩
    · rintro ⟨⟨ho, hos⟩, rfl⟩
      exact ⟨_, ⟨_, resolve_eq_found ho, rfl⟩, _, ⟨hos, rfl⟩, rfl⟩

/-- The keys of the name and of the call are written as one clause. -/
theorem orderText_eq (r : Reading e n) (order : SortOrder) :
    Statement.orderText ((⟨r.staticKeys⟩ : SortOrder).and order) = r.orderText order := by
  have hkey (k : SortKey) :
      k.text = k.path.text ++ if k.direction = .descending then " DESC" else "" := by
    rcases k with ⟨path, direction⟩
    cases direction <;> simp [SortKey.text]
  simp only [Statement.orderText, orderText, SortOrder.and, SortOrder.clause, SortOrder.list,
    SortOrder.isEmpty, List.isEmpty_iff]
  split
  · rfl
  · simp only [← hkey, ← String.append_assoc]
    rfl

end Reading

namespace Compilation

/-- A compiled query has the text that its name says. -/
theorem compile_text {e : Entity} {n : MethodName} {max : Option Nat} {order : SortOrder}
    {c : Compiled} (h : compile e n max order = .ok c) :
    ∃ r : Reading e n, c.statement.text = r.queryText order := by
  rcases compile_eq_ok_iff.1 h with ⟨-, w, m, hcondition, region, ⟨keys⟩, hregion, hkeys, rfl⟩
  rcases combine_eq_ok_iff.1 hcondition with ⟨d, ds, hmade, rfl⟩
  have hterms := Reading.resolves_of_groups hmade
  rcases Reading.staticOrder_eq_ok_iff.1 hkeys with ⟨horder, rfl⟩
  let r : Reading e n := {
    region
    property := Reading.found e
    region_eq := hregion
    term_eq := fun t ht => Reading.resolve_eq_found (hterms t ht)
    key_eq := fun o ho => Reading.resolve_eq_found (horder o ho) }
  refine ⟨r, ?_⟩
  -- The criteria are written as the name says.
  have hfirst : (Numbering.upTo (max.getD n.parameterCount)).issued = argumentCount [] := rfl
  rcases Reading.render_groups hmade r r.term_eq hfirst with ⟨htexts, hcomplete⟩
  have hwhere : (ds.foldl .or d).render "x" = r.whereText := by
    rw [Condition.render_foldl_or, htexts]
    rfl
  -- No `ORDER BY` and no `LIMIT` is found in what precedes the order.
  have hw : (ds.foldl Condition.or d).Complete :=
    Condition.complete_foldl Condition.complete_or ds d (hcomplete d List.mem_cons_self)
      fun f hf => hcomplete f (List.mem_cons_of_mem d hf)
  have hplain : Throughout Plain
      (Selection.filtered ⟨.region region n.distinct, Selection.defaultObject⟩
        (some (ds.foldl .or d))).text.toList [] := by
    -- The one blank in front of the condition stands behind `WHERE`.
    have hbegins := (ds.foldl Condition.or d).beginsPlain_render []
    rw [List.append_nil] at hbegins
    simp [Selection.filtered, Selection.base, Selection.defaultObject, plain_selectFrom,
      Condition.plain_render hw, Plain, hbegins, beginsPlain_cons, foldsTo]
  calc (Statement.orderBy _ _).text
      = _ ++ Statement.orderText _ := orderBy_of_plain hplain _
    _ = (Selection.selectFrom region n.distinct "x" ++ " WHERE " ++ r.whereText) ++
          r.orderText order := by
        rw [← r.orderText_eq order, ← hwhere]
        rfl
    _ = r.queryText order := by
        have hslash : "* FROM " ++ "/" = "* FROM /" := rfl
        simp only [Reading.queryText, Selection.selectFrom, RegionName.address, ← hslash,
          String.append_assoc]
        rfl

/-- A name with two groups, a range and a sort key. -/
theorem compile_text_two_groups :
    let e := (Entity.ofRegion "/People").declare "name" .string |>.declare "age" .integer
    let name : MethodName :=
      ⟨false, none, [[⟨"Name", .equals, .whenPossible⟩, ⟨"Age", .between, .never⟩],
        [⟨"Age", .lessThan, .never⟩]], [⟨"Age", .descending⟩]⟩
    ∃ c, compile e name none ⟨[]⟩ = .ok c ∧
      ∃ r : Reading e name, c.statement.text = r.queryText ⟨[]⟩ := by
  intro e name
  obtain ⟨c, hc⟩ : ∃ c, compile e name none ⟨[]⟩ = .ok c :=
    exists_ok_of_isOk (by decide)
  exact ⟨c, hc, compile_text hc⟩

end Compilation

end DerivedQuery
