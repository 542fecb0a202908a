import DerivedQuery.Proofs.Compilation.QueryText
import DerivedQuery.Proofs.Condition.Placeholders

/-!
# What a compiled query is made of

* `owners`: the terms that take the arguments of a call, one after the other.
* `bindings_of_group`, `bindings_of_groups`: the conditions that are made of terms bind one argument
  after the other, from the next free number on.
* `parts_of_compile`: the text of a compiled query is its selection, its condition and its order, as
  the name says them; its bindings are those of the condition.
-/

namespace DerivedQuery

/-! ## The bindings of terms -/

/-- The terms that take the arguments, in the order of the name. A term stands here once for each
argument that it takes. -/
def owners (ts : List Term) : List Term :=
  ts.flatMap fun t => List.replicate t.operator.arity t

/-- The arguments of some terms, bound to the numbers from `first` on. -/
def bindingsFrom (first : Nat) (ts : List Term) : List Binding :=
  (owners ts).mapIdx fun i t => ⟨first + i, t.operator.pattern⟩

theorem length_owners (ts : List Term) : (owners ts).length = argumentCount ts := by
  induction ts with
  | nil => rfl
  | cons t ts ih =>
    have hcons : owners (t :: ts) = List.replicate t.operator.arity t ++ owners ts := rfl
    rw [hcons, List.length_append, List.length_replicate, ih]
    rfl

theorem bindingsFrom_append (first : Nat) (ts us : List Term) :
    bindingsFrom first (ts ++ us) =
      bindingsFrom first ts ++ bindingsFrom (first + argumentCount ts) us := by
  have happend : owners (ts ++ us) = owners ts ++ owners us := by
    simp [owners]
  unfold bindingsFrom
  rw [happend, List.mapIdx_append, length_owners]
  congr 2
  funext i t
  rw [Nat.add_assoc, Nat.add_comm i]

/-- The arguments of one term are bound alike. -/
theorem bindingsFrom_singleton (first : Nat) (t : Term) :
    bindingsFrom first [t] =
      (List.range' first t.operator.arity).map fun i => ⟨i, t.operator.pattern⟩ := by
  apply List.ext_getElem
  · simp [bindingsFrom, owners]
  · intro i _ _
    simp [bindingsFrom, owners]

namespace Condition

theorem bindings_foldl {join : Condition → Condition → Condition}
    (hjoin : ∀ a b, (join a b).bindings = a.bindings ++ b.bindings) (cs : List Condition)
    (c : Condition) : (cs.foldl join c).bindings = (c :: cs).flatMap bindings := by
  induction cs generalizing c with
  | nil => simp
  | cons d cs ih =>
    rw [List.foldl_cons, ih]
    simp [hjoin, List.append_assoc]

end Condition

namespace Compilation

variable {e : Entity}

/-- The terms of a group bind the next arguments. -/
theorem bindings_of_group {ts : List Term} {k m : Numbering} {cs : List Condition}
    (hmade : Made (termCondition e) ts k cs m) :
    cs.flatMap Condition.bindings = bindingsFrom (k.issued + 1) ts ∧
      m.issued = k.issued + argumentCount ts ∧ ∀ c ∈ cs, c.Complete := by
  induction hmade with
  | nil k => exact ⟨rfl, rfl, by simp⟩
  | @cons t ts k j m c cs head tail ih =>
    rcases eq_test_of_termCondition head with ⟨criterion, hresolve, rfl, rfl⟩
    rcases ih with ⟨hbindings, hissued, hcomplete⟩
    have hop : criterion.operator = t.operator := (eq_ok_of_resolve hresolve).2.1
    have harity : criterion.arity = t.operator.arity := by
      rw [Criterion.arity, hop]
    -- The first term takes its numbers, and the others go on behind them.
    have hfirst : (Condition.test criterion (List.range' (k.issued + 1) criterion.arity)).bindings =
        bindingsFrom (k.issued + 1) [t] := by
      rw [bindingsFrom_singleton, harity]
      simp [Condition.bindings, Condition.bindingsOf, Condition.tests, hop]
    have hcons : t :: ts = [t] ++ ts := rfl
    refine ⟨?_, ?_, ?_⟩
    · rw [List.flatMap_cons, hfirst, hbindings, hcons, bindingsFrom_append,
        Reading.argumentCount_singleton, harity, Nat.add_right_comm]
    · rw [hissued, hcons, Reading.argumentCount_append, Reading.argumentCount_singleton, harity,
        Nat.add_assoc]
    · intro d hd
      rcases List.mem_cons.1 hd with rfl | hd
      · simp
      · exact hcomplete d hd

/-- The groups of a name bind the next arguments. -/
theorem bindings_of_groups {groups : List (List Term)} {k m : Numbering} {cs : List Condition}
    (hmade : Made (groupCondition e) groups k cs m) :
    cs.flatMap Condition.bindings = bindingsFrom (k.issued + 1) groups.flatten ∧
      ∀ c ∈ cs, c.Complete := by
  induction hmade with
  | nil k => exact ⟨rfl, by simp⟩
  | @cons group groups k j m c cs head tail ih =>
    rcases combine_eq_ok_iff.1 head with ⟨d, ds, hgroup, rfl⟩
    rcases bindings_of_group hgroup with ⟨hfirst, hissued, hds⟩
    rcases ih with ⟨hrest, hcomplete⟩
    constructor
    · rw [List.flatMap_cons, Condition.bindings_foldl Condition.bindings_and, hfirst, hrest, hissued,
        List.flatten_cons, bindingsFrom_append, Nat.add_right_comm]
    · intro f hf
      rcases List.mem_cons.1 hf with rfl | hf
      · exact Condition.complete_foldl Condition.complete_and ds d (hds d List.mem_cons_self)
          fun g hg => hds g (List.mem_cons_of_mem d hg)
      · exact hcomplete f hf

/-- The condition of a name binds the arguments from 1 on, and every criterion has its
placeholders. -/
theorem bindings_of_condition {n : MethodName} {max : Nat} {w : Condition} {m : Numbering}
    (h : condition e n (.upTo max) = .ok (w, m)) :
    w.bindings = bindingsFrom 1 n.terms ∧ w.Complete := by
  rcases combine_eq_ok_iff.1 h with ⟨d, ds, hmade, rfl⟩
  rcases bindings_of_groups hmade with ⟨hbindings, hcomplete⟩
  constructor
  · rw [Condition.bindings_foldl Condition.bindings_or, hbindings]
    rfl
  · exact Condition.complete_foldl Condition.complete_or ds d (hcomplete d List.mem_cons_self)
      fun f hf => hcomplete f (List.mem_cons_of_mem d hf)

/-! ## The parts of a query -/

open Text Statement

/-- The text before the order is plain. -/
theorem plain_filtered (region : RegionName) (distinct : Bool) {w : Condition}
    (hw : w.Complete) (rest : List Char) :
    Throughout Plain
      (Selection.selectFrom region distinct "x" ++ " WHERE " ++ w.render "x").toList rest := by
  have hbegins := w.beginsPlain_render rest
  simp [plain_selectFrom, Condition.plain_render hw, Plain, hbegins, beginsPlain_cons, foldsTo]

/-- A name that compiles does so with every order. Its query has three parts: the selection from the
region, the condition of the criteria and the order, which is the only part that the order of the
call changes. Its bindings are those of the condition. -/
theorem parts_of_compile {n : MethodName} {max : Option Nat} {order : SortOrder} {c : Compiled}
    (h : compile e n max order = .ok c) :
    ∃ (r : Reading e n) (w : Condition), w.Complete ∧ w.bindings = bindingsFrom 1 n.terms ∧
      w.render "x" = r.whereText ∧
      ∀ order, ∃ c, compile e n max order = .ok c ∧ c.bindings = w.bindings ∧
        c.statement.text = Selection.selectFrom r.region n.distinct "x" ++ " WHERE " ++
          w.render "x" ++ orderText ((⟨r.staticKeys⟩ : SortOrder).and order) := by
  rcases compile_eq_ok_iff.1 h with ⟨hname, w, m, hcondition, region, ⟨keys⟩, hregion, hkeys, -⟩
  rcases bindings_of_condition hcondition with ⟨hbindings, hcomplete⟩
  rcases combine_eq_ok_iff.1 hcondition with ⟨d, ds, hmade, hw⟩
  have hterms := Reading.resolves_of_groups hmade
  rcases Reading.staticOrder_eq_ok_iff.1 hkeys with ⟨horder, rfl⟩
  -- The reading that the texts are stated with, out of what has been looked up.
  let r : Reading e n := {
    region
    property := Reading.found e
    region_eq := hregion
    term_eq := fun t ht => Reading.resolve_eq_found (hterms t ht)
    key_eq := fun o ho => Reading.resolve_eq_found (horder o ho) }
  have hfirst : (Numbering.upTo (max.getD n.parameterCount)).issued = argumentCount [] := rfl
  have htexts := (Reading.render_groups hmade r r.term_eq hfirst).1
  refine ⟨r, w, hcomplete, hbindings, ?_, ?_⟩
  · rw [hw, Condition.render_foldl_or, htexts]
    rfl
  · -- Only the order depends on the call, and it finds no clause in the plain text before it.
    intro order
    refine ⟨_, compile_eq_ok_iff.2
      ⟨hname, w, m, hcondition, region, _, hregion, hkeys, rfl⟩, rfl, ?_⟩
    exact orderBy_of_plain (plain_filtered region n.distinct hcomplete []) _

end Compilation

end DerivedQuery
