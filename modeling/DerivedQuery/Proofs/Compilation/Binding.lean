import DerivedQuery.Proofs.Compilation.Layout

/-!
# Placeholders and arguments

The placeholders of a compiled query are numbered from 1 in the order in which they stand in its
text, and the argument with the same number is bound to each.

* `Statement.shows_orderText`, `shows_selectFrom`: outside its condition, a query shows no
  placeholder, whatever its region and its sort keys are called.
* `find?_bindingsFrom`: the binding of a number is that of the term that takes the argument.
* `compile_placeholders`: the placeholders of a query, its bindings, and what arguments are bound as.
-/

namespace DerivedQuery

/-! ## Text without placeholders -/

theorem shows_selectFrom (region : RegionName) (distinct : Bool) :
    Shows (Selection.selectFrom region distinct "x") [] := by
  -- A region contains no `$`, and behind the slash it may begin with a digit.
  have haddress : Shows region.address [] := by
    apply Shows.of_forall
    · simp [RegionName.address, Apart]
    · intro c hc
      simp only [RegionName.address, String.toList_append, List.mem_append] at hc
      rcases hc with hc | hc
      · have hslash : c = '/' := by
          simpa using hc
        rw [hslash]
        decide
      · rintro rfl
        rcases region.regionChar_of_mem _ hc with h | h
        · exact absurd h (by decide)
        · exact absurd h (by decide)
  have hdistinct : Shows (if distinct then "DISTINCT " else "") [] := by
    cases distinct with
    | true => exact .word "DISTINCT " (by decide)
    | false => exact .word "" (by decide)
  have hbegin := ((Shows.word "SELECT " (by decide)).append hdistinct).append
    (Shows.word "* FROM " (by decide))
  exact ((hbegin.append haddress).append (.word " " (by decide))).append (.word "x" (by decide))

theorem SortKey.shows_text (k : SortKey) : Shows k.text [] := by
  rcases k with ⟨path, direction⟩
  cases direction with
  | ascending => exact .path path
  | descending => exact (Shows.path path).append_left (.word " DESC" (by decide))

theorem Statement.shows_orderText (order : SortOrder) : Shows (orderText order) [] := by
  unfold orderText SortOrder.clause
  cases order.isEmpty with
  | true => exact .word "" (by decide)
  | false =>
    have hlist : Shows order.list [] := by
      apply Shows.intercalate (.word ", " (by decide))
      intro p hp
      rcases List.mem_map.1 hp with ⟨k, -, rfl⟩
      exact k.shows_text
    exact (Shows.word " " (by decide)).append_right
      ((Shows.word "ORDER BY " (by decide)).append_right hlist)

/-! ## Bound arguments -/

/-- A text as the argument of a term: `LIKE` tests for a beginning, an end or a part of a text
complete it with `%`. -/
def Term.completed (t : Term) (s : String) : String :=
  match t.operator with
  | .startingWith => s ++ "%"
  | .endingWith => "%" ++ s
  | .containing | .notContaining => "%" ++ s ++ "%"
  | _ => s

/-- What the argument at position `i` of a call is bound as: a text as the term that takes it
completes it. Other values, and arguments that no term takes, stay as they are. -/
def MethodName.boundAs (n : MethodName) (i : Nat) (argument : Json) : Json :=
  match (owners n.terms)[i]?, argument with
  | some t, .str s => .str (t.completed s)
  | _, _ => argument

theorem Term.completed_eq (t : Term) (s : String) :
    t.operator.pattern.complete s = t.completed s := by
  unfold Term.completed
  cases t.operator <;> rfl

/-- The binding of a number is that of the term that takes the argument. -/
theorem find?_bindingsFrom (first i : Nat) (ts : List Term) :
    (bindingsFrom first ts).find? (fun b => b.index = first + i) =
      (owners ts)[i]?.map fun t => ⟨first + i, t.operator.pattern⟩ := by
  unfold bindingsFrom
  -- The first binding is looked for at position 0, the others behind it.
  induction owners ts generalizing first i with
  | nil => rfl
  | cons t us ih =>
    rw [List.mapIdx_cons]
    cases i with
    | zero => simp
    | succ i =>
      have hshift : (us.mapIdx fun j u => (⟨first + (j + 1), u.operator.pattern⟩ : Binding)) =
          us.mapIdx fun j u => ⟨first + 1 + j, u.operator.pattern⟩ := by
        congr 1
        funext j u
        rw [Nat.add_assoc, Nat.add_comm 1]
      have hrest := ih (first + 1) i
      rw [Nat.add_assoc, Nat.add_comm 1 i] at hrest
      rw [List.find?_cons_of_neg (by simp), hshift, List.getElem?_cons_succ]
      exact hrest

/-- The arguments of a call are bound as the terms of the name ask. -/
theorem Compiled.bindArguments_eq {c : Compiled} {n : MethodName}
    (h : c.bindings = bindingsFrom 1 n.terms) (arguments : List Json) :
    c.bindArguments arguments = arguments.mapIdx n.boundAs := by
  apply List.ext_getElem?
  intro i
  unfold Compiled.bindArguments
  rw [List.getElem?_map, List.getElem?_zipIdx, List.getElem?_mapIdx, Option.map_map]
  congr 1
  funext a
  have hfind := find?_bindingsFrom 1 i n.terms
  rw [Nat.add_comm 1 i, ← h] at hfind
  simp only [Function.comp_apply, Nat.zero_add, hfind, MethodName.boundAs]
  -- The term, if one takes the argument, completes a text and nothing else.
  cases (owners n.terms)[i]? with
  | none => rfl
  | some t =>
    cases a with
    | str s => exact congrArg Json.str (t.completed_eq s)
    | _ => rfl

namespace Compilation

/-- The placeholders of a compiled query are `$1`, `$2` and so on, from left to right, one for each
argument that the criteria take, and its bindings have the same numbers. So a call with any number
of arguments has each of them bound as the term asks that takes it: texts are completed for `LIKE`
tests, and all else stays as it is. -/
theorem compile_placeholders {e : Entity} {n : MethodName} {max : Option Nat} {order : SortOrder}
    {c : Compiled} (h : compile e n max order = .ok c) :
    placeholdersIn c.statement.text =
        (List.range' 1 n.parameterCount).map (fun i => "$" ++ toString i) ∧
      c.bindings.length = n.parameterCount ∧
      (∀ i b, c.bindings[i]? = some b → b.index = i + 1) ∧
      (owners n.terms).length = n.parameterCount ∧
      ∀ arguments, (c.bindArguments arguments).length = arguments.length ∧
        ∀ i a, arguments[i]? = some a → (c.bindArguments arguments)[i]? =
          some (n.boundAs i a) := by
  rcases parts_of_compile h with ⟨r, w, hcomplete, hw, -, hparts⟩
  obtain ⟨hbindings, htext⟩ : c.bindings = w.bindings ∧ c.statement.text = _ := by
    rcases hparts order with ⟨c', hc', hquery⟩
    rw [h] at hc'
    cases hc'
    exact hquery
  have hnumbered : c.bindings = bindingsFrom 1 n.terms := hbindings.trans hw
  have hcount : (owners n.terms).length = n.parameterCount := length_owners n.terms
  have hindex : c.bindings.map (·.index) = List.range' 1 n.parameterCount := by
    rw [hnumbered, ← hcount]
    apply List.ext_getElem
    · simp [bindingsFrom]
    · intro i _ _
      simp [bindingsFrom]
  refine ⟨?_, ?_, ?_, hcount, ?_⟩
  · -- The condition shows its placeholders, and nothing else in the text looks like one.
    have hcondition : Shows (w.render "x") w.placeholders :=
      Condition.shows_render hcomplete (by decide)
    have hbegin : Shows (Selection.selectFrom r.region n.distinct "x" ++ " WHERE ") [] :=
      (shows_selectFrom r.region n.distinct).append_right (.word " WHERE " (by decide))
    have hshows := (hbegin.append_right hcondition).append_left
      (Statement.shows_orderText ((⟨r.staticKeys⟩ : SortOrder).and order))
    rw [htext, hshows.placeholdersIn_eq, ← Condition.map_index_bindings, ← hbindings, hindex]
    rfl
  · rw [← List.length_map (f := (·.index)), hindex, List.length_range']
  · intro i b hb
    have hget : (c.bindings.map (·.index))[i]? = some b.index := by
      rw [List.getElem?_map, hb]
      rfl
    rw [hindex] at hget
    rcases List.getElem?_eq_some_iff.1 hget with ⟨hi, hvalue⟩
    rw [List.getElem_range'] at hvalue
    omega
  · intro arguments
    rw [Compiled.bindArguments_eq hnumbered]
    refine ⟨List.length_mapIdx, ?_⟩
    intro i a ha
    rw [List.getElem?_mapIdx, ha]
    rfl

/-- A property whose name contains placeholders, and criteria that take two arguments, none and
one. -/
theorem compile_placeholders_dollar :
    let e := (Entity.ofRegion "/People").declare "a$1" .integer |>.declare "name" .string
    let n : MethodName :=
      ⟨false, none, [[⟨"A$1", .between, .never⟩, ⟨"Name", .isNotNull, .never⟩],
        [⟨"Name", .startingWith, .never⟩]], [⟨"A$1", .descending⟩]⟩
    ∃ c, compile e n none ⟨[]⟩ = .ok c ∧ placeholdersIn c.statement.text = ["$1", "$2", "$3"] ∧
      (c.bindArguments [.int 1, .str "b", .str "c", .str "d"])[2]? = some (.str "c%") ∧
      (c.bindArguments [.int 1, .str "b", .str "c", .str "d"])[3]? = some (.str "d") := by
  intro e n
  obtain ⟨c, hc⟩ : ∃ c, compile e n none ⟨[]⟩ = .ok c :=
    exists_ok_of_isOk (by decide)
  rcases compile_placeholders hc with ⟨htext, -, -, -, hbound⟩
  rcases hbound [.int 1, .str "b", .str "c", .str "d"] with ⟨-, hat⟩
  exact ⟨c, hc, htext, hat 2 (.str "c") rfl, hat 3 (.str "d") rfl⟩

end Compilation

end DerivedQuery
