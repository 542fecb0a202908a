import DerivedQuery.Pipeline
import DerivedQuery.Proofs.Method.InsertedText
import DerivedQuery.Proofs.Statement.WrittenOrder

/-!
# The order of a call

The keys of a call come from three places: the name of the method, the call, and the page that the
call asks for. All of them stand in the one clause of the query, in this sequence, and they can be
read from it again.

* `Reading.staticOrder_eq`: the keys of a name.
* `Call.keys_dynamicOrder`: the keys of a call.
* `Method.orderClause_plainQuery`, `Method.orderClause_createQuery`: the clause of a query.
* `Method.read_orderClause`: what can be read from a clause.
-/

namespace DerivedQuery

open Text Statement

/-- The keys of a name are those that it stands for. -/
theorem Reading.staticOrder_eq {e : Entity} {n : MethodName} (r : Reading e n) :
    Compilation.staticOrder e n = .ok ⟨r.staticKeys⟩ := by
  rw [Reading.staticOrder_eq_ok_iff]
  refine ⟨fun o ho => ⟨_, r.key_eq o ho⟩, ?_⟩
  apply List.map_congr_left
  intro o ho
  have hfound := Reading.resolve_eq_found ⟨_, r.key_eq o ho⟩
  rw [r.key_eq o ho] at hfound
  rw [← Except.ok.inj hfound]

/-- The keys of the call and then those of its page, if it has one. -/
theorem Call.keys_dynamicOrder (call : Call) :
    call.dynamicOrder.keys = call.order.keys ++ (call.page.map (·.order.keys)).getD [] := by
  rcases call with ⟨order, page⟩
  cases page with
  | none => exact (List.append_nil _).symm
  | some page => rfl

/-- A limit that is asked for is a limit at the end. -/
theorem limitText_cases (limit : Option Nat) :
    limitText limit = "" ∨ isTrailingLimit (limitText limit).toList = true := by
  cases limit with
  | none => exact .inl rfl
  | some n => exact .inr (isTrailingLimit_limit n)

namespace Method

variable {name : String} {parameterCount : Nat} {e : Entity} {options : Options} {m : Method}
  {n : MethodName}

/-- The clause of a query before the options are taken into account. It has the keys of the name and
then those of the call. -/
theorem orderClause_plainQuery (hm : make name parameterCount e options = .ok m)
    (hn : m.parsedName? = some n) :
    ∃ static, Compilation.staticOrder e n = .ok static ∧ ∀ order, ∃ c,
      m.plainQuery order = .ok c ∧ c.statement.orderClause = (static.and order).clause := by
  rcases derived_of_make hm hn with ⟨rfl, -, -, c, hc⟩
  rcases Compilation.parts_of_compile hc with ⟨r, w, hcomplete, -, -, hparts⟩
  refine ⟨_, r.staticOrder_eq, ?_⟩
  intro order
  rcases hparts order with ⟨plain, hplain, -, htext⟩
  refine ⟨plain, mapError_eq_ok_iff.2 hplain, ?_⟩
  generalize (⟨r.staticKeys⟩ : SortOrder).and order = combined at htext ⊢
  have hstatement : plain.statement =
      ⟨Selection.selectFrom r.region n.distinct "x" ++ " WHERE " ++ w.render "x" ++
        orderText combined⟩ := congrArg Statement.mk htext
  rw [hstatement]
  -- Without keys there is no clause, and the words before it do not look like one.
  cases hempty : combined.isEmpty with
  | true =>
    have hnone : orderText combined = "" ∧ combined.clause = "" := by
      simp [orderText, SortOrder.clause, hempty]
    rw [hnone.1, hnone.2, String.append_empty]
    exact orderClause_of_plain (Compilation.plain_filtered r.region n.distinct hcomplete [])
  | false =>
    have happend := orderClause_append
      (Selection.selectFrom r.region n.distinct "x" ++ " WHERE " ++ w.render "x") hempty (.inl rfl)
    rwa [String.append_empty] at happend

/-- The clause of a query with the clauses that the options ask for. It is the same, unless there
are no keys: a hint or an import may have the words of a clause in it. -/
theorem orderClause_createQuery (hm : make name parameterCount e options = .ok m)
    (hn : m.parsedName? = some n) :
    ∃ static, Compilation.staticOrder e n = .ok static ∧ ∀ order, ∃ c,
      m.createQuery order = .ok c ∧ ((static.and order).isEmpty = false →
        c.statement.orderClause = (static.and order).clause) := by
  rcases derived_of_make hm hn with ⟨rfl, -, -, c, hc⟩
  rcases createQuery_parts name hc with ⟨r, w, -, -, hparts⟩
  refine ⟨_, r.staticOrder_eq, ?_⟩
  intro order
  rcases hparts options order with ⟨created, hcreated, -, htext⟩
  refine ⟨created, hcreated, ?_⟩
  -- Hints and imports stand before the clause, where they may hold anything: reading begins at the
  -- last clause.
  intro hkeys
  have hstatement : created.statement =
      ⟨traceText (options.trace && !options.insertsTrace) ++ options.insertedText ++
        (Selection.selectFrom r.region (options.distinct || n.distinct) "x" ++ " WHERE " ++
          w.render "x") ++ orderText ((⟨r.staticKeys⟩ : SortOrder).and order) ++
        limitText (if options.insertsLimit then none else options.limit.or n.limit)⟩ := by
    apply congrArg Statement.mk
    rw [htext]
    simp only [String.append_assoc]
  rw [hstatement]
  exact orderClause_append _ hkeys (limitText_cases _)

/-- A clause says which order it was written for, so orders are written alike only if they are the
same, and the clause of two orders has the pieces of the one and then those of the other. From the
query of a call the keys of the name can be read, then those of the call, and then those of its
page. The clauses that the options ask for do not change that, as long as there are keys. -/
theorem read_orderClause :
    (∀ s : SortOrder, SortOrder.read s.clause = .ok s) ∧
    (∀ s t : SortOrder, s.clause = t.clause → s = t) ∧
    (∀ s t : SortOrder,
      SortOrder.pieces (s.and t).clause = SortOrder.pieces s.clause ++ SortOrder.pieces t.clause ∧
        (s.and t).clause =
          SortOrder.ofPieces (SortOrder.pieces s.clause ++ SortOrder.pieces t.clause)) ∧
    ∀ {name : String} {parameterCount : Nat} {e : Entity} {options : Options} {m : Method}
      {n : MethodName}, make name parameterCount e options = .ok m → m.parsedName? = some n →
      ∃ static, Compilation.staticOrder e n = .ok static ∧ ∀ call : Call,
        let keys := static.keys ++ (call.order.keys ++ (call.page.map (·.order.keys)).getD [])
        ∃ plain created, m.plainQuery call.dynamicOrder = .ok plain ∧
          m.createQuery call.dynamicOrder = .ok created ∧
          SortOrder.read plain.statement.orderClause = .ok ⟨keys⟩ ∧
          (keys ≠ [] → SortOrder.read created.statement.orderClause = .ok ⟨keys⟩) := by
  refine ⟨SortOrder.read_clause, fun _ _ => SortOrder.clause_injective, SortOrder.clause_and, ?_⟩
  intro name parameterCount e options m n hm hn
  rcases orderClause_plainQuery hm hn with ⟨static, hstatic, hplain⟩
  rcases orderClause_createQuery hm hn with ⟨static', hstatic', hcreated⟩
  -- Both queries begin with the keys of the name.
  obtain rfl : static = static' := Except.ok.inj (hstatic.symm.trans hstatic')
  refine ⟨static, hstatic, ?_⟩
  intro call keys
  rcases hplain call.dynamicOrder with ⟨plain, hplain, hclause⟩
  rcases hcreated call.dynamicOrder with ⟨created, hcreated, hclause'⟩
  have hkeys : static.and call.dynamicOrder = ⟨keys⟩ := by
    rw [SortOrder.and, call.keys_dynamicOrder]
  rw [hkeys] at hclause hclause'
  refine ⟨plain, created, hplain, hcreated, ?_, ?_⟩
  · rw [hclause, SortOrder.read_clause]
  · intro hne
    have hsorted : (⟨keys⟩ : SortOrder).isEmpty = false := List.isEmpty_eq_false_iff.2 hne
    rw [hclause' hsorted, SortOrder.read_clause]

/-- Properties that are called as the words of a clause are, from all three places. -/
theorem read_orderClause_people :
    let e := (((Entity.ofRegion "/People").declare "age" .integer).declare "order" .string).declare
      "by" .string
    let n : MethodName :=
      ⟨false, none, [[⟨"Age", .equals, .never⟩]], [⟨"Order", .descending⟩]⟩
    let options : Options := ⟨none, ["age ORDER BY age"], none, some 3, false, false⟩
    let m : Method := ⟨"findByAgeOrderByOrderDesc", 1, e, options, .derived n⟩
    let named (s : String) (hs : isIdentifier s.toList = true) (d : Direction) : SortKey :=
      ⟨⟨⟨s, hs⟩, []⟩, d⟩
    let call : Call := ⟨⟨[named "ORDER" (by decide) .ascending, named "BY" (by decide) .descending]⟩,
      some ⟨0, 2, ⟨[named "DESC" (by decide) .ascending]⟩⟩⟩
    let keys := [named "order" (by decide) .descending, named "ORDER" (by decide) .ascending,
      named "BY" (by decide) .descending, named "DESC" (by decide) .ascending]
    make "findByAgeOrderByOrderDesc" 1 e options = .ok m ∧ m.parsedName? = some n ∧ keys ≠ [] ∧
      ∃ plain created, m.plainQuery call.dynamicOrder = .ok plain ∧
        m.createQuery call.dynamicOrder = .ok created ∧
        SortOrder.read plain.statement.orderClause = .ok ⟨keys⟩ ∧
        SortOrder.read created.statement.orderClause = .ok ⟨keys⟩ := by
  intro e n options m named call keys
  have hm : make "findByAgeOrderByOrderDesc" 1 e options = .ok m := by
    decide +kernel
  have hstatic : Compilation.staticOrder e n =
      .ok ⟨[named "order" (by decide) .descending]⟩ := by
    decide +kernel
  rcases read_orderClause.2.2.2 hm rfl with ⟨static, hstatic', hcalls⟩
  obtain rfl := Except.ok.inj (hstatic.symm.trans hstatic')
  rcases hcalls call with ⟨plain, created, hplain, hcreated, hread, hread'⟩
  have hne : keys ≠ [] := List.cons_ne_nil _ _
  exact ⟨hm, rfl, hne, plain, created, hplain, hcreated, hread, hread' hne⟩

end Method

end DerivedQuery
