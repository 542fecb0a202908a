import DerivedQuery.Proofs.Method.InsertedText
import DerivedQuery.Proofs.Statement.Presence
import DerivedQuery.Proofs.Statement.Recognition

/-!
# A derived query given as text

The query of a derived method, taken without an order, can be given to another method as its text.
An order is then put into the text instead of being compiled into the query, in front of a limit
that may stand at its end, and the clauses that the options ask for are found in the text.

* `Condition.endsSolid_render`: a condition does not end in white space.
* `clausedText`: a query with all its clauses. `orderBy_clausedText` puts an order into it, and
  `Method.extend_clausedText` adds nothing to it.
* `Method.createQuery_explicit`: the method with the text gives the same query in every order.
-/

namespace DerivedQuery

open Text Statement

/-! ## The end of a condition -/

/-- A comparison ends with a placeholder, a word or a parenthesis. -/
theorem endsSolid_phrase (op : Operator) (ignoreCase : Bool) (path : String) (a b : Nat) :
    EndsSolid (Criterion.phrase op ignoreCase path (Criterion.placeholder a)
      (Criterion.placeholder b)).toList := by
  have hplaceholder (i : Nat) :
      ∃ d, (Criterion.placeholder i).toList.getLast? = some d ∧ isBlank d = false := by
    have hne : (Criterion.placeholder i).toList ≠ [] := by
      simp [toList_placeholder]
    refine ⟨_, List.getLast?_eq_some_getLast hne, ?_⟩
    exact isBlank_of_pathChar (pathChar_of_mem_placeholder i _ (List.getLast_mem hne))
  rcases hplaceholder a with ⟨c, hlast, hc⟩
  rcases hplaceholder b with ⟨d, hlast', hd⟩
  -- The other ends of a phrase: a parenthesis, `NULL`, `true` and `false`.
  have hmark : isBlank ')' = false := by decide
  have hnull : isBlank 'L' = false := by decide
  have htruth : isBlank 'e' = false := by decide
  cases op with
  | equals | notEquals =>
    cases ignoreCase <;>
      simp [EndsSolid, Criterion.phrase, List.getLast?_cons, hlast, hc, hmark]
  | _ =>
    simp [EndsSolid, Criterion.phrase, List.getLast?_cons, hlast, hc, hlast', hd, hmark, hnull,
      htruth]

theorem Condition.endsSolid_render {c : Condition} (hc : c.Complete) :
    EndsSolid (c.render "x").toList := by
  induction c with
  | test criterion placeholders =>
    rw [render, criterion.render_eq_phrase (complete_test _ _ |>.1 hc)]
    exact endsSolid_phrase _ _ _ _ _
  | and a b iha ihb =>
    have hb := ihb ((complete_and a b).1 hc).2
    -- The right operand is the end, with or without a parenthesis.
    rw [render, String.toList_append]
    apply EndsSolid.append
    unfold render.operand
    split
    · rw [String.toList_append]
      exact EndsSolid.append (by simp [EndsSolid, isBlank]) _
    · exact hb
  | or a b iha ihb =>
    have hb := ihb ((complete_or a b).1 hc).2
    rw [render, String.toList_append]
    exact hb.append _

/-! ## Queries with all clauses -/

/-- A trace, a selection with a condition, an order and a limit, as far as there are such. -/
def clausedText (trace : Bool) (region : RegionName) (distinct : Bool) (w : Condition)
    (order : SortOrder) (limit : Option Nat) : String :=
  traceText trace ++ (Selection.selectFrom region distinct "x" ++ " WHERE " ++ w.render "x") ++
    orderText order ++ limitText limit

section

variable (trace : Bool) (region : RegionName) (distinct : Bool) (order : SortOrder)
  (limit : Option Nat)

theorem isPresent_clausedText (w : Condition) :
    isBlankText (clausedText trace region distinct w order limit) = false := by
  have hword : isBlankText "SELECT " = false := by decide
  simp [clausedText, Selection.selectFrom, hword]

/-- What stands in front of the order is plain, whatever follows. -/
theorem plain_traced {w : Condition} (hw : w.Complete) (rest : List Char) :
    Throughout Plain (traceText trace ++ (Selection.selectFrom region distinct "x" ++ " WHERE " ++
      w.render "x")).toList rest := by
  have hfiltered := Compilation.plain_filtered region distinct hw rest
  rw [String.toList_append, throughout_append]
  refine ⟨?_, hfiltered⟩
  cases trace with
  | false => trivial
  | true =>
    simp [traceText, Selection.selectFrom, Plain, isBlank, beginsPlain_cons, foldsTo]

/-- An order is put in front of the limit. -/
theorem orderBy_clausedText {w : Condition} (hw : w.Complete) :
    (⟨clausedText trace region distinct w .unsorted limit⟩ : Statement).orderBy order =
      ⟨clausedText trace region distinct w order limit⟩ := by
  let body := traceText trace ++
    (Selection.selectFrom region distinct "x" ++ " WHERE " ++ w.render "x")
  have hplain := plain_traced trace region distinct hw
  have hend : EndsSolid body.toList := by
    simp only [body, String.toList_append]
    exact ((Condition.endsSolid_render hw).append _).append _
  have hunsorted :
      clausedText trace region distinct w .unsorted limit = body ++ limitText limit := by
    simp [clausedText, body, orderText, SortOrder.unsorted, SortOrder.isEmpty]
  apply congrArg Statement.mk
  rw [hunsorted]
  -- An order takes its place behind the condition: at the end, or before the limit that is found.
  cases limit with
  | none =>
    rw [limitText, String.append_empty]
    refine (orderBy_of_plain (hplain []) order).trans ?_
    simp [clausedText, limitText]
  | some n =>
    exact orderBy_before_limit (hplain _) hend (unordered_limit n) (isTrailingLimit_limit n) order

/-- A query that is distinct stays as it is, also behind a trace. -/
theorem withDistinct_clausedText (w : Condition) :
    (⟨clausedText trace region true w order limit⟩ : Statement).withDistinct =
      ⟨clausedText trace region true w order limit⟩ := by
  let tail := " DISTINCT * FROM " ++ region.address ++ " x WHERE " ++ w.render "x" ++
    orderText order ++ limitText limit
  have hsplit : (clausedText trace region true w order limit).toList =
      (traceText trace).toList ++ ("SELECT".toList ++ tail.toList) := by
    simp [clausedText, Selection.selectFrom, tail]
  have hend : endsWord tail.toList = true := by
    simp [tail, endsWord, isWordChar]
  have hstarts : startsDistinct tail.toList = true := by
    simp [tail, startsDistinct, space, isBlank, trimStart, keyword, keywordChars, foldsTo, endsWord,
      isWordChar]
  -- The search for `SELECT` passes over a trace.
  have hselect : afterSelect? ((traceText trace).toList ++ ("SELECT".toList ++ tail.toList)) =
      some tail.toList := by
    cases trace with
    | false => exact afterSelect?_select hend
    | true =>
      rw [traceText, if_pos rfl, isFront_trace]
      exact afterSelect?_select hend
  rw [← hsplit] at hselect
  exact withDistinct_of_startsDistinct hselect hstarts

/-- A query that has a limit takes no other. -/
theorem withLimit_clausedText (w : Condition) (n k : Nat) :
    (⟨clausedText trace region distinct w order (some n)⟩ : Statement).withLimit k =
      ⟨clausedText trace region distinct w order (some n)⟩ :=
  withLimit_of_limit _ n k

/-- A query that is traced takes no other trace. -/
theorem withTrace_clausedText (w : Condition) :
    (⟨clausedText true region distinct w order limit⟩ : Statement).withTrace =
      ⟨clausedText true region distinct w order limit⟩ := by
  simp only [clausedText, String.append_assoc]
  exact withTrace_of_trace _

end

namespace Method

/-- Nothing is added to a statement that has the clauses that the options ask for, if they ask for
neither hints nor an import. -/
theorem extend_eq_self {m : Method} {s : Statement} (hhints : m.options.hasHints = false)
    (himport : m.options.hasImport = false)
    (hdistinct : m.options.distinct = true → s.withDistinct = s)
    (hlimit : ∀ n, m.limit? = some n → s.withLimit n = s)
    (htrace : m.options.trace = true → s.withTrace = s) : m.extend s = s := by
  unfold extend
  extract_lets o s₁ s₂ s₃ s₄
  -- Each of the five steps leaves the statement alone.
  have h₁ : s₁ = s := by
    unfold s₁
    split
    · next hasked => exact hdistinct hasked
    · rfl
  have h₂ : s₂ = s := by
    unfold s₂
    rw [h₁]
    split
    · rw [himport]
      rfl
    · rfl
  have h₃ : s₃ = s := by
    unfold s₃
    rw [h₂, hhints]
    rfl
  have h₄ : s₄ = s := by
    unfold s₄
    rw [h₃]
    split
    · next n hn => exact hlimit n hn
    · rfl
  rw [h₄]
  split
  · next hasked => exact htrace hasked
  · rfl

/-- A query takes no clause that it has. -/
theorem extend_clausedText {m : Method} (hhints : m.options.hasHints = false)
    (himport : m.options.hasImport = false) (region : RegionName) {distinct : Bool}
    (w : Condition) (order : SortOrder) {limit : Option Nat}
    (hdistinct : m.options.distinct = true → distinct = true)
    (hlimit : m.limit?.isSome = true → limit.isSome = true) :
    m.extend ⟨clausedText m.options.trace region distinct w order limit⟩ =
      ⟨clausedText m.options.trace region distinct w order limit⟩ := by
  apply extend_eq_self hhints himport
  · intro hasked
    rw [hdistinct hasked]
    exact withDistinct_clausedText _ region order limit w
  · intro k hk
    have hsome : limit.isSome = true := hlimit (by rw [hk, Option.isSome_some])
    rcases Option.isSome_iff_exists.1 hsome with ⟨n, rfl⟩
    exact withLimit_clausedText _ region distinct order w n k
  · intro hasked
    rw [hasked]
    exact withTrace_clausedText region distinct order limit w

/-- The query of a derived method whose name asks for no order, and whose options ask for neither
hints nor an import. -/
theorem createQuery_clausedText {name : String} {parameterCount : Nat} {e : Entity} {o : Options}
    {m : Method} {n : MethodName} (hm : make name parameterCount e o = .ok m)
    (hn : m.parsedName? = some n) (horder : n.order = []) (hhints : o.hasHints = false)
    (himport : o.hasImport = false) :
    ∃ (region : RegionName) (w : Condition), w.Complete ∧
      ∀ order, ∃ c, m.createQuery order = .ok c ∧ c.statement.text =
        clausedText o.trace region (o.distinct || n.distinct) w order (o.limit.or n.limit) := by
  rcases derived_of_make hm hn with ⟨rfl, -, -, compiled, hcompiled⟩
  rcases createQuery_parts name hcompiled with ⟨r, w, hcomplete, -, hparts⟩
  refine ⟨r.region, w, hcomplete, ?_⟩
  intro order
  rcases hparts o order with ⟨c, hc, -, htext⟩
  refine ⟨c, hc, ?_⟩
  -- No clause can be found in an empty insertion, so neither trace nor limit is held back.
  have hinserted : o.insertedText = "" := by
    rw [Options.insertedText, Options.hintText_of_blank hhints, Options.importText_of_blank himport]
    rfl
  have htrace : o.insertsTrace = false := by
    rw [Options.insertsTrace, hinserted]
    decide
  have hlimit : o.insertsLimit = false := by
    rw [Options.insertsLimit, hinserted]
    decide
  have hkeys : r.staticKeys = [] := by
    rw [Reading.staticKeys, horder, List.map_nil]
  rw [htext, hinserted, htrace, hlimit, hkeys]
  simp [clausedText, SortOrder.and, String.append_assoc]

/-- The query of a derived method without an order, given as text to a method with the same options:
that method is made, whatever else its declaration says, and its query is the same in every order.
The name must not ask for an order of its own, and the options neither for hints nor for an
import. -/
theorem createQuery_explicit {name : String} {parameterCount : Nat} {e : Entity} {o : Options}
    {m : Method} {n : MethodName} (hm : make name parameterCount e o = .ok m)
    (hn : m.parsedName? = some n) (horder : n.order = []) (hhints : o.hasHints = false)
    (himport : o.hasImport = false) :
    ∃ unordered, m.createQuery .unsorted = .ok unordered ∧
      ∀ (name' : String) (parameterCount' : Nat) (e' : Entity), ∃ explicit : Method,
        make name' parameterCount' e' { o with query := some unordered.statement.text } =
          .ok explicit ∧
        ∀ order, ∃ c c', m.createQuery order = .ok c ∧ explicit.createQuery order = .ok c' ∧
          c'.statement.text = c.statement.text := by
  rcases createQuery_clausedText hm hn horder hhints himport with
    ⟨region, w, hcomplete, hquery⟩
  let text (order : SortOrder) : String :=
    clausedText o.trace region (o.distinct || n.distinct) w order (o.limit.or n.limit)
  rcases hquery .unsorted with ⟨unordered, hunordered, hgiven⟩
  refine ⟨unordered, hunordered, ?_⟩
  intro name' parameterCount' e'
  rw [hgiven]
  let given : Options := { o with query := some (text .unsorted) }
  let explicit : Method := ⟨name', parameterCount', e', given, .explicit ⟨text .unsorted⟩⟩
  refine ⟨explicit, ?_, ?_⟩
  · -- The method with the text is made, since the text is not blank and the limit is the same.
    have hpositive : o.limit ≠ some 0 := (make_eq_ok_iff.1 hm).1
    have hstatement : Statement.ofText (text .unsorted) = .ok ⟨text .unsorted⟩ := by
      rw [Statement.ofText, isPresent_clausedText]
      rfl
    exact make_eq_ok_iff.2 ⟨hpositive, _,
      (findOrigin_some_eq_ok_iff rfl).2 ⟨_, hstatement, rfl⟩, rfl⟩
  · intro order
    rcases hquery order with ⟨c, hc, hctext⟩
    have hordered : (⟨text .unsorted⟩ : Statement).orderBy order = ⟨text order⟩ :=
      orderBy_clausedText _ _ _ order _ hcomplete
    -- The options ask for no clause that the text does not have.
    have hextended : explicit.extend ⟨text order⟩ = ⟨text order⟩ := by
      apply extend_clausedText hhints himport
      · intro hasked
        have hdistinct : o.distinct = true := hasked
        rw [hdistinct, Bool.true_or]
      · intro hasked
        have hlimit : o.limit.isSome = true := by
          simpa [explicit, given, limit?, parsedName?] using hasked
        rw [Option.isSome_or, hlimit, Bool.true_or]
    refine ⟨c, ⟨explicit.extend ((⟨text .unsorted⟩ : Statement).orderBy order), []⟩, hc, rfl, ?_⟩
    rw [hordered, hextended, hctext]

/-- A limit in the name, one that is printed in the text, and every other option. -/
theorem createQuery_explicit_people :
    let e := (Entity.ofRegion "/People").declare "age" .integer
    let o : Options := ⟨none, [" "], none, none, true, true⟩
    let n : MethodName := ⟨false, some 3, [[⟨"Age", .equals, .never⟩]], []⟩
    let m : Method := ⟨"findTop3ByAge", 1, e, o, .derived n⟩
    make "findTop3ByAge" 1 e o = .ok m ∧ m.parsedName? = some n ∧ n.order = [] ∧
      o.hasHints = false ∧ o.hasImport = false ∧
      ∃ unordered, m.createQuery .unsorted = .ok unordered ∧ ∃ explicit : Method,
        make "any" 0 e { o with query := some unordered.statement.text } = .ok explicit ∧
        ∀ order, ∃ c c', m.createQuery order = .ok c ∧ explicit.createQuery order = .ok c' ∧
          c'.statement.text = c.statement.text := by
  intro e o n m
  have hm : make "findTop3ByAge" 1 e o = .ok m := by
    decide +kernel
  have hhints : o.hasHints = false := by
    decide
  rcases createQuery_explicit hm rfl rfl hhints rfl with ⟨unordered, hunordered, hexplicit⟩
  exact ⟨hm, rfl, rfl, hhints, rfl, unordered, hunordered, hexplicit "any" 0 e⟩

end Method

end DerivedQuery
