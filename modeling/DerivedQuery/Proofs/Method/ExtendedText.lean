import DerivedQuery.Proofs.Compilation.Layout
import DerivedQuery.Proofs.Method.Registration
import DerivedQuery.Proofs.MethodName.Decomposition
import DerivedQuery.Proofs.Statement.Extensible
import DerivedQuery.Proofs.Statement.OrderText

/-!
# The query of a call, with what the options ask for

The query of a derived method is extended with a `DISTINCT`, a `LIMIT` and a `<TRACE>` as text, each
unless it is found there already. Regions, properties and sort keys may have the names of keywords,
and still none of them is mistaken for a clause.

* `clear_selectFrom`, `Condition.clear_render`: no part of a compiled query looks like a clause.
* `Reading.extendedText`: the query of a call, written down from the name and the options.
* `createQuery_text`: a method that was made gives this query.
-/

namespace DerivedQuery

open Text Statement

/-! ## The parts of a compiled query are clear -/

/-- A placeholder has no letters. -/
theorem clear_placeholder (i : Nat) (rest : List Char) :
    Throughout Clear (Criterion.placeholder i).toList rest := by
  apply throughout_of_forall
  intro c hc cs
  refine clear_of_head (foldsTo_of_pathChar (pathChar_of_mem_placeholder i c hc)) ?_ cs
  rw [toList_placeholder, List.mem_cons] at hc
  rcases hc with rfl | hc
  · decide
  · have hdigit := Nat.isDigit_of_mem_toDigits (by decide) (by decide) hc
    exact foldsTo_of_isDigit (by decide) (by decide) hdigit

/-- What is written for a criterion on a property of `x` is clear. -/
theorem clear_phrase (op : Operator) (ignoreCase : Bool) (path : PropertyPath) (a b : Nat)
    (rest : List Char) :
    Throughout Clear (Criterion.phrase op ignoreCase (path.qualified "x")
      (Criterion.placeholder a) (Criterion.placeholder b)).toList rest := by
  have hpath {rest : List Char} (hrest : FollowsName rest) :
      Throughout Clear (path.qualified "x").toList rest :=
    clear_path (pathChar_of_mem_qualified path (by decide)) hrest
  cases op with
  | equals | notEquals =>
    cases ignoreCase <;>
      simp [Criterion.phrase, hpath, clear_placeholder, clear_of_head, clear_of_next, foldsTo,
        followsName_blank, followsName_cons, isBlank, isDecimalDigit]
  | _ =>
    simp [Criterion.phrase, hpath, clear_placeholder, clear_of_head, clear_of_next, foldsTo,
      followsName_blank, isBlank, isDecimalDigit]

/-- What a condition is written as is clear. -/
theorem Condition.clear_render {c : Condition} (hc : c.Complete) (rest : List Char) :
    Throughout Clear (c.render "x").toList rest := by
  induction c generalizing rest with
  | test criterion placeholders =>
    rw [render, criterion.render_eq_phrase (complete_test _ _ |>.1 hc)]
    exact clear_phrase _ _ _ _ _ rest
  | and a b iha ihb =>
    rcases (complete_and a b).1 hc with ⟨ha, hb⟩
    cases hor : a.isOr <;> cases hor' : b.isOr <;>
      simp [render, render.operand, hor, hor', iha ha, ihb hb, clear_of_head, foldsTo]
  | or a b iha ihb =>
    rcases (complete_or a b).1 hc with ⟨ha, hb⟩
    simp [render, iha ha, ihb hb, clear_of_head, foldsTo]

/-- A region is clear in front of the name of its objects. -/
theorem clear_selectFrom (region : RegionName) (distinct : Bool) (rest : List Char) :
    Throughout Clear (Selection.selectFrom region distinct "x").toList rest := by
  have hregion {rest : List Char} (hrest : FollowsName rest) :
      Throughout Clear region.text.toList rest := by
    refine clear_of_solid ?_ hrest
    intro c hc
    have hne : c ≠ '<' := by
      rintro rfl
      rcases region.regionChar_of_mem '<' hc with hchar | hslash
      · exact absurd hchar (by decide)
      · exact absurd hslash (by decide)
    exact ⟨region.isBlank_of_mem c hc, foldsTo_of_ne hne⟩
  cases distinct <;>
    simp [Selection.selectFrom, RegionName.address, hregion, clear_of_head, clear_of_next, foldsTo,
      followsName_blank, isBlank, isDecimalDigit]

/-! ## Extending a compiled query -/

/-- A limit as it is appended. -/
def limitText : Option Nat → String
  | some n => " LIMIT " ++ toString n
  | none => ""

/-- A trace as it is put in front. -/
def traceText (trace : Bool) : String :=
  if trace then "<TRACE> " else ""

/-- The query of a call: what the name says, and what the options ask for. -/
def Reading.extendedText {e : Entity} {n : MethodName} (r : Reading e n) (o : Options)
    (order : SortOrder) : String :=
  traceText o.trace ++ "SELECT " ++ (if o.distinct || n.distinct then "DISTINCT " else "") ++
    "* FROM /" ++ r.region.text ++ " x WHERE " ++ r.whereText ++ r.orderText order ++
    limitText (o.limit.or n.limit)

/-- A selection becomes distinct, once, and nothing else in the query changes. -/
theorem withDistinct_selectFrom (region : RegionName) (distinct : Bool) (rest : String) :
    (⟨Selection.selectFrom region distinct "x" ++ rest⟩ : Statement).withDistinct =
      ⟨Selection.selectFrom region true "x" ++ rest⟩ := by
  -- What follows the `SELECT`, and the `DISTINCT` that may stand behind it.
  let tail := " * FROM " ++ region.address ++ " x" ++ rest
  have hplain : Selection.selectFrom region false "x" ++ rest = "SELECT" ++ tail := by
    simp [Selection.selectFrom, tail, ← String.toList_inj]
  have hmade :
      Selection.selectFrom region true "x" ++ rest = "SELECT" ++ (" DISTINCT" ++ tail) := by
    simp [Selection.selectFrom, tail, ← String.toList_inj]
  have hend : endsWord tail.toList = true := by
    simp [tail, endsWord, isWordChar]
  have happend : "SELECT" ++ (" DISTINCT" ++ tail) = "SELECT DISTINCT" ++ tail := by
    rw [← String.append_assoc]
    rfl
  cases distinct with
  | true =>
    have hstarts : startsDistinct (" DISTINCT" ++ tail).toList = true := by
      simp [tail, startsDistinct, space, isBlank, trimStart, keyword, keywordChars, foldsTo,
        endsWord, isWordChar]
    rw [hmade, withDistinct_select (by simp [endsWord, isWordChar]), if_pos hstarts]
  | false =>
    have hstarts : startsDistinct tail.toList = false := by
      simp [tail, startsDistinct, space, isBlank, trimStart, keyword, keywordChars, foldsTo]
    rw [hplain, withDistinct_select hend, hstarts, hmade, happend]
    rfl

/-- A selection is distinct if it was so, or if it is made so. -/
theorem selectFrom_distinct (asked : Bool) (region : RegionName) (distinct : Bool)
    (rest : String) :
    (if asked then
        (⟨Selection.selectFrom region distinct "x" ++ rest⟩ : Statement).withDistinct
      else ⟨Selection.selectFrom region distinct "x" ++ rest⟩) =
      ⟨Selection.selectFrom region (asked || distinct) "x" ++ rest⟩ := by
  cases asked with
  | true => simp [withDistinct_selectFrom]
  | false => simp

/-- The statement with a limit, if there is one. -/
def Statement.limited (s : Statement) : Option Nat → Statement
  | some n => s.withLimit n
  | none => s

/-- A clear text takes a limit, and is still without a trace. -/
theorem limited_of_clear {s : Statement}
    (h : ∀ behind, FollowsName behind → Throughout Clear s.text.toList behind)
    (limit : Option Nat) :
    (s.limited limit).text = s.text ++ limitText limit ∧
      Throughout Untraced (s.limited limit).text.toList [] := by
  have hend : FollowsName [] := ⟨rfl, rfl⟩
  cases limit with
  | none => exact ⟨by simp [limited, limitText], (h [] hend).imp fun cs hcs => hcs.untraced⟩
  | some n =>
    have htext : (s.limited (some n)).text = s.text ++ (" LIMIT " ++ toString n) := by
      rw [limited, withLimit_of_clear (h [] hend) n, String.append_assoc]
    have hbehind : FollowsName ((" LIMIT " ++ toString n).toList ++ []) := by
      simp [followsName_blank, isBlank, isDecimalDigit]
    refine ⟨htext, ?_⟩
    rw [htext, String.toList_append, throughout_append]
    exact ⟨(h _ hbehind).imp fun cs hcs => hcs.untraced, untraced_limit n []⟩

namespace Method

/-- With neither hints nor an import among the options, a query that is clear takes the clauses that
the options ask for. -/
theorem extend_text {m : Method} (hhints : m.options.hasHints = false)
    (himport : m.options.hasImport = false) {region : RegionName} {rest : String}
    (hclear : ∀ distinct behind, FollowsName behind →
      Throughout Clear (Selection.selectFrom region distinct "x" ++ rest).toList behind)
    (distinct : Bool) :
    (m.extend ⟨Selection.selectFrom region distinct "x" ++ rest⟩).text =
      traceText m.options.trace ++
        (Selection.selectFrom region (m.options.distinct || distinct) "x" ++ rest) ++
          limitText m.limit? := by
  let t : Statement := ⟨Selection.selectFrom region (m.options.distinct || distinct) "x" ++ rest⟩
  have ht : ∀ behind, FollowsName behind → Throughout Clear t.text.toList behind :=
    hclear (m.options.distinct || distinct)
  have hdistinct := selectFrom_distinct m.options.distinct region distinct rest
  -- Without hints and an import, extending comes down to three steps.
  have hextend : m.extend ⟨Selection.selectFrom region distinct "x" ++ rest⟩ =
      if m.options.trace then (t.limited m.limit?).withTrace else t.limited m.limit? := by
    unfold extend
    simp only [hdistinct, hhints]
    cases m.options.importing with
    | none => rfl
    | some statement =>
      simp only [himport]
      rfl
  rcases limited_of_clear ht m.limit? with ⟨htext, huntraced⟩
  rw [hextend]
  cases m.options.trace with
  | true =>
    have htrace := withTrace_of_untraced huntraced
    simp [htrace, htext, traceText, t, String.append_assoc]
  | false => simp [htext, traceText, t, String.append_assoc]

/-- Every query of a derived method with neither hints nor an import is the one that its name and
its options say, with each clause just once. Its limit is positive. -/
theorem createQuery_text {name : String} {parameterCount : Nat} {e : Entity} {options : Options}
    {m : Method} {n : MethodName} (hm : make name parameterCount e options = .ok m)
    (hn : m.parsedName? = some n) (hhints : options.hasHints = false)
    (himport : options.hasImport = false) :
    MethodName.parse name = .ok n ∧ m.limit? = options.limit.or n.limit ∧
      (∀ k, m.limit? = some k → 1 ≤ k) ∧
      ∃ r : Reading e n, ∀ order, ∃ c, m.createQuery order = .ok c ∧
        c.statement.text = r.extendedText options order := by
  rcases derived_of_make hm hn with ⟨rfl, hlimit, hparse, c, hc⟩
  refine ⟨hparse, rfl, ?_, ?_⟩
  · -- A limit that was given is not zero, and one in the name is positive.
    intro k hk
    rcases Option.or_eq_some_iff.1 hk with hgiven | ⟨-, hnamed⟩
    · have hne : k ≠ 0 := by
        rintro rfl
        exact hlimit hgiven
      omega
    · exact MethodName.limit_pos_of_parse hparse k hnamed
  · rcases Compilation.parts_of_compile hc with ⟨r, w, hcomplete, -, hwhere, hparts⟩
    refine ⟨r, ?_⟩
    intro order
    rcases hparts order with ⟨c', hc', -, htext⟩
    refine ⟨_, bind_eq_ok_iff.2 ⟨c', mapError_eq_ok_iff.2 hc', rfl⟩, ?_⟩
    -- The part behind the selection is the same whether the selection is distinct or not.
    let behind := " WHERE " ++ w.render "x" ++
      orderText ((⟨r.staticKeys⟩ : SortOrder).and order)
    have hclear (distinct : Bool) (rest : List Char) (hrest : FollowsName rest) :
        Throughout Clear (Selection.selectFrom r.region distinct "x" ++ behind).toList rest := by
      have horder := clear_orderText ((⟨r.staticKeys⟩ : SortOrder).and order) hrest
      simp [behind, clear_selectFrom, Condition.clear_render hcomplete, horder, clear_of_head,
        foldsTo]
    have hsplit : c'.statement.text = Selection.selectFrom r.region n.distinct "x" ++ behind := by
      rw [htext]
      simp only [behind, String.append_assoc]
    have hstatement : c'.statement = ⟨Selection.selectFrom r.region n.distinct "x" ++ behind⟩ :=
      congrArg Statement.mk hsplit
    have hbehind : behind = " WHERE " ++ r.whereText ++ r.orderText order := by
      rw [← hwhere, ← r.orderText_eq order]
    rw [hstatement, extend_text hhints himport hclear, hbehind]
    apply String.toList_injective
    simp [Reading.extendedText, Selection.selectFrom, RegionName.address, limit?, parsedName?]

/-- A region, a property and a sort key that are called like a clause. -/
theorem createQuery_text_limit :
    let e := (Entity.ofRegion "/LIMIT").declare "limit" .integer
    let options : Options := ⟨none, [], none, none, true, true⟩
    let n : MethodName :=
      ⟨false, some 3, [[⟨"Limit", .equals, .never⟩]], [⟨"Limit", .ascending⟩]⟩
    let m : Method := ⟨"findTop3ByLimitOrderByLimit", 1, e, options, .derived n⟩
    make "findTop3ByLimitOrderByLimit" 1 e options = .ok m ∧
      (∀ k, m.limit? = some k → 1 ≤ k) ∧
      ∃ r : Reading e n, ∀ order, ∃ c, m.createQuery order = .ok c ∧
        c.statement.text = r.extendedText options order := by
  intro e options n m
  have hm : make "findTop3ByLimitOrderByLimit" 1 e options = .ok m := by
    decide +kernel
  rcases createQuery_text hm rfl rfl rfl with ⟨-, -, hpos, hquery⟩
  exact ⟨hm, hpos, hquery⟩

end Method

end DerivedQuery
