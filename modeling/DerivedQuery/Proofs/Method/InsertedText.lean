import DerivedQuery.Proofs.Method.ExtendedText
import DerivedQuery.Proofs.Statement.Insertion
import DerivedQuery.Proofs.Text.Trim
import Mathlib.Data.List.TakeWhile

/-!
# Queries with hints and an import

Hints and an import are written in front of the query that is derived from a name. What they say is
text of the caller, and it is searched for a `LIMIT` and a `<TRACE>` together with the query. Such a
clause in a hint or in an import stands in the way of the one that the options ask for, and nothing
else in the query depends on them.

* `Options.insertedText`: what is written in front of the `SELECT`.
* `Condition.unquoted_render`, `unquoted_orderText`: a compiled query has neither quotes nor
  semicolons.
* `Method.extend_inserted`: the clauses that the options ask for.
* `Method.createQuery_inserted`: the queries of two methods whose hints and imports differ.
-/

namespace DerivedQuery

open Text Statement

/-! ## What is inserted -/

namespace Options

/-- The import clause as it is written; an import that is empty is not. -/
def importText (o : Options) : String :=
  match o.importing with
  | some statement =>
    if (bareImport statement).isEmpty then "" else "IMPORT " ++ bareImport statement ++ "; "
  | .none => ""

/-- The hint clause as it is written. There is none without hints, or if the import seems to have
one. -/
def hintText (o : Options) : String :=
  if (bareHints o.hints).isEmpty || (⟨o.importText⟩ : Statement).hasHints then ""
  else hintClause (bareHints o.hints) ++ " "

/-- What stands in front of the `SELECT`. -/
def insertedText (o : Options) : String :=
  o.hintText ++ o.importText

/-- There is a `LIMIT` in a hint or in the import. -/
def insertsLimit (o : Options) : Bool :=
  (⟨o.insertedText⟩ : Statement).hasLimit

/-- There is a `<TRACE>` in a hint or in the import. -/
def insertsTrace (o : Options) : Bool :=
  (⟨o.insertedText⟩ : Statement).hasTrace

/-- The import that is written ends with its semicolon, white space apart. -/
theorem endsMarked_importText (o : Options) : EndsMarked [';'] o.importText.toList := by
  unfold importText
  split
  · split
    · exact .inl rfl
    · next statement _ _ =>
      refine .inr ⟨("IMPORT " ++ bareImport statement).toList, ';', by simp, ?_⟩
      rw [String.toList_append]
      rfl
  · exact .inl rfl

/-- What is inserted ends with a semicolon or with the `>` of the hint clause. -/
theorem endsMarked_insertedText (o : Options) : EndsMarked [';', '>'] o.insertedText.toList := by
  have himport : EndsMarked [';', '>'] o.importText.toList := o.endsMarked_importText.mono (by simp)
  have hhints : EndsMarked [';', '>'] o.hintText.toList := by
    unfold hintText
    split
    · exact .inl rfl
    · exact .inr ⟨("<HINT " ++ ", ".intercalate ((bareHints o.hints).map quoteHint)).toList, '>',
        by simp, by simp [hintClause]⟩
  rw [insertedText, String.toList_append]
  exact hhints.append himport

end Options

namespace Options

variable {o : Options}

/-- An import that is blank is not written. -/
theorem importText_of_blank (h : o.hasImport = false) : o.importText = "" := by
  unfold importText
  cases himporting : o.importing with
  | none => rfl
  | some statement =>
    -- What is blank has no characters but white space, which is trimmed away.
    have hblank : isBlankText statement = true := by
      simpa [hasImport, himporting] using h
    have hempty : bareImport statement = "" := by
      simp [bareImport, trim_of_blank hblank, trimEnd]
    simp [hempty]

/-- Hints that are blank are not written. -/
theorem hintText_of_blank (h : o.hasHints = false) : o.hintText = "" := by
  have hempty : bareHints o.hints = [] := by
    simp only [hasHints, List.any_eq_false, Bool.not_eq_true, Bool.not_eq_false'] at h
    simp only [bareHints, List.filter_eq_nil_iff, List.forall_mem_map]
    intro hint hhint
    simp [trim_of_blank (h hint hhint)]
  simp [hintText, hempty]

/-- An import is inserted in front of a statement that has none. -/
theorem text_withImport (o : Options) {s : Statement} (h : s.hasImport = false) :
    (match o.importing with
      | some statement => if o.hasImport then s.withImport statement else s
      | .none => s).text = o.importText ++ s.text := by
  -- The guard of the options and the one of the statement both ask if there is anything to write.
  cases hblank : o.hasImport with
  | false =>
    rw [importText_of_blank hblank]
    cases o.importing <;> simp
  | true =>
    unfold importText
    cases o.importing with
    | none => simp
    | some statement =>
      by_cases hempty : (bareImport statement).isEmpty = true
      · simp [withImport, hempty]
      · simp [withImport, hempty, h]

/-- Hints are inserted in front of a statement, unless the import in front of it seems to have
some. -/
theorem text_withHints (o : Options) {s : Statement}
    (h : s.hasHints = (⟨o.importText⟩ : Statement).hasHints) :
    (if o.hasHints then s.withHints o.hints else s).text = o.hintText ++ s.text := by
  cases hblank : o.hasHints with
  | false => simp [hintText_of_blank hblank]
  | true =>
    rw [hintText, ← h, if_pos rfl, withHints]
    split
    · simp
    · rfl

end Options

/-! ## Compiled queries have neither quotes nor semicolons -/

/-- Neither a quote nor a semicolon. -/
def isUnquoted (c : Char) : Bool :=
  c != '\'' && c != ';'

/-- The characters of a path are unquoted. -/
theorem isUnquoted_of_pathChar {c : Char} (h : isPathChar c = true) : isUnquoted c = true := by
  have hquote : c ≠ '\'' := ne_of_pathChar h (by decide)
  have hmark : c ≠ ';' := ne_of_pathChar h (by decide)
  simp [isUnquoted, hquote, hmark]

/-- A text of such characters is unquoted. -/
theorem unquoted_path {s : String} (h : ∀ c ∈ s.toList, isPathChar c = true) :
    s.toList.all isUnquoted = true := by
  rw [List.all_eq_true]
  intro c hc
  exact isUnquoted_of_pathChar (h c hc)

/-- Whatever the operator, a phrase is made of a path, placeholders and words. -/
theorem unquoted_phrase (op : Operator) (ignoreCase : Bool) (path : PropertyPath) (a b : Nat) :
    (Criterion.phrase op ignoreCase (path.qualified "x") (Criterion.placeholder a)
      (Criterion.placeholder b)).toList.all isUnquoted = true := by
  have hpath : (path.qualified "x").toList.all isUnquoted = true :=
    unquoted_path (pathChar_of_mem_qualified path (by decide))
  have hplaceholder (i : Nat) : (Criterion.placeholder i).toList.all isUnquoted = true :=
    unquoted_path (pathChar_of_mem_placeholder i)
  cases op with
  | equals | notEquals =>
    cases ignoreCase <;>
      simp [-List.all_eq_true, Criterion.phrase, List.all_append, hpath, hplaceholder, isUnquoted]
  | _ =>
    simp [-List.all_eq_true, Criterion.phrase, List.all_append, hpath, hplaceholder, isUnquoted]

/-- The condition of a query is unquoted, by induction on the condition. -/
theorem Condition.unquoted_render {c : Condition} (hc : c.Complete) :
    (c.render "x").toList.all isUnquoted = true := by
  induction c with
  | test criterion placeholders =>
    rw [render, criterion.render_eq_phrase (complete_test _ _ |>.1 hc)]
    exact unquoted_phrase _ _ _ _ _
  | and a b iha ihb =>
    rcases (complete_and a b).1 hc with ⟨ha, hb⟩
    cases hor : a.isOr <;> cases hor' : b.isOr <;>
      simp [-List.all_eq_true, render, render.operand, hor, hor', List.all_append, iha ha, ihb hb,
        isUnquoted]
  | or a b iha ihb =>
    rcases (complete_or a b).1 hc with ⟨ha, hb⟩
    simp [-List.all_eq_true, render, List.all_append, iha ha, ihb hb, isUnquoted]

/-- The part of a query up to the region is unquoted. -/
theorem unquoted_selectFrom (region : RegionName) (distinct : Bool) :
    (Selection.selectFrom region distinct "x").toList.all isUnquoted = true := by
  have hregion : region.text.toList.all isUnquoted = true := by
    rw [List.all_eq_true]
    intro c hc
    -- A region name has characters of its own, and slashes between them.
    rcases region.regionChar_of_mem c hc with hchar | rfl
    · have hquote : c ≠ '\'' := by
        rintro rfl
        exact absurd hchar (by decide)
      have hmark : c ≠ ';' := by
        rintro rfl
        exact absurd hchar (by decide)
      simp [isUnquoted, hquote, hmark]
    · decide
  cases distinct <;>
    simp [-List.all_eq_true, Selection.selectFrom, RegionName.address, List.all_append, hregion,
      isUnquoted]

/-- The order of a query is unquoted. -/
theorem unquoted_orderText (order : SortOrder) :
    (orderText order).toList.all isUnquoted = true := by
  rw [List.all_eq_true]
  intro c hc
  have hchar := orderChar_of_mem order c hc
  have hquote : c ≠ '\'' := by
    rintro rfl
    exact absurd hchar (by decide)
  have hmark : c ≠ ';' := by
    rintro rfl
    exact absurd hchar (by decide)
  simp [isUnquoted, hquote, hmark]

/-! ## The query of a call -/

/-- A limit is appended to what is inserted and a clear query, unless one is inserted. -/
theorem text_limited {t : String} {s : Statement} (ht : EndsMarked [';', '>'] t.toList)
    (hs : Throughout Clear s.text.toList []) (limit : Option Nat) :
    ((⟨t ++ s.text⟩ : Statement).limited limit).text =
      t ++ (s.text ++ limitText (if (⟨t⟩ : Statement).hasLimit then none else limit)) := by
  have hlimit := hasLimit_marked ht (hasLimit_of_clear hs)
  cases limit with
  | none => simp [limited, limitText]
  | some n =>
    -- Of `t` and the statement, only `t` may have a limit.
    rw [limited, withLimit, hlimit]
    split <;> simp [limitText, String.append_assoc]

/-- A trace that is asked for is put in front, unless there is one. -/
theorem text_traced (asked : Bool) (s : Statement) :
    (if asked then s.withTrace else s).text = traceText (asked && !s.hasTrace) ++ s.text := by
  cases asked with
  | false => simp [traceText]
  | true =>
    rw [if_pos rfl, withTrace]
    cases htrace : s.hasTrace with
    | true => simp [traceText]
    | false => simp [traceText]

namespace Method

/-- A query that is clear and has neither quotes nor semicolons takes the clauses that the options
ask for. A limit or a trace in what is inserted takes the place of the one that was asked for. -/
theorem extend_inserted (m : Method) {region : RegionName} {rest : String}
    (hclear : ∀ distinct behind, FollowsName behind →
      Throughout Clear (Selection.selectFrom region distinct "x" ++ rest).toList behind)
    (hrest : rest.toList.all isUnquoted = true) (distinct : Bool) :
    (m.extend ⟨Selection.selectFrom region distinct "x" ++ rest⟩).text =
      traceText (m.options.trace && !m.options.insertsTrace) ++ m.options.insertedText ++
        (Selection.selectFrom region (m.options.distinct || distinct) "x" ++ rest) ++
          limitText (if m.options.insertsLimit then none else m.limit?) := by
  -- `t` is what `DISTINCT` leaves, and clear whatever follows it.
  let t : Statement := ⟨Selection.selectFrom region (m.options.distinct || distinct) "x" ++ rest⟩
  have ht : ∀ behind, FollowsName behind → Throughout Clear t.text.toList behind :=
    hclear (m.options.distinct || distinct)
  have hunquoted : ∀ c ∈ t.text.toList, isUnquoted c = true := by
    rw [← List.all_eq_true]
    simp [-List.all_eq_true, t, List.all_append, unquoted_selectFrom, hrest]
  have hquote : '\'' ∉ t.text.toList := fun h => absurd (hunquoted _ h) (by decide)
  have hmark : ';' ∉ t.text.toList := fun h => absurd (hunquoted _ h) (by decide)
  have hend : FollowsName [] := ⟨rfl, rfl⟩
  -- The clauses are added one after the other, each to what the one before has left.
  unfold extend
  extract_lets o s₁ s₂ s₃ s₄
  have hdistinct : s₁ = t := selectFrom_distinct o.distinct region distinct rest
  have himport : s₂.text = o.importText ++ t.text := by
    rw [← hdistinct]
    -- Without a semicolon in the query there is no import.
    apply o.text_withImport
    rw [hdistinct]
    exact hasImport_of_unmarked hmark
  have hhints : s₃.text = o.insertedText ++ t.text := by
    -- Without a quote in the query only the import may bring a hint clause.
    have hfound : s₂.hasHints = (⟨o.importText⟩ : Statement).hasHints := by
      rw [← hasHints_marked o.endsMarked_importText hquote, ← himport]
    have htext : s₃.text = o.hintText ++ s₂.text := o.text_withHints hfound
    rw [htext, himport, Options.insertedText, String.append_assoc]
  let limit : Option Nat := if o.insertsLimit then none else m.limit?
  have hlimit : s₄.text = o.insertedText ++ (t.text ++ limitText limit) := by
    have hs₃ : s₃ = ⟨o.insertedText ++ t.text⟩ := congrArg Statement.mk hhints
    have hs₄ : s₄ = s₃.limited m.limit? := by
      -- The same guard, asked of the statement with hints and an import in front.
      unfold s₄ limited
      rfl
    rw [hs₄, hs₃]
    exact text_limited o.endsMarked_insertedText (ht [] hend) m.limit?
  have htrace : s₄.hasTrace = o.insertsTrace := by
    -- A clear query has no trace, with or without a limit behind it.
    rcases limited_of_clear ht limit with ⟨htext, huntraced⟩
    have hs₄ : s₄ = ⟨o.insertedText ++ (t.limited limit).text⟩ := by
      rw [htext]
      exact congrArg Statement.mk hlimit
    rw [hs₄, hasTrace_marked o.endsMarked_insertedText huntraced]
    rfl
  rw [text_traced, htrace, hlimit]
  simp only [t, limit, o, String.append_assoc]

/-- The queries of all methods that are derived from one name, whatever their options are. -/
theorem createQuery_parts (name : String) {parameterCount : Nat} {e : Entity} {n : MethodName}
    {c : Compiled} (hc : Compilation.compile e n (some parameterCount) .unsorted = .ok c) :
    ∃ (r : Reading e n) (w : Condition), w.Complete ∧ w.render "x" = r.whereText ∧
      ∀ (o : Options) (order : SortOrder), ∃ c : Compiled,
        createQuery ⟨name, parameterCount, e, o, .derived n⟩ order = .ok c ∧
        c.bindings = w.bindings ∧
        c.statement.text = traceText (o.trace && !o.insertsTrace) ++ o.insertedText ++
          (Selection.selectFrom r.region (o.distinct || n.distinct) "x" ++ " WHERE " ++
            w.render "x" ++ orderText ((⟨r.staticKeys⟩ : SortOrder).and order)) ++
          limitText (if o.insertsLimit then none else o.limit.or n.limit) := by
  rcases Compilation.parts_of_compile hc with ⟨r, w, hcomplete, -, hwhere, hparts⟩
  refine ⟨r, w, hcomplete, hwhere, ?_⟩
  intro o order
  rcases hparts order with ⟨plain, hplain, hbindings, htext⟩
  refine ⟨_, bind_eq_ok_iff.2 ⟨plain, mapError_eq_ok_iff.2 hplain, rfl⟩, hbindings, ?_⟩
  let behind := " WHERE " ++ w.render "x" ++
    orderText ((⟨r.staticKeys⟩ : SortOrder).and order)
  have hclear (distinct : Bool) (rest : List Char) (hrest : FollowsName rest) :
      Throughout Clear (Selection.selectFrom r.region distinct "x" ++ behind).toList rest := by
    have horder := clear_orderText ((⟨r.staticKeys⟩ : SortOrder).and order) hrest
    simp [behind, clear_selectFrom, Condition.clear_render hcomplete, horder, clear_of_head,
      foldsTo]
  have hunquoted : behind.toList.all isUnquoted = true := by
    simp [-List.all_eq_true, behind, List.all_append, Condition.unquoted_render hcomplete,
      unquoted_orderText, isUnquoted]
  have hstatement : plain.statement =
      ⟨Selection.selectFrom r.region n.distinct "x" ++ behind⟩ := by
    apply congrArg Statement.mk
    rw [htext]
    simp only [behind, String.append_assoc]
  rw [hstatement, extend_inserted _ hclear hunquoted]
  simp only [behind, limit?, parsedName?, String.append_assoc]
  rfl

end Method

/-- The query that a name says. -/
def Reading.plainText {e : Entity} {n : MethodName} (r : Reading e n) (distinct : Bool)
    (order : SortOrder) : String :=
  "SELECT " ++ (if distinct || n.distinct then "DISTINCT " else "") ++ "* FROM /" ++
    r.region.text ++ " x WHERE " ++ r.whereText ++ r.orderText order

/-- The query of a call, with what is inserted in front of the `SELECT`. -/
def Reading.insertedQuery {e : Entity} {n : MethodName} (r : Reading e n) (o : Options)
    (order : SortOrder) : String :=
  traceText (o.trace && !o.insertsTrace) ++ o.insertedText ++ r.plainText o.distinct order ++
    limitText (if o.insertsLimit then none else o.limit.or n.limit)

namespace Method

/-- The queries of two methods that differ in their hints and their imports only. Both are the query
that the name says with the clauses that the options ask for, apart from a limit or a trace that is
inserted already. So without the inserted text they are the same, unless a hint or an import of one
of them has a limit or a trace and those of the other have none. -/
theorem createQuery_inserted {name : String} {parameterCount : Nat} {e : Entity}
    {options : Options} {hints : List String} {importing : Option String} {m m' : Method}
    {n : MethodName} (hm : make name parameterCount e options = .ok m)
    (hm' : make name parameterCount e { options with hints, importing } = .ok m')
    (hn : m.parsedName? = some n) :
    let options' : Options := { options with hints, importing }
    ∃ r : Reading e n, ∀ order, ∃ c c',
      m.createQuery order = .ok c ∧ m'.createQuery order = .ok c' ∧ c.bindings = c'.bindings ∧
      c.statement.text = r.insertedQuery options order ∧
      c'.statement.text = r.insertedQuery options' order ∧
      (options.insertsLimit = options'.insertsLimit →
        options.insertsTrace = options'.insertsTrace →
        ∃ front behind, c.statement.text = front ++ options.insertedText ++ behind ∧
          c'.statement.text = front ++ options'.insertedText ++ behind) := by
  intro options'
  rcases derived_of_make hm hn with ⟨rfl, -, hparse, c, hc⟩
  -- The other method is derived from the same name.
  have hderived : m' = ⟨name, parameterCount, e, options', .derived n⟩ := by
    rcases make_eq_ok_iff.1 hm with ⟨-, origin, horigin, hmade⟩
    rcases make_eq_ok_iff.1 hm' with ⟨-, origin', horigin', rfl⟩
    cases hmade
    -- Neither hints nor an import are looked at where the origin is found.
    have hsame : findOrigin name parameterCount e options' =
        findOrigin name parameterCount e options := rfl
    rw [hsame, horigin] at horigin'
    cases horigin'
    rfl
  subst hderived
  rcases createQuery_parts name hc with ⟨r, w, -, hwhere, hparts⟩
  -- For whatever options, the query is given by the same reading of the name.
  have hquery (o : Options) (order : SortOrder) :
      ∃ c, createQuery ⟨name, parameterCount, e, o, .derived n⟩ order = .ok c ∧
        c.bindings = w.bindings ∧ c.statement.text = r.insertedQuery o order := by
    rcases hparts o order with ⟨c, hcreated, hbindings, htext⟩
    refine ⟨c, hcreated, hbindings, ?_⟩
    rw [htext, hwhere, r.orderText_eq order]
    apply String.toList_injective
    simp [Reading.insertedQuery, Reading.plainText, Selection.selectFrom, RegionName.address]
  refine ⟨r, ?_⟩
  intro order
  rcases hquery options order with ⟨c, hcreated, hbindings, htext⟩
  rcases hquery options' order with ⟨c', hcreated', hbindings', htext'⟩
  refine ⟨c, c', hcreated, hcreated', hbindings.trans hbindings'.symm, htext, htext', ?_⟩
  intro hlimit htrace
  -- With the same two answers, the same clauses stand around what is inserted.
  refine ⟨traceText (options.trace && !options.insertsTrace), r.plainText options.distinct order ++
    limitText (if options.insertsLimit then none else options.limit.or n.limit), ?_, ?_⟩
  · rw [htext, Reading.insertedQuery, String.append_assoc]
  · rw [htext', Reading.insertedQuery, ← hlimit, ← htrace, String.append_assoc]

/-- A hint and an import that hold no clause, in place of others that hold none. -/
theorem createQuery_inserted_people :
    let e := (Entity.ofRegion "/People").declare "age" .integer
    let n : MethodName := ⟨false, none, [[⟨"Age", .equals, .never⟩]], []⟩
    let options : Options := ⟨none, ["age"], some "a.B", some 3, true, true⟩
    let options' : Options := { options with hints := ["it's", " "], importing := some "c.D;" }
    let m : Method := ⟨"findByAge", 1, e, options, .derived n⟩
    let m' : Method := ⟨"findByAge", 1, e, options', .derived n⟩
    make "findByAge" 1 e options = .ok m ∧ make "findByAge" 1 e options' = .ok m' ∧
      m.parsedName? = some n ∧ options.insertsLimit = options'.insertsLimit ∧
      options.insertsTrace = options'.insertsTrace ∧
      ∃ c c', m.createQuery .unsorted = .ok c ∧ m'.createQuery .unsorted = .ok c' ∧
        ∃ front behind, c.statement.text = front ++ options.insertedText ++ behind ∧
          c'.statement.text = front ++ options'.insertedText ++ behind := by
  intro e n options options' m m'
  have hm : make "findByAge" 1 e options = .ok m := by
    decide +kernel
  have hm' : make "findByAge" 1 e options' = .ok m' := by
    decide +kernel
  have hlimit : options.insertsLimit = options'.insertsLimit := by
    decide +kernel
  have htrace : options.insertsTrace = options'.insertsTrace := by
    decide +kernel
  rcases createQuery_inserted hm hm' rfl with ⟨r, hqueries⟩
  rcases hqueries .unsorted with ⟨c, c', hc, hc', -, -, -, hsame⟩
  exact ⟨hm, hm', rfl, hlimit, htrace, c, c', hc, hc', hsame hlimit htrace⟩

/-- A hint that is spelled like a limit takes the place of the limit that was asked for, which
another hint does not. -/
theorem createQuery_limit_in_hint :
    let e := (Entity.ofRegion "/People").declare "age" .integer
    let n : MethodName := ⟨false, none, [[⟨"Age", .equals, .never⟩]], []⟩
    let options (hint : String) : Options := ⟨none, [hint], none, some 3, false, true⟩
    let m (hint : String) : Method := ⟨"findByAge", 1, e, options hint, .derived n⟩
    let limited := "<TRACE> <HINT 'age'> SELECT * FROM /People x WHERE x.age = $1 LIMIT 3"
    let unlimited := "<TRACE> <HINT 'LIMIT 5'> SELECT * FROM /People x WHERE x.age = $1"
    (∀ hint ∈ ["age", "LIMIT 5"], make "findByAge" 1 e (options hint) = .ok (m hint)) ∧
      (m "age").createQuery .unsorted = .ok ⟨⟨limited⟩, [⟨1, .asGiven⟩]⟩ ∧
      (m "LIMIT 5").createQuery .unsorted = .ok ⟨⟨unlimited⟩, [⟨1, .asGiven⟩]⟩ ∧
      ¬∃ front behind, limited = front ++ (options "age").insertedText ++ behind ∧
        unlimited = front ++ (options "LIMIT 5").insertedText ++ behind := by
  intro e n options m limited unlimited
  have hmake : ∀ hint ∈ ["age", "LIMIT 5"], make "findByAge" 1 e (options hint) = .ok (m hint) := by
    decide +kernel
  have hlimited : (m "age").createQuery .unsorted = .ok ⟨⟨limited⟩, [⟨1, .asGiven⟩]⟩ := by
    decide +kernel
  have hunlimited : (m "LIMIT 5").createQuery .unsorted = .ok ⟨⟨unlimited⟩, [⟨1, .asGiven⟩]⟩ := by
    decide +kernel
  refine ⟨hmake, hlimited, hunlimited, ?_⟩
  rintro ⟨front, behind, hfirst, hsecond⟩
  -- The texts around the two clauses differ in length.
  have hlength : limited.length = 69 ∧ (options "age").insertedText.length = 13 := by
    decide +kernel
  have hlength' : unlimited.length = 65 ∧ (options "LIMIT 5").insertedText.length = 17 := by
    decide +kernel
  have haround := congrArg String.length hfirst
  have haround' := congrArg String.length hsecond
  simp only [String.length_append, hlength, hlength'] at haround haround'
  omega

end Method

end DerivedQuery
