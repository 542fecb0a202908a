import DerivedQuery.Proofs.Statement.Addition
import DerivedQuery.Proofs.Statement.Ordering

/-!
# Distinct selections and other clauses

`DISTINCT` is put behind the `SELECT`. No clause is read from one side of the `SELECT` to the other
but an import, which may end anywhere, and a hint, whose name may go on. So the answers stay what
they were, and clauses in front of the statement and behind it can be added before or after.

* `PutsDistinct`: what `DISTINCT` does to a statement; `putsDistinct_withDistinct`.
* `sameAnswers_withDistinct`: the same clauses are found in a statement and in the distinct one.
* `withDistinct_front`, `withDistinct_tail`: text in front of a statement or behind it.
* `withDistinct_commutes`: `DISTINCT` and any other clause are added in either sequence.
-/

namespace DerivedQuery.Statement

open Text

/-! ## Where `DISTINCT` is put -/

/-- A `SELECT` with leading clauses in front of it, and what follows it. -/
structure IsSelection (front select rest : String) : Prop where
  leading : LeadingClauses front.toList
  select : Reads (keyword "SELECT") select.toList
  ending : endsWord rest.toList = true

/-- What `DISTINCT` does to a statement. -/
inductive PutsDistinct : Statement → Statement → Prop
  /-- It is put behind the `SELECT`. -/
  | inserted {front select rest : String} (h : IsSelection front select rest)
      (hplain : startsDistinct rest.toList = false) :
      PutsDistinct ⟨front ++ select ++ rest⟩ ⟨front ++ select ++ " DISTINCT" ++ rest⟩
  /-- It is there already. -/
  | present {front select rest : String} (h : IsSelection front select rest)
      (hdistinct : startsDistinct rest.toList = true) :
      PutsDistinct ⟨front ++ select ++ rest⟩ ⟨front ++ select ++ rest⟩
  /-- There is no `SELECT`. -/
  | absent {s : Statement}
      (h : ∀ front select rest, IsSelection front select rest → s.text ≠ front ++ select ++ rest) :
      PutsDistinct s s

/-- The `SELECT` of a selection is the one that is found. -/
theorem IsSelection.afterSelect?_eq {front select rest : String} (h : IsSelection front select rest) :
    Statement.afterSelect? (front ++ select ++ rest).toList = some rest.toList := by
  rw [String.toList_append, String.toList_append, List.append_assoc]
  exact afterSelect?_leading h.leading h.select h.ending

/-- A `SELECT` that is found makes a selection of the statement. -/
theorem exists_isSelection {s : Statement} {rest : List Char}
    (h : Statement.afterSelect? s.text.toList = some rest) :
    ∃ front select behind : String, s = ⟨front ++ select ++ behind⟩ ∧ behind.toList = rest ∧
      IsSelection front select behind := by
  rcases exists_afterSelect h with ⟨a, w, hs, ha, hw, hend⟩
  refine ⟨String.ofList a, String.ofList w, String.ofList rest, ?_, String.toList_ofList, ?_⟩
  · rw [← String.ofList_append, ← String.ofList_append, List.append_assoc, ← hs, String.ofList_toList]
  · constructor <;> rwa [String.toList_ofList]

/-- Of the three cases it is the one that the search for a `SELECT` decides. -/
theorem putsDistinct_withDistinct (s : Statement) : PutsDistinct s s.withDistinct := by
  cases hselect : Statement.afterSelect? s.text.toList with
  | none =>
    rw [withDistinct_of_none hselect]
    -- Any selection of the text would have been found.
    refine .absent fun front select rest h htext => ?_
    rw [htext, h.afterSelect?_eq] at hselect
    cases hselect
  | some rest =>
    rcases exists_isSelection hselect with ⟨front, select, behind, rfl, rfl, h⟩
    rw [withDistinct_of_some h.afterSelect?_eq]
    split
    · next hdistinct => exact .present h hdistinct
    · next hplain =>
      rw [← String.append_assoc]
      exact .inserted h (by simpa using hplain)

/-! ## In front of a statement and behind it -/

/-- What is passed over in front of the `SELECT` may be put there before or after. -/
theorem withDistinct_front {t : String} (ht : IsFront t.toList) (s : Statement) :
    (⟨t ++ s.text⟩ : Statement).withDistinct = ⟨t ++ s.withDistinct.text⟩ := by
  cases hselect : afterSelect? s.text.toList with
  | none =>
    -- The search goes through `t` and ends as it does without it.
    have hnone : afterSelect? (t ++ s.text).toList = none := by
      rw [String.toList_append, ht, hselect]
    rw [withDistinct_of_none hselect, withDistinct_of_none (s := ⟨t ++ s.text⟩) hnone]
  | some rest =>
    rcases exists_isSelection hselect with ⟨front, select, b, rfl, rfl, -⟩
    have hfront : afterSelect? (t ++ (front ++ select) ++ b).toList = some b.toList := by
      rw [String.append_assoc, String.toList_append, ht, hselect]
    have hdistinct := withDistinct_of_some hfront
    rw [String.append_assoc] at hdistinct
    rw [hdistinct, withDistinct_of_some hselect]
    split <;> simp only [String.append_assoc]

/-- What may be appended to a statement may be appended before or after. -/
theorem withDistinct_tail {x : String} (hx : IsTail x.toList) (s : Statement) :
    (⟨s.text ++ x⟩ : Statement).withDistinct = ⟨s.withDistinct.text ++ x⟩ := by
  cases hselect : afterSelect? s.text.toList with
  | none =>
    -- A `SELECT` in what is appended is not looked for, since no leading clause ends there.
    have hnone : afterSelect? (s.text ++ x).toList = none := by
      rw [String.toList_append, hx.afterSelect?_append, hselect, Option.map_none]
    rw [withDistinct_of_none hselect, withDistinct_of_none (s := ⟨s.text ++ x⟩) hnone]
  | some rest =>
    rcases exists_isSelection hselect with ⟨front, select, b, rfl, rfl, -⟩
    have hbehind : (b ++ x).toList = b.toList ++ x.toList := String.toList_append
    have htail : afterSelect? (front ++ select ++ (b ++ x)).toList = some (b ++ x).toList := by
      rw [← String.append_assoc, String.toList_append, hx.afterSelect?_append, hselect, hbehind,
        Option.map_some]
    have hdistinct := withDistinct_of_some htail
    -- The word behind the `SELECT` is the same with `x` behind it.
    rw [← String.append_assoc, hbehind, hx.startsDistinct_append] at hdistinct
    rw [hdistinct, withDistinct_of_some hselect]
    split <;> simp only [String.append_assoc]

/-! ## The same clauses are found -/

/-- The end of a `SELECT`, in any case. -/
structure EndsSelect (l e c t : Char) : Prop where
  l_eq : l = 'L' ∨ l = 'l'
  e_eq : e = 'E' ∨ e = 'e'
  c_eq : c = 'C' ∨ c = 'c'
  t_eq : t = 'T' ∨ t = 't'

/-- A `DISTINCT` that is put into a statement stands behind the end of a `SELECT`. -/
theorem exists_withDistinct (s : Statement) : s.withDistinct = s ∨
    ∃ a l e c t rest, EndsSelect l e c t ∧ s.text.toList = a ++ l :: e :: c :: t :: rest ∧
      s.withDistinct.text.toList = a ++ l :: e :: c :: t :: (" DISTINCT".toList ++ rest) := by
  have hputs := putsDistinct_withDistinct s
  generalize s.withDistinct = s' at hputs ⊢
  cases hputs with
  | absent => exact .inl rfl
  | present => exact .inl rfl
  | @inserted front select rest h _ =>
    right
    -- Of the letters of the `SELECT` only the last four are named; the first two go to the front.
    rcases exists_letters_select h.select with ⟨s', e, l, e', c, t, hletters, -, hl, he, hc, ht⟩
    have hend : EndsSelect l e' c t := by
      constructor <;> simp_all [foldsTo]
    refine ⟨front.toList ++ [s', e], l, e', c, t, rest.toList, hend, ?_, ?_⟩
    · simp [hletters]
    · simp [hletters]

/-- No import begins with a character that is not an `I`. -/
theorem importAt_cons {c : Char} (h : foldsTo 'I' c = false) (before : Option Char)
    (cs : List Char) : importAt before (c :: cs) = false := by
  simp [importAt, keyword, keywordChars, h]

/-- No hint clause begins with anything but `<`. -/
theorem hintClause?_cons {c : Char} (h : foldsTo '<' c = false) (cs : List Char) :
    hintClause? (c :: cs) = none := by
  simp [hintClause?, keyword, keywordChars, h]

/-- No trace begins with anything but `<`. -/
theorem traceClause?_cons {c : Char} (h : foldsTo '<' c = false) (cs : List Char) :
    traceClause? (c :: cs) = none := by
  simp [traceClause?, keyword, keywordChars, h]

/-- An order sees of what stands behind a character only whether a word may end in front of it. -/
theorem orderByAt_congr {stop : Char} (hword : ∀ k ∈ "ORDERBY".toList, foldsTo k stop = false)
    (hblank : isBlank stop = false) (before : Option Char) (cs rest rest' : List Char) :
    orderByAt before (cs ++ stop :: rest) = orderByAt before (cs ++ stop :: rest') := by
  have hletters {word : String} (h : word.toList ⊆ "ORDERBY".toList) :
      StopsAt stop (keyword word) :=
    stopsAt_keyword fun k hk => hword k (h hk)
  -- Each part stops at the character, and then so does their sequence.
  have hstops : StopsAt stop fun cs => keyword "ORDER" cs >>= space >>= keyword "BY" :=
    ((hletters (by simp)).bind (stopsAt_space hblank)).bind (hletters (by simp))
  simp only [orderByAt, hstops cs]
  cases keyword "ORDER" cs >>= space >>= keyword "BY" with
  | none => rfl
  -- Of what is left only the first character is looked at, and there is one in either text.
  | some left => cases left <;> rfl

/-- An import sees of what stands behind a character only whether there is a semicolon. -/
theorem importAt_congr {stop : Char} (hword : ∀ k ∈ "IMPORT".toList, foldsTo k stop = false)
    (hblank : isBlank stop = false) {rest rest' : List Char}
    (h : rest.contains ';' = rest'.contains ';') (before : Option Char) (cs : List Char) :
    importAt before (cs ++ stop :: rest) = importAt before (cs ++ stop :: rest') := by
  have hstops : StopsAt stop fun cs => keyword "IMPORT" cs >>= space :=
    stopsAt_phrase hword hblank
  simp only [importAt, hstops cs]
  cases keyword "IMPORT" cs >>= space with
  | none => rfl
  | some left =>
    cases left with
    -- The white space ends right in front of the character.
    | nil => simp only [Option.map_some, List.nil_append, h]
    | cons d left =>
      -- There are characters between, among which the semicolon may be as well.
      simp only [List.contains_eq_mem, decide_eq_decide] at h
      simp [h]

/-- A hint clause sees of what stands behind a character only how a name goes on there. -/
theorem isSome_hintClause?_congr {stop : Char} (hword : ∀ k ∈ "<HINT".toList, foldsTo k stop = false)
    (hblank : isBlank stop = false) (hmarks : stop ≠ '\'' ∧ stop ≠ ',' ∧ stop ≠ '>')
    {rest rest' : List Char} (h : hintNames .inName rest = hintNames .inName rest')
    (cs : List Char) :
    (hintClause? (cs ++ stop :: rest)).isSome = (hintClause? (cs ++ stop :: rest')).isSome := by
  have hstops : StopsAt stop fun cs => keyword "<HINT" cs >>= space :=
    stopsAt_phrase hword hblank
  unfold hintClause?
  simp only [hstops cs]
  cases keyword "<HINT" cs >>= space with
  | none => rfl
  | some left => exact isSome_hintNames_congr hblank hmarks (by rw [h]) .beforeName left

section Inserted

variable {l e c t : Char} (a rest : List Char)

/-- A test that sees nothing behind the `C` of a `SELECT` and nothing in a `DISTINCT`. -/
theorem somewhere_distinct {test : Option Char → List Char → Bool}
    (hwithin : ∀ before b, test before (b ++ c :: t :: (" DISTINCT".toList ++ rest)) =
      test before (b ++ c :: t :: rest))
    (ht : ∀ before cs, test before (t :: cs) = false)
    (hword : somewhere test (some t) (" DISTINCT".toList ++ rest) = somewhere test (some 'T') rest)
    (hsame : ∀ cs, test (some 'T') cs = test (some t) cs) :
    somewhere test none (a ++ l :: e :: c :: t :: (" DISTINCT".toList ++ rest)) =
      somewhere test none (a ++ l :: e :: c :: t :: rest) := by
  have hsplit (cs : List Char) : a ++ l :: e :: c :: t :: cs = a ++ [l, e] ++ c :: t :: cs := by
    simp
  -- The tests that begin in front of the `C` are the same; those at the `C`, at the `T` and in the
  -- inserted text are compared one by one.
  rw [hsplit, hsplit]
  refine somewhere_append_congr (fun before b _ => hwithin before b) ?_ none _
  intro before
  -- At the `C` itself there is nothing in front of it.
  have hhere := hwithin before []
  rw [List.nil_append, List.nil_append] at hhere
  rw [somewhere, somewhere, somewhere, somewhere, hhere, ht, ht, hword,
    somewhere_congr_before hsame]

variable (h : EndsSelect l e c t)
include h

/-- In front of a word both letters count as one of a word. -/
theorem startsWord_t : startsWord (some 'T') = startsWord (some t) := by
  rcases h.t_eq with rfl | rfl <;> decide

/-- No limit is found or lost: one that begins in front of the `C` stops at it, and none begins at
the `T`. -/
theorem limit_distinct :
    somewhere limitAt none (a ++ l :: e :: c :: t :: (" DISTINCT".toList ++ rest)) =
      somewhere limitAt none (a ++ l :: e :: c :: t :: rest) := by
  apply somewhere_distinct
  · intro before b
    rcases h.c_eq with rfl | rfl <;>
      rw [limitAt_append _ (by simp [foldsTo]) (by decide) (by decide) (by decide),
        limitAt_append _ (by simp [foldsTo]) (by decide) (by decide) (by decide)]
  · intro before cs
    rcases h.t_eq with rfl | rfl <;> exact limitAt_cons (by decide) before cs
  · simp [somewhere, limitAt_cons, foldsTo]
  · intro cs
    rw [limitAt, limitAt, startsWord_t h]

/-- No order is found or lost. -/
theorem order_distinct :
    somewhere orderByAt none (a ++ l :: e :: c :: t :: (" DISTINCT".toList ++ rest)) =
      somewhere orderByAt none (a ++ l :: e :: c :: t :: rest) := by
  apply somewhere_distinct
  · intro before b
    rcases h.c_eq with rfl | rfl <;>
      exact orderByAt_congr (by simp [foldsTo]) (by decide) before b _ _
  · intro before cs
    rcases h.t_eq with rfl | rfl <;> exact orderByAt_cons (by decide) before cs
  · simp [somewhere, orderByAt_cons, foldsTo]
  · intro cs
    rw [orderByAt, orderByAt, startsWord_t h]

/-- No import is found or lost. The `I` of the inserted word is not followed by an `M`. -/
theorem import_distinct :
    somewhere importAt none (a ++ l :: e :: c :: t :: (" DISTINCT".toList ++ rest)) =
      somewhere importAt none (a ++ l :: e :: c :: t :: rest) := by
  apply somewhere_distinct
  · intro before b
    rcases h.c_eq with rfl | rfl <;>
      exact importAt_congr (by simp [foldsTo]) (by decide) (by simp) before b
  · intro before cs
    rcases h.t_eq with rfl | rfl <;> exact importAt_cons (by decide) before cs
  · have hi {d : Char} (hd : foldsTo 'M' d = false) (before : Option Char) (cs : List Char) :
        importAt before ('I' :: d :: cs) = false := by
      simp [importAt, keyword, keywordChars, hd]
    simp [somewhere, importAt_cons, foldsTo, hi]
  · intro cs
    rw [importAt, importAt, startsWord_t h]

/-- No hint clause is found or lost. A name that is open at the `SELECT` goes on through the
inserted text, since there is no quote in it. -/
theorem hints_distinct :
    somewhere (fun _ cs => (hintClause? cs).isSome) none
        (a ++ l :: e :: c :: t :: (" DISTINCT".toList ++ rest)) =
      somewhere (fun _ cs => (hintClause? cs).isSome) none (a ++ l :: e :: c :: t :: rest) := by
  have hname : hintNames .inName (t :: (" DISTINCT".toList ++ rest)) =
      hintNames .inName (t :: rest) := by
    have ht : '\'' ∉ t :: " DISTINCT".toList := by
      rcases h.t_eq with rfl | rfl <;> decide
    have ht' : '\'' ∉ [t] := fun hmem => ht (List.mem_cons.2 (.inl (List.mem_singleton.1 hmem)))
    rw [← List.cons_append, hintNames_inName_append ht, ← hintNames_inName_append ht' rest]
    rfl
  apply somewhere_distinct
  · intro _ b
    rcases h.c_eq with rfl | rfl <;>
      exact isSome_hintClause?_congr (by simp [foldsTo]) (by decide) (by decide) hname b
  · intro _ cs
    rcases h.t_eq with rfl | rfl <;> rw [hintClause?_cons (by decide)] <;> rfl
  · simp [somewhere, hintClause?_cons, foldsTo]
  · exact fun _ => rfl

/-- A trace may end with the last letters of `SELECT`, so the `L` is what stops it. -/
theorem trace_distinct :
    somewhere (fun _ cs => (traceClause? cs).isSome) none
        (a ++ l :: e :: c :: t :: (" DISTINCT".toList ++ rest)) =
      somewhere (fun _ cs => (traceClause? cs).isSome) none (a ++ l :: e :: c :: t :: rest) := by
  -- A trace has no `L`, in either case, so that what follows the `L` is not looked at.
  have hstops : StopsAt l traceClause? := by
    rcases h.l_eq with rfl | rfl <;> exact stopsAt_keyword (by simp [foldsTo])
  have hquiet {d : Char} (hd : foldsTo '<' d = false) (before : Option Char) (cs : List Char) :
      somewhere (fun _ cs => (traceClause? cs).isSome) before (d :: cs) =
        somewhere (fun _ cs => (traceClause? cs).isSome) none cs := by
    rw [somewhere, traceClause?_cons hd, Option.isSome_none, Bool.false_or]
    exact somewhere_congr_before (by intro _; rfl) cs
  refine somewhere_append_congr (fun _ b _ => ?_) (fun before => ?_) none a
  · exact (hstops.isSome_eq b _).trans (hstops.isSome_eq b _).symm
  · -- Behind it the trace begins nowhere in the letters and the inserted word, whatever their case.
    rcases h with ⟨rfl | rfl, rfl | rfl, rfl | rfl, rfl | rfl⟩ <;> simp [hquiet, foldsTo]

end Inserted

/-- The same clauses are found in a statement and in the distinct one. -/
theorem sameAnswers_withDistinct (s : Statement) : SameAnswers s.withDistinct s := by
  rcases exists_withDistinct s with hself | ⟨a, l, e, c, t, rest, h, hs, hdistinct⟩
  · rw [hself]
    exact .refl s
  · constructor
    · rw [hasImport, hasImport, hs, hdistinct, import_distinct a rest h]
    · rw [hasHints, hasHints, hs, hdistinct, hints_distinct a rest h]
    · rw [hasLimit, hasLimit, hs, hdistinct, limit_distinct a rest h]
    · rw [hasTrace, hasTrace, hs, hdistinct, trace_distinct a rest h]
    · rw [hasOrderBy, hasOrderBy, hs, hdistinct, order_distinct a rest h]

/-! ## Other clauses before and after -/

/-- What is split off behind the end of a word is split off behind what follows the word. -/
theorem splitTrailingLimit_word {c t : Char} (hc : isLimitChar c = false) (ht : isBlank t = false)
    (b cs : List Char) : splitTrailingLimit (b ++ c :: t :: cs) =
      (b ++ c :: t :: (splitTrailingLimit cs).1, (splitTrailingLimit cs).2) := by
  -- The last letter is not white space, and so no limit begins there.
  have hnone : isTrailingLimit (t :: cs) = false := by
    simp [isTrailingLimit, space, ht]
  rw [splitTrailingLimit_stop hc, splitTrailingLimit, hnone]
  rfl

/-- A limit at the end is split off a distinct selection as before. -/
theorem splitTrailingLimit_withDistinct {body limit : String}
    (h : splitTrailingLimit (body ++ limit).toList = (body.toList, limit.toList)) :
    splitTrailingLimit ((⟨body⟩ : Statement).withDistinct.text ++ limit).toList =
      ((⟨body⟩ : Statement).withDistinct.text.toList, limit.toList) := by
  rcases exists_withDistinct ⟨body⟩ with hself | ⟨a, l, e, c, t, rest, hend, hbody, hdistinct⟩
  · rw [hself]
    exact h
  · have hc : isLimitChar c = false := by
      rcases hend.c_eq with rfl | rfl <;> decide
    have ht : isBlank t = false := by
      rcases hend.t_eq with rfl | rfl <;> decide
    have hword (cs : List Char) : splitTrailingLimit (a ++ l :: e :: c :: t :: cs) =
        (a ++ l :: e :: c :: t :: (splitTrailingLimit cs).1, (splitTrailingLimit cs).2) := by
      simpa using splitTrailingLimit_word hc ht (a ++ [l, e]) cs
    -- The `DISTINCT` ends as the `SELECT` does.
    have hinserted (cs : List Char) : splitTrailingLimit (" DISTINCT".toList ++ cs) =
        (" DISTINCT".toList ++ (splitTrailingLimit cs).1, (splitTrailingLimit cs).2) :=
      splitTrailingLimit_word (by decide) (by decide) " DISTIN".toList cs
    have hbody' : body.toList = a ++ l :: e :: c :: t :: rest := hbody
    -- The limit stands behind the `SELECT`, so that it is split off from what follows it.
    have hrest : splitTrailingLimit (rest ++ limit.toList) = (rest, limit.toList) := by
      rw [String.toList_append, hbody', List.append_assoc] at h
      simp only [List.cons_append, hword, Prod.mk.injEq, List.append_cancel_left_eq,
        List.cons.injEq, true_and] at h
      exact Prod.ext h.1 h.2
    rw [String.toList_append, hdistinct, List.append_assoc]
    simp only [List.cons_append, List.append_assoc, hword, hinserted, hrest]

/-- A limit is put at the end, where a `DISTINCT` has been put before or is put after. -/
theorem withLimit_withDistinct (s : Statement) (n : Nat) :
    s.withDistinct.withLimit n = (s.withLimit n).withDistinct := by
  rw [withLimit, withLimit, s.sameAnswers_withDistinct.limit]
  split
  · rfl
  · rw [String.append_assoc, String.append_assoc]
    exact (withDistinct_tail (isTail_limit n) s).symm

/-- An order is put in front of a limit at the end, where a `DISTINCT` has been put before or is put
after. -/
theorem orderBy_withDistinct (s : Statement) (order : SortOrder) :
    s.withDistinct.orderBy order = (s.orderBy order).withDistinct := by
  rcases exists_orderBy s with ⟨body, limit, hs, hsplit, hlimit, horder⟩
  have hadded : s.withDistinct.addedOrder order = s.addedOrder order := by
    rw [addedOrder, addedOrder, s.sameAnswers_withDistinct.order]
  have hdistinct : s.withDistinct = ⟨(⟨body⟩ : Statement).withDistinct.text ++ limit⟩ := by
    rw [hs]
    exact withDistinct_tail hlimit ⟨body⟩
  have htail := (s.isTail_addedOrder order).append hlimit
  rw [← String.toList_append] at htail
  -- The limit is split off from the same body, with `DISTINCT` in it.
  have hsplit' : splitTrailingLimit s.withDistinct.text.toList =
      ((⟨body⟩ : Statement).withDistinct.text.toList, limit.toList) := by
    rw [hs] at hsplit
    rw [hdistinct]
    exact splitTrailingLimit_withDistinct hsplit
  have htext := text_orderBy s.withDistinct order
  rw [hadded, hsplit', String.ofList_toList, String.ofList_toList] at htext
  rw [horder]
  exact (congrArg Statement.mk htext).trans (withDistinct_tail htail ⟨body⟩).symm

namespace Addition

/-- An import that is added is one import. -/
def IsSealed : Addition → Prop
  | importing statement => IsOneImport statement
  | _ => True

/-- The clause is put in front of a statement. -/
def IsLeading : Addition → Prop
  | importing statement => IsOneImport statement
  | hints _ => True
  | trace => True
  | _ => False

instance : (addition : Addition) → Decidable addition.IsSealed
  | importing statement => inferInstanceAs (Decidable (IsOneImport statement))
  | hints _ | limit _ | trace | order _ => .isTrue trivial

instance : (addition : Addition) → Decidable addition.IsLeading
  | importing statement => inferInstanceAs (Decidable (IsOneImport statement))
  | hints _ | trace => .isTrue trivial
  | limit _ | order _ => .isFalse id

/-- The statement with the clauses, one after the other. -/
def applyAll (additions : List Addition) (s : Statement) : Statement :=
  additions.foldl (fun s addition => addition.apply s) s

/-- What a clause in front of a statement puts there, and in front of any statement with the same
answers. -/
theorem exists_front {addition : Addition} (h : addition.IsLeading) (s : Statement) :
    ∃ front : String, IsFront front.toList ∧
      ∀ s', SameAnswers s' s → addition.apply s' = ⟨front ++ s'.text⟩ := by
  have hnone : IsFront "".toList := fun _ => rfl
  cases addition with
  | importing statement =>
    cases hguard : (bareImport statement).isEmpty || s.hasImport with
    | true =>
      refine ⟨"", hnone, fun s' hs' => ?_⟩
      rw [Addition.apply, withImport, hs'.imports, hguard, if_pos rfl, String.empty_append]
    | false =>
      refine ⟨_, isFront_import h, fun s' hs' => ?_⟩
      rw [Addition.apply, withImport, hs'.imports, hguard, if_neg (by decide)]
  | hints hints =>
    cases hguard : (bareHints hints).isEmpty || s.hasHints with
    | true =>
      refine ⟨"", hnone, fun s' hs' => ?_⟩
      rw [Addition.apply, withHints, hs'.hints, hguard, if_pos rfl, String.empty_append]
    | false =>
      have hne : bareHints hints ≠ [] := by
        -- Without a name to write the guard would have held.
        intro hnil
        rw [hnil] at hguard
        cases hguard
      refine ⟨_, isFront_hintClause hne, fun s' hs' => ?_⟩
      rw [Addition.apply, withHints, hs'.hints, hguard, if_neg (by decide)]
  | trace =>
    cases hguard : s.hasTrace with
    | true =>
      refine ⟨"", hnone, fun s' hs' => ?_⟩
      rw [Addition.apply, withTrace, hs'.trace, hguard, if_pos rfl, String.empty_append]
    | false =>
      refine ⟨_, isFront_trace, fun s' hs' => ?_⟩
      rw [Addition.apply, withTrace, hs'.trace, hguard, if_neg (by decide)]
  | limit n => cases h
  | order order => cases h

/-- What a leading clause puts in front does not depend on the `DISTINCT`. -/
theorem apply_withDistinct_of_isLeading (addition : Addition) (h : addition.IsLeading)
    (s : Statement) : addition.apply s.withDistinct = (addition.apply s).withDistinct := by
  rcases exists_front h s with ⟨front, hfront, happly⟩
  rw [happly s (.refl s), happly s.withDistinct s.sameAnswers_withDistinct,
    withDistinct_front hfront]

/-- Sealed clauses are leading ones, or come behind the statement. -/
theorem apply_withDistinct {addition : Addition} (h : addition.IsSealed) (s : Statement) :
    addition.apply s.withDistinct = (addition.apply s).withDistinct := by
  cases addition with
  | importing statement => exact apply_withDistinct_of_isLeading (.importing statement) h s
  | hints hints => exact apply_withDistinct_of_isLeading (.hints hints) trivial s
  | trace => exact apply_withDistinct_of_isLeading .trace trivial s
  | limit n => exact s.withLimit_withDistinct n
  | order order => exact s.orderBy_withDistinct order

/-- What clauses in front of a statement put there. -/
theorem exists_front_applyAll {additions : List Addition}
    (h : ∀ addition ∈ additions, addition.IsLeading) (s : Statement) :
    ∃ front : String, IsFront front.toList ∧ applyAll additions s = ⟨front ++ s.text⟩ := by
  induction additions generalizing s with
  | nil => exact ⟨"", fun _ => rfl, by rw [String.empty_append]; rfl⟩
  | cons addition additions ih =>
    rcases List.forall_mem_cons.1 h with ⟨hfirst, hothers⟩
    rcases exists_front hfirst s with ⟨front, hfront, happly⟩
    rcases ih hothers (addition.apply s) with ⟨more, hmore, hall⟩
    refine ⟨more ++ front, ?_, ?_⟩
    · rw [String.toList_append]
      exact hmore.append hfront
    · -- Later clauses come in front of earlier ones.
      rw [String.append_assoc, applyAll, List.foldl_cons]
      exact hall.trans (by rw [happly s (.refl s)])

end Addition

/-- `DISTINCT` is put behind the `SELECT`, once. It and any other clause are added in either
sequence, if the import that is added is one. Behind any clauses that are put in front, `DISTINCT` is
put where it is put without them. -/
theorem withDistinct_commutes (s : Statement) :
    PutsDistinct s s.withDistinct ∧
    (∀ addition : Addition, addition.IsSealed →
      addition.apply s.withDistinct = (addition.apply s).withDistinct) ∧
    ∀ additions : List Addition, (∀ addition ∈ additions, addition.IsLeading) →
      ∃ front : String, (Addition.applyAll additions s).text = front ++ s.text ∧
        (Addition.applyAll additions s).withDistinct.text = front ++ s.withDistinct.text := by
  refine ⟨putsDistinct_withDistinct s, ?_, ?_⟩
  · intro addition h
    exact addition.apply_withDistinct h s
  · intro additions h
    rcases Addition.exists_front_applyAll h s with ⟨front, hfront, hall⟩
    exact ⟨front, by rw [hall], by rw [hall, withDistinct_front hfront]⟩

/-- Hints that mention a `SELECT`, and that end and separate names, in front of a statement with a
limit. -/
theorem withDistinct_commutes_people :
    let s : Statement := ⟨"<TRACE> SELECT x.name FROM /People x LIMIT $1"⟩
    let additions : List Addition :=
      [.hints ["a', 'SELECT", "'> SELECT "], .trace, .importing " app.Person;; "]
    let byName : Addition := .order ⟨[⟨⟨⟨"name", by decide⟩, []⟩, .ascending⟩]⟩
    byName.IsSealed ∧ (∀ addition ∈ additions, addition.IsLeading) ∧
      PutsDistinct s s.withDistinct ∧
      s.withDistinct.text = "<TRACE> SELECT DISTINCT x.name FROM /People x LIMIT $1" ∧
      byName.apply s.withDistinct = (byName.apply s).withDistinct ∧
      ∃ front : String, (Addition.applyAll additions s).text = front ++ s.text ∧
        (Addition.applyAll additions s).withDistinct.text = front ++ s.withDistinct.text := by
  intro s additions byName
  have hleading : ∀ addition ∈ additions, addition.IsLeading := by
    decide
  have htext : s.withDistinct.text = "<TRACE> SELECT DISTINCT x.name FROM /People x LIMIT $1" := by
    decide +kernel
  rcases withDistinct_commutes s with ⟨hputs, hcomm, hfront⟩
  exact ⟨trivial, hleading, hputs, htext, hcomm byName trivial, hfront additions hleading⟩

end DerivedQuery.Statement
