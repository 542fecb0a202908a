import DerivedQuery.Proofs.Text.Position
import DerivedQuery.Statement.Extension

/-!
# Statements that can be extended

A clause is not added to a statement that seems to have it already. What makes it seem so is looked
for at every position of the text, so it is ruled out at every position.

* `Clear`: neither `<TRACE>` nor the end of a `LIMIT` with its bound is read here.
* `clear_of_head`, `clear_of_next`, `clear_of_solid`: fixed words and names are clear.
* `withLimit_of_clear`, `withTrace_of_untraced`, `withDistinct_select`: the clause is added.
-/

namespace DerivedQuery

namespace Text

/-- A keyword is read part by part. -/
theorem keywordChars_append (a b cs : List Char) :
    keywordChars (a ++ b) cs = (keywordChars a cs).bind (keywordChars b) := by
  induction a generalizing cs with
  | nil => rfl
  | cons k a ih =>
    cases cs with
    | nil => rfl
    | cons c cs =>
      simp only [List.cons_append, keywordChars]
      split
      · exact ih cs
      · rfl

end Text

namespace Statement

open Text

/-! ## Clear positions -/

/-- White space and the bound of a limit, a number or a placeholder. -/
def isBound (cs : List Char) : Bool :=
  (space cs).any fun rest => (optionally '$' rest).head?.any isDecimalDigit

/-- No `<TRACE>` begins here. -/
def Untraced (cs : List Char) : Prop :=
  keyword "<T" cs = none

/-- No `<TRACE>` begins here, and no `LIMIT` ends here with a bound behind it. -/
structure Clear (cs : List Char) : Prop where
  untraced : Untraced cs
  unlimited : ∀ rest, keyword "IT" cs = some rest → isBound rest = false

theorem foldsTo_of_ne {c : Char} (h : c ≠ '<') : foldsTo '<' c = false := by
  simp [foldsTo, h]

theorem untraced_of_head {c : Char} (hc : foldsTo '<' c = false) (cs : List Char) :
    Untraced (c :: cs) := by
  simp [Untraced, keyword, keywordChars, hc]

/-- Both marks begin with characters that most texts do without. -/
theorem clear_of_head {c : Char} (hc : foldsTo '<' c = false) (hi : foldsTo 'I' c = false)
    (cs : List Char) : Clear (c :: cs) := by
  refine ⟨untraced_of_head hc cs, ?_⟩
  intro rest h
  simp [keyword, keywordChars, hi] at h

/-- Both marks go on with a `T`. -/
theorem clear_of_next {d : Char} (hd : foldsTo 'T' d = false) (c : Char) (cs : List Char) :
    Clear (c :: d :: cs) := by
  constructor
  · simp [Untraced, keyword, keywordChars, hd]
  · intro rest h
    simp [keyword, keywordChars, hd] at h

theorem isBound_cons_of_solid {c : Char} (h : isBlank c = false) (cs : List Char) :
    isBound (c :: cs) = false := by
  simp [isBound, space, h]

/-- What may follow a name: no bound, and no `T` that the name would go on with. -/
def FollowsName (rest : List Char) : Prop :=
  isBound rest = false ∧ rest.head?.any (foldsTo 'T') = false

theorem followsName_cons {c : Char} (hblank : isBlank c = false) (ht : foldsTo 'T' c = false)
    (cs : List Char) : FollowsName (c :: cs) :=
  ⟨isBound_cons_of_solid hblank cs, ht⟩

/-- A blank may follow if it is the only one and no bound stands behind it. -/
theorem followsName_blank {c : Char} (hblank : isBlank c = false) (hdollar : c ≠ '$')
    (hdigit : isDecimalDigit c = false) (cs : List Char) : FollowsName (' ' :: c :: cs) := by
  constructor
  · have hspace : space (' ' :: c :: cs) = some (c :: cs) := by
      have htrim : trimStart (c :: cs) = c :: cs := List.dropWhile_cons_of_neg (by simp [hblank])
      simp [space, isBlank, htrim]
    simp [isBound, hspace, optionally, hdollar, hdigit]
  · rfl

/-- A name is clear, whatever it is. -/
theorem clear_of_solid {t rest : List Char} (h : ∀ c ∈ t, isBlank c = false ∧ foldsTo '<' c = false)
    (hrest : FollowsName rest) : Throughout Clear t rest := by
  induction t with
  | nil => trivial
  | cons c t ih =>
    rcases List.forall_mem_cons.1 h with ⟨⟨-, hc⟩, ht⟩
    refine ⟨⟨untraced_of_head hc _, ?_⟩, ih ht⟩
    intro behind hkeyword
    -- The `T` is the next character of the name, so that what follows it begins in the name or is
    -- all that follows the name.
    cases t with
    | nil =>
      rcases rest with _ | ⟨d, rest⟩
      · simp [keyword, keywordChars] at hkeyword
      · have hd : foldsTo 'T' d = false := hrest.2
        simp [keyword, keywordChars, hd] at hkeyword
    | cons d t =>
      have hbehind : t ++ rest = behind := by
        simp only [keyword, String.reduceToList, List.cons_append, keywordChars] at hkeyword
        split at hkeyword
        · split at hkeyword
          · exact Option.some.inj hkeyword
          · cases hkeyword
        · cases hkeyword
      subst hbehind
      cases t with
      | nil => exact hrest.1
      | cons e t =>
        have he : isBlank e = false := (ht e (by simp)).1
        exact isBound_cons_of_solid he _

/-! ## Adding a limit and a trace -/

/-- There is no trace in a limit. -/
theorem untraced_limit (n : Nat) (rest : List Char) :
    Throughout Untraced (" LIMIT " ++ toString n).toList rest := by
  apply throughout_of_forall
  intro c hc cs
  refine untraced_of_head ?_ cs
  simp only [String.toList_append, Nat.toString_eq_repr, Nat.toList_repr, List.mem_append] at hc
  rcases hc with hc | hc
  · have hall : ∀ d ∈ " LIMIT ".toList, foldsTo '<' d = false := by
      simp [foldsTo]
    exact hall c hc
  · have hdigit := Nat.isDigit_of_mem_toDigits (by decide) (by decide) hc
    apply foldsTo_of_ne
    rintro rfl
    cases hdigit

theorem hasTrace_of_untraced {s : Statement} (h : Throughout Untraced s.text.toList []) :
    s.hasTrace = false := by
  rw [Bool.eq_false_iff]
  intro htrace
  rcases exists_of_somewhere htrace with ⟨before, cs, hcs, hat⟩
  rcases Option.isSome_iff_exists.1 hat with ⟨rest, hrest⟩
  -- The clause is not empty, and its first two characters are ruled out here.
  have hparts : "<TRACE>".toList = "<T".toList ++ "RACE>".toList := by decide
  rw [traceClause?, keyword, hparts, keywordChars_append, Option.bind_eq_some_iff] at hrest
  rcases hrest with ⟨behind, hstart, -⟩
  have hne : cs ≠ [] := by
    rintro rfl
    cases hstart
  have huntraced := h.of_suffix hcs hne
  rw [List.append_nil, Untraced, keyword, hstart] at huntraced
  cases huntraced

theorem hasLimit_of_clear {s : Statement} (h : Throughout Clear s.text.toList []) :
    s.hasLimit = false := by
  rw [Bool.eq_false_iff]
  intro hlimit
  rcases exists_of_somewhere hlimit with ⟨before, cs, hcs, hat⟩
  simp only [limitAt, Bool.and_eq_true] at hat
  rcases (Option.any_eq_true _ _).1 hat.2 with ⟨digits, hdigits, hdigit⟩
  simp only [limitDigits?, Option.bind_eq_bind, Option.bind_eq_some_iff] at hdigits
  rcases hdigits with ⟨bound, ⟨behind, hkeyword, hspace⟩, hbound⟩
  -- The last two characters of the keyword stand further on in the text.
  have hparts : "LIMIT".toList = "LIM".toList ++ "IT".toList := by decide
  rw [keyword, hparts, keywordChars_append, Option.bind_eq_some_iff] at hkeyword
  rcases hkeyword with ⟨middle, hstart, hend⟩
  have hne : middle ≠ [] := by
    rintro rfl
    cases hend
  have hclear := h.of_suffix ((keywordChars_suffix hstart).trans hcs) hne
  rw [List.append_nil] at hclear
  have hnone := hclear.unlimited behind hend
  cases hbound
  rw [isBound, hspace, Option.any_some, hdigit] at hnone
  cases hnone

/-- A limit is appended to a clear text. -/
theorem withLimit_of_clear {s : Statement} (h : Throughout Clear s.text.toList []) (n : Nat) :
    (s.withLimit n).text = s.text ++ " LIMIT " ++ toString n := by
  rw [withLimit, hasLimit_of_clear h]
  rfl

/-- A trace is put in front of a text without one. -/
theorem withTrace_of_untraced {s : Statement} (h : Throughout Untraced s.text.toList []) :
    s.withTrace.text = "<TRACE> " ++ s.text := by
  rw [withTrace, hasTrace_of_untraced h]
  rfl

/-! ## Making a selection distinct -/

/-- A text that begins with `SELECT` has no clause in front of it. -/
theorem afterSelect?_select {rest : List Char} (h : endsWord rest = true) :
    afterSelect? ("SELECT".toList ++ rest) = some rest := by
  have htrim : trimStart ("SELECT".toList ++ rest) = "SELECT".toList ++ rest := rfl
  have hleading : leadingClause? ("SELECT".toList ++ rest) = none := rfl
  have hselect : keyword "SELECT" ("SELECT".toList ++ rest) = some rest := rfl
  rw [afterSelect?, htrim]
  split
  · next hsome =>
    rw [hleading] at hsome
    cases hsome
  · rw [hselect, Option.filter_some, if_pos h]

theorem withDistinct_of_none {s : Statement} (h : afterSelect? s.text.toList = none) :
    s.withDistinct = s := by
  simp [withDistinct, h]

/-- `DISTINCT` is put behind the `SELECT`, unless it is there already. -/
theorem withDistinct_of_some {a rest : String}
    (h : afterSelect? (a ++ rest).toList = some rest.toList) :
    (⟨a ++ rest⟩ : Statement).withDistinct =
      if startsDistinct rest.toList then ⟨a ++ rest⟩ else ⟨a ++ (" DISTINCT" ++ rest)⟩ := by
  simp only [withDistinct, h]
  split
  · rfl
  · have hlength : (a ++ rest).toList.length - rest.toList.length = a.toList.length := by
      rw [String.toList_append, List.length_append, Nat.add_sub_cancel]
    have htake : (a ++ rest).toList.take a.toList.length = a.toList := by
      rw [String.toList_append, List.take_left]
    rw [hlength, htake, String.ofList_toList, String.ofList_toList, String.append_assoc]

/-- A `SELECT` becomes distinct, unless it is so already. -/
theorem withDistinct_select {rest : String} (h : endsWord rest.toList = true) :
    (⟨"SELECT" ++ rest⟩ : Statement).withDistinct =
      if startsDistinct rest.toList then ⟨"SELECT" ++ rest⟩ else ⟨"SELECT DISTINCT" ++ rest⟩ := by
  have hselect := afterSelect?_select h
  rw [← String.toList_append] at hselect
  have hword : "SELECT DISTINCT" = "SELECT" ++ " DISTINCT" := rfl
  rw [withDistinct_of_some hselect, hword, String.append_assoc]

end Statement

end DerivedQuery
