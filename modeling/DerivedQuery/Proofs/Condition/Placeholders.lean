import DerivedQuery.Proofs.Condition.Phrase

/-!
# The placeholders in a text

A placeholder is a `$` with digits behind it. Names of properties may contain `$` and digits as
well, but never begin with them, so a `$` that goes on an identifier is no placeholder.

* `placeholdersIn`: the placeholders that can be read in a text, from left to right.
* `Shows`: which placeholders are read in a piece of text, wherever it stands. Pieces are put
  together with `Shows.append`.
* `Condition.shows_render`: in the text of a condition, its placeholders are read in the order of
  its criteria.
-/

namespace DerivedQuery

/-! ## Reading placeholders -/

/-- The placeholders in `cs`, where `before` is the character in front: a `$` with as many digits as
stand behind it, at least one. A `$` that goes on an identifier begins none. -/
def placeholdersFrom (before : Option Char) : List Char → List String
  | [] => []
  | c :: cs =>
    let digits := cs.takeWhile Char.isDigit
    if c = '$' ∧ before.any continuesIdentifier = false ∧ digits ≠ [] then
      String.ofList (c :: digits) :: placeholdersFrom (some c) cs
    else placeholdersFrom (some c) cs

/-- The placeholders in a text. -/
def placeholdersIn (text : String) : List String :=
  placeholdersFrom none text.toList

/-- The text ends here or goes on with a character that neither begins a placeholder nor is part of
the one in front. -/
def Apart (cs : List Char) : Prop :=
  cs.head?.all (fun c => c ≠ '$' && !c.isDigit) = true

instance (cs : List Char) : Decidable (Apart cs) :=
  inferInstanceAs (Decidable (_ = true))

theorem Apart.append {t rest : List Char} (ht : Apart t) (hrest : Apart rest) :
    Apart (t ++ rest) := by
  cases t with
  | nil => exact hrest
  | cons c t => exact ht

theorem placeholdersFrom_cons_of_ne {c : Char} (hc : c ≠ '$') (before : Option Char)
    (cs : List Char) : placeholdersFrom before (c :: cs) = placeholdersFrom (some c) cs := by
  simp [placeholdersFrom, hc]

/-- What is read does not depend on the character in front, unless a `$` stands here. -/
theorem placeholdersFrom_eq_none {rest : List Char} (h : Apart rest) (before : Option Char) :
    placeholdersFrom before rest = placeholdersFrom none rest := by
  cases rest with
  | nil => rfl
  | cons c rest =>
    have hc : c ≠ '$' := by
      rintro rfl
      simp [Apart] at h
    rw [placeholdersFrom_cons_of_ne hc, placeholdersFrom_cons_of_ne hc]

/-- What contains no `$` is passed over. -/
theorem placeholdersFrom_append {t : List Char} (h : ∀ c ∈ t, c ≠ '$') (before : Option Char)
    (rest : List Char) :
    placeholdersFrom before (t ++ rest) = placeholdersFrom (t.getLast?.or before) rest := by
  induction t generalizing before with
  | nil => rfl
  | cons c t ih =>
    have hc : c ≠ '$' := h c List.mem_cons_self
    have hlast : t.getLast?.or (some c) = (c :: t).getLast?.or before := by
      cases t <;> simp [List.getLast?_cons]
    rw [List.cons_append, placeholdersFrom_cons_of_ne hc,
      ih (fun d hd => h d (List.mem_cons_of_mem c hd)), hlast]

/-- The rest of an identifier is passed over, with every `$` in it. -/
theorem placeholdersFrom_identifier {t rest : List Char}
    (h : ∀ c ∈ t, continuesIdentifier c = true) (hrest : Apart rest) {b : Char}
    (hb : continuesIdentifier b = true) :
    placeholdersFrom (some b) (t ++ rest) = placeholdersFrom none rest := by
  induction t generalizing b with
  | nil => exact placeholdersFrom_eq_none hrest (some b)
  | cons c t ih =>
    have hc : continuesIdentifier c = true := h c List.mem_cons_self
    have hstep : placeholdersFrom (some b) (c :: (t ++ rest)) =
        placeholdersFrom (some c) (t ++ rest) := by
      simp [placeholdersFrom, hb]
    rw [List.cons_append, hstep]
    exact ih (fun d hd => h d (List.mem_cons_of_mem c hd)) hc

/-- A placeholder that does not go on an identifier is read. -/
theorem placeholdersFrom_placeholder {before : Option Char}
    (hbefore : before.any continuesIdentifier = false) (i : Nat) {rest : List Char}
    (hrest : Apart rest) :
    placeholdersFrom before ((Criterion.placeholder i).toList ++ rest) =
      Criterion.placeholder i :: placeholdersFrom none rest := by
  have hdigit : ∀ c ∈ Nat.toDigits 10 i, c.isDigit = true := by
    intro c hc
    exact Nat.isDigit_of_mem_toDigits (by decide) (by decide) hc
  -- The digits of the placeholder are all there are: what follows begins with none.
  have hend : rest.takeWhile Char.isDigit = [] := by
    cases rest with
    | nil => rfl
    | cons c rest =>
      have hc : c.isDigit = false := by
        simp only [Apart, List.head?_cons, Option.all_some, Bool.and_eq_true,
          Bool.not_eq_true'] at hrest
        exact hrest.2
      simp [hc]
  have hdigits : (Nat.toDigits 10 i ++ rest).takeWhile Char.isDigit = Nat.toDigits 10 i := by
    rw [List.takeWhile_append_of_pos hdigit, hend, List.append_nil]
  have htext : String.ofList ('$' :: Nat.toDigits 10 i) = Criterion.placeholder i := by
    rw [← toList_placeholder, String.ofList_toList]
  -- The digits themselves begin no placeholder.
  have hne : ∀ c ∈ Nat.toDigits 10 i, c ≠ '$' := by
    rintro c hc rfl
    exact absurd (hdigit _ hc) (by decide)
  rw [toList_placeholder, List.cons_append, placeholdersFrom]
  simp only [hdigits, hbefore, Nat.toDigits_ne_nil, ne_eq, not_false_eq_true, and_self, if_true,
    htext, List.cons.injEq, true_and]
  rw [placeholdersFrom_append hne, placeholdersFrom_eq_none hrest]

/-! ## Pieces of text -/

/-- In the piece `t` the placeholders `is` are read, whatever stands in front of it, where it does
not run on into a `$` or a digit. -/
structure Shows (t : String) (is : List Nat) : Prop where
  apart : Apart t.toList
  reads : ∀ before rest, Apart rest → placeholdersFrom before (t.toList ++ rest) =
    is.map Criterion.placeholder ++ placeholdersFrom none rest

namespace Shows

/-- What is shown is what is read of the whole text. -/
theorem placeholdersIn_eq {t : String} {is : List Nat} (h : Shows t is) :
    placeholdersIn t = is.map Criterion.placeholder := by
  have hreads := h.reads none [] rfl
  simpa [placeholdersIn, placeholdersFrom] using hreads

/-- Two pieces show their placeholders one after the other. -/
theorem append {t u : String} {is js : List Nat} (ht : Shows t is) (hu : Shows u js) :
    Shows (t ++ u) (is ++ js) where
  apart := by
    rw [String.toList_append]
    exact ht.apart.append hu.apart
  reads before rest hrest := by
    rw [String.toList_append, List.append_assoc, ht.reads before _ (hu.apart.append hrest),
      hu.reads none rest hrest, List.map_append, List.append_assoc]

/-- Behind a piece without placeholders. -/
theorem append_right {t u : String} {is : List Nat} (ht : Shows t []) (hu : Shows u is) :
    Shows (t ++ u) is :=
  ht.append hu

/-- In front of a piece without placeholders. -/
theorem append_left {t u : String} {is : List Nat} (ht : Shows t is) (hu : Shows u []) :
    Shows (t ++ u) is := by
  have happend := ht.append hu
  rwa [List.append_nil] at happend

/-- A piece without `$`. -/
theorem of_forall {t : String} (happart : Apart t.toList) (h : ∀ c ∈ t.toList, c ≠ '$') :
    Shows t [] where
  apart := happart
  reads before rest hrest := by
    rw [placeholdersFrom_append h, placeholdersFrom_eq_none hrest]
    rfl

/-- A fixed word without `$`, which does not begin with a digit. -/
theorem word (t : String) (h : Apart t.toList ∧ '$' ∉ t.toList) : Shows t [] := by
  refine of_forall h.1 ?_
  rintro c hc rfl
  exact h.2 hc

/-- A fixed word, behind which an identifier would not go on, and a placeholder. -/
theorem argument (t : String) (i : Nat)
    (h : Apart t.toList ∧ '$' ∉ t.toList ∧
      t.toList.getLast?.any (!continuesIdentifier ·) = true) :
    Shows (t ++ Criterion.placeholder i) [i] where
  apart := by
    rcases h with ⟨happart, -, hlast⟩
    rw [String.toList_append]
    cases ht : t.toList with
    | nil => simp [ht] at hlast
    -- The piece begins as its fixed word does, which is not empty.
    | cons c cs => rwa [ht] at happart
  reads before rest hrest := by
    rcases h with ⟨-, hdollar, hlast⟩
    have hne : ∀ c ∈ t.toList, c ≠ '$' := by
      rintro c hc rfl
      exact hdollar hc
    -- The last character of the word stands in front of the placeholder.
    have hbefore : (t.toList.getLast?.or before).any continuesIdentifier = false := by
      rcases (Option.any_eq_true _ _).1 hlast with ⟨c, hc, hend⟩
      simpa [hc] using hend
    rw [String.toList_append, List.append_assoc, placeholdersFrom_append hne,
      placeholdersFrom_placeholder hbefore i hrest]
    rfl

/-- A piece, a fixed word and a placeholder. -/
theorem followed {t : String} {is : List Nat} (ht : Shows t is) (u : String) (i : Nat)
    (hu : Apart u.toList ∧ '$' ∉ u.toList ∧
      u.toList.getLast?.any (!continuesIdentifier ·) = true) :
    Shows (t ++ u ++ Criterion.placeholder i) (is ++ [i]) := by
  rw [String.append_assoc]
  exact ht.append (argument u i hu)

/-- An identifier. -/
theorem identifier {t : String} (h : isIdentifier t.toList = true) : Shows t [] := by
  cases ht : t.toList with
  | nil => simp [ht, isIdentifier] at h
  | cons c cs =>
    rw [ht] at h
    have hstart := startsIdentifier_of_isIdentifier h
    have hcontinues := continuesIdentifier_of_mem h
    -- The first character is neither a `$` nor a digit.
    have hc : c ≠ '$' ∧ c.isDigit = false := by
      simp only [startsIdentifier, Bool.or_eq_true, beq_iff_eq] at hstart
      rcases hstart with halpha | rfl
      · rw [Text.isAlpha_iff] at halpha
        constructor
        · rintro rfl
          exact absurd halpha (by decide)
        · rw [Bool.eq_false_iff]
          intro hdigit
          rw [Text.isDigit_iff] at hdigit
          omega
      · decide
    constructor
    · simp [Apart, ht, hc]
    · intro before rest hrest
      -- Behind the first character the identifier goes on, whatever it contains.
      rw [ht, List.cons_append, placeholdersFrom_cons_of_ne hc.1]
      exact placeholdersFrom_identifier
        (fun d hd => hcontinues d (List.mem_cons_of_mem c hd)) hrest
        (hcontinues c List.mem_cons_self)

/-- Joined pieces without placeholders. -/
theorem intercalate {joint : String} (hjoint : Shows joint []) {pieces : List String}
    (h : ∀ p ∈ pieces, Shows p []) : Shows (joint.intercalate pieces) [] := by
  induction pieces with
  | nil => exact word "" (by decide)
  | cons p ps ih =>
    have hp : Shows p [] := h p List.mem_cons_self
    have hps := ih fun q hq => h q (List.mem_cons_of_mem p hq)
    cases ps with
    | nil => simpa using hp
    | cons q qs =>
      rw [String.intercalate_cons_cons]
      exact (hp.append hjoint).append hps

/-- A path, whatever `$` and digits its segments contain. -/
theorem path (p : PropertyPath) : Shows p.text [] := by
  unfold PropertyPath.text
  apply intercalate (word "." (by decide))
  intro s hs
  rcases List.mem_cons.1 hs with rfl | hs
  · exact identifier p.root.property
  · rcases List.mem_map.1 hs with ⟨segment, -, rfl⟩
    exact identifier segment.property

/-- A path below an object. -/
theorem qualified (p : PropertyPath) {object : String} (h : isIdentifier object.toList = true) :
    Shows (p.qualified object) [] := by
  have hsplit : p.qualified object = object ++ "." ++ p.text := by
    apply String.toList_injective
    rw [toList_qualified p h]
    simp
  rw [hsplit]
  exact ((identifier h).append (word "." (by decide))).append (path p)

end Shows

/-! ## Conditions -/

/-- What is written for a test shows as many placeholders as the test takes. -/
theorem Criterion.shows_phrase (op : Operator) (ignoreCase : Bool) {p : String} (hp : Shows p [])
    (i j : Nat) :
    Shows (phrase op ignoreCase p (placeholder i) (placeholder j)) ([i, j].take op.arity) := by
  have hclose : Shows ")" [] := .word ")" (by decide)
  cases op with
  | equals =>
    cases ignoreCase with
    | true => exact (hp.followed ".equalsIgnoreCase(" i (by decide)).append_left hclose
    | false => exact hp.followed " = " i (by decide)
  | notEquals =>
    have hnot : Shows ("NOT " ++ p) [] := (Shows.word "NOT " (by decide)).append_right hp
    cases ignoreCase with
    | true => exact (hnot.followed ".equalsIgnoreCase(" i (by decide)).append_left hclose
    | false => exact hp.followed " != " i (by decide)
  | greaterThan | after => exact hp.followed " > " i (by decide)
  | greaterThanEqual => exact hp.followed " >= " i (by decide)
  | lessThan | before => exact hp.followed " < " i (by decide)
  | lessThanEqual => exact hp.followed " <= " i (by decide)
  | like | startingWith | endingWith | containing => exact hp.followed " LIKE " i (by decide)
  | notLike | notContaining =>
    have hnot : Shows ("NOT (" ++ p) [] := (Shows.word "NOT (" (by decide)).append_right hp
    exact (hnot.followed " LIKE " i (by decide)).append_left hclose
  | isIn => exact hp.followed " IN SET " i (by decide)
  | notIn => exact hp.followed " NOT IN SET " i (by decide)
  | between =>
    have hfrom := (hp.followed " >= " i (by decide)).append_left (.word " AND " (by decide))
    exact (hfrom.append_left hp).followed " <= " j (by decide)
  | isNull => exact hp.append_left (.word " = NULL" (by decide))
  | isNotNull => exact hp.append_left (.word " != NULL" (by decide))
  | isTrue => exact hp.append_left (.word " = true" (by decide))
  | isFalse => exact hp.append_left (.word " = false" (by decide))

/-- A criterion that has the placeholders it takes shows these. -/
theorem Criterion.shows_render (c : Criterion) {placeholders : List Nat}
    (h : placeholders.length = c.arity) {object : String}
    (hobject : isIdentifier object.toList = true) :
    Shows (c.render placeholders object) placeholders := by
  have hphrase := shows_phrase c.operator c.ignoreCase (.qualified c.path hobject)
    (placeholders.getD 0 0) (placeholders.getD 1 0)
  have hall : [placeholders.getD 0 0, placeholders.getD 1 0].take c.operator.arity =
      placeholders := by
    -- No operator takes more than two placeholders.
    change _ = c.operator.arity at h
    have harity : c.operator.arity ≤ 2 := by
      cases c.operator <;> simp [Operator.arity]
    rw [← h] at harity ⊢
    rcases placeholders with _ | ⟨i, _ | ⟨j, _ | ⟨k, rest⟩⟩⟩
    · rfl
    · rfl
    · rfl
    · simp at harity
  rw [hall] at hphrase
  rw [c.render_eq_phrase h]
  exact hphrase

namespace Condition

/-- The placeholders of a condition, in the order of its criteria. -/
def placeholders (c : Condition) : List Nat :=
  c.tests.flatMap (·.2)

@[simp] theorem placeholders_and (a b : Condition) :
    (and a b).placeholders = a.placeholders ++ b.placeholders := by
  simp [placeholders, tests]

@[simp] theorem placeholders_or (a b : Condition) :
    (or a b).placeholders = a.placeholders ++ b.placeholders := by
  simp [placeholders, tests]

@[simp] theorem bindings_and (a b : Condition) :
    (and a b).bindings = a.bindings ++ b.bindings := by
  simp [bindings, tests]

@[simp] theorem bindings_or (a b : Condition) :
    (or a b).bindings = a.bindings ++ b.bindings := by
  simp [bindings, tests]

/-- The bindings are numbered as the placeholders are. -/
theorem map_index_bindings (c : Condition) : c.bindings.map (·.index) = c.placeholders := by
  simp [bindings, placeholders, bindingsOf, List.map_flatMap, Function.comp_def]

/-- An operand shows the same placeholders with parentheses and without. -/
theorem shows_operand {c : Condition} {text : String} {is : List Nat} (h : Shows text is) :
    Shows (render.operand c text) is := by
  unfold render.operand
  cases c.isOr with
  | false => exact h
  | true =>
    exact ((Shows.word "(" (by decide)).append_right h).append_left (.word ")" (by decide))

/-- The text of a condition shows its placeholders from left to right. -/
theorem shows_render {c : Condition} (hc : c.Complete) {object : String}
    (hobject : isIdentifier object.toList = true) : Shows (c.render object) c.placeholders := by
  induction c with
  | test criterion placeholders =>
    have hcount := (complete_test criterion placeholders).1 hc
    have hsame : (test criterion placeholders).placeholders = placeholders := by
      simp [Condition.placeholders, tests]
    rw [hsame]
    exact criterion.shows_render hcount hobject
  | and a b iha ihb =>
    rcases (complete_and a b).1 hc with ⟨ha, hb⟩
    rw [placeholders_and]
    have hjoint : Shows " AND " [] := .word " AND " (by decide)
    -- The placeholders of the left operand are read first.
    exact ((shows_operand (iha ha)).append_left hjoint).append (shows_operand (ihb hb))
  | or a b iha ihb =>
    rcases (complete_or a b).1 hc with ⟨ha, hb⟩
    rw [placeholders_or]
    have hjoint : Shows " OR " [] := .word " OR " (by decide)
    exact ((iha ha).append_left hjoint).append (ihb hb)

end Condition

end DerivedQuery
