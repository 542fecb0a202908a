import DerivedQuery.Proofs.Statement.Tail
import Mathlib.Data.List.TakeWhile

/-!
# A limit at the end of a statement

An order is put in front of a limit at the end. Such a limit is a tail, and it is split off wherever
the text in front of it does not end in white space.

* `EndsSolid`: a text that does not end in white space.
* `isTail_of_isTrailingLimit`: a limit at the end is a tail.
* `splitTrailingLimit_append_tail`: what is split off in a tail is split off behind a text that does
  not end in white space.
* `splitTrailingLimit_stop`: nothing is split off in front of a character that no limit has.
* `hasLimit_of_isTrailingLimit`: a limit at the end is a limit, so
  `splitTrailingLimit_of_unlimited`: nothing is split off a statement without one.
-/

namespace DerivedQuery.Statement

open Text

/-! ## Texts that do not end in white space -/

/-- The last character is there, and it is not white space. -/
def EndsSolid (t : List Char) : Prop :=
  t.getLast?.any (fun c => !isBlank c) = true

theorem EndsSolid.append {u : List Char} (h : EndsSolid u) (t : List Char) :
    EndsSolid (t ++ u) := by
  unfold EndsSolid at *
  cases hlast : u.getLast? with
  | none => simp [hlast] at h
  | some c => simpa [hlast] using h

theorem EndsSolid.ne_nil {t : List Char} (h : EndsSolid t) : t ≠ [] := by
  rintro rfl
  cases h

/-- What is left of such a text is such a text, or nothing. -/
theorem EndsSolid.of_suffix {t u : List Char} (h : EndsSolid t) (hu : u <:+ t) (hne : u ≠ []) :
    EndsSolid u := by
  rcases hu with ⟨a, rfl⟩
  unfold EndsSolid at *
  rwa [List.getLast?_append_of_ne_nil a hne] at h

/-- A text that does not end in white space is not passed over. -/
theorem EndsSolid.trimStart {t : List Char} (h : EndsSolid t) : EndsSolid (trimStart t) := by
  have hne := h.ne_nil
  refine h.of_suffix (trimStart_suffix t) ?_
  intro hnil
  -- Then the text would be white space up to its end.
  have hblank := List.dropWhile_eq_nil_iff.1 hnil _ (List.getLast_mem hne)
  rw [EndsSolid, List.getLast?_eq_some_getLast hne, Option.any_some, hblank] at h
  cases h

theorem trimStart_append_of_endsSolid {t : List Char} (h : EndsSolid t) (rest : List Char) :
    trimStart (t ++ rest) = trimStart t ++ rest := by
  rw [trimStart_append, if_neg (by simpa using h.trimStart.ne_nil)]

/-- White space at the beginning of such a text ends in it. -/
theorem EndsSolid.space_append {t : List Char} (h : EndsSolid t) (rest : List Char) :
    space (t ++ rest) = none ∨ ∃ u, EndsSolid u ∧ space (t ++ rest) = some (u ++ rest) := by
  cases t with
  | nil => exact absurd rfl h.ne_nil
  | cons c t =>
    by_cases hc : isBlank c = true
    · have hsolid := h.trimStart
      have htrim := trimStart_append_of_endsSolid h rest
      have hpass (cs : List Char) : Text.trimStart (c :: cs) = Text.trimStart cs :=
        List.dropWhile_cons_of_pos hc
      rw [hpass] at hsolid
      rw [List.cons_append, hpass, hpass] at htrim
      exact .inr ⟨_, hsolid, by rw [List.cons_append, space, if_pos hc, htrim]⟩
    · exact .inl (by rw [List.cons_append, space, if_neg hc])

/-! ## A limit at the end is a tail -/

/-- The parts of a limit at the end. -/
theorem parts_of_isTrailingLimit {cs : List Char} (h : isTrailingLimit cs = true) :
    ∃ bound behind number c digits, space cs = some bound ∧ keyword "LIMIT" bound = some behind ∧
      space behind = some number ∧ optionally '$' number = c :: digits ∧
      isDecimalDigit c = true ∧ ∀ d ∈ digits.dropWhile isDecimalDigit, isBlank d = true := by
  unfold isTrailingLimit at h
  split at h
  · next c digits hread =>
    simp only [limitDigits?, Option.bind_eq_bind, Option.bind_eq_some_iff, Option.pure_def,
      Option.some.injEq] at hread
    rcases hread with ⟨bound, hbound, number, ⟨behind, hbehind, hnumber⟩, hdigits⟩
    rw [Bool.and_eq_true, List.all_eq_true] at h
    exact ⟨bound, behind, number, c, digits, hbound, hbehind, hnumber, hdigits, h.1, h.2⟩
  · cases h

/-- The characters of a limit at the end. -/
def isLimitChar (c : Char) : Bool :=
  isBlank c || "LIMIT".toList.any (fun k => foldsTo k c) || c == '$' || isDecimalDigit c

/-- A limit at the end is written with few characters. -/
theorem limitChar_of_mem {cs : List Char} (h : isTrailingLimit cs = true) :
    ∀ c ∈ cs, isLimitChar c = true := by
  have hblank {c : Char} (hc : isBlank c = true) : isLimitChar c = true := by
    simp [isLimitChar, hc]
  have hdigit {c : Char} (hc : isDecimalDigit c = true) : isLimitChar c = true := by
    simp [isLimitChar, hc]
  rcases parts_of_isTrailingLimit h with
    ⟨bound, behind, number, d, digits, hbound, hbehind, hspace, hnumber, hd, hdigits⟩
  -- White space, the word, white space, and a number with white space behind it.
  rcases exists_of_space hbound with ⟨w, hw, -, rfl, -⟩
  rcases keywordChars_eq_some_iff.1 hbehind with ⟨k, hk, rfl⟩
  rcases exists_of_space hspace with ⟨v, hv, -, rfl, -⟩
  have hend : ∀ c ∈ d :: digits, isLimitChar c = true := by
    rw [List.forall_mem_cons, ← List.takeWhile_append_dropWhile (p := isDecimalDigit) (l := digits)]
    refine ⟨hdigit hd, fun c hc => ?_⟩
    rcases List.mem_append.1 hc with hc | hc
    · exact hdigit (List.all_eq_true.1 List.all_takeWhile c hc)
    · exact hblank (hdigits c hc)
  -- The number may have a `$` in front.
  have hbegin : ∀ c ∈ number, isLimitChar c = true := by
    rcases eq_or_eq_cons_optionally '$' number with hplain | hdollar
    · rwa [hplain, hnumber]
    · rw [hdollar, hnumber, List.forall_mem_cons]
      exact ⟨by decide, hend⟩
  simp only [List.mem_append]
  rintro c (hc | hc | hc | hc)
  · exact hblank (hw c hc)
  · rcases exists_foldsTo_of_mem hk hc with ⟨l, hl, hlc⟩
    have hany : "LIMIT".toList.any (fun k => foldsTo k c) = true :=
      List.any_eq_true.2 ⟨l, hl, hlc⟩
    rw [isLimitChar, hany]
    simp
  · exact hblank (hv c hc)
  · exact hbegin c hc

/-- A limit at the end is a tail. -/
theorem isTail_of_isTrailingLimit {x : List Char} (h : isTrailingLimit x = true) : IsTail x := by
  constructor
  · intro _
    rcases parts_of_isTrailingLimit h with ⟨bound, behind, number, d, digits, hbound, hbehind, -⟩
    rcases keywordChars_eq_some_iff.1 hbehind with ⟨w, hw, rfl⟩
    have hword : "LIMIT".toList = ['L', 'I', 'M', 'I', 'T'] := rfl
    rw [hword] at hw
    rcases List.forall₂_cons_left_iff.1 hw with ⟨l, w, hl, -, rfl⟩
    exact ⟨l, w ++ behind, hbound, by rw [hl, Bool.true_or]⟩
  · intro c hc
    have hchar := limitChar_of_mem h c hc
    refine ⟨?_, ?_, ?_⟩ <;> rintro rfl <;> exact absurd hchar (by decide)

/-- What is split off is nothing, or a limit at the end. -/
theorem isTrailingLimit_split (cs : List Char) :
    (splitTrailingLimit cs).2 = [] ∨ isTrailingLimit (splitTrailingLimit cs).2 = true := by
  induction cs with
  | nil => exact .inl rfl
  | cons c cs ih =>
    unfold splitTrailingLimit
    split
    · next h => exact .inr h
    · exact ih

/-- What is split off is a tail. -/
theorem isTail_split (cs : List Char) : IsTail (splitTrailingLimit cs).2 := by
  rcases isTrailingLimit_split cs with h | h
  · rw [h]
    exact .nil
  · exact isTail_of_isTrailingLimit h

/-! ## Splitting it off -/

theorem mem_dropWhile {p : Char → Bool} {cs : List Char} {c : Char} (h : c ∈ cs)
    (hc : p c = false) : c ∈ cs.dropWhile p := by
  rw [← List.takeWhile_append_dropWhile (p := p) (l := cs), List.mem_append] at h
  rcases h with h | h
  · rw [List.all_eq_true.1 List.all_takeWhile c h] at hc
    cases hc
  · exact h

/-- No limit at the end begins in a text that does not end in white space and goes on in a tail. -/
theorem isTrailingLimit_append_tail {t x : List Char} (ht : EndsSolid t) (hx : IsTail x)
    (hne : x ≠ []) : isTrailingLimit (t ++ x) = false := by
  rcases hx.exists_blank hne with ⟨b, y, hb, hblank⟩
  rcases hx.begins hne with ⟨l, rest, hl, hfolds⟩
  have hletter : isBlank l = false ∧ isDecimalDigit l = false ∧ l ≠ '$' := by
    have hcases : l = 'L' ∨ l = 'l' ∨ l = 'O' ∨ l = 'o' := by
      simpa [foldsTo, or_assoc] using hfolds
    rcases hcases with rfl | rfl | rfl | rfl <;> decide
  have hmem : l ∈ x := (shorterEnd_of_space hl).suffix.subset List.mem_cons_self
  rw [Bool.eq_false_iff]
  intro h
  rcases parts_of_isTrailingLimit h with
    ⟨bound, behind, number, d, digits, hbound, hbehind, hspace, hnumber, hd, hdigits⟩
  -- The digits do not begin in the text, or the letter of the tail would stand behind them.
  have hwithin (ds : List Char) : digits ≠ ds ++ x := by
    intro hds
    have hleft : l ∈ digits.dropWhile isDecimalDigit :=
      mem_dropWhile (by rw [hds]; exact List.mem_append_right ds hmem) hletter.2.1
    rw [hdigits l hleft] at hletter
    cases hletter.1
  -- So the text ends in the white space before the number, or behind the `$`.
  rcases ht.space_append x with hnone | ⟨u, hu, hsome⟩
  · rw [hnone] at hbound
    cases hbound
  rw [hsome, Option.some.injEq] at hbound
  rw [← hbound, hx.keyword_append (by decide), Option.map_eq_some_iff] at hbehind
  rcases hbehind with ⟨v, hv, rfl⟩
  by_cases hvnil : v = []
  · rw [hvnil, List.nil_append, hl, Option.some.injEq] at hspace
    rw [← hspace, optionally, if_neg hletter.2.2, List.cons.injEq] at hnumber
    rw [hnumber.1, hd] at hletter
    cases hletter.2.1
  rcases (hu.of_suffix (keywordChars_suffix hv) hvnil).space_append x with hnone | ⟨n, hn, hsome⟩
  · rw [hnone] at hspace
    cases hspace
  rw [hsome, Option.some.injEq] at hspace
  rcases n with _ | ⟨e, n⟩
  · exact hn.ne_nil rfl
  rcases eq_or_eq_cons_optionally '$' number with hplain | hdollar
  · rw [hplain, hnumber] at hspace
    exact hwithin n (List.cons.inj hspace).2.symm
  · rw [hdollar, hnumber, List.cons_append, List.cons.injEq] at hspace
    -- The `$` stands at the end of the text, and a digit would have to follow it in the tail.
    rcases n with _ | ⟨f, n⟩
    · rw [List.nil_append, hb, List.cons.injEq] at hspace
      rw [← hspace.2.1, isDecimalDigit_of_isBlank hblank] at hd
      cases hd
    · exact hwithin n (List.cons.inj hspace.2).2.symm

/-- What is split off in a tail is split off behind a text that does not end in white space. -/
theorem splitTrailingLimit_append_tail {t x : List Char} (ht : t = [] ∨ EndsSolid t) (hx : IsTail x)
    (hne : x ≠ []) :
    splitTrailingLimit (t ++ x) = (t ++ (splitTrailingLimit x).1, (splitTrailingLimit x).2) := by
  induction t with
  | nil => rfl
  | cons c t ih =>
    have hsolid : EndsSolid (c :: t) := ht.resolve_left (by simp)
    have hrest : t = [] ∨ EndsSolid t := by
      by_cases hnil : t = []
      · exact .inl hnil
      · exact .inr (hsolid.of_suffix (List.suffix_cons c t) hnil)
    have hnone := isTrailingLimit_append_tail hsolid hx hne
    rw [List.cons_append] at hnone ⊢
    rw [splitTrailingLimit, hnone, ih hrest]
    rfl

/-- A limit behind a text that does not end in white space is split off. -/
theorem splitTrailingLimit_of_limit {t limit : List Char} (ht : t = [] ∨ EndsSolid t)
    (hlimit : isTrailingLimit limit = true) : splitTrailingLimit (t ++ limit) = (t, limit) := by
  cases limit with
  | nil => cases hlimit
  | cons c limit =>
    rw [splitTrailingLimit_append_tail ht (isTail_of_isTrailingLimit hlimit) (by simp),
      splitTrailingLimit, if_pos hlimit, List.append_nil]

/-- What is split off stands behind the last character that no limit has. -/
theorem splitTrailingLimit_stop {stop : Char} (h : isLimitChar stop = false) (t rest : List Char) :
    splitTrailingLimit (t ++ stop :: rest) =
      (t ++ stop :: (splitTrailingLimit rest).1, (splitTrailingLimit rest).2) := by
  have hnone {cs : List Char} (hstop : stop ∈ cs) : isTrailingLimit cs = false := by
    rw [Bool.eq_false_iff]
    intro hlimit
    rw [limitChar_of_mem hlimit stop hstop] at h
    cases h
  induction t with
  | nil =>
    rw [List.nil_append, splitTrailingLimit, hnone List.mem_cons_self]
    rfl
  | cons c t ih =>
    have hhere : isTrailingLimit (c :: (t ++ stop :: rest)) = false := hnone (by simp)
    rw [List.cons_append, splitTrailingLimit, hhere, ih]
    rfl

/-- A limit at the end of a statement is a limit. -/
theorem hasLimit_of_isTrailingLimit {t limit : String} (h : isTrailingLimit limit.toList = true) :
    (⟨t ++ limit⟩ : Statement).hasLimit = true := by
  rcases parts_of_isTrailingLimit h with
    ⟨bound, behind, number, d, digits, hbound, hbehind, hspace, hnumber, hd, -⟩
  rcases exists_blank_of_space hbound with ⟨b, hb, a, hlimit⟩
  have hat : limitAt (some b) bound = true := by
    rw [limitAt, limitDigits?, hbehind]
    simp [hspace, hnumber, hd, startsWord, isWordChar_of_isBlank hb]
  rw [hasLimit, String.toList_append, ← hlimit, ← List.append_assoc]
  exact somewhere_of_append hat none _

/-- Nothing is split off a statement without a limit. -/
theorem splitTrailingLimit_of_unlimited {s : Statement} (h : s.hasLimit = false) :
    splitTrailingLimit s.text.toList = (s.text.toList, []) := by
  have hparts := splitTrailingLimit_append s.text.toList
  rcases isTrailingLimit_split s.text.toList with hnil | htrailing
  · rw [hnil, List.append_nil] at hparts
    exact Prod.ext hparts hnil
  · rw [← String.toList_ofList (l := (splitTrailingLimit s.text.toList).2)] at htrailing
    have hlimit := hasLimit_of_isTrailingLimit
      (t := String.ofList (splitTrailingLimit s.text.toList).1) htrailing
    rw [← String.ofList_append, hparts, String.ofList_toList, h] at hlimit
    cases hlimit

end DerivedQuery.Statement
