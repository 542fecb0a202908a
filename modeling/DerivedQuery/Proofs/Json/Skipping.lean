import DerivedQuery.Proofs.Json.Reading

/-!
# Values that are passed over

The value of a member that is no option may be anything. The texts of values are described by a
grammar that does not mention the readers, and each of them is passed over.

* `IsNumber`, `IsName`, `IsValue`: the texts of numbers, of names of members and of values, with
  white space around tokens.
* `Skips`: a text is passed over, whatever follows it.
* `IsLoop`: what passes over texts with commas between them, in lists and in objects.
* `skips_value`: the text of a value is passed over.
-/

namespace DerivedQuery.Json

/-! ## Texts of values -/

/-- Digits, at least one of them. -/
structure IsDigits (ds : List Char) : Prop where
  ne_nil : ds ≠ []
  isDigit : ∀ d ∈ ds, d.isDigit = true

/-- A point with digits behind it, or nothing. -/
inductive IsFraction : List Char → Prop
  | absent : IsFraction []
  | point {ds : List Char} (hds : IsDigits ds) : IsFraction ('.' :: ds)

/-- A power of ten, or nothing. -/
inductive IsExponent : List Char → Prop
  | absent : IsExponent []
  | power {e : Char} {sign ds : List Char} (he : e = 'e' ∨ e = 'E')
      (hsign : sign = [] ∨ sign = ['+'] ∨ sign = ['-']) (hds : IsDigits ds) :
      IsExponent (e :: (sign ++ ds))

/-- An integer that may have a sign, a fraction and an exponent. -/
inductive IsNumber : List Char → Prop
  | parts {sign int fraction exponent : List Char} (hsign : sign = [] ∨ sign = ['-'])
      (hint : IsInteger int) (hfraction : IsFraction fraction) (hexponent : IsExponent exponent) :
      IsNumber (sign ++ (int ++ (fraction ++ exponent)))

/-- The name of a member: a string, with white space around it. -/
def IsName (t : List Char) : Prop :=
  ∃ g body ns g', IsGap g ∧ IsBody body ns ∧ IsGap g' ∧ t = g ++ '"' :: (body ++ '"' :: g')

/-- The text of a value. -/
inductive IsValue : List Char → Prop
  | null : IsValue "null".toList
  | true : IsValue "true".toList
  | false : IsValue "false".toList
  | number {t : List Char} (ht : IsNumber t) : IsValue t
  | string {body : List Char} {ns : List Nat} (hbody : IsBody body ns) :
      IsValue ('"' :: (body ++ ['"']))
  | emptyList {g : List Char} (hg : IsGap g) : IsValue ('[' :: (g ++ [']']))
  | list {items : List (List Char)} (hne : items ≠ []) (hitems : ∀ t ∈ items, IsValue t) :
      IsValue ('[' :: ([','].intercalate items ++ [']']))
  | emptyObject {g : List Char} (hg : IsGap g) : IsValue ('\x7b' :: (g ++ ['\x7d']))
  | object {members : List (List Char × List Char)} (hne : members ≠ [])
      (hnames : ∀ m ∈ members, IsName m.1) (hvalues : ∀ m ∈ members, IsValue m.2) :
      IsValue ('\x7b' :: ([','].intercalate (members.map fun m => m.1 ++ ':' :: m.2) ++ ['\x7d']))
  | padded {g t g' : List Char} (hg : IsGap g) (ht : IsValue t) (hg' : IsGap g') :
      IsValue (g ++ (t ++ g'))

/-- The text is passed over, whatever follows it. White space may be left. -/
def Skips (skip : List Char → Option (List Char)) (t : List Char) : Prop :=
  ∀ rest, Stops rest → ∃ left, skip (t ++ rest) = some left ∧ skipGap left = skipGap rest

/-- A text that is passed over with nothing left of it. -/
theorem Skips.of_eq {skip : List Char → Option (List Char)} {t : List Char}
    (h : ∀ rest, Stops rest → skip (t ++ rest) = some rest) : Skips skip t :=
  fun rest hrest => ⟨rest, h rest hrest, rfl⟩

/-! ## Numbers -/

/-- Digits are passed over up to the next character that is none. -/
theorem skipDigits_append {ds : List Char} (h : IsDigits ds) {rest : List Char}
    (hrest : rest.head?.any Char.isDigit = false) : skipDigits (ds ++ rest) = some rest := by
  obtain ⟨d, ds, rfl⟩ := List.exists_cons_of_ne_nil h.ne_nil
  have hds : ∀ c ∈ ds, c.isDigit = true := fun c hc => h.isDigit c (List.mem_cons_of_mem d hc)
  rw [List.cons_append, skipDigits, if_pos (h.isDigit d List.mem_cons_self),
    List.dropWhile_append_of_pos hds]
  cases rest with
  | nil => rfl
  | cons c rest => simp_all

/-- A fraction is passed over, or there is none. -/
theorem skipFraction_append {t : List Char} (h : IsFraction t) {rest : List Char}
    (hdigit : rest.head?.any Char.isDigit = false) (hpoint : rest.head? ≠ some '.') :
    skipFraction (t ++ rest) = some rest := by
  cases h with
  | point hds => exact skipDigits_append hds hdigit
  | absent =>
    -- Only a point could be taken for a fraction.
    unfold skipFraction
    split
    · next heq =>
      rw [List.nil_append] at heq
      rw [heq] at hpoint
      exact absurd rfl hpoint
    · rfl

/-- Without an `e` there is no exponent. -/
theorem skipExponent_of_ne {c : Char} {cs : List Char} (he : c ≠ 'e') (hE : c ≠ 'E') :
    skipExponent (c :: cs) = some (c :: cs) := by
  simp [skipExponent, he, hE]

/-- Behind an `e` a sign may stand. -/
theorem skipExponent_cons {e s : Char} (he : e = 'e' ∨ e = 'E') (cs : List Char) :
    skipExponent (e :: s :: cs) =
      if s = '+' || s = '-' then skipDigits cs else skipDigits (s :: cs) := by
  rcases he with rfl | rfl <;> rfl

/-- An exponent is passed over, or there is none. -/
theorem skipExponent_append {t : List Char} (h : IsExponent t) {rest : List Char}
    (hrest : Stops rest) : skipExponent (t ++ rest) = some rest := by
  cases h with
  | absent =>
    cases rest with
    | nil => rfl
    | cons c rest =>
      -- What stops a value is no `e`.
      have hc := hrest c rfl
      apply skipExponent_of_ne
      · rintro rfl
        revert hc
        decide
      · rintro rfl
        revert hc
        decide
  | @power e sign ds he hsign hds =>
    -- The sign is passed over first, if there is one.
    have hdigits := skipDigits_append hds (not_isDigit_of_stops hrest)
    rcases hsign with rfl | rfl | rfl
    · -- Without a sign the first digit stands in its place.
      obtain ⟨d, ds, rfl⟩ := List.exists_cons_of_ne_nil hds.ne_nil
      have hd := hds.isDigit d List.mem_cons_self
      have hunsigned : ¬ (decide (d = '+') || decide (d = '-')) = true := by
        rw [Bool.or_eq_true, decide_eq_true_eq, decide_eq_true_eq]
        rintro (rfl | rfl) <;> cases hd
      exact ((skipExponent_cons he _).trans (if_neg hunsigned)).trans hdigits
    · exact (skipExponent_cons he _).trans hdigits
    · exact (skipExponent_cons he _).trans hdigits

/-- Behind a fraction stands no further digit and no further point. -/
theorem head_exponent {t : List Char} (h : IsExponent t) {rest : List Char} (hrest : Stops rest) :
    (t ++ rest).head?.any Char.isDigit = false ∧ (t ++ rest).head? ≠ some '.' := by
  cases h with
  | absent =>
    refine ⟨not_isDigit_of_stops hrest, ?_⟩
    intro hpoint
    have hstops := hrest '.' hpoint
    revert hstops
    decide
  | power he =>
    rcases he with rfl | rfl
    · exact ⟨rfl, by simp⟩
    · exact ⟨rfl, by simp⟩

/-- The digits of a number, behind its sign. -/
theorem skipNumber_eq {cs start : List Char} (hdigit : start.head?.any Char.isDigit = true)
    (h : skipGap cs = '-' :: start ∨ skipGap cs = start) :
    skipNumber cs = (readDigits start).bind fun r => (skipFraction r.2).bind skipExponent := by
  unfold skipNumber
  rcases h with h | h
  · rw [h]
    exact if_pos hdigit
  · rw [h]
    -- The first digit is no sign, so that the second branch of the reader is taken.
    split
    · cases hdigit
    · exact if_pos hdigit

/-- A number is passed over. -/
theorem skipNumber_append {t : List Char} (h : IsNumber t) {rest : List Char} (hrest : Stops rest) :
    skipNumber (t ++ rest) = some rest := by
  cases h with
  | @parts sign int fraction exponent hsign hint hfraction hexponent =>
  -- From right to left: what follows the fraction, then what follows the integer.
  have hexp := head_exponent hexponent hrest
  have hfrac : (fraction ++ (exponent ++ rest)).head?.any Char.isDigit = false := by
    cases hfraction with
    | absent => exact hexp.1
    | point => rfl
  obtain ⟨d, ds, hd⟩ := List.exists_cons_of_ne_nil hint.ne_nil
  have hdigit : (int ++ (fraction ++ (exponent ++ rest))).head?.any Char.isDigit = true := by
    rw [hd, List.cons_append, List.head?_cons]
    exact hint.isDigit d (hd ▸ List.mem_cons_self)
  have hskip : skipGap (int ++ (fraction ++ (exponent ++ rest))) =
      int ++ (fraction ++ (exponent ++ rest)) := by
    rw [hd, List.cons_append,
      skipGap_cons (isGap_of_isDigit (hint.isDigit d (hd ▸ List.mem_cons_self)))]
  have htext : sign ++ (int ++ (fraction ++ exponent)) ++ rest =
      sign ++ (int ++ (fraction ++ (exponent ++ rest))) := by
    simp
  rw [htext, skipNumber_eq hdigit ?_, readDigits_append hint hfrac, Option.bind_some,
    skipFraction_append hfraction hexp.1 hexp.2, Option.bind_some,
    skipExponent_append hexponent hrest]
  -- With a sign the reader goes on behind it; else at once.
  rcases hsign with rfl | rfl
  · exact .inr hskip
  · exact .inl (skipGap_cons (by decide) _)

/-- A number begins with a digit or with its sign. -/
theorem exists_head_number {t : List Char} (h : IsNumber t) :
    ∃ c u, t = c :: u ∧ (c = '-' ∨ c.isDigit = true) := by
  cases h with
  | @parts sign int fraction exponent hsign hint =>
    rcases hsign with rfl | rfl
    · obtain ⟨d, ds, hd⟩ := List.exists_cons_of_ne_nil hint.ne_nil
      exact ⟨d, _, by rw [hd]; rfl, .inr (hint.isDigit d (hd ▸ List.mem_cons_self))⟩
    · exact ⟨'-', _, rfl, .inl rfl⟩

/-! ## Values in a row -/

/-- A string is passed over by reading it. -/
theorem skipString_body {t : List Char} {ns : List Nat} (h : IsBody t ns) (rest : List Char) :
    skipString ('"' :: (t ++ '"' :: rest)) = some rest := by
  have hopen : symbol '"' ('"' :: (t ++ '"' :: rest)) = some (t ++ '"' :: rest) :=
    symbol_cons (by decide) _
  rw [skipString, hopen, Option.bind_eq_bind, Option.bind_some, readUnits_body h]
  rfl

/-- White space in front of a string does not count. -/
theorem skipString_congr {cs ds : List Char} (h : skipGap cs = skipGap ds) :
    skipString cs = skipString ds := by
  rw [skipString, skipString, symbol_congr h]

/-- White space in front of a number does not count. -/
theorem skipNumber_congr {cs ds : List Char} (h : skipGap cs = skipGap ds) :
    skipNumber cs = skipNumber ds := by
  unfold skipNumber
  rw [h]

/-- White space in front of a value does not count. -/
theorem skipNested_congr {cs ds : List Char} (h : skipGap cs = skipGap ds) (fuel : Nat) :
    skipNested fuel cs = skipNested fuel ds := by
  cases fuel with
  | zero => rfl
  | succ fuel =>
    rw [skipNested, skipNested, h, skipString_congr h, word_congr h, word_congr h, word_congr h,
      skipNumber_congr h]

/-- No value begins with the end of a list. -/
theorem skipNested_of_close (fuel : Nat) (cs rest : List Char) (h : symbol ']' cs = some rest) :
    skipNested fuel cs = none := by
  -- White space apart, the text begins with `]`, which starts none of the values.
  have hcs : skipGap cs = skipGap (']' :: rest) := by
    rw [skipGap_of_symbol h, skipGap_cons (by decide)]
  rw [skipNested_congr hcs]
  cases fuel with
  | zero => rfl
  | succ fuel => rfl

/-- A loop that passes over texts with commas between them, up to a closing character. -/
def IsLoop (close : Char) (skip loop : Nat → List Char → Option (List Char)) : Prop :=
  ∀ fuel cs, loop (fuel + 1) cs = (skip fuel cs).bind fun cs =>
    match symbol close cs with
    | some rest => some rest
    | none => (symbol ',' cs).bind (loop fuel)

/-- A loop passes over texts one after the other, with as much fuel as they are long. -/
theorem IsLoop.skip_joined {close : Char} (hclose : IsClose close)
    {skip loop : Nat → List Char → Option (List Char)} (hloop : IsLoop close skip loop)
    {ts : List (List Char)} (hne : ts ≠ [])
    (hts : ∀ t ∈ ts, ∀ fuel, 2 * t.length + 1 ≤ fuel → Skips (skip fuel) t) {fuel : Nat}
    (hfuel : 2 * ([','].intercalate ts).length + 2 ≤ fuel) (rest : List Char) :
    loop fuel ([','].intercalate ts ++ close :: rest) = some rest := by
  induction ts generalizing fuel with
  | nil => exact absurd rfl hne
  | cons t ts ih =>
    obtain ⟨fuel, rfl⟩ : ∃ f, fuel = f + 1 := ⟨fuel - 1, by omega⟩
    -- Each round of the loop takes one unit of fuel, and the other texts are shorter by more than
    -- that.
    have ht := hts t List.mem_cons_self fuel
    rw [hloop]
    cases ts with
    | nil =>
      rw [List.intercalate_singleton] at hfuel ⊢
      obtain ⟨left, hskip, hleft⟩ := ht (by omega) (close :: rest) (hclose.stops rest)
      rw [hskip, Option.bind_some, symbol_congr hleft, symbol_cons hclose.isGap]
    | cons u ts =>
      have hlength : ([','].intercalate (t :: u :: ts)).length =
          t.length + 1 + ([','].intercalate (u :: ts)).length := by
        rw [List.intercalate_cons_cons, List.length_append, List.length_append,
          List.length_singleton]
      -- The comma and this text are no longer in the row, which pays for the round.
      have hrow : 2 * ([','].intercalate (u :: ts)).length + 2 ≤ fuel := by omega
      have hmore := ih (List.cons_ne_nil u ts) (fun v hv => hts v (List.mem_cons_of_mem t hv)) hrow
      have htext : [','].intercalate (t :: u :: ts) ++ close :: rest =
          t ++ ',' :: ([','].intercalate (u :: ts) ++ close :: rest) := by
        simp [List.intercalate_cons_cons]
      obtain ⟨left, hskip, hleft⟩ := ht (by omega) _
        (stops_comma ([','].intercalate (u :: ts) ++ close :: rest))
      -- White space may be left of the text, but the comma is the next token.
      have hcomma : symbol ',' left = some ([','].intercalate (u :: ts) ++ close :: rest) := by
        rw [symbol_congr hleft, symbol_cons (by decide)]
      rw [htext, hskip, Option.bind_some, symbol_eq_none hcomma hclose.ne_comma.symm, hcomma]
      exact hmore

/-- What a loop passes over begins with a text that is passed over. -/
theorem IsLoop.exists_skip {close : Char} {skip loop : Nat → List Char → Option (List Char)}
    (hloop : IsLoop close skip loop) {fuel : Nat} {cs rest : List Char} (hfuel : 0 < fuel)
    (h : loop fuel cs = some rest) : ∃ f left, skip f cs = some left := by
  obtain ⟨f, rfl⟩ : ∃ f, fuel = f + 1 := ⟨fuel - 1, by omega⟩
  rw [hloop] at h
  obtain ⟨left, hskip, -⟩ := Option.bind_eq_some_iff.1 h
  exact ⟨f, left, hskip⟩

/-- Texts of which none begins with the closing character: that character is not found in front of
them, and the loop passes over them. -/
theorem IsLoop.skip_enclosed {close : Char} (hclose : IsClose close)
    {skip loop : Nat → List Char → Option (List Char)} (hloop : IsLoop close skip loop)
    (hend : ∀ fuel cs rest, symbol close cs = some rest → skip fuel cs = none)
    {ts : List (List Char)} (hne : ts ≠ [])
    (hts : ∀ t ∈ ts, ∀ fuel, 2 * t.length + 1 ≤ fuel → Skips (skip fuel) t) {fuel : Nat}
    (hfuel : 2 * ([','].intercalate ts).length + 2 ≤ fuel) (rest : List Char) :
    (symbol close ([','].intercalate ts ++ close :: rest)).or
      (loop fuel ([','].intercalate ts ++ close :: rest)) = some rest := by
  have hskip := hloop.skip_joined hclose hne hts hfuel rest
  -- The loop succeeds, so the first text in the row is passed over too.
  obtain ⟨f, left, hfirst⟩ := hloop.exists_skip (by omega) hskip
  cases hopen : symbol close ([','].intercalate ts ++ close :: rest) with
  | none => exact hskip
  -- If the closing character stood in front, no text could begin there.
  | some tail =>
    rw [hend f _ tail hopen] at hfirst
    cases hfirst

/-- The items of a list are passed over by such a loop. -/
theorem isLoop_items : IsLoop ']' skipNested skipItems := by
  intro fuel cs
  rw [skipItems]
  rfl

/-- What follows a member. -/
def skipMember (fuel : Nat) (cs : List Char) : Option (List Char) :=
  (skipString cs).bind fun cs => (symbol ':' cs).bind (skipNested fuel)

/-- The members of an object are passed over by such a loop. -/
theorem isLoop_members : IsLoop '\x7d' skipMember skipMembers := by
  intro fuel cs
  rw [skipMembers, skipMember, Option.bind_assoc]
  cases skipString cs with
  | none => rfl
  | some named =>
    show (symbol ':' named).bind _ = ((symbol ':' named).bind (skipNested fuel)).bind _
    rw [Option.bind_assoc]
    rfl

/-- No member begins with the end of an object. -/
theorem skipMember_of_close (fuel : Nat) (cs rest : List Char)
    (h : symbol '\x7d' cs = some rest) : skipMember fuel cs = none := by
  have hquote : symbol '"' cs = none := symbol_eq_none h (by decide)
  rw [skipMember, skipString, hquote]
  rfl

/-- A member is passed over when its value is. -/
theorem skips_member {name value : List Char} (hname : IsName name) {fuel : Nat}
    (hvalue : Skips (skipNested fuel) value) : Skips (skipMember fuel) (name ++ ':' :: value) := by
  obtain ⟨g, body, ns, g', hg, hbody, hg', rfl⟩ := hname
  intro rest hrest
  obtain ⟨left, hskip, hleft⟩ := hvalue rest hrest
  refine ⟨left, ?_, hleft⟩
  -- White space around the name is passed over with the quotes and the colon.
  have htext : g ++ '"' :: (body ++ '"' :: g') ++ ':' :: value ++ rest =
      g ++ '"' :: (body ++ '"' :: (g' ++ ':' :: (value ++ rest))) := by
    simp
  have hstring : skipString ('"' :: (body ++ '"' :: (g' ++ ':' :: (value ++ rest)))) =
      some (g' ++ ':' :: (value ++ rest)) := skipString_body hbody _
  have hcolon : symbol ':' (g' ++ ':' :: (value ++ rest)) = some (value ++ rest) := by
    rw [symbol_congr (skipGap_append hg' _), symbol_cons (by decide)]
  rw [htext, skipMember, skipString_congr (skipGap_append hg _), hstring, Option.bind_some, hcolon,
    Option.bind_some, hskip]

/-! ## Values -/

/-- Text that begins with a letter of one of the words or with a number is no string, list or
object. -/
theorem skipNested_plain {c : Char} {cs : List Char} (hgap : isGap c = false) (hquote : c ≠ '"')
    (hlist : c ≠ '[') (hobject : c ≠ '\x7b') (fuel : Nat) :
    skipNested (fuel + 1) (c :: cs) =
      (word "null" (c :: cs)).or ((word "true" (c :: cs)).or ((word "false" (c :: cs)).or
        (skipNumber (c :: cs)))) := by
  rw [skipNested, skipGap_cons hgap]
  split
  all_goals simp_all

/-- A number is passed over as a value. -/
theorem skipNested_number {t : List Char} (h : IsNumber t) {rest : List Char} (hrest : Stops rest)
    (fuel : Nat) : skipNested (fuel + 1) (t ++ rest) = some rest := by
  have hnumber := skipNumber_append h hrest
  obtain ⟨c, u, rfl, hc⟩ := exists_head_number h
  -- Neither a digit nor the minus sign begins any other value.
  have hplain : isGap c = false ∧ c ≠ '"' ∧ c ≠ '[' ∧ c ≠ '\x7b' ∧ 'n' ≠ c ∧ 't' ≠ c ∧ 'f' ≠ c := by
    rcases hc with rfl | hdigit
    · decide
    · refine ⟨isGap_of_isDigit hdigit, ?_, ?_, ?_, ?_, ?_, ?_⟩ <;> rintro rfl <;> cases hdigit
  obtain ⟨hgap, hquote, hlist, hobject, hnull, htrue, hfalse⟩ := hplain
  rw [List.cons_append, skipNested_plain hgap hquote hlist hobject,
    word_eq_none rfl hgap hnull, word_eq_none rfl hgap htrue, word_eq_none rfl hgap hfalse]
  exact hnumber

/-- A list is closed at once, or has items. -/
theorem skipNested_list (fuel : Nat) (cs : List Char) :
    skipNested (fuel + 1) ('[' :: cs) = (symbol ']' cs).or (skipItems fuel cs) :=
  rfl

/-- An object is closed at once, or has members. -/
theorem skipNested_object (fuel : Nat) (cs : List Char) :
    skipNested (fuel + 1) ('\x7b' :: cs) = (symbol '\x7d' cs).or (skipMembers fuel cs) :=
  rfl

/-- A list is passed over when each of its items is. -/
theorem skips_items {items : List (List Char)} (hne : items ≠ []) {fuel : Nat}
    (hitems : ∀ t ∈ items, ∀ fuel, 2 * t.length ≤ fuel → Skips (skipNested (fuel + 1)) t)
    (hfuel : 2 * ([','].intercalate items).length + 2 ≤ fuel) :
    Skips (skipNested (fuel + 1)) ('[' :: ([','].intercalate items ++ [']'])) := by
  refine .of_eq fun rest _ => ?_
  have htext : '[' :: ([','].intercalate items ++ [']']) ++ rest =
      '[' :: ([','].intercalate items ++ ']' :: rest) := by
    simp
  -- The loop hands on the fuel that is left, which suffices for each item.
  have hskips (t : List Char) (ht : t ∈ items) (f : Nat) (hf : 2 * t.length + 1 ≤ f) :
      Skips (skipNested f) t := by
    obtain ⟨f, rfl⟩ : ∃ f', f = f' + 1 := ⟨f - 1, by omega⟩
    exact hitems t ht f (by omega)
  rw [htext, skipNested_list]
  exact isLoop_items.skip_enclosed (.inl rfl) skipNested_of_close hne hskips hfuel rest

/-- An object is passed over when the value of each of its members is. -/
theorem skips_members {members : List (List Char × List Char)} (hne : members ≠ []) {fuel : Nat}
    (hnames : ∀ m ∈ members, IsName m.1)
    (hvalues : ∀ m ∈ members, ∀ fuel, 2 * m.2.length ≤ fuel → Skips (skipNested (fuel + 1)) m.2)
    (hfuel : 2 * ([','].intercalate (members.map fun m => m.1 ++ ':' :: m.2)).length + 2 ≤ fuel) :
    Skips (skipNested (fuel + 1))
      ('\x7b' :: ([','].intercalate (members.map fun m => m.1 ++ ':' :: m.2) ++ ['\x7d'])) := by
  refine .of_eq fun rest _ => ?_
  have htext : '\x7b' :: ([','].intercalate (members.map fun m => m.1 ++ ':' :: m.2) ++ ['\x7d']) ++
        rest =
      '\x7b' :: ([','].intercalate (members.map fun m => m.1 ++ ':' :: m.2) ++ '\x7d' :: rest) := by
    simp
  have hskips (t : List Char) (ht : t ∈ members.map fun m => m.1 ++ ':' :: m.2) (f : Nat)
      (hf : 2 * t.length + 1 ≤ f) : Skips (skipMember f) t := by
    obtain ⟨m, hm, rfl⟩ := List.mem_map.1 ht
    rw [List.length_append, List.length_cons] at hf
    obtain ⟨f, rfl⟩ : ∃ f', f = f' + 1 := ⟨f - 1, by omega⟩
    exact skips_member (hnames m hm) (hvalues m hm f (by omega))
  rw [htext, skipNested_object]
  exact isLoop_members.skip_enclosed (.inr rfl) skipMember_of_close (by simpa using hne) hskips hfuel
    rest

/-- With fuel for its characters the text of a value is passed over, by induction on the value. -/
theorem skipNested_value {t : List Char} (h : IsValue t) :
    ∀ fuel, 2 * t.length ≤ fuel → Skips (skipNested (fuel + 1)) t := by
  induction h with
  | null => exact fun _ _ => .of_eq fun _ _ => rfl
  | true => exact fun _ _ => .of_eq fun _ _ => rfl
  | false => exact fun _ _ => .of_eq fun _ _ => rfl
  | number ht => exact fun fuel _ => .of_eq fun rest hrest => skipNested_number ht hrest fuel
  | @string body _ hbody =>
    intro fuel _
    refine .of_eq fun rest _ => ?_
    have hstring : skipString ('"' :: (body ++ ['"']) ++ rest) = some rest := by
      simpa using skipString_body hbody rest
    exact hstring
  | emptyList hg =>
    intro fuel _
    refine .of_eq fun rest _ => ?_
    rw [List.cons_append, skipNested_list, List.append_assoc, symbol_congr (skipGap_append hg _),
      List.singleton_append, symbol_cons (by decide)]
    rfl
  -- The brackets of a list pay for going down to its items.
  | list hne _ ih =>
    intro fuel hfuel
    simp only [List.length_cons, List.length_append, List.length_nil] at hfuel
    exact skips_items hne ih (by omega)
  | emptyObject hg =>
    intro fuel _
    refine .of_eq fun rest _ => ?_
    rw [List.cons_append, skipNested_object, List.append_assoc, symbol_congr (skipGap_append hg _),
      List.singleton_append, symbol_cons (by decide)]
    rfl
  | object hne hnames _ ih =>
    intro fuel hfuel
    rw [List.length_cons, List.length_append, List.length_singleton] at hfuel
    exact skips_members hne hnames ih (by omega)
  | @padded g t g' hg _ hg' ih =>
    intro fuel hfuel rest hrest
    simp only [List.length_append] at hfuel
    -- White space in front costs nothing, and behind it is left over.
    obtain ⟨left, hskip, hleft⟩ := ih fuel (by omega) (g' ++ rest) (hrest.append_gap hg')
    rw [skipGap_append hg'] at hleft
    refine ⟨left, ?_, hleft⟩
    rw [List.append_assoc, List.append_assoc, skipNested_congr (skipGap_append hg _), hskip]

/-- The text of a value is passed over. -/
theorem skips_value {t : List Char} (h : IsValue t) : Skips skipValue t := by
  intro rest hrest
  refine skipNested_value h _ ?_ rest hrest
  -- The fuel that is given counts the whole text twice.
  rw [List.length_append]
  omega

end DerivedQuery.Json
