import DerivedQuery.Json
import DerivedQuery.Json.Reader

/-!
# How strings are spelled

A text can be spelled in many ways as a JSON string, since every character may be escaped. The writer
escapes only what has to be. The reader takes a string apart into numbers first, of which some are
halves of surrogate pairs, and puts characters together from these.

* `IsBody`: what stands between the quotes of a string, with its numbers; `readUnits_body`.
* `Spells`: a body that stands for a text; `joinSurrogates_spells`.
* `readString_spelled`: a string is read as the text that it spells.
* `spells_escape`, `toList_quote`: what is written spells the text.
-/

namespace DerivedQuery.Json

/-! ## What is read -/

/-- What may stand between the quotes of a string, and the numbers it is taken apart into. -/
inductive IsBody : List Char → List Nat → Prop
  | nil : IsBody [] []
  | plain {c : Char} {t : List Char} {ns : List Nat} (hquote : c ≠ '"') (hbackslash : c ≠ '\\')
      (hcontrol : 0x20 ≤ c.toNat) (ht : IsBody t ns) : IsBody (c :: t) (c.toNat :: ns)
  | escape {e : Char} {n : Nat} {t : List Char} {ns : List Nat} (he : shortEscape? e = some n)
      (ht : IsBody t ns) : IsBody ('\\' :: e :: t) (n :: ns)
  | unicode {a b c d : Char} {n : Nat} {t : List Char} {ns : List Nat}
      (hn : hexUnit? a b c d = some n) (ht : IsBody t ns) :
      IsBody ('\\' :: 'u' :: a :: b :: c :: d :: t) (n :: ns)

/-- A character that needs no escape is its own number. -/
theorem readUnits_plain {c : Char} {cs rest : List Char} {ns : List Nat} (hquote : c ≠ '"')
    (hbackslash : c ≠ '\\') (hcontrol : 0x20 ≤ c.toNat) (h : readUnits cs = some (ns, rest)) :
    readUnits (c :: cs) = some (c.toNat :: ns, rest) := by
  have hallowed : ¬ (decide (c = '\\') || decide (c.toNat < 0x20)) = true := by
    rw [Bool.or_eq_true, decide_eq_true_eq, decide_eq_true_eq, not_or, Nat.not_lt]
    exact ⟨hbackslash, hcontrol⟩
  rw [readUnits, if_neg hallowed, h]
  · -- The equation for such characters is the last one, for what the patterns before it do not
    -- match.
    rfl
  · exact hquote
  · exact fun _ _ _ _ _ hc _ => hbackslash hc
  · exact fun _ _ hc _ => hbackslash hc

theorem readUnits_escape {e : Char} {n : Nat} {cs rest : List Char} {ns : List Nat}
    (he : shortEscape? e = some n) (h : readUnits cs = some (ns, rest)) :
    readUnits ('\\' :: e :: cs) = some (n :: ns, rest) := by
  rw [readUnits, he, h]
  · rfl
  · rintro a b c d cs rfl -
    cases he

theorem readUnits_unicode {a b c d : Char} {n : Nat} {cs rest : List Char} {ns : List Nat}
    (hn : hexUnit? a b c d = some n) (h : readUnits cs = some (ns, rest)) :
    readUnits ('\\' :: 'u' :: a :: b :: c :: d :: cs) = some (n :: ns, rest) := by
  rw [readUnits, hn, h]
  rfl

/-- What stands between the quotes is taken apart, up to the quote behind it. -/
theorem readUnits_body {t : List Char} {ns : List Nat} (h : IsBody t ns) (rest : List Char) :
    readUnits (t ++ '"' :: rest) = some (ns, rest) := by
  induction h with
  | nil => rfl
  | plain hquote hbackslash hcontrol _ ih =>
    exact readUnits_plain hquote hbackslash hcontrol ih
  | escape he _ ih => exact readUnits_escape he ih
  | unicode hn _ ih => exact readUnits_unicode hn ih

/-! ## What is meant -/

/-- The body of a string that stands for a text. A character beyond `\uFFFF` is escaped as a pair of
surrogates, and these mean nothing by themselves. -/
inductive Spells : List Char → List Char → Prop
  | nil : Spells [] []
  | plain {c : Char} {t cs : List Char} (hquote : c ≠ '"') (hbackslash : c ≠ '\\')
      (hcontrol : 0x20 ≤ c.toNat) (ht : Spells t cs) : Spells (c :: t) (c :: cs)
  | escape {e : Char} {n : Nat} {t cs : List Char} (he : shortEscape? e = some n)
      (ht : Spells t cs) : Spells ('\\' :: e :: t) (Char.ofNat n :: cs)
  | unicode {a b c d : Char} {n : Nat} {t cs : List Char} (hn : hexUnit? a b c d = some n)
      (hhigh : isHighSurrogate n = false) (hlow : isLowSurrogate n = false) (ht : Spells t cs) :
      Spells ('\\' :: 'u' :: a :: b :: c :: d :: t) (Char.ofNat n :: cs)
  | pair {a b c d a' b' c' d' : Char} {n m : Nat} {t cs : List Char}
      (hn : hexUnit? a b c d = some n) (hhigh : isHighSurrogate n = true)
      (hm : hexUnit? a' b' c' d' = some m) (hlow : isLowSurrogate m = true) (ht : Spells t cs) :
      Spells ('\\' :: 'u' :: a :: b :: c :: d :: '\\' :: 'u' :: a' :: b' :: c' :: d' :: t)
        (Char.ofNat (0x10000 + (n - 0xD800) * 0x400 + (m - 0xDC00)) :: cs)

/-- A number that is no surrogate stands for a character by itself. -/
theorem joinSurrogates_cons {n : Nat} (hhigh : isHighSurrogate n = false)
    (hlow : isLowSurrogate n = false) (ns : List Nat) :
    joinSurrogates (n :: ns) = (joinSurrogates ns).map (Char.ofNat n :: ·) := by
  cases ns with
  | nil => simp [joinSurrogates, hhigh, hlow]
  | cons m ns => simp [joinSurrogates, hhigh, hlow]

/-- No character is half of a pair. -/
theorem not_surrogate_toNat (c : Char) :
    isHighSurrogate c.toNat = false ∧ isLowSurrogate c.toNat = false := by
  have hvalid := c.valid
  simp only [isHighSurrogate, isLowSurrogate, Bool.and_eq_false_iff, decide_eq_false_iff_not]
  have hnat : c.toNat < 0xD800 ∨ 0xDFFF < c.toNat ∧ c.toNat < 0x110000 := hvalid
  omega

/-- The letters of short escapes stand for single characters. -/
theorem not_surrogate_escape {e : Char} {n : Nat} (he : shortEscape? e = some n) :
    isHighSurrogate n = false ∧ isLowSurrogate n = false := by
  have hsmall : n < 0x80 := by
    unfold shortEscape? at he
    split at he
    all_goals cases he
    all_goals decide
  simp only [isHighSurrogate, isLowSurrogate, Bool.and_eq_false_iff, decide_eq_false_iff_not]
  omega

/-- The numbers of a body that stands for a text are put together to the text. -/
theorem joinSurrogates_spells {t cs : List Char} (h : Spells t cs) :
    ∃ ns, IsBody t ns ∧ joinSurrogates ns = some cs := by
  -- Only surrogates are put together, so that in all cases but the last each number is by itself.
  induction h with
  | nil => exact ⟨[], .nil, rfl⟩
  | @plain c _ _ hquote hbackslash hcontrol _ ih =>
    obtain ⟨ns, hbody, hns⟩ := ih
    have hsingle := not_surrogate_toNat c
    refine ⟨c.toNat :: ns, .plain hquote hbackslash hcontrol hbody, ?_⟩
    rw [joinSurrogates_cons hsingle.1 hsingle.2, hns, Char.ofNat_toNat]
    rfl
  | @escape _ n _ _ he _ ih =>
    obtain ⟨ns, hbody, hns⟩ := ih
    have hsingle := not_surrogate_escape he
    refine ⟨n :: ns, .escape he hbody, ?_⟩
    rw [joinSurrogates_cons hsingle.1 hsingle.2, hns]
    rfl
  | @unicode _ _ _ _ n _ _ hn hhigh hlow _ ih =>
    obtain ⟨ns, hbody, hns⟩ := ih
    refine ⟨n :: ns, .unicode hn hbody, ?_⟩
    rw [joinSurrogates_cons hhigh hlow, hns]
    rfl
  | @pair _ _ _ _ _ _ _ _ n m _ _ hn hhigh hm hlow _ ih =>
    obtain ⟨ns, hbody, hns⟩ := ih
    refine ⟨n :: m :: ns, .unicode hn (.unicode hm hbody), ?_⟩
    rw [joinSurrogates, if_pos hhigh, if_pos hlow, hns]
    rfl

/-- A string is read as the text that it spells. -/
theorem readString_spelled {t : List Char} {s : String} (h : Spells t s.toList)
    (rest : List Char) : readString ('"' :: (t ++ '"' :: rest)) = some (s, rest) := by
  obtain ⟨ns, hbody, hns⟩ := joinSurrogates_spells h
  have hunits := readUnits_body hbody rest
  have hopen : symbol '"' ('"' :: (t ++ '"' :: rest)) = some (t ++ '"' :: rest) := rfl
  rw [readString, hopen]
  show (readUnits (t ++ '"' :: rest)).bind (fun r =>
    (joinSurrogates r.1).bind fun cs => some (String.ofList cs, r.2)) = _
  rw [hunits, Option.bind_some, hns, Option.bind_some, String.ofList_toList]

/-! ## What is written -/

theorem hexValue?_hexDigit : ∀ n < 16, hexValue? (hexDigit n) = some n := by
  decide

theorem spells_short {e c : Char} (he : shortEscape? e = some c.toNat) {t cs : List Char}
    (ht : Spells t cs) : Spells ('\\' :: e :: t) (c :: cs) := by
  have hspells := Spells.escape he ht
  rwa [Char.ofNat_toNat] at hspells

/-- One character, escaped where it has to be, in front of a body. -/
theorem spells_escapeChar (c : Char) {t cs : List Char} (ht : Spells t cs) :
    Spells (escapeChar c ++ t) (c :: cs) := by
  unfold escapeChar
  split
  · -- Quote, backslash and the five control characters that have a letter.
    next hc => exact spells_short (by rw [hc]; rfl) ht
  split
  · next hc => exact spells_short (by rw [hc]; rfl) ht
  split
  · next hc => exact spells_short (by rw [hc]; rfl) ht
  split
  · next hc => exact spells_short (by rw [hc]; rfl) ht
  split
  · next hc => exact spells_short (by rw [hc]; rfl) ht
  split
  · next hc => exact spells_short (by rw [hc]; rfl) ht
  split
  · next hc => exact spells_short (by rw [hc]; rfl) ht
  split
  · next hcontrol =>
    -- The last two digits give the number of the character.
    have hunit : hexUnit? '0' '0' (hexDigit (c.toNat / 16)) (hexDigit (c.toNat % 16)) =
        some c.toNat := by
      have hzero : hexValue? '0' = some 0 := rfl
      have hhigh := hexValue?_hexDigit (c.toNat / 16) (by omega)
      have hlow := hexValue?_hexDigit (c.toNat % 16) (by omega)
      simp only [hexUnit?, hzero, hhigh, hlow, Option.bind_eq_bind, Option.bind_some,
        Option.pure_def]
      congr 1
      omega
    have hsingle := not_surrogate_toNat c
    have hspells := Spells.unicode hunit hsingle.1 hsingle.2 ht
    rwa [Char.ofNat_toNat] at hspells
  · next hquote hbackslash _ _ _ _ _ hcontrol =>
    exact .plain hquote hbackslash (by omega) ht

theorem spells_escape (cs : List Char) : Spells (cs.flatMap escapeChar) cs := by
  induction cs with
  | nil => exact .nil
  | cons c cs ih =>
    rw [List.flatMap_cons]
    exact spells_escapeChar c ih

theorem toList_quote (s : String) :
    (quote s).toList = '"' :: (s.toList.flatMap escapeChar ++ ['"']) := by
  simp [quote]

end DerivedQuery.Json
