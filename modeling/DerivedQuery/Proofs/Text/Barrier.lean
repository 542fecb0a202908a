import DerivedQuery.Proofs.Text.Position

/-!
# Characters that scanners stop at

A scanner that reads words and white space sees nothing of what stands behind a character that is
neither. So a text that ends with such a character is searched as if nothing followed it.

* `StopsAt`: a scanner that passes no character of one kind.
* `stopsAt_keyword`, `stopsAt_space`, `StopsAt.bind`: what scanners are made of.
* `somewhere_append`: a search of two texts is a search of the first, if nothing is found where the
  second one is read.
* `somewhere_barrier`: a search across a `stop` is a search of what precedes it and one of what
  follows it.
-/

namespace DerivedQuery.Text

/-- The scanner reads no further than a `stop`: it does what it does without the `stop` and all that
follows, which it leaves behind. -/
def StopsAt (stop : Char) (read : Scanner) : Prop :=
  ∀ cs rest, read (cs ++ stop :: rest) = (read cs).map (· ++ stop :: rest)

/-- Two scanners one after the other. -/
theorem StopsAt.bind {stop : Char} {read next : Scanner} (hread : StopsAt stop read)
    (hnext : StopsAt stop next) : StopsAt stop fun cs => read cs >>= next := by
  intro cs rest
  simp only [hread cs rest]
  cases read cs with
  | none => rfl
  | some left => exact hnext left rest

theorem stopsAt_keywordChars {stop : Char} {ks : List Char}
    (h : ∀ k ∈ ks, foldsTo k stop = false) : StopsAt stop (keywordChars ks) := by
  induction ks with
  | nil =>
    intro cs rest
    rfl
  | cons k ks ih =>
    rcases List.forall_mem_cons.1 h with ⟨hk, hks⟩
    intro cs rest
    cases cs with
    | nil => simp [keywordChars, hk]
    | cons c cs =>
      by_cases hc : foldsTo k c = true
      · simpa [keywordChars, hc] using ih hks cs rest
      · simp [keywordChars, hc]

/-- A keyword is not read across a character that none of its letters stands for. -/
theorem stopsAt_keyword {stop : Char} {word : String}
    (h : ∀ k ∈ word.toList, foldsTo k stop = false) : StopsAt stop (keyword word) :=
  stopsAt_keywordChars h

theorem trimStart_append_solid {stop : Char} (h : isBlank stop = false) (cs rest : List Char) :
    trimStart (cs ++ stop :: rest) = trimStart cs ++ stop :: rest := by
  induction cs with
  | nil => exact List.dropWhile_cons_of_neg (by simp [h])
  | cons c cs ih =>
    by_cases hc : isBlank c = true
    · simpa [trimStart, hc] using ih
    · simp [trimStart, hc]

/-- White space ends in front of anything else. -/
theorem stopsAt_space {stop : Char} (h : isBlank stop = false) : StopsAt stop space := by
  intro cs rest
  cases cs with
  | nil => simp [space, h]
  | cons c cs =>
    by_cases hc : isBlank c = true
    · simp [space, hc, trimStart_append_solid h]
    · simp [space, hc]

/-- A keyword with white space behind it. -/
theorem stopsAt_phrase {stop : Char} {word : String}
    (hword : ∀ k ∈ word.toList, foldsTo k stop = false) (hblank : isBlank stop = false) :
    StopsAt stop fun cs => keyword word cs >>= space :=
  (stopsAt_keyword hword).bind (stopsAt_space hblank)

/-- Whether a scanner succeeds does not depend on what stands behind a character it stops at. -/
theorem StopsAt.isSome_eq {stop : Char} {read : Scanner} (h : StopsAt stop read)
    (cs rest : List Char) : (read (cs ++ stop :: rest)).isSome = (read cs).isSome := by
  rw [h cs rest, Option.isSome_map]

/-! ## Searches -/

/-- A search of a text and what follows it is a search of the text, if the test sees nothing of what
follows, and nothing is found there. -/
theorem somewhere_append {test : Option Char → List Char → Bool} {t rest : List Char}
    (hwithin : ∀ before b, b <:+ t → b ≠ [] → test before (b ++ rest) = test before b)
    (hbehind : ∀ before, somewhere test before rest = test before []) (before : Option Char) :
    somewhere test before (t ++ rest) = somewhere test before t := by
  induction t generalizing before with
  | nil => exact hbehind before
  | cons c t ih =>
    have hhere := hwithin before (c :: t) List.suffix_rfl (List.cons_ne_nil c t)
    have hlater : somewhere test (some c) (t ++ rest) = somewhere test (some c) t := by
      apply ih
      intro d b hb hne
      exact hwithin d b (hb.trans (List.suffix_cons c t)) hne
    rw [List.cons_append, somewhere, somewhere, hlater, ← List.cons_append, hhere]

/-- What is found in two texts with a `stop` between them is found in one of the two. Across the
`stop` the test sees what `test'` sees without it, and nothing is found at the `stop` itself. -/
theorem somewhere_barrier {test test' : Option Char → List Char → Bool} {stop : Char}
    {t rest : List Char}
    (hacross : ∀ before b, b <:+ t → test before (b ++ stop :: rest) = test' before b)
    (before : Option Char) :
    somewhere test before (t ++ stop :: rest) =
      (somewhere test' before t || somewhere test (some stop) rest) := by
  induction t generalizing before with
  | nil =>
    have hhere := hacross before [] List.suffix_rfl
    rw [List.nil_append] at hhere ⊢
    rw [somewhere, somewhere, hhere]
  | cons c t ih =>
    have hhere := hacross before (c :: t) List.suffix_rfl
    have hlater := ih (fun d b hb => hacross d b (hb.trans (List.suffix_cons c t))) (some c)
    rw [List.cons_append] at hhere ⊢
    rw [somewhere, somewhere, hhere, hlater, Bool.or_assoc]

/-- A search begins the same behind two characters that the test does not tell apart. -/
theorem somewhere_congr_before {test : Option Char → List Char → Bool} {b d : Option Char}
    (h : ∀ cs, test b cs = test d cs) (cs : List Char) :
    somewhere test b cs = somewhere test d cs := by
  cases cs with
  | nil => exact h []
  | cons c cs => rw [somewhere, somewhere, h]

/-- A search begins in front of a text as it does behind a character that the test does not tell
from the beginning. -/
theorem somewhere_behind {test : Option Char → List Char → Bool} {c : Char}
    (h : ∀ cs, test (some c) cs = test none cs) (cs : List Char) :
    somewhere test (some c) cs = somewhere test none cs :=
  somewhere_congr_before h cs

theorem somewhere_congr {test test' : Option Char → List Char → Bool} {t : List Char}
    (h : ∀ before b, b <:+ t → test before b = test' before b) (before : Option Char) :
    somewhere test before t = somewhere test' before t := by
  induction t generalizing before with
  | nil => exact h before [] List.suffix_rfl
  | cons c t ih =>
    rw [somewhere, somewhere, h before (c :: t) List.suffix_rfl,
      ih fun d b hb => h d b (hb.trans (List.suffix_cons c t))]

theorem somewhere_or (test test' : Option Char → List Char → Bool) (before : Option Char)
    (t : List Char) :
    somewhere (fun before cs => test before cs || test' before cs) before t =
      (somewhere test before t || somewhere test' before t) := by
  induction t generalizing before with
  | nil => rfl
  | cons c t ih =>
    rw [somewhere, somewhere, somewhere, ih]
    simp only [Bool.or_assoc, Bool.or_left_comm]

theorem somewhere_and (test : Option Char → List Char → Bool) (condition : Bool)
    (before : Option Char) (t : List Char) :
    somewhere (fun before cs => test before cs && condition) before t =
      (somewhere test before t && condition) := by
  induction t generalizing before with
  | nil => rfl
  | cons c t ih => rw [somewhere, somewhere, ih, Bool.and_or_distrib_right]

theorem somewhere_of_here {test : Option Char → List Char → Bool} {before : Option Char}
    {cs : List Char} (h : test before cs = true) : somewhere test before cs = true := by
  cases cs with
  | nil => exact h
  | cons c cs => rw [somewhere, h, Bool.true_or]

/-- What is found behind a beginning of a text is found in the text. -/
theorem somewhere_append_right {test : Option Char → List Char → Bool} {c : Char}
    {rest : List Char} (h : somewhere test (some c) rest = true) (before : Option Char)
    (t : List Char) : somewhere test before (t ++ c :: rest) = true := by
  induction t generalizing before with
  | nil => rw [List.nil_append, somewhere, h, Bool.or_true]
  | cons d t ih => rw [List.cons_append, somewhere, ih, Bool.or_true]

/-- A test that succeeds behind a beginning of a text succeeds somewhere. -/
theorem somewhere_of_append {test : Option Char → List Char → Bool} {c : Char} {rest : List Char}
    (h : test (some c) rest = true) (before : Option Char) (t : List Char) :
    somewhere test before (t ++ c :: rest) = true :=
  somewhere_append_right (somewhere_of_here h) before t

end DerivedQuery.Text
