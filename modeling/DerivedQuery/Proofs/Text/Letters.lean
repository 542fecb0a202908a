import Mathlib
import DerivedQuery.Proofs.PropertyPath
import DerivedQuery.Proofs.Text.CaseMap
import DerivedQuery.Proofs.Text.Words

/-!
# Letters of names

What the case styles make of a text depends on its words only, and these are its letters and numbers
in order. In ASCII the styles change neither: the forms of a text differ from it in case and in what
stands between the words.

* `flatten_words`, `ne_nil_of_mem_words`: the words of a text.
* `dot_not_mem_lowerCamel`, `dot_not_mem_snake`: no form has a dot in it.
* `nameLetters`: what ASCII names have in common with their forms.
* `isIdentifier_lowerCamel`, `isIdentifier_snake`: whether a form is an identifier.
* `ascii_of_isIdentifier_snake`: a text whose snake case is an identifier, and the kelvin sign.
-/

namespace DerivedQuery.Text

/-! ## Words -/

/-- The runs hold all letters and numbers of a text. -/
theorem flatten_runs (cs : List Char) : (runs cs).flatten = cs.filter isAlphanumeric := by
  induction cs with
  | nil => rfl
  | cons c cs ih =>
    rw [runs]
    by_cases hc : isAlphanumeric c = true
    · rw [if_pos hc, List.filter_cons_of_pos hc, ← ih]
      cases runs cs <;> rfl
    · rw [if_neg hc, List.filter_cons_of_neg hc, ← ih]
      rfl

/-- The words of a run make the run again, behind what has been read of the first. -/
theorem flatten_wordsOfRun (mode : WordCase) (word : List Char) (c : Char) (cs : List Char) :
    (wordsOfRun mode word (c :: cs)).flatten = word.reverse ++ c :: cs := by
  induction cs generalizing mode word c with
  | nil => simp [wordsOfRun]
  | cons next rest ih =>
    rw [wordsOfRun]
    split
    · -- A capital starts a word behind a small letter.
      rw [List.flatten_cons, ih]
      simp
    · split
      · -- Of several capitals the last one starts the next word.
        rw [List.flatten_cons, ih]
        rfl
      · rw [ih]
        simp

/-- Cutting a text into words loses nothing but what is neither letter nor number. -/
theorem flatten_words (s : String) : (words s).flatten = s.toList.filter isAlphanumeric := by
  have hrun (run : List Char) : (wordsOfRun .undecided [] run).flatten = run := by
    cases run with
    | nil => rfl
    | cons c cs => exact flatten_wordsOfRun .undecided [] c cs
  rw [words, ← flatten_runs]
  induction runs s.toList with
  | nil => rfl
  | cons run rest ih => rw [List.flatMap_cons, List.flatten_append, hrun, ih, List.flatten_cons]

/-- Where a word ends before its last capital, a capital has been read before that one. -/
theorem ne_nil_of_mem_wordsOfRun {mode : WordCase} {word cs : List Char}
    (hmode : mode = .upper → word ≠ []) : ∀ w ∈ wordsOfRun mode word cs, w ≠ [] := by
  induction cs generalizing mode word with
  | nil => simp [wordsOfRun]
  | cons c cs ih =>
    cases cs with
    | nil => simp [wordsOfRun]
    | cons next rest =>
      have hrest {m : WordCase} (word : List Char) (d : Char) :
          ∀ w ∈ wordsOfRun m (d :: word) (next :: rest), w ≠ [] :=
        ih fun _ => List.cons_ne_nil d word
      rw [wordsOfRun]
      split
      · refine List.forall_mem_cons.2 ⟨by simp, ih ?_⟩
        intro hupper
        cases hupper
      · split
        · next hcut =>
          simp only [Bool.and_eq_true, decide_eq_true_eq] at hcut
          exact List.forall_mem_cons.2 ⟨by simpa using hmode hcut.1.1, hrest [] c⟩
        · exact hrest word c

/-- No word of a text is empty. -/
theorem ne_nil_of_mem_words {s : String} : ∀ w ∈ words s, w ≠ [] := by
  intro w hw
  obtain ⟨run, -, hw⟩ := List.mem_flatMap.1 hw
  exact ne_nil_of_mem_wordsOfRun (fun h => by cases h) w hw

/-! ## Characters of the styles -/

/-- A character of a word in small letters comes from one of the word. -/
theorem exists_of_mem_lowerWord {w : List Char} {d : Char} (h : d ∈ lowerWord w) :
    d = 'ς' ∨ ∃ c ∈ w, d ∈ lowerChar c := by
  induction w with
  | nil => cases h
  | cons c w ih =>
    cases w with
    | nil =>
      rw [lowerWord] at h
      split at h
      · exact .inl (List.mem_singleton.1 h)
      · exact .inr ⟨c, List.mem_singleton_self c, h⟩
    | cons next w =>
      rw [lowerWord, List.mem_append] at h
      · rcases h with hfirst | hrest
        · exact .inr ⟨c, List.mem_cons_self, hfirst⟩
        · rcases ih hrest with hsigma | ⟨b, hb, hd⟩
          · exact .inl hsigma
          · exact .inr ⟨b, List.mem_cons_of_mem c hb, hd⟩
      · simp

/-- Small letters bring no dot. -/
theorem dot_not_mem_lowerWord {w : List Char} (h : '.' ∉ w) : '.' ∉ lowerWord w := by
  intro hdot
  rcases exists_of_mem_lowerWord hdot with hsigma | ⟨c, hc, hdot⟩
  · exact absurd hsigma (by decide)
  · exact ne_dot_of_mem_lowerChar (fun heq => h (heq ▸ hc)) hdot rfl

/-- Nor does a capital at the beginning of a word. -/
theorem dot_not_mem_capitalWord {w : List Char} (h : '.' ∉ w) : '.' ∉ capitalWord w := by
  cases w with
  | nil => exact List.not_mem_nil
  | cons c w =>
    rw [List.mem_cons, not_or] at h
    rw [capitalWord, List.mem_append, not_or]
    exact ⟨fun hdot => ne_dot_of_mem_upperChar (Ne.symm h.1) hdot rfl, dot_not_mem_lowerWord h.2⟩

theorem dot_not_mem_of_mem_words {s : String} : ∀ w ∈ words s, '.' ∉ w := by
  intro w hw hdot
  have hmem : '.' ∈ (words s).flatten := List.mem_flatten.2 ⟨w, hw, hdot⟩
  rw [flatten_words] at hmem
  exact absurd (List.mem_filter.1 hmem).2 (by decide)

theorem dot_not_mem_lowerCamel (s : String) : '.' ∉ (lowerCamel s).toList := by
  have hwords := dot_not_mem_of_mem_words (s := s)
  rw [lowerCamel]
  rcases hcut : words s with _ | ⟨w, ws⟩
  · exact List.not_mem_nil
  · rw [hcut, List.forall_mem_cons] at hwords
    simp only [String.toList_ofList, List.mem_append, List.mem_flatMap, not_or, not_exists,
      not_and]
    exact ⟨dot_not_mem_lowerWord hwords.1, fun v hv => dot_not_mem_capitalWord (hwords.2 v hv)⟩

theorem dot_not_mem_snake (s : String) : '.' ∉ (snake s).toList := by
  rw [snake, String.toList_ofList]
  intro hdot
  rcases mem_of_mem_intercalate hdot with hsep | ⟨piece, hpiece, hdot⟩
  · exact absurd hsep (by decide)
  · obtain ⟨w, hw, rfl⟩ := List.mem_map.1 hpiece
    exact dot_not_mem_lowerWord (dot_not_mem_of_mem_words w hw) hdot

/-! ## Letters in ASCII -/

/-- What does not tell small ASCII letters from capitals never does. -/
theorem apply_toLower (test : Char → Bool)
    (h : ∀ n < 128, test (Char.ofNat n).toLower = test (Char.ofNat n)) (c : Char) :
    test c.toLower = test c := by
  by_cases hascii : c.toNat < 0x80
  · exact forall_ascii (P := fun c => test c.toLower = test c) h hascii
  · have hupper : ¬c.isUpper = true := by
      rw [isUpper_iff]
      omega
    rw [Char.toLower_eq_of_not_isUpper hupper]

/-- Letters and numbers stay what they are in small letters. -/
theorem isAlphanumeric_toLower (c : Char) : isAlphanumeric c.toLower = isAlphanumeric c :=
  apply_toLower isAlphanumeric (by decide +kernel) c

theorem filter_map_toLower (cs : List Char) :
    (cs.map Char.toLower).filter isAlphanumeric = (cs.filter isAlphanumeric).map Char.toLower := by
  simp [List.filter_map, Function.comp_def, isAlphanumeric_toLower]

/-- The letters and numbers of a name, those of ASCII in small letters. -/
def nameLetters (s : String) : List Char :=
  (s.toList.filter isAlphanumeric).map Char.toLower

/-- In ASCII, a word in small letters is the word up to case. -/
theorem map_toLower_lowerWord {w : List Char} (h : ∀ c ∈ w, c.toNat < 0x80) :
    (lowerWord w).map Char.toLower = w.map Char.toLower := by
  rw [lowerWord_of_ascii h, List.map_map]
  exact List.map_congr_left fun c _ => c.toLower_toLower_eq_toLower

/-- In ASCII, a word with a capital is the word up to case. -/
theorem map_toLower_capitalWord {w : List Char} (h : ∀ c ∈ w, c.toNat < 0x80) :
    (capitalWord w).map Char.toLower = w.map Char.toLower := by
  cases w with
  | nil => rfl
  | cons c w =>
    rw [List.forall_mem_cons] at h
    rw [capitalWord, List.map_append, upperChar_of_ascii h.1, map_toLower_lowerWord h.2,
      List.map_singleton, Char.toLower_toUpper_eq_toLower]
    rfl

section Ascii

variable {s : String} (h : ∀ c ∈ s.toList, isAlphanumeric c = true → c.toNat < 0x80)
include h

/-- The words of a text have no other letters and numbers than the text. -/
theorem ascii_of_mem_words : ∀ w ∈ words s, ∀ c ∈ w, c.toNat < 0x80 := by
  intro w hw c hc
  have hmem : c ∈ (words s).flatten := List.mem_flatten.2 ⟨w, hw, hc⟩
  rw [flatten_words, List.mem_filter] at hmem
  exact h c hmem.1 hmem.2

/-- Up to case, the lower camel case of a text is what letters and numbers it has. -/
theorem map_toLower_lowerCamel :
    (lowerCamel s).toList.map Char.toLower =
      (s.toList.filter isAlphanumeric).map Char.toLower := by
  have hwords := ascii_of_mem_words h
  rw [← flatten_words, lowerCamel]
  rcases hcut : words s with _ | ⟨w, ws⟩
  · rfl
  · rw [hcut, List.forall_mem_cons] at hwords
    simp only [String.toList_ofList, List.map_append, List.flatten_cons, List.map_flatMap]
    rw [map_toLower_lowerWord hwords.1, List.flatMap_congr fun v hv =>
      map_toLower_capitalWord (hwords.2 v hv), List.map_flatten]
    rfl

theorem flatten_map_lowerWord : ((words s).map lowerWord).flatten =
    (s.toList.filter isAlphanumeric).map Char.toLower := by
  have hwords : (words s).map lowerWord = (words s).map (List.map Char.toLower) :=
    List.map_congr_left fun w hw => lowerWord_of_ascii (ascii_of_mem_words h w hw)
  rw [hwords, ← flatten_words, List.map_flatten]

/-- The lower camel case keeps the letters of a name. -/
theorem nameLetters_lowerCamel : nameLetters (lowerCamel s) = nameLetters s := by
  rw [nameLetters, ← filter_map_toLower, map_toLower_lowerCamel h, filter_map_toLower,
    List.filter_filter]
  simp [nameLetters]

/-- The snake case keeps them too, since `_` is neither a letter nor a number. -/
theorem nameLetters_snake : nameLetters (snake s) = nameLetters s := by
  have hsep : ∀ c ∈ ['_'], isAlphanumeric c = false := List.forall_mem_singleton.2 (by decide)
  rw [nameLetters, snake, String.toList_ofList, filter_intercalate hsep, flatten_map_lowerWord h,
    filter_map_toLower, List.filter_filter]
  simp [nameLetters]

end Ascii

theorem nameLetters_congr {s t : String}
    (h : s.toList.map Char.toLower = t.toList.map Char.toLower) :
    nameLetters s = nameLetters t := by
  rw [nameLetters, nameLetters, ← filter_map_toLower, ← filter_map_toLower, h]

/-! ## Forms that are identifiers -/

/-- Words with `_` between them are an identifier where they are one without. -/
theorem isIdentifier_intercalate {ws : List (List Char)} (h : ∀ w ∈ ws, w ≠ []) :
    isIdentifier (['_'].intercalate ws) = isIdentifier ws.flatten := by
  -- The first word is not empty, so that it has the first character in both texts.
  have hhead : (['_'].intercalate ws).head? = ws.flatten.head? := by
    match ws, h with
    | [], _ => rfl
    | (c :: w) :: ws, _ => cases ws <;> simp
    | [] :: _, h => exact absurd rfl (h [] List.mem_cons_self)
  have hchars : (∀ c ∈ ['_'].intercalate ws, continuesIdentifier c = true) ↔
      ∀ c ∈ ws.flatten, continuesIdentifier c = true := by
    constructor
    · intro hjoined c hc
      obtain ⟨w, hw, hc⟩ := List.mem_flatten.1 hc
      exact hjoined c (mem_intercalate_of_mem hw hc)
    · intro hwords c hc
      rcases mem_of_mem_intercalate hc with hsep | ⟨w, hw, hc⟩
      · rw [List.mem_singleton.1 hsep]
        decide
      · exact hwords c (List.mem_flatten.2 ⟨w, hw, hc⟩)
  rw [Bool.eq_iff_iff, isIdentifier_iff, isIdentifier_iff, hhead, hchars]

/-- Case does not decide whether a text is an identifier. -/
theorem isIdentifier_map_toLower (cs : List Char) :
    isIdentifier (cs.map Char.toLower) = isIdentifier cs := by
  have hstarts := apply_toLower startsIdentifier (by decide +kernel)
  have hcontinues := apply_toLower continuesIdentifier (by decide +kernel)
  rw [Bool.eq_iff_iff, isIdentifier_iff, isIdentifier_iff]
  cases cs <;> simp [hstarts, hcontinues]

section Ascii

variable {s : String} (h : ∀ c ∈ s.toList, isAlphanumeric c = true → c.toNat < 0x80)
include h

/-- The lower camel case is an identifier where the letters and numbers alone are one. -/
theorem isIdentifier_lowerCamel :
    isIdentifier (lowerCamel s).toList = isIdentifier (s.toList.filter isAlphanumeric) := by
  rw [← isIdentifier_map_toLower, map_toLower_lowerCamel h, isIdentifier_map_toLower]

/-- The same holds of the snake case. -/
theorem isIdentifier_snake :
    isIdentifier (snake s).toList = isIdentifier (s.toList.filter isAlphanumeric) := by
  have hne : ∀ w ∈ (words s).map lowerWord, w ≠ [] := by
    intro v hv
    obtain ⟨w, hw, rfl⟩ := List.mem_map.1 hv
    rw [lowerWord_of_ascii (ascii_of_mem_words h w hw)]
    simpa using ne_nil_of_mem_words w hw
  rw [snake, String.toList_ofList, isIdentifier_intercalate hne, flatten_map_lowerWord h,
    isIdentifier_map_toLower]

end Ascii

/-- An identifier is in ASCII. -/
theorem toNat_of_continuesIdentifier {c : Char} (h : continuesIdentifier c = true) :
    0 < c.toNat ∧ c.toNat < 0x80 := by
  simp only [continuesIdentifier, Bool.or_eq_true, beq_iff_eq] at h
  rcases h with (h | rfl) | rfl
  · rw [isAlphanum_iff] at h
    omega
  · decide
  · decide

/-- The last character of a word may be a `Σ`; all others have their own small form in it. -/
theorem mem_lowerWord_of_mem {w : List Char} {c : Char} (hc : c ∈ w) :
    'ς' ∈ lowerWord w ∨ ∀ d ∈ lowerChar c, d ∈ lowerWord w := by
  induction w with
  | nil => cases hc
  -- Only the last character of a word can be a final sigma.
  | cons b w ih =>
    cases w with
    | nil =>
      rw [List.mem_singleton] at hc
      subst hc
      rw [lowerWord]
      split
      · exact .inl (List.mem_singleton_self _)
      · exact .inr fun d hd => hd
    | cons next w =>
      rw [lowerWord, List.mem_append]
      · rcases List.mem_cons.1 hc with rfl | hc
        · exact .inr fun d hd => List.mem_append_left _ hd
        · rcases ih hc with hsigma | hlower
          · exact .inl (.inr hsigma)
          · exact .inr fun d hd => List.mem_append_right _ (hlower d hd)
      · simp

/-- Where the snake case is an identifier, the letters and numbers are in ASCII, unless the kelvin
sign is one of them. -/
theorem ascii_of_isIdentifier_snake {s : String} (h : isIdentifier (snake s).toList = true)
    (hkelvin : kelvinSign ∉ s.toList) :
    ∀ c ∈ s.toList, isAlphanumeric c = true → c.toNat < 0x80 := by
  intro c hc halnum
  have hmem : c ∈ (words s).flatten := by
    rw [flatten_words]
    exact List.mem_filter.2 ⟨hc, halnum⟩
  -- The character is in some word, and the small form of the word is in the snake case.
  obtain ⟨w, hw, hcw⟩ := List.mem_flatten.1 hmem
  have hascii {d : Char} (hd : d ∈ lowerWord w) : 0 < d.toNat ∧ d.toNat < 0x80 := by
    have hsnake : d ∈ (snake s).toList := by
      rw [snake, String.toList_ofList]
      exact mem_intercalate_of_mem (List.mem_map_of_mem hw) hd
    exact toNat_of_continuesIdentifier (continuesIdentifier_of_mem h d hsnake)
  rcases mem_lowerWord_of_mem hcw with hsigma | hlower
  · exact absurd (hascii hsigma) (by decide)
  · -- Beyond ASCII, only the kelvin sign has a small form in ASCII.
    rcases ascii_or_kelvin fun d hd => hascii (hlower d hd) with hsmall | rfl
    · exact hsmall
    · exact absurd hc hkelvin

/-- The letters and numbers of an identifier without `_` are an identifier. -/
theorem isIdentifier_filter {cs : List Char} (h : isIdentifier cs = true) (hsep : '_' ∉ cs) :
    isIdentifier (cs.filter isAlphanumeric) = true := by
  cases cs with
  | nil => cases h
  | cons c cs =>
    -- Without `_` the first character is a letter, and so it is kept.
    have halpha : c.isAlpha = true := by
      have hstarts := startsIdentifier_of_isIdentifier h
      simp only [startsIdentifier, Bool.or_eq_true, beq_iff_eq] at hstarts
      exact hstarts.resolve_right fun heq => hsep (heq ▸ List.mem_cons_self)
    have halnum := isAlphanumeric_of_isAlphanum (isAlphanum_of_isAlpha halpha)
    have hcontinues := continuesIdentifier_of_mem h
    rw [List.filter_cons_of_pos halnum, isIdentifier_iff]
    constructor
    · simp [startsIdentifier, halpha]
    · intro d hd
      rcases List.mem_cons.1 hd with rfl | hd
      · exact hcontinues d List.mem_cons_self
      · exact hcontinues d (List.mem_cons_of_mem c (List.mem_filter.1 hd).1)

/-- The forms of an identifier without `_` are identifiers. -/
theorem isIdentifier_forms {s : String} (h : isIdentifier s.toList = true)
    (hsep : '_' ∉ s.toList) :
    isIdentifier (lowerCamel s).toList = true ∧ isIdentifier (snake s).toList = true := by
  have hascii : ∀ c ∈ s.toList, isAlphanumeric c = true → c.toNat < 0x80 := fun c hc _ =>
    (toNat_of_continuesIdentifier (continuesIdentifier_of_mem h c hc)).2
  rw [isIdentifier_lowerCamel hascii, isIdentifier_snake hascii]
  exact ⟨isIdentifier_filter h hsep, isIdentifier_filter h hsep⟩

/-- Where only the snake case is an identifier, a kelvin sign is in the text. -/
theorem kelvinSign_mem_of_isIdentifier_snake {s : String}
    (hsnake : isIdentifier (snake s).toList = true)
    (hcamel : isIdentifier (lowerCamel s).toList = false) : kelvinSign ∈ s.toList := by
  apply Classical.byContradiction
  intro hkelvin
  have hascii := ascii_of_isIdentifier_snake hsnake hkelvin
  rw [isIdentifier_snake hascii] at hsnake
  rw [isIdentifier_lowerCamel hascii, hsnake] at hcamel
  cases hcamel

/-! ## The kelvin sign -/

/-- A letter and the kelvin sign are two words. -/
theorem words_kelvin : words "a\u212a" = [['a'], [kelvinSign]] := by
  have hruns : runs ['a', kelvinSign] = [['a', kelvinSign]] := by
    have ha : isAlphanumeric 'a' = true := by decide
    rw [runs, ha, runs, isAlphanumeric_kelvinSign]
    rfl
  have hcut : wordsOfRun .undecided [] ['a', kelvinSign] = [['a'], [kelvinSign]] := by
    have ha : isLowercase 'a' = true := by decide
    rw [wordsOfRun, isUppercase_kelvinSign, WordCase.after, ha]
    rfl
  have hchars : "a\u212a".toList = ['a', kelvinSign] := rfl
  rw [words, hchars, hruns, List.flatMap_singleton, hcut]

theorem lowerCamel_kelvin : lowerCamel "a\u212a" = "a\u212a" := by
  have hfirst : lowerWord ['a'] = ['a'] := by decide
  have hnext : capitalWord [kelvinSign] = [kelvinSign] := by
    rw [capitalWord, upperChar_kelvinSign]
    rfl
  rw [lowerCamel, words_kelvin]
  simp only
  rw [hfirst, List.flatMap_singleton, hnext]
  rfl

theorem snake_kelvin : snake "a\u212a" = "a_k" := by
  have hfirst : lowerWord ['a'] = ['a'] := by decide
  have hnext : lowerWord [kelvinSign] = ['k'] := by
    have hsigma : kelvinSign ≠ 'Σ' := by decide
    rw [lowerWord, if_neg hsigma, lowerChar_kelvinSign]
  rw [snake, words_kelvin, List.map_cons, List.map_singleton, hfirst, hnext]
  rfl

end DerivedQuery.Text
