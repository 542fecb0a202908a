import Mathlib.Data.List.Basic
import DerivedQuery.Proofs.Text.Ascii
import DerivedQuery.Proofs.Text.Joined
import DerivedQuery.Text.CamelCase

/-!
# Words in ASCII names

A name of small letters and digits is written with `_` between its words, or with a capital for each
word. Either way the same words are read from it.

* `isFieldWord`, `isFieldName`: two small letters, and then small letters and digits; such words
  with `_` between them.
* `words_name`, `words_spelled`: the words of a name, and of its words with capitals.
* `snake_name`, `lowerCamel_name` and their like: what the case styles make of a name.
-/

namespace DerivedQuery.Text

/-! ## Characters -/

/-- A property of ASCII characters can be checked for each of them. -/
theorem forall_ascii {P : Char → Prop} (h : ∀ n < 128, P (Char.ofNat n)) {c : Char}
    (hc : c.toNat < 0x80) : P c := by
  have hn := h c.toNat hc
  rwa [Char.ofNat_toNat] at hn

/-- In ASCII the small letters are those of the core library. -/
theorem isLowercase_of_ascii {c : Char} (h : c.toNat < 0x80) : isLowercase c = c.isLower := by
  rw [isLowercase, if_pos h]

theorem lowerChar_of_ascii {c : Char} (h : c.toNat < 0x80) : lowerChar c = [c.toLower] := by
  rw [lowerChar, if_pos h]

theorem upperChar_of_ascii {c : Char} (h : c.toNat < 0x80) : upperChar c = [c.toUpper] := by
  rw [upperChar, if_pos h]

/-- The one letter whose small form depends on its place is beyond ASCII. -/
theorem ne_sigma_of_ascii {c : Char} (h : c.toNat < 0x80) : c ≠ 'Σ' := by
  rintro rfl
  exact absurd h (by decide)

/-- A small letter or a digit. -/
def isSmall (c : Char) : Bool :=
  c.isLower || c.isDigit

section Small

variable {c : Char} (h : isSmall c = true)
include h

/-- Small letters and digits are in ASCII. -/
theorem toNat_lt_of_isSmall : c.toNat < 0x80 := by
  rw [isSmall, Bool.or_eq_true, isLower_iff, isDigit_iff] at h
  omega

/-- A small letter or a digit has no other small form. -/
theorem toLower_of_isSmall : c.toLower = c :=
  forall_ascii (P := fun c => isSmall c = true → c.toLower = c) (by decide +kernel)
    (toNat_lt_of_isSmall h) h

theorem not_isUppercase_of_isSmall : isUppercase c = false := by
  rw [isUppercase_of_ascii (toNat_lt_of_isSmall h)]
  rw [isSmall, Bool.or_eq_true] at h
  rcases h with h | h
  · exact not_isUpper_of_isLower h
  · exact not_isUpper_of_isDigit h

theorem isAlphanum_of_isSmall : c.isAlphanum = true := by
  rw [isSmall, Bool.or_eq_true] at h
  rcases h with h | h
  · exact isAlphanum_of_isAlpha (isAlpha_of_isLower h)
  · exact isAlphanum_of_isDigit h

/-- Small letters and digits do not end a word in small letters. -/
theorem after_of_isSmall : WordCase.lower.after c = .lower := by
  unfold WordCase.after
  rw [not_isUppercase_of_isSmall h]
  split <;> rfl

end Small

/-- The capital of a small letter: a capital letter, whose small form is the letter. -/
theorem toUpper_of_isLower {c : Char} (h : c.isLower = true) :
    c.toUpper.isUpper = true ∧ c.toUpper.toLower = c ∧ c.toUpper.toUpper = c.toUpper := by
  have hascii : c.toNat < 0x80 := by
    rw [isLower_iff] at h
    omega
  exact forall_ascii (P := fun c => c.isLower = true → c.toUpper.isUpper = true ∧
    c.toUpper.toLower = c ∧ c.toUpper.toUpper = c.toUpper) (by decide +kernel) hascii h

/-! ## Words -/

/-- A word of a name: two small letters, and then small letters and digits. -/
def isFieldWord : List Char → Bool
  | c :: d :: cs => c.isLower && d.isLower && cs.all isSmall
  | _ => false

/-- The word with a capital. -/
def capitalised : List Char → List Char
  | [] => []
  | c :: cs => c.toUpper :: cs

/-- A word is a small letter and small characters, the first of which is a letter as well. -/
theorem exists_of_isFieldWord {w : List Char} (h : isFieldWord w = true) :
    ∃ c d cs, w = c :: d :: cs ∧ c.isLower = true ∧ d.isLower = true ∧
      ∀ e ∈ cs, isSmall e = true := by
  match w, h with
  | c :: d :: cs, h =>
    simp only [isFieldWord, Bool.and_eq_true, List.all_eq_true] at h
    exact ⟨c, d, cs, rfl, h.1.1, h.1.2, h.2⟩

theorem isSmall_of_isLower {c : Char} (h : c.isLower = true) : isSmall c = true := by
  rw [isSmall, h, Bool.true_or]

theorem isSmall_of_mem {w : List Char} (h : isFieldWord w = true) : ∀ c ∈ w, isSmall c = true := by
  rcases exists_of_isFieldWord h with ⟨c, d, cs, rfl, hc, hd, hcs⟩
  simp only [List.forall_mem_cons]
  exact ⟨isSmall_of_isLower hc, isSmall_of_isLower hd, hcs⟩

/-- A word goes on up to a capital, once a small letter has been read of it. -/
theorem wordsOfRun_append (mode : WordCase) (word : List Char) {cs rest : List Char} {c : Char}
    (hmode : mode.after c = .lower) (hc : isUppercase c = false) (hcs : ∀ d ∈ cs, isSmall d = true)
    (hrest : rest.head?.all isUppercase = true) :
    wordsOfRun mode word (c :: cs ++ rest) =
      (word.reverse ++ c :: cs) :: wordsOfRun .undecided [] rest := by
  induction cs generalizing mode word c with
  | nil =>
    -- Nothing follows, or a capital does, at which the word ends.
    cases rest with
    | nil => simp [wordsOfRun]
    | cons r rest =>
      have hr : isUppercase r = true := by simpa using hrest
      simp [wordsOfRun, hmode, hr]
  | cons d cs ih =>
    -- The next character is small as well, and leaves the word in small letters.
    rcases List.forall_mem_cons.1 hcs with ⟨hd, hcs⟩
    have hdupper := not_isUppercase_of_isSmall hd
    have hlater := ih (mode.after c) (c :: word)
      (by rw [hmode]; exact after_of_isSmall hd) hdupper hcs
    rw [List.cons_append] at hlater ⊢
    simp [wordsOfRun, hc, hdupper, hlater]

/-- Behind a small letter the reader is in a word of small letters. -/
theorem after_of_isLower {mode : WordCase} {c : Char} (h : c.isLower = true) :
    mode.after c = .lower := by
  have hascii := toNat_lt_of_isSmall (isSmall_of_isLower h)
  rw [WordCase.after, isLowercase_of_ascii hascii, h, if_pos rfl]

/-- A field word is one word. -/
theorem wordsOfRun_word {w : List Char} (h : isFieldWord w = true) :
    wordsOfRun .undecided [] w = [w] := by
  rcases exists_of_isFieldWord h with ⟨c, d, cs, rfl, hc, hd, hcs⟩
  have hsmall : ∀ e ∈ d :: cs, isSmall e = true :=
    List.forall_mem_cons.2 ⟨isSmall_of_isLower hd, hcs⟩
  have hend : ([] : List Char).head?.all isUppercase = true := rfl
  have hword := wordsOfRun_append .undecided [] (after_of_isLower hc)
    (not_isUppercase_of_isSmall (isSmall_of_isLower hc)) hsmall hend
  rwa [List.append_nil] at hword

/-- A field word with a capital is one word, if another capital or nothing follows it. -/
theorem wordsOfRun_capitalised_append {w rest : List Char} (h : isFieldWord w = true)
    (hrest : rest.head?.all isUppercase = true) :
    wordsOfRun .undecided [] (capitalised w ++ rest) =
      capitalised w :: wordsOfRun .undecided [] rest := by
  rcases exists_of_isFieldWord h with ⟨c, d, cs, rfl, hc, hd, hcs⟩
  have hupper : c.toUpper.isUpper = true := (toUpper_of_isLower hc).1
  have hcapital : WordCase.undecided.after c.toUpper = .upper := by
    have hascii : c.toUpper.toNat < 0x80 := by
      rw [isUpper_iff] at hupper
      omega
    rw [WordCase.after, isLowercase_of_ascii hascii, not_isLower_of_isUpper hupper,
      isUppercase_of_isUpper hupper]
    rfl
  have hdupper := not_isUppercase_of_isSmall (isSmall_of_isLower hd)
  -- The capital is passed, and from the letter behind it on the word goes on.
  have hlater := wordsOfRun_append .upper [c.toUpper] (after_of_isLower hd)
    hdupper hcs hrest
  rw [List.cons_append] at hlater
  simp [capitalised, wordsOfRun, hcapital, hlater]

/-- The next word begins with its capital. -/
theorem head_capitalised {ws : List (List Char)} (h : ∀ w ∈ ws, isFieldWord w = true) :
    (ws.flatMap capitalised).head?.all isUppercase = true := by
  cases ws with
  | nil => rfl
  | cons w ws =>
    rcases exists_of_isFieldWord (h w List.mem_cons_self) with ⟨c, d, cs, rfl, hc, -⟩
    simpa [capitalised] using isUppercase_of_isUpper (toUpper_of_isLower hc).1

/-- The words of a run, each with a capital. -/
theorem wordsOfRun_capitalised {ws : List (List Char)} (h : ∀ w ∈ ws, isFieldWord w = true) :
    wordsOfRun .undecided [] (ws.flatMap capitalised) = ws.map capitalised := by
  induction ws with
  | nil => rfl
  | cons w ws ih =>
    rcases List.forall_mem_cons.1 h with ⟨hw, hws⟩
    rw [List.flatMap_cons, wordsOfRun_capitalised_append hw (head_capitalised hws), ih hws,
      List.map_cons]

/-! ## Names -/

/-- Where `_` is all that stands between letters and numbers, the runs are the pieces. -/
theorem runs_eq_pieces {cs : List Char} (h : ∀ c ∈ cs, c = '_' ∨ isAlphanumeric c = true) :
    runs cs = pieces '_' cs := by
  induction cs with
  | nil => rfl
  | cons c cs ih =>
    rcases List.forall_mem_cons.1 h with ⟨hc, hcs⟩
    by_cases hsep : c = '_'
    · subst hsep
      have hno : isAlphanumeric '_' = false := by
        decide
      rw [runs, hno, pieces, ih hcs]
      rfl
    · have halnum : isAlphanumeric c = true := hc.resolve_left hsep
      rw [runs, halnum, pieces, if_neg hsep, ih hcs]
      rfl

/-- Field words with `_` between them. -/
def isFieldName (name : String) : Bool :=
  (pieces '_' name.toList).all isFieldWord

theorem isFieldWord_of_mem {name : String} (h : isFieldName name = true) :
    ∀ w ∈ pieces '_' name.toList, isFieldWord w = true :=
  List.all_eq_true.1 h

/-- A field name has a first word. -/
theorem exists_words {name : String} (h : isFieldName name = true) :
    ∃ w ws, pieces '_' name.toList = w :: ws ∧ isFieldWord w = true ∧
      ∀ v ∈ ws, isFieldWord v = true := by
  have hwords := isFieldWord_of_mem h
  rcases hpieces : pieces '_' name.toList with _ | ⟨w, ws⟩
  · exact absurd hpieces (pieces_ne_nil '_' name.toList)
  · rw [hpieces, List.forall_mem_cons] at hwords
    exact ⟨w, ws, rfl, hwords⟩

/-- A text is its pieces with `_` between them. -/
theorem toList_eq_intercalate (s : String) :
    s.toList = ['_'].intercalate (pieces '_' s.toList) :=
  (intercalate_pieces '_' s.toList).symm

/-- A character of a field name is `_` or a small one. -/
theorem isSmall_of_mem_name {name : String} (h : isFieldName name = true) :
    ∀ c ∈ name.toList, c = '_' ∨ isSmall c = true := by
  intro c hc
  rw [toList_eq_intercalate] at hc
  rcases mem_of_mem_intercalate hc with hsep | ⟨w, hw, hc⟩
  · exact .inl (by simpa using hsep)
  · exact .inr (isSmall_of_mem (isFieldWord_of_mem h w hw) c hc)

/-- A word with a capital still has letters and digits only. -/
theorem isAlphanum_of_mem_capitalised {w : List Char} (h : isFieldWord w = true) :
    ∀ c ∈ capitalised w, c.isAlphanum = true := by
  have hsmall := isSmall_of_mem h
  rcases exists_of_isFieldWord h with ⟨c, d, cs, rfl, hc, -⟩
  intro e he
  rw [capitalised, List.mem_cons] at he
  rcases he with rfl | he
  · exact isAlphanum_of_isAlpha (isAlpha_of_isUpper (toUpper_of_isLower hc).1)
  · exact isAlphanum_of_isSmall (hsmall e (List.mem_cons_of_mem c he))

/-- The words of a field name are those between `_`. -/
theorem words_name {name : String} (h : isFieldName name = true) :
    words name = pieces '_' name.toList := by
  have hchars : ∀ c ∈ name.toList, c = '_' ∨ isAlphanumeric c = true := by
    intro c hc
    rcases isSmall_of_mem_name h c hc with hsep | hsmall
    · exact .inl hsep
    · exact .inr (isAlphanumeric_of_isAlphanum (isAlphanum_of_isSmall hsmall))
  have hwords := isFieldWord_of_mem h
  rw [words, runs_eq_pieces hchars]
  -- Every piece is a run of its own, and a single word.
  generalize pieces '_' name.toList = ws at hwords ⊢
  induction ws with
  | nil => rfl
  | cons w ws ih =>
    rcases List.forall_mem_cons.1 hwords with ⟨hw, hws⟩
    rw [List.flatMap_cons, wordsOfRun_word hw, ih hws, List.singleton_append]

theorem isAlphanum_of_mem_flatMap {ws : List (List Char)} (h : ∀ w ∈ ws, isFieldWord w = true) :
    ∀ c ∈ ws.flatMap capitalised, c.isAlphanum = true := by
  intro c hc
  rcases List.mem_flatMap.1 hc with ⟨w, hw, hc⟩
  exact isAlphanum_of_mem_capitalised (h w hw) c hc

/-- The words of a field name without `_`, each with a capital, are these words. -/
theorem words_capitalised {ws : List (List Char)} (h : ∀ w ∈ ws, isFieldWord w = true) :
    words (String.ofList (ws.flatMap capitalised)) = ws.map capitalised := by
  have hchars := isAlphanum_of_mem_flatMap h
  have hsep : '_' ∉ ws.flatMap capitalised := by
    intro hmem
    exact absurd (hchars _ hmem) (by decide)
  have hruns : runs (ws.flatMap capitalised) = [ws.flatMap capitalised] := by
    rw [runs_eq_pieces fun c hc => .inr (isAlphanumeric_of_isAlphanum (hchars c hc)),
      pieces_of_not_mem hsep]
  rw [words, String.toList_ofList, hruns, List.flatMap_singleton, wordsOfRun_capitalised h]

/-! ## Styles -/

/-- In ASCII a word is put in small letters one character after the other. -/
theorem lowerWord_of_ascii {cs : List Char} (h : ∀ c ∈ cs, c.toNat < 0x80) :
    lowerWord cs = cs.map Char.toLower := by
  induction cs with
  | nil => rfl
  | cons c cs ih =>
    rcases List.forall_mem_cons.1 h with ⟨hc, hcs⟩
    cases cs with
    | nil => simp [lowerWord, ne_sigma_of_ascii hc, lowerChar_of_ascii hc]
    | cons d cs => simp [lowerWord, lowerChar_of_ascii hc, ih hcs]

theorem lowerAfter_of_ascii {cs : List Char} (h : ∀ c ∈ cs, c.toNat < 0x80) (before : List Char) :
    lowerAfter before cs = cs.map Char.toLower := by
  induction cs generalizing before with
  | nil => rfl
  | cons c cs ih =>
    rcases List.forall_mem_cons.1 h with ⟨hc, hcs⟩
    simp [lowerAfter, ne_sigma_of_ascii hc, lowerChar_of_ascii hc, ih hcs]

/-- In ASCII the first letter of a word gets its capital, and the others get their small letters. -/
theorem capitalWord_of_ascii {c : Char} {cs : List Char} (h : ∀ d ∈ c :: cs, d.toNat < 0x80) :
    capitalWord (c :: cs) = c.toUpper :: cs.map Char.toLower := by
  rcases List.forall_mem_cons.1 h with ⟨hc, hcs⟩
  simp [capitalWord, upperChar_of_ascii hc, lowerWord_of_ascii hcs]

theorem toNat_lt_of_isAlphanum {c : Char} (h : c.isAlphanum = true) : c.toNat < 0x80 := by
  rw [isAlphanum_iff] at h
  omega

theorem map_toLower_of_isSmall {w : List Char} (h : ∀ c ∈ w, isSmall c = true) :
    w.map Char.toLower = w :=
  (List.map_congr_left fun c hc => toLower_of_isSmall (h c hc)).trans (List.map_id' w)

section Word

variable {w : List Char} (h : isFieldWord w = true)
include h

/-- In small letters a word with a capital is the word again. -/
theorem map_toLower_capitalised : (capitalised w).map Char.toLower = w := by
  have hsmall := isSmall_of_mem h
  rcases exists_of_isFieldWord h with ⟨c, d, cs, rfl, hc, -⟩
  rw [List.forall_mem_cons] at hsmall
  rw [capitalised, List.map_cons, (toUpper_of_isLower hc).2.1, map_toLower_of_isSmall hsmall.2]

/-- Field words are in small letters already. -/
theorem lowerWord_small : lowerWord w = w := by
  have hsmall := isSmall_of_mem h
  rw [lowerWord_of_ascii fun c hc => toNat_lt_of_isSmall (hsmall c hc),
    map_toLower_of_isSmall hsmall]

theorem lowerWord_capitalised : lowerWord (capitalised w) = w := by
  have halnum := isAlphanum_of_mem_capitalised h
  rw [lowerWord_of_ascii fun c hc => toNat_lt_of_isAlphanum (halnum c hc),
    map_toLower_capitalised h]

theorem capitalWord_small : capitalWord w = capitalised w := by
  have hsmall := isSmall_of_mem h
  rcases exists_of_isFieldWord h with ⟨c, d, cs, rfl, -⟩
  rw [capitalWord_of_ascii fun e he => toNat_lt_of_isSmall (hsmall e he), capitalised,
    map_toLower_of_isSmall (List.forall_mem_cons.1 hsmall).2]

/-- A word with a capital is written with this capital again. -/
theorem capitalWord_capitalised : capitalWord (capitalised w) = capitalised w := by
  have hsmall := isSmall_of_mem h
  have halnum := isAlphanum_of_mem_capitalised h
  rcases exists_of_isFieldWord h with ⟨c, d, cs, rfl, hc, -⟩
  rw [capitalised] at halnum ⊢
  rw [capitalWord_of_ascii fun e he => toNat_lt_of_isAlphanum (halnum e he),
    (toUpper_of_isLower hc).2.2, map_toLower_of_isSmall (List.forall_mem_cons.1 hsmall).2]

end Word

/-- The letters of the words, each with a capital, in small letters. -/
theorem map_toLower_flatMap {ws : List (List Char)} (h : ∀ w ∈ ws, isFieldWord w = true) :
    (ws.flatMap capitalised).map Char.toLower = ws.flatten := by
  rw [List.map_flatMap, List.flatMap_congr fun w hw => map_toLower_capitalised (h w hw)]
  exact List.flatMap_id'

/-! ## Field names -/

/-- The words of a field name, each with a capital and nothing between them. -/
def spelled (name : String) : String :=
  String.ofList ((pieces '_' name.toList).flatMap capitalised)

section Name

variable {name : String} (h : isFieldName name = true)
include h

/-- In the words of a name there is nothing but letters and digits. -/
theorem isAlphanum_of_mem_spelled : ∀ c ∈ (spelled name).toList, c.isAlphanum = true := by
  rw [spelled, String.toList_ofList]
  exact isAlphanum_of_mem_flatMap (isFieldWord_of_mem h)

/-- The words of the spelled name are those of the name, with capitals. -/
theorem words_spelled : words (spelled name) = (pieces '_' name.toList).map capitalised :=
  words_capitalised (isFieldWord_of_mem h)

/-- A field name is in snake case. -/
theorem snake_name : snake name = name := by
  have hwords : (pieces '_' name.toList).map lowerWord = pieces '_' name.toList :=
    (List.map_congr_left fun w hw => lowerWord_small (isFieldWord_of_mem h w hw)).trans
      (List.map_id' _)
  rw [snake, words_name h, hwords, ← toList_eq_intercalate, String.ofList_toList]

/-- The snake case of its words in a row is the field name again. -/
theorem snake_spelled : snake (spelled name) = name := by
  have hwords : ((pieces '_' name.toList).map capitalised).map lowerWord =
      pieces '_' name.toList := by
    rw [List.map_map]
    exact (List.map_congr_left fun w hw =>
      lowerWord_capitalised (isFieldWord_of_mem h w hw)).trans (List.map_id' _)
  rw [snake, words_spelled h, hwords, ← toList_eq_intercalate, String.ofList_toList]

/-- In upper camel case a field name is its words in a row. -/
theorem upperCamel_name : upperCamel name = spelled name := by
  rw [upperCamel, words_name h, spelled,
    List.flatMap_congr fun w hw => capitalWord_small (isFieldWord_of_mem h w hw)]

/-- In lower camel case the first word keeps its small letter. -/
theorem lowerCamel_name {w : List Char} {ws : List (List Char)}
    (hpieces : pieces '_' name.toList = w :: ws) :
    lowerCamel name = String.ofList (w ++ ws.flatMap capitalised) := by
  have hwords := isFieldWord_of_mem h
  rw [hpieces, List.forall_mem_cons] at hwords
  rw [lowerCamel, words_name h, hpieces]
  simp only
  rw [lowerWord_small hwords.1,
    List.flatMap_congr fun w hw => capitalWord_small (hwords.2 w hw)]

/-- The lower camel case of the words is that of the name. -/
theorem lowerCamel_spelled : lowerCamel (spelled name) = lowerCamel name := by
  rcases exists_words h with ⟨w, ws, hpieces, hw, hws⟩
  rw [lowerCamel_name h hpieces, lowerCamel, words_spelled h, hpieces, List.map_cons]
  simp only
  rw [lowerWord_capitalised hw, List.flatMap_map,
    List.flatMap_congr fun v hv => capitalWord_capitalised (hws v hv)]

theorem map_toLower_name : name.toList.map Char.toLower = name.toList := by
  have hlower : ∀ c ∈ name.toList, c.toLower = c := by
    intro c hc
    rcases isSmall_of_mem_name h c hc with rfl | hsmall
    · decide
    · exact toLower_of_isSmall hsmall
  exact (List.map_congr_left hlower).trans (List.map_id' _)

theorem lowerText_name : lowerText name = name := by
  have hascii : ∀ c ∈ name.toList, c.toNat < 0x80 := by
    intro c hc
    rcases isSmall_of_mem_name h c hc with rfl | hsmall
    · decide
    · exact toNat_lt_of_isSmall hsmall
  rw [lowerText, lowerAfter_of_ascii hascii, map_toLower_name h, String.ofList_toList]

end Name

end DerivedQuery.Text
