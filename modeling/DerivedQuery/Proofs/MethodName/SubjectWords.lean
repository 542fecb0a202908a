import DerivedQuery.Proofs.MethodName.Decomposition
import DerivedQuery.Proofs.MethodName.Parsing

/-!
# The words of a subject

Between the first word of a name and its `By` stand words, each a capital with small letters and
perhaps digits behind it. `Distinct` and the limiting words are found there as texts and not as
words, so a word that only begins like one of them counts as well.

* `SubjectWord`: a word of a subject.
* `SubjectWord.limit?`, `SubjectWord.seemingLimit?`: the limit that a word states, and the one that
  is read from it.
* `occursIn_subject`, `limitDigits?_subject`: a keyword is found in a subject where a word begins
  with it.
* `parse_subject_words`: what is read from a subject, and that it is what the subject says if no
  word merely begins like a keyword.
* `parse_topics`: a subject of which more is read than it says.
-/

namespace DerivedQuery.MethodName

open Text

/-! ## Words -/

/-- The text ends here or goes on with a capital. -/
def AtBoundary (cs : List Char) : Prop :=
  cs.head?.all Char.isUpper = true

/-- A capital, small letters behind it, and perhaps digits behind these. -/
structure SubjectWord where
  initial : Char
  letters : List Char
  digits : List Char
  isUpper_initial : initial.isUpper = true
  letters_ne_nil : letters ≠ []
  isLower_letters : letters.all Char.isLower = true
  isDigit_digits : digits.all Char.isDigit = true

/-- The number that stands behind a limiting word, which is one if there are no digits. -/
def limitNumber (digits : List Char) : Nat :=
  if digits = [] then 1 else Nat.ofDigitChars 10 digits 0

namespace SubjectWord

theorem isLower_of_mem_letters (w : SubjectWord) : ∀ c ∈ w.letters, c.isLower = true :=
  List.all_eq_true.1 w.isLower_letters

theorem isDigit_of_mem_digits (w : SubjectWord) : ∀ c ∈ w.digits, c.isDigit = true :=
  List.all_eq_true.1 w.isDigit_digits

/-- The word without its digits. -/
def stem (w : SubjectWord) : List Char :=
  w.initial :: w.letters

/-- The characters of the word, with its digits at the end. -/
def chars (w : SubjectWord) : List Char :=
  w.stem ++ w.digits

/-- The word as it stands in a name. -/
def text (w : SubjectWord) : String :=
  String.ofList w.chars

/-- The word begins with the letters of a keyword. -/
def BeginsWith (w : SubjectWord) (keyword : String) : Prop :=
  keyword.toList <+: w.stem

instance (w : SubjectWord) (keyword : String) : Decidable (w.BeginsWith keyword) :=
  inferInstanceAs (Decidable (_ <+: _))

/-- The word is a limiting word, with or without a number. -/
def IsLimit (w : SubjectWord) : Prop :=
  ∃ keyword ∈ limitKeywords, w.stem = keyword.toList

instance (w : SubjectWord) : Decidable w.IsLimit :=
  inferInstanceAs (Decidable (∃ _ ∈ _, _))

/-- The limit that the word states. -/
def limit? (w : SubjectWord) : Option Nat :=
  if w.IsLimit then some (limitNumber w.digits) else none

/-- The digits of the limit that is read from the word. A word that goes on behind a limiting word
is read as that word without digits. -/
def seemingDigits? (w : SubjectWord) : Option (List Char) :=
  if w.IsLimit then some w.digits
  else if ∃ keyword ∈ limitKeywords, w.BeginsWith keyword then some []
  else none

/-- The limit that is read from the word. -/
def seemingLimit? (w : SubjectWord) : Option Nat :=
  w.seemingDigits?.map limitNumber

/-- The word begins like a keyword only if it is that keyword. -/
structure IsPlain (w : SubjectWord) : Prop where
  distinct : w.BeginsWith "Distinct" → w.text = "Distinct"
  limit : ∀ keyword ∈ limitKeywords, w.BeginsWith keyword → w.stem = keyword.toList

end SubjectWord

/-- The words of a subject, one after the other. -/
def subjectText (ws : List SubjectWord) : String :=
  String.join (ws.map (·.text))

/-! ## Capital words -/

/-- A capital with small letters behind it. -/
def isCapitalWord (cs : List Char) : Bool :=
  cs.head?.any Char.isUpper && cs.tail.all Char.isLower

/-- Each limiting word is a capital with small letters behind it. -/
theorem isCapitalWord_limit {keyword : String} (h : keyword ∈ limitKeywords) :
    isCapitalWord keyword.toList = true := by
  revert h keyword
  decide

/-- A capital word does not begin at a character that is no capital. -/
theorem not_prefix_of_not_isUpper {part : List Char} (hpart : isCapitalWord part = true) {c : Char}
    (hc : c.isUpper = false) (cs : List Char) : ¬ part <+: c :: cs := by
  rintro ⟨rest, h⟩
  cases part with
  | nil => cases hpart
  | cons d part =>
    cases h
    simp [isCapitalWord, hc] at hpart

/-- Where no small letter follows, a capital word does not go on behind the end of a stem. -/
theorem prefix_append_of_boundary {part stem rest : List Char} (hpart : isCapitalWord part = true)
    (hstem : stem ≠ []) (hrest : rest.head?.all (fun c => !c.isLower) = true) :
    part <+: stem ++ rest ↔ part <+: stem := by
  constructor
  · intro h
    -- Of two beginnings of one text, one is a beginning of the other.
    rcases List.prefix_or_prefix_of_prefix h (List.prefix_append stem rest) with h' | ⟨more, rfl⟩
    · exact h'
    · -- The rest of `part` would begin with a small letter.
      rw [List.prefix_append_right_inj] at h
      cases more with
      | nil => simp
      | cons c more =>
        have hlower : c.isLower = true := by
          rw [isCapitalWord, Bool.and_eq_true, List.all_eq_true,
            List.tail_append_of_ne_nil hstem] at hpart
          exact hpart.2 c (List.mem_append_right _ List.mem_cons_self)
        rcases h with ⟨after, rfl⟩
        simp [hlower] at hrest
  · exact fun h => h.trans (List.prefix_append stem rest)

namespace SubjectWord

variable (w : SubjectWord) {rest : List Char}

/-- Only the first character of a word is a capital. -/
theorem not_isUpper_of_mem {c : Char} (hc : c ∈ w.letters ++ w.digits) : c.isUpper = false := by
  rcases List.mem_append.1 hc with hc | hc
  · exact not_isUpper_of_isLower (w.isLower_of_mem_letters c hc)
  · exact not_isUpper_of_isDigit (w.isDigit_of_mem_digits c hc)

/-- A word holds ASCII letters and digits only, so no line ends in it. -/
theorem isAlphanum_of_mem {c : Char} (hc : c ∈ w.chars) : c.isAlphanum = true := by
  rw [chars, stem, List.cons_append, List.mem_cons, List.mem_append] at hc
  rcases hc with rfl | hc | hc
  · exact isAlphanum_of_isAlpha (isAlpha_of_isUpper w.isUpper_initial)
  · exact isAlphanum_of_isAlpha (isAlpha_of_isLower (w.isLower_of_mem_letters c hc))
  · exact isAlphanum_of_isDigit (w.isDigit_of_mem_digits c hc)

/-- What a word has behind a limiting word at its beginning are small letters. -/
theorem isLower_of_append {keyword : String} (h : keyword ∈ limitKeywords) {c : Char}
    {more : List Char} (hmore : keyword.toList ++ c :: more = w.stem) : c.isLower = true := by
  have hcapital := isCapitalWord_limit h
  cases hk : keyword.toList with
  | nil =>
    rw [hk] at hcapital
    cases hcapital
  | cons k ks =>
    -- The keyword takes the capital, and the character is one of the letters behind it.
    rw [hk, stem, List.cons_append] at hmore
    refine w.isLower_of_mem_letters c ?_
    rw [← (List.cons.inj hmore).2]
    exact List.mem_append_right ks List.mem_cons_self

/-- No capital word begins behind the first character of a word. -/
theorem throughout_tail {part : List Char} (hpart : isCapitalWord part = true) (rest : List Char) :
    Throughout (fun cs => ¬ part <+: cs) (w.letters ++ w.digits) rest :=
  throughout_of_forall fun _ hc cs =>
    not_prefix_of_not_isUpper hpart (w.not_isUpper_of_mem hc) cs

/-- Behind the letters of a word stand its digits and other words. -/
theorem head_digits_append (hrest : AtBoundary rest) :
    (w.digits ++ rest).head?.all (fun c => !c.isLower) = true := by
  cases hdigits : w.digits with
  | nil =>
    cases rest with
    | nil => rfl
    | cons c rest => simpa using not_isLower_of_isUpper (by simpa [AtBoundary] using hrest)
  | cons d ds =>
    have hd : d.isDigit = true := w.isDigit_of_mem_digits d (hdigits ▸ List.mem_cons_self)
    simpa using not_isLower_of_isDigit hd

/-- A keyword that stands where a word begins is one that the word begins with. -/
theorem prefix_chars_append {keyword : String} (hkeyword : isCapitalWord keyword.toList = true)
    (hrest : AtBoundary rest) : keyword.toList <+: w.chars ++ rest ↔ w.BeginsWith keyword := by
  rw [chars, List.append_assoc]
  exact prefix_append_of_boundary hkeyword (List.cons_ne_nil _ _) (w.head_digits_append hrest)

/-- A keyword that a word does not begin with stands nowhere in it. -/
theorem throughout_chars {keyword : String} (hkeyword : isCapitalWord keyword.toList = true)
    (h : ¬ w.BeginsWith keyword) (hrest : AtBoundary rest) :
    Throughout (fun cs => ¬ keyword.toList <+: cs) w.chars rest :=
  ⟨mt (w.prefix_chars_append hkeyword hrest).1 h, w.throughout_tail hkeyword rest⟩

/-- Behind the digits of a word stands the capital of the next one, where the number ends. -/
theorem takeWhile_digits_append (hrest : AtBoundary rest) :
    (w.digits ++ rest).takeWhile isDecimalDigit = w.digits := by
  have hdigits : ∀ c ∈ w.digits, isDecimalDigit c = true := fun c hc =>
    isDecimalDigit_of_isDigit (w.isDigit_of_mem_digits c hc)
  rw [List.takeWhile_append_of_pos hdigits]
  cases rest with
  | nil => simp
  | cons c rest =>
    have hc : c.isAlpha = true := isAlpha_of_isUpper (by simpa [AtBoundary] using hrest)
    simp [isDecimalDigit_of_isAlpha hc]

end SubjectWord

/-! ## Keywords in a subject -/

/-- The characters of some words. -/
abbrev subjectChars (ws : List SubjectWord) : List Char :=
  ws.flatMap (·.chars)

/-- The subject holds the characters of its words, one word after the other. -/
theorem toList_subjectText (ws : List SubjectWord) : (subjectText ws).toList = subjectChars ws := by
  induction ws with
  | nil => rfl
  | cons w ws ih =>
    rw [subjectText, List.map_cons, String.join_cons, String.toList_append, ← subjectText, ih]
    simp [SubjectWord.text]

/-- The end of a text is the end of a word. -/
theorem atBoundary_nil : AtBoundary [] :=
  rfl

/-- Words begin with capitals, so a text that goes on with words goes on with a capital. -/
theorem atBoundary_subjectChars (ws : List SubjectWord) {rest : List Char}
    (hrest : AtBoundary rest) : AtBoundary (subjectChars ws ++ rest) := by
  cases ws with
  | nil => exact hrest
  | cons w ws => simpa [AtBoundary, SubjectWord.chars, SubjectWord.stem] using w.isUpper_initial

/-- A keyword that no word begins with stands nowhere in a subject. -/
theorem throughout_subjectChars (keyword : String) (hkeyword : isCapitalWord keyword.toList = true)
    {ws : List SubjectWord} (hws : ∀ w ∈ ws, ¬ w.BeginsWith keyword) {rest : List Char}
    (hrest : AtBoundary rest) :
    Throughout (fun cs => ¬ keyword.toList <+: cs) (subjectChars ws) rest := by
  induction ws with
  | nil => trivial
  | cons w ws ih =>
    -- The words behind this one make a text that begins with a capital once more.
    rw [List.forall_mem_cons] at hws
    rw [subjectChars, List.flatMap_cons, throughout_append]
    exact ⟨w.throughout_chars hkeyword hws.1 (atBoundary_subjectChars ws hrest), ih hws.2⟩

/-- Nothing is found in a text throughout which it does not stand. -/
theorem occursIn_append {part t rest : List Char}
    (h : Throughout (fun cs => ¬ part <+: cs) t rest) :
    occursIn part (t ++ rest) = occursIn part rest := by
  induction t with
  | nil => rfl
  | cons c t ih =>
    have hhere : part.isPrefixOf (c :: (t ++ rest)) = false := by
      rw [Bool.eq_false_iff, ne_eq, List.isPrefixOf_iff_prefix]
      exact h.1
    rw [List.cons_append, occursIn, hhere, ih h.2, Bool.false_or]

/-- A keyword occurs in a subject just when a word begins with it. -/
theorem occursIn_subject (keyword : String) (hkeyword : isCapitalWord keyword.toList = true)
    (ws : List SubjectWord) :
    occursIn keyword.toList (subjectChars ws) = true ↔ ∃ w ∈ ws, w.BeginsWith keyword := by
  induction ws with
  | nil =>
    cases hk : keyword.toList with
    | nil =>
      rw [hk] at hkeyword
      cases hkeyword
    | cons k ks => simp [occursIn]
  | cons w ws ih =>
    -- Here, where the word begins, or in what follows it.
    have hhere := w.prefix_chars_append hkeyword (atBoundary_subjectChars ws atBoundary_nil)
    rw [List.append_nil] at hhere
    -- Behind its first character the word is passed over.
    have hlater := occursIn_append (w.throughout_tail hkeyword (subjectChars ws))
    rw [List.exists_mem_cons_iff, ← ih, ← hhere, ← hlater, ← List.isPrefixOf_iff_prefix,
      ← Bool.or_eq_true]
    rfl

/-- No limit is found in a text throughout which no limiting word stands. -/
theorem limitDigits?_append {t rest : List Char}
    (h : ∀ keyword ∈ limitKeywords, Throughout (fun cs => ¬ keyword.toList <+: cs) t rest) :
    limitDigits? (t ++ rest) = limitDigits? rest := by
  induction t with
  | nil => rfl
  | cons c t ih =>
    have hhere : limitKeywords.findSome? (fun keyword => dropStart? keyword (c :: (t ++ rest))) =
        none := by
      rw [List.findSome?_eq_none_iff]
      intro keyword hkeyword
      exact dropStart?_eq_none_iff.2 (h keyword hkeyword).1
    rw [List.cons_append, limitDigits?, hhere]
    exact ih fun keyword hkeyword => (h keyword hkeyword).2

/-- The limiting words begin with different capitals, so the one that stands here is found. -/
theorem limitDigits?_keyword {keyword : String} (h : keyword ∈ limitKeywords) (rest : List Char) :
    limitDigits? (keyword.toList ++ rest) = some (rest.takeWhile isDecimalDigit) := by
  simp only [limitKeywords, List.mem_cons, List.not_mem_nil, or_false] at h
  -- With one limiting word in front, the search for the other one fails at its first letter.
  rcases h with rfl | rfl <;> simp [limitDigits?, limitKeywords, dropStart?]

/-- A limit is read from a word that begins with a limiting word, and else from those behind it. -/
theorem limitDigits?_word (w : SubjectWord) {rest : List Char} (hrest : AtBoundary rest) :
    limitDigits? (w.chars ++ rest) = w.seemingDigits?.or (limitDigits? rest) := by
  unfold SubjectWord.seemingDigits?
  by_cases hlimit : w.IsLimit
  · -- The word is a limiting word, whose digits end where the next word begins.
    rcases hlimit with ⟨keyword, hkeyword, hstem⟩
    rw [if_pos ⟨keyword, hkeyword, hstem⟩, SubjectWord.chars, hstem, List.append_assoc,
      limitDigits?_keyword hkeyword, w.takeWhile_digits_append hrest, Option.some_or]
  · rw [if_neg hlimit]
    by_cases hbegins : ∃ keyword ∈ limitKeywords, w.BeginsWith keyword
    · rw [if_pos hbegins, Option.some_or]
      rcases hbegins with ⟨keyword, hkeyword, more, hmore⟩
      cases more with
      | nil =>
        rw [List.append_nil] at hmore
        exact absurd ⟨keyword, hkeyword, hmore.symm⟩ hlimit
      | cons c more =>
        -- A small letter follows the limiting word, so there are no digits behind it.
        have hc : c.isAlpha = true := isAlpha_of_isLower (w.isLower_of_append hkeyword hmore)
        rw [SubjectWord.chars, ← hmore, List.append_assoc, List.append_assoc,
          limitDigits?_keyword hkeyword]
        simp [isDecimalDigit_of_isAlpha hc]
    · -- No limiting word in front, and so none anywhere in this word.
      rw [if_neg hbegins, Option.none_or]
      refine limitDigits?_append fun keyword hkeyword => ?_
      exact w.throughout_chars (isCapitalWord_limit hkeyword)
        (fun h => hbegins ⟨keyword, hkeyword, h⟩) hrest

/-- The limit of a subject is read from the first word that begins with a limiting word. -/
theorem limitDigits?_subject (ws : List SubjectWord) :
    limitDigits? (subjectChars ws) = ws.findSome? (·.seemingDigits?) := by
  induction ws with
  | nil => rfl
  | cons w ws ih =>
    have hword := limitDigits?_word w (atBoundary_subjectChars ws atBoundary_nil)
    rw [List.append_nil] at hword
    rw [List.findSome?_cons, subjectChars, List.flatMap_cons, hword, ih]
    cases w.seemingDigits? <;> rfl

/-! ## Names -/

/-- The digits that are read from a word are digits of the word. -/
theorem SubjectWord.isDigit_of_seemingDigits? {w : SubjectWord} {digits : List Char}
    (h : w.seemingDigits? = some digits) : ∀ c ∈ digits, c.isDigit = true := by
  unfold SubjectWord.seemingDigits? at h
  split at h
  · cases h
    exact w.isDigit_of_mem_digits
  · split at h
    · cases h
      simp
    · cases h

/-- What the digits behind a limiting word are read as. -/
theorem eq_of_readLimit {digits : List Char} (hdigits : ∀ c ∈ digits, c.isDigit = true) {k : Nat}
    (h : readLimit digits = .ok k) : k = limitNumber digits := by
  have hall : digits.all Char.isDigit = true := List.all_eq_true.2 hdigits
  unfold readLimit at h
  unfold limitNumber
  by_cases hnil : digits = []
  · simp only [hnil, List.isEmpty_nil, if_true] at h ⊢
    exact (Except.ok.inj h).symm
  · -- A number that is read is one by the table of digits, and not too large.
    have hne : digits.isEmpty = false := by
      simpa using hnil
    rw [if_neg hnil]
    simp only [hne, Bool.false_eq_true, if_false, readCount?, hall, if_true,
      ← Nat.ofDigitChars_eq_foldl] at h
    split at h
    · cases h
    · cases h
    · next m _ hm =>
      split at hm
      · cases h
        exact (Option.some.inj hm).symm
      · cases hm

/-- A subject that is read says whether results are distinct and how many there may be. -/
theorem fields_of_readSubject {subject : List Char} {n : MethodName}
    (h : readSubject subject = .ok n) :
    n.distinct = occursIn "Distinct".toList subject ∧
      (limitDigits? subject = none ∧ n.limit = none ∨
        ∃ digits k, limitDigits? subject = some digits ∧ readLimit digits = .ok k ∧
          n.limit = some k) := by
  unfold readSubject at h
  -- The test for duplicates and the one for a limit do not look at each other.
  cases hdigits : limitDigits? subject with
  | none =>
    rw [hdigits] at h
    cases h
    exact ⟨rfl, .inl ⟨rfl, rfl⟩⟩
  | some digits =>
    simp only [hdigits, bind_eq_ok_iff, map_eq_ok_iff, pure_eq_ok_iff] at h
    rcases h with ⟨_, ⟨k, hk, rfl⟩, rfl⟩
    exact ⟨rfl, .inr ⟨digits, k, rfl, hk, rfl⟩⟩

/-- The subject of a name is what stands between its first word and the first `By`. -/
theorem readSubject_of_parse {opening : String} (hopening : opening ∈ queryPrefixes)
    {ws : List SubjectWord} (hby : ∀ w ∈ ws, ¬ w.BeginsWith "By") {criteria : String}
    {n : MethodName} (h : parse (opening ++ subjectText ws ++ "By" ++ criteria) = .ok n) :
    ∃ m, readSubject (subjectChars ws) = .ok m ∧ n.distinct = m.distinct ∧ n.limit = m.limit := by
  have htext : (opening ++ subjectText ws ++ "By" ++ criteria).toList =
      opening.toList ++ (subjectChars ws ++ 'B' :: 'y' :: criteria.toList) := by
    simp [toList_subjectText]
  have hboundary : AtBoundary ('B' :: 'y' :: criteria.toList) :=
    rfl
  have hquiet := throughout_subjectChars "By" (by decide) hby hboundary
  have hsplit : splitBy? (subjectChars ws ++ 'B' :: 'y' :: criteria.toList) =
      some (subjectChars ws, criteria.toList) := by
    refine splitBy?_append ?_ hquiet ?_
    · cases ws with
      | nil => rfl
      | cons w ws =>
        simpa [SubjectWord.chars, SubjectWord.stem] using
          isUppercaseLetter_of_isUpper w.isUpper_initial
    · -- The search for `By` ends with the line, and a subject is on one line.
      intro hline
      rcases List.mem_flatMap.1 hline with ⟨w, -, hw⟩
      exact absurd (w.isAlphanum_of_mem hw) (by decide)
  rw [parse, mapError_eq_ok_iff, read, htext] at h
  simp only [Spelling.splitPrefix?_opening hopening, hsplit, bind_eq_ok_iff, pure_eq_ok_iff] at h
  rcases h with ⟨m, hm, ⟨groups, order⟩, -, rfl⟩
  exact ⟨m, hm, rfl, rfl⟩

namespace SubjectWord

/-- The only plain word that begins with `Distinct` is `Distinct` itself. -/
theorem IsPlain.beginsWith_distinct_iff {w : SubjectWord} (hw : w.IsPlain) :
    w.BeginsWith "Distinct" ↔ w.text = "Distinct" := by
  constructor
  · exact hw.distinct
  · intro htext
    have hchars : w.chars = "Distinct".toList := by
      rw [← htext, text, String.toList_ofList]
    rw [← w.prefix_chars_append (by decide) atBoundary_nil, List.append_nil]
    exact hchars ▸ List.prefix_rfl

/-- From a plain word no other limit is read than the one it states. -/
theorem IsPlain.seemingLimit?_eq {w : SubjectWord} (hw : w.IsPlain) :
    w.seemingLimit? = w.limit? := by
  have hbegins : ¬ w.IsLimit → ¬ ∃ keyword ∈ limitKeywords, w.BeginsWith keyword := by
    rintro hlimit ⟨keyword, hkeyword, h⟩
    exact hlimit ⟨keyword, hkeyword, hw.limit keyword hkeyword h⟩
  unfold seemingLimit? seemingDigits? limit?
  by_cases hlimit : w.IsLimit
  · simp only [if_pos hlimit, Option.map_some]
  · simp only [if_neg hlimit, if_neg (hbegins hlimit), Option.map_none]

end SubjectWord

/-- A subject of plain words has the limit that its words state. -/
theorem findSome?_seemingLimit? {ws : List SubjectWord} (hplain : ∀ w ∈ ws, w.IsPlain) :
    ws.findSome? (·.seemingLimit?) = ws.findSome? (·.limit?) := by
  induction ws with
  | nil => rfl
  | cons w ws ih =>
    rw [List.forall_mem_cons] at hplain
    rw [List.findSome?_cons, List.findSome?_cons, hplain.1.seemingLimit?_eq, ih hplain.2]

/-- What is read from a subject: each word counts as the keyword that it begins with. When no word
merely begins like a keyword, that is what the words say. -/
theorem parse_subject_words {opening : String} (hopening : opening ∈ queryPrefixes)
    {ws : List SubjectWord} (hby : ∀ w ∈ ws, occursIn "By".toList w.chars = false)
    {criteria : String} {n : MethodName}
    (h : parse (opening ++ subjectText ws ++ "By" ++ criteria) = .ok n) :
    (n.distinct = true ↔ ∃ w ∈ ws, w.BeginsWith "Distinct") ∧
      n.limit = ws.findSome? (·.seemingLimit?) ∧ (∀ k, n.limit = some k → 1 ≤ k) ∧
      ((∀ w ∈ ws, w.IsPlain) →
        (n.distinct = true ↔ ∃ w ∈ ws, w.text = "Distinct") ∧
          n.limit = ws.findSome? (·.limit?)) := by
  -- A `By` that a word begins with would occur in it.
  have hno : ∀ w ∈ ws, ¬ w.BeginsWith "By" := by
    intro w hw hbegins
    have hoccurs := (occursIn_subject "By" (by decide) [w]).2 ⟨w, by simp, hbegins⟩
    rw [subjectChars, List.flatMap_singleton, hby w hw] at hoccurs
    cases hoccurs
  rcases readSubject_of_parse hopening hno h with ⟨m, hm, hdistinct, hlimit⟩
  rcases fields_of_readSubject hm with ⟨hmd, hml⟩
  have hbegins : n.distinct = true ↔ ∃ w ∈ ws, w.BeginsWith "Distinct" := by
    rw [hdistinct, hmd]
    exact occursIn_subject "Distinct" (by decide) ws
  have hseeming : n.limit = ws.findSome? (·.seemingLimit?) := by
    -- The digits are looked up in the words, and read as a number after that.
    have hmap : ws.findSome? (·.seemingLimit?) =
        (ws.findSome? (·.seemingDigits?)).map limitNumber :=
      List.map_findSome?.symm
    rw [hmap, ← limitDigits?_subject, hlimit]
    -- No word begins with a limiting word.
    rcases hml with ⟨hnone, hmnone⟩ | ⟨digits, k, hsome, hk, hmsome⟩
    · rw [hnone, hmnone]
      rfl
    · -- The digits come from one of the words, and these are ASCII digits.
      have hword := hsome
      rw [limitDigits?_subject] at hword
      rcases List.exists_of_findSome?_eq_some hword with ⟨w, -, hw⟩
      rw [hsome, hmsome, eq_of_readLimit (SubjectWord.isDigit_of_seemingDigits? hw) hk]
      rfl
  -- For plain words, what is read and what is said is the same word by word.
  refine ⟨hbegins, hseeming, limit_pos_of_parse h, fun hplain => ⟨?_, ?_⟩⟩
  · rw [hbegins]
    constructor
    · rintro ⟨w, hw, hd⟩
      exact ⟨w, hw, (hplain w hw).beginsWith_distinct_iff.1 hd⟩
    · rintro ⟨w, hw, hd⟩
      exact ⟨w, hw, (hplain w hw).beginsWith_distinct_iff.2 hd⟩
  · rw [hseeming]
    exact findSome?_seemingLimit? hplain

/-- A subject with a word that says nothing. -/
theorem parse_subject_words_people :
    let distinct : SubjectWord :=
      ⟨'D', "istinct".toList, [], by decide, by decide, by decide, by decide⟩
    let people : SubjectWord :=
      ⟨'P', "eople".toList, [], by decide, by decide, by decide, by decide⟩
    let top : SubjectWord :=
      ⟨'T', "op".toList, ['2', '5'], by decide, by decide, by decide, by decide⟩
    ∃ n, parse "findDistinctPeopleTop25ByAge" = .ok n ∧ n.distinct = true ∧ n.limit = some 25 ∧
      (∃ w ∈ [distinct, people, top], w.text = "Distinct") ∧
      [distinct, people, top].findSome? (·.limit?) = some 25 := by
  intro distinct people top
  have hparse : parse ("find" ++ subjectText [distinct, people, top] ++ "By" ++ "Age") =
      .ok ⟨true, some 25, [[⟨"Age", .equals, .never⟩]], []⟩ := by
    decide +kernel
  have hplain : ∀ w ∈ [distinct, people, top], w.IsPlain := by
    rintro w (_ | ⟨_, _ | ⟨_, _ | ⟨_, ⟨⟩⟩⟩⟩)
    · exact ⟨by decide, by decide⟩
    · exact ⟨by decide, by decide⟩
    · exact ⟨by decide, by decide⟩
  rcases parse_subject_words (by decide) (by decide) hparse with ⟨-, -, -, hsays⟩
  rcases hsays hplain with ⟨hdistinct, hlimit⟩
  exact ⟨_, hparse, rfl, rfl, hdistinct.1 rfl, hlimit.symm⟩

/-- `Topics` is neither `Top` nor `Top` with a number, and yet only one result is asked for. -/
theorem parse_topics :
    let topics : SubjectWord :=
      ⟨'T', "opics".toList, [], by decide, by decide, by decide, by decide⟩
    occursIn "By".toList topics.chars = false ∧ topics.limit? = none ∧
      parse ("find" ++ subjectText [topics] ++ "By" ++ "Name") =
        .ok ⟨false, some 1, [[⟨"Name", .equals, .never⟩]], []⟩ := by
  refine ⟨by decide, by decide, ?_⟩
  decide +kernel

end DerivedQuery.MethodName
