import DerivedQuery.Proofs.Except
import DerivedQuery.Proofs.MethodName.Token

/-!
# Reading spelled criteria

Criteria are read from their ends inwards: first the mode of all of them, then, in each, a mode of
its own and the operator. A keyword at the end of a criterion might be longer than the one that was
spelled, if the word in front of it ended with what is missing; safe words do not.

* `find?_eq_some_iff_isLongestEnd`: the first keyword of a table that ends a text is the longest.
* `dropKeyword?_append`: the spelled keyword is taken off.
* `readTerm_text`, `readGroups_text`, `readCriteria_text`: spelled criteria are read as they were
  meant.
-/

namespace DerivedQuery.MethodName

open Text

/-! ## Keywords at the end of a text -/

section Table

variable {α : Type} {keywords : List (String × α)} {cs : List Char}

/-- No keyword is taken off a text that ends with none of them. -/
theorem dropKeyword?_eq_none_iff :
    dropKeyword? keywords cs = none ↔ ∀ k ∈ keywords, ¬ k.1.toList <:+ cs := by
  unfold dropKeyword?
  simp only [List.findSome?_eq_none_iff, Option.map_eq_none_iff, dropEnd?_eq_none_iff]

/-- The keyword that is taken off is the first one in the table that ends the text. -/
theorem dropKeyword?_eq_some_iff {p : List Char} {meaning : α} :
    dropKeyword? keywords cs = some (p, meaning) ↔
      ∃ word, keywords.find? (·.1.toList.isSuffixOf cs) = some (word, meaning) ∧
        cs = p ++ word.toList := by
  induction keywords with
  | nil => simp [dropKeyword?]
  | cons k ks ih =>
    by_cases hends : k.1.toList <:+ cs
    · obtain ⟨rest, rfl⟩ := hends
      have hfound : dropKeyword? (k :: ks) (rest ++ k.1.toList) = some (rest, k.2) := by
        simp [dropKeyword?, dropEnd?_eq_some_iff.2 rfl]
      have hfirst : (k :: ks).find? (·.1.toList.isSuffixOf (rest ++ k.1.toList)) = some k :=
        List.find?_cons_of_pos (List.isSuffixOf_iff_suffix.2 (List.suffix_append rest k.1.toList))
      rw [hfound, hfirst]
      constructor
      · rintro ⟨⟩
        exact ⟨k.1, rfl, rfl⟩
      · rintro ⟨word, ⟨⟩, htext⟩
        rw [List.append_cancel_right htext]
    · have hskip : dropKeyword? (k :: ks) cs = dropKeyword? ks cs := by
        simp [dropKeyword?, dropEnd?_eq_none_iff.2 hends]
      have hlater : (k :: ks).find? (·.1.toList.isSuffixOf cs) =
          ks.find? (·.1.toList.isSuffixOf cs) :=
        List.find?_cons_of_neg fun h => hends (List.isSuffixOf_iff_suffix.1 h)
      rw [hskip, hlater, ih]

/-- A keyword that ends the text, and no longer one does. -/
structure IsLongestEnd (keywords : List (String × α)) (cs : List Char) (entry : String × α) :
    Prop where
  mem : entry ∈ keywords
  ends : entry.1.toList <:+ cs
  longest : ∀ e ∈ keywords, e.1.toList <:+ cs → e.1.length ≤ entry.1.length

/-- In a table where no keyword ends with an earlier one, the first keyword that ends a text is the
longest one that does. -/
theorem find?_eq_some_iff_isLongestEnd
    (hearlier : keywords.Pairwise fun a b => ¬ a.1.toList <:+ b.1.toList) {entry : String × α} :
    keywords.find? (·.1.toList.isSuffixOf cs) = some entry ↔ IsLongestEnd keywords cs entry := by
  -- Of two keywords that end the text, the shorter one ends the longer one.
  have hshorter {a b : String × α} (ha : a.1.toList <:+ cs) (hb : b.1.toList <:+ cs)
      (hle : a.1.length ≤ b.1.length) : a.1.toList <:+ b.1.toList :=
    List.suffix_of_suffix_length_le ha hb (by rwa [String.length_toList, String.length_toList])
  rw [List.find?_eq_some_iff_append]
  simp only [List.isSuffixOf_iff_suffix, Bool.not_eq_true', ← Bool.not_eq_true]
  constructor
  · rintro ⟨hends, before, behind, rfl, hbefore⟩
    refine ⟨by simp, hends, fun e he hsuffix => ?_⟩
    rcases List.mem_append.1 he with he | he
    · -- An entry in front would have been found.
      exact absurd hsuffix (hbefore e he)
    · rcases List.mem_cons.1 he with rfl | he
      · exact Nat.le_refl _
      · -- An entry behind ends the text as well. If it were the longer one, this one would end it.
        have hlater := (List.pairwise_cons.1 (List.pairwise_append.1 hearlier).2.1).1 e he
        exact Nat.le_of_not_le fun hle => hlater (hshorter hends hsuffix hle)
  · rintro ⟨hmem, hends, hlongest⟩
    obtain ⟨before, behind, rfl⟩ := List.append_of_mem hmem
    refine ⟨hends, before, behind, rfl, fun e he hsuffix => ?_⟩
    -- An entry in front of this one would end it, being no longer.
    have hno := (List.pairwise_append.1 hearlier).2.2 e he entry List.mem_cons_self
    exact hno (hshorter hsuffix hends (hlongest e (List.mem_append_left _ he) hsuffix))

/-- A keyword is taken off when no earlier one ends it, and when what longer ones have in front of
it does not end the text before it. -/
theorem dropKeyword?_append {entry : String × α} (hentry : entry ∈ keywords)
    (hearlier : keywords.Pairwise fun a b => ¬ a.1.toList <:+ b.1.toList) {p : List Char}
    (hlonger : ∀ e ∈ keywords, ∀ y, y ≠ [] → e.1.toList = y ++ entry.1.toList → ¬ y <:+ p) :
    dropKeyword? keywords (p ++ entry.1.toList) = some (p, entry.2) := by
  have hlongest : IsLongestEnd keywords (p ++ entry.1.toList) entry := by
    refine ⟨hentry, List.suffix_append p entry.1.toList, fun e he hsuffix => ?_⟩
    rw [← String.length_toList, ← String.length_toList]
    -- Another keyword that ends the text is shorter than this one, or goes beyond it.
    rcases List.suffix_or_suffix_of_suffix hsuffix (List.suffix_append p entry.1.toList)
      with hshort | ⟨y, hy⟩
    · exact hshort.length_le
    · by_cases hnil : y = []
      · subst hnil
        exact Nat.le_of_eq (congrArg List.length hy.symm)
      · -- For a longer keyword the text before is wrong.
        obtain ⟨a, ha⟩ := hsuffix
        rw [← hy, ← List.append_assoc] at ha
        exact absurd ⟨a, List.append_cancel_right ha⟩ (hlonger e he y hnil hy.symm)
  exact dropKeyword?_eq_some_iff.2
    ⟨entry.1, (find?_eq_some_iff_isLongestEnd hearlier).2 hlongest, rfl⟩

end Table

/-- Neither of two texts ends with the other. -/
def isUnrelated (a b : List Char) : Bool :=
  !a.isSuffixOf b && !b.isSuffixOf a

/-- A text that ends with `b` does not end with an unrelated `a`. -/
theorem not_suffix_of_isUnrelated {a b : List Char} (h : isUnrelated a b = true) (p : List Char) :
    ¬ a <:+ p ++ b := by
  simp only [isUnrelated, Bool.and_eq_true, Bool.not_eq_true', ← Bool.not_eq_true,
    List.isSuffixOf_iff_suffix] at h
  intro hsuffix
  rcases List.suffix_or_suffix_of_suffix hsuffix (List.suffix_append p b) with hab | hba
  · exact h.1 hab
  · exact h.2 hba

/-! ## The tables -/

/-- In no keyword for an operator could a name be cut. -/
theorem isFixed_operator : ∀ k ∈ cuttingKeywords, ∀ entry ∈ operatorKeywords,
    isFixed k entry.1.toList = true := by
  decide +kernel

/-- In no keyword for a mode of one criterion could a name be cut. -/
theorem isFixed_ignoreCase : ∀ k ∈ cuttingKeywords, ∀ s ∈ ignoreCaseKeywords,
    isFixed k s.toList = true := by
  decide

/-- In no keyword for a mode of all criteria could a name be cut. -/
theorem isFixed_allIgnoreCase : ∀ k ∈ cuttingKeywords, ∀ s ∈ allIgnoreCaseKeywords,
    isFixed k s.toList = true := by
  decide

/-- No operator's keyword ends with an earlier one. -/
theorem operatorKeywords_pairwise :
    operatorKeywords.Pairwise fun a b => ¬ a.1.toList <:+ b.1.toList := by
  decide +kernel

/-- What a longer keyword has in front of a shorter one is a keyword as well. -/
theorem operatorKeywords_longer : ∀ e ∈ operatorKeywords, ∀ entry ∈ operatorKeywords,
    (dropEnd? entry.1 e.1.toList).all (fun y =>
      y.isEmpty || operatorKeywords.any fun k => k.1.toList == y) = true := by
  decide +kernel

/-- A keyword for a mode does not end with an operator, nor an operator with such a keyword. -/
theorem isUnrelated_operator : ∀ s ∈ "All" :: ignoreCaseKeywords ++ allIgnoreCaseKeywords,
    ∀ entry ∈ operatorKeywords, isUnrelated s.toList entry.1.toList = true := by
  decide +kernel

/-- Of the keywords for a mode, none ends with another one. -/
theorem modeKeywords_unrelated : ∀ words ∈ [ignoreCaseKeywords, allIgnoreCaseKeywords],
    words.Pairwise (fun a b => ¬ a.toList <:+ b.toList) ∧
      ∀ a ∈ words, ∀ b ∈ words, (dropEnd? b a.toList).all List.isEmpty = true := by
  decide

/-- A keyword for a mode is taken off. -/
theorem dropKeyword?_mode {α : Type} (mode : α) {words : List String}
    (hwords : words ∈ [ignoreCaseKeywords, allIgnoreCaseKeywords]) {s : String} (hs : s ∈ words)
    (p : List Char) : dropKeyword? (words.map (·, mode)) (p ++ s.toList) = some (p, mode) := by
  rcases modeKeywords_unrelated words hwords with ⟨hpairwise, hlonger⟩
  have hmem : (s, mode) ∈ words.map (·, mode) := List.mem_map.2 ⟨s, hs, rfl⟩
  refine dropKeyword?_append hmem (List.pairwise_map.2 hpairwise) ?_
  intro e he y hy heq
  rcases List.mem_map.1 he with ⟨a, ha, rfl⟩
  have hempty := hlonger a ha s hs
  rw [dropEnd?_eq_some_iff.2 heq] at hempty
  exact absurd (by simpa using hempty) hy

/-! ## One criterion -/

/-- A safe word does not end with a keyword. -/
theorem not_suffix_word {w : List Char} (hw : isSafeWord w = true) {k : String}
    (hk : k ∈ endingKeywords) : ¬ k.toList <:+ w :=
  (isSafeWord_iff.1 hw).2.2.2.2 k hk

/-- Safe words do not end with an operator either. -/
theorem mem_endingKeywords_operator {entry : String × Operator} (h : entry ∈ operatorKeywords) :
    entry.1 ∈ endingKeywords :=
  List.mem_append_right _ (List.mem_map.2 ⟨entry, h, rfl⟩)

/-- The spelled operator is taken off a word. -/
theorem dropKeyword?_operator {w : List Char} (hw : isSafeWord w = true)
    {entry : String × Operator} (hentry : entry ∈ operatorKeywords) :
    dropKeyword? operatorKeywords (w ++ entry.1.toList) = some (w, entry.2) := by
  refine dropKeyword?_append hentry operatorKeywords_pairwise ?_
  intro e he y hy heq hsuffix
  -- What a longer keyword has in front is a keyword too, and the word does not end with one.
  have hlonger := operatorKeywords_longer e he entry hentry
  rw [dropEnd?_eq_some_iff.2 heq] at hlonger
  simp only [Option.all_some, Bool.or_eq_true, List.isEmpty_iff, hy, false_or, List.any_eq_true,
    beq_iff_eq] at hlonger
  rcases hlonger with ⟨k, hk, rfl⟩
  exact not_suffix_word hw (mem_endingKeywords_operator hk) hsuffix

/-- Nothing is taken off a word. -/
theorem dropKeyword?_word {w : List Char} (hw : isSafeWord w = true) :
    dropKeyword? operatorKeywords w = none :=
  dropKeyword?_eq_none_iff.2 fun _ hk => not_suffix_word hw (mem_endingKeywords_operator hk)

namespace TermSpelling

/-- The characters of a criterion without a mode of its own. -/
def test (t : TermSpelling) : List Char :=
  t.word.val.toList ++ t.operatorText.toList

/-- A criterion is its test with its mode behind it. -/
theorem toList_text (t : TermSpelling) : t.text.toList = t.test ++ t.ignoreCase.text.toList := by
  simp [text, test]

/-- The operator is found behind the word, or none is. -/
theorem dropKeyword?_test (t : TermSpelling) :
    (dropKeyword? operatorKeywords t.test).getD (t.test, .equals) =
      (t.word.val.toList, (t.operator.map (·.val.2)).getD .equals) := by
  rcases t with ⟨⟨w, hw⟩, operator, ignoreCase⟩
  cases operator with
  | none => simp [test, operatorText, dropKeyword?_word hw]
  | some entry =>
    rcases entry with ⟨entry, hentry⟩
    simp [test, operatorText, dropKeyword?_operator hw hentry]

/-- A criterion without a mode of its own does not end like one with a mode. -/
theorem not_suffix_test (t : TermSpelling) {s : String}
    (hs : s ∈ "All" :: ignoreCaseKeywords) : ¬ s.toList <:+ t.test := by
  rcases t with ⟨⟨w, hw⟩, operator, ignoreCase⟩
  cases operator with
  | none =>
    have hno := not_suffix_word hw (List.mem_append_left _ hs)
    simpa [test, operatorText] using hno
  | some entry =>
    rcases entry with ⟨entry, hentry⟩
    exact not_suffix_of_isUnrelated
      (isUnrelated_operator s (List.mem_append_left _ hs) entry hentry) w.toList

/-- The mode of its own is found behind the test, or none is. -/
theorem dropKeyword?_text (t : TermSpelling) (mode : CaseMode) :
    (dropKeyword? (ignoreCaseKeywords.map (·, .always)) t.text.toList).getD
        (t.text.toList, mode) =
      (t.test, if t.ignoreCase.isSome then .always else mode) := by
  rw [toList_text]
  -- Without a mode of its own, the end of the test must not look like one.
  cases hmode : t.ignoreCase with
  | none =>
    have hnone : dropKeyword? (ignoreCaseKeywords.map (·, CaseMode.always)) t.test = none := by
      apply dropKeyword?_eq_none_iff.2
      intro k hk
      rcases List.mem_map.1 hk with ⟨s, hs, rfl⟩
      exact t.not_suffix_test (List.mem_cons_of_mem _ hs)
    simp [Choice.text, hnone]
  | some s =>
    rcases s with ⟨s, hs⟩
    have hsome := dropKeyword?_mode CaseMode.always List.mem_cons_self hs t.test
    simp [Choice.text, hsome]

/-- A spelled criterion is read as it was meant. -/
theorem readTerm_text (t : TermSpelling) (mode : CaseMode) :
    readTerm mode t.text.toList = .ok (t.term mode) := by
  -- The tests of the reader pass: there is a property, and it begins with a capital.
  have hcapital := isCapitalised_word t.word.property
  have hne : t.word.val.toList.isEmpty = false := by
    simpa using word_ne_nil t.word.property
  unfold readTerm
  rw [t.dropKeyword?_text mode]
  simp only [t.dropKeyword?_test, hne, hcapital, Bool.false_eq_true, if_false, Bool.not_true,
    String.ofList_toList]
  rfl

/-- A name is not cut at a criterion. -/
theorem closed_text (t : TermSpelling) {keyword : String} (hkeyword : keyword ∈ cuttingKeywords) :
    Closed keyword t.text.toList := by
  rw [toList_text]
  -- No cut in the word, in the operator behind it or in the mode behind that.
  have htest : Closed keyword t.test := by
    have hword := closed_word t.word.property hkeyword
    cases hoperator : t.operator with
    | none => simpa [test, operatorText, hoperator] using hword
    | some entry =>
      have hfixed := isFixed_operator keyword hkeyword entry.val entry.property
      simpa [test, operatorText, hoperator] using hword.append_fixed hfixed
  cases t.ignoreCase with
  | none => simpa [Choice.text] using htest
  | some s => exact htest.append_fixed (isFixed_ignoreCase keyword hkeyword s.val s.property)

end TermSpelling

/-! ## The end of the criteria -/

/-- The criteria before the last one end with a joint, if there are any. -/
def EndsJoined (pre : List Char) : Prop :=
  pre = [] ∨ ∃ joint ∈ ["And", "Or"], joint.toList <:+ pre

/-- The ends of a mode for all criteria that could be a word: all but one are not safe. -/
theorem ends_allIgnoreCase : ∀ k ∈ "All" :: allIgnoreCaseKeywords,
    Throughout (fun w => w.head?.any Char.isUpper = true →
      ("All" :: ignoreCaseKeywords).any (fun e => e.toList.isSuffixOf w) = true ∨
        w = "Case".toList) k.toList [] := by
  decide

/-- What `Case` is missing to a mode for all criteria is no joint. -/
theorem isUnrelated_joint : ∀ k ∈ "All" :: allIgnoreCaseKeywords, ∀ joint ∈ ["And", "Or"],
    (dropEnd? "Case" k.toList).all (fun z => isUnrelated z joint.toList) = true := by
  decide

/-- With a safe word at their end, criteria do not end with a mode for all of them. -/
theorem not_suffix_joined_word {w pre : List Char} (hw : isSafeWord w = true)
    (hpre : EndsJoined pre) {k : String} (hk : k ∈ "All" :: allIgnoreCaseKeywords) :
    ¬ k.toList <:+ pre ++ w := by
  have hcapital := (isSafeWord_iff.1 hw).1
  intro hsuffix
  rcases List.suffix_or_suffix_of_suffix hsuffix (List.suffix_append pre w) with hinside | hbehind
  · -- The keyword is at the end of the word.
    have hsame : ∀ k ∈ "All" :: allIgnoreCaseKeywords,
        endingKeywords.any (fun e => e.toList.isSuffixOf k.toList) = true := by
      decide
    rcases List.any_eq_true.1 (hsame k hk) with ⟨e, he, hek⟩
    exact not_suffix_word hw he ((List.isSuffixOf_iff_suffix.1 hek).trans hinside)
  · -- The word is at the end of the keyword, and it can only be `Case`.
    have hends := (ends_allIgnoreCase k hk).of_suffix hbehind (word_ne_nil hw)
    rw [List.append_nil] at hends
    rcases hends hcapital with hunsafe | rfl
    · rcases List.any_eq_true.1 hunsafe with ⟨e, he, hew⟩
      exact not_suffix_word hw (List.mem_append_left _ he) (List.isSuffixOf_iff_suffix.1 hew)
    · rcases hbehind with ⟨z, hz⟩
      rcases hsuffix with ⟨a, ha⟩
      -- `z` is what the keyword has in front of `Case`.
      rw [← hz, ← List.append_assoc] at ha
      -- The beginning of the keyword would have to end the criteria before the word.
      have hzpre : z <:+ pre := ⟨a, List.append_cancel_right ha⟩
      have hjoint := isUnrelated_joint k hk
      rw [dropEnd?_eq_some_iff.2 hz.symm] at hjoint
      rcases hpre with rfl | ⟨joint, hmem, b, rfl⟩
      · rcases List.suffix_nil.1 hzpre with rfl
        exact absurd (hjoint "And" (by simp)) (by decide)
      · exact not_suffix_of_isUnrelated (hjoint joint hmem) b hzpre

/-- The end of the joined pieces is the last one, behind a joint if there are others. -/
theorem exists_last_of_intercalate (joint : List Char) (pieces : List (List Char))
    (hne : pieces ≠ []) : ∃ pre, ∃ last ∈ pieces,
      joint.intercalate pieces = pre ++ last ∧ (pre = [] ∨ joint <:+ pre) := by
  induction pieces with
  | nil => exact absurd rfl hne
  | cons p ps ih =>
    cases ps with
    | nil => exact ⟨[], p, by simp, by simp, .inl rfl⟩
    | cons q qs =>
      rcases ih (by simp) with ⟨pre, last, hlast, heq, hpre⟩
      refine ⟨p ++ joint ++ pre, last, List.mem_cons_of_mem p hlast, ?_, .inr ?_⟩
      · rw [List.intercalate_cons_cons, heq, List.append_assoc (p ++ joint)]
      · rcases hpre with rfl | hjoint
        · -- Only the first piece and the joint stand in front of the last one.
          rw [List.append_nil]
          exact List.suffix_append p joint
        · exact hjoint.trans (List.suffix_append _ pre)

namespace TermSpelling

/-- With a test at their end, criteria do not end with a mode for all of them. -/
theorem not_suffix_joined_test (t : TermSpelling) {pre : List Char} (hpre : EndsJoined pre)
    {k : String} (hk : k ∈ "All" :: allIgnoreCaseKeywords) : ¬ k.toList <:+ pre ++ t.test := by
  cases hoperator : t.operator with
  | none =>
    have hword := not_suffix_joined_word t.word.property hpre hk
    simpa [test, operatorText, hoperator] using hword
  | some entry =>
    -- An operator ends otherwise than any of these keywords.
    have hmem : k ∈ "All" :: ignoreCaseKeywords ++ allIgnoreCaseKeywords := by
      rcases List.mem_cons.1 hk with rfl | hk
      · exact List.mem_cons_self
      · exact List.mem_append_right _ hk
    have hunrelated := isUnrelated_operator k hmem entry.val entry.property
    have hno := not_suffix_of_isUnrelated hunrelated (pre ++ t.word.val.toList)
    simpa [test, operatorText, hoperator] using hno

/-- With a criterion at their end, criteria do not end with a mode for all of them. -/
theorem not_suffix_joined (t : TermSpelling) {pre : List Char} (hpre : EndsJoined pre)
    {k : String} (hk : k ∈ allIgnoreCaseKeywords) : ¬ k.toList <:+ pre ++ t.text.toList := by
  rw [toList_text]
  cases t.ignoreCase with
  | none =>
    have htest := t.not_suffix_joined_test hpre (List.mem_cons_of_mem _ hk)
    simpa [Choice.text] using htest
  | some s =>
    rcases s with ⟨s, hs⟩
    -- The criterion's own mode would have to stand behind `All`.
    have hsplit : isUnrelated k.toList s.toList = true ∨ k.toList = "All".toList ++ s.toList := by
      revert k s
      decide
    show ¬ k.toList <:+ pre ++ (t.test ++ s.toList)
    rw [← List.append_assoc]
    rcases hsplit with hunrelated | hall
    · exact not_suffix_of_isUnrelated hunrelated (pre ++ t.test)
    · rintro ⟨a, ha⟩
      rw [hall, ← List.append_assoc] at ha
      exact t.not_suffix_joined_test hpre List.mem_cons_self ⟨a, List.append_cancel_right ha⟩

end TermSpelling

/-! ## All criteria -/

namespace Spelling

/-- A group holds the characters of its criteria, with `And` between them. -/
theorem toList_groupText (group : List TermSpelling) :
    (groupText group).toList = "And".toList.intercalate (group.map (·.text.toList)) := by
  simp only [groupText, String.toList_intercalate, List.map_map]
  rfl

/-- The groups stand one behind the other, with `Or` between them. -/
theorem toList_groupsText (s : Spelling) :
    s.groupsText.toList = "Or".toList.intercalate (s.groups.map fun g => (groupText g).toList) := by
  simp only [groupsText, String.toList_intercalate, List.map_map]
  rfl

/-- A name is not cut at a group, unless at an `And`. -/
theorem closed_groupText {group : List TermSpelling} (hne : group ≠ []) {keyword : String}
    (hkeyword : keyword ∈ ["Or", "OrderBy"]) : Closed keyword (groupText group).toList := by
  -- No `And` runs on into one of the keywords.
  have hquiet : beginsIn keyword.toList "And".toList = false := by
    revert keyword
    decide
  rw [toList_groupText]
  refine closed_intercalate (by decide) (fun cs _ => quiet_of_not_beginsIn hquiet cs)
    (by simpa using hne) ?_
  intro p hp
  rcases List.mem_map.1 hp with ⟨t, -, rfl⟩
  exact t.closed_text (List.mem_cons_of_mem _ hkeyword)

/-- `Or` does not go on to `OrderBy` when a capital follows. -/
theorem quiet_or {cs : List Char} (h : cs.head?.any Char.isUpper = true) :
    Quiet "OrderBy" "Or".toList cs := by
  cases cs with
  | nil => simp at h
  | cons c cs =>
    -- The letter that `OrderBy` has behind `Or` is a small one.
    have hc : c ≠ 'd' := by
      rintro rfl
      simp at h
    simp [Opens, hc]

/-- The criteria are not cut at `OrderBy`. -/
theorem closed_groupsText (s : Spelling) : Closed "OrderBy" s.groupsText.toList := by
  rw [toList_groupsText]
  refine closed_intercalate (by decide) (fun cs => quiet_or) (by simpa using s.hasGroups) ?_
  intro p hp
  rcases List.mem_map.1 hp with ⟨group, hgroup, rfl⟩
  exact closed_groupText (s.hasTerms group hgroup) (by decide)

/-- Spelled groups are read as they were meant. -/
theorem readGroups_text (s : Spelling) (mode : CaseMode) :
    readGroups mode s.groupsText.toList = .ok (s.groups.map fun g => g.map (·.term mode)) := by
  unfold readGroups
  -- Neither cut is disturbed by the pieces: each of them is closed for its keyword.
  -- The criteria are cut at `Or` first, and each group at `And`.
  have hor : cutAtKeyword "Or" s.groupsText.toList =
      s.groups.map fun g => (groupText g).toList := by
    rw [toList_groupsText]
    refine cutAtKeyword_intercalate (by decide) (by simpa using s.hasGroups) ?_
    intro p hp
    rcases List.mem_map.1 hp with ⟨group, hgroup, rfl⟩
    exact (closed_groupText (s.hasTerms group hgroup) (by decide)).isPiece (by decide)
  rw [hor]
  apply mapM_map_eq_ok
  intro group hgroup
  have hand : cutAtKeyword "And" (groupText group).toList = group.map (·.text.toList) := by
    rw [toList_groupText]
    refine cutAtKeyword_intercalate (by decide) (by simpa using s.hasTerms group hgroup) ?_
    intro p hp
    rcases List.mem_map.1 hp with ⟨t, -, rfl⟩
    exact (t.closed_text (by decide)).isPiece (by decide)
  rw [hand]
  apply mapM_map_eq_ok
  intro t _
  exact t.readTerm_text mode

/-- The groups do not end with a mode for all criteria. -/
theorem not_suffix_groupsText (s : Spelling) {k : String} (hk : k ∈ allIgnoreCaseKeywords) :
    ¬ k.toList <:+ s.groupsText.toList := by
  rw [toList_groupsText]
  rcases exists_last_of_intercalate "Or".toList
    (s.groups.map fun g => (groupText g).toList) (by simpa using s.hasGroups)
    with ⟨pre, last, hlast, hor, hpre⟩
  -- The last criterion of the last group is at the end of the text.
  rcases List.mem_map.1 hlast with ⟨group, hgroup, rfl⟩
  rw [toList_groupText] at hor
  rcases exists_last_of_intercalate "And".toList
    (group.map (·.text.toList)) (by simpa using s.hasTerms group hgroup)
    with ⟨pre', last', hlast', hand, hpre'⟩
  rcases List.mem_map.1 hlast' with ⟨t, -, rfl⟩
  rw [hor, hand, ← List.append_assoc]
  -- In front of the last criterion stands `And`, or `Or` if it is alone in its group.
  apply t.not_suffix_joined _ hk
  rcases hpre' with rfl | hjoint
  · rw [List.append_nil]
    exact hpre.imp_right fun hjoint => ⟨"Or", by simp, hjoint⟩
  · exact .inr ⟨"And", by simp, hjoint.trans (List.suffix_append pre pre')⟩

/-- Spelled criteria are read as they were meant. -/
theorem readCriteria_text (s : Spelling) :
    readCriteria s.criteriaText.toList = .ok s.meaning.groups := by
  have hne : s.groupsText.toList ≠ [] := s.closed_groupsText.ne_nil
  unfold readCriteria
  rw [criteriaText, String.toList_append]
  cases hall : s.allIgnoreCase with
  | none =>
    -- Nothing is taken off, so that the groups are read in the mode of none.
    have hnone : dropKeyword? (allIgnoreCaseKeywords.map (·, ())) s.groupsText.toList = none := by
      apply dropKeyword?_eq_none_iff.2
      intro k hk
      rcases List.mem_map.1 hk with ⟨word, hword, rfl⟩
      exact s.not_suffix_groupsText hword
    simp [Choice.text, hnone, hne, s.readGroups_text, meaning, mode, hall]
  | some k =>
    -- The keyword is taken off, and there are criteria in front of it.
    have hsome := dropKeyword?_mode () (List.mem_cons_of_mem _ List.mem_cons_self) k.property
      s.groupsText.toList
    cases hgroups : s.groupsText.toList with
    | nil => exact absurd hgroups hne
    | cons c cs =>
      rw [hgroups, List.cons_append] at hsome
      have hread := s.readGroups_text .whenPossible
      rw [hgroups] at hread
      simp [Choice.text, hsome, hread, meaning, mode, hall]

end Spelling

end DerivedQuery.MethodName
