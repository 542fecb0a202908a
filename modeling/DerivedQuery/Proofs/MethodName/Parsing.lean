import DerivedQuery.Proofs.MethodName.Criteria
import DerivedQuery.Proofs.MethodName.SortKeys

/-!
# Parsing undoes spelling

A spelled name is read as it was meant. Its criteria are read in `Criteria`; here are the sort keys,
the subject, and the name as a whole.

* `readOrder_text`: directions end sort keys, and are found nowhere else in them.
* `readSubject_text`, `splitBy?_text`: the subject is what precedes the first `By`.
* `parse_text`: the whole name.
-/

namespace DerivedQuery.MethodName

open Text

/-! ## Sort keys -/

/-- No direction counts behind the first character of a safe key. -/
theorem undirected_key {cs : List Char} (h : isSafeKey cs = true) : Undirected cs.tail := by
  have hascii := toNat_lt_of_mem_word (isSafeWord_of_isSafeKey h)
  have hkeyword (d : Direction) : (directionText d, d) ∈ directionKeywords := by
    cases d <;> simp [directionText, directionKeywords]
  simp only [isSafeKey, Bool.and_eq_true, List.all_eq_true, Bool.not_eq_true'] at h
  intro d before behind hcs hends
  -- The key would go on behind the direction with something that is no capital.
  have hne : (directionText d).toList ++ behind ≠ [] := by
    cases d <;> simp [directionText]
  have hsuffix : (directionText d).toList ++ behind <:+ cs.tail :=
    ⟨before, by rw [hcs, List.append_assoc]⟩
  have hsmall : behind.head?.all Char.isUpper = false :=
    not_capital_of_not_occursOpen (h.2 _ (hkeyword d)) hsuffix hne rfl
  cases behind with
  | nil => simp at hsmall
  | cons c behind =>
    have hmem : c ∈ cs := by
      apply List.mem_of_mem_tail
      apply hsuffix.subset
      simp
    simp only [EndsKey, isCapitalised, List.head?_cons, Option.any_some, List.cons_ne_nil,
      false_or, isUppercase_of_ascii (hascii c hmem)] at hends
    simp [hends] at hsmall

/-- A key is read up to where the text goes on with a direction or ends. -/
theorem keysFrom_word {word : List Char} (h : isSafeKey word = true) {rest : List Char}
    (hrest : EndsKey rest) : keysFrom [] 0 (word ++ rest) = keysFrom word.reverse 0 rest := by
  have hword := isSafeWord_of_isSafeKey h
  have hquiet := noDirection_of_undirected (undirected_key h) hrest
  cases word with
  | nil => simp [isSafeWord] at hword
  | cons c cs =>
    -- No direction is looked for at the first character of a key.
    have hascii : c.toNat < 0x80 := toNat_lt_of_mem_word hword c List.mem_cons_self
    rw [List.cons_append, keysFrom, if_pos hascii]
    rw [List.tail_cons] at hquiet
    rw [keysFrom_quiet hquiet, List.reverse_cons]

/-- Where a safe word begins, a key may end. -/
theorem endsKey_word {word : List Char} (h : isSafeWord word = true) (rest : List Char) :
    EndsKey (word ++ rest) := by
  have hcapital := (isSafeWord_iff.1 h).1
  cases word with
  | nil => simp at hcapital
  | cons c cs =>
    have hc : isUppercase c = true := isUppercase_of_isUpper (by simpa using hcapital)
    exact .inr (by simpa [isCapitalised] using hc)

namespace OrderSpelling

/-- The last key and what stands behind it. -/
theorem keysFrom_last (o : OrderSpelling) :
    keysFrom [] 0 (o.last.val.toList ++ ((o.lastDirection.map directionText).getD "").toList) =
      [(o.last.val.toList, o.lastDirection.getD .ascending)] := by
  have hne := word_ne_nil (isSafeWord_of_isSafeKey o.last.property)
  have hreverse : o.last.val.toList.reverse ≠ [] := by simpa using hne
  have hend : EndsKey [] := .inl rfl
  cases o.lastDirection with
  | none =>
    have hword := keysFrom_word o.last.property hend
    rw [List.append_nil] at hword
    cases hkey : o.last.val.toList.reverse with
    | nil => exact absurd hkey hreverse
    | cons k key =>
      have hback : o.last.val.toList = (k :: key).reverse := by
        rw [← hkey, List.reverse_reverse]
      simp [hword, hkey, keysFrom, ← hback]
  | some d =>
    have hword := keysFrom_word o.last.property (endsKey_direction d [])
    have hdirection := keysFrom_direction hreverse d hend
    rw [List.append_nil] at hword hdirection
    simp [hword, hdirection, keysFrom]

/-- Every key but the last is ended by its direction, and is followed by another key. -/
theorem keysFrom_text (o : OrderSpelling) :
    keysFrom [] 0 o.text.toList =
      o.keys.map (fun (word, direction) => (word.val.toList, direction)) ++
        [(o.last.val.toList, o.lastDirection.getD .ascending)] := by
  rcases o with ⟨keys, last, lastDirection⟩
  induction keys with
  | nil => simpa [text] using keysFrom_last ⟨[], last, lastDirection⟩
  | cons key keys ih =>
    rcases key with ⟨word, d⟩
    have htext : (text ⟨(word, d) :: keys, last, lastDirection⟩).toList =
        word.val.toList ++ ((directionText d).toList ++
          (text ⟨keys, last, lastDirection⟩).toList) := by
      simp [text, String.join_cons]
    -- The next key begins with a capital.
    have hnext : EndsKey (text ⟨keys, last, lastDirection⟩).toList := by
      cases keys with
      | nil =>
        simpa [text] using endsKey_word (isSafeWord_of_isSafeKey last.property) _
      | cons next keys =>
        simpa [text, String.join_cons] using
          endsKey_word (isSafeWord_of_isSafeKey next.1.property) _
    have hne := word_ne_nil (isSafeWord_of_isSafeKey word.property)
    rw [htext, keysFrom_word word.property (endsKey_direction d _),
      keysFrom_direction (by simpa using hne) d hnext, ih, List.reverse_reverse]
    rfl

/-- Spelled sort keys are read as they were meant. -/
theorem readOrder_text (o : OrderSpelling) : readOrder o.text.toList = .ok o.terms := by
  have hword (word : KeyWord) : isCapitalised word.val.toList = true :=
    isCapitalised_word (isSafeWord_of_isSafeKey word.property)
  simp [readOrder, o.keysFrom_text, hword, terms]

/-- A name is not cut at its sort keys. -/
theorem closed_text (o : OrderSpelling) : Closed "OrderBy" o.text.toList := by
  have hword (word : KeyWord) : Closed "OrderBy" word.val.toList :=
    closed_word (isSafeWord_of_isSafeKey word.property) (by decide)
  have hfixed (d : Direction) : isFixed "OrderBy" (directionText d).toList = true := by
    cases d <;> decide
  rcases o with ⟨keys, last, lastDirection⟩
  induction keys with
  | nil =>
    cases lastDirection with
    | none => simpa [text] using hword last
    | some d => simpa [text] using (hword last).append_fixed (hfixed d)
  | cons key keys ih =>
    -- The direction ends in no part of `OrderBy`, and a capital follows it.
    rcases key with ⟨word, d⟩
    have hkey := (hword word).append_fixed (hfixed d)
    have happend := Closed.append hkey.capital
      (fun rest => (hword word).quiet_fixed (hfixed d) _) ih
    simpa [text, String.join_cons] using happend

end OrderSpelling

/-! ## The subject -/

/-- The search for `By` passes over a text in which it does not stand. -/
theorem splitAtBy?_append {t rest : List Char}
    (h : Throughout (fun cs => ¬ "By".toList <+: cs) t ('B' :: 'y' :: rest)) (hline : '\n' ∉ t) :
    splitAtBy? (t ++ 'B' :: 'y' :: rest) = some (t, rest) := by
  induction t with
  | nil => simp [splitAtBy?, dropStart?]
  | cons c t ih =>
    rw [List.mem_cons, not_or] at hline
    have hrest := ih h.2 hline.2
    simp [splitAtBy?, dropStart?_eq_none_iff.2 h.1, Ne.symm hline.1, hrest]

/-- A name is divided behind its subject, which is empty or begins with a capital. -/
theorem splitBy?_append {subject rest : List Char}
    (hcapital : subject.head?.all isUppercaseLetter = true)
    (h : Throughout (fun cs => ¬ "By".toList <+: cs) subject ('B' :: 'y' :: rest))
    (hline : '\n' ∉ subject) :
    splitBy? (subject ++ 'B' :: 'y' :: rest) = some (subject, rest) := by
  cases subject with
  | nil => simp [splitBy?, dropStart?]
  | cons c cs =>
    rw [List.mem_cons, not_or] at hline
    have hrest := splitAtBy?_append h.2 hline.2
    have hupper : isUppercaseLetter c = true := by simpa using hcapital
    simp [splitBy?, dropStart?_eq_none_iff.2 h.1, hupper, hrest]

namespace LimitSpelling

/-- The digits of a limit. -/
def digits (l : LimitSpelling) : List Char :=
  ((l.count.map (·.digits)).getD "").toList

/-- A limit has ASCII digits only. -/
theorem isDigit_of_mem_digits (l : LimitSpelling) : ∀ c ∈ l.digits, c.isDigit = true := by
  cases hcount : l.count with
  | none => simp [digits, hcount]
  | some count =>
    have hall := List.all_eq_true.1 count.areDigits
    simpa [digits, hcount] using hall

/-- A limit is its word with the digits behind it. -/
theorem toList_text (l : LimitSpelling) : l.text.toList = l.word.val.toList ++ l.digits := by
  simp [text, digits]

/-- The digits of a limit are read as its number. -/
theorem readLimit_digits (l : LimitSpelling) : readLimit l.digits = .ok l.limit := by
  cases hcount : l.count with
  | none => simp [readLimit, digits, limit, hcount]
  | some count =>
    rcases count with ⟨text, areDigits, positive, bounded⟩
    have hne : text.toList.isEmpty = false := by
      cases htext : text.toList with
      | nil => simp [htext] at positive
      | cons c cs => rfl
    have hread : readCount? text.toList = some (Nat.ofDigitChars 10 text.toList 0) := by
      simp only [readCount?, areDigits, if_true, ← Nat.ofDigitChars_eq_foldl, bounded]
    have hdigits : l.digits = text.toList := by
      simp [digits, hcount]
    have hlimit : l.limit = Nat.ofDigitChars 10 text.toList 0 := by
      simp [limit, hcount]
    rw [hlimit, hdigits, readLimit, hne, hread]
    cases hvalue : Nat.ofDigitChars 10 text.toList 0 with
    | zero => omega
    | succ n => rfl

/-- The digits of a limit stand behind its word, up to the end of the subject. -/
theorem limitDigits?_text (l : LimitSpelling) : limitDigits? l.text.toList = some l.digits := by
  have hdecimal : ∀ c ∈ l.digits, isDecimalDigit c = true := by
    intro c hc
    exact isDecimalDigit_of_isDigit (l.isDigit_of_mem_digits c hc)
  have htake : l.digits.takeWhile isDecimalDigit = l.digits := by
    have hall : (l.digits ++ []).takeWhile isDecimalDigit =
        l.digits ++ [].takeWhile isDecimalDigit := List.takeWhile_append_of_pos hdecimal
    simpa using hall
  have hword := l.word.property
  rw [toList_text]
  simp only [limitKeywords, List.mem_cons, List.not_mem_nil, or_false] at hword
  rcases hword with hword | hword <;>
    simp [hword, limitDigits?, limitKeywords, dropStart?, htake]

/-- The characters of a limit. -/
theorem mem_text (l : LimitSpelling) : ∀ c ∈ l.text.toList, c ≠ 'B' ∧ c ≠ '\n' ∧ c ≠ 'D' := by
  intro c hc
  rw [toList_text] at hc
  rcases List.mem_append.1 hc with hc | hc
  · have hwords : limitKeywords.all (fun word =>
        word.toList.all fun c => c ≠ 'B' ∧ c ≠ '\n' ∧ c ≠ 'D') = true := by
      decide
    have hword := List.all_eq_true.1 hwords _ l.word.property
    simpa using List.all_eq_true.1 hword c hc
  · have hdigit := l.isDigit_of_mem_digits c hc
    refine ⟨?_, ?_, ?_⟩ <;>
    · rintro rfl
      revert hdigit
      decide

end LimitSpelling

/-- A text without its first character does not occur. -/
theorem not_occursIn {d : Char} {part t : List Char} (h : ∀ c ∈ t, c ≠ d) :
    occursIn (d :: part) t = false := by
  induction t with
  | nil => rfl
  | cons c t ih =>
    have hc : d ≠ c := (h c List.mem_cons_self).symm
    simp [occursIn, List.isPrefixOf, hc, ih fun e he => h e (List.mem_cons_of_mem c he)]

namespace Spelling

/-- The subject is `Distinct`, or nothing, with the limit behind it. -/
theorem toList_subjectText (s : Spelling) :
    s.subjectText.toList =
      (if s.distinct then "Distinct".toList else []) ++
        ((s.limit.map (·.text)).getD "").toList := by
  cases hdistinct : s.distinct <;> simp [subjectText, hdistinct]

/-- Neither `By` nor `Distinct` begins in a limit. -/
theorem mem_limitText (s : Spelling) :
    ∀ c ∈ ((s.limit.map (·.text)).getD "").toList, c ≠ 'B' ∧ c ≠ '\n' ∧ c ≠ 'D' := by
  cases hlimit : s.limit with
  | none => simp
  | some l => simpa using l.mem_text

/-- The subject is read as it was meant. -/
theorem readSubject_text (s : Spelling) :
    readSubject s.subjectText.toList = .ok ⟨s.distinct, s.limit.map (·.limit), [], []⟩ := by
  have hlimit : limitDigits? s.subjectText.toList = s.limit.map (·.digits) := by
    -- No limit is read inside `Distinct`.
    have hskip : limitDigits? s.subjectText.toList =
        limitDigits? ((s.limit.map (·.text)).getD "").toList := by
      rw [toList_subjectText]
      cases s.distinct <;> simp [limitDigits?, limitKeywords, dropStart?]
    rw [hskip]
    cases s.limit with
    | none => rfl
    | some l => exact l.limitDigits?_text
  have hdistinct : occursIn "Distinct".toList s.subjectText.toList = s.distinct := by
    -- A limit has no `D`, so it does not contain `Distinct`.
    rw [toList_subjectText]
    cases s.distinct with
    | true => simp [occursIn, List.isPrefixOf]
    | false => simpa using not_occursIn fun c hc => (s.mem_limitText c hc).2.2
  unfold readSubject
  rw [hlimit, hdistinct]
  cases s.limit with
  | none => rfl
  | some l =>
    simp only [Option.map_some, l.readLimit_digits]
    rfl

/-- The name is divided at the `By` behind the subject. -/
theorem splitBy?_text (s : Spelling) (rest : List Char) :
    splitBy? (s.subjectText.toList ++ 'B' :: 'y' :: rest) =
      some (s.subjectText.toList, rest) := by
  have hmem : ∀ c ∈ s.subjectText.toList, c ≠ 'B' ∧ c ≠ '\n' := by
    intro c hc
    rw [toList_subjectText] at hc
    rcases List.mem_append.1 hc with hc | hc
    · have hdistinct : "Distinct".toList.all (fun c => c ≠ 'B' ∧ c ≠ '\n') = true := by decide
      cases hd : s.distinct with
      | true =>
        rw [hd, if_pos rfl] at hc
        simpa using List.all_eq_true.1 hdistinct c hc
      | false => simp [hd] at hc
    · have hlimit := s.mem_limitText c hc
      exact ⟨hlimit.1, hlimit.2.1⟩
  -- There is no `B` in the subject, so that the first `By` is the one behind it.
  -- The subject is empty, or it begins with a capital other than the one of `By`.
  have hcapital : s.subjectText.toList.head?.all isUppercaseLetter = true := by
    rw [toList_subjectText]
    cases s.distinct with
    | true => rfl
    | false =>
      cases s.limit with
      | none => rfl
      | some l =>
        have hword := l.word.property
        simp only [limitKeywords, List.mem_cons, List.not_mem_nil, or_false] at hword
        rcases hword with hword | hword <;> simp [l.toList_text, hword] <;> decide
  refine splitBy?_append hcapital (throughout_of_forall ?_) fun hline => (hmem _ hline).2 rfl
  intro c hc cs hby
  exact (hmem c hc).1 (List.cons_prefix_cons.1 hby).1.symm

/-! ## The name -/

/-- Of the words for queries none begins another one. -/
theorem splitPrefix?_opening {word : String} (h : word ∈ queryPrefixes) (rest : List Char) :
    splitPrefix? (word.toList ++ rest) = some rest := by
  simp only [queryPrefixes, List.mem_cons, List.not_mem_nil, or_false] at h
  rcases h with rfl | rfl | rfl | rfl | rfl | rfl <;>
    simp [splitPrefix?, queryPrefixes, dropStart?]

/-- The name is not cut at its criteria. -/
theorem closed_criteriaText (s : Spelling) : Closed "OrderBy" s.criteriaText.toList := by
  rw [criteriaText, String.toList_append]
  cases s.allIgnoreCase with
  | none => simpa [Choice.text] using s.closed_groupsText
  | some k =>
    have hfixed := isFixed_allIgnoreCase "OrderBy" (by decide) k.val k.property
    exact s.closed_groupsText.append_fixed hfixed

/-- What follows `By` is read as it was meant. -/
theorem readPredicate_text (s : Spelling) :
    readPredicate (s.criteriaText.toList ++ s.orderText.toList) =
      .ok (s.meaning.groups, s.meaning.order) := by
  have hkeyword : "OrderBy".toList ≠ [] := by decide
  have hcriteria : IsPiece "OrderBy" s.criteriaText.toList :=
    s.closed_criteriaText.isPiece (by decide)
  unfold readPredicate
  cases horder : s.order with
  -- Without an order there is one piece, which is all of the criteria.
  | none =>
    have hcut : cutAtKeyword "OrderBy" s.criteriaText.toList = [s.criteriaText.toList] := by
      have hpieces := cutAtKeyword_intercalate hkeyword
        (List.cons_ne_nil s.criteriaText.toList []) (by simpa using hcriteria)
      rwa [List.intercalate_singleton] at hpieces
    have htext : s.orderText.toList = [] := by
      simp [orderText, horder]
    rw [htext, List.append_nil, hcut]
    simp only [s.readCriteria_text, ok_bind]
    simp [meaning, horder]
    rfl
  | some o =>
    have horderPiece : IsPiece "OrderBy" o.text.toList := o.closed_text.isPiece (by decide)
    -- The criteria and the keys are the two pieces around the one `OrderBy`.
    have hcut : cutAtKeyword "OrderBy"
        (s.criteriaText.toList ++ ("OrderBy".toList ++ o.text.toList)) =
          [s.criteriaText.toList, o.text.toList] := by
      have hpieces := cutAtKeyword_intercalate hkeyword
        (List.cons_ne_nil s.criteriaText.toList [o.text.toList])
        (by simpa using ⟨hcriteria, horderPiece⟩)
      rwa [List.intercalate_cons_cons, List.intercalate_singleton, List.append_assoc] at hpieces
    have htext : s.orderText.toList = "OrderBy".toList ++ o.text.toList := by
      simp [orderText, horder]
    rw [htext, hcut]
    simp only [s.readCriteria_text, o.readOrder_text, ok_bind]
    simp [meaning, horder]
    rfl

end Spelling

/-- A spelled name is read as it was meant. -/
theorem parse_text (s : Spelling) : parse s.text = .ok s.meaning := by
  have htext : s.text.toList = s.opening.val.toList ++ (s.subjectText.toList ++ 'B' :: 'y' ::
      (s.criteriaText.toList ++ s.orderText.toList)) := by
    simp [Spelling.text]
  have hread : read s.text = .ok s.meaning := by
    unfold read
    rw [htext, Spelling.splitPrefix?_opening s.opening.property]
    simp only [s.splitBy?_text]
    rw [s.readSubject_text, ok_bind, s.readPredicate_text, ok_bind]
    rfl
  rw [parse, hread]
  rfl

/-- A name in which every part is present. -/
theorem parse_text_everyPart :
    let spelling : Spelling := {
      opening := ⟨"find", by decide⟩
      distinct := true
      limit := some ⟨⟨"Top", by decide⟩, some ⟨"05", by decide, by decide, by decide⟩⟩
      groups := [
        [⟨⟨"Order", by decide⟩, some ⟨("Between", .between), by decide⟩, none⟩,
          ⟨⟨"Android", by decide⟩, none, some ⟨"IgnoreCase", by decide⟩⟩],
        [⟨⟨"ByLine", by decide⟩, none, none⟩]]
      hasGroups := by simp
      hasTerms := by simp
      allIgnoreCase := some ⟨"AllIgnoringCase", by decide⟩
      order := some ⟨[(⟨"Ascent", by decide⟩, .descending)], ⟨"By", by decide⟩, none⟩ }
    spelling.text = "findDistinctTop05ByOrderBetweenAndAndroidIgnoreCaseOrByLine" ++
        "AllIgnoringCaseOrderByAscentDescBy" ∧
      parse spelling.text = .ok ⟨true, some 5,
        [[⟨"Order", .between, .whenPossible⟩, ⟨"Android", .equals, .always⟩],
          [⟨"ByLine", .equals, .whenPossible⟩]],
        [⟨"Ascent", .descending⟩, ⟨"By", .ascending⟩]⟩ := by
  intro spelling
  have htext : spelling.text = "findDistinctTop05ByOrderBetweenAndAndroidIgnoreCaseOrByLine" ++
      "AllIgnoringCaseOrderByAscentDescBy" := by
    decide
  exact ⟨htext, parse_text spelling⟩

end DerivedQuery.MethodName
