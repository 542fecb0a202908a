import DerivedQuery.Proofs.MethodName.Criteria
import DerivedQuery.Proofs.MethodName.Decomposition

/-!
# The keyword of a criterion is the longest

A criterion is read from its end inwards: first a keyword that makes it ignore case, then the
keyword of its operator, which is looked for in the order of a table. Many of these keywords end with
others, as `IsNotIn` does with `NotIn` and `In`; since none ends with an earlier one, the first that
is found is the longest.

* `TakenOff`: the longest keyword at the end of a text, or nothing.
* `TermParts`, `TermParts.Divides`: a criterion and the parts that it is taken apart into.
* `exists_divides_iff`: every text has one division.
* `readTerm_longest`: the division decides what is read, and no longer keyword is left to be found.
-/

namespace DerivedQuery.MethodName

open Text

/-! ## Keywords at the end of a text -/

section Table

variable {α : Type} {keywords : List (String × α)} {default meaning : α} {cs : List Char}
  {word : String}

/-- What is taken off the end of a text, and what it stands for: the longest of the keywords that
end the text, or nothing where none does. -/
inductive TakenOff (keywords : List (String × α)) (default : α) (cs : List Char) :
    String → α → Prop
  | keyword {word : String} {meaning : α} (h : IsLongestEnd keywords cs (word, meaning)) :
      TakenOff keywords default cs word meaning
  | nothing (h : ∀ k ∈ keywords, ¬ k.1.toList <:+ cs) : TakenOff keywords default cs "" default

/-- No keyword that ends the text is longer than what is taken off. -/
theorem TakenOff.length_le (h : TakenOff keywords default cs word meaning) {k : String × α}
    (hk : k ∈ keywords) (hends : k.1.toList <:+ cs) : k.1.length ≤ word.length := by
  cases h with
  | keyword hlongest => exact hlongest.longest k hk hends
  | nothing hnone => exact absurd hends (hnone k hk)

variable (hearlier : keywords.Pairwise fun a b => ¬ a.1.toList <:+ b.1.toList)
include hearlier

/-- What is taken off is the first keyword in the table that ends the text. -/
theorem TakenOff.find?_eq_some_iff (h : TakenOff keywords default cs word meaning)
    (hwords : ∀ k ∈ keywords, k.1 ≠ "") {k : String × α} :
    keywords.find? (·.1.toList.isSuffixOf cs) = some k ↔ word ≠ "" ∧ k = (word, meaning) := by
  cases h with
  | keyword hlongest =>
    rw [(find?_eq_some_iff_isLongestEnd hearlier).2 hlongest]
    simp [hwords _ hlongest.mem, @eq_comm _ k]
  | nothing hnone =>
    have hfind : keywords.find? (·.1.toList.isSuffixOf cs) = none := by
      rw [List.find?_eq_none]
      intro e he hends
      exact hnone e he (List.isSuffixOf_iff_suffix.1 hends)
    simp [hfind]

/-- The reader takes the longest keyword off, or nothing. -/
theorem getD_dropKeyword?_eq_iff {p : List Char} :
    (dropKeyword? keywords cs).getD (cs, default) = (p, meaning) ↔
      ∃ word, TakenOff keywords default cs word meaning ∧ cs = p ++ word.toList := by
  constructor
  · intro h
    cases hdrop : dropKeyword? keywords cs with
    | none =>
      rw [hdrop] at h
      cases h
      exact ⟨"", .nothing (dropKeyword?_eq_none_iff.1 hdrop), by simp⟩
    | some found =>
      rw [hdrop] at h
      subst h
      obtain ⟨word, hfirst, htext⟩ := dropKeyword?_eq_some_iff.1 hdrop
      exact ⟨word, .keyword ((find?_eq_some_iff_isLongestEnd hearlier).1 hfirst), htext⟩
  · rintro ⟨word, htaken, htext⟩
    cases htaken with
    | keyword hlongest =>
      have hfirst := (find?_eq_some_iff_isLongestEnd hearlier).2 hlongest
      rw [dropKeyword?_eq_some_iff.2 ⟨word, hfirst, htext⟩]
      rfl
    | nothing hnone =>
      rw [dropKeyword?_eq_none_iff.2 hnone]
      simpa using htext

end Table

/-! ## The parts of a criterion -/

/-- No keyword for a mode ends with an earlier one. -/
theorem ignoreCaseKeywords_pairwise {α : Type} (mode : α) :
    (ignoreCaseKeywords.map (·, mode)).Pairwise fun a b => ¬ a.1.toList <:+ b.1.toList :=
  List.pairwise_map.2 (modeKeywords_unrelated _ List.mem_cons_self).1

/-- A criterion taken apart. A keyword that it does not have is empty. -/
@[ext] structure TermParts where
  property : String
  /-- The keyword of the operator. -/
  keyword : String
  operator : Operator
  /-- The keyword of a mode of its own. -/
  ending : String
  mode : CaseMode
deriving DecidableEq, Repr

namespace TermParts

/-- The criterion without a mode of its own. -/
def test (p : TermParts) : String :=
  p.property ++ p.keyword

/-- What the parts say. -/
def term (p : TermParts) : Term :=
  ⟨p.property, p.operator, p.mode⟩

/-- The parts that `raw` is taken apart into: one keyword for a mode is taken off, if there is one,
and of what is left the longest keyword for an operator. -/
structure Divides (mode : CaseMode) (raw : String) (p : TermParts) : Prop where
  text_eq : raw = p.test ++ p.ending
  ending : TakenOff (ignoreCaseKeywords.map (·, .always)) mode raw.toList p.ending p.mode
  keyword : TakenOff operatorKeywords .equals p.test.toList p.keyword p.operator

variable {mode : CaseMode} {raw : String} {p q : TermParts}

/-- The division is what the reader comes to, one keyword after the other. -/
theorem divides_iff :
    p.Divides mode raw ↔ raw = p.test ++ p.ending ∧
      (dropKeyword? (ignoreCaseKeywords.map (·, .always)) raw.toList).getD (raw.toList, mode) =
        (p.test.toList, p.mode) ∧
      (dropKeyword? operatorKeywords p.test.toList).getD (p.test.toList, .equals) =
        (p.property.toList, p.operator) := by
  rw [getD_dropKeyword?_eq_iff (ignoreCaseKeywords_pairwise _),
    getD_dropKeyword?_eq_iff operatorKeywords_pairwise]
  constructor
  · rintro ⟨htext, hending, hkeyword⟩
    refine ⟨htext, ⟨p.ending, hending, ?_⟩, ⟨p.keyword, hkeyword, ?_⟩⟩
    · rw [htext, String.toList_append]
    · rw [test, String.toList_append]
  · rintro ⟨htext, ⟨ending, hending, hraw⟩, ⟨keyword, hkeyword, htest⟩⟩
    -- The texts that were taken off are the parts.
    rw [htext, String.toList_append] at hraw
    rw [test, String.toList_append] at htest
    obtain rfl := String.toList_injective (List.append_cancel_left hraw)
    obtain rfl := String.toList_injective (List.append_cancel_left htest)
    exact ⟨htext, hending, hkeyword⟩

/-- Every text has a division. -/
theorem exists_divides (mode : CaseMode) (raw : String) : ∃ p : TermParts, p.Divides mode raw := by
  rcases hmode : (dropKeyword? (ignoreCaseKeywords.map (·, CaseMode.always)) raw.toList).getD
    (raw.toList, mode) with ⟨test, own⟩
  rcases hoperator : (dropKeyword? operatorKeywords test).getD (test, .equals)
    with ⟨property, operator⟩
  obtain ⟨ending, hending, hraw⟩ :=
    (getD_dropKeyword?_eq_iff (ignoreCaseKeywords_pairwise _)).1 hmode
  obtain ⟨keyword, hkeyword, rfl⟩ :=
    (getD_dropKeyword?_eq_iff operatorKeywords_pairwise).1 hoperator
  refine ⟨⟨String.ofList property, keyword, operator, ending, own⟩, ?_, hending, ?_⟩
  · apply String.toList_injective
    simp [hraw, test]
  · simpa [test] using hkeyword

/-- The text and the mode decide about the parts. -/
theorem Divides.unique (hp : p.Divides mode raw) (hq : q.Divides mode raw) : p = q := by
  -- Both divisions are what the reader comes to, for the mode first and then for the operator.
  obtain ⟨hpraw, hpmode, hpoperator⟩ := divides_iff.1 hp
  obtain ⟨hqraw, hqmode, hqoperator⟩ := divides_iff.1 hq
  have hmode := Prod.ext_iff.1 (hpmode.symm.trans hqmode)
  have htest : p.test = q.test := String.toList_injective hmode.1
  rw [htest, hqoperator] at hpoperator
  have hoperator := Prod.ext_iff.1 hpoperator
  have hproperty : p.property = q.property := String.toList_injective hoperator.1.symm
  have hending : p.ending = q.ending := by
    rw [hpraw, htest] at hqraw
    exact (String.append_right_inj _).1 hqraw
  have hkeyword : p.keyword = q.keyword := by
    rw [test, test, hproperty] at htest
    exact (String.append_right_inj _).1 htest
  exact TermParts.ext hproperty hkeyword hoperator.2.symm hending hmode.2

/-- A text has one division. -/
theorem exists_divides_iff (mode : CaseMode) (raw : String) :
    ∃ p : TermParts, p.Divides mode raw ∧ ∀ q : TermParts, q.Divides mode raw ↔ q = p := by
  obtain ⟨p, hp⟩ := exists_divides mode raw
  refine ⟨p, hp, fun q => ⟨fun hq => hq.unique hp, ?_⟩⟩
  rintro rfl
  exact hp

/-! ## What is read of the parts -/

/-- The parts decide what is read. -/
theorem Divides.readTerm_eq (hp : p.Divides mode raw) :
    readTerm mode raw.toList =
      if p.property.toList.isEmpty then .error (.missingProperty raw)
      else if !isCapitalised p.property.toList then .error (.uncapitalisedProperty p.property)
      else .ok p.term := by
  obtain ⟨-, hmode, hoperator⟩ := divides_iff.1 hp
  unfold readTerm
  rw [hmode]
  simp only [hoperator, String.ofList_toList]
  rfl

/-- A criterion is read when its property begins with a capital, and is refused otherwise. -/
theorem Divides.readTerm_eq_ok_iff (hp : p.Divides mode raw) (t : Term) :
    readTerm mode raw.toList = .ok t ↔ IsProperty p.property ∧ t = p.term := by
  rw [hp.readTerm_eq, isProperty_iff]
  cases hproperty : p.property.toList with
  | nil => simp [isCapitalised]
  | cons c cs => cases hcapital : isCapitalised (c :: cs) <;> simp [@eq_comm _ t]

theorem Divides.readTerm_eq_error_iff (hp : p.Divides mode raw) (fault : NameFault) :
    readTerm mode raw.toList = .error fault ↔
      p.property = "" ∧ fault = .missingProperty raw ∨
        p.property ≠ "" ∧ ¬ IsProperty p.property ∧ fault = .uncapitalisedProperty p.property := by
  rw [hp.readTerm_eq, isProperty_iff, ne_eq, ← String.toList_eq_nil_iff]
  cases hproperty : p.property.toList with
  | nil => simp [@eq_comm _ fault]
  | cons c cs => cases hcapital : isCapitalised (c :: cs) <;> simp [@eq_comm _ fault]

/-- With the end of the property in front of it, the keyword would be longer. -/
theorem Divides.not_mem_operatorKeywords (hp : p.Divides mode raw) {longer : String}
    (hne : longer ≠ "") (hends : longer.toList <:+ p.property.toList) :
    longer ++ p.keyword ∉ operatorKeywords.map (·.1) := by
  intro hmem
  obtain ⟨entry, hentry, hword⟩ := List.mem_map.1 hmem
  have hsuffix : entry.1.toList <:+ p.test.toList := by
    obtain ⟨front, hfront⟩ := hends
    refine ⟨front, ?_⟩
    rw [hword, test, String.toList_append, String.toList_append, ← hfront, List.append_assoc]
  have hlength := hp.keyword.length_le hentry hsuffix
  rw [hword, String.length_append] at hlength
  have hzero : longer.length = 0 := by omega
  exact hne (String.length_eq_zero_iff.1 hzero)

end TermParts

/-- Every criterion is taken apart in one way: at most one keyword for a mode of its own is taken
off, and then the longest of the keywords for operators that end the rest, which is the first in the
table, or none, for equality. The criterion is read when the property that is left begins with a
capital; it is refused just when that property is empty or begins with another character. No end of
the property makes another keyword with the one that was taken off. -/
theorem readTerm_longest (mode : CaseMode) (raw : String) :
    ∃ p : TermParts, (∀ q : TermParts, q.Divides mode raw ↔ q = p) ∧
      (∀ entry, operatorKeywords.find? (·.1.toList.isSuffixOf p.test.toList) = some entry ↔
        p.keyword ≠ "" ∧ entry = (p.keyword, p.operator)) ∧
      (∀ t, readTerm mode raw.toList = .ok t ↔ IsProperty p.property ∧ t = p.term) ∧
      (∀ fault, readTerm mode raw.toList = .error fault ↔
        p.property = "" ∧ fault = .missingProperty raw ∨
          p.property ≠ "" ∧ ¬ IsProperty p.property ∧
            fault = .uncapitalisedProperty p.property) ∧
      ∀ longer : String, longer ≠ "" → longer.toList <:+ p.property.toList →
        longer ++ p.keyword ∉ operatorKeywords.map (·.1) := by
  obtain ⟨p, hp, hunique⟩ := TermParts.exists_divides_iff mode raw
  have hwords : ∀ k ∈ operatorKeywords, k.1 ≠ "" := by
    decide
  exact ⟨p, hunique, fun _ => hp.keyword.find?_eq_some_iff operatorKeywords_pairwise hwords,
    hp.readTerm_eq_ok_iff, hp.readTerm_eq_error_iff, fun _ => hp.not_mem_operatorKeywords⟩

/-- The keyword that is taken off is the longest, although the property ends with a keyword too. -/
theorem readTerm_longest_notIn :
    readTerm .never "IsNotNotInIgnoreCase".toList = .ok ⟨"IsNot", .notIn, .always⟩ ∧
      "Not".toList <:+ "IsNot".toList ∧ "Not" ++ "NotIn" ∉ operatorKeywords.map (·.1) := by
  obtain ⟨p, hdivides, -, hread, -, hlonger⟩ := readTerm_longest .never "IsNotNotInIgnoreCase"
  have hparts : TermParts.Divides .never "IsNotNotInIgnoreCase"
      ⟨"IsNot", "NotIn", .notIn, "IgnoreCase", .always⟩ :=
    ⟨by decide, .keyword ⟨by decide, by decide, by decide⟩,
      .keyword ⟨by decide, by decide, by decide +kernel⟩⟩
  obtain rfl := (hdivides _).1 hparts
  have hends : "Not".toList <:+ "IsNot".toList := by
    decide
  have hproperty : IsProperty "IsNot" := isProperty_iff.2 (by decide)
  exact ⟨(hread _).2 ⟨hproperty, rfl⟩, hends, hlonger "Not" (by decide) hends⟩

end DerivedQuery.MethodName
