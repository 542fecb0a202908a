import DerivedQuery.Proofs.MethodName.Cutting
import DerivedQuery.Proofs.MethodName.Spelling
import DerivedQuery.Proofs.Text.Ascii

/-!
# Words and keywords next to each other

Where two parts of a name meet, no keyword comes about: a keyword that begins in one part and ends
in the next would go on with a small letter or with `By`, and no part begins so after a word.

* `Resumes`: how the text goes on behind a word.
* `IsFixed`: a fixed part in which a keyword cannot begin, whatever follows.
* `Closed`: a part at which a name is not cut; words are closed (`closed_word`), and closed parts
  stay closed with a fixed part behind them or a joint between them.
-/

namespace DerivedQuery.MethodName

open Text

/-! ## What follows a word -/

/-- The text ends here, or goes on with a capital, but not with `By`. -/
def Resumes (cs : List Char) : Prop :=
  cs.head?.all Char.isUpper = true ∧ ¬ "By".toList <+: cs

theorem resumes_nil : Resumes [] := by
  simp [Resumes]

/-- A fixed part, of two letters at least, behind which the text may follow. -/
def isResumption (t : List Char) : Bool :=
  t.head?.any Char.isUpper && 2 ≤ t.length && !"By".toList.isPrefixOf t

theorem resumes_append {t : List Char} (h : isResumption t = true) (rest : List Char) :
    Resumes (t ++ rest) := by
  simp only [isResumption, Bool.and_eq_true, decide_eq_true_eq, Bool.not_eq_true'] at h
  rcases h with ⟨⟨hcapital, hlength⟩, hby⟩
  constructor
  · cases t with
    | nil => simp at hcapital
    | cons c t => simpa using hcapital
  · intro hbegins
    have hshort : "By".toList <+: t :=
      List.prefix_of_prefix_length_le hbegins (List.prefix_append t rest) hlength
    rw [List.isPrefixOf_iff_prefix.2 hshort] at hby
    cases hby

/-- A keyword that begins inside a part does not go on as the text does behind a word. -/
theorem not_resumes_of_cut {keyword : String} (hkeyword : keyword ∈ cuttingKeywords)
    {b a rest : List Char} (hb : b ≠ []) (ha : a ≠ []) (h : keyword.toList = b ++ a) :
    ¬ Resumes (a ++ rest) := by
  -- Behind its first letter, a keyword goes on with a small letter or with `By`.
  have htail : ∀ keyword ∈ cuttingKeywords,
      Throughout (fun a => a.head?.any Char.isUpper = false ∨ a = "By".toList)
        keyword.toList.tail [] := by
    decide
  have hend := (htail keyword hkeyword).of_suffix (suffix_tail_of_append hb h) ha
  rw [List.append_nil] at hend
  intro hresumes
  rcases hend with hsmall | rfl
  · cases a with
    | nil => exact ha rfl
    | cons x a =>
      have hcapital : x.isUpper = true := by simpa using hresumes.1
      simp [hcapital] at hsmall
  · exact hresumes.2 (List.prefix_append _ rest)

/-! ## Fixed parts -/

/-- The keyword occurs in the text, or its beginning at the end of the text. -/
def beginsIn (keyword : List Char) : List Char → Bool
  | [] => false
  | c :: cs =>
    keyword.isPrefixOf (c :: cs) || (c :: cs).isPrefixOf keyword || beginsIn keyword cs

/-- No keyword opens in a part in which none begins, whatever follows. -/
theorem quiet_of_not_beginsIn {keyword : String} {t : List Char}
    (h : beginsIn keyword.toList t = false) (rest : List Char) : Quiet keyword t rest := by
  induction t with
  | nil => trivial
  | cons c t ih =>
    simp only [beginsIn, Bool.or_eq_false_iff] at h
    rcases h with ⟨⟨hlong, hshort⟩, hlater⟩
    refine ⟨?_, ih hlater⟩
    rintro ⟨d, cs, heq, -⟩
    rw [← List.cons_append] at heq
    -- The keyword ends behind the part, or inside it.
    rcases List.append_eq_append_iff.1 heq with ⟨a, ha, -⟩ | ⟨a, ha, -⟩
    · have hbegins : (c :: t).isPrefixOf keyword.toList = true :=
        List.isPrefixOf_iff_prefix.2 ⟨a, ha.symm⟩
      rw [hbegins] at hshort
      cases hshort
    · have hbegins : keyword.toList.isPrefixOf (c :: t) = true :=
        List.isPrefixOf_iff_prefix.2 ⟨a, ha.symm⟩
      rw [hbegins] at hlong
      cases hlong

/-- A part that may follow a word, ends with a letter, and in which the keyword does not begin. -/
def isFixed (keyword : String) (t : List Char) : Bool :=
  isResumption t && t.getLast?.any Char.isAlphanum && !beginsIn keyword.toList t

/-! ## Closed parts -/

/-- A part at which a name is not cut. -/
structure Closed (keyword : String) (p : List Char) : Prop where
  capital : p.head?.any Char.isUpper = true
  ending : p.getLast?.any Char.isAlphanum = true
  quiet : ∀ rest, Resumes rest → Quiet keyword p rest

variable {keyword : String}

theorem Closed.ne_nil {p : List Char} (h : Closed keyword p) : p ≠ [] := by
  rintro rfl
  have hcapital := h.capital
  simp at hcapital

theorem isResumption_keyword (h : keyword ∈ cuttingKeywords) :
    isResumption keyword.toList = true := by
  revert keyword
  decide

theorem Closed.isPiece {p : List Char} (h : Closed keyword p) (hkeyword : keyword ∈ cuttingKeywords) :
    IsPiece keyword p where
  capital := by
    cases p with
    | nil => exact absurd rfl h.ne_nil
    | cons c p =>
      have hc : c.isUpper = true := by simpa using h.capital
      simpa using isUppercase_of_isUpper hc
  ending := by
    rcases (Option.any_eq_true _ _).1 h.ending with ⟨c, hlast, hc⟩
    simp [hlast, isAlphanumeric_of_isAlphanum hc]
  quiet := h.quiet [] resumes_nil
  quiet_before rest := h.quiet _ (resumes_append (isResumption_keyword hkeyword) rest)

/-- A closed part and a fixed one behind it are quiet, whatever follows. -/
theorem Closed.quiet_fixed {p t : List Char} (hp : Closed keyword p) (ht : isFixed keyword t = true)
    (rest : List Char) : Quiet keyword (p ++ t) rest := by
  simp only [isFixed, Bool.and_eq_true, Bool.not_eq_true'] at ht
  exact (throughout_append p t rest).2
    ⟨hp.quiet _ (resumes_append ht.1.1 rest), quiet_of_not_beginsIn ht.2 rest⟩

theorem Closed.append_fixed {p t : List Char} (hp : Closed keyword p)
    (ht : isFixed keyword t = true) : Closed keyword (p ++ t) where
  capital := by
    cases p with
    | nil => exact absurd rfl hp.ne_nil
    | cons c p => simpa using hp.capital
  ending := by
    simp only [isFixed, Bool.and_eq_true] at ht
    rcases (Option.any_eq_true _ _).1 ht.1.2 with ⟨c, hlast, hc⟩
    simp [List.getLast?_append, hlast, hc]
  quiet rest _ := hp.quiet_fixed ht rest

/-- A closed part behind a part that is quiet whatever follows. -/
theorem Closed.append {p q : List Char} (hcapital : p.head?.any Char.isUpper = true)
    (hp : ∀ rest, Quiet keyword p (q ++ rest))
    (hq : Closed keyword q) : Closed keyword (p ++ q) where
  capital := by
    cases p with
    | nil => simp at hcapital
    | cons c p => simpa using hcapital
  ending := by
    rcases (Option.any_eq_true _ _).1 hq.ending with ⟨c, hlast, hc⟩
    simp [List.getLast?_append, hlast, hc]
  quiet rest hrest := (throughout_append p q rest).2 ⟨hp rest, hq.quiet rest hrest⟩

/-- Closed parts with a joint between them are closed, where the keyword does not begin in the joint
or go on with a capital behind it. -/
theorem closed_intercalate {joint : List Char} (hjoint : isResumption joint = true)
    (hquiet : ∀ cs, cs.head?.any Char.isUpper = true → Quiet keyword joint cs)
    {pieces : List (List Char)} (hne : pieces ≠ []) (h : ∀ p ∈ pieces, Closed keyword p) :
    Closed keyword (joint.intercalate pieces) := by
  induction pieces with
  | nil => exact absurd rfl hne
  | cons p ps ih =>
    have hp := h p List.mem_cons_self
    cases ps with
    | nil => simpa using hp
    | cons q qs =>
      have hrest := ih (by simp) fun r hr => h r (List.mem_cons_of_mem p hr)
      rw [List.intercalate_cons_cons]
      -- The first part and the joint are quiet before the capital of the next part.
      refine Closed.append ?_ ?_ hrest
      · cases p with
        | nil => exact absurd rfl hp.ne_nil
        | cons c p => simpa using hp.capital
      · intro rest
        refine (throughout_append p joint _).2 ⟨hp.quiet _ (resumes_append hjoint _), ?_⟩
        apply hquiet
        have hcapital := hrest.capital
        cases hcs : joint.intercalate (q :: qs) with
        | nil => simp [hcs] at hcapital
        | cons c cs => simpa [hcs] using hcapital

/-! ## Words -/

theorem isSafeWord_iff {cs : List Char} :
    isSafeWord cs = true ↔
      cs.head?.any Char.isUpper = true ∧ (∀ c ∈ cs, c.isAlphanum = true ∨ c = '_') ∧
        cs.getLast?.any Char.isAlphanum = true ∧
          (∀ k ∈ cuttingKeywords, occursOpen k cs = false) ∧
            ∀ k ∈ endingKeywords, ¬ k.toList <:+ cs := by
  simp [isSafeWord, and_assoc, List.isSuffixOf_iff_suffix, ← Bool.not_eq_true]

theorem isSafeWord_of_isSafeKey {cs : List Char} (h : isSafeKey cs = true) :
    isSafeWord cs = true := by
  simp only [isSafeKey, Bool.and_eq_true] at h
  exact h.1

theorem word_ne_nil {cs : List Char} (h : isSafeWord cs = true) : cs ≠ [] := by
  rintro rfl
  simp [isSafeWord] at h

theorem isCapitalised_word {cs : List Char} (h : isSafeWord cs = true) :
    isCapitalised cs = true := by
  rcases (Option.any_eq_true _ _).1 (isSafeWord_iff.1 h).1 with ⟨c, hc, hupper⟩
  simp [isCapitalised, hc, isUppercase_of_isUpper hupper]

/-- The characters of a safe word are ASCII. -/
theorem toNat_lt_of_mem_word {cs : List Char} (h : isSafeWord cs = true) :
    ∀ c ∈ cs, c.toNat < 0x80 := by
  intro c hc
  rcases (isSafeWord_iff.1 h).2.1 c hc with halpha | rfl
  · have hrange := isAlphanum_iff.1 halpha
    omega
  · decide

/-- Behind an occurrence of the keyword, the text goes on, and not with a capital. -/
theorem not_capital_of_not_occursOpen {cs b rest : List Char} (h : occursOpen keyword cs = false)
    (hb : b <:+ cs) (hne : b ≠ []) (hoccurs : b = keyword.toList ++ rest) :
    rest.head?.all Char.isUpper = false := by
  rcases hb with ⟨a, rfl⟩
  induction a with
  | nil =>
    cases b with
    | nil => exact absurd rfl hne
    | cons c b =>
      simp only [List.nil_append, occursOpen, Bool.or_eq_false_iff] at h
      simpa [dropStart?_eq_some_iff.2 hoccurs] using h.1
  | cons c a ih =>
    simp only [List.cons_append, occursOpen, Bool.or_eq_false_iff] at h
    exact ih h.2

/-- A name is not cut at a safe word: not inside it, nor where it runs on into the text behind. -/
theorem closed_word {cs : List Char} (h : isSafeWord cs = true) (hkeyword : keyword ∈ cuttingKeywords) :
    Closed keyword cs := by
  have hascii := toNat_lt_of_mem_word h
  rcases isSafeWord_iff.1 h with ⟨hcapital, -, hending, hcutting, -⟩
  refine ⟨hcapital, hending, ?_⟩
  intro rest hrest
  apply throughout_iff.2
  rintro b hb hne ⟨c, cs', heq, hc⟩
  have hopen (tail : List Char) (hoccurs : b = keyword.toList ++ tail) :
      tail.head?.all Char.isUpper = false :=
    not_capital_of_not_occursOpen (hcutting keyword hkeyword) hb hne hoccurs
  rcases List.append_eq_append_iff.1 heq with ⟨a, hkey, hrest'⟩ | ⟨a, hkey, hrest'⟩
  · -- The keyword ends behind the word, or with it.
    by_cases ha : a = []
    · subst ha
      have hend := hopen [] (by simpa using hkey.symm)
      simp at hend
    · rw [hrest'] at hrest
      exact not_resumes_of_cut hkeyword hne ha hkey hrest
  · -- The keyword ends inside the word.
    have hinside := hopen a hkey
    cases a with
    | nil => simp at hinside
    | cons d a =>
      simp only [List.cons_append, List.cons.injEq] at hrest'
      rcases hrest' with ⟨rfl, -⟩
      have hmem : c ∈ cs := by
        apply hb.subset
        rw [hkey]
        simp
      rw [isUppercase_of_ascii (hascii c hmem)] at hc
      simp [hc] at hinside

end DerivedQuery.MethodName
