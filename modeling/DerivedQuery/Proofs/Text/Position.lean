import DerivedQuery.Text.Scan

/-!
# What holds at every position of a text

A scanner that looks for a clause tries every position of a text, and what it sees there runs on
behind the piece of text that is being written. So a property of positions is stated of a piece
together with what follows it:

* `Throughout P t rest`: `P` holds of what can be read from each position of `t`, where `rest`
  follows `t`. It takes a text apart along `++` (`throughout_append`).
* `exists_of_somewhere`: where a test that succeeds somewhere succeeds.
* `exists_blank_of_space`: white space that is passed over ends with a blank.
-/

namespace DerivedQuery.Text

/-- `P` holds of what can be read from each position of `t`, where `rest` follows `t`. -/
def Throughout (P : List Char → Prop) : List Char → List Char → Prop
  | [], _ => True
  | c :: t, rest => P (c :: (t ++ rest)) ∧ Throughout P t rest

variable {P : List Char → Prop}

@[simp] theorem throughout_nil (rest : List Char) : Throughout P [] rest :=
  trivial

@[simp] theorem throughout_cons (c : Char) (t rest : List Char) :
    Throughout P (c :: t) rest ↔ P (c :: (t ++ rest)) ∧ Throughout P t rest :=
  Iff.rfl

instance Throughout.decidable [DecidablePred P] :
    (t rest : List Char) → Decidable (Throughout P t rest)
  | [], _ => .isTrue trivial
  | c :: t, rest =>
    have := Throughout.decidable t rest
    inferInstanceAs (Decidable (P (c :: (t ++ rest)) ∧ Throughout P t rest))

/-- A piece made of two is read on from the first into the second. -/
@[simp] theorem throughout_append (t u rest : List Char) :
    Throughout P (t ++ u) rest ↔ Throughout P t (u ++ rest) ∧ Throughout P u rest := by
  induction t with
  | nil => simp
  | cons c t ih => simp [ih, and_assoc]

/-- The positions of a text are its ends that are not empty. -/
theorem Throughout.of_suffix {t rest b : List Char} (h : Throughout P t rest) (hb : b <:+ t)
    (hne : b ≠ []) : P (b ++ rest) := by
  rcases hb with ⟨a, rfl⟩
  have hthroughout : Throughout P b rest := ((throughout_append a b rest).1 h).2
  cases b with
  | nil => exact absurd rfl hne
  | cons c b => exact hthroughout.1

/-- What follows a beginning of a text follows its first character somewhere. -/
theorem suffix_tail_of_append {t a b : List Char} (hb : b ≠ []) (h : t = b ++ a) :
    a <:+ t.tail := by
  cases b with
  | nil => exact absurd rfl hb
  | cons c b =>
    rw [h]
    exact List.suffix_append b a

theorem throughout_iff {t rest : List Char} :
    Throughout P t rest ↔ ∀ b, b <:+ t → b ≠ [] → P (b ++ rest) := by
  constructor
  · intro h b hb hne
    exact h.of_suffix hb hne
  · intro h
    induction t with
    | nil => trivial
    | cons c t ih =>
      refine ⟨h (c :: t) List.suffix_rfl (List.cons_ne_nil c t), ih ?_⟩
      intro b hb hne
      exact h b (hb.trans (List.suffix_cons c t)) hne

theorem Throughout.imp {Q : List Char → Prop} (himp : ∀ cs, P cs → Q cs) {t rest : List Char}
    (h : Throughout P t rest) : Throughout Q t rest := by
  induction t with
  | nil => trivial
  | cons c t ih => exact ⟨himp _ h.1, ih h.2⟩

/-- A property that depends on the first character only, and holds of each character. -/
theorem throughout_of_forall {t rest : List Char} (h : ∀ c ∈ t, ∀ cs, P (c :: cs)) :
    Throughout P t rest := by
  induction t with
  | nil => trivial
  | cons c t ih =>
    refine ⟨h c List.mem_cons_self _, ih ?_⟩
    intro d hd
    exact h d (List.mem_cons_of_mem c hd)

/-- A test that succeeds somewhere succeeds at some end of the text. -/
theorem exists_of_somewhere {test : Option Char → List Char → Bool} {before : Option Char}
    {cs : List Char} (h : somewhere test before cs = true) :
    ∃ b end', end' <:+ cs ∧ test b end' = true := by
  induction cs generalizing before with
  | nil => exact ⟨before, [], List.suffix_rfl, h⟩
  | cons c cs ih =>
    simp only [somewhere, Bool.or_eq_true] at h
    rcases h with hhere | hlater
    · exact ⟨before, c :: cs, List.suffix_rfl, hhere⟩
    · rcases ih hlater with ⟨b, end', hsuffix, htest⟩
      exact ⟨b, end', hsuffix.trans (List.suffix_cons c cs), htest⟩

/-- White space that is passed over ends with a blank, in front of what is left. -/
theorem exists_blank_of_trimStart (c : Char) (cs : List Char) (hc : isBlank c = true) :
    ∃ d, isBlank d = true ∧ d :: trimStart cs <:+ c :: cs := by
  induction cs generalizing c with
  | nil => exact ⟨c, hc, List.suffix_rfl⟩
  | cons e cs ih =>
    -- If the next character is a blank too, it takes the place of `c`.
    by_cases he : isBlank e = true
    · rcases ih e he with ⟨d, hd, hsuffix⟩
      refine ⟨d, hd, ?_⟩
      rw [trimStart, List.dropWhile_cons_of_pos he]
      exact hsuffix.trans (List.suffix_cons c (e :: cs))
    · exact ⟨c, hc, by simp [trimStart, List.dropWhile_cons_of_neg he]⟩

theorem exists_blank_of_space {cs rest : List Char} (h : space cs = some rest) :
    ∃ d, isBlank d = true ∧ d :: rest <:+ cs := by
  cases cs with
  | nil => simp [space] at h
  | cons c cs =>
    simp only [space] at h
    split at h
    · next hc =>
      cases h
      exact exists_blank_of_trimStart c cs hc
    · cases h

end DerivedQuery.Text
