import DerivedQuery.MethodName.Keyword
import DerivedQuery.Proofs.Text.Position

/-!
# Cutting undoes joining

A name is cut at a keyword where a capital follows the keyword. Pieces between which the keyword
was put are found again when it opens at no position of a piece, be it inside the piece or at its
end, where it runs on into what follows.

* `Opens`, `Quiet`: the keyword stands here, before a capital; it does so nowhere in a piece.
* `cutFrom_quiet`, `cutFrom_keyword`: a piece is passed over, and a keyword behind it is found.
* `cutAtKeyword_intercalate`: joined pieces are cut at their joints.
-/

namespace DerivedQuery.MethodName

open Text

/-- The keyword stands here, before a capital. -/
def Opens (keyword : String) (cs : List Char) : Prop :=
  ∃ c rest, cs = keyword.toList ++ c :: rest ∧ isUppercase c = true

/-- The keyword opens at no position of `t`, where `rest` follows. -/
abbrev Quiet (keyword : String) (t rest : List Char) : Prop :=
  Throughout (fun cs => ¬ Opens keyword cs) t rest

variable {keyword : String}

/-- A keyword cuts behind a letter or a number, and before a capital. -/
theorem standsAt_iff {before : Option Char} {cs : List Char} :
    standsAt keyword before cs = true ↔
      before.any isAlphanumeric = true ∧ Opens keyword cs := by
  unfold standsAt Opens
  cases hdrop : dropStart? keyword cs with
  | none =>
    simp only [Bool.false_eq_true, false_iff, not_and, not_exists]
    rintro - c rest rfl -
    rw [dropStart?_eq_some_iff.2 rfl] at hdrop
    cases hdrop
  | some rest =>
    rw [dropStart?_eq_some_iff] at hdrop
    subst hdrop
    simp only [Bool.and_eq_true, List.append_cancel_left_eq]
    cases rest with
    | nil => simp
    | cons c rest => simp

/-- There is a piece, even of nothing. -/
theorem cutFrom_ne_nil (before : Option Char) (skip : Nat) (cs : List Char) :
    cutFrom keyword before skip cs ≠ [] := by
  induction cs generalizing before skip with
  | nil => cases skip <;> simp [cutFrom]
  | cons c cs ih =>
    cases skip with
    | succ skip => exact ih _ _
    | zero =>
      unfold cutFrom
      split
      · simp
      · split <;> simp

/-- The last character so far, when one character more is passed over. -/
theorem getLast?_or_some (c : Char) (t : List Char) (before : Option Char) :
    (c :: t).getLast?.or before = t.getLast?.or (some c) := by
  cases t <;> simp [List.getLast?_cons]

/-- A quiet piece is part of the first piece that is found. -/
theorem cutFrom_quiet {t rest : List Char} (h : Quiet keyword t rest) (before : Option Char) :
    cutFrom keyword before 0 (t ++ rest) =
      (cutFrom keyword (t.getLast?.or before) 0 rest).modifyHead (t ++ ·) := by
  induction t generalizing before with
  | nil =>
    simp only [List.nil_append, List.getLast?_nil, Option.none_or]
    cases cutFrom keyword before 0 rest <;> rfl
  | cons c t ih =>
    rcases h with ⟨hhere, hlater⟩
    -- The keyword does not stand at `c`, which so becomes part of the first piece.
    have hno : standsAt keyword before (c :: (t ++ rest)) = false := by
      rw [Bool.eq_false_iff]
      intro hstands
      exact hhere (standsAt_iff.1 hstands).2
    rw [List.cons_append, cutFrom, if_neg (by simp [hno]), ih hlater,
      ← getLast?_or_some c t before]
    cases hcut : cutFrom keyword ((c :: t).getLast?.or before) 0 rest with
    | nil => exact absurd hcut (cutFrom_ne_nil _ _ _)
    | cons p ps => rfl

/-- What is left of a keyword is passed over. -/
theorem cutFrom_skip (t rest : List Char) (before : Option Char) :
    cutFrom keyword before t.length (t ++ rest) =
      cutFrom keyword (t.getLast?.or before) 0 rest := by
  induction t generalizing before with
  | nil => simp
  | cons c t ih =>
    rw [List.length_cons, List.cons_append, cutFrom, ih, getLast?_or_some]

/-- A keyword behind a letter or a number, and before a capital, is found. -/
theorem cutFrom_keyword (hkeyword : keyword.toList ≠ []) {before : Option Char}
    (hbefore : before.any isAlphanumeric = true) {cs : List Char}
    (hcs : cs.head?.any isUppercase = true) :
    ∃ last, cutFrom keyword before 0 (keyword.toList ++ cs) =
      [] :: cutFrom keyword last 0 cs := by
  obtain ⟨c, cs, rfl⟩ : ∃ c cs', cs = c :: cs' := by
    cases cs with
    | nil => simp at hcs
    | cons c cs => exact ⟨c, cs, rfl⟩
  have hopens : Opens keyword (keyword.toList ++ c :: cs) :=
    ⟨c, cs, rfl, by simpa using hcs⟩
  have hstands := standsAt_iff.2 ⟨hbefore, hopens⟩
  have hlength : keyword.length = keyword.toList.length := String.length_toList.symm
  cases hk : keyword.toList with
  | nil => exact absurd hk hkeyword
  -- The rest of the keyword is still to be passed over once its first character was taken.
  | cons k ks =>
    rw [hk] at hstands hlength
    refine ⟨ks.getLast?.or (some k), ?_⟩
    rw [List.cons_append] at hstands ⊢
    rw [cutFrom, if_pos hstands, hlength, List.length_cons, Nat.add_sub_cancel, cutFrom_skip]

/-- What may stand between two keywords: it begins with a capital, ends with a letter or a number,
and the keyword does not open in it, whether it stands at the end or before the keyword. -/
structure IsPiece (keyword : String) (p : List Char) : Prop where
  capital : p.head?.any isUppercase = true
  ending : p.getLast?.any isAlphanumeric = true
  quiet : Quiet keyword p []
  quiet_before : ∀ rest, Quiet keyword p (keyword.toList ++ rest)

/-- Joined pieces are cut at their joints. -/
theorem cutFrom_intercalate (hkeyword : keyword.toList ≠ []) {pieces : List (List Char)}
    (hne : pieces ≠ []) (h : ∀ p ∈ pieces, IsPiece keyword p) (before : Option Char) :
    cutFrom keyword before 0 (keyword.toList.intercalate pieces) = pieces := by
  induction pieces generalizing before with
  | nil => exact absurd rfl hne
  | cons p ps ih =>
    have hp := h p List.mem_cons_self
    have hps (q : List Char) (hq : q ∈ ps) : IsPiece keyword q := h q (List.mem_cons_of_mem p hq)
    cases ps with
    | nil =>
      -- The last piece runs to the end of the text.
      have hquiet := cutFrom_quiet hp.quiet before
      simpa [cutFrom] using hquiet
    | cons q qs =>
      -- Behind a piece stands the keyword, and behind that the capital of the next piece.
      have hnext := (hps q List.mem_cons_self).capital
      have hcapital : (keyword.toList.intercalate (q :: qs)).head?.any isUppercase = true := by
        cases q with
        | nil => simp at hnext
        | cons c q => cases qs <;> simpa [List.intercalate_cons_cons] using hnext
      have hbefore : (p.getLast?.or before).any isAlphanumeric = true := by
        have hlast := hp.ending
        cases hp : p.getLast? with
        | none => simp [hp] at hlast
        | some c => simpa [hp] using hlast
      rcases cutFrom_keyword hkeyword hbefore hcapital with ⟨last, hcut⟩
      have hrest := ih (by simp) hps last
      rw [List.intercalate_cons_cons, List.append_assoc, cutFrom_quiet (hp.quiet_before _), hcut,
        hrest]
      simp

/-- Joined pieces are cut at their joints, from the beginning of the text. -/
theorem cutAtKeyword_intercalate (hkeyword : keyword.toList ≠ []) {pieces : List (List Char)}
    (hne : pieces ≠ []) (h : ∀ p ∈ pieces, IsPiece keyword p) :
    cutAtKeyword keyword (keyword.toList.intercalate pieces) = pieces :=
  cutFrom_intercalate hkeyword hne h none

end DerivedQuery.MethodName
