import DerivedQuery.Proofs.Text.Position
import DerivedQuery.Statement.Extension

/-!
# Statements without clauses at their end

`ORDER BY` and a `LIMIT` at the end are recognised by a word behind white space. A text in which no
such word stands behind white space has neither clause, so a sort order is simply appended to it.

* `BeginsPlain`, `Plain`: what can be read here, or behind a blank here, is neither `BY` nor `LIMIT`.
* `Unordered`: what can be read behind a blank here is no `BY`.
* `orderBy_of_plain`: an order is appended to a plain text.
-/

namespace DerivedQuery.Statement

open Text

/-- Neither `BY` nor `LIMIT` begins here. -/
def BeginsPlain (cs : List Char) : Prop :=
  keyword "BY" cs = none ∧ keyword "LIMIT" cs = none

/-- If a blank stands here, neither `BY` nor `LIMIT` follows it. -/
def Plain : List Char → Prop
  | [] => True
  | c :: cs => isBlank c = true → BeginsPlain cs

theorem beginsPlain_cons {c : Char} (hb : foldsTo 'B' c = false) (hl : foldsTo 'L' c = false)
    (cs : List Char) : BeginsPlain (c :: cs) := by
  simp [BeginsPlain, keyword, keywordChars, hb, hl]

/-- A piece without white space is plain, whatever follows it. -/
theorem plain_of_solid {t rest : List Char} (h : ∀ c ∈ t, isBlank c = false) :
    Throughout Plain t rest := by
  apply throughout_of_forall
  intro c hc cs hblank
  rw [h c hc] at hblank
  cases hblank

/-- If a blank stands here, no `BY` follows it. -/
def Unordered : List Char → Prop
  | [] => True
  | c :: cs => isBlank c = true → keyword "BY" cs = none

theorem Plain.unordered {cs : List Char} (h : Plain cs) : Unordered cs := by
  cases cs with
  | nil => trivial
  | cons c cs =>
    intro hblank
    exact (h hblank).1

theorem hasOrderBy_of_unordered {s : Statement} (h : Throughout Unordered s.text.toList []) :
    s.hasOrderBy = false := by
  rw [Bool.eq_false_iff]
  intro horder
  rcases exists_of_somewhere horder with ⟨before, cs, hcs, hat⟩
  simp only [orderByAt, Bool.and_eq_true] at hat
  -- `ORDER`, white space, and `BY` behind its last blank
  rcases (Option.any_eq_true _ _).1 hat.2 with ⟨rest, hrest, -⟩
  simp only [Option.bind_eq_bind, Option.bind_eq_some_iff] at hrest
  rcases hrest with ⟨behind, ⟨blanks, hkeyword, hspace⟩, hby⟩
  rcases exists_blank_of_space hspace with ⟨d, hd, hsuffix⟩
  have hend : d :: behind <:+ s.text.toList :=
    hsuffix.trans ((keywordChars_suffix hkeyword).trans hcs)
  have hnone := h.of_suffix hend (List.cons_ne_nil d behind)
  rw [List.append_nil] at hnone
  rw [hnone hd] at hby
  cases hby

theorem hasOrderBy_of_plain {s : Statement} (h : Throughout Plain s.text.toList []) :
    s.hasOrderBy = false :=
  hasOrderBy_of_unordered (h.imp fun _ => Plain.unordered)

theorem isTrailingLimit_of_plain {cs : List Char} (h : Throughout Plain cs []) :
    isTrailingLimit cs = false := by
  unfold isTrailingLimit
  cases hspace : space cs with
  | none => rfl
  | some rest =>
    -- A limit would stand behind the last blank of this white space.
    rcases exists_blank_of_space hspace with ⟨d, hd, hsuffix⟩
    have hplain := h.of_suffix hsuffix (List.cons_ne_nil d rest)
    rw [List.append_nil] at hplain
    have hlimit : limitDigits? rest = none := by
      simp [limitDigits?, (hplain hd).2]
    simp [hlimit]

theorem splitTrailingLimit_of_plain {cs : List Char} (h : Throughout Plain cs []) :
    splitTrailingLimit cs = (cs, []) := by
  induction cs with
  | nil => rfl
  | cons c cs ih =>
    unfold splitTrailingLimit
    rw [isTrailingLimit_of_plain h, ih h.2]
    rfl

/-- The clause of an order as it is appended: nothing without keys. -/
def orderText (order : SortOrder) : String :=
  if order.isEmpty then "" else " " ++ order.clause

/-- An order is appended to a plain text. -/
theorem orderBy_of_plain {s : Statement} (h : Throughout Plain s.text.toList [])
    (order : SortOrder) : (s.orderBy order).text = s.text ++ orderText order := by
  unfold orderBy orderText
  rw [hasOrderBy_of_plain h, splitTrailingLimit_of_plain h]
  cases order.isEmpty with
  | true => simp
  | false => simp [String.append_assoc]

end DerivedQuery.Statement
