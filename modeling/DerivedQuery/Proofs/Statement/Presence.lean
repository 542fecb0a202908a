import DerivedQuery.Statement.Extension

/-!
# Statements that are not blank

Clauses are only added to a statement, and no clause is blank.

* `IsPresent`: a statement says something.
* `IsPresent.withDistinct` and its like: it still does so with one more clause.
-/

namespace DerivedQuery

namespace Text

@[simp] theorem isBlankText_append (s t : String) :
    isBlankText (s ++ t) = (isBlankText s && isBlankText t) := by
  simp [isBlankText]

end Text

namespace Statement

open Text

/-- The text is not blank. -/
def IsPresent (s : Statement) : Prop :=
  isBlankText s.text = false

/-- A statement that was given as text is not blank. -/
theorem isPresent_of_ofText {text : String} {s : Statement} (h : ofText text = .ok s) :
    s.IsPresent ∧ s.text = text := by
  unfold ofText at h
  split at h
  · cases h
  · next hblank =>
    cases h
    exact ⟨by simpa [IsPresent] using hblank, rfl⟩

namespace IsPresent

variable {s : Statement}

theorem withDistinct (h : s.IsPresent) : s.withDistinct.IsPresent := by
  have hword : isBlankText " DISTINCT" = false := rfl
  unfold Statement.withDistinct
  simp only
  split
  · exact h
  · split
    · exact h
    · simp [IsPresent, hword]

theorem withImport (h : s.IsPresent) (statement : String) : (s.withImport statement).IsPresent := by
  have hword : isBlankText "IMPORT " = false := rfl
  unfold Statement.withImport
  split
  · exact h
  · simp [IsPresent, hword]

theorem withHints (h : s.IsPresent) (hints : List String) : (s.withHints hints).IsPresent := by
  have hword : isBlankText "<HINT " = false := rfl
  unfold Statement.withHints
  split
  · exact h
  · simp [IsPresent, hintClause, hword]

theorem withLimit (h : s.IsPresent) (n : Nat) : (s.withLimit n).IsPresent := by
  have hword : isBlankText " LIMIT " = false := rfl
  unfold Statement.withLimit
  split
  · exact h
  · simp [IsPresent, hword]

theorem withTrace (h : s.IsPresent) : s.withTrace.IsPresent := by
  have hword : isBlankText "<TRACE> " = false := rfl
  unfold Statement.withTrace
  split
  · exact h
  · simp [IsPresent, hword]

theorem orderBy (h : s.IsPresent) (order : SortOrder) : (s.orderBy order).IsPresent := by
  have hword : isBlankText "ORDER BY " = false := rfl
  unfold Statement.orderBy
  split
  · exact h
  · next hadded =>
    have hkeys : order.isEmpty = false := by
      cases hempty : order.isEmpty with
      | true => simp [hempty] at hadded
      | false => rfl
    simp [IsPresent, SortOrder.clause, hkeys, hword]

end IsPresent

end Statement

end DerivedQuery
