import DerivedQuery.Proofs.Statement.Clauseless
import DerivedQuery.Proofs.Statement.TrailingLimit
import DerivedQuery.Proofs.Text.Ascii
import DerivedQuery.Proofs.Text.Barrier

/-!
# Clauses that are found again

A statement that has been extended may be taken as the text of another method. The clauses that were
added are found there, so that they are not added again, and an order is put in front of the limit
at the end.

* `orderBy_before_limit`: an order is put between a plain text and the limit behind it.
* `withLimit_of_limit`, `withTrace_of_trace`, `withDistinct_of_startsDistinct`: nothing is added.
-/

namespace DerivedQuery

namespace Text

/-- A number is written with digits, at least one of them. -/
theorem exists_digits (n : Nat) : ∃ d ds, Nat.toDigits 10 n = d :: ds ∧ d.isDigit = true ∧
    ∀ c ∈ ds, c.isDigit = true := by
  have hdigits : ∀ c ∈ Nat.toDigits 10 n, c.isDigit = true := fun c hc =>
    Nat.isDigit_of_mem_toDigits (by decide) (by decide) hc
  cases htext : Nat.toDigits 10 n with
  | nil => exact absurd htext Nat.toDigits_ne_nil
  | cons d ds =>
    rw [htext] at hdigits
    exact ⟨d, ds, rfl, hdigits d List.mem_cons_self, fun c hc =>
      hdigits c (List.mem_cons_of_mem d hc)⟩

end Text

namespace Statement

open Text

/-! ## A limit at the end -/

/-- An order is put between a plain text and the limit behind it. -/
theorem orderBy_before_limit {body limit : String}
    (hplain : Throughout Plain body.toList limit.toList) (hend : EndsSolid body.toList)
    (hunordered : Throughout Unordered limit.toList [])
    (hlimit : isTrailingLimit limit.toList = true) (order : SortOrder) :
    ((⟨body ++ limit⟩ : Statement).orderBy order).text = body ++ orderText order ++ limit := by
  have hnone : (⟨body ++ limit⟩ : Statement).hasOrderBy = false := by
    apply hasOrderBy_of_unordered
    rw [String.toList_append, throughout_append, List.append_nil]
    exact ⟨hplain.imp fun _ => Plain.unordered, hunordered⟩
  unfold orderBy orderText
  rw [hnone, String.toList_append, splitTrailingLimit_of_limit (.inr hend) hlimit]
  cases order.isEmpty with
  | true => simp
  | false => simp [String.append_assoc]

/-! ## The limit that is appended -/

/-- The bound of a limit that is appended. -/
theorem limitDigits?_limit (n : Nat) :
    limitDigits? ("LIMIT ".toList ++ Nat.toDigits 10 n) = some (Nat.toDigits 10 n) := by
  rcases exists_digits n with ⟨d, ds, hdigits, hd, -⟩
  have hdollar : d ≠ '$' := by
    rintro rfl
    cases hd
  have htrim : trimStart (d :: ds) = d :: ds :=
    List.dropWhile_cons_of_neg (by simp [isBlank_of_isDigit hd])
  simp [limitDigits?, keyword, keywordChars, foldsTo, space, isBlank, hdigits, htrim, optionally,
    hdollar]

theorem toList_limit (n : Nat) :
    (" LIMIT " ++ toString n).toList = ' ' :: ("LIMIT ".toList ++ Nat.toDigits 10 n) := by
  simp

theorem isTrailingLimit_limit (n : Nat) :
    isTrailingLimit (" LIMIT " ++ toString n).toList = true := by
  rcases exists_digits n with ⟨d, ds, hdigits, hd, hds⟩
  have hspace : space (' ' :: ("LIMIT ".toList ++ Nat.toDigits 10 n)) =
      some ("LIMIT ".toList ++ Nat.toDigits 10 n) := rfl
  have hrest : ds.dropWhile isDecimalDigit = [] :=
    List.dropWhile_eq_nil_iff.2 fun c hc => isDecimalDigit_of_isDigit (hds c hc)
  rw [toList_limit, isTrailingLimit, hspace, Option.bind_eq_bind, Option.bind_some,
    limitDigits?_limit, hdigits]
  simp [isDecimalDigit_of_isDigit hd, hrest]

/-- There is no `BY` in a limit. -/
theorem unordered_limit (n : Nat) : Throughout Unordered (" LIMIT " ++ toString n).toList [] := by
  rcases exists_digits n with ⟨d, ds, hdigits, hd, -⟩
  have hupper : d ≠ 'B' := by
    rintro rfl
    cases hd
  have hlower : d ≠ 'b' := by
    rintro rfl
    cases hd
  have hrest : Throughout Unordered (Nat.toDigits 10 n) [] := by
    apply throughout_of_forall
    intro c hc cs hblank
    have hdigit := Nat.isDigit_of_mem_toDigits (by decide) (by decide) hc
    rw [isBlank_of_isDigit hdigit] at hblank
    cases hblank
  rw [hdigits] at hrest
  rw [toList_limit, hdigits]
  simp [hrest, Unordered, isBlank, keyword, keywordChars, foldsTo, hupper, hlower]

theorem limitAt_limit (n : Nat) :
    limitAt (some ' ') ("LIMIT ".toList ++ Nat.toDigits 10 n) = true := by
  rcases exists_digits n with ⟨d, ds, hdigits, hd, -⟩
  rw [limitAt, limitDigits?_limit, hdigits]
  simp [startsWord, isWordChar, isDecimalDigit_of_isDigit hd]

/-- A limit that is there already is not added again. -/
theorem withLimit_of_limit (t : String) (n k : Nat) :
    (⟨t ++ (" LIMIT " ++ toString n)⟩ : Statement).withLimit k =
      ⟨t ++ (" LIMIT " ++ toString n)⟩ := by
  rw [withLimit, if_pos (hasLimit_of_isTrailingLimit (isTrailingLimit_limit n))]

/-! ## The other clauses -/

theorem hasTrace_of_trace (t : String) : (⟨"<TRACE> " ++ t⟩ : Statement).hasTrace = true := by
  have hat : (traceClause? ("<TRACE> ".toList ++ t.toList)).isSome = true := rfl
  rw [hasTrace, String.toList_append]
  exact somewhere_of_here hat

/-- A trace that is there already is not added again. -/
theorem withTrace_of_trace (t : String) :
    (⟨"<TRACE> " ++ t⟩ : Statement).withTrace = ⟨"<TRACE> " ++ t⟩ := by
  rw [withTrace, if_pos (hasTrace_of_trace t)]

/-- A selection that is distinct already is not made so again. -/
theorem withDistinct_of_startsDistinct {s : Statement} {rest : List Char}
    (h : afterSelect? s.text.toList = some rest) (hdistinct : startsDistinct rest = true) :
    s.withDistinct = s := by
  simp [withDistinct, h, hdistinct]

end Statement

end DerivedQuery
