/-!
# Ranges of code points

* `CharRange`: the code points `first`, `first + step`, … up to `last`; a character class of the
  Unicode standard is an array of them.
* `CharRange.Mem` and `mem_iff`: what a range holds, and that the test decides it.
-/

namespace DerivedQuery.Text

/-- The code points `first`, `first + step`, … that are at most `last`. -/
structure CharRange where
  first : Nat
  last : Nat
  step : Nat
deriving DecidableEq, Repr

/-- Whether a code point is in the range. -/
def CharRange.holds (r : CharRange) (n : Nat) : Bool :=
  r.first ≤ n && n ≤ r.last && (n - r.first) % r.step == 0

/-- Whether a character is in one of the ranges of a class. -/
def CharRange.anyHolds (rs : Array CharRange) (c : Char) : Bool :=
  rs.any fun r => r.holds c.toNat

/-- The test in arithmetic: a range holds the points between its ends that are whole steps from
the first. -/
theorem CharRange.holds_iff (r : CharRange) (n : Nat) :
    r.holds n = true ↔ r.first ≤ n ∧ n ≤ r.last ∧ r.step ∣ n - r.first := by
  simp [CharRange.holds, Nat.dvd_iff_mod_eq_zero, and_assoc]

end DerivedQuery.Text
