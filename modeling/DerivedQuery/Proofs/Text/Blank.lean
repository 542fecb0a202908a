import DerivedQuery.Text.Scan

/-!
# White space in a scan

White space belongs to no other class of characters that a scanner tells apart, so a keyword, a
number and a word all end in front of it.

* `forall_blank`: a property of white space can be checked for each of its characters.
* `isWordChar_of_isBlank`, `isDecimalDigit_of_isBlank`: the other classes.
* `foldsTo_of_class`: characters that a letter of a keyword does not stand for.
-/

namespace DerivedQuery.Text

/-- The code points of white space. -/
def blankCodes : List Nat :=
  [0x09, 0x0A, 0x0B, 0x0C, 0x0D, 0x20, 0x85, 0xA0, 0x1680, 0x2000, 0x2001, 0x2002, 0x2003, 0x2004,
    0x2005, 0x2006, 0x2007, 0x2008, 0x2009, 0x200A, 0x2028, 0x2029, 0x202F, 0x205F, 0x3000]

theorem mem_blankCodes {c : Char} (h : isBlank c = true) : c.toNat ∈ blankCodes := by
  unfold isBlank at h
  split at h
  · simp only [Bool.or_eq_true, beq_iff_eq, Bool.and_eq_true, decide_eq_true_eq] at h
    rcases h with rfl | ⟨hlow, hhigh⟩
    · decide
    · have hcodes : c.toNat = 9 ∨ c.toNat = 10 ∨ c.toNat = 11 ∨ c.toNat = 12 ∨ c.toNat = 13 := by
        omega
      rcases hcodes with hc | hc | hc | hc | hc <;> simp [hc, blankCodes]
  · simp only [CharRange.anyHolds, wideBlanks, Array.any_eq_true', CharRange.holds_iff] at h
    rcases h with ⟨r, hr, hlow, hhigh, -⟩
    simp only [List.mem_toArray, List.mem_cons, List.not_mem_nil, or_false] at hr
    simp only [blankCodes, List.mem_cons, List.not_mem_nil, or_false]
    rcases hr with rfl | rfl | rfl | rfl | rfl | rfl | rfl | rfl <;> dsimp only at hlow hhigh <;>
      omega

/-- A property of white space can be checked for each of its characters. -/
theorem forall_blank {P : Char → Prop} (h : ∀ n ∈ blankCodes, P (Char.ofNat n)) {c : Char}
    (hc : isBlank c = true) : P c := by
  have hn := h c.toNat (mem_blankCodes hc)
  rwa [Char.ofNat_toNat] at hn

/-- A class as a list of ranges. In this form the tables are evaluated with less work. -/
theorem anyHolds_eq (rs : Array CharRange) (c : Char) :
    CharRange.anyHolds rs c = rs.toList.any fun r =>
      (r.first.ble c.toNat && c.toNat.ble r.last) && ((c.toNat - r.first) % r.step).beq 0 := by
  have hholds (r : CharRange) : r.holds c.toNat =
      ((r.first.ble c.toNat && c.toNat.ble r.last) && ((c.toNat - r.first) % r.step).beq 0) := by
    rw [Bool.eq_iff_iff]
    simp [CharRange.holds, Nat.beq_eq]
  simp [CharRange.anyHolds, hholds]

/-- White space ends a word. -/
theorem isWordChar_of_isBlank {c : Char} (h : isBlank c = true) : isWordChar c = false := by
  have hcodes : ∀ n ∈ blankCodes, isWordChar (Char.ofNat n) = false := by
    simp only [isWordChar, isAlphabetic, isDecimalDigit, isNewlyAssigned, anyHolds_eq]
    decide +kernel
  exact forall_blank (P := fun c => isWordChar c = false) hcodes h

/-- White space ends a number. -/
theorem isDecimalDigit_of_isBlank {c : Char} (h : isBlank c = true) : isDecimalDigit c = false := by
  have hcodes : ∀ n ∈ blankCodes, isDecimalDigit (Char.ofNat n) = false := by
    simp only [isDecimalDigit, isNewlyAssigned, anyHolds_eq]
    decide +kernel
  exact forall_blank (P := fun c => isDecimalDigit c = false) hcodes h

/-! ## Letters of keywords -/

/-- A letter does not stand for a character of a class that none of its forms belongs to. The long s
and the kelvin sign are forms of letters as well. -/
theorem foldsTo_of_class {P : Char → Bool} {k c : Char} (hk : P k = false)
    (hlower : P k.toLower = false) (hlong : P 'ſ' = false) (hkelvin : P '\u212A' = false)
    (hc : P c = true) : foldsTo k c = false := by
  have hne {d : Char} (hd : P d = false) : c ≠ d := by
    rintro rfl
    rw [hd] at hc
    cases hc
  have hsign : c.toNat ≠ 0x212A := fun hcode => hne hkelvin (Char.toNat_inj.1 hcode)
  simp [foldsTo, hne hk, hne hlower, hne hlong, hsign]

/-- A letter of a keyword does not stand for white space. -/
theorem foldsTo_of_isBlank {k c : Char} (hk : isBlank k = false) (hlower : isBlank k.toLower = false)
    (h : isBlank c = true) : foldsTo k c = false :=
  foldsTo_of_class hk hlower (by decide +kernel) (by decide +kernel) h

theorem foldsTo_of_isDigit {k c : Char} (hk : k.isDigit = false) (hlower : k.toLower.isDigit = false)
    (h : c.isDigit = true) : foldsTo k c = false :=
  foldsTo_of_class hk hlower (by decide) (by decide) h

end DerivedQuery.Text
