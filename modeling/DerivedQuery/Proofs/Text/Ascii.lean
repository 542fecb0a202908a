import DerivedQuery.Text.Alphanumeric
import DerivedQuery.Text.Blank
import DerivedQuery.Text.Uppercase

/-!
# Classes of ASCII characters

The classes of characters that names are made of, in arithmetic, and what the Unicode classes say
of ASCII characters.

* `isUpper_iff`, `isAlphanum_iff` and their like: the core library's classes as ranges.
* `isUppercase_of_ascii`, `isAlphanumeric_of_ascii`: below 128 the Unicode classes are those.
* `isBlank_of_visible`: visible ASCII characters are not white space.
* `isDecimalDigit_of_isDigit`: the digits that numbers are written with.
-/

namespace DerivedQuery.Text

theorem isUpper_iff {c : Char} : c.isUpper = true ↔ 65 ≤ c.toNat ∧ c.toNat ≤ 90 := by
  show decide (c.val ≥ 65 ∧ c.val ≤ 90) = true ↔ _
  simp [UInt32.le_iff_toNat_le, ← Char.toNat_val]

theorem isLower_iff {c : Char} : c.isLower = true ↔ 97 ≤ c.toNat ∧ c.toNat ≤ 122 := by
  show (decide (c.val ≥ 97) && decide (c.val ≤ 122)) = true ↔ _
  simp [UInt32.le_iff_toNat_le, ← Char.toNat_val]

theorem isDigit_iff {c : Char} : c.isDigit = true ↔ 48 ≤ c.toNat ∧ c.toNat ≤ 57 := by
  simp [Char.isDigit, UInt32.le_iff_toNat_le, ← Char.toNat_val]

theorem isAlpha_iff {c : Char} :
    c.isAlpha = true ↔ 65 ≤ c.toNat ∧ c.toNat ≤ 90 ∨ 97 ≤ c.toNat ∧ c.toNat ≤ 122 := by
  show (c.isUpper || c.isLower) = true ↔ _
  simp [isUpper_iff, isLower_iff]

theorem isAlphanum_iff {c : Char} :
    c.isAlphanum = true ↔
      (65 ≤ c.toNat ∧ c.toNat ≤ 90 ∨ 97 ≤ c.toNat ∧ c.toNat ≤ 122) ∨
        48 ≤ c.toNat ∧ c.toNat ≤ 57 := by
  simp [Char.isAlphanum, isAlpha_iff, isDigit_iff]

theorem isAlpha_of_isUpper {c : Char} (h : c.isUpper = true) : c.isAlpha = true := by
  show (c.isUpper || c.isLower) = true
  rw [h, Bool.true_or]

theorem isAlpha_of_isLower {c : Char} (h : c.isLower = true) : c.isAlpha = true := by
  show (c.isUpper || c.isLower) = true
  rw [h, Bool.or_true]

theorem isAlphanum_of_isAlpha {c : Char} (h : c.isAlpha = true) : c.isAlphanum = true := by
  rw [Char.isAlphanum, h, Bool.true_or]

theorem isAlphanum_of_isDigit {c : Char} (h : c.isDigit = true) : c.isAlphanum = true := by
  rw [Char.isAlphanum, h, Bool.or_true]

theorem not_isLower_of_isUpper {c : Char} (h : c.isUpper = true) : c.isLower = false := by
  rw [isUpper_iff] at h
  rw [Bool.eq_false_iff, ne_eq, isLower_iff]
  omega

theorem not_isLower_of_isDigit {c : Char} (h : c.isDigit = true) : c.isLower = false := by
  rw [isDigit_iff] at h
  rw [Bool.eq_false_iff, ne_eq, isLower_iff]
  omega

theorem not_isUpper_of_isLower {c : Char} (h : c.isLower = true) : c.isUpper = false := by
  rw [isLower_iff] at h
  rw [Bool.eq_false_iff, ne_eq, isUpper_iff]
  omega

theorem not_isUpper_of_isDigit {c : Char} (h : c.isDigit = true) : c.isUpper = false := by
  rw [isDigit_iff] at h
  rw [Bool.eq_false_iff, ne_eq, isUpper_iff]
  omega

theorem isUppercase_of_ascii {c : Char} (h : c.toNat < 0x80) : isUppercase c = c.isUpper := by
  rw [isUppercase, if_pos h]

theorem isAlphanumeric_of_ascii {c : Char} (h : c.toNat < 0x80) :
    isAlphanumeric c = c.isAlphanum := by
  rw [isAlphanumeric, isAlphabetic, isNumeric, if_pos h, if_pos h, Char.isAlphanum]

theorem isUppercase_of_isUpper {c : Char} (h : c.isUpper = true) : isUppercase c = true := by
  have hascii : c.toNat < 0x80 := by
    have hrange := isUpper_iff.1 h
    omega
  rw [isUppercase_of_ascii hascii, h]

theorem isUppercaseLetter_of_isUpper {c : Char} (h : c.isUpper = true) :
    isUppercaseLetter c = true := by
  have hascii : c.toNat < 0x80 := by
    have hrange := isUpper_iff.1 h
    omega
  rw [isUppercaseLetter, if_pos hascii, h]

theorem isAlphanumeric_of_isAlphanum {c : Char} (h : c.isAlphanum = true) :
    isAlphanumeric c = true := by
  have hascii : c.toNat < 0x80 := by
    have hrange := isAlphanum_iff.1 h
    omega
  rw [isAlphanumeric_of_ascii hascii, h]

/-- A visible ASCII character is not white space. -/
theorem isBlank_of_visible {c : Char} (hlow : 0x20 < c.toNat) (hhigh : c.toNat < 0x80) :
    isBlank c = false := by
  have hspace : (c == ' ') = false := by
    rw [beq_eq_false_iff_ne]
    rintro rfl
    exact absurd hlow (by decide)
  simp only [isBlank, if_pos hhigh, hspace, Bool.false_or, Bool.and_eq_false_iff,
    decide_eq_false_iff_not]
  omega

theorem isDecimalDigit_of_ascii {c : Char} (h : c.toNat < 0x80) : isDecimalDigit c = c.isDigit := by
  rw [isDecimalDigit, if_pos h]

theorem isDecimalDigit_of_isDigit {c : Char} (h : c.isDigit = true) : isDecimalDigit c = true := by
  have hascii : c.toNat < 0x80 := by
    have hrange := isDigit_iff.1 h
    omega
  rw [isDecimalDigit_of_ascii hascii, h]

theorem isDecimalDigit_of_isAlpha {c : Char} (h : c.isAlpha = true) : isDecimalDigit c = false := by
  rw [isAlpha_iff] at h
  rw [isDecimalDigit_of_ascii (by omega), Bool.eq_false_iff, ne_eq, isDigit_iff]
  omega

theorem isBlank_of_isDigit {c : Char} (h : c.isDigit = true) : isBlank c = false := by
  have hrange := isDigit_iff.1 h
  exact isBlank_of_visible (by omega) (by omega)

end DerivedQuery.Text
