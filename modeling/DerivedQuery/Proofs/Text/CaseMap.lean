import DerivedQuery.Proofs.Text.Words

/-!
# Case beyond ASCII

The case mappings stay among letters: none of them makes punctuation. The lower case of a character
beyond ASCII lies beyond ASCII as well, but for the kelvin sign, whose lower case is `k`. Its upper
case is itself, so a word that begins with it is in ASCII only as long as it is in small letters.

* `shiftCase_cases`: what a table of shifts makes of a character.
* `ne_dot_of_mem_lowerChar`, `ne_dot_of_mem_upperChar`: no mapping makes a dot.
* `ascii_or_kelvin`: the characters whose lower case can stand in an ASCII name.
* `upperChar_kelvinSign`, `lowerChar_kelvinSign`: the cases of the kelvin sign.
-/

namespace DerivedQuery.Text

/-- The sign for kelvin, a capital letter whose small form is that of `K`. -/
def kelvinSign : Char :=
  '\u212a'

/-- A character is that of a number, unless the number is that of none. -/
theorem toNat_ofNat (n : Nat) : (Char.ofNat n).toNat = n ∨ (Char.ofNat n).toNat = 0 := by
  by_cases hn : n.isValidChar
  · rw [Char.ofNat, dif_pos hn]
    left
    rfl
  · rw [Char.ofNat, dif_neg hn]
    right
    rfl

/-- A table leaves a character as it is, or moves it as the row for its range says. -/
theorem shiftCase_cases (table : Array CaseShift) (c : Char) :
    shiftCase table c = c ∨ ∃ row ∈ table.toList,
      row.range.first ≤ c.toNat ∧ c.toNat ≤ row.range.last ∧
        shiftCase table c = Char.ofNat ((c.toNat : Int) + row.shift).toNat := by
  unfold shiftCase
  split
  · next row hrow =>
    have hholds := Array.find?_some hrow
    rw [CharRange.holds_iff] at hholds
    have hmem : row ∈ table.toList := Array.mem_toList_iff.2 (Array.mem_of_find?_eq_some hrow)
    exact .inr ⟨row, hmem, hholds.1, hholds.2.1, rfl⟩
  · exact .inl rfl

/-- A table all of whose rows lead to `bound` or above moves no character below it. -/
theorem le_shiftCase (table : Array CaseShift) (bound : Nat) {c : Char}
    (htable : ∀ row ∈ table.toList, row.range.first ≤ c.toNat → c.toNat ≤ row.range.last →
      (bound : Int) ≤ row.range.first + row.shift) (hc : bound ≤ c.toNat) :
    bound ≤ (shiftCase table c).toNat ∨ (shiftCase table c).toNat = 0 := by
  rcases shiftCase_cases table c with hsame | ⟨row, hrow, hfirst, hlast, hshift⟩
  · rw [hsame]
    exact .inl hc
  · have hbound := htable row hrow hfirst hlast
    rw [hshift]
    rcases toNat_ofNat ((c.toNat : Int) + row.shift).toNat with hvalue | hvalue
    · left
      omega
    · exact .inr hvalue

/-! ## Dots -/

/-- The dot comes before the letters, and it is not the null character. -/
theorem ne_dot_of_toNat {c : Char} (h : 0x41 ≤ c.toNat ∨ c.toNat = 0) : c ≠ '.' := by
  rintro rfl
  revert h
  decide

/-- A table that leads to letters only makes no dot. -/
theorem shiftCase_ne_dot {table : Array CaseShift} {c : Char}
    (htable : ∀ row ∈ table.toList, (0x41 : Int) ≤ row.range.first + row.shift)
    (hc : 0x41 ≤ c.toNat) : shiftCase table c ≠ '.' :=
  ne_dot_of_toNat (le_shiftCase table 0x41 (fun row hrow _ _ => htable row hrow) hc)

/-- The tables lead to letters, and that of the lower case leads into ASCII for the kelvin sign
only. -/
theorem rows_shifts :
    (∀ row ∈ lowerShifts.toList, (0x41 : Int) ≤ row.range.first + row.shift) ∧
      (∀ row ∈ upperShifts.toList, (0x41 : Int) ≤ row.range.first + row.shift) ∧
      ∀ row ∈ lowerShifts.toList, (0x80 : Int) ≤ row.range.first + row.shift ∨
        row.range.first = 0x212A ∧ row.range.last = 0x212A := by
  decide +kernel

/-- A character that is not a dot does not become one in the lower case. -/
theorem ne_dot_of_mem_lowerChar {c d : Char} (hc : c ≠ '.') (hd : d ∈ lowerChar c) : d ≠ '.' := by
  by_cases hascii : c.toNat < 0x80
  · rw [lowerChar_of_ascii hascii, List.mem_singleton] at hd
    rw [hd]
    exact forall_ascii (P := fun c => c ≠ '.' → c.toLower ≠ '.') (by decide) hascii hc
  · rw [lowerChar, if_neg hascii] at hd
    by_cases hdotted : c.toNat = 0x130
    · rw [if_pos hdotted, List.mem_cons, List.mem_singleton] at hd
      rcases hd with rfl | rfl
      · decide
      · decide
    · rw [if_neg hdotted, List.mem_singleton] at hd
      rw [hd]
      exact shiftCase_ne_dot rows_shifts.1 (by omega)

/-- Nor does it in the upper case, where some characters become several. -/
theorem ne_dot_of_mem_upperChar {c d : Char} (hc : c ≠ '.') (hd : d ∈ upperChar c) : d ≠ '.' := by
  by_cases hascii : c.toNat < 0x80
  · rw [upperChar_of_ascii hascii, List.mem_singleton] at hd
    rw [hd]
    exact forall_ascii (P := fun c => c ≠ '.' → c.toUpper ≠ '.') (by decide) hascii hc
  · rw [upperChar, if_neg hascii] at hd
    split at hd
    · -- The character becomes several, all of which are in the table.
      next row hrow =>
      have hrows : ∀ row ∈ upperExpansions.toList, ∀ n ∈ row.2, 0x41 ≤ n := by
        decide
      obtain ⟨n, hn, rfl⟩ := List.mem_map.1 hd
      have hmem : row ∈ upperExpansions.toList :=
        Array.mem_toList_iff.2 (Array.mem_of_find?_eq_some hrow)
      have hbound := hrows row hmem n hn
      rcases toNat_ofNat n with hvalue | hvalue
      · exact ne_dot_of_toNat (.inl (by omega))
      · exact ne_dot_of_toNat (.inr hvalue)
    · rw [List.mem_singleton] at hd
      rw [hd]
      exact shiftCase_ne_dot rows_shifts.2.1 (by omega)

/-! ## ASCII -/

/-- Where the lower case of a character is in visible ASCII, the character is in ASCII too or the
kelvin sign. -/
theorem ascii_or_kelvin {c : Char} (h : ∀ d ∈ lowerChar c, 0 < d.toNat ∧ d.toNat < 0x80) :
    c.toNat < 0x80 ∨ c = kelvinSign := by
  by_cases hascii : c.toNat < 0x80
  · exact .inl hascii
  · rw [lowerChar, if_neg hascii] at h
    by_cases hdotted : c.toNat = 0x130
    · -- The second character of the small dotted `i` is no ASCII character.
      rw [if_pos hdotted] at h
      have hmark : ¬(0 < (Char.ofNat 0x307).toNat ∧ (Char.ofNat 0x307).toNat < 0x80) := by
        decide
      exact absurd (h (Char.ofNat 0x307) (by simp)) hmark
    · rw [if_neg hdotted] at h
      have hsmall := h _ (List.mem_singleton_self _)
      by_cases hkelvin : c = kelvinSign
      · exact .inr hkelvin
      · have hcode : c.toNat ≠ 0x212A := by
          intro hcode
          apply hkelvin
          rw [← Char.ofNat_toNat c, hcode]
          rfl
        have hbound := le_shiftCase lowerShifts 0x80 (c := c)
          (fun row hrow hfirst hlast => (rows_shifts.2.2 row hrow).resolve_right (by omega))
          (by omega)
        omega

/-! ## The kelvin sign -/

theorem anyHolds_eq_any_toList (rs : Array CharRange) (c : Char) :
    CharRange.anyHolds rs c = rs.toList.any fun r => r.holds c.toNat := by
  rw [CharRange.anyHolds, Array.any_toList]

theorem kelvinSign_wide : ¬kelvinSign.toNat < 0x80 := by
  decide

theorem isAlphanumeric_kelvinSign : isAlphanumeric kelvinSign = true := by
  rw [isAlphanumeric, isAlphabetic, if_neg kelvinSign_wide, anyHolds_eq_any_toList,
    Bool.or_eq_true]
  left
  decide +kernel

theorem isUppercase_kelvinSign : isUppercase kelvinSign = true := by
  rw [isUppercase, if_neg kelvinSign_wide, anyHolds_eq_any_toList, Bool.or_eq_true]
  left
  decide

theorem upperChar_kelvinSign : upperChar kelvinSign = [kelvinSign] := by
  rw [upperChar, if_neg kelvinSign_wide, ← Array.find?_toList, shiftCase, ← Array.find?_toList]
  decide

theorem lowerChar_kelvinSign : lowerChar kelvinSign = ['k'] := by
  rw [lowerChar, if_neg kelvinSign_wide, shiftCase, ← Array.find?_toList]
  decide

end DerivedQuery.Text
