import DerivedQuery.Numbering

/-!
# Taking numbers

* `next_of_lt`, `next_of_le`: the next number, and that there is none.
* `take_succ_of_lt`, `take_succ_of_le`: several numbers are the next one and those after it.
* `take_of_le`, `take_of_lt`: what taking some numbers gives and leaves, whether they are enough or
  not.
* `eq_range_of_take`: the numbers that are taken are the next consecutive ones.
-/

namespace DerivedQuery.Numbering

variable {n m : Numbering} {count : Nat}

theorem next_of_lt (h : n.issued < n.max) :
    n.next = .ok (n.issued + 1, ⟨n.max, n.issued + 1⟩) := by
  rw [next, if_pos h]

theorem next_of_le (h : n.max ≤ n.issued) : n.next = .error (.placeholderOverflow n.max) := by
  rw [next, if_neg (Nat.not_lt.2 h)]

theorem take_succ_of_lt (h : n.issued < n.max) (count : Nat) :
    n.take (count + 1) =
      let rest := take ⟨n.max, n.issued + 1⟩ count
      (rest.1.map fun is => (n.issued + 1) :: is, rest.2) := by
  rcases hrest : take ⟨n.max, n.issued + 1⟩ count with ⟨r, m⟩
  cases r <;> simp only [take, next_of_lt h, hrest] <;> rfl

theorem take_succ_of_le (h : n.max ≤ n.issued) (count : Nat) :
    n.take (count + 1) = (.error (.placeholderOverflow n.max), n) := by
  simp only [take, next_of_le h]

theorem take_of_le (h : n.issued + count ≤ n.max) :
    n.take count = (.ok (List.range' (n.issued + 1) count), ⟨n.max, n.issued + count⟩) := by
  induction count generalizing n with
  | zero => rfl
  | succ count ih =>
    have hrest := ih (n := ⟨n.max, n.issued + 1⟩) (by show n.issued + 1 + count ≤ n.max; omega)
    rw [take_succ_of_lt (by omega), hrest, List.range'_succ]
    simp only [Nat.add_right_comm n.issued 1 count]
    rfl

/-- Too few numbers are given out all the same, and then the bound is reported. -/
theorem take_of_lt (hcount : count ≠ 0) (h : n.max < n.issued + count) :
    n.take count =
      (.error (.placeholderOverflow n.max), ⟨n.max, n.issued + (n.max - n.issued)⟩) := by
  induction count generalizing n with
  | zero => exact absurd rfl hcount
  | succ count ih =>
    by_cases hlt : n.issued < n.max
    · have hrest := ih (n := ⟨n.max, n.issued + 1⟩) (by omega)
        (by show n.max < n.issued + 1 + count; omega)
      have hused : n.issued + 1 + (n.max - (n.issued + 1)) = n.issued + (n.max - n.issued) := by
        omega
      rw [take_succ_of_lt hlt, hrest]
      simp only [hused]
      rfl
    · have hnone : n.max - n.issued = 0 := by omega
      rw [take_succ_of_le (Nat.le_of_not_lt hlt), hnone, Nat.add_zero]

/-- As many numbers are given out as are asked for and left. -/
theorem snd_take (n : Numbering) (count : Nat) :
    (n.take count).2 = ⟨n.max, n.issued + min count (n.max - n.issued)⟩ := by
  by_cases hcount : count = 0
  · subst hcount
    simp [take]
  · by_cases hle : n.issued + count ≤ n.max
    · have hmin : min count (n.max - n.issued) = count := by omega
      rw [take_of_le hle, hmin]
    · have hmin : min count (n.max - n.issued) = n.max - n.issued := by omega
      rw [take_of_lt hcount (Nat.lt_of_not_le hle), hmin]

/-- What is taken are the next numbers, and they count as issued. -/
theorem eq_range_of_take {is : List Nat} (h : n.take count = (.ok is, m)) :
    is = List.range' (n.issued + 1) count ∧ m = ⟨n.max, n.issued + count⟩ := by
  by_cases hcount : count = 0
  · subst hcount
    cases h
    exact ⟨rfl, rfl⟩
  · by_cases hle : n.issued + count ≤ n.max
    · rw [take_of_le hle] at h
      cases h
      exact ⟨rfl, rfl⟩
    · rw [take_of_lt hcount (Nat.lt_of_not_le hle)] at h
      cases h

end DerivedQuery.Numbering
