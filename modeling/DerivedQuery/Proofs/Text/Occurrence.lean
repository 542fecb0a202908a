import DerivedQuery.Proofs.Text.Position

/-!
# How often a clause is found

A search for a clause tries every position of a text. The positions where it succeeds are counted,
so that one can say that a clause was added once, and that no second one came with it.

* `occurrences`: the number of positions where a test succeeds; `somewhere_iff`: there is one.
* `occurrences_append`: the positions of two texts, if the test sees nothing of the second one from
  the first.
-/

namespace DerivedQuery.Text

/-- The number of positions of `cs` where a test succeeds; it is given the character in front of the
position and the characters from there on. -/
def occurrences (test : Option Char → List Char → Bool) (before : Option Char) : List Char → Nat
  | [] => (test before []).toNat
  | c :: cs => (test before (c :: cs)).toNat + occurrences test (some c) cs

variable {test : Option Char → List Char → Bool}

theorem somewhere_iff (before : Option Char) (cs : List Char) :
    somewhere test before cs = true ↔ 0 < occurrences test before cs := by
  have hpos (b : Bool) : b = true ↔ 0 < b.toNat := by
    cases b <;> decide
  induction cs generalizing before with
  | nil => exact hpos _
  | cons c cs ih =>
    rw [somewhere, occurrences, Bool.or_eq_true, Nat.add_pos_iff_pos_or_pos]
    exact or_congr (hpos _) (ih (some c))

theorem occurrences_eq_zero {before : Option Char} {cs : List Char}
    (h : somewhere test before cs = false) : occurrences test before cs = 0 := by
  rw [Bool.eq_false_iff, ne_eq, somewhere_iff] at h
  omega

/-- A test that needs a character that the text does not have. -/
theorem occurrences_of_forall {cs : List Char} (hnil : ∀ before, test before [] = false)
    (h : ∀ c ∈ cs, ∀ before rest, test before (c :: rest) = false) (before : Option Char) :
    occurrences test before cs = 0 := by
  induction cs generalizing before with
  | nil => rw [occurrences, hnil, Bool.toNat_false]
  | cons c cs ih =>
    rw [List.forall_mem_cons] at h
    rw [occurrences, h.1, ih h.2, Bool.toNat_false]

/-- A text that a test does not succeed at the beginning of. -/
theorem occurrences_congr {cs : List Char} (h : ∀ before, test before cs = false)
    (before d : Option Char) : occurrences test before cs = occurrences test d cs := by
  cases cs with
  | nil => rw [occurrences, occurrences, h, h]
  | cons c cs => rw [occurrences, occurrences, h, h]

/-- What is found in a text stays what it is if the test sees nothing of what is appended, and the
rest is found in what is appended. -/
theorem occurrences_append {x : List Char}
    (hx : ∀ before b, test before (b ++ x) = test before b) (hnil : ∀ before, test before [] = false)
    (before : Option Char) (t : List Char) :
    occurrences test before (t ++ x) = occurrences test before t + occurrences test none x := by
  induction t generalizing before with
  | nil =>
    have hstart (d : Option Char) : test d x = false := by
      rw [← List.nil_append x, hx, hnil]
    rw [List.nil_append, occurrences, hnil, occurrences_congr hstart before none]
    simp
  | cons c t ih =>
    have hhere := hx before (c :: t)
    rw [List.cons_append] at hhere ⊢
    rw [occurrences, occurrences, hhere, ih, Nat.add_assoc]

/-- Searches of two texts that go on differently. -/
theorem somewhere_append_congr {x y : List Char}
    (hwithin : ∀ before b, b ≠ [] → test before (b ++ x) = test before (b ++ y))
    (hbehind : ∀ before, somewhere test before x = somewhere test before y)
    (before : Option Char) (t : List Char) :
    somewhere test before (t ++ x) = somewhere test before (t ++ y) := by
  induction t generalizing before with
  | nil => exact hbehind before
  | cons c t ih =>
    have hhere := hwithin before (c :: t) (List.cons_ne_nil c t)
    rw [List.cons_append, List.cons_append] at hhere ⊢
    rw [somewhere, somewhere, hhere, ih]

end DerivedQuery.Text
