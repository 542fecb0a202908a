import DerivedQuery.Proofs.Numbering.Taking

/-!
# Numbering in 64 bits

A numbering can be kept in two 64-bit numbers: the bound, and the number that comes next, which is
one more than have been issued. Each sum and each difference of this counter is checked; one that is
no 64-bit number leaves it without a result.

* `Counter.perform?`, `Counter.session?`: the steps of a numbering, in checked arithmetic.
* `perform?_toCounter`, `session?_toCounter`: as long as fewer than the largest number are issued,
  no sum and no difference is out of range, and the counter gives what the numbering gives.
-/

namespace DerivedQuery

/-- The sum of two 64-bit numbers, if it is one. -/
def checkedAdd (a b : Nat) : Option Nat :=
  if a + b ≤ maxCount then some (a + b) else none

/-- The difference of two 64-bit numbers, if it is one. -/
def checkedSub (a b : Nat) : Option Nat :=
  if b ≤ a then some (a - b) else none

/-- A bound and the number that comes next. -/
structure Counter where
  max : Nat
  upcoming : Nat
deriving DecidableEq, Repr

namespace Counter

/-- Nothing issued yet, and at most `max` numbers to issue. -/
def upTo (max : Nat) : Counter :=
  ⟨max, 1⟩

def issued? (c : Counter) : Option Nat :=
  checkedSub c.upcoming 1

/-- The next number or the error that there is none, and the counter after it. -/
def next? (c : Counter) : Option (Except QueryError Nat × Counter) := do
  let issued ← c.issued?
  if c.max ≤ issued then
    return (.error (.placeholderOverflow c.max), c)
  else
    let upcoming ← checkedAdd c.upcoming 1
    return (.ok c.upcoming, { c with upcoming })

/-- The next `count` numbers, one after the other up to the first error. -/
def take? (c : Counter) : Nat → Option (Except QueryError (List Nat) × Counter)
  | 0 => some (.ok [], c)
  | count + 1 => do
    let (r, c) ← c.next?
    match r with
    | .error e => return (.error e, c)
    | .ok i =>
      let (rest, c) ← c.take? count
      return (rest.map (i :: ·), c)

def perform? (c : Counter) : Numbering.Step → Option (Numbering.Reply × Counter)
  | .next => do
    let (r, c) ← c.next?
    return (.number r, c)
  | .take count => do
    let (r, c) ← c.take? count
    return (.numbers r, c)
  | .restart => some (.restarted, { c with upcoming := 1 })

def session? (c : Counter) : List Numbering.Step → Option (List Numbering.Reply × Counter)
  | [] => some ([], c)
  | step :: steps => do
    let (reply, c) ← c.perform? step
    let (replies, c) ← c.session? steps
    return (reply :: replies, c)

end Counter

namespace Numbering

variable {n : Numbering}

/-- The counter that keeps a numbering. -/
def toCounter (n : Numbering) : Counter :=
  ⟨n.max, n.issued + 1⟩

theorem issued?_toCounter (n : Numbering) : n.toCounter.issued? = some n.issued := by
  simp [toCounter, Counter.issued?, checkedSub]

/-- A number is given out if the one behind it is a 64-bit number too. -/
theorem next?_of_lt (hmax : n.issued < n.max) (h : n.issued + 1 < maxCount) :
    n.toCounter.next? = some (.ok (n.issued + 1), toCounter ⟨n.max, n.issued + 1⟩) := by
  have hsum : checkedAdd n.toCounter.upcoming 1 = some (n.issued + 1 + 1) := if_pos h
  have hless : ¬n.toCounter.max ≤ n.issued := Nat.not_le.2 hmax
  rw [Counter.next?, issued?_toCounter, Option.bind_eq_bind, Option.bind_some, if_neg hless, hsum]
  rfl

theorem next?_of_le (hmax : n.max ≤ n.issued) :
    n.toCounter.next? = some (.error (.placeholderOverflow n.max), n.toCounter) := by
  have hnone : n.toCounter.max ≤ n.issued := hmax
  rw [Counter.next?, issued?_toCounter, Option.bind_eq_bind, Option.bind_some, if_pos hnone]
  rfl

theorem take?_toCounter {count : Nat} (h : (n.take count).2.issued < maxCount) :
    n.toCounter.take? count = some ((n.take count).1, (n.take count).2.toCounter) := by
  induction count generalizing n with
  | zero => rfl
  | succ count ih =>
    by_cases hmax : n.issued < n.max
    · -- The rest is taken from a counter that has issued one more, and not too many in the end.
      rw [take_succ_of_lt hmax] at h ⊢
      have hone : n.issued + 1 < maxCount := by
        simp only [snd_take] at h
        omega
      rw [Counter.take?, next?_of_lt hmax hone]
      simp only [Option.bind_eq_bind, Option.bind_some, ih h]
      rfl
    · have hnone := Nat.le_of_not_lt hmax
      rw [take_succ_of_le hnone, Counter.take?, next?_of_le hnone]
      rfl

/-- A step that leaves fewer than the largest number issued stays within 64 bits. -/
theorem perform?_toCounter {step : Step} (h : (n.perform step).2.issued < maxCount) :
    n.toCounter.perform? step = some ((n.perform step).1, (n.perform step).2.toCounter) := by
  cases step with
  | next =>
    by_cases hmax : n.issued < n.max
    · rw [perform, next_of_lt hmax] at h ⊢
      rw [Counter.perform?, next?_of_lt hmax h]
      rfl
    · have hnone := Nat.le_of_not_lt hmax
      rw [perform, next_of_le hnone, Counter.perform?, next?_of_le hnone]
      rfl
  | take count =>
    rw [Counter.perform?, take?_toCounter h]
    rfl
  | restart => rfl

/-- A session that never leaves the largest number issued stays within 64 bits. -/
theorem session?_toCounter {steps : List Step}
    (h : ∀ earlier, earlier <+: steps → (n.session earlier).2.issued < maxCount) :
    n.toCounter.session? steps = some ((n.session steps).1, (n.session steps).2.toCounter) := by
  induction steps generalizing n with
  | nil => rfl
  | cons step steps ih =>
    have hstep : (n.perform step).2.issued < maxCount := h [step] (List.prefix_append [step] steps)
    have hrest : ∀ earlier, earlier <+: steps →
        ((n.perform step).2.session earlier).2.issued < maxCount := by
      intro earlier hearlier
      exact h (step :: earlier) (List.cons_prefix_cons.2 ⟨rfl, hearlier⟩)
    rw [Counter.session?, perform?_toCounter hstep]
    simp only [Option.bind_eq_bind, Option.bind_some, ih hrest]
    rfl

end Numbering

end DerivedQuery
