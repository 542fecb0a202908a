import DerivedQuery.Proofs.Numbering.Counter

/-!
# The numbers of a session

Whatever is done with a numbering, the numbers that it has given out since it last started over are
1, 2, and so on up to the number it counts as issued, which never exceeds its bound. Numbers that
were given out while too many were taken are among them, though nobody sees them.

* `Numbering.drawn`, `Numbering.sinceRestart`: the numbers that are given out, in the order in which
  that happens.
* `Numbering.Answers`: what a step gives and leaves; `answers_perform`.
* `session_numbers`: the numbers of a session, and that it stays within 64 bits.
-/

namespace DerivedQuery.Numbering

variable {n : Numbering}

/-- The numbers that are given out while `count` are taken, those in front of an error included. -/
def drawn (n : Numbering) : Nat → List Nat
  | 0 => []
  | count + 1 =>
    match n.next with
    | .ok (i, m) => i :: m.drawn count
    | .error _ => []

/-- The numbers that a step gives out. -/
def given (n : Numbering) : Step → List Nat
  | .next => n.drawn 1
  | .take count => n.drawn count
  | .restart => []

/-- The numbers that are given out by some steps since the last of them that starts over. Those in
`before` were given out in front of all steps. -/
def sinceRestart (n : Numbering) (before : List Nat) : List Step → List Nat
  | [] => before
  | step :: steps =>
    (n.perform step).2.sinceRestart (if step = .restart then [] else before ++ n.given step) steps

/-- `Answers n step reply m`: the step gives `reply` and leaves `m`. A number is given out if the
bound is not reached. Several are given out if so many are left; else all that are left are used up,
and the bound is reported. -/
inductive Answers (n : Numbering) : Step → Reply → Numbering → Prop
  | numbered (left : n.issued < n.max) :
    Answers n .next (.number (.ok (n.issued + 1))) ⟨n.max, n.issued + 1⟩
  | exhausted (reached : n.issued = n.max) :
    Answers n .next (.number (.error (.placeholderOverflow n.max))) n
  | taken {count : Nat} (left : count ≤ n.max - n.issued) :
    Answers n (.take count) (.numbers (.ok (List.range' (n.issued + 1) count)))
      ⟨n.max, n.issued + count⟩
  | usedUp {count : Nat} (short : n.max - n.issued < count) :
    Answers n (.take count) (.numbers (.error (.placeholderOverflow n.max))) ⟨n.max, n.max⟩
  | restarted : Answers n .restart .restarted ⟨n.max, 0⟩

/-! ## One step -/

/-- Every step is answered as the numbers that are left allow. -/
theorem answers_perform (h : n.issued ≤ n.max) (step : Step) :
    Answers n step (n.perform step).1 (n.perform step).2 := by
  cases step with
  | next =>
    by_cases hlt : n.issued < n.max
    · rw [perform, next_of_lt hlt]
      exact .numbered hlt
    · rw [perform, next_of_le (Nat.le_of_not_lt hlt)]
      exact .exhausted (by omega)
  | take count =>
    by_cases hle : count ≤ n.max - n.issued
    · rw [perform, take_of_le (by omega)]
      exact .taken hle
    · -- The numbers are used up before the error is known.
      have hall : n.issued + (n.max - n.issued) = n.max := by omega
      rw [perform, take_of_lt (by omega) (by omega), hall]
      exact .usedUp (Nat.lt_of_not_le hle)
  | restart => exact .restarted

/-- As many numbers are given out as are asked for and left. -/
theorem drawn_eq (n : Numbering) (count : Nat) :
    n.drawn count = List.range' (n.issued + 1) (min count (n.max - n.issued)) := by
  induction count generalizing n with
  | zero => simp [drawn]
  | succ count ih =>
    by_cases hlt : n.issued < n.max
    · have hmin : min (count + 1) (n.max - n.issued) =
          min count (n.max - (n.issued + 1)) + 1 := by omega
      rw [drawn, next_of_lt hlt, hmin, List.range'_succ]
      simp only [ih]
    · have hmin : min (count + 1) (n.max - n.issued) = 0 := by omega
      rw [drawn, next_of_le (Nat.le_of_not_lt hlt), hmin, List.range'_zero]

/-- What is kept by every step: the bound, and that it is not exceeded. The numbers that the step
gives out are those behind the ones before. -/
theorem Answers.keeps {step : Step} {reply : Reply} {m : Numbering} (h : Answers n step reply m)
    (hn : n.issued ≤ n.max) :
    m.max = n.max ∧ m.issued ≤ n.max ∧
      (if step = .restart then [] else List.range' 1 n.issued ++ n.given step) =
        List.range' 1 m.issued := by
  -- Numbers are issued in a row, so those of a step go on where the earlier ones ended.
  have happend (count : Nat) (hdrawn : n.given step = List.range' (n.issued + 1) count)
      (hstep : step ≠ .restart) :
      (if step = .restart then [] else List.range' 1 n.issued ++ n.given step) =
        List.range' 1 (n.issued + count) := by
    rw [if_neg hstep, hdrawn, Nat.add_comm n.issued 1, List.range'_append_1]
  cases h with
  | numbered left =>
    have hmin : min 1 (n.max - n.issued) = 1 := by omega
    refine ⟨rfl, left, happend 1 ?_ (by simp)⟩
    rw [given, drawn_eq, hmin]
  | exhausted reached =>
    have hmin : min 1 (n.max - n.issued) = 0 := by omega
    refine ⟨rfl, hn, happend 0 ?_ (by simp)⟩
    rw [given, drawn_eq, hmin]
  | taken left =>
    refine ⟨rfl, by show n.issued + _ ≤ n.max; omega, happend _ ?_ (by simp)⟩
    rw [given, drawn_eq, Nat.min_eq_left left]
  | usedUp short =>
    have hall : n.issued + (n.max - n.issued) = n.max := by omega
    refine ⟨rfl, Nat.le_refl _, ?_⟩
    rw [← hall]
    apply happend
    · rw [given, drawn_eq, Nat.min_eq_right (Nat.le_of_lt short)]
    · simp
  | restarted => exact ⟨rfl, Nat.zero_le _, rfl⟩

/-! ## Sessions -/

/-- A session keeps the bound and does not exceed it, and the numbers since the last restart are
those up to the number that is issued. -/
theorem sinceRestart_eq (hn : n.issued ≤ n.max) (steps : List Step) :
    (n.session steps).2.max = n.max ∧ (n.session steps).2.issued ≤ n.max ∧
      n.sinceRestart (List.range' 1 n.issued) steps =
        List.range' 1 (n.session steps).2.issued := by
  induction steps generalizing n with
  | nil => exact ⟨rfl, hn, rfl⟩
  | cons step steps ih =>
    obtain ⟨hmax, hissued, hnumbers⟩ := (answers_perform hn step).keeps hn
    rw [← hmax] at hissued ⊢
    rw [sinceRestart, hnumbers]
    exact ih hissued

/-- Whatever is done with a numbering, its bound stays and is not exceeded, and the numbers given out
since it last started over are 1, 2, and so on up to the number it counts as issued. Each step gives
and leaves what `Answers` says. Where fewer than the largest 64-bit number are given out
between restarts, no sum and no difference of the counter that keeps the numbering is out of
range. -/
theorem session_numbers (max : Nat) {steps : List Step}
    (h : ∀ earlier, earlier <+: steps →
      ((upTo max).sinceRestart [] earlier).length < maxCount) :
    let n := ((upTo max).session steps).2
    n.max = max ∧ n.issued ≤ max ∧
      (upTo max).sinceRestart [] steps = List.range' 1 n.issued ∧
      (∀ earlier step later, steps = earlier ++ step :: later →
        let m := ((upTo max).session earlier).2
        m.max = max ∧ Answers m step (m.perform step).1 (m.perform step).2) ∧
      (Counter.upTo max).session? steps =
        some (((upTo max).session steps).1, ⟨max, n.issued + 1⟩) ∧
      n.toCounter.issued? = some n.issued := by
  intro n
  -- What holds at the end of a session holds at the end of each beginning of it.
  have hrun (steps : List Step) : ((upTo max).session steps).2.max = max ∧
      ((upTo max).session steps).2.issued ≤ max ∧
        (upTo max).sinceRestart [] steps = List.range' 1 ((upTo max).session steps).2.issued :=
    sinceRestart_eq (n := upTo max) (Nat.zero_le max) steps
  -- The counter stands one beyond the number that was issued last, and so needs room for one more.
  have hbelow : ∀ earlier, earlier <+: steps →
      ((upTo max).session earlier).2.issued < maxCount := by
    intro earlier hearlier
    have hlength := h earlier hearlier
    rw [(hrun earlier).2.2, List.length_range'] at hlength
    exact hlength
  obtain ⟨hmax, hissued, hnumbers⟩ := hrun steps
  refine ⟨hmax, hissued, hnumbers, ?_, ?_, issued?_toCounter n⟩
  · intro earlier step later _ m
    obtain ⟨hm, hle, -⟩ := hrun earlier
    have hbound : m.issued ≤ m.max := by
      rw [hm]
      exact hle
    exact ⟨hm, answers_perform hbound step⟩
  · have hcounter : (Counter.upTo max).session? steps =
        some (((upTo max).session steps).1, n.toCounter) := session?_toCounter hbelow
    rw [hcounter, toCounter, hmax]

/-- Five numbers are taken of the two that are left, and then it starts over. -/
theorem session_numbers_usedUp :
    let steps : List Step := [.next, .take 5, .next, .restart, .take 2]
    (∀ earlier, earlier <+: steps → ((upTo 3).sinceRestart [] earlier).length < maxCount) ∧
      (upTo 3).sinceRestart [] [.next, .take 5] = [1, 2, 3] ∧
      (upTo 3).sinceRestart [] steps = [1, 2] ∧
      (Counter.upTo 3).session? steps = some (((upTo 3).session steps).1, ⟨3, 3⟩) := by
  intro steps
  have hfew : ∀ earlier, earlier <+: steps →
      ((upTo 3).sinceRestart [] earlier).length < maxCount := by
    have htake : ∀ k ≤ steps.length,
        ((upTo 3).sinceRestart [] (steps.take k)).length < maxCount := by decide
    intro earlier hearlier
    rw [List.prefix_iff_eq_take.1 hearlier]
    exact htake _ hearlier.length_le
  obtain ⟨-, -, hnumbers, -, hcounter, -⟩ := session_numbers 3 hfew
  exact ⟨hfew, by decide, hnumbers, hcounter⟩

end DerivedQuery.Numbering
