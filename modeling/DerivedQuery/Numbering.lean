import DerivedQuery.QueryError

/-!
# Numbering placeholders

The placeholders of a query are numbered from 1 in the order in which its criteria are made, up to
the number of arguments the method declares.

* `Numbering.next`, `Numbering.take`: the next number, and the next few.
* `Numbering.take` consumes the numbers that are left even when they are too few.
* `Numbering.perform`, `Numbering.session`: one step of a numbering, and several.
-/

namespace DerivedQuery

/-- The largest number a counter can reach. -/
def maxCount : Nat := Nat.pow 2 64 - 1

/-- How many placeholders have been numbered, and how many may be. -/
structure Numbering where
  max : Nat
  issued : Nat
deriving DecidableEq, Repr

namespace Numbering

/-- Nothing numbered yet, and at most `max` numbers to give. -/
def upTo (max : Nat) : Numbering :=
  ⟨max, 0⟩

/-- Nothing numbered yet, and no bound that a query could reach. -/
def unbounded : Numbering :=
  upTo maxCount

/-- The next number, and the numbering after it. -/
def next (n : Numbering) : Except QueryError (Nat × Numbering) :=
  if n.issued < n.max then .ok (n.issued + 1, { n with issued := n.issued + 1 })
  else .error (.placeholderOverflow n.max)

/-- The next `count` numbers, and the numbering after them. When they run out, those before have
been given all the same. -/
def take (n : Numbering) : Nat → Except QueryError (List Nat) × Numbering
  | 0 => (.ok [], n)
  | count + 1 =>
    match n.next with
    | .error e => (.error e, n)
    | .ok (i, n) =>
      match n.take count with
      | (.ok is, n) => (.ok (i :: is), n)
      | (.error e, n) => (.error e, n)

/-- Starts over at 1. -/
def restart (n : Numbering) : Numbering :=
  { n with issued := 0 }

/-! ## Sessions -/

/-- What can be done with a numbering. -/
inductive Step where
  | next
  | take (count : Nat)
  | restart
deriving DecidableEq, Repr

/-- What a step gives. -/
inductive Reply where
  | number (r : Except QueryError Nat)
  | numbers (r : Except QueryError (List Nat))
  | restarted

/-- Does one step. -/
def perform (n : Numbering) : Step → Reply × Numbering
  | .next =>
    match n.next with
    | .ok (i, m) => (.number (.ok i), m)
    | .error e => (.number (.error e), n)
  | .take count => (.numbers (n.take count).1, (n.take count).2)
  | .restart => (.restarted, n.restart)

/-- Does some steps, one after the other. -/
def session (n : Numbering) : List Step → List Reply × Numbering
  | [] => ([], n)
  | step :: steps =>
    let (reply, m) := n.perform step
    let (replies, m) := m.session steps
    (reply :: replies, m)

end Numbering

end DerivedQuery
