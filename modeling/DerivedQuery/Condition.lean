import DerivedQuery.Criterion
import DerivedQuery.Json
import DerivedQuery.Numbering

/-!
# Conditions

A condition combines criteria with `AND` and `OR`; each criterion keeps the numbers of its
placeholders from the moment it is made, however it is combined later.

* `Condition.ofCriterion`: a criterion with the next free placeholders.
* `Condition.render`: the text of a `WHERE` clause. `OR` binds looser than `AND`, so parentheses
  stand around an `OR` below an `AND` and nowhere else.
* `Condition.bindings`: the placeholders with the patterns of their arguments.
-/

namespace DerivedQuery

/-- A combination of criteria. -/
inductive Condition where
  /-- One criterion and the numbers of its placeholders. -/
  | test (criterion : Criterion) (placeholders : List Nat)
  | and (left right : Condition)
  | or (left right : Condition)
deriving DecidableEq

/-- A placeholder and how its argument is completed. -/
structure Binding where
  index : Nat
  pattern : ArgumentPattern
deriving DecidableEq, Repr

/-- An argument completed to a pattern; only texts are changed. -/
def ArgumentPattern.apply (p : ArgumentPattern) : Json → Json
  | .str s => .str (p.complete s)
  | v => v

namespace Criterion

/-- A placeholder as it is written. -/
def placeholder (i : Nat) : String :=
  s!"${i}"

/-- The text of a criterion on a property `p` with placeholders `a` and, for a range, `b`. -/
def phrase (op : Operator) (ignoreCase : Bool) (p a b : String) : String :=
  match op with
  | .equals => if ignoreCase then s!"{p}.equalsIgnoreCase({a})" else s!"{p} = {a}"
  | .notEquals => if ignoreCase then s!"NOT {p}.equalsIgnoreCase({a})" else s!"{p} != {a}"
  | .greaterThan | .after => s!"{p} > {a}"
  | .greaterThanEqual => s!"{p} >= {a}"
  | .lessThan | .before => s!"{p} < {a}"
  | .lessThanEqual => s!"{p} <= {a}"
  | .like | .startingWith | .endingWith | .containing => s!"{p} LIKE {a}"
  | .notLike | .notContaining => s!"NOT ({p} LIKE {a})"
  | .isIn => s!"{p} IN SET {a}"
  | .notIn => s!"{p} NOT IN SET {a}"
  | .between => s!"{p} >= {a} AND {p} <= {b}"
  | .isNull => s!"{p} = NULL"
  | .isNotNull => s!"{p} != NULL"
  | .isTrue => s!"{p} = true"
  | .isFalse => s!"{p} = false"

/-- The text of a criterion about the object called `object`. -/
def render (c : Criterion) (placeholders : List Nat) (object : String) : String :=
  let argument (i : Nat) := (placeholders[i]?.map placeholder).getD ""
  phrase c.operator c.ignoreCase (c.path.qualified object) (argument 0) (argument 1)

end Criterion

namespace Condition

/-- A criterion with as many placeholders as it takes arguments. -/
def ofCriterion (c : Criterion) (n : Numbering) : Except QueryError Condition × Numbering :=
  match n.take c.arity with
  | (.ok placeholders, n) => (.ok (.test c placeholders), n)
  | (.error e, n) => (.error e, n)

def isOr : Condition → Bool
  | .or .. => true
  | _ => false

/-- The text of the condition about the object called `object`. -/
def render (object : String) : Condition → String
  | test c placeholders => c.render placeholders object
  | and a b => operand a (a.render object) ++ " AND " ++ operand b (b.render object)
  | or a b => a.render object ++ " OR " ++ b.render object
where
  /-- An operand of `AND`, in parentheses where `OR` would bind too far. -/
  operand (c : Condition) (text : String) : String :=
    if c.isOr then "(" ++ text ++ ")" else text

/-- The criteria with their placeholders, from left to right. -/
def tests : Condition → List (Criterion × List Nat)
  | test c placeholders => [(c, placeholders)]
  | and a b | or a b => a.tests ++ b.tests

/-- The placeholders of one criterion with the pattern of its operator. -/
def bindingsOf (c : Criterion) (placeholders : List Nat) : List Binding :=
  placeholders.map fun i => ⟨i, c.operator.pattern⟩

/-- Every placeholder, from left to right. -/
def bindings (c : Condition) : List Binding :=
  c.tests.flatMap fun t => bindingsOf t.1 t.2

/-- The number of placeholders. -/
def placeholderCount (c : Condition) : Nat :=
  c.tests.foldr (fun t count => t.2.length + count) 0

theorem length_bindings (c : Condition) : c.bindings.length = c.placeholderCount := by
  unfold bindings placeholderCount
  induction c.tests with
  | nil => rfl
  | cons t ts ih =>
    rw [List.flatMap_cons, List.length_append, ih, bindingsOf, List.length_map, List.foldr_cons]

end Condition

end DerivedQuery
