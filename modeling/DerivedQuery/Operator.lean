import DerivedQuery.PropertyKind

/-!
# Operators

* `Operator`: the tests that a criterion can make.
* `Operator.arity`: how many arguments a test takes.
* `Operator.accepts`: which kinds of property it applies to.
* `ArgumentPattern`: how the argument of a `LIKE` test is completed before it is bound.
-/

namespace DerivedQuery

/-- A test of one property. -/
inductive Operator where
  | equals
  | notEquals
  | greaterThan
  | greaterThanEqual
  | lessThan
  | lessThanEqual
  | before
  | after
  | like
  | notLike
  | startingWith
  | endingWith
  | containing
  | notContaining
  | isIn
  | notIn
  | between
  | isNull
  | isNotNull
  | isTrue
  | isFalse
deriving DecidableEq, Repr

namespace Operator

/-- The number of arguments, and so of placeholders, that the test takes. -/
def arity : Operator → Nat
  | isNull | isNotNull | isTrue | isFalse => 0
  | between => 2
  | _ => 1

/-- The test compares by order. -/
def isOrdering : Operator → Bool
  | greaterThan | greaterThanEqual | lessThan | lessThanEqual | before | after | between => true
  | _ => false

/-- The test is written with `LIKE`. -/
def isLike : Operator → Bool
  | like | notLike | startingWith | endingWith | containing | notContaining => true
  | _ => false

/-- The test compares a boolean property with a constant. -/
def isBoolean : Operator → Bool
  | isTrue | isFalse => true
  | _ => false

/-- The test can pass over differences of case. -/
def supportsIgnoreCase : Operator → Bool
  | equals | notEquals => true
  | _ => false

/-- Properties of kind `k` can be tested so. -/
def accepts (op : Operator) (k : PropertyKind) : Bool :=
  k.isOpaque ||
    if op.isOrdering then k.isComparable
    else if op.isLike then k = .string
    else if op.isBoolean then k = .boolean
    else true

/-- The operator's name in messages. -/
def text : Operator → String
  | equals => "Equals"
  | notEquals => "Not"
  | greaterThan => "GreaterThan"
  | greaterThanEqual => "GreaterThanEqual"
  | lessThan => "LessThan"
  | lessThanEqual => "LessThanEqual"
  | before => "Before"
  | after => "After"
  | like => "Like"
  | notLike => "NotLike"
  | startingWith => "StartingWith"
  | endingWith => "EndingWith"
  | containing => "Containing"
  | notContaining => "NotContaining"
  | isIn => "In"
  | notIn => "NotIn"
  | between => "Between"
  | isNull => "IsNull"
  | isNotNull => "IsNotNull"
  | isTrue => "True"
  | isFalse => "False"

end Operator

/-- Where `%` is added to a text before it is bound to a `LIKE` test. -/
inductive ArgumentPattern where
  | asGiven
  | startingWith
  | endingWith
  | containing
deriving DecidableEq, Repr

/-- The pattern of an operator's arguments. -/
def Operator.pattern : Operator → ArgumentPattern
  | startingWith => .startingWith
  | endingWith => .endingWith
  | containing | notContaining => .containing
  | _ => .asGiven

/-- A text completed to the pattern. -/
def ArgumentPattern.complete : ArgumentPattern → String → String
  | asGiven, s => s
  | startingWith, s => s ++ "%"
  | endingWith, s => "%" ++ s
  | containing, s => "%" ++ s ++ "%"

end DerivedQuery
