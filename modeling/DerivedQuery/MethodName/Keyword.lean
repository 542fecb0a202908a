import DerivedQuery.MethodName
import DerivedQuery.Text.Alphanumeric
import DerivedQuery.Text.Slice
import DerivedQuery.Text.Uppercase

/-!
# Keywords in method names

Names have no separators: keywords are told from the words around them by capitals.

* `operatorKeywords`: the words that end a criterion, with the operators they stand for.
* `cutAtKeyword`: a text cut at `And`, `Or` or `OrderBy`, where the keyword follows a letter or a
  number and a capital follows it.
-/

namespace DerivedQuery.MethodName

/-- The operators and the words for them. No entry ends with an earlier one, so the first entry
that ends a criterion is also the longest. -/
def operatorKeywords : List (String × Operator) := [
  ("IsNotNull", .isNotNull),
  ("NotNull", .isNotNull),
  ("IsNull", .isNull),
  ("Null", .isNull),
  ("IsBetween", .between),
  ("Between", .between),
  ("IsLessThanEqual", .lessThanEqual),
  ("LessThanEqual", .lessThanEqual),
  ("IsLessThan", .lessThan),
  ("LessThan", .lessThan),
  ("IsGreaterThanEqual", .greaterThanEqual),
  ("GreaterThanEqual", .greaterThanEqual),
  ("IsGreaterThan", .greaterThan),
  ("GreaterThan", .greaterThan),
  ("IsBefore", .before),
  ("Before", .before),
  ("IsAfter", .after),
  ("After", .after),
  ("IsNotLike", .notLike),
  ("NotLike", .notLike),
  ("IsLike", .like),
  ("Like", .like),
  ("IsStartingWith", .startingWith),
  ("StartingWith", .startingWith),
  ("StartsWith", .startingWith),
  ("IsEndingWith", .endingWith),
  ("EndingWith", .endingWith),
  ("EndsWith", .endingWith),
  ("IsNotContaining", .notContaining),
  ("NotContaining", .notContaining),
  ("NotContains", .notContaining),
  ("IsContaining", .containing),
  ("Containing", .containing),
  ("Contains", .containing),
  ("IsNotIn", .notIn),
  ("NotIn", .notIn),
  ("IsIn", .isIn),
  ("In", .isIn),
  ("IsTrue", .isTrue),
  ("True", .isTrue),
  ("IsFalse", .isFalse),
  ("False", .isFalse),
  ("IsNot", .notEquals),
  ("Not", .notEquals),
  ("Is", .equals),
  ("Equals", .equals)]

/-- The words that make one criterion ignore case. -/
def ignoreCaseKeywords : List String :=
  ["IgnoringCase", "IgnoreCase"]

/-- The words that make all criteria ignore case where they can. -/
def allIgnoreCaseKeywords : List String :=
  ["AllIgnoringCase", "AllIgnoreCase"]

/-- The words that give a sort key its direction. -/
def directionKeywords : List (String × Direction) :=
  [("Desc", .descending), ("Asc", .ascending)]

/-- What precedes the first of `keywords` that ends the text, and what it stands for. -/
def dropKeyword? (keywords : List (String × α)) (cs : List Char) : Option (List Char × α) :=
  keywords.findSome? fun (word, meaning) => (Text.dropEnd? word cs).map (·, meaning)

/-! ## Cutting at keywords -/

/-- Whether `keyword` stands at the beginning of `cs` as a keyword: `before` is a letter or a
number, and a capital follows. -/
def standsAt (keyword : String) (before : Option Char) (cs : List Char) : Bool :=
  match Text.dropStart? keyword cs with
  | some rest => before.any Text.isAlphanumeric && rest.head?.any Text.isUppercase
  | none => false

/-- The pieces of `cs` between keywords, where `before` is the character in front of `cs`. `skip`
counts the characters of a keyword that are still to be passed over. -/
def cutFrom (keyword : String) (before : Option Char) : Nat → List Char → List (List Char)
  | _, [] => [[]]
  | skip + 1, c :: cs => cutFrom keyword (some c) skip cs
  | 0, c :: cs =>
    if standsAt keyword before (c :: cs) then
      [] :: cutFrom keyword (some c) (keyword.length - 1) cs
    else match cutFrom keyword (some c) 0 cs with
      | p :: ps => (c :: p) :: ps
      | [] => [[c]]

/-- The pieces of a text between keywords. -/
def cutAtKeyword (keyword : String) (cs : List Char) : List (List Char) :=
  cutFrom keyword none 0 cs

end DerivedQuery.MethodName
