import DerivedQuery.MethodName.Reader

/-!
# Spelling a method name

A name is spelled from its parts: words for properties, and between them keywords. The words are
safe, that is, no keyword can be found in them or at their ends.

* `isSafeWord`, `isSafeKey`: words that can stand for a property, and those that can also be sort
  keys.
* `Spelling`: the parts of a name.
* `Spelling.text`, `Spelling.meaning`: the name that is spelled, and what it says.
-/

namespace DerivedQuery.MethodName

/-! ## Safe words -/

/-- `keyword` occurs somewhere in the text, at its end or before a capital. -/
def occursOpen (keyword : String) : List Char → Bool
  | [] => false
  | c :: cs =>
    (Text.dropStart? keyword (c :: cs)).any (fun rest => rest.head?.all Char.isUpper) ||
      occursOpen keyword cs

/-- The keywords at which names are cut. -/
def cuttingKeywords : List String :=
  ["And", "Or", "OrderBy"]

/-- The keywords that may end a criterion; no safe word ends with one of them. -/
def endingKeywords : List String :=
  "All" :: ignoreCaseKeywords ++ operatorKeywords.map (·.1)

/-- An ASCII word that begins with a capital and ends with a letter or a digit. It has no keyword at
its end, and none at which a name would be cut. -/
def isSafeWord (cs : List Char) : Bool :=
  cs.head?.any Char.isUpper && cs.all (fun c => c.isAlphanum || c == '_') &&
    cs.getLast?.any Char.isAlphanum && cuttingKeywords.all (fun k => !occursOpen k cs) &&
      endingKeywords.all fun k => !k.toList.isSuffixOf cs

/-- A safe word that has no direction behind its first character. -/
def isSafeKey (cs : List Char) : Bool :=
  isSafeWord cs && directionKeywords.all fun k => !occursOpen k.1 cs.tail

/-- A word for a property. -/
abbrev Word := { s : String // isSafeWord s.toList = true }

/-- A word for a sort key. -/
abbrev KeyWord := { s : String // isSafeKey s.toList = true }

/-- One of the words in a list, or nothing. -/
abbrev Choice (words : List String) := Option { s : String // s ∈ words }

/-- The chosen word. -/
def Choice.text {words : List String} (c : Choice words) : String :=
  (c.map (·.val)).getD ""

/-! ## Criteria -/

/-- The parts of a criterion. -/
structure TermSpelling where
  word : Word
  /-- An operator and the keyword for it. -/
  operator : Option { entry : String × Operator // entry ∈ operatorKeywords }
  /-- A mode of its own. -/
  ignoreCase : Choice ignoreCaseKeywords

namespace TermSpelling

def operatorText (t : TermSpelling) : String :=
  (t.operator.map (·.val.1)).getD ""

def text (t : TermSpelling) : String :=
  t.word.val ++ t.operatorText ++ t.ignoreCase.text

/-- The criterion, where `mode` holds for those without a mode of their own. -/
def term (mode : CaseMode) (t : TermSpelling) : Term :=
  ⟨t.word.val, (t.operator.map (·.val.2)).getD .equals,
    if t.ignoreCase.isSome then .always else mode⟩

end TermSpelling

/-! ## Limits -/

/-- The digits of a number that a counter can hold, and which is not zero. -/
structure Count where
  digits : String
  areDigits : digits.toList.all Char.isDigit = true
  positive : 1 ≤ Nat.ofDigitChars 10 digits.toList 0
  bounded : Nat.ofDigitChars 10 digits.toList 0 ≤ maxCount

/-- A word that limits the number of results, and how many there may be. -/
structure LimitSpelling where
  word : { s : String // s ∈ limitKeywords }
  count : Option Count

namespace LimitSpelling

def text (l : LimitSpelling) : String :=
  l.word.val ++ (l.count.map (·.digits)).getD ""

/-- The number of results; one, if no number is given. -/
def limit (l : LimitSpelling) : Nat :=
  (l.count.map fun c => Nat.ofDigitChars 10 c.digits.toList 0).getD 1

end LimitSpelling

/-! ## Sort keys -/

def directionText : Direction → String
  | .ascending => "Asc"
  | .descending => "Desc"

/-- The parts of an order. The last key may go without a direction. -/
structure OrderSpelling where
  keys : List (KeyWord × Direction)
  last : KeyWord
  lastDirection : Option Direction

namespace OrderSpelling

def text (o : OrderSpelling) : String :=
  String.join (o.keys.map fun (word, direction) => word.val ++ directionText direction) ++
    o.last.val ++ (o.lastDirection.map directionText).getD ""

def terms (o : OrderSpelling) : List OrderTerm :=
  o.keys.map (fun (word, direction) => ⟨word.val, direction⟩) ++
    [⟨o.last.val, o.lastDirection.getD .ascending⟩]

end OrderSpelling

/-! ## Names -/

/-- The parts of a name. -/
structure Spelling where
  opening : { s : String // s ∈ queryPrefixes }
  distinct : Bool
  limit : Option LimitSpelling
  groups : List (List TermSpelling)
  hasGroups : groups ≠ []
  hasTerms : ∀ group ∈ groups, group ≠ []
  allIgnoreCase : Choice allIgnoreCaseKeywords
  order : Option OrderSpelling

namespace Spelling

def subjectText (s : Spelling) : String :=
  (if s.distinct then "Distinct" else "") ++ (s.limit.map (·.text)).getD ""

def groupText (group : List TermSpelling) : String :=
  "And".intercalate (group.map (·.text))

def groupsText (s : Spelling) : String :=
  "Or".intercalate (s.groups.map groupText)

def criteriaText (s : Spelling) : String :=
  s.groupsText ++ s.allIgnoreCase.text

def orderText (s : Spelling) : String :=
  (s.order.map fun o => "OrderBy" ++ o.text).getD ""

/-- The name. -/
def text (s : Spelling) : String :=
  s.opening.val ++ s.subjectText ++ "By" ++ s.criteriaText ++ s.orderText

/-- The mode of the criteria that have none of their own. -/
def mode (s : Spelling) : CaseMode :=
  if s.allIgnoreCase.isSome then .whenPossible else .never

/-- What the name says. -/
def meaning (s : Spelling) : MethodName where
  distinct := s.distinct
  limit := s.limit.map (·.limit)
  groups := s.groups.map fun group => group.map (·.term s.mode)
  order := (s.order.map (·.terms)).getD []

end Spelling

end DerivedQuery.MethodName
