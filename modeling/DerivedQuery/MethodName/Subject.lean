import DerivedQuery.MethodName.Keyword
import DerivedQuery.Numbering
import DerivedQuery.Text.Numeric

/-!
# The subject of a method name

The part of a name from its first word up to `By`.

* `splitPrefix?`: the first word, which says that the method is a query.
* `splitBy?`: the subject and the criteria after it.
* `readSubject`: whether results are distinct, and how many there may be.
-/

namespace DerivedQuery.MethodName

/-- What follows the word that begins a query method's name. -/
def splitPrefix? (cs : List Char) : Option (List Char) :=
  queryPrefixes.findSome? fun word => Text.dropStart? word cs

/-- The characters before and after the first `By`; the search ends with the line. -/
def splitAtBy? : List Char → Option (List Char × List Char)
  | [] => none
  | c :: cs =>
    match Text.dropStart? "By" (c :: cs) with
    | some rest => some ([], rest)
    | none => if c = '\n' then none else (splitAtBy? cs).map fun (s, rest) => (c :: s, rest)

/-- The subject and the criteria. A subject that is not empty begins with a capital letter, and
that letter does not begin the `By`. -/
def splitBy? (cs : List Char) : Option (List Char × List Char) :=
  match Text.dropStart? "By" cs with
  | some rest => some ([], rest)
  | none =>
    match cs with
    | [] => none
    | c :: cs =>
      if Text.isUppercaseLetter c then (splitAtBy? cs).map fun (s, rest) => (c :: s, rest)
      else none

/-- The words that limit the number of results. -/
def limitKeywords : List String :=
  ["First", "Top"]

/-- The digits after the first limiting word. -/
def limitDigits? : List Char → Option (List Char)
  | [] => none
  | c :: cs =>
    match limitKeywords.findSome? fun word => Text.dropStart? word (c :: cs) with
    | some rest => some (rest.takeWhile Text.isDecimalDigit)
    | none => limitDigits? cs

/-- The number that ASCII digits write, if it is one that a counter can hold. -/
def readCount? (digits : List Char) : Option Nat :=
  if digits.all Char.isDigit then
    let n := digits.foldl (fun n d => 10 * n + (d.toNat - '0'.toNat)) 0
    if n ≤ maxCount then some n else none
  else none

/-- The limit that digits after a limiting word stand for; no digits mean one result. -/
def readLimit (digits : List Char) : Except NameFault Nat :=
  if digits.isEmpty then .ok 1
  else match readCount? digits with
    | none => .error (.unreadableLimit (String.ofList digits))
    | some 0 => .error .zeroLimit
    | some n => .ok n

/-- A name with the given subject and nothing else. -/
def readSubject (subject : List Char) : Except NameFault MethodName := do
  let limit ← match limitDigits? subject with
    | none => pure none
    | some digits => some <$> readLimit digits
  return ⟨Text.occursIn "Distinct".toList subject, limit, [], []⟩

end DerivedQuery.MethodName
