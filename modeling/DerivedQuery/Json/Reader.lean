import DerivedQuery.Numbering

/-!
# Reading JSON text

A reader takes a value off the beginning of a text. Readers for the wanted kinds of value come
first; `skipValue` passes over any other.

* `readString`: a string; escaped surrogates must come in pairs.
* `readList`, `readNullable`, `readFlag`, `readCount`: lists, values that may be `null`, truth
  values, and integers that a counter can hold.
* `skipValue`: any value at all. A string that is passed over may hold surrogates in any order.
-/

namespace DerivedQuery.Json

/-- Takes a value off the beginning of a text. -/
abbrev Reader (α : Type) := List Char → Option (α × List Char)

/-- White space between tokens. -/
def isGap (c : Char) : Bool :=
  c == ' ' || c == '\n' || c == '\t' || c == '\r'

/-- The text from the first character that is not white space. -/
def skipGap (cs : List Char) : List Char :=
  cs.dropWhile isGap

/-- What follows a given character, white space in front of it being passed over. -/
def symbol (c : Char) (cs : List Char) : Option (List Char) :=
  match skipGap cs with
  | d :: rest => if d = c then some rest else none
  | [] => none

/-- What follows a given word. -/
def word (w : String) (cs : List Char) : Option (List Char) :=
  w.toList.isPrefixOf? (skipGap cs)

/-! ## Strings -/

/-- The value of a hexadecimal digit. -/
def hexValue? (c : Char) : Option Nat :=
  if c.isDigit then some (c.toNat - 48)
  else if 'a' ≤ c ∧ c ≤ 'f' then some (c.toNat - 87)
  else if 'A' ≤ c ∧ c ≤ 'F' then some (c.toNat - 55)
  else none

/-- The value of four hexadecimal digits. -/
def hexUnit? (a b c d : Char) : Option Nat := do
  return (((← hexValue? a) * 16 + (← hexValue? b)) * 16 + (← hexValue? c)) * 16 + (← hexValue? d)

/-- The code point of an escape of one letter. -/
def shortEscape? : Char → Option Nat
  | '"' => some 0x22
  | '\\' => some 0x5C
  | '/' => some 0x2F
  | 'b' => some 8
  | 'f' => some 12
  | 'n' => some 10
  | 'r' => some 13
  | 't' => some 9
  | _ => none

/-- The body of a string, up to and including the closing quote, as code points; an escape may give
half of a surrogate pair. Control characters have to be escaped. -/
def readUnits : Reader (List Nat)
  | [] => none
  | '"' :: cs => some ([], cs)
  | '\\' :: 'u' :: a :: b :: c :: d :: cs => do
    let unit ← hexUnit? a b c d
    let (units, rest) ← readUnits cs
    return (unit :: units, rest)
  | '\\' :: e :: cs => do
    let unit ← shortEscape? e
    let (units, rest) ← readUnits cs
    return (unit :: units, rest)
  | c :: cs =>
    if c = '\\' || c.toNat < 0x20 then none
    else (readUnits cs).map fun (units, rest) => (c.toNat :: units, rest)

/-- The first half of a surrogate pair. -/
def isHighSurrogate (n : Nat) : Bool :=
  0xD800 ≤ n && n < 0xDC00

/-- The second half of a surrogate pair. -/
def isLowSurrogate (n : Nat) : Bool :=
  0xDC00 ≤ n && n < 0xE000

/-- The characters that code points stand for. Surrogates stand for one only in pairs. -/
def joinSurrogates : List Nat → Option (List Char)
  | [] => some []
  | [n] => if isHighSurrogate n || isLowSurrogate n then none else some [Char.ofNat n]
  | n :: m :: ns =>
    if isHighSurrogate n then
      if isLowSurrogate m then
        (joinSurrogates ns).map (Char.ofNat (0x10000 + (n - 0xD800) * 0x400 + (m - 0xDC00)) :: ·)
      else none
    else if isLowSurrogate n then none
    else (joinSurrogates (m :: ns)).map (Char.ofNat n :: ·)

/-- A string. -/
def readString : Reader String := fun cs => do
  let (units, rest) ← readUnits (← symbol '"' cs)
  return (String.ofList (← joinSurrogates units), rest)

/-- What follows a string of whatever content. -/
def skipString (cs : List Char) : Option (List Char) := do
  let (_, rest) ← readUnits (← symbol '"' cs)
  return rest

/-! ## Other values -/

/-- The digits of an integer: no zero in front of another digit. -/
def readDigits : Reader (List Char) := fun cs =>
  match skipGap cs with
  | '0' :: rest => if rest.head?.any Char.isDigit then none else some (['0'], rest)
  | c :: rest =>
    if c.isDigit then some (c :: rest.takeWhile Char.isDigit, rest.dropWhile Char.isDigit)
    else none
  | [] => none

/-- The number that digits write. -/
def digitsValue (digits : List Char) : Nat :=
  digits.foldl (fun n d => 10 * n + (d.toNat - '0'.toNat)) 0

/-- An integer that is not negative and that a counter can hold. -/
def readCount : Reader Nat := fun cs => do
  let (digits, rest) ← readDigits cs
  if digitsValue digits ≤ maxCount then some (digitsValue digits, rest) else none

/-- `true` or `false`. -/
def readFlag : Reader Bool := fun cs =>
  ((word "true" cs).map (true, ·)).or ((word "false" cs).map (false, ·))

/-- A value or `null`. -/
def readNullable (read : Reader α) : Reader (Option α) := fun cs =>
  match word "null" cs with
  | some rest => some (none, rest)
  | none => (read cs).map fun (a, rest) => (some a, rest)

/-- The rest of a list from one of its values on, with at most `fuel` values. -/
def readItems (read : Reader α) : Nat → Reader (List α)
  | 0, _ => none
  | fuel + 1, cs => do
    let (a, cs) ← read cs
    match symbol ']' cs with
    | some rest => some ([a], rest)
    | none =>
      let (as, rest) ← readItems read fuel (← symbol ',' cs)
      return (a :: as, rest)

/-- A list. -/
def readList (read : Reader α) : Reader (List α) := fun cs => do
  let cs ← symbol '[' cs
  match symbol ']' cs with
  | some rest => some ([], rest)
  | none => readItems read cs.length cs

/-! ## Any value -/

/-- What follows one or more digits. -/
def skipDigits : List Char → Option (List Char)
  | c :: cs => if c.isDigit then some (cs.dropWhile Char.isDigit) else none
  | [] => none

/-- What follows a fraction, if there is one. -/
def skipFraction : List Char → Option (List Char)
  | '.' :: cs => skipDigits cs
  | cs => some cs

/-- What follows an exponent, if there is one. -/
def skipExponent : List Char → Option (List Char)
  | c :: cs =>
    if c = 'e' || c = 'E' then
      match cs with
      | s :: ds => if s = '+' || s = '-' then skipDigits ds else skipDigits cs
      | [] => none
    else some (c :: cs)
  | [] => some []

/-- What follows a number. -/
def skipNumber (cs : List Char) : Option (List Char) := do
  let start := match skipGap cs with
    | '-' :: rest => rest
    | rest => rest
  if start.head?.any Char.isDigit then
    let (_, rest) ← readDigits start
    skipExponent (← skipFraction rest)
  else none

mutual

/-- What follows a value, with at most `fuel` steps. -/
def skipNested : Nat → List Char → Option (List Char)
  | 0, _ => none
  | fuel + 1, cs =>
    match skipGap cs with
    | '"' :: _ => skipString cs
    | '[' :: rest => (symbol ']' rest).or (skipItems fuel rest)
    | '{' :: rest => (symbol '}' rest).or (skipMembers fuel rest)
    | _ => (word "null" cs).or <| (word "true" cs).or <| (word "false" cs).or (skipNumber cs)

/-- What follows the rest of a list, from one of its values on. -/
def skipItems : Nat → List Char → Option (List Char)
  | 0, _ => none
  | fuel + 1, cs => do
    let cs ← skipNested fuel cs
    match symbol ']' cs with
    | some rest => some rest
    | none => skipItems fuel (← symbol ',' cs)

/-- What follows the rest of an object, from one of its members on. -/
def skipMembers : Nat → List Char → Option (List Char)
  | 0, _ => none
  | fuel + 1, cs => do
    let cs ← skipNested fuel (← symbol ':' (← skipString cs))
    match symbol '}' cs with
    | some rest => some rest
    | none => skipMembers fuel (← symbol ',' cs)

end

/-- What follows a value. -/
def skipValue (cs : List Char) : Option (List Char) :=
  skipNested (2 * cs.length + 1) cs

end DerivedQuery.Json
