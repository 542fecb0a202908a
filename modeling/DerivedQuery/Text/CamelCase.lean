import DerivedQuery.Text.Alphanumeric
import DerivedQuery.Text.CaseMap
import DerivedQuery.Text.Lowercase
import DerivedQuery.Text.Uppercase

/-!
# Words and their case styles

A text is read as words: they end where a character is neither letter nor number, where a capital
follows a small letter, and before the last of several capitals that a small letter follows.

* `words`: the words of a text, none of them empty.
* `lowerCamel`, `upperCamel`, `snake`: the words written `likeThis`, `LikeThis`, `like_this`.
-/

namespace DerivedQuery.Text

/-! ## Words -/

/-- The maximal runs of letters and numbers, with empty runs between neighbouring separators. -/
def runs : List Char → List (List Char)
  | [] => [[]]
  | c :: cs =>
    if isAlphanumeric c then
      match runs cs with
      | r :: rs => (c :: r) :: rs
      | [] => [[c]]
    else [] :: runs cs

/-- The case of the characters read since the current word began. -/
inductive WordCase where
  /-- Nothing yet, or characters without case only. -/
  | undecided
  | lower
  | upper
deriving DecidableEq, Repr

/-- The case after one more character; a character without case changes nothing. -/
def WordCase.after (mode : WordCase) (c : Char) : WordCase :=
  if isLowercase c then .lower else if isUppercase c then .upper else mode

/-- The words of a run of letters and numbers. `word` holds what has been read of the current word,
last character first. -/
def wordsOfRun (mode : WordCase) (word : List Char) : List Char → List (List Char)
  | [] => []
  | [c] => [(c :: word).reverse]
  | c :: next :: rest =>
    if mode.after c = .lower && isUppercase next then
      (c :: word).reverse :: wordsOfRun .undecided [] (next :: rest)
    else if mode = .upper && isUppercase c && isLowercase next then
      word.reverse :: wordsOfRun .undecided [c] (next :: rest)
    else wordsOfRun (mode.after c) (c :: word) (next :: rest)

/-- The words of a text. -/
def words (s : String) : List (List Char) :=
  (runs s.toList).flatMap (wordsOfRun .undecided [])

/-! ## Styles -/

/-- A word in small letters; a `Σ` at its end becomes `ς`. -/
def lowerWord : List Char → List Char
  | [] => []
  | [c] => if c = 'Σ' then ['ς'] else lowerChar c
  | c :: cs => lowerChar c ++ lowerWord cs

/-- A word with a capital in front. -/
def capitalWord : List Char → List Char
  | [] => []
  | c :: cs => upperChar c ++ lowerWord cs

/-- The words without separators, each with a capital. -/
def upperCamel (s : String) : String :=
  String.ofList ((words s).flatMap capitalWord)

/-- The words without separators, each but the first with a capital. -/
def lowerCamel (s : String) : String :=
  match words s with
  | [] => ""
  | w :: ws => String.ofList (lowerWord w ++ ws.flatMap capitalWord)

/-- The words in small letters with `_` between them. -/
def snake (s : String) : String :=
  String.ofList (['_'].intercalate ((words s).map lowerWord))

/-- Equal up to the case of ASCII letters. -/
def sameIgnoringAsciiCase (a b : String) : Bool :=
  a.toList.map Char.toLower = b.toList.map Char.toLower

end DerivedQuery.Text
