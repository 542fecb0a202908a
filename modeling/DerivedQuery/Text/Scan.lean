import DerivedQuery.Text.Blank
import DerivedQuery.Text.CaseMap
import DerivedQuery.Text.WordChar

/-!
# Scanning a text

A scanner takes characters off the beginning of a text and returns the rest, or nothing if the text
does not begin so.

* `keyword`: a word in any case; `space`: white space, at least one character of it.
* `untilAfter`: everything up to and including a character.
* `somewhere`: whether a test holds at any position of a text.
-/

namespace DerivedQuery.Text

/-- A scanner: the rest of a text that begins as it should. -/
abbrev Scanner := List Char → Option (List Char)

/-- A word given in capitals, read in any case. -/
def keywordChars : List Char → Scanner
  | [], cs => some cs
  | _ :: _, [] => none
  | k :: ks, c :: cs => if foldsTo k c then keywordChars ks cs else none

/-- A word given in capitals, read in any case. -/
def keyword (word : String) : Scanner :=
  keywordChars word.toList

/-- White space, as much as there is and at least one character. -/
def space : Scanner
  | [] => none
  | c :: cs => if isBlank c then some (trimStart cs) else none

/-- Everything up to the first `stop`, and that. -/
def untilAfter (stop : Char) : Scanner
  | [] => none
  | c :: cs => if c = stop then some cs else untilAfter stop cs

/-- A character, if it is there. -/
def optionally (c : Char) : List Char → List Char
  | [] => []
  | d :: cs => if d = c then cs else d :: cs

/-- Whether a test holds at some position of `cs`; it is given the character in front of the
position and the characters from there on. -/
def somewhere (test : Option Char → List Char → Bool) (before : Option Char) : List Char → Bool
  | [] => test before []
  | c :: cs => test before (c :: cs) || somewhere test (some c) cs

/-! ## What is left is an end of the text

Strictly so where something has to be taken off, which is what loops over scanners end by. -/

/-- A shorter end of `cs` is what a scanner leaves that takes something off. -/
structure ShorterEnd (rest cs : List Char) : Prop where
  suffix : rest <:+ cs
  shorter : rest.length < cs.length

theorem ShorterEnd.cons {rest cs : List Char} (c : Char) (h : rest <:+ cs) :
    ShorterEnd rest (c :: cs) :=
  ⟨h.trans (List.suffix_cons c cs), Nat.lt_succ_of_le h.length_le⟩

theorem keywordChars_suffix {ks cs rest : List Char} (h : keywordChars ks cs = some rest) :
    rest <:+ cs := by
  induction ks generalizing cs with
  | nil =>
    cases h
    exact List.suffix_rfl
  | cons k ks ih =>
    cases cs with
    | nil => simp [keywordChars] at h
    | cons c cs =>
      simp only [keywordChars] at h
      split at h
      · exact (ih h).trans (List.suffix_cons c cs)
      · cases h

/-- A keyword takes its own length off. -/
theorem length_keywordChars {ks cs rest : List Char} (h : keywordChars ks cs = some rest) :
    rest.length + ks.length = cs.length := by
  induction ks generalizing cs with
  | nil =>
    cases h
    rfl
  | cons k ks ih =>
    cases cs with
    | nil => simp [keywordChars] at h
    | cons c cs =>
      simp only [keywordChars] at h
      split at h
      · have := ih h
        simp only [List.length_cons]
        omega
      · cases h

theorem trimStart_suffix (cs : List Char) : trimStart cs <:+ cs :=
  List.dropWhile_suffix isBlank

theorem shorterEnd_of_space {cs rest : List Char} (h : space cs = some rest) :
    ShorterEnd rest cs := by
  cases cs with
  | nil => simp [space] at h
  | cons c cs =>
    simp only [space] at h
    split at h
    · cases h
      exact .cons c (trimStart_suffix cs)
    · cases h

theorem shorterEnd_of_untilAfter {stop : Char} {cs rest : List Char}
    (h : untilAfter stop cs = some rest) : ShorterEnd rest cs := by
  induction cs with
  | nil => simp [untilAfter] at h
  | cons c cs ih =>
    simp only [untilAfter] at h
    split at h
    · cases h
      exact .cons c List.suffix_rfl
    · exact .cons c (ih h).suffix

end DerivedQuery.Text
