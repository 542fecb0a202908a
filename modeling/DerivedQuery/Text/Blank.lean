import DerivedQuery.Text.CharRange

/-!
# White space

* `isBlank`: the Unicode property `White_Space`.
* `trim`, `trimStart`, `trimEnd`: a text without the white space at its ends.
* `isBlankText`: texts that hold nothing but white space.
-/

namespace DerivedQuery.Text

/-- The `White_Space` code points beyond ASCII. -/
def wideBlanks : Array CharRange := #[
  ⟨0x0085, 0x0085, 1⟩, ⟨0x00A0, 0x00A0, 1⟩, ⟨0x1680, 0x1680, 1⟩, ⟨0x2000, 0x200A, 1⟩,
  ⟨0x2028, 0x2029, 1⟩, ⟨0x202F, 0x202F, 1⟩, ⟨0x205F, 0x205F, 1⟩, ⟨0x3000, 0x3000, 1⟩]

/-- The Unicode property `White_Space`. -/
def isBlank (c : Char) : Bool :=
  if c.toNat < 0x80 then c == ' ' || (0x09 ≤ c.toNat && c.toNat ≤ 0x0D)
  else CharRange.anyHolds wideBlanks c

/-- The characters from the first that is not white space. -/
def trimStart (cs : List Char) : List Char :=
  cs.dropWhile isBlank

/-- The characters up to the last that is not white space. -/
def trimEnd (cs : List Char) : List Char :=
  (cs.reverse.dropWhile isBlank).reverse

/-- A text without the white space around it. -/
def trim (cs : List Char) : List Char :=
  trimEnd (trimStart cs)

/-- Nothing but white space, or nothing at all. -/
def isBlankText (s : String) : Bool :=
  s.toList.all isBlank

end DerivedQuery.Text
