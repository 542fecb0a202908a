import DerivedQuery.QueryError
import DerivedQuery.Text.Slice

/-!
# Property paths

A property path is one or more identifiers, written with a dot between them.

* `Identifier`: a letter or `_`, then letters, digits, `_` and `$`, all of them ASCII.
* `PropertyPath.parse`: reads a path; the leftmost fault is the one reported.
* `PropertyPath.text`, `PropertyPath.qualified`: writes it, alone or below the name of an object.
-/

namespace DerivedQuery

/-- The first character of an identifier. -/
def startsIdentifier (c : Char) : Bool :=
  c.isAlpha || c == '_'

/-- Any further character of an identifier. -/
def continuesIdentifier (c : Char) : Bool :=
  c.isAlphanum || c == '_' || c == '$'

/-- The first character that an identifier may not have in its place. -/
def strayCharacter? : List Char → Option Char
  | [] => none
  | c :: cs => if startsIdentifier c then cs.find? fun d => !continuesIdentifier d else some c

/-- An identifier: not empty and without stray characters. -/
def isIdentifier (cs : List Char) : Bool :=
  !cs.isEmpty && (strayCharacter? cs).isNone

/-- One segment of a path. -/
abbrev Identifier := { s : String // isIdentifier s.toList = true }

/-- A property of an entity, or of an object below it. -/
structure PropertyPath where
  /-- The property declared on the entity itself. -/
  root : Identifier
  /-- The way from there into nested objects. -/
  inner : List Identifier
deriving DecidableEq

namespace PropertyPath

/-- All segments, outermost first. -/
def segments (p : PropertyPath) : List String :=
  p.root.val :: p.inner.map (·.val)

/-- The path leads into a nested object. -/
def isNested (p : PropertyPath) : Bool :=
  !p.inner.isEmpty

/-- The segments with dots between them. -/
def text (p : PropertyPath) : String :=
  ".".intercalate p.segments

/-- The path below a name that stands for the object; the empty name adds nothing. -/
def qualified (p : PropertyPath) (object : String) : String :=
  if object.isEmpty then p.text else object ++ "." ++ p.text

/-- One piece between dots as an identifier. -/
def readSegment (path : String) (piece : List Char) : Except RequestFault Identifier :=
  match hs : strayCharacter? piece with
  | some c => .error (.strayPathCharacter c path)
  | none =>
    if he : piece.isEmpty then .error (.emptyPathSegment path)
    else .ok ⟨String.ofList piece, by simp [isIdentifier, hs, he]⟩

/-- The pieces after the first. An empty last piece means that the path ends in a dot. -/
def readInner (path : String) : List (List Char) → Except RequestFault (List Identifier)
  | [] => .ok []
  | [[]] => .error (.trailingDot path)
  | piece :: rest => do
    let segment ← readSegment path piece
    return segment :: (← readInner path rest)

/-- Reads a path. -/
def read (path : String) : Except RequestFault PropertyPath :=
  if path.isEmpty then .error .emptyPath
  else match Text.pieces '.' path.toList with
    | [] => .error .emptyPath
    | first :: rest => do
      let root ← readSegment path first
      return ⟨root, ← readInner path rest⟩

/-- Reads a path, as a step of a larger request. -/
def parse (path : String) : Except QueryError PropertyPath :=
  (read path).mapError .invalidRequest

end PropertyPath

end DerivedQuery
