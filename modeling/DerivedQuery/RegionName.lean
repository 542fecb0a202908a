import DerivedQuery.QueryError
import DerivedQuery.Text.Blank
import DerivedQuery.Text.Slice

/-!
# Region names

A region is addressed by one or more segments of ASCII letters, digits, `_`, `-` and `.`, with `/`
between them.

* `dropSlash`: a leading slash is optional, and one of them is dropped.
* `RegionName.parse`: reads a name; the leftmost fault is the one reported.
* `RegionName.address`: the name as a `FROM` clause addresses it.
-/

namespace DerivedQuery

/-- A character of a region segment. -/
def isRegionChar (c : Char) : Bool :=
  c.isAlphanum || c == '_' || c == '-' || c == '.'

/-- A segment of a region name: not empty, and of region characters only. -/
def isRegionSegment (cs : List Char) : Bool :=
  !cs.isEmpty && cs.all isRegionChar

/-- A text without one leading slash. -/
def dropSlash (s : String) : String :=
  match s.toList with
  | '/' :: cs => String.ofList cs
  | _ => s

/-- The name of a region, without a leading slash. -/
structure RegionName where
  text : String
  valid : (Text.pieces '/' text.toList).all isRegionSegment = true
deriving DecidableEq

namespace RegionName

/-- What is wrong with a segment of the name `whole`. -/
def segmentFault? (whole : String) (segment : List Char) : Option RequestFault :=
  if segment.isEmpty then some (.emptyRegionSegment whole)
  else (segment.find? fun c => !isRegionChar c).map fun c => .strayRegionCharacter c whole

theorem segmentFault?_eq_none {whole : String} {segment : List Char} :
    segmentFault? whole segment = none ↔ isRegionSegment segment = true := by
  cases segment <;> simp [segmentFault?, isRegionSegment]

/-- Reads a region name. -/
def read (whole : String) : Except RequestFault RegionName :=
  let name := dropSlash whole
  if Text.isBlankText name then .error .emptyRegion
  else match h : (Text.pieces '/' name.toList).findSome? (segmentFault? whole) with
    | some fault => .error fault
    | none => .ok ⟨name, by
        rw [List.findSome?_eq_none_iff] at h
        exact List.all_eq_true.2 fun segment hs => segmentFault?_eq_none.1 (h segment hs)⟩

/-- Reads a region name, as a step of a larger request. -/
def parse (whole : String) : Except QueryError RegionName :=
  (read whole).mapError .invalidRequest

/-- The region as a `FROM` clause addresses it. -/
def address (r : RegionName) : String :=
  "/" ++ r.text

end RegionName

end DerivedQuery
