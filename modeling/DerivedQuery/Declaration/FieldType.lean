import DerivedQuery.PropertyKind
import DerivedQuery.Text.Slice

/-!
# Kinds of fields

The kind of a property, inferred from the type of the field that declares it.

* `FieldType`: types as they are written.
* `FieldType.kind`: references, parentheses and owning wrappers such as `Option` are looked through;
  of what is left the name decides.
-/

namespace DerivedQuery

/-- The type of a field. -/
inductive FieldType where
  /-- A named type: the last segment of its path and its arguments; an argument that is no type,
  such as a lifetime or a constant, is `none`. -/
  | path (name : String) (arguments : List (Option FieldType))
  | reference (target : FieldType)
  /-- A type in parentheses or in an invisible group. -/
  | grouped (inner : FieldType)
  /-- An array or a slice. -/
  | sequence
  /-- Any other type: pointers, tuples, functions and so on. -/
  | other

namespace FieldType

/-- Types that own one value of another type, and count as that type. -/
def wrappers : List String :=
  ["Option", "Box", "Arc", "Rc"]

/-- The types whose name tells their kind. -/
def kindNames : List (PropertyKind × List String) := [
  (.string, ["String", "str", "char", "Cow"]),
  (.integer, ["i8", "i16", "i32", "i64", "i128", "isize", "u8", "u16", "u32", "u64", "u128",
    "usize"]),
  (.float, ["f32", "f64", "Decimal", "BigDecimal"]),
  (.boolean, ["bool"]),
  (.temporal, ["NaiveDate", "NaiveTime", "NaiveDateTime", "DateTime", "SystemTime", "Date", "Time",
    "PrimitiveDateTime", "OffsetDateTime", "Timestamp"]),
  (.collection, ["Vec", "VecDeque", "HashSet", "BTreeSet", "HashMap", "BTreeMap", "IndexMap",
    "IndexSet"])]

/-- The kind of a type by its name; a type of another name may be anything. -/
def kindOfName (name : String) : PropertyKind :=
  ((kindNames.find? fun row => row.2.contains name).map (·.1)).getD .object

/-- The kind of a property of this type. -/
def kind : FieldType → PropertyKind
  | path name [some inner] => if wrappers.contains name then inner.kind else kindOfName name
  | path name _ => if wrappers.contains name then .object else kindOfName name
  | reference target => target.kind
  | grouped inner => inner.kind
  | sequence => .collection
  | other => .object

/-- The text is an identifier. -/
def isName (cs : List Char) : Bool :=
  !cs.isEmpty && cs.all fun c => c.isAlphanum || c == '_' || c == '#' || 0x80 ≤ c.toNat

/-- The segments of a path; `::` stands between them. -/
def pathSegments (cs : List Char) : List (List Char) :=
  (Text.pieces ':' cs).filter fun s => !s.isEmpty

/-- A type given as text, with arguments if it is a path. A text that is no path is some other
type. -/
def ofText (text : String) (arguments : List (Option FieldType)) : FieldType :=
  let segments := pathSegments text.toList
  match segments.getLast? with
  | some last => if segments.all isName then path (String.ofList last) arguments else other
  | none => other

end FieldType

end DerivedQuery
