import DerivedQuery.Json.Reader
import DerivedQuery.Method.Options
import DerivedQuery.QueryError

/-!
# Options as JSON documents

* `Options.toDocument`: the document of some options, one member for each, in a fixed order.
* `Options.ofDocument`: reads a document. Members may stand in any order and may be left out, others
  are passed over, and none of the known ones may stand twice. A list of the values in the fixed
  order is read too; it may end early.
-/

namespace DerivedQuery

namespace Options

/-! ## Writing -/

/-- A value that may be absent. -/
def orNull (f : α → Json) (v : Option α) : Json :=
  (v.map f).getD .null

/-- The options as the members of an object. -/
def members (o : Options) : List (String × Json) :=
  [("query", orNull .str o.query),
    ("hints", .arr (o.hints.map .str)),
    ("import", orNull .str o.importing),
    ("limit", orNull (fun n : Nat => .int n) o.limit),
    ("distinct", .bool o.distinct),
    ("trace", .bool o.trace)]

/-- The document of some options. -/
def toDocument (o : Options) : String :=
  (Json.obj o.members).compact

/-! ## Reading -/

/-- One option with its value. -/
inductive Setting where
  | query (text : Option String)
  | hints (names : List String)
  | importing (statement : Option String)
  | limit (bound : Option Nat)
  | distinct (on : Bool)
  | trace (on : Bool)
deriving DecidableEq, Repr

/-- The name of the option in documents. -/
def Setting.name : Setting → String
  | query _ => "query"
  | hints _ => "hints"
  | importing _ => "import"
  | limit _ => "limit"
  | distinct _ => "distinct"
  | trace _ => "trace"

/-- The options with one of them set. -/
def set (o : Options) : Setting → Options
  | .query text => { o with query := text }
  | .hints names => { o with hints := names }
  | .importing statement => { o with importing := statement }
  | .limit bound => { o with limit := bound }
  | .distinct on => { o with distinct := on }
  | .trace on => { o with trace := on }

/-- A reader of settings from a reader of values. -/
def setting (make : α → Setting) (read : Json.Reader α) : Json.Reader Setting := fun cs =>
  (read cs).map fun (a, rest) => (make a, rest)

/-- The options by name, with readers for their values, in the fixed order. -/
def readers : List (String × Json.Reader Setting) :=
  [("query", setting .query (Json.readNullable Json.readString)),
    ("hints", setting .hints (Json.readList Json.readString)),
    ("import", setting .importing (Json.readNullable Json.readString)),
    ("limit", setting .limit (Json.readNullable Json.readCount)),
    ("distinct", setting .distinct Json.readFlag),
    ("trace", setting .trace Json.readFlag)]

/-- One member of an object; a member that is no option has no setting. -/
def readMember : Json.Reader (Option Setting) := fun cs => do
  let (name, cs) ← Json.readString cs
  let cs ← Json.symbol ':' cs
  match readers.lookup name with
  | some read => (read cs).map fun (s, rest) => (some s, rest)
  | .none => (Json.skipValue cs).map (.none, ·)

/-- The rest of an object from one of its members on, with at most `fuel` members. -/
def readMembers : Nat → Json.Reader (List (Option Setting))
  | 0, _ => .none
  | fuel + 1, cs => do
    let (s, cs) ← readMember cs
    match Json.symbol '}' cs with
    | some rest => some ([s], rest)
    | .none =>
      let (ss, rest) ← readMembers fuel (← Json.symbol ',' cs)
      return (s :: ss, rest)

/-- The settings of an object. -/
def readObject : Json.Reader (List Setting) := fun cs => do
  let cs ← Json.symbol '{' cs
  match Json.symbol '}' cs with
  | some rest => some ([], rest)
  | .none =>
    let (ss, rest) ← readMembers cs.length cs
    return (ss.filterMap id, rest)

/-- The rest of a list from one of its values on, the values having the given readers. -/
def readValues : List (Json.Reader Setting) → Json.Reader (List Setting)
  | [], _ => .none
  | read :: reads, cs => do
    let (s, cs) ← read cs
    match Json.symbol ']' cs with
    | some rest => some ([s], rest)
    | .none =>
      let (ss, rest) ← readValues reads (← Json.symbol ',' cs)
      return (s :: ss, rest)

/-- The settings of a list. -/
def readArray : Json.Reader (List Setting) := fun cs => do
  let cs ← Json.symbol '[' cs
  match Json.symbol ']' cs with
  | some rest => some ([], rest)
  | .none => readValues (readers.map (·.2)) cs

/-- The options of a document, if it is one. -/
def ofDocument? (document : String) : Option Options := do
  let cs := document.toList
  let (settings, rest) ← (readObject cs).or (readArray cs)
  if (Json.skipGap rest).isEmpty && (settings.map Setting.name).Nodup then
    some (settings.foldl set none)
  else .none

/-- Reads a document. -/
def ofDocument (document : String) : Except QueryError Options :=
  match ofDocument? document with
  | some o => .ok o
  | .none => .error (.unreadableDocument "not a document of query options")

end Options

end DerivedQuery
