/-!
# Errors

An error is its cause; `QueryError.message` words it.

* `NameFault`, `RequestFault`: why a method name or a request is refused.
* `QueryError`: everything that can go wrong between a method name and its rows.
* `QueryError.within`: an error tagged with the method it arose in, at most once.
* `QueryError.root`: the error below the tags.
-/

namespace DerivedQuery

/-- Why a method name cannot be read. -/
inductive NameFault where
  | unknownPrefix
  | uncapitalisedSubject
  | unreadableLimit (digits : String)
  | zeroLimit
  | severalOrderings
  | ignoreCaseAlone
  | missingProperty (term : String)
  | uncapitalisedProperty (property : String)
  | unreadableOrdering (clause : String)
  | emptyOrdering
  | stated (text : String)
deriving DecidableEq, Repr

/-- The first words a query method may begin with. -/
def queryPrefixes : List String :=
  ["find", "read", "get", "query", "search", "stream"]

def NameFault.message : NameFault → String
  | unknownPrefix => "expected one of the prefixes " ++ ", ".intercalate queryPrefixes
  | uncapitalisedSubject => "prefix must be followed by an uppercase word"
  | unreadableLimit digits => s!"invalid limit '{digits}'"
  | zeroLimit => "limit must be positive"
  | severalOrderings => "more than one OrderBy clause"
  | ignoreCaseAlone => "AllIgnoreCase without criteria"
  | missingProperty term => s!"missing property in criterion '{term}'"
  | uncapitalisedProperty property => s!"property '{property}' must start with an uppercase letter"
  | unreadableOrdering clause => s!"invalid OrderBy clause '{clause}'"
  | emptyOrdering => "empty OrderBy clause"
  | stated text => text

/-- Why a value is refused before any query runs. -/
inductive RequestFault where
  | emptyPath
  | trailingDot (path : String)
  | strayPathCharacter (c : Char) (path : String)
  | emptyPathSegment (path : String)
  | emptyRegion
  | emptyRegionSegment (region : String)
  | strayRegionCharacter (c : Char) (region : String)
  | compoundAlias (name : String)
  | blankQuery
  | zeroLimit
  | negativePage (number : Int)
  | emptyPageSize (size : Int)
  | unpagedCall (method : String)
  | stated (text : String)
deriving DecidableEq, Repr

def RequestFault.message : RequestFault → String
  | emptyPath => "Property path cannot be empty"
  | trailingDot path => s!"Trailing '.' in property path '{path}'"
  | strayPathCharacter c path => s!"Invalid character '{c}' in property path '{path}'"
  | emptyPathSegment path => s!"Empty segment in property path '{path}'"
  | emptyRegion => "Region name cannot be empty"
  | emptyRegionSegment region => s!"Empty segment in region name '{region}'"
  | strayRegionCharacter c region => s!"Invalid character '{c}' in region name '{region}'"
  | compoundAlias name => s!"Query alias must be a single identifier, got '{name}'"
  | blankQuery => "Query is required"
  | zeroLimit => "limit must be positive"
  | negativePage number => s!"page number must be >= 0, got {number}"
  | emptyPageSize size => s!"page size must be > 0, got {size}"
  | unpagedCall method => s!"{method} requires a page request for paged execution"
  | stated text => text

/-- What goes wrong between a method name and its rows. -/
inductive QueryError where
  /-- The method name cannot be read. -/
  | invalidName (name : String) (fault : NameFault)
  /-- A criterion or sort key names a property that the entity does not declare. -/
  | noSuchProperty (property region : String)
  /-- The property's kind does not support the operator. -/
  | incompatible (property operator kind : String)
  /-- There are no criteria to derive a query from. -/
  | noCriteria
  /-- The criteria need more arguments than the method declares. -/
  | placeholderOverflow (max : Nat)
  /-- An error that arose in the query method `method`. -/
  | inMethod (method : String) (cause : QueryError)
  /-- A value was refused. -/
  | invalidRequest (fault : RequestFault)
  /-- No executor took the query. -/
  | unsupported (query : String)
  /-- A hook stopped the query. -/
  | aborted (reason : String)
  /-- The engine failed. -/
  | engine (text : String)
  /-- A document does not hold what it should. -/
  | unreadableDocument (text : String)
deriving DecidableEq, Repr

namespace QueryError

def message : QueryError → String
  | invalidName name fault => s!"Invalid method name '{name}': {fault.message}"
  | noSuchProperty property region => s!"No property '{property}' found on region '{region}'"
  | incompatible property operator kind =>
    s!"Operator {operator} is not supported for property '{property}' of type {kind}"
  | noCriteria => "No criteria derived from the method name and no explicit query declared"
  | placeholderOverflow max =>
    s!"Placeholder overflow: method declares {max} bindable parameter(s)"
  | inMethod method cause => s!"Query method '{method}': {cause.message}"
  | invalidRequest fault => s!"Validation error: {fault.message}"
  | unsupported query => s!"No executor was able to run query: {query}"
  | aborted reason => s!"Query aborted: {reason}"
  | engine text => s!"Engine error: {text}"
  | unreadableDocument text => s!"Serialization error: {text}"

/-- The error tagged with a method; an error that is tagged already keeps its tag. -/
def within (name : String) : QueryError → QueryError
  | inMethod method cause => inMethod method cause
  | e => inMethod name e

/-- The method the error is tagged with. -/
def method? : QueryError → Option String
  | inMethod method _ => some method
  | _ => none

/-- The error without its tags. -/
def root : QueryError → QueryError
  | inMethod _ cause => cause.root
  | e => e

/-- A value was refused. -/
def isValidation (e : QueryError) : Bool :=
  match e.root with
  | invalidRequest _ => true
  | _ => false

/-- The method's declaration is at fault. -/
def isConfiguration (e : QueryError) : Bool :=
  match e.root with
  | invalidName .. | noSuchProperty .. | incompatible .. | noCriteria | placeholderOverflow _ =>
    true
  | _ => false

end QueryError

end DerivedQuery
