import DerivedQuery.MethodName.Subject

/-!
# Reading method names

`findDistinctTop5ByLastnameAndAgeGreaterThanOrFirstnameIgnoreCaseOrderByAgeDesc` is a prefix, a
subject, groups of terms with `Or` between them, each with `And` between its terms, and sort keys.

* `readTerm`: one criterion, from the keywords at its end inwards.
* `readOrder`: the sort keys.
* `MethodName.parse`: the whole name.
-/

namespace DerivedQuery.MethodName

/-! ## Criteria -/

/-- A text begins with a capital. -/
def isCapitalised (cs : List Char) : Bool :=
  cs.head?.any Text.isUppercase

/-- Reads one criterion. `mode` holds unless the criterion has a mode of its own. -/
def readTerm (mode : CaseMode) (raw : List Char) : Except NameFault Term :=
  let (test, mode) := (dropKeyword? (ignoreCaseKeywords.map (·, .always)) raw).getD (raw, mode)
  let (property, operator) := (dropKeyword? operatorKeywords test).getD (test, .equals)
  if property.isEmpty then .error (.missingProperty (String.ofList raw))
  else if !isCapitalised property then .error (.uncapitalisedProperty (String.ofList property))
  else .ok ⟨String.ofList property, operator, mode⟩

/-- Reads the groups of terms. -/
def readGroups (mode : CaseMode) (criteria : List Char) : Except NameFault (List (List Term)) :=
  (cutAtKeyword "Or" criteria).mapM fun group => (cutAtKeyword "And" group).mapM (readTerm mode)

/-- Reads the criteria of a name, from which the ordering has been taken off. -/
def readCriteria (criteria : List Char) : Except NameFault (List (List Term)) :=
  match dropKeyword? (allIgnoreCaseKeywords.map (·, ())) criteria with
  | some ([], _) => .error .ignoreCaseAlone
  | some (criteria, _) => readGroups .whenPossible criteria
  | none => if criteria.isEmpty then .ok [] else readGroups .never criteria

/-! ## Sort keys -/

/-- The direction word at the beginning of `cs` and its length. It counts only at the end or before
a capital. -/
def directionAt? (cs : List Char) : Option (Direction × Nat) :=
  directionKeywords.findSome? fun (word, direction) =>
    match Text.dropStart? word cs with
    | some rest =>
      if rest.isEmpty || isCapitalised rest then some (direction, word.length) else none
    | none => none

/-- The sort keys in `cs`, where `key` has been read of the current one, last character first.
`skip` counts the characters of a direction word that are still to be passed over. A direction word
ends a key and may not begin it. In a key that begins with a character beyond ASCII no direction
word is recognised, so that key runs to the end of the clause. -/
def keysFrom : List Char → Nat → List Char → List (List Char × Direction)
  | [], _, [] => []
  | c :: key, _, [] => [((c :: key).reverse, .ascending)]
  | key, skip + 1, _ :: cs => keysFrom key skip cs
  | [], 0, c :: cs =>
    if c.toNat < 0x80 then keysFrom [c] 0 cs else [(c :: cs, .ascending)]
  | k :: key, 0, c :: cs =>
    match directionAt? (c :: cs) with
    | some (direction, length) => ((k :: key).reverse, direction) :: keysFrom [] (length - 1) cs
    | none => keysFrom (c :: k :: key) 0 cs

/-- Reads the sort keys of a name. -/
def readOrder (clause : List Char) : Except NameFault (List OrderTerm) :=
  let keys := keysFrom [] 0 clause
  if keys.isEmpty then .error .emptyOrdering
  else if keys.all fun k => isCapitalised k.1 then
    .ok (keys.map fun (property, direction) => ⟨String.ofList property, direction⟩)
  else .error (.unreadableOrdering (String.ofList clause))

/-! ## Names -/

/-- Reads what follows `By`. -/
def readPredicate (predicate : List Char) :
    Except NameFault (List (List Term) × List OrderTerm) := do
  match cutAtKeyword "OrderBy" predicate with
  | [criteria] => return (← readCriteria criteria, [])
  | [criteria, order] =>
    let groups ← readCriteria criteria
    return (groups, ← readOrder order)
  | _ => throw .severalOrderings

/-- Reads a name. Without `By`, all that follows the prefix is the subject. -/
def read (name : String) : Except NameFault MethodName := do
  let some rest := splitPrefix? name.toList | throw .unknownPrefix
  match splitBy? rest with
  | some (subject, predicate) =>
    let n ← readSubject subject
    let (groups, order) ← readPredicate predicate
    return { n with groups, order }
  | none =>
    if rest.isEmpty || isCapitalised rest then readSubject rest
    else throw .uncapitalisedSubject

/-- Reads the name of a query method. -/
def parse (name : String) : Except QueryError MethodName :=
  (read name).mapError (.invalidName name)

end DerivedQuery.MethodName
