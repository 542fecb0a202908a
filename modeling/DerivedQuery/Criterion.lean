import DerivedQuery.Entity.Resolution
import DerivedQuery.Operator

/-!
# Criteria

A criterion is a test of one property that the property's kind supports.

* `Criterion.make`: refuses a test that the kind does not support.
* `Criterion.resolve`: the criterion for a property as a method name writes it.
-/

namespace DerivedQuery

/-- How a method name asks for comparison without regard to case. -/
inductive CaseMode where
  /-- Compare exactly. -/
  | never
  /-- Ignore case where the property and the operator allow it. -/
  | whenPossible
  /-- Ignore case, or fail. -/
  | always
deriving DecidableEq, Repr

/-- Whether the kind supports the operator, with or without regard to case. -/
def Operator.supports (op : Operator) (kind : PropertyKind) (ignoreCase : Bool) : Bool :=
  op.accepts kind &&
    (!ignoreCase || (op.supportsIgnoreCase && (kind = .string || kind = .object)))

/-- A supported test of one property. -/
structure Criterion where
  path : PropertyPath
  kind : PropertyKind
  operator : Operator
  ignoreCase : Bool
  supported : operator.supports kind ignoreCase = true
deriving DecidableEq

namespace Criterion

/-- The name of a test in messages. -/
def describe (op : Operator) (ignoreCase : Bool) : String :=
  if ignoreCase then op.text ++ " (ignore case)" else op.text

/-- A criterion, if the kind supports the test. -/
def make (path : PropertyPath) (kind : PropertyKind) (op : Operator) (ignoreCase : Bool) :
    Except QueryError Criterion :=
  if h : op.supports kind ignoreCase = true then .ok ⟨path, kind, op, ignoreCase, h⟩
  else .error (.incompatible path.text (describe op ignoreCase) kind.text)

/-- Whether a mode ignores case for a test of a property of kind `kind`. -/
def ignoresCase (mode : CaseMode) (op : Operator) (kind : PropertyKind) : Bool :=
  match mode with
  | .never => false
  | .always => true
  | .whenPossible => op.supportsIgnoreCase && kind = .string

/-- The criterion for a written property. -/
def resolve (e : Entity) (written : String) (op : Operator) (mode : CaseMode) :
    Except QueryError Criterion := do
  let (path, kind) ← e.resolve written
  make path kind op (ignoresCase mode op kind)

/-- The number of arguments the criterion takes. -/
def arity (c : Criterion) : Nat :=
  c.operator.arity

end Criterion

end DerivedQuery
