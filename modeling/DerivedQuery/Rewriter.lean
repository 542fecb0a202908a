import DerivedQuery.Method
import DerivedQuery.Text.Slice

/-!
# Rewriting queries

A rewriter changes the text of a query before hooks and executors see it.

* `Rewriter.apply`: what a rewriter makes of a text; a chain applies its parts in order.
* `RewriterChain.register`: adds a rewriter behind those of the same or a lower order.
-/

namespace DerivedQuery

/-- Changes the text of queries. -/
inductive Rewriter where
  /-- A rule that is given the method, the text and the arguments. -/
  | rule (order : Int) (rewrite : Method → String → List Json → String)
  /-- Rewriters one after the other. -/
  | chain (parts : List Rewriter)

namespace Rewriter

/-- The order of a rewriter that says nothing about it: behind all others. -/
def lowestPrecedence : Int := Int.pow 2 31 - 1

/-- Where the rewriter wants to stand; a chain stands where its first part would. -/
def order : Rewriter → Int
  | rule order _ => order
  | chain [] => lowestPrecedence
  | chain (first :: _) => first.order

mutual

/-- The text that the rewriter makes of `query`. -/
def apply (m : Method) (arguments : List Json) : Rewriter → String → String
  | rule _ rewrite, query => rewrite m query arguments
  | chain parts, query => applyAll m arguments parts query

/-- The text after all rewriters of a list, from the first to the last. -/
def applyAll (m : Method) (arguments : List Json) : List Rewriter → String → String
  | [], query => query
  | r :: rs, query => applyAll m arguments rs (r.apply m arguments query)

end

/-! ## Some rules -/

/-- Leaves the text as it is. -/
def identity : Rewriter :=
  .rule lowestPrecedence fun _ query _ => query

/-- The same rewriter with an order of its own. -/
def withOrder (order : Int) (r : Rewriter) : Rewriter :=
  .rule order fun m query arguments => r.apply m arguments query

/-- A text behind the query. -/
def append (text : String) : Rewriter :=
  .rule lowestPrecedence fun _ query _ => query ++ text

/-- Every occurrence of a text replaced. -/
def replace (old new : String) : Rewriter :=
  .rule lowestPrecedence fun _ query _ => Text.replaceAll old new query

/-- Another text instead of the query. -/
def constant (text : String) : Rewriter :=
  .rule lowestPrecedence fun _ _ _ => text

/-- A comment behind the query that names the method and the arguments. -/
def describe : Rewriter :=
  .rule lowestPrecedence fun m query arguments =>
    query ++ " /* " ++ m.name ++ " " ++ (Json.arr arguments).compact ++ " */"

end Rewriter

/-- Rewriters in the order in which they are applied. -/
structure RewriterChain where
  parts : List Rewriter

namespace RewriterChain

def empty : RewriterChain :=
  ⟨[]⟩

/-- One more rewriter, at the end. -/
def addLast (c : RewriterChain) (r : Rewriter) : RewriterChain :=
  ⟨c.parts ++ [r]⟩

/-- One more rewriter, in front. -/
def addFirst (c : RewriterChain) (r : Rewriter) : RewriterChain :=
  ⟨r :: c.parts⟩

/-- One more rewriter, behind those whose order is not higher. -/
def register (c : RewriterChain) (r : Rewriter) : RewriterChain :=
  let earlier (p : Rewriter) : Bool := p.order ≤ r.order
  ⟨c.parts.takeWhile earlier ++ r :: c.parts.dropWhile earlier⟩

/-- The chain as a rewriter. -/
def toRewriter (c : RewriterChain) : Rewriter :=
  .chain c.parts

/-- The text after all rewriters of the chain. -/
def apply (c : RewriterChain) (m : Method) (query : String) (arguments : List Json) : String :=
  Rewriter.applyAll m arguments c.parts query

/-- The chain in diagnostic output. -/
def description (c : RewriterChain) : String :=
  s!"PostProcessorChain \x7b processors: {c.parts.length} \x7d"

end RewriterChain

end DerivedQuery
