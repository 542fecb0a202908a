import DerivedQuery.Proofs.Condition.Comparison

/-!
# The grammar of conditions

A condition is written so that it can be read back: `OR` between operands, each of which is made of
operands with `AND` between them, each of which is one comparison or stands in parentheses.

* `Disjunction`, `Conjunction`, `Operand`: the parse trees of this grammar.
* `Disjunction.append_inj`: a text has one parse tree at most.
* `Condition.flattened`: the tree of a condition in which a range is two comparisons, and nested
  conjunctions and nested disjunctions are one.
* `Condition.parse_render`: what is written for a condition has one parse tree. It is the flattened
  tree of the condition and has its truth value.
-/

namespace DerivedQuery

/-! ## Parse trees -/

mutual

/-- Operands with `OR` between them. -/
inductive Disjunction where
  | one (first : Conjunction)
  | more (first : Conjunction) (others : Disjunction)

/-- Operands with `AND` between them. -/
inductive Conjunction where
  | one (first : Operand)
  | more (first : Operand) (others : Conjunction)

/-- A comparison, or a disjunction in parentheses. -/
inductive Operand where
  | comparison (text : String)
  | group (inside : Disjunction)

end

/-- A tree of comparisons in which a node has any number of operands. -/
inductive OperandTree where
  | comparison (text : String)
  | all (operands : List OperandTree)
  | any (operands : List OperandTree)

mutual

/-- The text that is parsed. -/
def Disjunction.text : Disjunction → String
  | .one first => first.text
  | .more first others => first.text ++ " OR " ++ others.text

def Conjunction.text : Conjunction → String
  | .one first => first.text
  | .more first others => first.text ++ " AND " ++ others.text

def Operand.text : Operand → String
  | .comparison text => text
  | .group inside => "(" ++ inside.text ++ ")"

end

mutual

/-- Every comparison is one about `object`. -/
def Disjunction.IsAbout (object : String) : Disjunction → Prop
  | .one first => first.IsAbout object
  | .more first others => first.IsAbout object ∧ others.IsAbout object

def Conjunction.IsAbout (object : String) : Conjunction → Prop
  | .one first => first.IsAbout object
  | .more first others => first.IsAbout object ∧ others.IsAbout object

def Operand.IsAbout (object : String) : Operand → Prop
  | .comparison text => IsComparison object text
  | .group inside => inside.IsAbout object

end

mutual

/-- The truth value, where `v` says which comparisons hold. -/
def Disjunction.eval (v : String → Bool) : Disjunction → Bool
  | .one first => first.eval v
  | .more first others => first.eval v || others.eval v

def Conjunction.eval (v : String → Bool) : Conjunction → Bool
  | .one first => first.eval v
  | .more first others => first.eval v && others.eval v

def Operand.eval (v : String → Bool) : Operand → Bool
  | .comparison text => v text
  | .group inside => inside.eval v

end

mutual

/-- The tree that is written. A single operand stands for itself, and parentheses for what is in
them. -/
def Disjunction.tree : Disjunction → OperandTree
  | .one first => first.tree
  | .more first others => .any (first.tree :: others.operands)

def Disjunction.operands : Disjunction → List OperandTree
  | .one first => [first.tree]
  | .more first others => first.tree :: others.operands

def Conjunction.tree : Conjunction → OperandTree
  | .one first => first.tree
  | .more first others => .all (first.tree :: others.operands)

def Conjunction.operands : Conjunction → List OperandTree
  | .one first => [first.tree]
  | .more first others => first.tree :: others.operands

def Operand.tree : Operand → OperandTree
  | .comparison text => .comparison text
  | .group inside => inside.tree

end

/-- `p` is a parse tree of `text`, in which the comparisons are about `object`. -/
def Disjunction.Parses (object text : String) (p : Disjunction) : Prop :=
  p.IsAbout object ∧ p.text = text

/-! ## The tree and the truth value of a condition -/

namespace OperandTree

/-- The operands of a conjunction; any other tree is the only operand. -/
def conjuncts : OperandTree → List OperandTree
  | .all operands => operands
  | tree => [tree]

/-- The operands of a disjunction; any other tree is the only operand. -/
def disjuncts : OperandTree → List OperandTree
  | .any operands => operands
  | tree => [tree]

end OperandTree

namespace Criterion

/-- The comparison of a range with its lower end. -/
def lower (c : Criterion) (placeholders : List Nat) (object : String) : String :=
  c.path.qualified object ++ " >= " ++ placeholder (placeholders.getD 0 0)

/-- The comparison of a range with its upper end. -/
def upper (c : Criterion) (placeholders : List Nat) (object : String) : String :=
  c.path.qualified object ++ " <= " ++ placeholder (placeholders.getD 1 0)

end Criterion

namespace Condition

/-- The condition with its ranges split into two comparisons, and with nested conjunctions and
nested disjunctions made one. -/
def flattened (object : String) : Condition → OperandTree
  | test c placeholders =>
    if c.operator = .between then
      .all [.comparison (c.lower placeholders object), .comparison (c.upper placeholders object)]
    else .comparison (c.render placeholders object)
  | and a b => .all ((a.flattened object).conjuncts ++ (b.flattened object).conjuncts)
  | or a b => .any ((a.flattened object).disjuncts ++ (b.flattened object).disjuncts)

/-- The truth value of the condition, where `v` says which comparisons hold. -/
def holds (v : String → Bool) (object : String) : Condition → Bool
  | test c placeholders =>
    if c.operator = .between then
      v (c.lower placeholders object) && v (c.upper placeholders object)
    else v (c.render placeholders object)
  | and a b => a.holds v object && b.holds v object
  | or a b => a.holds v object || b.holds v object

end Condition

/-! ## A text has one parse tree at most -/

/-- A text that goes on with a mark is followed by it. -/
theorem follows_mark {marks : List String} {mark : String} (h : mark ∈ marks) (cs : List Char) :
    Follows marks (mark.toList ++ cs) :=
  .inr ⟨mark, h, List.prefix_append mark.toList cs⟩

/-- A disjunction is not over where an `OR` follows. -/
theorem not_follows_or (cs : List Char) : ¬ Follows [")"] (" OR ".toList ++ cs) := by
  simp [Follows]

/-- A conjunction is not over where an `AND` follows. -/
theorem not_follows_and (cs : List Char) : ¬ Follows [")", " OR "] (" AND ".toList ++ cs) := by
  simp [Follows]

/-- What follows a conjunction follows its last operand. -/
theorem Follows.conjunction {cs : List Char} (h : Follows [")", " OR "] cs) :
    Follows operandMarks cs :=
  h.mono (by decide)

/-- What follows a disjunction follows its last conjunction. -/
theorem Follows.disjunction {cs : List Char} (h : Follows [")"] cs) : Follows [")", " OR "] cs :=
  h.mono (by decide)

mutual

/-- A disjunction that ends with the text or before a closing parenthesis can be told from the
text. -/
theorem Disjunction.append_inj {object : String} (hobject : isIdentifier object.toList = true)
    {r s : List Char} (hr : Follows [")"] r) (hs : Follows [")"] s) :
    (p q : Disjunction) → p.IsAbout object → q.IsAbout object →
      p.text.toList ++ r = q.text.toList ++ s → p = q ∧ r = s
  | .one f, .one g, hf, hg, h => by
    simp only [Disjunction.text] at h
    obtain ⟨rfl, hrest⟩ :=
      Conjunction.append_inj hobject hr.disjunction hs.disjunction f g hf hg h
    exact ⟨rfl, hrest⟩
  | .one f, .more g q, hf, hg, h => by
    -- The first conjunctions are the same, but only one is followed by `OR`.
    simp only [Disjunction.text, String.toList_append, List.append_assoc] at h
    obtain ⟨-, rfl⟩ :=
      Conjunction.append_inj hobject hr.disjunction (follows_mark (by decide) _) f g hf hg.1 h
    exact absurd hr (not_follows_or _)
  | .more f p, .one g, hf, hg, h => by
    -- The same with the two texts exchanged.
    simp only [Disjunction.text, String.toList_append, List.append_assoc] at h
    obtain ⟨-, rfl⟩ :=
      Conjunction.append_inj hobject (follows_mark (by decide) _) hs.disjunction f g hf.1 hg h
    exact absurd hs (not_follows_or _)
  | .more f p, .more g q, hf, hg, h => by
    simp only [Disjunction.text, String.toList_append, List.append_assoc] at h
    obtain ⟨rfl, hothers⟩ :=
      Conjunction.append_inj hobject (follows_mark (by decide) _) (follows_mark (by decide) _)
        f g hf.1 hg.1 h
    obtain ⟨rfl, hrest⟩ :=
      -- Behind the same `OR` the rest is a disjunction again.
      Disjunction.append_inj hobject hr hs p q hf.2 hg.2 (List.append_cancel_left hothers)
    exact ⟨rfl, hrest⟩

/-- A conjunction can be told from the text as well, if no `AND` follows it. -/
theorem Conjunction.append_inj {object : String} (hobject : isIdentifier object.toList = true)
    {r s : List Char} (hr : Follows [")", " OR "] r) (hs : Follows [")", " OR "] s) :
    (p q : Conjunction) → p.IsAbout object → q.IsAbout object →
      p.text.toList ++ r = q.text.toList ++ s → p = q ∧ r = s
  | .one f, .one g, hf, hg, h => by
    simp only [Conjunction.text] at h
    rcases Operand.append_inj hobject hr.conjunction hs.conjunction f g hf hg h with ⟨rfl, hrest⟩
    exact ⟨rfl, hrest⟩
  | .one f, .more g q, hf, hg, h => by
    -- The first operands are the same, but only one is followed by `AND`.
    simp only [Conjunction.text, String.toList_append, List.append_assoc] at h
    obtain ⟨-, rfl⟩ :=
      Operand.append_inj hobject hr.conjunction (follows_mark (by decide) _) f g hf hg.1 h
    exact absurd hr (not_follows_and _)
  | .more f p, .one g, hf, hg, h => by
    -- The same with the two texts exchanged.
    simp only [Conjunction.text, String.toList_append, List.append_assoc] at h
    obtain ⟨-, rfl⟩ :=
      Operand.append_inj hobject (follows_mark (by decide) _) hs.conjunction f g hf.1 hg h
    exact absurd hs (not_follows_and _)
  | .more f p, .more g q, hf, hg, h => by
    simp only [Conjunction.text, String.toList_append, List.append_assoc] at h
    obtain ⟨rfl, hothers⟩ :=
      Operand.append_inj hobject (follows_mark (by decide) _) (follows_mark (by decide) _)
        f g hf.1 hg.1 h
    obtain ⟨rfl, hrest⟩ :=
      -- Behind the same `AND` the rest is a conjunction again.
      Conjunction.append_inj hobject hr hs p q hf.2 hg.2 (List.append_cancel_left hothers)
    exact ⟨rfl, hrest⟩

/-- An operand can be told from the text in front of any mark. -/
theorem Operand.append_inj {object : String} (hobject : isIdentifier object.toList = true)
    {r s : List Char} (hr : Follows operandMarks r) (hs : Follows operandMarks s) :
    (p q : Operand) → p.IsAbout object → q.IsAbout object →
      p.text.toList ++ r = q.text.toList ++ s → p = q ∧ r = s
  | .comparison t, .comparison u, ht, hu, h => by
    -- A comparison holds no mark, so that both end in front of the first one.
    rcases IsComparison.append_inj ht hu hobject hr hs h with ⟨rfl, hrest⟩
    exact ⟨rfl, hrest⟩
  | .comparison t, .group q, ht, hq, h => by
    -- Only a group begins with a parenthesis.
    rcases IsComparison.head ht hobject with ⟨c, cs, hcs, hc⟩
    simp [Operand.text, hcs, hc] at h
  | .group p, .comparison u, hp, hu, h => by
    rcases IsComparison.head hu hobject with ⟨c, cs, hcs, hc⟩
    simp [Operand.text, hcs, hc.symm] at h
  | .group p, .group q, hp, hq, h => by
    simp only [Operand.text, String.toList_append, List.append_assoc] at h
    -- The closing parenthesis ends what is in the group.
    obtain ⟨rfl, hclose⟩ :=
      Disjunction.append_inj hobject (follows_mark (by decide) r) (follows_mark (by decide) s)
        p q hp hq (List.append_cancel_left h)
    exact ⟨rfl, List.append_cancel_left hclose⟩

end

/-- A text has one parse tree at most. -/
theorem Disjunction.Parses.unique {object text : String} {p q : Disjunction}
    (hp : p.Parses object text) (hq : q.Parses object text)
    (hobject : isIdentifier object.toList = true) : p = q := by
  have htext : p.text.toList ++ [] = q.text.toList ++ [] := by
    rw [hp.2, hq.2]
  exact (Disjunction.append_inj hobject (.inl rfl) (.inl rfl) p q hp.1 hq.1 htext).1

/-! ## The parse tree of a condition -/

/-- The operands of two conjunctions, one after the other. -/
def Conjunction.append : Conjunction → Conjunction → Conjunction
  | .one first, q => .more first q
  | .more first others, q => .more first (others.append q)

/-- The operands of two disjunctions, one after the other. -/
def Disjunction.append : Disjunction → Disjunction → Disjunction
  | .one first, q => .more first q
  | .more first others, q => .more first (others.append q)

namespace Conjunction

variable (p q : Conjunction)

/-- A conjunction is written as its two parts with `AND` between them. -/
@[simp] theorem text_append : (p.append q).text = p.text ++ " AND " ++ q.text := by
  fun_induction append p q with
  | case1 => simp [text]
  | case2 q first others ih => simp [text, ih, String.append_assoc]

/-- It is about the object when both parts are. -/
@[simp] theorem isAbout_append (object : String) :
    (p.append q).IsAbout object ↔ p.IsAbout object ∧ q.IsAbout object := by
  fun_induction append p q with
  | case1 => simp [IsAbout]
  | case2 q first others ih => simp [IsAbout, ih, and_assoc]

/-- It holds when both parts do. -/
@[simp] theorem eval_append (v : String → Bool) :
    (p.append q).eval v = (p.eval v && q.eval v) := by
  fun_induction append p q with
  | case1 => simp [eval]
  | case2 q first others ih => simp [eval, ih, Bool.and_assoc]

/-- It has the operands of both parts, in order. -/
@[simp] theorem operands_append : (p.append q).operands = p.operands ++ q.operands := by
  fun_induction append p q with
  | case1 => simp [operands]
  | case2 q first others ih => simp [operands, ih]

/-- It has at least two operands, so that it is a node of its own. -/
@[simp] theorem tree_append : (p.append q).tree = .all (p.operands ++ q.operands) := by
  cases p <;> simp [append, tree, operands]

end Conjunction

namespace Disjunction

variable (p q : Disjunction)

/-- A disjunction is written as its two parts with `OR` between them. -/
@[simp] theorem text_append : (p.append q).text = p.text ++ " OR " ++ q.text := by
  fun_induction append p q with
  | case1 => simp [text]
  | case2 q first others ih => simp [text, ih, String.append_assoc]

/-- It is about the object when both parts are. -/
@[simp] theorem isAbout_append (object : String) :
    (p.append q).IsAbout object ↔ p.IsAbout object ∧ q.IsAbout object := by
  fun_induction append p q with
  | case1 => simp [IsAbout]
  | case2 q first others ih => simp [IsAbout, ih, and_assoc]

/-- It holds when one of the parts does. -/
@[simp] theorem eval_append (v : String → Bool) :
    (p.append q).eval v = (p.eval v || q.eval v) := by
  fun_induction append p q with
  | case1 => simp [eval]
  | case2 q first others ih => simp [eval, ih, Bool.or_assoc]

/-- It has the operands of both parts, in order. -/
@[simp] theorem operands_append : (p.append q).operands = p.operands ++ q.operands := by
  fun_induction append p q with
  | case1 => simp [operands]
  | case2 q first others ih => simp [operands, ih]

/-- It has at least two operands, so that it is a node of its own. -/
@[simp] theorem tree_append : (p.append q).tree = .any (p.operands ++ q.operands) := by
  cases p <;> simp [append, tree, operands]

end Disjunction

/-- A criterion as a conjunction: a range is two comparisons. -/
def Criterion.conjunction (object : String) (c : Criterion) (placeholders : List Nat) :
    Conjunction :=
  if c.operator = .between then
    .more (.comparison (c.lower placeholders object))
      (.one (.comparison (c.upper placeholders object)))
  else .one (.comparison (c.render placeholders object))

namespace Condition

mutual

/-- The condition as an operand of `AND`. -/
def conjunction (object : String) : Condition → Conjunction
  | test c placeholders => c.conjunction object placeholders
  | and a b => (a.conjunction object).append (b.conjunction object)
  | or a b => .one (.group ((a.disjunction object).append (b.disjunction object)))

/-- The condition as it stands alone, or as an operand of `OR`. -/
def disjunction (object : String) : Condition → Disjunction
  | test c placeholders => .one (c.conjunction object placeholders)
  | and a b => .one ((a.conjunction object).append (b.conjunction object))
  | or a b => (a.disjunction object).append (b.disjunction object)

end

/-- A range that has its placeholders is written as its two comparisons. -/
theorem render_between {c : Criterion} {placeholders : List Nat} (object : String)
    (hcount : placeholders.length = c.arity) (hop : c.operator = .between) :
    c.render placeholders object =
      c.lower placeholders object ++ " AND " ++ c.upper placeholders object := by
  rw [c.render_eq_phrase hcount, hop]
  simp [Criterion.phrase, Criterion.lower, Criterion.upper, String.append_assoc]

/-- The conjunction of a criterion is written as the criterion is. -/
theorem text_criterion {c : Criterion} {placeholders : List Nat} (object : String)
    (hcount : placeholders.length = c.arity) :
    (c.conjunction object placeholders).text = c.render placeholders object := by
  unfold Criterion.conjunction
  by_cases hop : c.operator = .between
  · simp [hop, Conjunction.text, Operand.text, render_between object hcount hop]
  · simp [hop, Conjunction.text, Operand.text]

/-- The comparisons of a criterion are single tests. -/
theorem isAbout_criterion {c : Criterion} {placeholders : List Nat} (object : String)
    (hcount : placeholders.length = c.arity) :
    (c.conjunction object placeholders).IsAbout object := by
  unfold Criterion.conjunction
  by_cases hop : c.operator = .between
  · rcases c with ⟨path, kind, op, ignoreCase, supported⟩
    simp only at hop
    subst hop
    -- Only `=` and its negation ignore case.
    have hcase : ignoreCase = false := by
      cases ignoreCase with
      | false => rfl
      | true => simp [Operator.supports, Operator.supportsIgnoreCase] at supported
    subst hcase
    -- A kind that supports a range supports the comparison with each end.
    have hlower : Operator.greaterThanEqual.supports kind false = true := supported
    have hupper : Operator.lessThanEqual.supports kind false = true := supported
    simp only [if_true, Conjunction.IsAbout, Operand.IsAbout]
    constructor
    · refine ⟨⟨path, kind, _, false, hlower⟩, [placeholders.getD 0 0], by simp, rfl, ?_⟩
      simp [Criterion.render, Criterion.phrase, Criterion.lower, String.append_assoc]
    · refine ⟨⟨path, kind, _, false, hupper⟩, [placeholders.getD 1 0], by simp, rfl, ?_⟩
      simp [Criterion.render, Criterion.phrase, Criterion.upper, String.append_assoc]
  · -- Any other criterion is itself a single test.
    simp only [if_neg hop, Conjunction.IsAbout, Operand.IsAbout]
    exact ⟨c, placeholders, hop, hcount, rfl⟩

/-- The parse trees of a condition have its text; as an operand of `AND` it may stand in
parentheses. -/
theorem text_parse {c : Condition} (hc : c.Complete) (object : String) :
    (c.conjunction object).text = render.operand c (c.render object) ∧
      (c.disjunction object).text = c.render object := by
  -- The two trees of a condition are built from both trees of its operands.
  induction c with
  | test criterion placeholders =>
    have htext := text_criterion object ((complete_test _ _).1 hc)
    exact ⟨by simp [conjunction, htext, render, render.operand, isOr],
      by simp [disjunction, Disjunction.text, htext, render]⟩
  | and a b iha ihb =>
    rcases (complete_and a b).1 hc with ⟨ha, hb⟩
    -- Both operands of `AND` are written as operands, so that an `OR` has its parentheses.
    have htext := (iha ha).1
    have htext' := (ihb hb).1
    exact ⟨by simp [conjunction, htext, htext', render, render.operand, isOr],
      by simp [disjunction, Disjunction.text, htext, htext', render]⟩
  | or a b iha ihb =>
    rcases (complete_or a b).1 hc with ⟨ha, hb⟩
    -- Operands of `OR` need none.
    have htext := (iha ha).2
    have htext' := (ihb hb).2
    exact ⟨by simp [conjunction, Conjunction.text, Operand.text, htext, htext', render,
      render.operand, isOr], by simp [disjunction, htext, htext', render]⟩

/-- All comparisons in the parse trees are about the object. -/
theorem isAbout_parse {c : Condition} (hc : c.Complete) (object : String) :
    (c.conjunction object).IsAbout object ∧ (c.disjunction object).IsAbout object := by
  induction c with
  | test criterion placeholders =>
    have habout := isAbout_criterion object ((complete_test _ _).1 hc)
    exact ⟨habout, habout⟩
  | and a b iha ihb =>
    rcases (complete_and a b).1 hc with ⟨ha, hb⟩
    have habout := (Conjunction.isAbout_append _ _ object).2 ⟨(iha ha).1, (ihb hb).1⟩
    exact ⟨habout, habout⟩
  | or a b iha ihb =>
    rcases (complete_or a b).1 hc with ⟨ha, hb⟩
    have habout := (Disjunction.isAbout_append _ _ object).2 ⟨(iha ha).2, (ihb hb).2⟩
    exact ⟨habout, habout⟩

/-- The parse trees have the truth value of the condition. -/
theorem eval_parse (c : Condition) (v : String → Bool) (object : String) :
    (c.conjunction object).eval v = c.holds v object ∧
      (c.disjunction object).eval v = c.holds v object := by
  induction c with
  | test criterion placeholders =>
    have heval : (criterion.conjunction object placeholders).eval v =
        (test criterion placeholders).holds v object := by
      unfold Criterion.conjunction holds
      split <;> simp [Conjunction.eval, Operand.eval]
    exact ⟨heval, heval⟩
  | and a b iha ihb =>
    exact ⟨by simp [conjunction, iha.1, ihb.1, holds],
      by simp [disjunction, Disjunction.eval, iha.1, ihb.1, holds]⟩
  | or a b iha ihb =>
    exact ⟨by simp [conjunction, Conjunction.eval, Operand.eval, iha.2, ihb.2, holds],
      by simp [disjunction, iha.2, ihb.2, holds]⟩

/-- The operands of the parse trees of a condition are those of its flattened tree. -/
theorem operands_parse (c : Condition) (object : String) :
    (c.conjunction object).operands = (c.flattened object).conjuncts ∧
      (c.disjunction object).operands = (c.flattened object).disjuncts ∧
      (c.disjunction object).tree = c.flattened object := by
  induction c with
  | test criterion placeholders =>
    by_cases hop : criterion.operator = .between <;>
      simp [conjunction, disjunction, Criterion.conjunction, flattened, hop,
        Conjunction.operands, Disjunction.operands, Disjunction.tree, Conjunction.tree,
        Operand.tree, OperandTree.conjuncts, OperandTree.disjuncts]
  | and a b iha ihb =>
    simp [conjunction, disjunction, flattened, Disjunction.operands, Disjunction.tree,
      OperandTree.conjuncts, OperandTree.disjuncts, iha.1, ihb.1]
  | or a b iha ihb =>
    simp [conjunction, disjunction, flattened, Conjunction.operands, Operand.tree,
      OperandTree.conjuncts, OperandTree.disjuncts, iha.2.1, ihb.2.1]

/-- One parse tree of what is written is at hand. -/
theorem parses_disjunction {c : Condition} (hc : c.Complete) (object : String) :
    (c.disjunction object).Parses object (c.render object) :=
  ⟨(isAbout_parse hc object).2, (text_parse hc object).2⟩

/-- What is written for a condition has exactly one parse tree. It is the condition with its ranges
split and its nesting flattened, and it has the truth value of the condition wherever comparisons
have one; conditions that are written alike are the same when they are flattened. -/
theorem parse_render {c : Condition} (hc : c.Assembled) {object : String}
    (hobject : isIdentifier object.toList = true) :
    ∃ p : Disjunction, p.Parses object (c.render object) ∧
      (∀ q : Disjunction, q.Parses object (c.render object) → q = p) ∧
      p.tree = c.flattened object ∧
      (∀ v, p.eval v = c.holds v object) ∧
      ∀ d : Condition, d.Assembled → d.render object = c.render object →
        d.flattened object = c.flattened object := by
  have hparses := parses_disjunction hc.complete object
  refine ⟨c.disjunction object, hparses, ?_, (operands_parse c object).2.2,
    fun v => (eval_parse c v object).2, ?_⟩
  · intro q hq
    exact hq.unique hparses hobject
  · -- Conditions that are written alike have the same parse tree, which is their flattened tree.
    intro d hd htext
    have hd' := parses_disjunction hd.complete object
    rw [htext] at hd'
    have hsame : d.disjunction object = c.disjunction object := hd'.unique hparses hobject
    rw [← (operands_parse d object).2.2, hsame, (operands_parse c object).2.2]

/-- A range below an `OR`, which stands in parentheses below an `AND`. -/
theorem parse_render_range :
    let age : PropertyPath := ⟨⟨"age", by decide⟩, []⟩
    let range : Criterion := ⟨age, .integer, .between, false, rfl⟩
    let small : Criterion := ⟨age, .integer, .lessThan, false, rfl⟩
    let missing : Criterion := ⟨age, .integer, .isNull, false, rfl⟩
    let c := and (or (test range [1, 2]) (test small [3])) (test missing [])
    c.render "x" = "(x.age >= $1 AND x.age <= $2 OR x.age < $3) AND x.age = NULL" ∧
      ∃ p : Disjunction, p.Parses "x" (c.render "x") ∧
        (∀ q : Disjunction, q.Parses "x" (c.render "x") → q = p) ∧ p.tree = c.flattened "x" := by
  intro age range small missing c
  -- Each test takes its numbers where the one before it stopped.
  have hrange : (test range [1, 2]).Assembled := .made range ⟨3, 0⟩ rfl
  have hsmall : (test small [3]).Assembled := .made small ⟨3, 2⟩ rfl
  have hmissing : (test missing []).Assembled := .made missing ⟨3, 3⟩ rfl
  obtain ⟨p, hp, hunique, htree, -⟩ :=
    parse_render (.and (.or hrange hsmall) hmissing) (by decide : isIdentifier "x".toList = true)
  exact ⟨by decide, p, hp, hunique, htree⟩

end Condition

end DerivedQuery
