import Mathlib.Data.List.Induction
import Mathlib.Data.List.TakeWhile
import DerivedQuery.Rewriter

/-!
# The order of rewriters

A chain to which rewriters are only registered is in order: a rewriter stands behind those of a lower
order, and behind those of its own order that were registered before it.

* `Rewriter.leaves`, `apply_leaves`: the rules of a chain of chains, which is what it applies.
* `RewriterChain.IsSplitAt`: where a list in order parts for one more rewriter.
* `RewriterChain.Holds`: a chain holds some rewriters, in order and stably.
* `Holds.register`, `holds_registered`: one more registration, and any number of them.
* `registered_stable`: what a chain holds and does after some registrations.
-/

namespace DerivedQuery

namespace Rewriter

/-! ## Chains in chains -/

mutual

/-- The rules of a rewriter, from the first that is applied to the last. -/
def leaves : Rewriter → List Rewriter
  | rule order rewrite => [rule order rewrite]
  | chain parts => leavesOf parts

def leavesOf : List Rewriter → List Rewriter
  | [] => []
  | r :: rs => r.leaves ++ leavesOf rs

end

mutual

/-- No leaf is a chain. -/
theorem exists_rule_of_mem_leaves :
    (r : Rewriter) → ∀ leaf ∈ r.leaves, ∃ order rewrite, leaf = rule order rewrite
  | rule order rewrite => by
    intro leaf hleaf
    rw [leaves, List.mem_singleton] at hleaf
    exact ⟨order, rewrite, hleaf⟩
  | chain parts => by
    intro leaf hleaf
    rw [leaves] at hleaf
    exact exists_rule_of_mem_leavesOf parts leaf hleaf

theorem exists_rule_of_mem_leavesOf :
    (rs : List Rewriter) → ∀ leaf ∈ leavesOf rs, ∃ order rewrite, leaf = rule order rewrite
  | [] => by
    intro leaf hleaf
    cases hleaf
  | r :: rs => by
    intro leaf hleaf
    rw [leavesOf, List.mem_append] at hleaf
    rcases hleaf with hleaf | hleaf
    · exact exists_rule_of_mem_leaves r leaf hleaf
    · exact exists_rule_of_mem_leavesOf rs leaf hleaf

end

variable (m : Method) (arguments : List Json)

/-- Each rewriter of a list is given what the one before it made of the text. -/
theorem applyAll_eq_foldl (rs : List Rewriter) (query : String) :
    applyAll m arguments rs query = rs.foldl (fun text r => r.apply m arguments text) query := by
  induction rs generalizing query with
  | nil => rfl
  | cons r rs ih => rw [applyAll, List.foldl_cons, ih]

mutual

/-- A rewriter does what its rules do, one after the other. -/
theorem apply_leaves (query : String) :
    (r : Rewriter) → r.apply m arguments query = applyAll m arguments r.leaves query
  | rule order rewrite => by rw [leaves, applyAll, applyAll]
  | chain parts => by
    rw [leaves, apply]
    exact applyAll_leaves query parts

theorem applyAll_leaves (query : String) :
    (rs : List Rewriter) → applyAll m arguments rs query = applyAll m arguments (leavesOf rs) query
  | [] => rfl
  | r :: rs => by
    rw [applyAll, leavesOf, apply_leaves query r, applyAll_leaves _ rs]
    simp only [applyAll_eq_foldl, List.foldl_append]

end

end Rewriter

namespace RewriterChain

variable {c : RewriterChain} {rs : List Rewriter}

/-! ## One registration -/

/-- The rewriters stand in the order that they ask for. -/
def InOrder (c : RewriterChain) : Prop :=
  c.parts.Pairwise fun p q => p.order ≤ q.order

/-- The list parts at `i` into the rewriters whose order is at most `order` and the others. -/
structure IsSplitAt (order : Int) (parts : List Rewriter) (i : Nat) : Prop where
  le_length : i ≤ parts.length
  earlier : ∀ p ∈ parts.take i, p.order ≤ order
  later : ∀ p ∈ parts.drop i, order < p.order

/-- In a list in order, no rewriter behind the first of a higher order is of a lower one. -/
theorem lt_of_mem_dropWhile (order : Int) {parts : List Rewriter}
    (h : parts.Pairwise fun p q => p.order ≤ q.order) :
    ∀ p ∈ parts.dropWhile (fun p => p.order ≤ order), order < p.order := by
  induction parts with
  | nil =>
    intro p hp
    cases hp
  | cons q parts ih =>
    rw [List.pairwise_cons] at h
    intro p hp
    by_cases hq : q.order ≤ order
    · rw [List.dropWhile_cons_of_pos (by simpa using hq)] at hp
      exact ih h.2 p hp
    · rw [List.dropWhile_cons_of_neg (by simpa using hq)] at hp
      rcases List.mem_cons.1 hp with rfl | hp
      · omega
      · have hle := h.1 p hp
        omega

/-- A chain in order parts for one more rewriter, and that is where the rewriter is put. -/
theorem InOrder.exists_register_eq (h : c.InOrder) (r : Rewriter) :
    ∃ i, IsSplitAt r.order c.parts i ∧
      (c.register r).parts = c.parts.take i ++ r :: c.parts.drop i := by
  have hparts := List.takeWhile_append_dropWhile (l := c.parts)
    (p := fun p => decide (p.order ≤ r.order))
  have hlater := lt_of_mem_dropWhile r.order h
  -- The place is behind all rewriters whose order is not higher.
  refine ⟨(c.parts.takeWhile fun p => p.order ≤ r.order).length, ?_⟩
  have htake := @List.take_left _ (c.parts.takeWhile fun p => p.order ≤ r.order)
    (c.parts.dropWhile fun p => p.order ≤ r.order)
  have hdrop := @List.drop_left _ (c.parts.takeWhile fun p => p.order ≤ r.order)
    (c.parts.dropWhile fun p => p.order ≤ r.order)
  rw [hparts] at htake hdrop
  constructor
  · constructor
    · exact (List.takeWhile_prefix _).length_le
    · intro p hp
      rw [htake] at hp
      simpa using List.mem_takeWhile_imp hp
    · intro p hp
      rw [hdrop] at hp
      exact hlater p hp
  · rw [htake, hdrop]
    rfl

/-! ## Any number of registrations -/

/-- The chain holds the rewriters `rs`: none is lost or repeated, they are in order, and those of
one order stand as they do in `rs`. -/
structure Holds (c : RewriterChain) (rs : List Rewriter) : Prop where
  inOrder : c.InOrder
  perm : c.parts.Perm rs
  stable : ∀ k : Int, c.parts.filter (·.order = k) = rs.filter (·.order = k)

theorem holds_empty : empty.Holds [] :=
  ⟨List.Pairwise.nil, List.Perm.nil, fun _ => rfl⟩

/-- One more registration. -/
theorem Holds.register (h : c.Holds rs) (r : Rewriter) : (c.register r).Holds (rs ++ [r]) := by
  obtain ⟨i, hsplit, hregister⟩ := h.inOrder.exists_register_eq r
  have hparts : c.parts.take i ++ c.parts.drop i = c.parts := List.take_append_drop i c.parts
  constructor
  · -- In order: the new rewriter fits between the two parts.
    have horder := h.inOrder
    rw [InOrder, ← hparts, List.pairwise_append] at horder
    rw [InOrder, hregister, List.pairwise_append, List.pairwise_cons]
    refine ⟨horder.1, ⟨?_, horder.2.1⟩, ?_⟩
    · intro p hp
      exact Int.le_of_lt (hsplit.later p hp)
    · intro p hp q hq
      rcases List.mem_cons.1 hq with rfl | hq
      · exact hsplit.earlier p hp
      · exact horder.2.2 p hp q hq
  · -- Nothing is lost or repeated.
    rw [hregister]
    have hmiddle : (c.parts.take i ++ r :: c.parts.drop i).Perm (r :: c.parts) := by
      conv_rhs => rw [← hparts]
      exact List.perm_middle
    exact hmiddle.trans ((h.perm.cons r).trans (List.perm_append_singleton r rs).symm)
  · -- Of one order, in the order of registration.
    intro k
    rw [List.filter_append, ← h.stable k, hregister, List.filter_append]
    conv_rhs => rw [← hparts, List.filter_append]
    by_cases hk : r.order = k
    · -- Behind the new rewriter there is none of its order.
      have hnone : (c.parts.drop i).filter (·.order = k) = [] := by
        rw [List.filter_eq_nil_iff]
        intro p hp
        have hlater := hsplit.later p hp
        simp only [decide_eq_true_eq]
        omega
      rw [List.filter_cons_of_pos (by simpa using hk), hnone]
      simp [hk]
    · rw [List.filter_cons_of_neg (by simpa using hk)]
      simp [hk]

/-- The chain after some registrations, the first of them to the empty chain. -/
def registered (rs : List Rewriter) : RewriterChain :=
  rs.foldl register empty

theorem registered_append (rs : List Rewriter) (r : Rewriter) :
    registered (rs ++ [r]) = (registered rs).register r := by
  rw [registered, List.foldl_append]
  rfl

theorem holds_registered (rs : List Rewriter) : (registered rs).Holds rs := by
  induction rs using List.reverseRecOn with
  | nil => exact holds_empty
  | append_singleton rs r ih =>
    -- The induction is from the end, as the last rewriter is registered with all others in place.
    rw [registered_append]
    exact ih.register r

/-- A chain in order stands where the lowest of its rewriters would. -/
theorem Holds.order_toRewriter (h : c.Holds rs) :
    c.toRewriter.order = (rs.map Rewriter.order).min?.getD 2147483647 := by
  -- In a chain in order the first rewriter is the lowest.
  cases hparts : c.parts with
  | nil =>
    have hnil : rs = [] := (hparts ▸ h.perm).nil_eq.symm
    rw [hnil, toRewriter, hparts]
    rfl
  | cons p ps =>
    have hperm := h.perm
    have horder := h.inOrder
    rw [InOrder, hparts, List.pairwise_cons] at horder
    rw [hparts] at hperm
    have hmin : (rs.map Rewriter.order).min? = some p.order := by
      rw [List.min?_eq_some_iff]
      constructor
      · exact List.mem_map_of_mem (hperm.mem_iff.1 List.mem_cons_self)
      · intro k hk
        obtain ⟨q, hq, rfl⟩ := List.mem_map.1 hk
        rcases List.mem_cons.1 (hperm.mem_iff.2 hq) with rfl | hq
        · exact Int.le_refl _
        · exact horder.1 q hq
    rw [hmin, toRewriter, hparts]
    rfl

end RewriterChain

end DerivedQuery
