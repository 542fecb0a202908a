import Mathlib.Data.List.Forall2
import DerivedQuery.Proofs.Except
import DerivedQuery.Proofs.MethodName.Cutting
import DerivedQuery.Proofs.MethodName.Spelling

/-!
# What a parsed name is made of

Whatever name is parsed, its parts can be put together again: nothing of the name is lost, and
nothing is found that does not stand in it.

* `Term.IsSpelledBy`, `OrderSpelled`, `IsSpelledBy`: how a term, sort keys and a whole name are
  written.
* `IsWellFormed`: what holds of everything that a name says.
* `intercalate_cutAtKeyword`, `orderSpelled_keysFrom` and their like: each step of the reader takes
  a text apart without loss.
* `parse_decomposes`: a name that is parsed is well-formed and spelled by the name.
-/

namespace DerivedQuery

open MethodName

/-! ## How names are written -/

/-- The text spells the term: its property, a keyword for its operator and a keyword of its own that
makes it ignore case. Equality needs no keyword, and without one of its own the term has the mode
`mode`. -/
def Term.IsSpelledBy (mode : CaseMode) (t : Term) (text : String) : Prop :=
  ∃ operator ignoreCase : String, text = t.property ++ operator ++ ignoreCase ∧
    ((operator, t.operator) ∈ operatorKeywords ∨ operator = "" ∧ t.operator = .equals) ∧
    (ignoreCase ∈ ignoreCaseKeywords ∧ t.mode = .always ∨ ignoreCase = "" ∧ t.mode = mode)

/-- The text consists of pieces that spell the elements of a list, with `joint` between any two. -/
def IsJoinedBy {α : Type} (joint : String) (spells : α → String → Prop) (as : List α)
    (text : String) : Prop :=
  ∃ pieces, List.Forall₂ spells as pieces ∧ text = joint.intercalate pieces

namespace MethodName

/-- The text spells the sort keys: each property with its direction, which only the last one may go
without if it is ascending. -/
inductive OrderSpelled : List OrderTerm → String → Prop
  | nil : OrderSpelled [] ""
  | last (property : String) : OrderSpelled [⟨property, .ascending⟩] property
  | key (property : String) (direction : Direction) {os : List OrderTerm} {text : String}
      (rest : OrderSpelled os text) :
      OrderSpelled (⟨property, direction⟩ :: os) (property ++ directionText direction ++ text)

/-- The name spells all that it says. What it says of duplicates and of a limit stands in its
subject; without criteria there is nothing but a subject. -/
inductive IsSpelledBy (n : MethodName) : String → Prop
  | subject {opening subject : String} (hopening : opening ∈ queryPrefixes)
      (hsubject : readSubject subject.toList = .ok ⟨n.distinct, n.limit, [], []⟩)
      (hgroups : n.groups = []) (horder : n.order = []) : IsSpelledBy n (opening ++ subject)
  | criteria {opening subject criteria all order : String} {mode : CaseMode}
      (hopening : opening ∈ queryPrefixes)
      (hsubject : readSubject subject.toList = .ok ⟨n.distinct, n.limit, [], []⟩)
      (hall : all ∈ allIgnoreCaseKeywords ∧ mode = .whenPossible ∨ all = "" ∧ mode = .never)
      (hcriteria : IsJoinedBy "Or" (IsJoinedBy "And" (Term.IsSpelledBy mode)) n.groups criteria)
      (horder : n.order = [] ∧ order = "" ∨
        n.order ≠ [] ∧ ∃ keys, OrderSpelled n.order keys ∧ order = "OrderBy" ++ keys) :
      IsSpelledBy n (opening ++ subject ++ "By" ++ criteria ++ all ++ order)

/-- The text is not empty and begins with a capital. -/
def IsProperty (s : String) : Prop :=
  ∃ c cs, s.toList = c :: cs ∧ Text.isUppercase c = true

/-- What holds of everything that a name says: no group is empty, terms and sort keys are about
properties, and a limit is positive. -/
structure IsWellFormed (n : MethodName) : Prop where
  groups_ne_nil : ∀ group ∈ n.groups, group ≠ []
  term_property : ∀ t ∈ n.terms, IsProperty t.property
  order_property : ∀ o ∈ n.order, IsProperty o.property
  limit_pos : ∀ k, n.limit = some k → 1 ≤ k

open Text

/-! ## The subject -/

/-- What follows the opening word of a query is the rest of the name. -/
theorem eq_of_splitPrefix? {cs rest : List Char} (h : splitPrefix? cs = some rest) :
    ∃ opening ∈ queryPrefixes, cs = opening.toList ++ rest := by
  rcases List.exists_of_findSome?_eq_some h with ⟨word, hword, hdrop⟩
  exact ⟨word, hword, dropStart?_eq_some_iff.1 hdrop⟩

/-- The first `By` that a capital follows is taken out, and nothing else. -/
theorem eq_of_splitAtBy? {cs subject predicate : List Char}
    (h : splitAtBy? cs = some (subject, predicate)) : cs = subject ++ "By".toList ++ predicate := by
  induction cs generalizing subject with
  | nil => cases h
  | cons c cs ih =>
    unfold splitAtBy? at h
    split at h
    · next rest hdrop =>
      cases h
      simpa using dropStart?_eq_some_iff.1 hdrop
    · -- A `By` here would have been taken; without a capital behind it, the search goes on.
      split at h
      · cases h
      · rcases Option.map_eq_some_iff.1 h with ⟨⟨s, rest⟩, hrest, heq⟩
        cases heq
        rw [ih hrest]
        rfl

/-- A name is divided at a `By` in front, or else at a later one. -/
theorem eq_of_splitBy? {cs subject predicate : List Char}
    (h : splitBy? cs = some (subject, predicate)) : cs = subject ++ "By".toList ++ predicate := by
  unfold splitBy? at h
  split at h
  · next rest hdrop =>
    cases h
    simpa using dropStart?_eq_some_iff.1 hdrop
  · -- Not in front; the search begins behind the first character.
    cases cs with
    | nil => cases h
    | cons c cs =>
      simp only at h
      split at h
      · rcases Option.map_eq_some_iff.1 h with ⟨⟨s, rest⟩, hrest, heq⟩
        cases heq
        rw [eq_of_splitAtBy? hrest]
        rfl
      · cases h

/-- A limit is one, or a number that is not zero. -/
theorem pos_of_readLimit {digits : List Char} {k : Nat} (h : readLimit digits = .ok k) : 1 ≤ k := by
  unfold readLimit at h
  split at h
  · cases h
    exact Nat.le_refl 1
  · split at h
    · cases h
    · cases h
    · next m hzero hm =>
      cases h
      exact Nat.one_le_iff_ne_zero.2 fun hk => hzero (hk ▸ rfl)

/-- The subject says nothing of criteria and of an order, and its limit is positive. -/
theorem eq_of_readSubject {subject : List Char} {n : MethodName}
    (h : readSubject subject = .ok n) :
    n = ⟨n.distinct, n.limit, [], []⟩ ∧ ∀ k, n.limit = some k → 1 ≤ k := by
  unfold readSubject at h
  cases hdigits : limitDigits? subject with
  | none =>
    rw [hdigits] at h
    cases h
    exact ⟨rfl, fun k hk => by cases hk⟩
  | some digits =>
    rw [hdigits] at h
    cases hread : readLimit digits with
    | error fault =>
      simp only [hread] at h
      cases h
    | ok m =>
      simp only [hread] at h
      cases h
      refine ⟨rfl, ?_⟩
      intro k hk
      cases hk
      exact pos_of_readLimit hread

/-! ## Pieces between keywords -/

/-- The pieces that are found are joined to the text again. What is still to be passed over of a
keyword belongs to none of them. -/
theorem intercalate_cutFrom {keyword : String} (hkeyword : keyword.toList ≠ [])
    (before : Option Char) (skip : Nat) (cs : List Char) :
    keyword.toList.intercalate (cutFrom keyword before skip cs) = cs.drop skip := by
  induction cs generalizing before skip with
  | nil => cases skip <;> simp [cutFrom]
  | cons c cs ih =>
    cases skip with
    | succ skip => exact ih (some c) skip
    | zero =>
      unfold cutFrom
      split
      · next hstands =>
        -- The keyword is passed over from here on, and put back in front of the next piece.
        rcases (standsAt_iff.1 hstands).2 with ⟨d, rest, heq, -⟩
        have hdrop : cs.drop (keyword.length - 1) = d :: rest := by
          cases hk : keyword.toList with
          | nil => exact absurd hk hkeyword
          | cons k ks =>
            have hlength : keyword.length = ks.length + 1 := by
              rw [← String.length_toList, hk, List.length_cons]
            rw [hk, List.cons_append, List.cons.injEq] at heq
            rw [heq.2, hlength, Nat.add_sub_cancel, List.drop_left]
        have hrest := ih (some c) (keyword.length - 1)
        cases hcut : cutFrom keyword (some c) (keyword.length - 1) cs with
        | nil => exact absurd hcut (cutFrom_ne_nil _ _ _)
        | cons p ps =>
          rw [hcut, hdrop] at hrest
          rw [List.intercalate_cons_cons, hrest, List.nil_append, ← heq]
          rfl
      · -- No cut, and the first piece grows by this character.
        have hrest := ih (some c) 0
        cases hcut : cutFrom keyword (some c) 0 cs with
        | nil => exact absurd hcut (cutFrom_ne_nil _ _ _)
        | cons p ps =>
          rw [hcut, List.drop_zero] at hrest
          -- The character becomes the first one of the first piece.
          cases ps with
          | nil => simpa using hrest
          | cons q qs =>
            rw [List.intercalate_cons_cons] at hrest
            simpa [List.intercalate_cons_cons] using hrest

/-- Cutting at a keyword loses nothing but the keyword. -/
theorem intercalate_cutAtKeyword {keyword : String} (hkeyword : keyword.toList ≠ [])
    (cs : List Char) : keyword.toList.intercalate (cutAtKeyword keyword cs) = cs :=
  intercalate_cutFrom hkeyword none 0 cs

/-- What is read of a list is read of its elements one by one. -/
theorem forall₂_of_mapM {α β ε : Type} {read : β → Except ε α} {bs : List β} {as : List α}
    (h : bs.mapM read = .ok as) : List.Forall₂ (fun a b => read b = .ok a) as bs := by
  induction bs generalizing as with
  | nil =>
    cases h
    exact .nil
  | cons b bs ih =>
    simp only [List.mapM_cons, bind_eq_ok_iff, pure_eq_ok_iff] at h
    rcases h with ⟨a, ha, as', has, rfl⟩
    exact .cons ha (ih has)

/-- A property of all that can be read holds of all that is read of a list. -/
theorem forall_mem_of_mapM {α β ε : Type} {read : β → Except ε α} {P : α → Prop}
    (hread : ∀ b a, read b = .ok a → P a) {bs : List β} {as : List α}
    (h : bs.mapM read = .ok as) : ∀ a ∈ as, P a := by
  have hall : List.Forall₂ (fun a _ => P a) as bs :=
    (forall₂_of_mapM h).imp fun a b => hread b a
  clear h
  induction hall with
  | nil => simp
  | cons ha _ ih => exact List.forall_mem_cons.2 ⟨ha, ih⟩

/-- Pieces that are read one by one spell what is read of them. -/
theorem isJoinedBy_of_mapM {α ε : Type} {keyword : String} (hkeyword : keyword.toList ≠ [])
    {read : List Char → Except ε α} {spells : α → String → Prop}
    (hread : ∀ piece a, read piece = .ok a → spells a (String.ofList piece)) {cs : List Char}
    {as : List α} (h : (cutAtKeyword keyword cs).mapM read = .ok as) :
    IsJoinedBy keyword spells as (String.ofList cs) := by
  refine ⟨(cutAtKeyword keyword cs).map String.ofList, ?_, ?_⟩
  · rw [List.forall₂_map_right_iff]
    exact (forall₂_of_mapM h).imp fun a piece => hread piece a
  · -- The pieces are lists of characters, which the statement is not about.
    have hback : String.toList ∘ String.ofList = id := by
      funext cs
      simp
    apply String.toList_injective
    rw [String.toList_intercalate, String.toList_ofList, List.map_map, hback, List.map_id,
      intercalate_cutAtKeyword hkeyword]

/-- Something is read of every text, which is cut into one piece at least. -/
theorem ne_nil_of_mapM {α ε : Type} {keyword : String} {read : List Char → Except ε α}
    {cs : List Char} {as : List α} (h : (cutAtKeyword keyword cs).mapM read = .ok as) :
    as ≠ [] := by
  rintro rfl
  have hlength := (forall₂_of_mapM h).length_eq
  exact cutFrom_ne_nil none 0 cs (List.eq_nil_of_length_eq_zero hlength.symm)

/-! ## Criteria -/

/-- A keyword that is taken off stood at the end. -/
theorem eq_of_dropKeyword? {α : Type} {keywords : List (String × α)} {cs rest : List Char}
    {meaning : α} (h : dropKeyword? keywords cs = some (rest, meaning)) :
    ∃ word, (word, meaning) ∈ keywords ∧ cs = rest ++ word.toList := by
  rcases List.exists_of_findSome?_eq_some h with ⟨⟨word, m⟩, hword, hdrop⟩
  rcases Option.map_eq_some_iff.1 hdrop with ⟨p, hp, heq⟩
  cases heq
  exact ⟨word, hword, dropEnd?_eq_some_iff.1 hp⟩

/-- The reader's own test decides it. -/
theorem isProperty_iff {s : String} : IsProperty s ↔ isCapitalised s.toList = true := by
  constructor
  · rintro ⟨c, cs, hs, hc⟩
    simp [hs, isCapitalised, hc]
  · intro h
    cases hs : s.toList with
    | nil => simp [hs, isCapitalised] at h
    | cons c cs => exact ⟨c, cs, hs, by simpa [hs, isCapitalised] using h⟩

/-- The property and the operator of a criterion, apart from its mode. -/
theorem spelling_of_test {test property : List Char} {operator : Operator}
    (h : (dropKeyword? operatorKeywords test).getD (test, .equals) = (property, operator)) :
    ∃ word : String, test = property ++ word.toList ∧
      ((word, operator) ∈ operatorKeywords ∨ word = "" ∧ operator = .equals) := by
  cases hdrop : dropKeyword? operatorKeywords test with
  | none =>
    rw [hdrop] at h
    cases h
    exact ⟨"", by simp, .inr ⟨rfl, rfl⟩⟩
  | some found =>
    rw [hdrop] at h
    subst h
    rcases eq_of_dropKeyword? hdrop with ⟨word, hword, heq⟩
    exact ⟨word, heq, .inl hword⟩

/-- The mode of a criterion: its own, or else the one of all criteria. -/
theorem spelling_of_mode {raw test : List Char} {mode own : CaseMode}
    (h : (dropKeyword? (ignoreCaseKeywords.map (·, .always)) raw).getD (raw, mode) = (test, own)) :
    ∃ word : String, raw = test ++ word.toList ∧
      (word ∈ ignoreCaseKeywords ∧ own = .always ∨ word = "" ∧ own = mode) := by
  cases hdrop : dropKeyword? (ignoreCaseKeywords.map (·, CaseMode.always)) raw with
  | none =>
    rw [hdrop] at h
    cases h
    exact ⟨"", by simp, .inr ⟨rfl, rfl⟩⟩
  | some found =>
    rw [hdrop] at h
    subst h
    rcases eq_of_dropKeyword? hdrop with ⟨word, hword, heq⟩
    rcases List.mem_map.1 hword with ⟨s, hs, hpair⟩
    cases hpair
    exact ⟨_, heq, .inl ⟨hs, rfl⟩⟩

/-- A criterion is spelled by the text it was read from, and is about a property. -/
theorem isSpelledBy_of_readTerm {mode : CaseMode} {raw : List Char} {t : Term}
    (h : readTerm mode raw = .ok t) :
    t.IsSpelledBy mode (String.ofList raw) ∧ IsProperty t.property := by
  unfold readTerm at h
  rcases hmode : (dropKeyword? (ignoreCaseKeywords.map (·, CaseMode.always)) raw).getD (raw, mode)
    with ⟨test, own⟩
  rcases hoperator : (dropKeyword? operatorKeywords test).getD (test, .equals)
    with ⟨property, operator⟩
  rw [hmode] at h
  simp only [hoperator] at h
  split at h
  · cases h
  · split at h
    · cases h
    · next hcapital =>
      cases h
      rcases spelling_of_mode hmode with ⟨word, hraw, hword⟩
      rcases spelling_of_test hoperator with ⟨keyword, htest, hkeyword⟩
      refine ⟨⟨keyword, word, ?_, hkeyword, hword⟩, ?_⟩
      · apply String.toList_injective
        simp [hraw, htest]
      · exact isProperty_iff.2 (by simpa using hcapital)

/-- Groups are spelled by the text they were read from. -/
theorem isJoinedBy_of_readGroups {mode : CaseMode} {criteria : List Char}
    {groups : List (List Term)} (h : readGroups mode criteria = .ok groups) :
    IsJoinedBy "Or" (IsJoinedBy "And" (Term.IsSpelledBy mode)) groups (String.ofList criteria) := by
  refine isJoinedBy_of_mapM (by decide) ?_ h
  intro group terms hgroup
  refine isJoinedBy_of_mapM (by decide) ?_ hgroup
  intro raw t ht
  exact (isSpelledBy_of_readTerm ht).1

/-- No group that is read is empty, and all its terms are about properties. -/
theorem wellFormed_of_readGroups {mode : CaseMode} {criteria : List Char}
    {groups : List (List Term)} (h : readGroups mode criteria = .ok groups) :
    ∀ group ∈ groups, group ≠ [] ∧ ∀ t ∈ group, IsProperty t.property := by
  refine forall_mem_of_mapM ?_ h
  intro raw group hgroup
  refine ⟨ne_nil_of_mapM hgroup, forall_mem_of_mapM ?_ hgroup⟩
  intro raw t ht
  exact (isSpelledBy_of_readTerm ht).2

/-! ## Sort keys -/

/-- A direction that is found stands here, with its full length. -/
theorem eq_of_directionAt? {cs : List Char} {direction : Direction} {length : Nat}
    (h : directionAt? cs = some (direction, length)) :
    ∃ rest, cs = (directionText direction).toList ++ rest ∧
      length = (directionText direction).toList.length ∧ 1 ≤ length := by
  rcases List.exists_of_findSome?_eq_some h with ⟨⟨word, d⟩, hword, hfound⟩
  have htable : ∀ k ∈ directionKeywords, k.1 = directionText k.2 ∧ 1 ≤ k.1.length := by
    decide
  rcases htable _ hword with ⟨hspelled, hpos⟩
  simp only at hspelled hpos hfound
  subst hspelled
  split at hfound
  · next rest hdrop =>
    split at hfound
    · cases hfound
      exact ⟨rest, dropStart?_eq_some_iff.1 hdrop, String.length_toList.symm, hpos⟩
    · cases hfound
  · cases hfound

/-- The keys that are found spell the text from the beginning of the current key on. What is still
to be passed over of a direction belongs to no key. -/
theorem orderSpelled_keysFrom (key : List Char) (skip : Nat) (cs : List Char) :
    OrderSpelled ((keysFrom key skip cs).map fun k => ⟨String.ofList k.1, k.2⟩)
      (String.ofList (key.reverse ++ cs.drop skip)) := by
  fun_induction keysFrom key skip cs with
  | case1 skip =>
    -- Nothing is left.
    rw [List.drop_nil]
    exact .nil
  | case2 c key skip =>
    -- The text ends inside a key.
    rw [List.drop_nil, List.append_nil]
    exact .last _
  | case3 key skip c cs ih =>
    -- The rest of a direction is passed over.
    exact ih
  | case4 c cs hascii ih =>
    -- A key begins.
    exact ih
  | case5 c cs hascii =>
    -- A key beyond ASCII runs to the end.
    exact .last _
  | case6 k key c cs direction length hfound ih =>
    -- A direction ends the key.
    rcases eq_of_directionAt? hfound with ⟨rest, hcs, hlength, hpos⟩
    have hdrop : cs.drop (length - 1) = rest := by
      have hlater : (c :: cs).drop length = rest := by
        rw [hcs, hlength, List.drop_left]
      rw [← hlater]
      cases length with
      | zero => omega
      | succ length => rfl
    rw [hdrop] at ih
    have htext : String.ofList ((k :: key).reverse ++ (c :: cs).drop 0) =
        String.ofList (k :: key).reverse ++ directionText direction ++
          String.ofList ([].reverse ++ rest) := by
      apply String.toList_injective
      simp [hcs]
    rw [htext]
    exact .key _ direction ih
  | case7 k key c cs hnone ih =>
    -- The character belongs to the key.
    rw [List.reverse_cons, List.append_assoc] at ih
    exact ih

/-- An order is spelled by the text it was read from. It has keys, and all of them are properties. -/
theorem orderSpelled_of_readOrder {clause : List Char} {order : List OrderTerm}
    (h : readOrder clause = .ok order) :
    OrderSpelled order (String.ofList clause) ∧ order ≠ [] ∧ ∀ o ∈ order, IsProperty o.property := by
  have hspelled := orderSpelled_keysFrom [] 0 clause
  unfold readOrder at h
  simp only at h
  split at h
  · cases h
  · next hne =>
    split at h
    · next hcapital =>
      cases h
      refine ⟨hspelled, ?_, ?_⟩
      · intro hnil
        rw [List.map_eq_nil_iff] at hnil
        simp [hnil] at hne
      · intro o ho
        rcases List.mem_map.1 ho with ⟨k, hk, rfl⟩
        have hkey := List.all_eq_true.1 hcapital k hk
        exact isProperty_iff.2 (by simpa using hkey)
    · cases h

/-! ## Names -/

/-- The criteria of a name and the mode they have in common. -/
theorem spelling_of_readCriteria {criteria : List Char} {groups : List (List Term)}
    (h : readCriteria criteria = .ok groups) :
    ∃ (written all : String) (mode : CaseMode), String.ofList criteria = written ++ all ∧
      (all ∈ allIgnoreCaseKeywords ∧ mode = .whenPossible ∨ all = "" ∧ mode = .never) ∧
      IsJoinedBy "Or" (IsJoinedBy "And" (Term.IsSpelledBy mode)) groups written ∧
      ∀ group ∈ groups, group ≠ [] ∧ ∀ t ∈ group, IsProperty t.property := by
  unfold readCriteria at h
  cases hdrop : dropKeyword? (allIgnoreCaseKeywords.map (·, ())) criteria with
  | none =>
    rw [hdrop] at h
    refine ⟨String.ofList criteria, "", .never, by simp, .inr ⟨rfl, rfl⟩, ?_⟩
    simp only at h
    split at h
    · -- There are no criteria at all.
      next hempty =>
      cases h
      rw [List.isEmpty_iff] at hempty
      subst hempty
      exact ⟨⟨[], .nil, rfl⟩, by simp⟩
    · exact ⟨isJoinedBy_of_readGroups h, wellFormed_of_readGroups h⟩
  | some found =>
    rcases found with ⟨rest, u⟩
    rcases eq_of_dropKeyword? hdrop with ⟨word, hword, heq⟩
    rcases List.mem_map.1 hword with ⟨s, hs, hpair⟩
    cases hpair
    rw [hdrop] at h
    refine ⟨String.ofList rest, _, .whenPossible, ?_, .inl ⟨hs, rfl⟩, ?_⟩
    · apply String.toList_injective
      simp [heq]
    · cases rest with
      | nil => cases h
      | cons c rest => exact ⟨isJoinedBy_of_readGroups h, wellFormed_of_readGroups h⟩

/-- The criteria and the order of a name are spelled by what follows `By`. -/
theorem spelling_of_readPredicate {predicate : List Char} {groups : List (List Term)}
    {order : List OrderTerm} (h : readPredicate predicate = .ok (groups, order)) :
    ∃ (criteria : List Char) (ordering : String),
      String.ofList predicate = String.ofList criteria ++ ordering ∧
      readCriteria criteria = .ok groups ∧ (∀ o ∈ order, IsProperty o.property) ∧
      (order = [] ∧ ordering = "" ∨ order ≠ [] ∧
        ∃ keys, OrderSpelled order keys ∧ ordering = "OrderBy" ++ keys) := by
  have hjoined : "OrderBy".toList.intercalate (cutAtKeyword "OrderBy" predicate) = predicate :=
    intercalate_cutAtKeyword (by decide) predicate
  unfold readPredicate at h
  split at h
  · next criteria hcut =>
    -- There is no order.
    rw [bind_eq_ok_iff] at h
    rcases h with ⟨groups', hgroups, hpure⟩
    cases hpure
    rw [hcut, List.intercalate_singleton] at hjoined
    exact ⟨criteria, "", by simp [hjoined], hgroups, by simp, .inl ⟨rfl, rfl⟩⟩
  · next criteria clause hcut =>
    simp only [bind_eq_ok_iff, pure_eq_ok_iff] at h
    rcases h with ⟨groups', hgroups, order', horder, hpair⟩
    cases hpair
    rcases orderSpelled_of_readOrder horder with ⟨hkeys, hne, hproperty⟩
    rw [hcut, List.intercalate_cons_cons, List.intercalate_singleton] at hjoined
    refine ⟨criteria, "OrderBy" ++ String.ofList clause, ?_, hgroups, hproperty,
      .inr ⟨hne, _, hkeys, rfl⟩⟩
    apply String.toList_injective
    simpa using hjoined.symm
  · cases h

/-- A name that is parsed begins with a word for queries. A subject follows it, and after that
nothing, or `By` and the criteria with the order. -/
theorem parts_of_parse {name : String} {n : MethodName} (h : parse name = .ok n) :
    ∃ opening ∈ queryPrefixes, ∃ subject,
      readSubject subject = .ok ⟨n.distinct, n.limit, [], []⟩ ∧
      (name.toList = opening.toList ++ subject ∧ n.groups = [] ∧ n.order = [] ∨
        ∃ predicate, name.toList = opening.toList ++ (subject ++ "By".toList ++ predicate) ∧
          readPredicate predicate = .ok (n.groups, n.order)) := by
  rw [parse, mapError_eq_ok_iff] at h
  unfold read at h
  split at h
  · next rest hprefix =>
    rcases eq_of_splitPrefix? hprefix with ⟨opening, hopening, hname⟩
    refine ⟨opening, hopening, ?_⟩
    split at h
    · next subject predicate hby =>
      simp only [bind_eq_ok_iff, pure_eq_ok_iff] at h
      rcases h with ⟨m, hsubject, ⟨groups, order⟩, hpredicate, rfl⟩
      rw [(eq_of_readSubject hsubject).1] at hsubject
      rw [eq_of_splitBy? hby] at hname
      exact ⟨subject, hsubject, .inr ⟨predicate, hname, hpredicate⟩⟩
    · -- There are no criteria.
      split at h
      · have hn := (eq_of_readSubject h).1
        rw [hn] at h
        exact ⟨rest, h, .inl ⟨hname, by rw [hn], by rw [hn]⟩⟩
      · cases h
  · cases h

/-- No group of a name is empty. -/
theorem groups_ne_nil_of_parse {name : String} {n : MethodName} (h : parse name = .ok n) :
    ∀ group ∈ n.groups, group ≠ [] := by
  rcases parts_of_parse h with ⟨_, _, subject, -, ⟨-, hgroups, -⟩ | ⟨predicate, -, hpredicate⟩⟩
  · simp [hgroups]
  · rcases spelling_of_readPredicate hpredicate with ⟨criteria, _, -, hcriteria, -⟩
    rcases spelling_of_readCriteria hcriteria with ⟨_, _, _, -, -, -, hterms⟩
    exact fun group hgroup => (hterms group hgroup).1

/-- A limit in a name is positive. -/
theorem limit_pos_of_parse {name : String} {n : MethodName} (h : parse name = .ok n) :
    ∀ k, n.limit = some k → 1 ≤ k := by
  rcases parts_of_parse h with ⟨_, _, subject, hsubject, _⟩
  exact (eq_of_readSubject hsubject).2

/-- A name that can be parsed is well-formed, and the name spells all that it says: nothing is lost,
and nothing is made up. -/
theorem parse_decomposes {name : String} {n : MethodName} (h : parse name = .ok n) :
    n.IsWellFormed ∧ n.IsSpelledBy name := by
  have hlimit := limit_pos_of_parse h
  rcases parts_of_parse h with ⟨opening, hopening, subject, hsubject,
    ⟨hname, hgroups, horder⟩ | ⟨predicate, hname, hpredicate⟩⟩
  · have htext : name = opening ++ String.ofList subject := by
      apply String.toList_injective
      simpa using hname
    constructor
    · have hterms : n.terms = [] := by
        rw [terms, hgroups, List.flatten_nil]
      exact ⟨by simp [hgroups], by simp [hterms], by simp [horder], hlimit⟩
    · rw [htext]
      exact .subject hopening (by rwa [String.toList_ofList]) hgroups horder
  · rcases spelling_of_readPredicate hpredicate with
      ⟨criteria, ordering, hsplit, hcriteria, hkeys, hordering⟩
    rcases spelling_of_readCriteria hcriteria with
      ⟨written, all, mode, hwritten, hall, hgroups, hterms⟩
    have htext : name =
        opening ++ String.ofList subject ++ "By" ++ written ++ all ++ ordering := by
      have hrest : predicate = (written ++ all ++ ordering).toList := by
        rw [← hwritten, ← hsplit, String.toList_ofList]
      apply String.toList_injective
      calc name.toList
          = opening.toList ++ (subject ++ "By".toList ++ (written ++ all ++ ordering).toList) := by
            rw [hname, hrest]
        _ = (opening ++ String.ofList subject ++ "By" ++ written ++ all ++ ordering).toList := by
            simp
    constructor
    · refine ⟨fun group hgroup => (hterms group hgroup).1, ?_, hkeys, hlimit⟩
      intro t ht
      rcases List.mem_flatten.1 ht with ⟨group, hgroup, ht⟩
      exact (hterms group hgroup).2 t ht
    · rw [htext]
      exact .criteria hopening (by rwa [String.toList_ofList]) hall hgroups hordering

/-- A name with two groups, a criterion that ignores case and a sort key. -/
theorem parse_decomposes_people :
    let name := "findDistinctTop5ByLastnameOrAgeGreaterThanAndFirstnameIgnoreCaseOrderByAgeDesc"
    let n : MethodName := ⟨true, some 5,
      [[⟨"Lastname", .equals, .never⟩],
        [⟨"Age", .greaterThan, .never⟩, ⟨"Firstname", .equals, .always⟩]],
      [⟨"Age", .descending⟩]⟩
    parse name = .ok n ∧ n.IsWellFormed ∧ n.IsSpelledBy name := by
  intro name n
  have hparse : parse name = .ok n := by
    decide +kernel
  exact ⟨hparse, parse_decomposes hparse⟩

end MethodName

end DerivedQuery
