import DerivedQuery.Proofs.MethodName.Decomposition

/-!
# Where a name is cut

A text is cut at a keyword wherever it follows a letter or a number and a capital follows it, and
nowhere else. The letter in front may itself belong to a keyword at which the text was cut.

* `CutsAt`: the keyword stands behind the first `i` characters so.
* `joints`: where the keyword stood between pieces; `pairwise_joints`, `length_joints`.
* `mem_joints_cutAtKeyword`: these are the places where it stands so.
-/

namespace DerivedQuery.MethodName

open Text

/-- Behind the first `i` characters of the text, of which the last is a letter or a number, stands
the keyword, and behind that a capital. -/
def CutsAt (keyword : String) (cs : List Char) (i : Nat) : Prop :=
  ∃ front a c rest, cs = front ++ a :: (keyword.toList ++ c :: rest) ∧ i = front.length + 1 ∧
    isAlphanumeric a = true ∧ isUppercase c = true

/-- A keyword that cannot begin within itself: its first letter, which takes one byte, does not
occur in it again. -/
structure BeginsOnce (keyword : String) (k : Char) (ks : List Char) : Prop where
  toList_eq : keyword.toList = k :: ks
  first_not_mem : k ∉ ks
  one_byte : k.utf8Size = 1

/-- The keywords that names are cut at. -/
theorem exists_beginsOnce {keyword : String} (h : keyword ∈ ["And", "Or", "OrderBy"]) :
    ∃ k ks, BeginsOnce keyword k ks := by
  simp only [List.mem_cons, List.not_mem_nil, or_false] at h
  rcases h with rfl | rfl | rfl
  · exact ⟨'A', "nd".toList, by decide, by decide, by decide⟩
  · exact ⟨'O', "r".toList, by decide, by decide, by decide⟩
  · exact ⟨'O', "rderBy".toList, by decide, by decide, by decide⟩

section

variable {keyword : String} {k : Char} {ks : List Char}

theorem BeginsOnce.ne_nil (hk : BeginsOnce keyword k ks) : keyword.toList ≠ [] := by
  rw [hk.toList_eq]
  exact List.cons_ne_nil k ks

theorem BeginsOnce.length_eq (hk : BeginsOnce keyword k ks) : keyword.length = ks.length + 1 := by
  rw [← String.length_toList, hk.toList_eq, List.length_cons]

/-! ## Places in a text -/

/-- The keyword stands as one behind the first `i` characters of `cs`, where `before` is the
character in front of `cs`. -/
def Stands (keyword : String) (before : Option Char) (cs : List Char) (i : Nat) : Prop :=
  standsAt keyword ((cs.take i).getLast?.or before) (cs.drop i) = true

theorem stands_zero {before : Option Char} {cs : List Char} :
    Stands keyword before cs 0 ↔ standsAt keyword before cs = true := by
  rw [Stands, List.take_zero, List.drop_zero, List.getLast?_nil, Option.none_or]

/-- Past a character, the places are counted from the next one, and that character is in front. -/
theorem stands_succ {before : Option Char} {c : Char} {cs : List Char} {i : Nat} :
    Stands keyword before (c :: cs) (i + 1) ↔ Stands keyword (some c) cs i := by
  rw [Stands, Stands, List.take_succ_cons, List.drop_succ_cons, getLast?_or_some]

/-- Behind a beginning of the text. -/
theorem stands_append {before : Option Char} (t rest : List Char) {i : Nat} :
    Stands keyword before (t ++ rest) (t.length + i) ↔
      Stands keyword (t.getLast?.or before) rest i := by
  -- The induction is over the beginning; the character in front moves along with it.
  induction t generalizing before with
  | nil => simp
  | cons c t ih =>
    have hlength : (c :: t).length + i = t.length + i + 1 := by
      rw [List.length_cons]
      omega
    rw [List.cons_append, hlength, stands_succ, ih, getLast?_or_some]

/-- Where the keyword stands, what is left of the text begins with it. -/
theorem prefix_of_stands {before : Option Char} {cs : List Char} {i : Nat}
    (h : Stands keyword before cs i) : keyword.toList <+: cs.drop i := by
  obtain ⟨c, rest, hdrop, -⟩ := (standsAt_iff.1 h).2
  rw [hdrop]
  exact List.prefix_append _ _

/-- There is no room for it at the end of the text. -/
theorem not_stands_nil (hk : BeginsOnce keyword k ks) {before : Option Char} {i : Nat} :
    ¬ Stands keyword before [] i := by
  intro h
  have hbegins := prefix_of_stands h
  rw [List.drop_nil, List.prefix_nil] at hbegins
  exact hk.ne_nil hbegins

/-- Within a keyword it does not stand again. -/
theorem not_stands_within (hk : BeginsOnce keyword k ks) {before : Option Char} {rest : List Char}
    {i : Nat} (hpos : 0 < i) (hlt : i < keyword.length) :
    ¬ Stands keyword before (keyword.toList ++ rest) i := by
  intro h
  rw [hk.length_eq] at hlt
  have hbegins := prefix_of_stands h
  obtain ⟨j, rfl⟩ : ∃ j, i = j + 1 := ⟨i - 1, by omega⟩
  -- What follows within the keyword begins with one of its later letters.
  rw [hk.toList_eq, List.cons_append, List.drop_succ_cons,
    List.drop_append_of_le_length (by omega), List.drop_eq_getElem_cons (by omega),
    List.cons_append, List.cons_prefix_cons] at hbegins
  exact hk.first_not_mem (hbegins.1 ▸ List.getElem_mem _)

/-- Where the keyword does not stand at a character, it stands behind it if anywhere. -/
theorem stands_cons_iff {before : Option Char} {c : Char} {cs : List Char}
    (h : standsAt keyword before (c :: cs) = false) {j : Nat} :
    Stands keyword before (c :: cs) j ↔ ∃ m, j = m + 1 ∧ Stands keyword (some c) cs m := by
  constructor
  · intro hj
    cases j with
    | zero =>
      rw [stands_zero, h] at hj
      cases hj
    | succ m => exact ⟨m, rfl, stands_succ.1 hj⟩
  · rintro ⟨m, rfl, hm⟩
    exact stands_succ.2 hm

/-- Where the keyword stands, it stands the next time behind itself, where its own last letter is the
character in front. -/
theorem stands_keyword_iff (hk : BeginsOnce keyword k ks) {before : Option Char} {rest : List Char}
    (h : standsAt keyword before (keyword.toList ++ rest) = true) {j : Nat} :
    Stands keyword before (keyword.toList ++ rest) j ↔
      j = 0 ∨ ∃ m, j = keyword.length + m ∧
        Stands keyword (keyword.toList.getLast?.or before) rest m := by
  have hbehind {m : Nat} : Stands keyword before (keyword.toList ++ rest) (keyword.length + m) ↔
      Stands keyword (keyword.toList.getLast?.or before) rest m := by
    rw [← String.length_toList]
    exact stands_append keyword.toList rest
  constructor
  · intro hj
    -- At the keyword itself, within it, or behind it.
    rcases Nat.eq_zero_or_pos j with hzero | hpos
    · exact .inl hzero
    rcases Nat.lt_or_ge j keyword.length with hlt | hge
    · exact absurd hj (not_stands_within hk hpos hlt)
    · obtain ⟨m, rfl⟩ := Nat.exists_eq_add_of_le hge
      exact .inr ⟨m, rfl, hbehind.1 hj⟩
  · rintro (rfl | ⟨m, rfl, hm⟩)
    · exact stands_zero.2 h
    · exact hbehind.2 hm

/-- With no text in front, these are the places that a name is cut at. -/
theorem stands_none_iff {cs : List Char} {i : Nat} :
    Stands keyword none cs i ↔ CutsAt keyword cs i := by
  rw [Stands, Option.or_none, standsAt_iff]
  constructor
  · rintro ⟨hbefore, c, rest, hdrop, hc⟩
    obtain ⟨a, hlast, ha⟩ := (Option.any_eq_true _ _).1 hbefore
    obtain ⟨front, hfront⟩ := List.getLast?_eq_some_iff.1 hlast
    -- Past the end of the text nothing would be left, where the keyword needs its letters.
    have hi : i ≤ cs.length := by
      by_contra hlong
      rw [List.drop_eq_nil_of_le (by omega)] at hdrop
      simp at hdrop
    have hlength := congrArg List.length hfront
    rw [List.length_take, Nat.min_eq_left hi, List.length_append, List.length_singleton] at hlength
    refine ⟨front, a, c, rest, ?_, hlength, ha, hc⟩
    rw [← List.take_append_drop i cs, hfront, hdrop]
    simp
  · -- A place that is written out has the last character of its front before it.
    rintro ⟨front, a, c, rest, rfl, rfl, ha, hc⟩
    have htext : front ++ a :: (keyword.toList ++ c :: rest) =
        (front ++ [a]) ++ (keyword.toList ++ c :: rest) := by
      simp
    have hlength : front.length + 1 = (front ++ [a]).length := by
      simp
    rw [htext, hlength, List.take_left, List.drop_left, List.getLast?_concat]
    exact ⟨by simpa using ha, c, rest, rfl, hc⟩

/-! ## Places between pieces -/

/-- Where the joints between pieces begin, if the first piece begins behind `offset` characters and
a joint is `width` characters long. -/
def joints (width : Nat) : Nat → List (List Char) → List Nat
  | offset, p :: q :: ps =>
    (offset + p.length) :: joints width (offset + p.length + width) (q :: ps)
  | _, _ => []

/-- No joint lies in front of the first piece. -/
theorem le_of_mem_joints {width offset : Nat} {ps : List (List Char)} :
    ∀ i ∈ joints width offset ps, offset ≤ i := by
  induction ps generalizing offset with
  | nil => simp [joints]
  | cons p ps ih =>
    cases ps with
    | nil => simp [joints]
    | cons q ps =>
      intro i hi
      rw [joints, List.mem_cons] at hi
      rcases hi with rfl | hi
      · -- The first joint, behind the first piece.
        omega
      · -- A later one, which lies behind this one.
        have hle := ih i hi
        omega

/-- The joints are listed from left to right, each once. -/
theorem pairwise_joints {width : Nat} (hwidth : 0 < width) (offset : Nat)
    (ps : List (List Char)) : (joints width offset ps).Pairwise (· < ·) := by
  induction ps generalizing offset with
  | nil => simp [joints]
  | cons p ps ih =>
    cases ps with
    | nil => simp [joints]
    | cons q ps =>
      rw [joints, List.pairwise_cons]
      refine ⟨?_, ih _⟩
      intro i hi
      have hle := le_of_mem_joints i hi
      omega

/-- There is a joint between any two neighbouring pieces. -/
theorem length_joints {width offset : Nat} {ps : List (List Char)} (hne : ps ≠ []) :
    (joints width offset ps).length + 1 = ps.length := by
  induction ps generalizing offset with
  | nil => exact absurd rfl hne
  | cons p ps ih =>
    cases ps with
    | nil => simp [joints]
    | cons q ps =>
      have hrest : (joints width (offset + p.length + width) (q :: ps)).length + 1 =
          (q :: ps).length := ih (List.cons_ne_nil q ps)
      rw [joints, List.length_cons, hrest, List.length_cons (a := p)]

/-- A cut at the very beginning is the first joint, and the others lie behind it. -/
theorem mem_joints_cut {width offset i : Nat} {ps : List (List Char)} (hne : ps ≠ []) :
    i ∈ joints width offset ([] :: ps) ↔ i = offset ∨ i ∈ joints width (offset + width) ps := by
  obtain ⟨p, ps, rfl⟩ := List.exists_cons_of_ne_nil hne
  rw [joints, List.length_nil, Nat.add_zero, List.mem_cons]

/-- A longer first piece moves the joints. -/
theorem joints_modifyHead {width offset : Nat} (t : List Char) (ps : List (List Char)) :
    joints width offset (ps.modifyHead (t ++ ·)) = joints width (offset + t.length) ps := by
  rcases ps with _ | ⟨p, _ | ⟨q, ps⟩⟩
  · rfl
  · rfl
  · have hlength : offset + (t ++ p).length = offset + t.length + p.length := by
      rw [List.length_append, Nat.add_assoc]
    simp only [List.modifyHead_cons, joints, hlength]

/-! ## Cutting -/

/-- Where the keyword does not stand, the character belongs to the first piece. -/
theorem cutFrom_of_not_standsAt {before : Option Char} {c : Char} {cs : List Char}
    (h : standsAt keyword before (c :: cs) = false) :
    cutFrom keyword before 0 (c :: cs) =
      (cutFrom keyword (some c) 0 cs).modifyHead ([c] ++ ·) := by
  rw [cutFrom, if_neg (by simp [h])]
  cases hcut : cutFrom keyword (some c) 0 cs with
  | nil => exact absurd hcut (cutFrom_ne_nil _ _ _)
  | cons p ps => rfl

/-- Where it stands, the text is cut, and the next piece is read behind it. -/
theorem cutFrom_of_standsAt (hk : BeginsOnce keyword k ks) {before : Option Char}
    {rest : List Char} (h : standsAt keyword before (keyword.toList ++ rest) = true) :
    cutFrom keyword before 0 (keyword.toList ++ rest) =
      [] :: cutFrom keyword (keyword.toList.getLast?.or before) 0 rest := by
  rw [hk.toList_eq, List.cons_append] at h ⊢
  rw [cutFrom, if_pos h, hk.length_eq, Nat.add_sub_cancel, cutFrom_skip, getLast?_or_some]

/-- The text is cut where the keyword stands. -/
theorem mem_joints_cutFrom (hk : BeginsOnce keyword k ks) (cs : List Char) (before : Option Char)
    (offset i : Nat) :
    i ∈ joints keyword.length offset (cutFrom keyword before 0 cs) ↔
      ∃ j, i = offset + j ∧ Stands keyword before cs j := by
  -- A keyword is passed over as a whole, so the induction is on the length of the text.
  induction hlength : cs.length using Nat.strongRecOn generalizing cs before offset with
  | ind length ih =>
  subst hlength
  cases cs with
  | nil =>
    -- An empty text is one piece, and the keyword does not stand in it.
    simp only [cutFrom, joints, List.not_mem_nil, false_iff, not_exists, not_and]
    intro j _
    exact not_stands_nil hk
  | cons c cs =>
    cases hstands : standsAt keyword before (c :: cs) with
    | false =>
      -- No cut here: the character joins the first piece of what follows.
      have hlater := ih cs.length (Nat.lt_succ_self _) cs (some c) (offset + 1) rfl
      rw [cutFrom_of_not_standsAt hstands, joints_modifyHead, List.length_singleton, hlater]
      constructor
      · rintro ⟨j, rfl, hj⟩
        exact ⟨j + 1, by omega, (stands_cons_iff hstands).2 ⟨j, rfl, hj⟩⟩
      · rintro ⟨_, rfl, hstanding⟩
        obtain ⟨j, rfl, hj⟩ := (stands_cons_iff hstands).1 hstanding
        exact ⟨j, by omega, hj⟩
    | true =>
      obtain ⟨d, rest, htext, -⟩ := (standsAt_iff.1 hstands).2
      -- A cut: the keyword is taken off, and what follows it is a shorter text. Only the capital
      -- behind the keyword is known of it, which no longer matters.
      rw [htext] at hstands ih ⊢
      generalize d :: rest = tail at hstands ih ⊢
      have hshorter : tail.length < (keyword.toList ++ tail).length := by
        rw [hk.toList_eq, List.cons_append, List.length_cons, List.length_append]
        omega
      have hlater := ih tail.length hshorter tail (keyword.toList.getLast?.or before)
        (offset + keyword.length) rfl
      rw [cutFrom_of_standsAt hk hstands, mem_joints_cut (cutFrom_ne_nil _ 0 tail), hlater]
      constructor
      · rintro (rfl | ⟨j, rfl, hj⟩)
        · -- The joint of this cut.
          exact ⟨0, rfl, stands_zero.2 hstands⟩
        · -- A later joint, which lies behind the keyword.
          exact ⟨keyword.length + j, by omega,
            (stands_keyword_iff hk hstands).2 (.inr ⟨j, rfl, hj⟩)⟩
      · rintro ⟨_, rfl, hstanding⟩
        rcases (stands_keyword_iff hk hstands).1 hstanding with rfl | ⟨j, rfl, hj⟩
        · exact .inl rfl
        · exact .inr ⟨j, by omega, hj⟩

/-- The joints of a whole text, which no character stands in front of. -/
theorem mem_joints_cutAtKeyword (hk : BeginsOnce keyword k ks) (cs : List Char) (i : Nat) :
    i ∈ joints keyword.length 0 (cutAtKeyword keyword cs) ↔ CutsAt keyword cs i := by
  rw [cutAtKeyword, mem_joints_cutFrom hk, ← stands_none_iff]
  simp

end

end DerivedQuery.MethodName
