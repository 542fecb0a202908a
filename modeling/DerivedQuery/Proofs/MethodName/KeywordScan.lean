import DerivedQuery.Proofs.MethodName.KeywordCuts
import DerivedQuery.Proofs.Text.Truncation
import Mathlib.Data.Set.Card

/-!
# The search for a keyword

The keyword is looked for from the left with two cursors, which are numbers of bytes: one stays where
the current piece begins, the other one goes on to the place from where the keyword is looked for.
Whether an occurrence of the keyword cuts the text is seen from the character in front of it and the
one behind it, in the whole text. If it does, both cursors go behind it. If it does not, the second
one goes on by one byte.

* `Splits`: a place in a text, in bytes; it has to be between two characters.
* `Scan`: a search that comes to its end.
* `scan_cutFrom`: every search does, and finds the pieces that a text is cut into.
* `cutAtKeyword_exact`: where a text is cut, into how many pieces, and how they are found.
-/

namespace DerivedQuery.MethodName

open Text

/-- The place behind `k` bytes of the text is between two characters: `a` stands in front of it and
`b` behind it. -/
structure Splits (text : List Char) (k : Nat) (a b : List Char) : Prop where
  text_eq : text = a ++ b
  bytes_eq : byteCount a = k

/-- The keyword occurs at no position of `t`, where `rest` follows. -/
abbrev Absent (keyword : String) (t rest : List Char) : Prop :=
  Throughout (fun cs => ¬ keyword.toList <+: cs) t rest

/-- The search for a keyword in a text, from the places of its two cursors to the pieces found. Each
place that the text is taken apart at is between two characters. -/
inductive Scan (keyword : String) (text : List Char) : Nat → Nat → List (List Char) → Prop
  /-- The keyword does not occur any more. -/
  | done {start search : Nat} {seen tail front piece : List Char}
      (hsearch : Splits text search seen tail) (hnone : Absent keyword tail [])
      (hpiece : Splits text start front piece) :
      Scan keyword text start search [piece]
  /-- The next occurrence cuts the text. -/
  | cut {start search : Nat} {seen passed rest front back whole behind done piece : List Char}
      {pieces : List (List Char)}
      (hsearch : Splits text search seen (passed ++ (keyword.toList ++ rest)))
      (hfirst : Absent keyword passed (keyword.toList ++ rest))
      (hfront : Splits text (search + byteCount passed) front back)
      (hbehind : Splits text (search + byteCount passed + keyword.utf8ByteSize) whole behind)
      (hcuts : (front.getLast?.any isAlphanumeric && behind.head?.any isUppercase) = true)
      (hpiece : Splits front start done piece)
      (hrest : Scan keyword text (search + byteCount passed + keyword.utf8ByteSize)
        (search + byteCount passed + keyword.utf8ByteSize) pieces) :
      Scan keyword text start search (piece :: pieces)
  /-- The next occurrence does not. -/
  | pass {start search : Nat} {seen passed rest front back whole behind : List Char}
      {pieces : List (List Char)}
      (hsearch : Splits text search seen (passed ++ (keyword.toList ++ rest)))
      (hfirst : Absent keyword passed (keyword.toList ++ rest))
      (hfront : Splits text (search + byteCount passed) front back)
      (hbehind : Splits text (search + byteCount passed + keyword.utf8ByteSize) whole behind)
      (hcuts : (front.getLast?.any isAlphanumeric && behind.head?.any isUppercase) = false)
      (hrest : Scan keyword text start (search + byteCount passed + 1) pieces) :
      Scan keyword text start search pieces

section

variable {keyword : String} {k : Char} {ks : List Char}

/-- A text without the keyword, or the first occurrence in it. -/
theorem exists_first (keyword : String) (tail : List Char) :
    Absent keyword tail [] ∨ ∃ passed rest, tail = passed ++ (keyword.toList ++ rest) ∧
      Absent keyword passed (keyword.toList ++ rest) := by
  induction tail with
  | nil => exact .inl trivial
  | cons c tail ih =>
    by_cases hhere : keyword.toList <+: c :: tail
    · obtain ⟨rest, hrest⟩ := hhere
      exact .inr ⟨[], rest, hrest.symm, trivial⟩
    · rcases ih with hnone | ⟨passed, rest, rfl, hfirst⟩
      · exact .inl ⟨by simpa using hhere, hnone⟩
      · exact .inr ⟨c :: passed, rest, rfl, hhere, hfirst⟩

/-- A piece in which the keyword does not even occur is quiet. -/
theorem quiet_of_absent {t rest : List Char} (h : Absent keyword t rest) :
    Quiet keyword t rest := by
  refine h.imp ?_
  rintro cs habsent ⟨c, behind, rfl, -⟩
  exact habsent (List.prefix_append _ _)

/-- What stands around the keyword decides. -/
theorem standsAt_append (keyword : String) (before : Option Char) (rest : List Char) :
    standsAt keyword before (keyword.toList ++ rest) =
      (before.any isAlphanumeric && rest.head?.any isUppercase) := by
  rw [standsAt, dropStart?_eq_some_iff.2 rfl]

theorem modifyHead_nil_append (ps : List (List Char)) : ps.modifyHead ([] ++ ·) = ps := by
  cases ps <;> rfl

/-- From every place on, the search finds the pieces that the rest of the text is cut into, the first
one with what was passed over in front of it. -/
theorem scan_cutFrom (hk : BeginsOnce keyword k ks) {text : List Char} (tail done mid : List Char)
    (htext : text = done ++ (mid ++ tail)) :
    Scan keyword text (byteCount done) (byteCount (done ++ mid))
      ((cutFrom keyword (done ++ mid).getLast? 0 tail).modifyHead (mid ++ ·)) := by
  -- The search goes on behind more than one character, so the induction is on how many are left.
  induction hlength : tail.length using Nat.strongRecOn generalizing tail done mid with
  | ind length ih =>
  subst hlength
  rcases exists_first keyword tail with hnone | ⟨passed, rest, rfl, hfirst⟩
  · have hcut := cutFrom_quiet (quiet_of_absent hnone) (done ++ mid).getLast?
    rw [List.append_nil] at hcut
    rw [hcut, cutFrom]
    exact .done ⟨by simpa using htext, rfl⟩ hnone ⟨by simpa using htext, rfl⟩
  · have hsearch : Splits text (byteCount (done ++ mid)) (done ++ mid)
        (passed ++ (keyword.toList ++ rest)) :=
      ⟨by rw [htext, List.append_assoc], rfl⟩
    have hfront : Splits text (byteCount (done ++ mid) + byteCount passed)
        (done ++ mid ++ passed) (keyword.toList ++ rest) :=
      ⟨by rw [hsearch.text_eq, List.append_assoc _ passed], byteCount_append _ _⟩
    have hbehind : Splits text
        (byteCount (done ++ mid) + byteCount passed + keyword.utf8ByteSize)
        (done ++ mid ++ passed ++ keyword.toList) rest :=
      ⟨by rw [hfront.text_eq, List.append_assoc _ keyword.toList],
        by rw [byteCount_append, hfront.bytes_eq, byteCount_toList]⟩
    have hstands := standsAt_append keyword (done ++ mid ++ passed).getLast? rest
    rw [cutFrom_quiet (quiet_of_absent hfirst), ← List.getLast?_append]
    cases hcuts : standsAt keyword (done ++ mid ++ passed).getLast? (keyword.toList ++ rest) with
    | true =>
      -- The piece ends in front of the keyword, and the next one begins behind it.
      have hrest := ih rest.length (by simp [hk.toList_eq]; omega) rest
        (done ++ mid ++ passed ++ keyword.toList) [] hbehind.text_eq rfl
      rw [List.append_nil, hbehind.bytes_eq, List.getLast?_append, modifyHead_nil_append] at hrest
      rw [cutFrom_of_standsAt hk hcuts, List.modifyHead_cons, List.modifyHead_cons,
        List.append_nil]
      refine .cut hsearch hfirst hfront hbehind (hstands.symm.trans hcuts)
        ⟨List.append_assoc _ _ _, rfl⟩ hrest
    | false =>
      -- The keyword's first letter is passed over, and the search goes on behind it.
      have hnext := ih (ks ++ rest).length (by simp [hk.toList_eq]; omega) (ks ++ rest) done
        (mid ++ passed ++ [k]) (by rw [htext, hk.toList_eq]; simp) rfl
      have hbytes : byteCount (done ++ (mid ++ passed ++ [k])) =
          byteCount (done ++ mid) + byteCount passed + 1 := by
        simp only [byteCount_append, byteCount, hk.one_byte]
        omega
      have hlast : (done ++ (mid ++ passed ++ [k])).getLast? = some k := by
        simp
      have hhere : standsAt keyword (done ++ mid ++ passed).getLast? (k :: (ks ++ rest)) = false := by
        rw [← hcuts, hk.toList_eq, List.cons_append]
      rw [hbytes, hlast] at hnext
      refine .pass hsearch hfirst hfront hbehind (hstands.symm.trans hcuts) ?_
      rw [hk.toList_eq, List.cons_append, cutFrom_of_not_standsAt hhere,
        List.modifyHead_modifyHead, List.modifyHead_modifyHead]
      simpa [Function.comp_def] using hnext

theorem scan_cutAtKeyword (hk : BeginsOnce keyword k ks) (text : List Char) :
    Scan keyword text 0 0 (cutAtKeyword keyword text) := by
  have hscan := scan_cutFrom hk text [] [] (text.nil_append.trans text.nil_append).symm
  rwa [modifyHead_nil_append] at hscan

end

/-- A text is cut at `And`, `Or` and `OrderBy` where these follow a letter or a number and precede a
capital in the whole text, at all such places and at no others: the joints of its pieces, from left
to right, are these places, of which there is one less than there are pieces. The pieces make the
text again with the keyword between them. They are what the search with two cursors finds, which
takes the text apart between characters only. -/
theorem cutAtKeyword_exact {keyword : String} (hkeyword : keyword ∈ ["And", "Or", "OrderBy"])
    (text : List Char) :
    keyword.toList.intercalate (cutAtKeyword keyword text) = text ∧
      (∀ i, i ∈ joints keyword.length 0 (cutAtKeyword keyword text) ↔ CutsAt keyword text i) ∧
      (joints keyword.length 0 (cutAtKeyword keyword text)).Pairwise (· < ·) ∧
      (cutAtKeyword keyword text).length = {i | CutsAt keyword text i}.ncard + 1 ∧
      Scan keyword text 0 0 (cutAtKeyword keyword text) := by
  obtain ⟨k, ks, hk⟩ := exists_beginsOnce hkeyword
  have hmem := mem_joints_cutAtKeyword hk text
  have hwidth : 0 < keyword.length := by
    rw [hk.length_eq]
    omega
  have hordered := pairwise_joints hwidth 0 (cutAtKeyword keyword text)
  -- The joints are in order, so none is counted twice.
  have hcount : {i | CutsAt keyword text i}.ncard =
      (joints keyword.length 0 (cutAtKeyword keyword text)).length := by
    have hset : {i | CutsAt keyword text i} =
        ((joints keyword.length 0 (cutAtKeyword keyword text)).toFinset : Set Nat) := by
      ext i
      rw [Set.mem_ofPred_eq, ← hmem, Finset.mem_coe, List.mem_toFinset]
    rw [hset, Set.ncard_coe_finset, List.toFinset_card_of_nodup (hordered.imp Nat.ne_of_lt)]
  refine ⟨intercalate_cutAtKeyword hk.ne_nil text, hmem, hordered, ?_, scan_cutAtKeyword hk text⟩
  rw [hcount]
  exact (length_joints (cutFrom_ne_nil _ _ _)).symm

/-- Of two keywords in a row both cut, the second one behind the letter that ends the first. Behind
an underscore the keyword does not cut. -/
theorem cutAtKeyword_exact_andAnd :
    "And" ∈ ["And", "Or", "OrderBy"] ∧
      cutAtKeyword "And" "\u00c4AndAndName_AndAge".toList =
        ["\u00c4".toList, [], "Name_AndAge".toList] ∧
      CutsAt "And" "\u00c4AndAndName_AndAge".toList 1 ∧
      CutsAt "And" "\u00c4AndAndName_AndAge".toList 4 ∧
      ¬ CutsAt "And" "\u00c4AndAndName_AndAge".toList 12 := by
  have hkeyword : "And" ∈ ["And", "Or", "OrderBy"] := by
    decide
  have hpieces : cutAtKeyword "And" "\u00c4AndAndName_AndAge".toList =
      ["\u00c4".toList, [], "Name_AndAge".toList] := by
    decide +kernel
  have hcuts := (cutAtKeyword_exact hkeyword "\u00c4AndAndName_AndAge".toList).2.1
  rw [hpieces] at hcuts
  refine ⟨hkeyword, hpieces, (hcuts 1).1 ?_, (hcuts 4).1 ?_, fun h => ?_⟩
  · decide
  · decide
  · exact absurd ((hcuts 12).2 h) (by decide)

end DerivedQuery.MethodName
