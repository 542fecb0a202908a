import Mathlib.Data.List.Basic
import DerivedQuery.Proofs.MethodName.Spelling
import DerivedQuery.Proofs.Text.Ascii
import DerivedQuery.Proofs.Text.Position

/-!
# Sort keys with their directions

Sort keys are written one behind the other, each with its direction. A direction word counts where
the text ends behind it or goes on with a capital, except at the first character of a key. A key
that begins with a character beyond ASCII is never divided: it takes everything behind it.

* `keysFrom_quiet`, `keysFrom_direction`: the text of a key is passed over, and the direction behind
  it is found.
* `Undirected`: a text in which no direction word counts. `noDirection_of_undirected`: none comes
  about where the text runs on into what follows.
* `readKeys`: the keys that are read of a list of keys with their directions.
* `readOrder_keysText`: they are the keys that were written just when each begins with an ASCII
  character. `readOrder_wideInitial`: keys of which the first does not.
-/

namespace DerivedQuery.MethodName

open Text

/-! ## Directions -/

/-- The text ends here or goes on with a capital. -/
def EndsKey (cs : List Char) : Prop :=
  cs = [] ∨ isCapitalised cs = true

/-- No direction stands here. -/
def NoDirection (cs : List Char) : Prop :=
  directionAt? cs = none

instance : DecidablePred NoDirection :=
  fun cs => inferInstanceAs (Decidable (directionAt? cs = none))

/-- A direction is found where its word stands and a key may end behind it. -/
theorem directionAt?_text (d : Direction) {rest : List Char} (h : EndsKey rest) :
    directionAt? ((directionText d).toList ++ rest) = some (d, (directionText d).length) := by
  unfold EndsKey at h
  cases d with
  | descending =>
    have hfound : dropStart? "Desc" ('D' :: 'e' :: 's' :: 'c' :: rest) = some rest :=
      dropStart?_eq_some_iff.2 rfl
    simp [directionText, directionAt?, directionKeywords, hfound, h]
  | ascending =>
    have hother : dropStart? "Desc" ('A' :: 's' :: 'c' :: rest) = none := by
      simp [dropStart?]
    have hfound : dropStart? "Asc" ('A' :: 's' :: 'c' :: rest) = some rest :=
      dropStart?_eq_some_iff.2 rfl
    simp [directionText, directionAt?, directionKeywords, hother, hfound, h]

/-- No direction stands where a word, if there is one, is followed by a small letter. -/
theorem noDirection_iff {cs : List Char} :
    NoDirection cs ↔ ∀ d rest, cs = (directionText d).toList ++ rest → ¬ EndsKey rest := by
  constructor
  · rintro hnone d rest rfl hends
    rw [NoDirection, directionAt?_text d hends] at hnone
    cases hnone
  · intro h
    -- The table has the words of the two directions and nothing else.
    have hkeywords : ∀ k ∈ directionKeywords, ∃ d, k.1 = directionText d := by
      simp only [directionKeywords, List.forall_mem_cons]
      exact ⟨⟨.descending, rfl⟩, ⟨.ascending, rfl⟩, by simp⟩
    unfold NoDirection directionAt?
    rw [List.findSome?_eq_none_iff]
    intro k hk
    rcases hkeywords k hk with ⟨d, hd⟩
    rcases k with ⟨word, direction⟩
    cases hdrop : dropStart? word cs with
    | none => simp [hdrop]
    | some rest =>
      have hno := h d rest (by rw [← hd]; exact dropStart?_eq_some_iff.1 hdrop)
      unfold EndsKey at hno
      simp [hdrop, hno]

/-- Behind the first character of a key, what is not a direction belongs to the key. -/
theorem keysFrom_quiet {t rest : List Char} (h : Throughout NoDirection t rest) (k : Char)
    (key : List Char) :
    keysFrom (k :: key) 0 (t ++ rest) = keysFrom (t.reverse ++ k :: key) 0 rest := by
  induction t generalizing k key with
  | nil => rfl
  | cons c t ih =>
    rcases h with ⟨hhere, hlater⟩
    unfold NoDirection at hhere
    rw [List.cons_append, keysFrom, hhere, ih hlater]
    simp

/-- What is left of a direction is passed over. -/
theorem keysFrom_skip (key t rest : List Char) :
    keysFrom key t.length (t ++ rest) = keysFrom key 0 rest := by
  induction t with
  | nil => rfl
  | cons c t ih =>
    rw [List.length_cons, List.cons_append]
    cases key <;> simp [keysFrom, ih]

/-- A direction ends the key before it. -/
theorem keysFrom_direction {key : List Char} (hkey : key ≠ []) (d : Direction) {rest : List Char}
    (hrest : EndsKey rest) :
    keysFrom key 0 ((directionText d).toList ++ rest) =
      (key.reverse, d) :: keysFrom [] 0 rest := by
  have hfound := directionAt?_text d hrest
  have hlength : (directionText d).length = (directionText d).toList.length :=
    String.length_toList.symm
  cases key with
  | nil => exact absurd rfl hkey
  | cons k key =>
    cases hd : (directionText d).toList with
    | nil => cases d <;> simp [directionText] at hd
    | cons c cs =>
      rw [hlength, hd, List.length_cons, List.cons_append] at hfound
      rw [List.cons_append, keysFrom, hfound]
      simp [keysFrom_skip]

/-- A key may end where a direction stands, whose word begins with a capital. -/
theorem endsKey_direction (d : Direction) (rest : List Char) :
    EndsKey ((directionText d).toList ++ rest) := by
  right
  cases d <;> simp [directionText, isCapitalised, isUppercase]

/-! ## Texts without a direction -/

/-- Each direction word in the text is followed there by something that is not a capital. -/
def Undirected (t : List Char) : Prop :=
  ∀ d before behind, t = before ++ (directionText d).toList ++ behind → ¬ EndsKey behind

/-- A text without a direction is one in which none is found. -/
theorem undirected_iff {t : List Char} : Undirected t ↔ Throughout NoDirection t [] := by
  have hword (d : Direction) (rest : List Char) : (directionText d).toList ++ rest ≠ [] := by
    cases d <;> simp [directionText]
  simp only [Undirected, throughout_iff, noDirection_iff, List.append_nil]
  constructor
  · rintro h b ⟨before, rfl⟩ - d behind rfl
    exact h d before behind (List.append_assoc _ _ _).symm
  · rintro h d before behind rfl
    exact h _ ⟨before, (List.append_assoc _ _ _).symm⟩ (hword d behind) d behind rfl

/-- No direction comes about where a text without one runs on into a direction or a key. -/
theorem noDirection_of_undirected {t rest : List Char} (h : Undirected t) (hrest : EndsKey rest) :
    Throughout NoDirection t rest := by
  apply throughout_iff.2
  rintro b ⟨before, rfl⟩ hne
  apply noDirection_iff.2
  intro d tail heq
  rcases List.append_eq_append_iff.1 heq with ⟨a, hword, hrest'⟩ | ⟨a, hb, htail⟩
  · -- The word ends behind the text. There it would go on with a small letter.
    have hsmall (d : Direction) : Throughout (fun a => isCapitalised a = false)
        (directionText d).toList.tail [] := by
      cases d <;> simp [directionText, isCapitalised, isUppercase]
    cases a with
    | nil =>
      rw [List.append_nil] at hword
      exact absurd (.inl rfl) (h d before [] (by rw [List.append_nil, hword]))
    | cons c a =>
      have hc := (hsmall d).of_suffix (suffix_tail_of_append hne hword) (List.cons_ne_nil c a)
      rcases hrest with hnil | hcapital
      · simp [hrest'] at hnil
      · rw [hrest'] at hcapital
        rw [isCapitalised, List.cons_append, List.head?_cons] at hc hcapital
        rw [hcapital] at hc
        cases hc
  · -- The word ends inside the text, which does not go on with a capital.
    have hinside := h d before a (by rw [hb, List.append_assoc])
    unfold EndsKey at hinside ⊢
    cases a with
    | nil => simp at hinside
    | cons c a => simpa [htail, isCapitalised] using hinside

/-! ## Keys with their directions -/

/-- A property that can be a sort key: it begins with a capital, and no direction word behind its
first character would end it. What else it is written with does not matter. -/
structure KeyProperty where
  initial : Char
  letters : List Char
  isUppercase_initial : isUppercase initial = true
  undirected : Undirected letters

def KeyProperty.chars (p : KeyProperty) : List Char :=
  p.initial :: p.letters

/-- Sort keys as they are written. -/
def keysText (keys : List (KeyProperty × Direction)) : List Char :=
  keys.flatMap fun k => k.1.chars ++ (directionText k.2).toList

/-- Sort keys as they are meant. -/
def keyTerms (keys : List (KeyProperty × Direction)) : List OrderTerm :=
  keys.map fun k => ⟨String.ofList k.1.chars, k.2⟩

/-- Sort keys as they are read. A key that begins with a character beyond ASCII takes everything
behind it, and so is ascending. -/
def readKeys : List (KeyProperty × Direction) → List OrderTerm
  | [] => []
  | k :: keys =>
    if k.1.initial.toNat < 0x80 then ⟨String.ofList k.1.chars, k.2⟩ :: readKeys keys
    else [⟨String.ofList (keysText (k :: keys)), .ascending⟩]

theorem keysText_cons (k : KeyProperty × Direction) (keys : List (KeyProperty × Direction)) :
    keysText (k :: keys) =
      k.1.initial :: (k.1.letters ++ ((directionText k.2).toList ++ keysText keys)) := by
  simp [keysText, KeyProperty.chars]

theorem endsKey_keysText (keys : List (KeyProperty × Direction)) : EndsKey (keysText keys) := by
  cases keys with
  | nil => exact .inl rfl
  | cons k keys =>
    right
    simpa [keysText_cons, isCapitalised] using k.1.isUppercase_initial

/-- The keys that are read of what was written begin with capitals. -/
theorem keysFrom_keysText (keys : List (KeyProperty × Direction)) :
    (keysFrom [] 0 (keysText keys)).map (fun (property, d) => ⟨String.ofList property, d⟩) =
        readKeys keys ∧
      ∀ k ∈ keysFrom [] 0 (keysText keys), isCapitalised k.1 = true := by
  induction keys with
  | nil => exact ⟨rfl, by simp [keysText, keysFrom]⟩
  | cons k keys ih =>
    have hcapital := k.1.isUppercase_initial
    by_cases hascii : k.1.initial.toNat < 0x80
    · -- The key is passed over up to its direction, which is found.
      have hquiet := noDirection_of_undirected k.1.undirected
        (endsKey_direction k.2 (keysText keys))
      have hread : keysFrom [] 0 (keysText (k :: keys)) =
          (k.1.chars, k.2) :: keysFrom [] 0 (keysText keys) := by
        rw [keysText_cons, keysFrom, if_pos hascii, keysFrom_quiet hquiet,
          keysFrom_direction (by simp) k.2 (endsKey_keysText keys)]
        simp [KeyProperty.chars]
      rw [hread, readKeys, if_pos hascii, List.map_cons, ih.1, List.forall_mem_cons]
      exact ⟨rfl, by simpa [KeyProperty.chars, isCapitalised] using hcapital, ih.2⟩
    · -- Behind a character of two bytes there is no place to search from, so the key is never
      -- ended.
      have hread : keysFrom [] 0 (keysText (k :: keys)) =
          [(keysText (k :: keys), .ascending)] := by
        rw [keysText_cons, keysFrom, if_neg hascii]
      rw [hread, readKeys, if_neg hascii]
      exact ⟨rfl, by simpa [keysText_cons, isCapitalised] using hcapital⟩

/-- All keys are read as they were written just when all begin with ASCII characters. -/
theorem readKeys_eq_keyTerms_iff (keys : List (KeyProperty × Direction)) :
    readKeys keys = keyTerms keys ↔ ∀ k ∈ keys, k.1.initial.toNat < 0x80 := by
  induction keys with
  | nil => simp [readKeys, keyTerms]
  | cons k keys ih =>
    have hterms : keyTerms (k :: keys) = ⟨String.ofList k.1.chars, k.2⟩ :: keyTerms keys := rfl
    rw [readKeys, hterms, List.forall_mem_cons]
    by_cases hascii : k.1.initial.toNat < 0x80
    · rw [if_pos hascii, List.cons.injEq, ih]
      simp [hascii]
    · -- The property that is read has the direction in it, and so is longer.
      have hlonger : keysText (k :: keys) ≠ k.1.chars := by
        intro hsame
        have hlength := congrArg List.length hsame
        have hword : 0 < (directionText k.2).toList.length := by
          cases k.2 <;> decide
        simp only [keysText_cons, KeyProperty.chars, List.length_cons, List.length_append]
          at hlength
        omega
      have hproperty : String.ofList (keysText (k :: keys)) ≠ String.ofList k.1.chars := by
        rwa [ne_eq, String.ofList_inj]
      simp [hascii, hproperty]

/-- Sort keys with a direction each. They are read up to the first that begins with a character
beyond ASCII, and that one takes everything behind it. So they are read as they were written just
when each begins with an ASCII character. -/
theorem readOrder_keysText (keys : List (KeyProperty × Direction)) :
    readOrder (keysText keys) =
        (if keys.isEmpty then .error .emptyOrdering else .ok (readKeys keys)) ∧
      (readOrder (keysText keys) = .ok (keyTerms keys) ↔
        keys ≠ [] ∧ ∀ k ∈ keys, k.1.initial.toNat < 0x80) := by
  rcases keysFrom_keysText keys with ⟨hread, hcapital⟩
  have horder : readOrder (keysText keys) =
      if keys.isEmpty then .error .emptyOrdering else .ok (readKeys keys) := by
    have hempty : (keysFrom [] 0 (keysText keys)).isEmpty = keys.isEmpty := by
      rw [← List.isEmpty_map, hread]
      cases keys with
      | nil => rfl
      | cons k keys => rw [readKeys]; split <;> rfl
    have hall : (keysFrom [] 0 (keysText keys)).all (fun k => isCapitalised k.1) = true :=
      List.all_eq_true.2 hcapital
    simp only [readOrder, hempty, hall, hread, if_true]
  refine ⟨horder, ?_⟩
  rw [horder, ← readKeys_eq_keyTerms_iff]
  cases keys with
  | nil => simp
  | cons k keys => simp

/-- A property that begins with an umlaut takes its direction and the next key with it. -/
theorem readOrder_wideInitial :
    let first : KeyProperty := ⟨'Ä', "rger".toList, by decide +kernel,
      undirected_iff.2 (by decide +kernel)⟩
    let second : KeyProperty := ⟨'N', "ame".toList, by decide,
      undirected_iff.2 (by decide +kernel)⟩
    let keys := [(first, Direction.descending), (second, .ascending)]
    String.ofList (keysText keys) = "ÄrgerDescNameAsc" ∧
      (∀ k ∈ keys, k.1.letters.all isAlphanumeric = true) ∧
      keyTerms keys = [⟨"Ärger", .descending⟩, ⟨"Name", .ascending⟩] ∧
      readOrder (keysText keys) = .ok [⟨"ÄrgerDescNameAsc", .ascending⟩] ∧
      parse ("findByNameOrderBy" ++ String.ofList (keysText keys)) =
        .ok ⟨false, none, [[⟨"Name", .equals, .never⟩]], [⟨"ÄrgerDescNameAsc", .ascending⟩]⟩ := by
  refine ⟨by decide +kernel, by decide +kernel, by decide +kernel, by decide +kernel, ?_⟩
  decide +kernel

end DerivedQuery.MethodName
