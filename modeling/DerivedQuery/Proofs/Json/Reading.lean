import DerivedQuery.Proofs.Json.Spelling
import DerivedQuery.Text.Slice

/-!
# Readers of JSON values

A reader takes the text of a value off the beginning of a text. White space is passed over in front
of a token, so a reader may leave the white space behind its value to the next one.

* `Stops`: what may follow a value. `Takes`: a reader takes a text off as a value.
* `Element`, `readChain`: values with commas between them, each with a reader of its own;
  `readChain_elements`. The loops of the readers are such chains (`readItems_eq_chain`).
* `takes_quote`, `takes_flag`, `takes_count`, `takes_null`, `takes_value`, `takes_list`: what is
  written of a value is taken off as that value.
-/

namespace DerivedQuery.Json

/-! ## White space and tokens -/

/-- Nothing but white space between tokens. -/
def IsGap (g : List Char) : Prop :=
  ∀ c ∈ g, isGap c = true

instance (g : List Char) : Decidable (IsGap g) :=
  List.decidableBAll _ g

/-- White space in front of a token is passed over. -/
theorem skipGap_append {g : List Char} (hg : IsGap g) (cs : List Char) :
    skipGap (g ++ cs) = skipGap cs :=
  List.dropWhile_append_of_pos hg

theorem skipGap_cons {c : Char} (hc : isGap c = false) (cs : List Char) :
    skipGap (c :: cs) = c :: cs :=
  List.dropWhile_cons_of_neg (by simp [hc])

/-- White space in front of a symbol does not count. -/
theorem symbol_congr {cs ds : List Char} (h : skipGap cs = skipGap ds) (c : Char) :
    symbol c cs = symbol c ds := by
  rw [symbol, symbol, h]

theorem word_congr {cs ds : List Char} (h : skipGap cs = skipGap ds) (w : String) :
    word w cs = word w ds := by
  rw [word, word, h]

/-- A symbol is read where it stands. -/
theorem symbol_cons {c : Char} (hc : isGap c = false) (rest : List Char) :
    symbol c (c :: rest) = some rest := by
  rw [symbol, skipGap_cons hc]
  exact if_pos rfl

/-- A symbol that was read stands behind white space. -/
theorem skipGap_of_symbol {c : Char} {cs rest : List Char} (h : symbol c cs = some rest) :
    skipGap cs = c :: rest := by
  unfold symbol at h
  split at h
  · next d ds heq =>
    split at h
    · next hdc =>
      cases h
      rw [heq, hdc]
    · cases h
  · cases h

/-- A text that begins with one symbol does not begin with another one. -/
theorem symbol_eq_none {c d : Char} {cs rest : List Char} (h : symbol c cs = some rest)
    (hne : c ≠ d) : symbol d cs = none := by
  rw [symbol, skipGap_of_symbol h]
  exact if_neg hne

/-- A word whose first letter is `d` is read where it stands. -/
theorem word_append {w : String} {d : Char} {ds : List Char} (hw : w.toList = d :: ds)
    (hd : isGap d = false) (rest : List Char) : word w (w.toList ++ rest) = some rest := by
  rw [word, hw, List.cons_append, skipGap_cons hd]
  exact Text.isPrefixOf?_eq_some_iff.2 rfl

/-- A text that begins with another letter does not begin with the word. -/
theorem word_eq_none {w : String} {c d : Char} {ds cs : List Char} (hw : w.toList = d :: ds)
    (hc : isGap c = false) (hne : d ≠ c) : word w (c :: cs) = none := by
  rw [word, hw, skipGap_cons hc, Text.isPrefixOf?_cons]
  exact if_neg (by simpa using hne)

/-! ## Taking values off -/

/-- What may follow a value: a comma, the end of a list or an object, white space, or nothing. -/
def Stops (rest : List Char) : Prop :=
  ∀ c ∈ rest.head?, c = ',' ∨ c = ']' ∨ c = '}' ∨ isGap c = true

/-- A value ends in front of a comma. -/
theorem stops_comma (rest : List Char) : Stops (',' :: rest) := by
  simp [Stops]

/-- The ends of lists and objects. -/
def IsClose (c : Char) : Prop :=
  c = ']' ∨ c = '}'

theorem IsClose.stops {close : Char} (h : IsClose close) (rest : List Char) :
    Stops (close :: rest) := by
  intro c hc
  cases hc
  exact .inr (h.imp id .inl)

theorem IsClose.ne_comma {close : Char} (h : IsClose close) : close ≠ ',' := by
  rintro rfl
  rcases h with h | h <;> cases h

theorem IsClose.isGap {close : Char} (h : IsClose close) : Json.isGap close = false := by
  rcases h with rfl | rfl <;> decide

/-- White space may be left over between a value and what follows it. -/
theorem Stops.append_gap {g rest : List Char} (hrest : Stops rest) (hg : IsGap g) :
    Stops (g ++ rest) := by
  cases g with
  | nil => exact hrest
  | cons c g =>
    intro d hd
    cases hd
    exact .inr (.inr (.inr (hg _ List.mem_cons_self)))

/-- The reader takes `t` off as `a`, whatever follows it. It may leave white space. -/
def Takes {α : Type} (read : Reader α) (t : List Char) (a : α) : Prop :=
  ∀ rest, Stops rest → ∃ left, read (t ++ rest) = some (a, left) ∧ skipGap left = skipGap rest

/-- A reader that leaves nothing over takes the text off. -/
theorem Takes.of_eq {α : Type} {read : Reader α} {t : List Char} {a : α}
    (h : ∀ rest, Stops rest → read (t ++ rest) = some (a, rest)) : Takes read t a :=
  fun rest hrest => ⟨rest, h rest hrest, rfl⟩

/-! ## Values in a row -/

/-- What is done behind an element: at `close` the elements end, and behind a comma there are more. -/
def goOn {α : Type} (close : Char) (a : α) (more : Reader (List α)) : Reader (List α) := fun cs =>
  match symbol close cs with
  | some rest => some ([a], rest)
  | none => do
    let (as, rest) ← more (← symbol ',' cs)
    return (a :: as, rest)

/-- Elements up to `close`, at least one and at most as many as there are readers for them. -/
def readChain {α : Type} (close : Char) : List (Reader α) → Reader (List α)
  | [], _ => none
  | read :: reads, cs => do
    let (a, cs) ← read cs
    goOn close a (readChain close reads) cs

/-- A text with the value that it is read as. -/
structure Element (α : Type) where
  read : Reader α
  text : List Char
  value : α
  takes : Takes read text value

/-- The texts of elements, with commas between them. -/
def Element.joined {α : Type} (es : List (Element α)) : List Char :=
  [','].intercalate (es.map (·.text))

/-- Texts that are read as values make elements. -/
theorem exists_elements {ι α : Type} (read : ι → Reader α) (text : ι → List Char) (value : ι → α)
    {xs : List ι} (h : ∀ x ∈ xs, Takes (read x) (text x) (value x)) :
    ∃ es : List (Element α), es.map (·.read) = xs.map read ∧ es.map (·.text) = xs.map text ∧
      es.map (·.value) = xs.map value := by
  induction xs with
  | nil => exact ⟨[], rfl, rfl, rfl⟩
  | cons x xs ih =>
    obtain ⟨es, hreads, htexts, hvalues⟩ := ih fun y hy => h y (List.mem_cons_of_mem x hy)
    refine ⟨⟨read x, text x, value x, h x List.mem_cons_self⟩ :: es, ?_, ?_, ?_⟩
    · rw [List.map_cons, hreads, List.map_cons]
    · rw [List.map_cons, htexts, List.map_cons]
    · rw [List.map_cons, hvalues, List.map_cons]

/-- At the closing character the elements end. -/
theorem goOn_close {α : Type} {close : Char} (hclose : IsClose close) {a : α}
    {more : Reader (List α)} {left rest : List Char} (h : skipGap left = skipGap (close :: rest)) :
    goOn close a more left = some ([a], rest) := by
  rw [goOn, symbol_congr h, symbol_cons hclose.isGap]

/-- Behind a comma there are more elements. -/
theorem goOn_comma {α : Type} {close : Char} (hclose : IsClose close) {a : α} {as : List α}
    {more : Reader (List α)} {left cs rest : List Char} (h : skipGap left = skipGap (',' :: cs))
    (hmore : more cs = some (as, rest)) : goOn close a more left = some (a :: as, rest) := by
  have hcomma : symbol ',' (',' :: cs) = some cs := symbol_cons (by decide) cs
  have hend := symbol_eq_none hcomma hclose.ne_comma.symm
  rw [goOn, symbol_congr h, hend, symbol_congr h, hcomma]
  show (more cs).bind (fun r => some (a :: r.1, r.2)) = _
  rw [hmore]
  rfl

/-- Elements that are joined are read one after the other. -/
theorem readChain_elements {α : Type} {close : Char} (hclose : IsClose close)
    {es : List (Element α)} (hne : es ≠ []) (spare : List (Reader α)) (rest : List Char) :
    readChain close (es.map (·.read) ++ spare) (Element.joined es ++ close :: rest) =
      some (es.map (·.value), rest) := by
  induction es with
  | nil => exact absurd rfl hne
  | cons e es ih =>
    rw [List.map_cons, List.cons_append, readChain]
    cases es with
    | nil =>
      -- The last element, behind which the closing character stands.
      obtain ⟨left, hread, hleft⟩ := e.takes (close :: rest) (hclose.stops rest)
      have htext : Element.joined [e] = e.text := by
        simp [Element.joined]
      rw [htext, hread]
      exact goOn_close hclose hleft
    | cons f es =>
      -- One reader is used up, and the others stand before the other texts.
      have hmore := ih (List.cons_ne_nil f es)
      have htext : Element.joined (e :: f :: es) ++ close :: rest =
          e.text ++ ',' :: (Element.joined (f :: es) ++ close :: rest) := by
        simp [Element.joined, List.intercalate_cons_cons]
      obtain ⟨left, hread, hleft⟩ := e.takes _
        (stops_comma (Element.joined (f :: es) ++ close :: rest))
      rw [htext, hread]
      exact goOn_comma hclose hleft hmore

/-- The first element is read with all that follows it. -/
theorem exists_read_joined {α : Type} {close : Char} (hclose : IsClose close) (e : Element α)
    (es : List (Element α)) (rest : List Char) :
    ∃ left, e.read (Element.joined (e :: es) ++ close :: rest) = some (e.value, left) := by
  cases es with
  | nil =>
    obtain ⟨left, hread, -⟩ := e.takes (close :: rest) (hclose.stops rest)
    exact ⟨left, by simpa [Element.joined] using hread⟩
  | cons f es =>
    obtain ⟨left, hread, -⟩ := e.takes _
      (stops_comma (Element.joined (f :: es) ++ close :: rest))
    exact ⟨left, by simpa [Element.joined, List.intercalate_cons_cons] using hread⟩

/-- There is one element more than characters at most, since commas stand between them. -/
theorem length_le_joined {α : Type} (es : List (Element α)) :
    es.length ≤ (Element.joined es).length + 1 := by
  induction es with
  | nil => exact Nat.zero_le _
  | cons e es ih =>
    cases es with
    | nil => simp
    | cons f es =>
      simp only [Element.joined, List.map_cons, List.intercalate_cons_cons, List.length_append,
        List.length_cons, List.length_nil] at ih ⊢
      omega

/-- The elements of a list are read by one reader, over and over. -/
theorem readItems_eq_chain {α : Type} (read : Reader α) (fuel : Nat) :
    readItems read fuel = readChain ']' (List.replicate fuel read) := by
  induction fuel with
  | zero => rfl
  | succ fuel ih =>
    funext cs
    rw [List.replicate_succ, readChain, ← ih]
    rfl

/-- Elements that have the same reader, with readers to spare. -/
theorem exists_spare {α : Type} {read : Reader α} {es : List (Element α)}
    (h : ∀ e ∈ es, e.read = read) {fuel : Nat} (hfuel : es.length ≤ fuel) :
    List.replicate fuel read = es.map (·.read) ++ List.replicate (fuel - es.length) read := by
  have hmap : es.map (·.read) = List.replicate es.length read :=
    List.map_eq_replicate_iff.2 h
  rw [hmap, List.replicate_append_replicate, Nat.add_sub_cancel' hfuel]

/-! ## Values that are written -/

/-- A string is taken off as the text that it spells. -/
theorem takes_spelled {t : List Char} {s : String} (h : Spells t s.toList) :
    Takes readString ('"' :: (t ++ ['"'])) s :=
  .of_eq fun rest _ => by simpa using readString_spelled h rest

/-- A quoted text is taken off as the text. -/
theorem takes_quote (s : String) : Takes readString (quote s).toList s := by
  rw [toList_quote]
  exact takes_spelled (spells_escape s.toList)

/-- A truth value is taken off. -/
theorem takes_flag (b : Bool) : Takes readFlag (compact (.bool b)).toList b := by
  refine .of_eq fun rest _ => ?_
  cases b with
  | true =>
    have htrue : word "true" ("true".toList ++ rest) = some rest :=
      word_append rfl (by decide) rest
    show readFlag ("true".toList ++ rest) = _
    rw [readFlag, htrue]
    rfl
  | false =>
    have htrue : word "true" ("false".toList ++ rest) = none :=
      word_eq_none rfl (by decide) (by decide)
    have hfalse : word "false" ("false".toList ++ rest) = some rest :=
      word_append rfl (by decide) rest
    show readFlag ("false".toList ++ rest) = _
    rw [readFlag, htrue, hfalse]
    rfl

/-- An absent value is taken off, whatever would be read otherwise. -/
theorem takes_null {α : Type} (read : Reader α) :
    Takes (readNullable read) (compact .null).toList none := by
  refine .of_eq fun rest _ => ?_
  have hnull : word "null" ("null".toList ++ rest) = some rest :=
    word_append rfl (by decide) rest
  show readNullable read ("null".toList ++ rest) = _
  rw [readNullable, hnull]

/-- A value that is not absent is read as it is by itself. -/
theorem takes_value {α : Type} {read : Reader α} {c : Char} {t : List Char} {a : α}
    (hread : Takes read (c :: t) a) (hgap : isGap c = false) (hnull : 'n' ≠ c) :
    Takes (readNullable read) (c :: t) (some a) := by
  intro rest hrest
  obtain ⟨left, htaken, hleft⟩ := hread rest hrest
  have hword : word "null" (c :: t ++ rest) = none :=
    word_eq_none rfl hgap hnull
  refine ⟨left, ?_, hleft⟩
  rw [readNullable, hword, htaken]
  rfl

/-! ### Numbers -/

/-- No digit follows a number. -/
theorem not_isDigit_of_stops {rest : List Char} (h : Stops rest) :
    rest.head?.any Char.isDigit = false := by
  cases rest with
  | nil => rfl
  | cons c rest =>
    rcases h c rfl with rfl | rfl | rfl | hgap
    · rfl
    · rfl
    · rfl
    · simp only [isGap, Bool.or_eq_true, beq_iff_eq] at hgap
      rcases hgap with ((rfl | rfl) | rfl) | rfl <;> rfl

/-- No zero stands in front of another digit. -/
structure IsInteger (ds : List Char) : Prop where
  ne_nil : ds ≠ []
  isDigit : ∀ d ∈ ds, d.isDigit = true
  unpadded : ∀ ds', ds = '0' :: ds' → ds' = []

/-- White space is no digit. -/
theorem isGap_of_isDigit {d : Char} (h : d.isDigit = true) : isGap d = false := by
  rw [Bool.eq_false_iff, ne_eq, isGap]
  simp only [Bool.or_eq_true, beq_iff_eq]
  rintro (((rfl | rfl) | rfl) | rfl) <;> cases h

/-- The digits of an integer are read up to what is no digit. -/
theorem readDigits_append {ds : List Char} (h : IsInteger ds) {rest : List Char}
    (hrest : rest.head?.any Char.isDigit = false) : readDigits (ds ++ rest) = some (ds, rest) := by
  obtain ⟨d, ds, rfl⟩ := List.exists_cons_of_ne_nil h.ne_nil
  have hd := h.isDigit d List.mem_cons_self
  rw [readDigits, List.cons_append, skipGap_cons (isGap_of_isDigit hd)]
  by_cases hzero : d = '0'
  · -- A zero stands alone, as no integer begins with one.
    subst hzero
    have hnil := h.unpadded ds rfl
    subst hnil
    simp [hrest]
  · have hds : ∀ c ∈ ds, c.isDigit = true := fun c hc => h.isDigit c (List.mem_cons_of_mem d hc)
    have hstop : rest.takeWhile Char.isDigit = [] ∧ rest.dropWhile Char.isDigit = rest := by
      cases rest with
      | nil => exact ⟨rfl, rfl⟩
      | cons c rest => simp_all
    split
    · next heq =>
      cases heq
      exact absurd rfl hzero
    · next heq =>
      cases heq
      rw [if_pos hd, List.takeWhile_append_of_pos hds, List.dropWhile_append_of_pos hds, hstop.1,
        hstop.2, List.append_nil]
    · next heq => cases heq

/-- The digits of a number are an integer. -/
theorem isInteger_toDigits (n : Nat) : IsInteger (Nat.toDigits 10 n) where
  ne_nil := Nat.toDigits_ne_nil
  isDigit := fun _ hd => Nat.isDigit_of_mem_toDigits (by decide) (by decide) hd
  unpadded := by
    -- The first digit is that of the number without its last digit, down to a single digit.
    induction n using Nat.strongRecOn with
    | ind n ih =>
      intro ds' hds
      rw [Nat.toDigits_eq_if (by decide)] at hds
      split at hds
      · exact (List.cons_eq_cons.1 hds).2.symm
      · next hlong =>
        have hne : Nat.toDigits 10 (n / 10) ≠ [] := Nat.toDigits_ne_nil
        obtain ⟨d, es, hfront⟩ := List.exists_cons_of_ne_nil hne
        rw [hfront, List.cons_append, List.cons_eq_cons] at hds
        obtain ⟨rfl, -⟩ := hds
        -- If that digit were a zero, the number without its last digit would be zero.
        have hes := ih (n / 10) (by omega) es hfront
        have hvalue := Nat.ofDigitChars_ten_toDigits (n := n / 10)
        rw [hfront, hes] at hvalue
        have hzero : 0 = n / 10 := hvalue
        omega

theorem digitsValue_eq (ds : List Char) : digitsValue ds = Nat.ofDigitChars 10 ds 0 :=
  Nat.ofDigitChars_eq_foldl.symm

/-- A count is taken off if it is in range. -/
theorem takes_count {n : Nat} (hn : n ≤ maxCount) :
    Takes readCount (compact (.int n)).toList n := by
  refine .of_eq fun rest hrest => ?_
  have hdigits : (compact (.int n)).toList = Nat.toDigits 10 n := Nat.toList_repr
  have hvalue : digitsValue (Nat.toDigits 10 n) = n := by
    rw [digitsValue_eq, Nat.ofDigitChars_ten_toDigits]
  have hread := readDigits_append (isInteger_toDigits n) (not_isDigit_of_stops hrest)
  rw [hdigits, readCount, hread]
  show (if digitsValue (Nat.toDigits 10 n) ≤ maxCount then
    some (digitsValue (Nat.toDigits 10 n), rest) else none) = _
  rw [hvalue, if_pos hn]

/-! ### Lists -/

/-- A list of elements with one reader, which does not read the end of a list. -/
theorem takes_list {α : Type} {read : Reader α}
    (hend : ∀ cs a rest, read cs = some (a, rest) → symbol ']' cs = none) {es : List (Element α)}
    (hes : ∀ e ∈ es, e.read = read) :
    Takes (readList read) ('[' :: (Element.joined es ++ [']'])) (es.map (·.value)) := by
  refine .of_eq fun rest _ => ?_
  have hopen : symbol '[' ('[' :: (Element.joined es ++ ']' :: rest)) =
      some (Element.joined es ++ ']' :: rest) :=
    symbol_cons (by decide) _
  have htext : '[' :: (Element.joined es ++ [']']) ++ rest =
      '[' :: (Element.joined es ++ ']' :: rest) := by
    simp
  rw [htext, readList, hopen, Option.bind_eq_bind, Option.bind_some]
  cases es with
  -- An empty list is closed at once.
  | nil =>
    have hclose : symbol ']' (Element.joined ([] : List (Element α)) ++ ']' :: rest) = some rest :=
      symbol_cons (by decide) rest
    rw [hclose]
    rfl
  | cons e es =>
    -- No element begins with `]`, so that the elements are read, with a reader for every character.
    obtain ⟨left, hread⟩ := exists_read_joined (.inl rfl) e es rest
    rw [hes e List.mem_cons_self] at hread
    have hfuel : (e :: es).length ≤ (Element.joined (e :: es) ++ ']' :: rest).length := by
      have hlength := length_le_joined (e :: es)
      rw [List.length_append, List.length_cons (a := ']')]
      omega
    rw [hend _ _ _ hread, readItems_eq_chain, exists_spare hes hfuel]
    exact readChain_elements (.inl rfl) (List.cons_ne_nil e es) _ rest

end DerivedQuery.Json
