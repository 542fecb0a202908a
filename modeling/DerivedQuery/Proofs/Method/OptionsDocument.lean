import DerivedQuery.Proofs.Json.Skipping
import DerivedQuery.Proofs.Method.Settings
import Mathlib.Data.List.Perm.Basic

/-!
# Documents of options

Options are written as an object with their members in a fixed order. What is read does not depend
on that order, on members that are no options, or on the members whose values are the default; and
the list of the values is read too.

* `memberText`, `objectText`: the texts of members and of objects; `toDocument_eq`.
* `IsOther`: the text of a member that is no option.
* `takes_member`, `takes_other`: members are read as settings, or as none.
* `readObject_elements`, `readArray_settings`: objects and lists.
* `ofDocument_layout`: the layouts in which the options are read back.
-/

namespace DerivedQuery.Options

open Json

/-! ## Texts of documents -/

/-- The text of a member, without spaces. -/
def memberText (m : String × Json) : String :=
  quote m.1 ++ ":" ++ m.2.compact

/-- The text of an object, from the texts of its members. -/
def objectText (ts : List String) : String :=
  "\x7b" ++ ",".intercalate ts ++ "\x7d"

/-- The text of a member that is no option. White space may stand around its name, which may be
spelled in any way, and around its value. -/
inductive IsOther : List Char → Prop
  | member {g body g' value : List Char} {name : String} (hg : IsGap g)
      (hbody : Spells body name.toList) (hname : ∀ s : Setting, s.name ≠ name) (hg' : IsGap g')
      (hvalue : IsValue value) : IsOther (g ++ '"' :: (body ++ '"' :: (g' ++ ':' :: value)))

theorem compactMembers_eq (ms : List (String × Json)) : compactMembers ms = ms.map memberText := by
  induction ms with
  | nil => rfl
  | cons m ms ih => rw [compactMembers, ih, List.map_cons, memberText]

theorem toDocument_eq (o : Options) : o.toDocument = objectText (o.members.map memberText) := by
  rw [toDocument, compact, compactMembers_eq, objectText]

theorem toList_objectText (ts : List String) :
    (objectText ts).toList = '\x7b' :: ([','].intercalate (ts.map String.toList) ++ ['\x7d']) := by
  simp [objectText, String.toList_intercalate]

theorem toList_memberText (m : String × Json) : (memberText m).toList =
    '"' :: (m.1.toList.flatMap escapeChar ++ '"' :: ':' :: m.2.compact.toList) := by
  simp [memberText, toList_quote]

/-! ## Members -/

/-- The name is read in front of the value, which the reader of the option gets. -/
theorem readMember_named {g body g' : List Char} {name : String} (hg : IsGap g)
    (hbody : Spells body name.toList) (hg' : IsGap g') (cs : List Char) :
    readMember (g ++ '"' :: (body ++ '"' :: (g' ++ ':' :: cs))) =
      match readers.lookup name with
      | some read => (read cs).map fun (s, rest) => (some s, rest)
      | .none => (skipValue cs).map (.none, ·) := by
  -- The gap in front of the name is passed over, and so is the one behind it.
  have hname : readString (g ++ '"' :: (body ++ '"' :: (g' ++ ':' :: cs))) =
      some (name, g' ++ ':' :: cs) := by
    rw [readString, symbol_congr (skipGap_append hg _)]
    exact readString_spelled hbody _
  have hcolon : symbol ':' (g' ++ ':' :: cs) = some cs := by
    rw [symbol_congr (skipGap_append hg' _), symbol_cons (by decide)]
  rw [readMember, hname]
  show (symbol ':' (g' ++ ':' :: cs)).bind _ = _
  rw [hcolon]
  rfl

/-- The member of a setting is read as that setting. -/
theorem takes_member {s : Setting} (h : s.Fits) :
    Takes readMember (memberText s.member).toList (some s) := by
  intro rest hrest
  obtain ⟨left, hread, hleft⟩ := Setting.takes h rest hrest
  refine ⟨left, ?_, hleft⟩
  have hgap : IsGap [] := by decide
  have hnamed := readMember_named hgap (spells_escape s.name.toList) hgap
    (s.value.compact.toList ++ rest)
  simp only [lookup_reader, hread] at hnamed
  simpa [toList_memberText, Setting.member] using hnamed

/-- A name that no option has leads to no reader. -/
theorem lookup_other {name : String} (h : ∀ s : Setting, s.name ≠ name) :
    readers.lookup name = .none := by
  have hnames : readers.map (·.1) = none.settings.map Setting.name := rfl
  refine List.lookup_eq_none_iff.2 fun p hp => ?_
  have hname := List.mem_map_of_mem (f := (·.1)) hp
  rw [hnames] at hname
  obtain ⟨s, -, hs⟩ := List.mem_map.1 hname
  rw [bne_iff_ne, ← hs]
  exact (h s).symm

/-- A member that is no option is read as no setting. -/
theorem takes_other {t : List Char} (h : IsOther t) : Takes readMember t .none := by
  cases h with
  | @member g body g' value name hg hbody hname hg' hvalue =>
    intro rest hrest
    obtain ⟨left, hskip, hleft⟩ := skips_value hvalue rest hrest
    refine ⟨left, ?_, hleft⟩
    have hnamed := readMember_named hg hbody hg' (value ++ rest)
    simp only [lookup_other hname, hskip] at hnamed
    simpa using hnamed

theorem symbol_of_readMember {cs : List Char} {r : Option Setting × List Char}
    (h : readMember cs = some r) : ∃ rest, symbol '"' cs = some rest := by
  obtain ⟨⟨name, rest⟩, hname, -⟩ := Option.bind_eq_some_iff.1 h
  exact symbol_of_readString hname

/-! ## Objects and lists -/

theorem readMembers_eq_chain (fuel : Nat) :
    readMembers fuel = readChain '\x7d' (List.replicate fuel readMember) := by
  induction fuel with
  | zero => rfl
  | succ fuel ih =>
    funext cs
    rw [List.replicate_succ, readChain, ← ih]
    rfl

theorem readValues_eq_chain (reads : List (Reader Setting)) :
    readValues reads = readChain ']' reads := by
  induction reads with
  | nil => rfl
  | cons read reads ih =>
    funext cs
    rw [readChain, ← ih]
    rfl

/-- The settings of an object are those of its members. -/
theorem readObject_elements {es : List (Element (Option Setting))}
    (hes : ∀ e ∈ es, e.read = readMember) :
    readObject ('\x7b' :: (Element.joined es ++ ['\x7d'])) =
      some ((es.map (·.value)).filterMap id, []) := by
  have hopen : symbol '\x7b' ('\x7b' :: (Element.joined es ++ ['\x7d'])) =
      some (Element.joined es ++ ['\x7d']) :=
    symbol_cons (by decide) _
  rw [readObject, hopen, Option.bind_eq_bind, Option.bind_some]
  cases es with
  | nil => rfl
  -- Whether the object is empty is asked first: a member begins with a quote.
  | cons e es =>
    obtain ⟨left, hread⟩ := exists_read_joined (.inr rfl) e es []
    rw [hes e List.mem_cons_self] at hread
    obtain ⟨tail, hquote⟩ := symbol_of_readMember hread
    have hfuel : (e :: es).length ≤ (Element.joined (e :: es) ++ ['\x7d']).length := by
      rw [List.length_append]
      exact length_le_joined (e :: es)
    rw [symbol_eq_none hquote (by decide), readMembers_eq_chain, exists_spare hes hfuel,
      readChain_elements (.inr rfl) (List.cons_ne_nil e es)]
    rfl

/-- A list does not end where an optional text begins. -/
theorem symbol_text (v : Option String) (cs : List Char) :
    symbol ']' ((orNull .str v).compact.toList ++ cs) = .none := by
  cases v with
  | none => rfl
  | some s =>
    show symbol ']' ((quote s).toList ++ cs) = .none
    rw [toList_quote]
    exact symbol_eq_none (symbol_cons (by decide) _) (by decide)

/-- The list of the values of options is read as their settings. -/
theorem readArray_settings {o : Options} (h : ∀ s ∈ o.settings, s.Fits) :
    readArray (compact (.arr (o.members.map (·.2)))).toList = some (o.settings, []) := by
  obtain ⟨es, hreads, htexts, hvalues⟩ := exists_elements Setting.reader
    (fun s => s.value.compact.toList) id fun s hs => Setting.takes (h s hs)
  have htext : (compact (.arr (o.members.map (·.2)))).toList =
      '[' :: (Element.joined es ++ [']']) := by
    rw [compact_arr, Element.joined, htexts]
    rfl
  have hopen : symbol '[' ('[' :: (Element.joined es ++ [']'])) =
      some (Element.joined es ++ [']']) :=
    symbol_cons (by decide) _
  -- There is a setting for each option, and so a first element of the chain.
  have hne : es ≠ [] := by
    rintro rfl
    cases hvalues
  have hchain := readChain_elements (.inl rfl) hne [] []
  rw [hreads, hvalues, List.map_id, List.append_nil, ← readers_eq, ← readValues_eq_chain] at hchain
  -- The first value is the text of the query, or `null`.
  have hfirst : symbol ']' (Element.joined es ++ [']']) = .none := by
    rw [Element.joined, htexts, settings, List.map_cons, List.map_cons, List.intercalate_cons_cons,
      List.append_assoc, List.append_assoc]
    exact symbol_text o.query _
  rw [htext, readArray, hopen, Option.bind_eq_bind, Option.bind_some, hfirst]
  exact hchain

/-! ## Layouts -/

/-- A document that is read to its end as settings of different options. -/
theorem ofDocument_of_settings {document : String} {ss : List Setting} {o : Options}
    (hread : (readObject document.toList).or (readArray document.toList) = some (ss, []))
    (hnodup : (ss.map Setting.name).Nodup) (hset : ss.foldl set none = o) :
    ofDocument document = .ok o := by
  have hgap : skipGap [] = [] := rfl
  rw [ofDocument, ofDocument?]
  simp [hread, hnodup, hset, hgap]

/-- Elements can be moved along with their images. -/
theorem exists_map_perm {α β : Type} {f : α → β} {ts : List β} {xs : List α}
    (h : ts.Perm (xs.map f)) : ∃ ys : List α, ys.Perm xs ∧ ys.map f = ts := by
  have hmap : List.Forall₂ (fun t x => t = f x) (xs.map f) xs :=
    List.forall₂_map_left_iff.2 (List.forall₂_same.2 fun _ _ => rfl)
  obtain ⟨ys, hys, hperm⟩ := List.perm_comp_forall₂ h hmap
  refine ⟨ys, hperm, ?_⟩
  rw [← List.forall₂_map_right_iff, List.forall₂_eq_eq_eq] at hys
  exact hys.symm

/-- Members in any order, some of which are no options, are read as settings in some order. -/
theorem readObject_members {ss : List Setting} (hss : ∀ s ∈ ss, s.Fits) {others ts : List String}
    (hothers : ∀ t ∈ others, IsOther t.toList)
    (hts : ts.Perm (ss.map (fun s => memberText s.member) ++ others)) :
    ∃ found : List Setting, found.Perm ss ∧
      readObject (objectText ts).toList = some (found, []) := by
  -- The members with what they are read as, in the order before they were moved.
  let xs := ss.map (fun s => (memberText s.member, some s)) ++ others.map fun t => (t, .none)
  have hxs : xs.map (·.1) = ss.map (fun s => memberText s.member) ++ others := by
    simp [xs, Function.comp_def]
  have htakes : ∀ x ∈ xs, Takes readMember x.1.toList x.2 := by
    intro x hx
    rcases List.mem_append.1 hx with hx | hx
    · obtain ⟨s, hs, rfl⟩ := List.mem_map.1 hx
      exact takes_member (hss s hs)
    · obtain ⟨t, ht, rfl⟩ := List.mem_map.1 hx
      exact takes_other (hothers t ht)
  rw [← hxs] at hts
  obtain ⟨ys, hperm, rfl⟩ := exists_map_perm hts
  obtain ⟨es, hreads, htexts, hvalues⟩ := exists_elements (fun _ => readMember)
    (fun y : String × Option Setting => y.1.toList) (·.2) fun y hy => htakes y (hperm.subset hy)
  have hread : ∀ e ∈ es, e.read = readMember := by
    intro e he
    have hmem := List.mem_map_of_mem (f := (·.read)) he
    rw [hreads] at hmem
    obtain ⟨_, -, hsame⟩ := List.mem_map.1 hmem
    exact hsame.symm
  refine ⟨(ys.map (·.2)).filterMap id, ?_, ?_⟩
  · have hsettings : (xs.map (·.2)).filterMap id = ss := by
      simp [xs, List.filterMap_append]
    rw [← hsettings]
    exact (hperm.map _).filterMap id
  · rw [toList_objectText, List.map_map, ← hvalues, ← readObject_elements hread, Element.joined,
      htexts]
    rfl

/-- Options that are written are read back: from the object, from the list of the values, and from
every object in which members stand in another order, members whose values are the default are left
out, or there are members that are no options. -/
theorem ofDocument_layout (o : Options) (hlimit : ∀ n ∈ o.limit, n ≤ maxCount) :
    ofDocument o.toDocument = .ok o ∧
      ofDocument (Json.arr (o.members.map (·.2))).compact = .ok o ∧
      ∀ (keep : String × Json → Bool) (others ts : List String),
        (∀ m ∈ o.members, keep m = false → m ∈ none.members) →
        (∀ t ∈ others, IsOther t.toList) →
        ts.Perm ((o.members.filter keep).map memberText ++ others) →
        ofDocument (objectText ts) = .ok o := by
  have hfits := fits_settings hlimit
  have hlayout (keep : String × Json → Bool) (others ts : List String)
      (hdefault : ∀ m ∈ o.members, keep m = false → m ∈ none.members)
      (hothers : ∀ t ∈ others, IsOther t.toList)
      (hts : ts.Perm ((o.members.filter keep).map memberText ++ others)) :
      ofDocument (objectText ts) = .ok o := by
    rw [members_eq, List.filter_map, List.map_map] at hts
    obtain ⟨found, hfound, hread⟩ := readObject_members
      (fun s hs => hfits s (List.mem_filter.1 hs).1) hothers hts
    refine ofDocument_of_settings ?_ (nodup_of_perm hfound) ?_
    · rw [hread]
      rfl
    · exact foldl_set_of_perm
        (fun s hs hkeep => hdefault _ (List.mem_map_of_mem (f := Setting.member) hs) hkeep) hfound
  refine ⟨?_, ?_, hlayout⟩
  · -- The document itself: all members are kept, and there are no others.
    rw [toDocument_eq]
    refine hlayout (fun _ => true) [] _ (fun _ _ hkeep => by cases hkeep)
      (fun _ ht => absurd ht List.not_mem_nil) ?_
    rw [List.append_nil, List.filter_true]
  · -- The list of the values, which is no object.
    refine ofDocument_of_settings ?_ o.nodup_settings o.foldl_settings
    have hobject : readObject (compact (.arr (o.members.map (·.2)))).toList = .none := by
      rw [compact_arr]
      rfl
    rw [readArray_settings hfits, hobject]
    rfl

/-- A document without the members that are the default, with another order and with one member that
is no option. -/
theorem ofDocument_layout_spelled :
    ofDocument (objectText ["\"limit\":18446744073709551615", " \"x\\u0041\" : [-1]",
        "\"hints\":[\"say \\\"a\\\"\",\"\\u0001\"]", "\"distinct\":true"]) =
      .ok ⟨.none, ["say \"a\"", "\x01"], .none, some 18446744073709551615, true, false⟩ := by
  have hother : IsOther " \"x\\u0041\" : [-1]".toList := by
    have hbody : Spells ['x', '\\', 'u', '0', '0', '4', '1'] "xA".toList := by
      have hname : "xA".toList = ['x', Char.ofNat 0x41] := by decide
      rw [hname]
      exact .plain (by decide) (by decide) (by decide) (.unicode rfl rfl rfl .nil)
    have hint : IsInteger ['1'] := isInteger_toDigits 1
    have hone : IsNumber ['-', '1'] := .parts (.inr rfl) hint .absent .absent
    have hitems : ∀ t ∈ [['-', '1']], IsValue t := by
      simpa using .number hone
    have hlist : IsValue ['[', '-', '1', ']'] := .list (by decide) hitems
    have hname : ∀ s : Setting, s.name ≠ "xA" := by
      rintro (_ | _ | _ | _ | _ | _) <;> simp [Setting.name]
    have hspace : IsGap [' '] := by decide
    have hnothing : IsGap [] := by decide
    exact .member hspace hbody hname hspace (.padded hspace hlist hnothing)
  refine (ofDocument_layout _ ?_).2.2 (fun m => ["limit", "hints", "distinct"].contains m.1)
    [" \"x\\u0041\" : [-1]"] _ ?_ ?_ ?_
  · decide
  · simp [members, none, orNull]
  · simpa using hother
  · decide +kernel

end DerivedQuery.Options
