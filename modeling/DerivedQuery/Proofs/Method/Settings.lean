import DerivedQuery.Method.OptionsDocument
import DerivedQuery.Proofs.Json.Reading
import Mathlib.Data.List.Nodup

/-!
# Options one by one

Options are the settings of the single options. A document is read as settings, which are put
together to options again.

* `Options.settings`, `Setting.value`: the settings of options, and the values that they are written
  as; `members_eq`.
* `Setting.takes`: the value of a setting is read as that setting.
* `foldl_set_of_perm`: settings in any order, without some that are the default, give the options.
-/

namespace DerivedQuery.Options

open Json

/-! ## Settings of options -/

/-- The settings of the options, in the fixed order. -/
def settings (o : Options) : List Setting :=
  [.query o.query, .hints o.hints, .importing o.importing, .limit o.limit, .distinct o.distinct,
    .trace o.trace]

/-- The value that a setting is written as. -/
def Setting.value : Setting → Json
  | query text => orNull .str text
  | hints names => .arr (names.map .str)
  | importing statement => orNull .str statement
  | limit bound => orNull (fun n : Nat => .int n) bound
  | distinct on => .bool on
  | trace on => .bool on

/-- The member that a setting is written as. -/
def Setting.member (s : Setting) : String × Json :=
  (s.name, s.value)

theorem members_eq (o : Options) : o.members = o.settings.map Setting.member :=
  rfl

/-! ## Putting settings together -/

/-- Settings of different options do not get in each other's way. -/
theorem set_comm {s s' : Setting} (h : s.name ≠ s'.name) (o : Options) :
    (o.set s).set s' = (o.set s').set s := by
  cases s <;> cases s' <;> simp_all [set, Setting.name]

theorem foldl_settings (o : Options) : o.settings.foldl set none = o :=
  rfl

theorem nodup_settings (o : Options) : (o.settings.map Setting.name).Nodup := by
  show ["query", "hints", "import", "limit", "distinct", "trace"].Nodup
  decide

/-- To set an option to its default does nothing. -/
theorem set_default {s : Setting} (h : s.member ∈ none.members) : none.set s = none := by
  -- The name picks the member of `none`. Any other value than its default contradicts `h`.
  simp only [Setting.member, members, none, List.mem_cons, List.not_mem_nil, Prod.mk.injEq,
    or_false] at h
  cases s with
  | query text =>
    cases text with
    | none => rfl
    | some text => simp [Setting.name, Setting.value, orNull] at h
  | hints names =>
    cases names with
    | nil => rfl
    | cons name names => simp [Setting.name, Setting.value] at h
  | importing statement =>
    cases statement with
    | none => rfl
    | some statement => simp [Setting.name, Setting.value, orNull] at h
  | limit bound =>
    cases bound with
    | none => rfl
    | some n => simp [Setting.name, Setting.value, orNull] at h
  | distinct on =>
    cases on with
    | false => rfl
    | true => simp [Setting.name, Setting.value] at h
  | trace on =>
    cases on with
    | false => rfl
    | true => simp [Setting.name, Setting.value] at h

theorem foldl_defaults {ss : List Setting} (h : ∀ s ∈ ss, s.member ∈ none.members) :
    ss.foldl set none = none := by
  induction ss with
  | nil => rfl
  | cons s ss ih =>
    rw [List.foldl_cons, set_default (h s List.mem_cons_self)]
    exact ih fun s' hs' => h s' (List.mem_cons_of_mem s hs')

section Kept

variable {o : Options} {keep : Setting → Bool} {found : List Setting}

/-- Settings that are kept have different names, in whatever order. -/
theorem nodup_of_perm (hfound : found.Perm (o.settings.filter keep)) :
    (found.map Setting.name).Nodup :=
  (hfound.map Setting.name).nodup_iff.2
    (o.nodup_settings.sublist (List.filter_sublist.map Setting.name))

/-- The settings in any order, without some of those that are the default, give the options. -/
theorem foldl_set_of_perm (hdefault : ∀ s ∈ o.settings, keep s = false → s.member ∈ none.members)
    (hfound : found.Perm (o.settings.filter keep)) : found.foldl set none = o := by
  -- The settings that were left out are put in front, where they change nothing. Then all settings
  -- are there, and their order does not matter.
  have hperm : (o.settings.filter (fun s => !keep s) ++ found).Perm o.settings :=
    (List.perm_append_comm.trans (hfound.append_right _)).trans (List.filter_append_perm keep _)
  have hcomm (s : Setting) (hs : s ∈ o.settings) (s' : Setting) (hs' : s' ∈ o.settings)
      (p : Options) : (p.set s).set s' = (p.set s').set s := by
    by_cases hname : s.name = s'.name
    · rw [List.inj_on_of_nodup_map o.nodup_settings hs hs' hname]
    · exact set_comm hname p
  have hdropped : (o.settings.filter fun s => !keep s).foldl set none = none := by
    refine foldl_defaults fun s hs => ?_
    obtain ⟨hmem, hkeep⟩ := List.mem_filter.1 hs
    exact hdefault s hmem (by simpa using hkeep)
  calc found.foldl set none
      = (o.settings.filter (fun s => !keep s) ++ found).foldl set none := by
        rw [List.foldl_append, hdropped]
    _ = o.settings.foldl set none := (hperm.symm.foldl_eq' hcomm none).symm
    _ = o := o.foldl_settings

end Kept

/-! ## Reading the value of a setting -/

/-- The reader for the value of the option that is set. -/
def Setting.reader (s : Setting) : Reader Setting :=
  (readers.lookup s.name).getD fun _ => .none

theorem lookup_reader (s : Setting) : readers.lookup s.name = some s.reader := by
  cases s <;> rfl

theorem readers_eq (o : Options) : readers.map (·.2) = o.settings.map Setting.reader :=
  rfl

/-- A limit is a number that a counter can hold. -/
def Setting.Fits (s : Setting) : Prop :=
  ∀ n, s = limit (some n) → n ≤ maxCount

/-- With a limit that fits, all settings do. -/
theorem fits_settings {o : Options} (h : ∀ n ∈ o.limit, n ≤ maxCount) :
    ∀ s ∈ o.settings, s.Fits := by
  rintro s hs n rfl
  refine h n ?_
  simpa [settings, eq_comm] using hs

/-- What is read as a value is read as the setting that it makes. -/
theorem takes_setting {α : Type} {make : α → Setting} {read : Reader α} {t : List Char} {a : α}
    (h : Takes read t a) : Takes (setting make read) t (make a) := by
  intro rest hrest
  obtain ⟨left, hread, hleft⟩ := h rest hrest
  refine ⟨left, ?_, hleft⟩
  rw [setting, hread]
  rfl

/-- A text or `null` is read as an optional text. -/
theorem takes_text (v : Option String) :
    Takes (readNullable readString) (orNull .str v).compact.toList v := by
  cases v with
  | none => exact takes_null readString
  | some s =>
    have hquote := takes_quote s
    rw [toList_quote] at hquote
    show Takes _ (quote s).toList _
    rw [toList_quote]
    exact takes_value hquote (by decide) (by decide)

/-- A number or `null` is read as an optional number. -/
theorem takes_bound {v : Option Nat} (h : ∀ n ∈ v, n ≤ maxCount) :
    Takes (readNullable readCount) (orNull (fun n : Nat => .int n) v).compact.toList v := by
  cases v with
  | none => exact takes_null readCount
  | some n =>
    have hcount := takes_count (h n rfl)
    have hint := isInteger_toDigits n
    have hdigits : (compact (.int n)).toList = Nat.toDigits 10 n := Nat.toList_repr
    obtain ⟨d, ds, hd⟩ := List.exists_cons_of_ne_nil hint.ne_nil
    have hdigit : d.isDigit = true := hint.isDigit d (hd ▸ List.mem_cons_self)
    show Takes _ (compact (.int n)).toList _
    rw [hdigits, hd] at hcount ⊢
    -- A number begins with a digit, so it is neither a gap nor the `n` of `null`.
    refine takes_value hcount (isGap_of_isDigit hdigit) ?_
    rintro rfl
    cases hdigit

theorem compactItems_eq (vs : List Json) : compactItems vs = vs.map compact := by
  induction vs with
  | nil => rfl
  | cons v vs ih => rw [compactItems, ih, List.map_cons]

theorem compact_arr (vs : List Json) : (compact (.arr vs)).toList =
    '[' :: ([','].intercalate (vs.map fun v => v.compact.toList) ++ [']']) := by
  simp [compact, compactItems_eq, String.toList_intercalate, Function.comp_def]

theorem symbol_of_readString {cs : List Char} {r : String × List Char}
    (h : readString cs = some r) : ∃ rest, symbol '"' cs = some rest := by
  obtain ⟨rest, hquote, -⟩ := Option.bind_eq_some_iff.1 h
  exact ⟨rest, hquote⟩

/-- A list of texts is read as these texts. -/
theorem takes_names (names : List String) :
    Takes (readList readString) (compact (.arr (names.map .str))).toList names := by
  have hend (cs : List Char) (s : String) (rest : List Char)
      (h : readString cs = some (s, rest)) : symbol ']' cs = .none := by
    obtain ⟨tail, hquote⟩ := symbol_of_readString h
    exact symbol_eq_none hquote (by decide)
  let es : List (Element String) :=
    names.map fun s => ⟨readString, (quote s).toList, s, takes_quote s⟩
  have hread : ∀ e ∈ es, e.read = readString := by
    simp [es]
  have hlist := takes_list hend hread
  have htext : (compact (.arr (names.map .str))).toList =
      '[' :: ([','].intercalate (names.map fun s => (quote s).toList) ++ [']']) := by
    rw [compact_arr, List.map_map]
    rfl
  simpa [es, Element.joined, Function.comp_def, htext] using hlist

/-- The value of a setting is read as that setting. -/
theorem Setting.takes {s : Setting} (h : s.Fits) : Takes s.reader s.value.compact.toList s := by
  cases s with
  | query text => exact takes_setting (takes_text text)
  | hints names => exact takes_setting (takes_names names)
  | importing statement => exact takes_setting (takes_text statement)
  | limit bound =>
    refine takes_setting (takes_bound fun n hn => h n ?_)
    rw [Option.mem_def.1 hn]
  | distinct on => exact takes_setting (takes_flag on)
  | trace on => exact takes_setting (takes_flag on)

end DerivedQuery.Options
