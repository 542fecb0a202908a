import DerivedQuery.Proofs.PropertyPath
import DerivedQuery.Proofs.RegionName

/-!
# The grammar of names

The names that are read are parts with a separator between any two. Nothing is left out at the ends
or in the middle, since no part is empty.

* `IsPathSegment`, `IsRegionPart`: the parts of a property path and of a region name.
* `IsJoined`: parts and the text that they make. `isJoined_iff_pieces`: no other parts make it.
* `names_read`: the texts that are read as names, and what a name is read from again.
-/

namespace DerivedQuery

open Text

/-- A segment of a property path: a letter or `_`, then letters, digits, `_` and `$`. -/
def IsPathSegment (s : String) : Prop :=
  ∃ c cs, s.toList = c :: cs ∧ (c.isAlpha = true ∨ c = '_') ∧
    ∀ d ∈ cs, d.isAlphanum = true ∨ d = '_' ∨ d = '$'

/-- A segment of a region name: letters, digits, `_`, `.` and `-`, at least one of them. -/
def IsRegionPart (s : String) : Prop :=
  s ≠ "" ∧ ∀ c ∈ s.toList, c.isAlphanum = true ∨ c = '_' ∨ c = '.' ∨ c = '-'

/-- One or more parts with a separator between any two of them are the text. -/
structure IsJoined (sep : Char) (isPart : String → Prop) (parts : List String) (s : String) :
    Prop where
  parts_ne : parts ≠ []
  isPart_of_mem : ∀ part ∈ parts, isPart part
  text_eq : s.toList = [sep].intercalate (parts.map String.toList)

/-- Parts that have no separator in them are the pieces of the text that they make. -/
theorem isJoined_iff_pieces {sep : Char} {isPart : String → Prop}
    (hsep : ∀ part, isPart part → sep ∉ part.toList) {parts : List String} {s : String} :
    IsJoined sep isPart parts s ↔
      (∀ part ∈ parts, isPart part) ∧ pieces sep s.toList = parts.map String.toList := by
  constructor
  · rintro ⟨hne, hparts, htext⟩
    refine ⟨hparts, ?_⟩
    -- Pieces are put together in one way, as long as none of them has the separator in it.
    have hseps : ∀ piece ∈ parts.map String.toList, sep ∉ piece := by
      intro piece hpiece
      obtain ⟨part, hpart, rfl⟩ := List.mem_map.1 hpiece
      exact hsep part (hparts part hpart)
    rw [htext, pieces_intercalate (by simpa using hne) hseps]
  · rintro ⟨hparts, hpieces⟩
    refine ⟨?_, hparts, ?_⟩
    · rintro rfl
      exact pieces_ne_nil sep s.toList hpieces
    · rw [← hpieces, intercalate_pieces]

/-! ## Property paths -/

/-- A segment is an identifier. -/
theorem isPathSegment_iff {s : String} : IsPathSegment s ↔ isIdentifier s.toList = true := by
  have hstarts {c : Char} : startsIdentifier c = true ↔ c.isAlpha = true ∨ c = '_' := by
    simp [startsIdentifier]
  have hcontinues {c : Char} :
      continuesIdentifier c = true ↔ c.isAlphanum = true ∨ c = '_' ∨ c = '$' := by
    simp [continuesIdentifier, or_assoc]
  rw [isIdentifier_iff]
  simp only [← hcontinues, ← hstarts, IsPathSegment]
  cases s.toList with
  | nil => simp
  | cons c cs =>
    simp only [List.cons.injEq, List.head?_cons, Option.any_some, List.forall_mem_cons]
    constructor
    · rintro ⟨_, _, ⟨rfl, rfl⟩, hc, hcs⟩
      exact ⟨hc, continuesIdentifier_of_starts hc, hcs⟩
    · rintro ⟨hc, -, hcs⟩
      exact ⟨c, cs, ⟨rfl, rfl⟩, hc, hcs⟩

/-- A path is read from its segments with dots between them. -/
theorem PropertyPath.exists_parse_iff_isJoined {s : String} {segments : List String} :
    (∃ p, parse s = .ok p ∧ p.segments = segments) ↔ IsJoined '.' IsPathSegment segments s := by
  have hparse {p : PropertyPath} :
      parse s = .ok p ↔ pieces '.' s.toList = p.segments.map String.toList :=
    mapError_eq_ok_iff.trans read_eq_ok_iff_pieces
  have hdot : ∀ segment, IsPathSegment segment → '.' ∉ segment.toList := fun _ h =>
    dot_not_mem_of_isIdentifier (isPathSegment_iff.1 h)
  simp only [isJoined_iff_pieces hdot, isPathSegment_iff, hparse]
  constructor
  · rintro ⟨p, hpieces, rfl⟩
    exact ⟨exists_segments_eq_iff.1 ⟨p, rfl⟩, hpieces⟩
  · rintro ⟨hsegments, hpieces⟩
    cases segments with
    | nil => exact absurd hpieces (pieces_ne_nil '.' s.toList)
    | cons segment segments =>
      obtain ⟨p, hp⟩ := exists_segments_eq_iff.2 hsegments
      exact ⟨p, hp ▸ hpieces, hp⟩

/-! ## Region names -/

/-- A part is what the characters of regions make. -/
theorem isRegionPart_iff {s : String} : IsRegionPart s ↔ isRegionSegment s.toList = true := by
  have hchar {c : Char} : isRegionChar c = true ↔
      c.isAlphanum = true ∨ c = '_' ∨ c = '.' ∨ c = '-' := by
    simp only [isRegionChar, Bool.or_eq_true, beq_iff_eq, or_assoc]
    exact or_congr_right (or_congr_right or_comm)
  simp only [IsRegionPart, ← hchar, isRegionSegment, Bool.and_eq_true, List.all_eq_true]
  simp

/-- The texts of region names are segments with slashes between them. -/
theorem RegionName.exists_text_iff_isJoined {name : String} :
    (∃ region : RegionName, region.text = name) ↔ ∃ parts, IsJoined '/' IsRegionPart parts name := by
  have hslash : ∀ part, IsRegionPart part → '/' ∉ part.toList := by
    rintro part ⟨-, hpart⟩ hmem
    exact absurd (hpart '/' hmem) (by decide)
  simp only [isJoined_iff_pieces hslash, isRegionPart_iff]
  constructor
  · rintro ⟨region, rfl⟩
    refine ⟨(pieces '/' region.text.toList).map String.ofList, ?_, by simp [Function.comp_def]⟩
    intro part hpart
    obtain ⟨piece, hpiece, rfl⟩ := List.mem_map.1 hpart
    rw [String.toList_ofList]
    exact List.all_eq_true.1 region.valid piece hpiece
  · rintro ⟨parts, hparts, hpieces⟩
    have hvalid : (pieces '/' name.toList).all isRegionSegment = true := by
      rw [hpieces, List.all_map, List.all_eq_true]
      exact hparts
    exact ⟨⟨name, hvalid⟩, rfl⟩

/-! ## Names -/

/-- A text is read as a path just when it is the segments of the path with dots between them, and as
a region just when it is the segments of the region with slashes between them, with or without one
slash in front. A path and a region are read again from how they are written, with nothing lost. -/
theorem names_read (s : String) :
    (∀ segments, (∃ p, PropertyPath.parse s = .ok p ∧ p.segments = segments) ↔
      IsJoined '.' IsPathSegment segments s) ∧
    (∀ p, PropertyPath.parse s = .ok p ↔ p.text = s) ∧
    (∀ (p : PropertyPath) (object : String),
      p.qualified object = if object = "" then p.text else object ++ "." ++ p.text) ∧
    (∀ name, (∃ region, RegionName.parse s = .ok region ∧ region.text = name) ↔
      (∃ parts, IsJoined '/' IsRegionPart parts name) ∧ (s = name ∨ s = "/" ++ name)) ∧
    ∀ region : RegionName, RegionName.parse region.text = .ok region ∧
      RegionName.parse region.address = .ok region := by
  refine ⟨fun _ => PropertyPath.exists_parse_iff_isJoined,
    fun _ => PropertyPath.parse_eq_ok_iff.trans eq_comm, ?_, ?_, ?_⟩
  · intro p object
    simp only [PropertyPath.qualified, String.isEmpty_iff]
  · intro name
    rw [← RegionName.exists_text_iff_isJoined]
    simp only [RegionName.parse_eq_ok_iff, RegionName.read_eq_ok_iff]
    constructor
    · rintro ⟨region, hs, rfl⟩
      exact ⟨⟨region, rfl⟩, hs⟩
    · rintro ⟨⟨region, rfl⟩, hs⟩
      exact ⟨region, hs, rfl⟩
  · -- The text of a region and its address, which has one slash in front.
    intro region
    rw [RegionName.parse_eq_ok_iff, RegionName.parse_eq_ok_iff, RegionName.read_eq_ok_iff,
      RegionName.read_eq_ok_iff]
    exact ⟨.inl rfl, .inr rfl⟩

end DerivedQuery
