import DerivedQuery.Proofs.Except
import DerivedQuery.Proofs.Text.Joined
import DerivedQuery.PropertyPath

/-!
# Identifiers

An identifier has no dot in it, so it is read as a path of one segment, and the segments of a path
are found again in its text.

* `isIdentifier_of_letters`, `continuesIdentifier_of_mem`: the characters of identifiers.
* `PropertyPath.read_of_isIdentifier`: the path that is an identifier.
* `PropertyPath.read_eq_ok_iff`: the texts that are read are those of paths.
-/

namespace DerivedQuery

theorem startsIdentifier_of_isIdentifier {c : Char} {cs : List Char}
    (h : isIdentifier (c :: cs) = true) : startsIdentifier c = true := by
  cases hc : startsIdentifier c with
  | true => rfl
  | false => simp [isIdentifier, strayCharacter?, hc] at h

theorem continuesIdentifier_of_starts {c : Char} (h : startsIdentifier c = true) :
    continuesIdentifier c = true := by
  simp only [startsIdentifier, Bool.or_eq_true] at h
  simp only [continuesIdentifier, Char.isAlphanum, Bool.or_eq_true]
  rcases h with h | h
  · exact .inl (.inl (.inl h))
  · exact .inl (.inr h)

theorem continuesIdentifier_of_mem {cs : List Char} (h : isIdentifier cs = true) :
    ∀ c ∈ cs, continuesIdentifier c = true := by
  cases cs with
  | nil => simp
  | cons c cs =>
    have hc := startsIdentifier_of_isIdentifier h
    have hcs : ∀ d ∈ cs, continuesIdentifier d = true := by
      simpa [isIdentifier, strayCharacter?, hc] using h
    intro d hd
    rcases List.mem_cons.1 hd with rfl | hd
    · exact continuesIdentifier_of_starts hc
    · exact hcs d hd

theorem isIdentifier_iff {cs : List Char} :
    isIdentifier cs = true ↔
      cs.head?.any startsIdentifier = true ∧ ∀ c ∈ cs, continuesIdentifier c = true := by
  cases cs with
  | nil => simp [isIdentifier]
  | cons c cs =>
    constructor
    · intro h
      exact ⟨startsIdentifier_of_isIdentifier h, continuesIdentifier_of_mem h⟩
    · rintro ⟨hc, hcs⟩
      rw [List.forall_mem_cons] at hcs
      have hstarts : startsIdentifier c = true := hc
      simpa [isIdentifier, strayCharacter?, hstarts] using hcs.2

theorem isIdentifier_of_letters {c : Char} {cs : List Char} (hc : c.isAlpha = true)
    (hcs : ∀ d ∈ cs, d = '_' ∨ d.isAlphanum = true) : isIdentifier (c :: cs) = true := by
  have hstarts : startsIdentifier c = true := by
    rw [startsIdentifier, hc, Bool.true_or]
  have hfind : cs.find? (fun d => !continuesIdentifier d) = none := by
    rw [List.find?_eq_none]
    intro d hd
    rcases hcs d hd with rfl | halnum
    · decide
    · simp [continuesIdentifier, halnum]
  simp [isIdentifier, strayCharacter?, hstarts, hfind]

theorem ne_nil_of_isIdentifier {cs : List Char} (h : isIdentifier cs = true) : cs ≠ [] := by
  rintro rfl
  exact absurd h (by decide)

theorem isEmpty_of_isIdentifier {s : String} (h : isIdentifier s.toList = true) :
    s.isEmpty = false := by
  rw [Bool.eq_false_iff]
  intro he
  rw [String.isEmpty_iff] at he
  subst he
  exact absurd h (by decide)

theorem dot_not_mem_of_isIdentifier {cs : List Char} (h : isIdentifier cs = true) :
    '.' ∉ cs := by
  intro hmem
  exact absurd (continuesIdentifier_of_mem h '.' hmem) (by decide)

namespace PropertyPath

theorem readSegment_of_isIdentifier {path s : String} (h : isIdentifier s.toList = true) :
    readSegment path s.toList = .ok ⟨s, h⟩ := by
  have hparts := h
  simp only [isIdentifier, Bool.and_eq_true, Bool.not_eq_true', Option.isNone_iff_eq_none]
    at hparts
  unfold readSegment
  split
  · rename_i c hstray
    rw [hparts.2] at hstray
    cases hstray
  · rw [dif_neg (by simp [hparts.1])]
    simp

theorem readSegment_eq_ok_iff {path : String} {piece : List Char} {segment : Identifier} :
    readSegment path piece = .ok segment ↔ piece = segment.val.toList := by
  constructor
  · intro h
    unfold readSegment at h
    split at h
    · cases h
    · split at h
      · cases h
      · cases h
        rw [String.toList_ofList]
  · rintro rfl
    exact readSegment_of_isIdentifier segment.property

theorem readInner_eq_ok_iff {path : String} {ps : List (List Char)}
    {segments : List Identifier} :
    readInner path ps = .ok segments ↔ ps = segments.map (·.val.toList) := by
  induction ps generalizing segments with
  | nil => cases segments <;> simp [readInner]
  | cons p ps ih =>
    by_cases hend : p :: ps = [[]]
    · -- The path ends in a dot: no segment is empty.
      obtain ⟨rfl, rfl⟩ := List.cons_eq_cons.1 hend
      cases segments with
      | nil => simp [readInner]
      | cons segment segments =>
        have hne := ne_nil_of_isIdentifier segment.property
        simp [readInner, Ne.symm hne]
    · rw [readInner, bind_eq_ok_iff]
      · simp only [bind_eq_ok_iff, pure_eq_ok_iff, readSegment_eq_ok_iff, ih]
        constructor
        · rintro ⟨segment, rfl, rest, rfl, rfl⟩
          rfl
        · cases segments with
          | nil => simp
          | cons segment segments =>
            intro h
            obtain ⟨rfl, rfl⟩ := List.cons_eq_cons.1 h
            exact ⟨segment, rfl, segments, rfl, rfl⟩
      · exact fun hp hps => hend (by rw [hp, hps])

/-- A path is read where the pieces between dots are its segments. -/
theorem read_eq_ok_iff_pieces {s : String} {p : PropertyPath} :
    read s = .ok p ↔ Text.pieces '.' s.toList = p.segments.map String.toList := by
  have hroot := ne_nil_of_isIdentifier p.root.property
  by_cases hempty : s.isEmpty = true
  · rw [String.isEmpty_iff] at hempty
    subst hempty
    have hpieces : Text.pieces '.' "".toList = [[]] := rfl
    rw [hpieces]
    simp [read, segments, Ne.symm hroot]
  · rw [read, if_neg hempty]
    rcases hpieces : Text.pieces '.' s.toList with _ | ⟨first, rest⟩
    · exact absurd hpieces (Text.pieces_ne_nil '.' s.toList)
    · simp only [bind_eq_ok_iff, pure_eq_ok_iff, readSegment_eq_ok_iff, readInner_eq_ok_iff]
      constructor
      · rintro ⟨root, rfl, inner, rfl, rfl⟩
        simp [segments]
      · intro h
        simp only [segments, List.map_cons, List.map_map, List.cons.injEq] at h
        exact ⟨p.root, h.1, p.inner, h.2, rfl⟩

/-- Identifiers are the segments of a path, and the segments of a path are identifiers. -/
theorem exists_segments_eq_iff {segment : String} {segments : List String} :
    (∃ p : PropertyPath, p.segments = segment :: segments) ↔
      ∀ s ∈ segment :: segments, isIdentifier s.toList = true := by
  constructor
  · rintro ⟨p, hp⟩ s hs
    rw [← hp] at hs
    rcases List.mem_cons.1 hs with rfl | hinner
    · exact p.root.property
    · obtain ⟨identifier, -, rfl⟩ := List.mem_map.1 hinner
      exact identifier.property
  · intro h
    rw [List.forall_mem_cons] at h
    let inner : List Identifier := segments.attach.map fun (s : { s // s ∈ segments }) =>
      ⟨s.val, h.2 s.val s.property⟩
    exact ⟨⟨⟨segment, h.1⟩, inner⟩, by simp [PropertyPath.segments, inner]⟩

theorem pieces_dotted {segments : List String} (hsegments : segments ≠ [])
    (hdot : ∀ segment ∈ segments, '.' ∉ segment.toList) :
    Text.pieces '.' (".".intercalate segments).toList = segments.map String.toList := by
  rw [String.toList_intercalate]
  refine Text.pieces_intercalate (by simpa using hsegments) ?_
  intro piece hpiece
  obtain ⟨segment, hsegment, rfl⟩ := List.mem_map.1 hpiece
  exact hdot segment hsegment

/-- Texts without dots, with dots between them, are read as the path that has them as segments. -/
theorem read_dotted_eq_ok_iff {p : PropertyPath} {segments : List String}
    (hsegments : segments ≠ [])
    (hdot : ∀ segment ∈ segments, '.' ∉ segment.toList) :
    read (".".intercalate segments) = .ok p ↔ p.segments = segments := by
  rw [read_eq_ok_iff_pieces, pieces_dotted hsegments hdot, eq_comm]
  exact List.map_inj_right fun _ _ => String.toList_injective

/-- A path is read from its text, and from no other. -/
theorem read_eq_ok_iff {s : String} {p : PropertyPath} : read s = .ok p ↔ s = p.text := by
  constructor
  · intro h
    rw [read_eq_ok_iff_pieces] at h
    rw [← String.toList_inj, text, String.toList_intercalate, ← h]
    exact (Text.intercalate_pieces '.' s.toList).symm
  · rintro rfl
    have hidentifiers := exists_segments_eq_iff.1 ⟨p, rfl⟩
    exact (read_dotted_eq_ok_iff (List.cons_ne_nil _ _) fun segment hsegment =>
      dot_not_mem_of_isIdentifier (hidentifiers segment hsegment)).2 rfl

theorem parse_eq_ok_iff {s : String} {p : PropertyPath} : parse s = .ok p ↔ s = p.text :=
  mapError_eq_ok_iff.trans read_eq_ok_iff

/-- An identifier is a path of one segment. -/
theorem read_of_isIdentifier {s : String} (h : isIdentifier s.toList = true) :
    read s = .ok ⟨⟨s, h⟩, []⟩ := by
  rw [read, isEmpty_of_isIdentifier h, Text.pieces_of_not_mem (dot_not_mem_of_isIdentifier h)]
  simp only [Bool.false_eq_true, if_false, readSegment_of_isIdentifier h, ok_bind, readInner]
  rfl

end PropertyPath

end DerivedQuery
