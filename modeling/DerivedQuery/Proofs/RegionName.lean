import DerivedQuery.Proofs.Except
import DerivedQuery.Proofs.Text.Ascii
import DerivedQuery.Proofs.Text.Joined
import DerivedQuery.RegionName

/-!
# Reading region names

* `dropSlash_cases`: a text loses a leading slash, or has none.
* `RegionName.isBlank_of_mem`, `RegionName.head?_text_ne`: a name holds no white space and does not
  begin with a slash.
* `RegionName.read_eq_ok_iff`: a name is read from itself, with or without one slash in front.
* `RegionName.read_two_slashes`: with two slashes in front, the first segment is empty.
-/

namespace DerivedQuery

open Text

/-! ## The leading slash -/

@[simp] theorem dropSlash_slash (s : String) : dropSlash ("/" ++ s) = s := by
  simp [dropSlash]

theorem dropSlash_of_head? {s : String} (h : s.toList.head? ≠ some '/') : dropSlash s = s := by
  unfold dropSlash
  split
  · next cs heq =>
    rw [heq] at h
    exact absurd rfl h
  · rfl

/-- Either there is no leading slash, or one is dropped. -/
theorem dropSlash_cases (s : String) :
    s.toList.head? ≠ some '/' ∧ dropSlash s = s ∨ s = "/" ++ dropSlash s := by
  by_cases h : s.toList.head? = some '/'
  · right
    obtain ⟨cs, hcs⟩ := List.head?_eq_some_iff.1 h
    obtain rfl : s = "/" ++ String.ofList cs := by
      apply String.toList_injective
      simp [hcs]
    rw [dropSlash_slash]
  · exact .inl ⟨h, dropSlash_of_head? h⟩

/-- A text that does not begin with a slash is left by a text that begins with none or with one. -/
theorem dropSlash_eq_iff {s t : String} (ht : t.toList.head? ≠ some '/') :
    dropSlash s = t ↔ s = t ∨ s = "/" ++ t := by
  constructor
  · rintro rfl
    rcases dropSlash_cases s with ⟨-, h⟩ | h
    · exact .inl h.symm
    · exact .inr h
  · rintro (rfl | rfl)
    · exact dropSlash_of_head? ht
    · exact dropSlash_slash t

/-- A text that begins with a slash is left only by one that begins with two. -/
theorem dropSlash_eq_slash_iff {s t : String} : dropSlash s = "/" ++ t ↔ s = "//" ++ t := by
  have htwo : "//" ++ t = "/" ++ ("/" ++ t) := by
    rw [← String.append_assoc]
    rfl
  constructor
  · intro h
    rcases dropSlash_cases s with ⟨hhead, hsame⟩ | hs
    · rw [← hsame, h] at hhead
      simp at hhead
    · rw [hs, h, htwo]
  · rintro rfl
    rw [htwo, dropSlash_slash]

/-! ## Names -/

theorem isBlank_of_regionChar {c : Char} (h : isRegionChar c = true) : isBlank c = false := by
  simp only [isRegionChar, Bool.or_eq_true, beq_iff_eq] at h
  rcases h with ((h | rfl) | rfl) | rfl
  · rw [isAlphanum_iff] at h
    exact isBlank_of_visible (by omega) (by omega)
  · decide
  · decide
  · decide

namespace RegionName

/-- A region consists of valid segments with slashes between them. -/
theorem regionChar_of_mem (region : RegionName) :
    ∀ c ∈ region.text.toList, isRegionChar c = true ∨ c = '/' := by
  intro c hc
  rw [← joinPieces_pieces '/' region.text.toList, joinPieces_eq_intercalate] at hc
  rcases mem_of_mem_intercalate hc with hslash | ⟨piece, hpiece, hc⟩
  · exact .inr (by simpa using hslash)
  · have hsegment := List.all_eq_true.1 region.valid piece hpiece
    simp only [isRegionSegment, Bool.and_eq_true, List.all_eq_true] at hsegment
    exact .inl (hsegment.2 c hc)

/-- There is no white space in a region. -/
theorem isBlank_of_mem (region : RegionName) :
    ∀ c ∈ region.text.toList, isBlank c = false := by
  intro c hc
  rcases region.regionChar_of_mem c hc with hc | rfl
  · exact isBlank_of_regionChar hc
  · decide

/-- A name begins with a character of its first segment. -/
theorem exists_head?_text (region : RegionName) :
    ∃ c, region.text.toList.head? = some c ∧ isRegionChar c = true := by
  have hvalid := region.valid
  cases htext : region.text.toList with
  | nil =>
    rw [htext] at hvalid
    cases hvalid
  | cons c cs =>
    refine ⟨c, rfl, ?_⟩
    have hc : c ∈ region.text.toList := by
      rw [htext]
      exact List.mem_cons_self
    rcases region.regionChar_of_mem c hc with hc | rfl
    · exact hc
    · -- The segment in front of a leading slash would be empty.
      rw [htext] at hvalid
      simp [pieces, isRegionSegment] at hvalid

/-- A name never begins with a slash. -/
theorem head?_text_ne (region : RegionName) : region.text.toList.head? ≠ some '/' := by
  obtain ⟨c, hhead, hc⟩ := region.exists_head?_text
  rw [hhead]
  rintro ⟨⟩
  cases hc

/-- A name is not blank. -/
theorem isBlankText_text (region : RegionName) : isBlankText region.text = false := by
  obtain ⟨c, hhead, hc⟩ := region.exists_head?_text
  obtain ⟨cs, hcs⟩ := List.head?_eq_some_iff.1 hhead
  simp [isBlankText, hcs, isBlank_of_regionChar hc]

/-! ## Reading -/

theorem parse_eq_ok_iff {s : String} {region : RegionName} :
    parse s = .ok region ↔ read s = .ok region :=
  mapError_eq_ok_iff

theorem parse_eq_error_iff {s : String} {err : QueryError} :
    parse s = .error err ↔ ∃ fault, read s = .error fault ∧ .invalidRequest fault = err :=
  mapError_eq_error_iff

/-- What is read is what remains without a leading slash. -/
theorem read_eq_ok_iff_dropSlash {s : String} {region : RegionName} :
    read s = .ok region ↔ dropSlash s = region.text := by
  constructor
  · intro h
    unfold read at h
    dsimp only at h
    split at h
    · cases h
    · split at h
      · cases h
      · cases h
        rfl
  · -- The checks of `read` are those that `region.valid` answers, in the order in which they are
    -- made.
    intro h
    have hsegments : (pieces '/' (dropSlash s).toList).findSome? (segmentFault? s) = none := by
      rw [h, List.findSome?_eq_none_iff]
      intro segment hsegment
      exact segmentFault?_eq_none.2 (List.all_eq_true.1 region.valid segment hsegment)
    have hblank : isBlankText (dropSlash s) = false := by
      rw [h, isBlankText_text]
    unfold read
    simp only [hblank, Bool.false_eq_true, if_false]
    split
    · next fault hfault =>
      rw [hsegments] at hfault
      cases hfault
    · cases region
      simp [h]

/-- A name is read from itself, with or without one slash in front. -/
theorem read_eq_ok_iff {s : String} {region : RegionName} :
    read s = .ok region ↔ s = region.text ∨ s = "/" ++ region.text := by
  rw [read_eq_ok_iff_dropSlash, dropSlash_eq_iff region.head?_text_ne]

/-- The first fault of a segment is reported. -/
theorem read_eq_error {s : String} {fault : RequestFault}
    (hblank : isBlankText (dropSlash s) = false)
    (hfault : (pieces '/' (dropSlash s).toList).findSome? (segmentFault? s) = some fault) :
    read s = .error fault := by
  unfold read
  simp only [hblank, Bool.false_eq_true, if_false]
  split
  · next fault' hfault' =>
    rw [hfault] at hfault'
    cases hfault'
    rfl
  · next hnone =>
    rw [hfault] at hnone
    cases hnone

/-- Only one slash is dropped. The second one stands behind an empty segment. -/
theorem read_two_slashes (s : String) :
    read ("//" ++ s) = .error (.emptyRegionSegment ("//" ++ s)) := by
  have hname : dropSlash ("//" ++ s) = "/" ++ s := dropSlash_eq_slash_iff.2 rfl
  have hslash : isBlank '/' = false := by decide
  apply read_eq_error
  · simp [hname, isBlankText, hslash]
  · simp [hname, pieces, segmentFault?]

end RegionName

end DerivedQuery
