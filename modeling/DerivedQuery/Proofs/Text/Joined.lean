import DerivedQuery.Text.Slice

/-!
# Joined texts

* `mem_of_mem_intercalate`, `filter_intercalate`: what a joined text is made of.
* `joinPieces_eq_intercalate`: pieces are joined as lists are.
* `pieces_of_not_mem`: a text without the separator is one piece.
* `pieces_intercalate`, `pieces_eq_splitOn`: texts without the separator are the pieces of what they
  are joined to, so the pieces are those of the core library.
-/

namespace DerivedQuery.Text

/-- What stands in a joined text stands in the separator or in one of the pieces. -/
theorem mem_of_mem_intercalate {α : Type} {x : α} {sep : List α} {pieces : List (List α)}
    (h : x ∈ sep.intercalate pieces) : x ∈ sep ∨ ∃ piece ∈ pieces, x ∈ piece := by
  induction pieces with
  | nil => simp at h
  | cons p ps ih =>
    cases ps with
    | nil => exact .inr ⟨p, List.mem_cons_self, by simpa using h⟩
    | cons q ps =>
      rw [List.intercalate_cons_cons, List.mem_append, List.mem_append] at h
      rcases h with (hp | hsep) | hrest
      · exact .inr ⟨p, List.mem_cons_self, hp⟩
      · exact .inl hsep
      · rcases ih hrest with hsep | ⟨piece, hpiece, hx⟩
        · exact .inl hsep
        · exact .inr ⟨piece, List.mem_cons_of_mem p hpiece, hx⟩

/-- Every piece stands in the joined text. -/
theorem mem_intercalate_of_mem {α : Type} {x : α} {sep piece : List α} {ps : List (List α)}
    (hpiece : piece ∈ ps) (hx : x ∈ piece) : x ∈ sep.intercalate ps := by
  induction ps with
  | nil => cases hpiece
  | cons p ps ih =>
    cases ps with
    | nil =>
      rw [List.mem_singleton] at hpiece
      subst hpiece
      simpa using hx
    | cons q ps =>
      rw [List.intercalate_cons_cons, List.mem_append, List.mem_append]
      rcases List.mem_cons.1 hpiece with rfl | hrest
      · exact .inl (.inl hx)
      · exact .inr (ih hrest)

/-- Characters that the separator does not have are those of the pieces. -/
theorem filter_intercalate {α : Type} {test : α → Bool} {sep : List α} {ps : List (List α)}
    (h : ∀ x ∈ sep, test x = false) :
    (sep.intercalate ps).filter test = ps.flatten.filter test := by
  have hsep : sep.filter test = [] := by
    rw [List.filter_eq_nil_iff]
    intro x hx
    simp [h x hx]
  induction ps with
  | nil => rfl
  | cons p ps ih =>
    cases ps with
    | nil => simp
    | cons q ps =>
      rw [List.intercalate_cons_cons, List.filter_append, List.filter_append, hsep, ih]
      simp

theorem joinPieces_eq_intercalate (sep : Char) (pieces : List (List Char)) :
    joinPieces sep pieces = [sep].intercalate pieces := by
  induction pieces with
  | nil => rfl
  | cons p ps ih =>
    cases ps with
    | nil => simp [joinPieces]
    | cons q ps => simp [joinPieces, ih, List.intercalate_cons_cons]

theorem pieces_of_not_mem {sep : Char} {cs : List Char} (h : sep ∉ cs) : pieces sep cs = [cs] := by
  induction cs with
  | nil => rfl
  | cons c cs ih =>
    rw [List.mem_cons, not_or] at h
    rw [pieces, if_neg (Ne.symm h.1), ih h.2]

/-- No piece has the separator in it. -/
theorem not_mem_of_mem_pieces {sep : Char} {cs : List Char} :
    ∀ piece ∈ pieces sep cs, sep ∉ piece := by
  induction cs with
  | nil => simp [pieces]
  | cons c cs ih =>
    rw [pieces]
    split
    · exact List.forall_mem_cons.2 ⟨List.not_mem_nil, ih⟩
    · next hc =>
      rcases hpieces : pieces sep cs with _ | ⟨p, ps⟩
      · exact absurd hpieces (pieces_ne_nil sep cs)
      · rw [hpieces, List.forall_mem_cons] at ih
        exact List.forall_mem_cons.2 ⟨List.not_mem_cons_of_ne_of_not_mem (Ne.symm hc) ih.1, ih.2⟩

/-- The pieces make the text again. -/
theorem intercalate_pieces (sep : Char) (cs : List Char) :
    [sep].intercalate (pieces sep cs) = cs := by
  rw [← joinPieces_eq_intercalate, joinPieces_pieces]

theorem pieces_eq_splitOn (sep : Char) (cs : List Char) : pieces sep cs = cs.splitOn sep := by
  calc pieces sep cs
      = ([sep].intercalate (pieces sep cs)).splitOn sep :=
        (List.splitOn_intercalate sep not_mem_of_mem_pieces (pieces_ne_nil sep cs)).symm
    _ = cs.splitOn sep := by rw [intercalate_pieces]

/-- Texts without the separator are found again in what they are joined to. -/
theorem pieces_intercalate {sep : Char} {ps : List (List Char)} (hps : ps ≠ [])
    (hsep : ∀ p ∈ ps, sep ∉ p) : pieces sep ([sep].intercalate ps) = ps := by
  rw [pieces_eq_splitOn, List.splitOn_intercalate sep hsep hps]

/-- A text begins as its first piece does. -/
theorem exists_of_pieces {sep c : Char} {cs p : List Char} {ps : List (List Char)}
    (h : pieces sep cs = (c :: p) :: ps) : ∃ rest, cs = c :: rest := by
  cases cs with
  | nil => cases h
  | cons d ds =>
    unfold pieces at h
    split at h
    · cases h
    · split at h
      · cases h
        exact ⟨ds, rfl⟩
      · cases h
        exact ⟨ds, rfl⟩

end DerivedQuery.Text
