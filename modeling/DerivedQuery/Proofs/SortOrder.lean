import DerivedQuery.Proofs.Condition.Phrase
import DerivedQuery.Proofs.Text.Separator
import DerivedQuery.SortOrder

/-!
# Reading sort orders

An `ORDER BY` clause says which order it was written for. No path has a comma or a blank in it, so
the keys are found between the commas, and a descending one by the word behind its path, whatever
the properties are called.

* `SortKey.read`, `SortOrder.pieces`, `SortOrder.read`: a key, the keys of a clause as texts, and the
  order that a clause was written for.
* `SortKey.read_text`, `SortOrder.read_clause`: a key and an order are read from what they are written
  as.
* `SortOrder.ofPieces`: the clause of some keys. `SortOrder.clause_and`: the clause of two orders.
-/

namespace DerivedQuery

open Text

/-! ## Keys -/

namespace SortKey

/-- A key from its text: a path, and behind it ` DESC` if the key is descending. -/
def read (piece : String) : Except QueryError SortKey := do
  match dropEnd? " DESC" piece.toList with
  | some path => return ⟨← PropertyPath.parse (String.ofList path), .descending⟩
  | none => return ⟨← PropertyPath.parse piece, .ascending⟩

/-- No path ends with the word for a descending key, since there is no blank in it. -/
theorem dropEnd?_path (p : PropertyPath) : dropEnd? " DESC" p.text.toList = none := by
  rw [Option.eq_none_iff_forall_ne_some]
  intro rest hrest
  have hblank : ' ' ∈ p.text.toList := by
    rw [dropEnd?_eq_some_iff.1 hrest]
    simp
  exact absurd (pathChar_of_mem_text p ' ' hblank) (by decide)

/-- A key is read from its text. -/
theorem read_text (k : SortKey) : read k.text = .ok k := by
  rcases k with ⟨path, direction⟩
  have hparse : PropertyPath.parse path.text = .ok path := PropertyPath.parse_eq_ok_iff.2 rfl
  cases direction with
  | ascending =>
    show read path.text = _
    simp only [read, dropEnd?_path, hparse]
    rfl
  | descending =>
    have hend : dropEnd? " DESC" (path.text ++ " DESC").toList = some path.text.toList :=
      dropEnd?_eq_some_iff.2 String.toList_append
    show read (path.text ++ " DESC") = _
    simp only [read, hend, String.ofList_toList, hparse]
    rfl

theorem comma_not_mem_text (k : SortKey) : ',' ∉ k.text.toList := by
  have hpath : ',' ∉ k.path.text.toList := fun hcomma =>
    absurd (pathChar_of_mem_text k.path ',' hcomma) (by decide)
  rcases k with ⟨path, direction⟩
  cases direction with
  | ascending => exact hpath
  | descending =>
    rw [text, String.toList_append, List.mem_append, not_or]
    exact ⟨hpath, by decide⟩

end SortKey

/-! ## Clauses -/

namespace SortOrder

/-- The keys of a clause as they stand there. A text that is no clause has none. -/
def pieces (clause : String) : List String :=
  match dropStart? "ORDER BY " clause.toList with
  | some list => (piecesAt ", " list).map String.ofList
  | none => []

/-- The order that a clause was written for. -/
def read (clause : String) : Except QueryError SortOrder := do
  return ⟨← (pieces clause).mapM SortKey.read⟩

/-- The clause in which some keys stand. -/
def ofPieces (pieces : List String) : String :=
  if pieces.isEmpty then "" else "ORDER BY " ++ ", ".intercalate pieces

theorem clause_eq_ofPieces (s : SortOrder) : s.clause = ofPieces (s.keys.map SortKey.text) := by
  rw [clause, ofPieces, List.isEmpty_map]
  rfl

/-- The pieces of a clause are the texts of its keys. -/
theorem pieces_clause (s : SortOrder) : pieces s.clause = s.keys.map SortKey.text := by
  rcases s with ⟨keys⟩
  cases keys with
  | nil => rfl
  | cons k keys =>
    have hlist : (clause ⟨k :: keys⟩).toList =
        "ORDER BY ".toList ++ ", ".toList.intercalate ((k :: keys).map fun k => k.text.toList) := by
      rw [clause, isEmpty, List.isEmpty_cons, if_neg Bool.false_ne_true, String.toList_append, list,
        String.toList_intercalate, List.map_map]
      rfl
    have hcomma : ∀ piece ∈ (k :: keys).map fun k => k.text.toList, ',' ∉ piece := by
      intro piece hpiece
      obtain ⟨l, -, rfl⟩ := List.mem_map.1 hpiece
      exact l.comma_not_mem_text
    have hpieces : piecesAt ", " (", ".toList.intercalate ((k :: keys).map fun k => k.text.toList)) =
        (k :: keys).map fun k => k.text.toList :=
      piecesFrom_intercalate (List.cons_ne_nil _ _) hcomma
    simp only [pieces, dropStart?_eq_some_iff.2 hlist, hpieces, List.map_map]
    exact List.map_congr_left fun k _ => String.ofList_toList

/-- An order is read from its clause. -/
theorem read_clause (s : SortOrder) : read s.clause = .ok s := by
  have hkeys : (s.keys.map SortKey.text).mapM SortKey.read = .ok (s.keys.map id) :=
    mapM_map_eq_ok fun k _ => k.read_text
  rw [read, pieces_clause, hkeys, List.map_id]
  rfl

/-- Orders are written alike only if they are the same. -/
theorem clause_injective {s t : SortOrder} (h : s.clause = t.clause) : s = t := by
  have hs := read_clause s
  rw [h, read_clause t] at hs
  exact (Except.ok.inj hs).symm

/-- The clause of two orders has the keys of the one and then those of the other. -/
theorem clause_and (s t : SortOrder) :
    pieces (s.and t).clause = pieces s.clause ++ pieces t.clause ∧
      (s.and t).clause = ofPieces (pieces s.clause ++ pieces t.clause) := by
  have hkeys : (s.and t).keys.map SortKey.text = pieces s.clause ++ pieces t.clause := by
    rw [pieces_clause, pieces_clause, ← List.map_append]
    rfl
  exact ⟨(pieces_clause _).trans hkeys, by rw [clause_eq_ofPieces, hkeys]⟩

end SortOrder

end DerivedQuery
