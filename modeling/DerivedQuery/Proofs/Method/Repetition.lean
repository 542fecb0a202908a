import DerivedQuery.Method
import DerivedQuery.Proofs.Statement.Repetition

/-!
# Extending a query again

The query of a call gets the clauses that the options of its method ask for. They are added one
after the other, so a query that has been extended already is left as it is.

* `Method.additions`: the clauses that a method asks for.
* `Method.extend_eq`: a statement is extended with these.
* `Method.extend_extend`: a statement that was extended.
* `repeated_additions`: every clause by itself, and all that a method asks for.
-/

namespace DerivedQuery

open Text Statement

namespace Method

/-- The clauses that the options and the limit of a method ask for. -/
def additions (m : Method) : List Addition :=
  (if m.options.hasImport then (m.options.importing.map Addition.importing).toList else []) ++
    ((if m.options.hasHints then [.hints m.options.hints] else []) ++
      ((m.limit?.map Addition.limit).toList ++ if m.options.trace then [.trace] else []))

theorem applyAll_asked (asked : Bool) (addition : Addition) (s : Statement) :
    Addition.applyAll (if asked then [addition] else []) s =
      if asked then addition.apply s else s := by
  cases asked <;> rfl

theorem applyAll_importing (o : Options) (s : Statement) :
    Addition.applyAll (if o.hasImport then (o.importing.map Addition.importing).toList else []) s =
      match o.importing with
      | some statement => if o.hasImport then s.withImport statement else s
      | none => s := by
  cases o.importing <;> cases o.hasImport <;> simp [Addition.applyAll, Addition.apply]

theorem applyAll_limit (limit : Option Nat) (s : Statement) :
    Addition.applyAll (limit.map Addition.limit).toList s =
      match limit with
      | some n => s.withLimit n
      | none => s := by
  cases limit <;> rfl

/-- A statement is made distinct, if that is asked for, and then the clauses are added. -/
theorem extend_eq (m : Method) (s : Statement) :
    m.extend s = Addition.applyAll m.additions
      (if m.options.distinct then s.withDistinct else s) := by
  rw [additions, Addition.applyAll_append, Addition.applyAll_append, Addition.applyAll_append,
    applyAll_importing, applyAll_asked, applyAll_limit, applyAll_asked]
  rfl

/-- The imports that a method asks for are one import each. -/
theorem isSealed_additions {m : Method}
    (h : ∀ statement, m.options.importing = some statement → IsOneImport statement) :
    ∀ addition ∈ m.additions, addition.IsSealed := by
  intro addition hmem
  cases addition with
  | importing statement =>
    apply h
    simp only [additions, List.mem_append] at hmem
    rcases hmem with himport | hhints | hlimit | htrace
    · split at himport
      · simpa using himport
      · cases himport
    · split at hhints <;> simp at hhints
    · simp at hlimit
    · split at htrace <;> simp at htrace
  | _ => trivial

/-- A statement that was extended is not changed by being extended again. -/
theorem extend_extend {m : Method}
    (h : ∀ statement, m.options.importing = some statement → IsOneImport statement)
    (s : Statement) : m.extend (m.extend s) = m.extend s := by
  rw [extend_eq, extend_eq]
  cases m.options.distinct with
  | false => exact Addition.applyAll_applyAll m.additions s
  | true =>
    have hcomm := Addition.applyAll_withDistinct (isSealed_additions h)
    rw [if_pos rfl, if_pos rfl, ← hcomm, withDistinct_withDistinct, Addition.applyAll_applyAll]

end Method

/-- Every clause is added once: what is added second is what was added first, unless that had
nothing to say, and then the clause is found. So a statement that was extended is not changed by
being extended again, if the import that is asked for is one. -/
theorem repeated_additions (s : Statement) :
    (∀ i j : String,
      (s.withImport i).withImport j =
        s.withImport (if (trim i.toList).all (· = ';') then j else i) ∧
      (s.withImport i).hasImport = (s.hasImport || !(trim i.toList).all (· = ';'))) ∧
    (∀ hs ks : List String,
      (s.withHints hs).withHints ks = s.withHints (if hs.all isBlankText then ks else hs) ∧
      (s.withHints hs).hasHints = (s.hasHints || !hs.all isBlankText)) ∧
    (∀ n k : Nat, (s.withLimit n).withLimit k = s.withLimit n ∧ (s.withLimit n).hasLimit = true) ∧
    (s.withTrace.withTrace = s.withTrace ∧ s.withTrace.hasTrace = true) ∧
    (s.withDistinct.withDistinct = s.withDistinct) ∧
    (∀ o p : SortOrder, (s.orderBy o).orderBy p = s.orderBy (if o.isEmpty then p else o) ∧
      (s.orderBy o).hasOrderBy = (s.hasOrderBy || !o.isEmpty)) ∧
    ∀ m : Method,
      (∀ statement, m.options.importing = some statement → IsOneImport statement) →
      m.extend (m.extend s) = m.extend s := by
  -- Each clause is an addition, for which repeating and finding have been settled in general.
  refine ⟨fun i j => ⟨?_, ?_⟩, fun hs ks => ⟨?_, ?_⟩, fun n k => ⟨?_, s.hasLimit_withLimit n⟩,
    ⟨?_, s.hasTrace_withTrace⟩, s.withDistinct_withDistinct, fun o p => ⟨?_, ?_⟩,
    fun m h => m.extend_extend h s⟩
  · exact Addition.apply_apply .importing (fun _ _ _ => rfl) i j s
  · exact (Addition.importing i).isFound_apply s
  · exact Addition.apply_apply .hints (fun _ _ _ => rfl) hs ks s
  · exact (Addition.hints hs).isFound_apply s
  · exact Addition.apply_apply .limit (fun _ _ _ => rfl) n k s
  · exact Addition.apply_of_isSettled (Addition.trace.isSettled_apply s)
  · exact Addition.apply_apply .order (fun _ _ _ => rfl) o p s
  · exact (Addition.order o).isFound_apply s

/-- Imports and hints that mention other clauses, at a statement and at a method with all its
options. -/
theorem repeated_additions_people :
    let s : Statement := ⟨"SELECT * FROM /People x"⟩
    let o : Options :=
      ⟨none, ["it's, '> <TRACE>", " "], some " a.B LIMIT 5;; ", some 3, true, true⟩
    let m : Method := ⟨"any", 0, Entity.ofRegion "/People", o, .explicit s⟩
    (∀ statement, m.options.importing = some statement → IsOneImport statement) ∧
      (s.withHints ["it's, '> <TRACE>"]).withHints ["other"] =
        s.withHints ["it's, '> <TRACE>"] ∧
      (s.withHints ["it's, '> <TRACE>"]).hasHints = true ∧
      m.extend (m.extend s) = m.extend s := by
  intro s o m
  have himport : ∀ statement, m.options.importing = some statement → IsOneImport statement := by
    intro statement h
    cases h
    decide
  rcases repeated_additions s with ⟨-, hhints, -, -, -, -, hextend⟩
  rcases hhints ["it's, '> <TRACE>"] ["other"] with ⟨hagain, hfound⟩
  exact ⟨himport, hagain, hfound.trans (Bool.or_true _), hextend m himport⟩

end DerivedQuery
