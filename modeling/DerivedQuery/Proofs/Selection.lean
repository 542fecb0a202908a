import DerivedQuery.Proofs.RegionName
import DerivedQuery.Selection

/-!
# Selections of declared regions

An entity drops a slash in front of its region, and reading the region's name drops one again. For a
text with fewer than two slashes in front, the region that is queried is the one that the text names
by itself. With two, the text by itself names no region, and yet there is a query.

* `ofEntity_eq_ok_iff`: when there is a selection, and of which region.
* `ofEntity_ofRegion`: what is queried, what the region of the entity is shown as, and when the text
  is a name by itself.
-/

namespace DerivedQuery.Selection

open Entity (ofRegion)

/-- The objects of an entity can be selected if its region, with or without a slash, is a name. -/
theorem ofEntity_eq_ok_iff {e : Entity} {distinct : Bool} {sel : Selection} :
    ofEntity e distinct = .ok sel ↔
      ∃ region, RegionName.read e.region = .ok region ∧
        sel = ⟨.region region distinct, defaultObject⟩ := by
  unfold ofEntity
  rw [bind_eq_ok_iff]
  exact exists_congr fun region =>
    and_congr RegionName.parse_eq_ok_iff (pure_eq_ok_iff.trans eq_comm)

/-- The selection of all objects of a region, as text. -/
def textOf (address : String) (distinct : Bool) : String :=
  "SELECT " ++ (if distinct then "DISTINCT " else "") ++ "* FROM " ++ address ++ " x"

theorem base_region (region : RegionName) (distinct : Bool) :
    base ⟨.region region distinct, defaultObject⟩ = textOf region.address distinct := by
  simp [base, selectFrom, defaultObject, textOf, String.append_assoc]

/-- The region of a declared entity is a name in three ways: as it was written, behind one slash,
which is dropped, and behind two. -/
theorem read_region_ofRegion {s : String} {region : RegionName} :
    RegionName.read (ofRegion s).region = .ok region ↔
      RegionName.read s = .ok region ∨ s = "//" ++ region.text := by
  show RegionName.read (dropSlash s) = .ok region ↔ _
  rw [RegionName.read_eq_ok_iff, dropSlash_eq_slash_iff, RegionName.read_eq_ok_iff_dropSlash]

/-- The region that is queried is the one that the text names by itself, which is also shown as the
region of the entity. The exception are texts with two slashes in front of a name: they are refused
as names, but the entity's objects can be selected, and its region is shown with a slash. -/
theorem ofEntity_ofRegion (s : String) (distinct : Bool) :
    (∀ region, RegionName.parse s = .ok region →
      ∃ sel, ofEntity (ofRegion s) distinct = .ok sel ∧
        sel.base = textOf region.address distinct ∧ (ofRegion s).region = region.text) ∧
    (∀ sel, ofEntity (ofRegion s) distinct = .ok sel →
      (∃ region, RegionName.parse s = .ok region) ∨
        ∃ region : RegionName, s = "//" ++ region.text) ∧
    ∀ region : RegionName, s = "//" ++ region.text →
      RegionName.parse s = .error (.invalidRequest (.emptyRegionSegment s)) ∧
      (∃ sel, ofEntity (ofRegion s) distinct = .ok sel ∧
        sel.base = textOf region.address distinct) ∧
      (ofRegion s).region = "/" ++ region.text := by
  refine ⟨?_, ?_, ?_⟩
  · -- Texts that are names, with or without a slash.
    intro region hregion
    rw [RegionName.parse_eq_ok_iff] at hregion
    have hread := read_region_ofRegion.2 (.inl hregion)
    exact ⟨_, ofEntity_eq_ok_iff.2 ⟨region, hread, rfl⟩, base_region region distinct,
      RegionName.read_eq_ok_iff_dropSlash.1 hregion⟩
  · -- Texts whose entity can be selected from.
    intro sel hsel
    obtain ⟨region, hread, -⟩ := ofEntity_eq_ok_iff.1 hsel
    rcases read_region_ofRegion.1 hread with hs | hs
    · exact .inl ⟨region, RegionName.parse_eq_ok_iff.2 hs⟩
    · exact .inr ⟨region, hs⟩
  · -- Texts that are refused as names, but whose entity can be selected from.
    intro region hs
    have hread := read_region_ofRegion.2 (.inr hs)
    refine ⟨?_, ⟨_, ofEntity_eq_ok_iff.2 ⟨region, hread, rfl⟩, base_region region distinct⟩, ?_⟩
    · rw [hs]
      exact RegionName.parse_eq_error_iff.2 ⟨_, RegionName.read_two_slashes region.text, rfl⟩
    · exact dropSlash_eq_slash_iff.2 hs

/-- A region in another one, with a slash in front. -/
theorem ofEntity_ofRegion_orders :
    let orders : RegionName := ⟨"Customers/Orders", by decide⟩
    RegionName.parse "/Customers/Orders" = .ok orders ∧
      ∃ sel, ofEntity (ofRegion "/Customers/Orders") true = .ok sel ∧
        sel.base = "SELECT DISTINCT * FROM /Customers/Orders x" ∧
        (ofRegion "/Customers/Orders").region = "Customers/Orders" := by
  intro orders
  have hparse : RegionName.parse "/Customers/Orders" = .ok orders :=
    eq_ok_of_toOption (by decide)
  obtain ⟨sel, hsel, hbase, hregion⟩ := (ofEntity_ofRegion "/Customers/Orders" true).1 orders hparse
  exact ⟨hparse, sel, hsel, hbase, hregion⟩

/-- A region that is queried though its text is no name. -/
theorem ofEntity_two_slashes :
    (RegionName.parse "//People").toOption = none ∧
      ((ofEntity (ofRegion "//People") false).map base).toOption =
        some "SELECT * FROM /People x" ∧
      (ofRegion "//People").region = "/People" := by
  decide

end DerivedQuery.Selection
