import WaterMyPlants.Library.LightweightMigration

/-!
# The data model

`WaterMyPlants.xcdatamodeld` holds three versions of the one entity `Plant`.
The third is current.  They differ in two attributes: `image` is a string in
the first and binary after, and `id` is a 16-bit integer in the first two and a
string in the third.
-/

namespace WaterMyPlants

open LightweightMigration

namespace DataModel

/-- `WaterMyPlants.xcdatamodel`. -/
def WaterMyPlantsModel : Entity where
  name := "Plant"
  attributes := [
    { name := "frequency", attributeType := .string },
    { name := "id", attributeType := .integer16, defaultValue := some (.integer16 0) },
    { name := "image", attributeType := .string, optional := true },
    { name := "nickname", attributeType := .string },
    { name := "species", attributeType := .string },
    { name := "timestamp", attributeType := .date, optional := true }]

/-- `WaterMyPlants 2.xcdatamodel`. -/
def WaterMyPlantsModel2 : Entity where
  name := "Plant"
  attributes := [
    { name := "frequency", attributeType := .string },
    { name := "id", attributeType := .integer16, defaultValue := some (.integer16 0) },
    { name := "image", attributeType := .binary, optional := true },
    { name := "nickname", attributeType := .string },
    { name := "species", attributeType := .string },
    { name := "timestamp", attributeType := .date, optional := true }]

/-- `WaterMyPlants 3.xcdatamodel`. -/
def WaterMyPlantsModel3 : Entity where
  name := "Plant"
  attributes := [
    { name := "frequency", attributeType := .string },
    { name := "id", attributeType := .string },
    { name := "image", attributeType := .binary, optional := true },
    { name := "nickname", attributeType := .string },
    { name := "species", attributeType := .string },
    { name := "timestamp", attributeType := .date, optional := true }]

/-- The compiled `WaterMyPlants.momd`, current as `.xccurrentversion` says. -/
def momd : ManagedObjectModel where
  versions := [WaterMyPlantsModel, WaterMyPlantsModel2, WaterMyPlantsModel3]
  current := WaterMyPlantsModel3

/-- An earlier version of the model. -/
def Earlier (e : Entity) : Prop := e = WaterMyPlantsModel ∨ e = WaterMyPlantsModel2

theorem Earlier.ne_current {e : Entity} (h : Earlier e) : e ≠ momd.current := by
  obtain rfl | rfl := h
  · decide
  · decide

theorem Earlier.id_integer16 {e : Entity} (h : Earlier e) :
    ∃ a ∈ e.attributes, a.name = "id" ∧ a.attributeType = .integer16 := by
  obtain rfl | rfl := h
  · exact ⟨_, List.mem_cons_of_mem _ (List.mem_cons_self ..), rfl, rfl⟩
  · exact ⟨_, List.mem_cons_of_mem _ (List.mem_cons_self ..), rfl, rfl⟩

/-- No mapping to the current version can be inferred: `id` changed its type. -/
theorem Earlier.not_inferable {e : Entity} (h : Earlier e) : ¬ Inferable e momd.current := by
  intro hi
  obtain ⟨a, ha, hn, ht⟩ := h.id_integer16
  have hid : (⟨"id", .string, false, none⟩ : Attribute) ∈ momd.current.attributes :=
    List.mem_cons_of_mem _ (List.mem_cons_self ..)
  have htypes := hi.types a ha _ hid hn
  rw [ht] at htypes
  cases htypes

end DataModel

end WaterMyPlants
