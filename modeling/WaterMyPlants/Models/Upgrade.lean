import WaterMyPlants.Models.CoreDataStack

/-!
# Opening an older store

The coordinator asks for automatic migration with an inferred mapping, and the
bundle ships all three versions of the model.  `id` changed its type between
the second and the third, so no mapping to the third can be inferred from
either of the others, and a store of theirs ends the program whatever it holds.
-/

namespace WaterMyPlants

open LightweightMigration

/-- The attributes of a plant that an upgrade has to keep. -/
def keptKeys : List String := ["nickname", "species", "frequency", "timestamp"]

/-- The store opens without a `fatalError`, with one row for each old one and the
same value under every kept key. -/
def OpensWithPlants (core : MappingInference) (file : StoreFile) : Prop :=
  ∃ rows, CoreDataStack.persistentStoreCoordinator core Bundle.main file = .ok rows ∧
    rows.length = file.rows.length ∧
    ∀ key ∈ keptKeys, rows.map (fun row => row key) = file.rows.map (fun row => row key)

section
variable {core : MappingInference} {file : StoreFile}

theorem CoreDataStack.managedObjectModel_main :
    CoreDataStack.managedObjectModel Bundle.main = .ok DataModel.momd := rfl

/-- A store of an earlier version ends the program. -/
theorem persistentStoreCoordinator_fatalError (he : DataModel.Earlier file.version) :
    CoreDataStack.persistentStoreCoordinator core Bundle.main file =
      .error "Unable to Load Persistent Store" := by
  rw [CoreDataStack.persistentStoreCoordinator, CoreDataStack.managedObjectModel_main]
  dsimp only
  obtain ⟨e, hopen⟩ := @addPersistentStore_error core DataModel.momd
    { inferMappingModelAutomatically := true, migratePersistentStoresAutomatically := true }
    file he.ne_current he.not_inferable
  rw [hopen]

end

/-- Whatever a store of an earlier version holds, opening it reaches `fatalError`
and yields no plant. -/
theorem earlier_store_never_opens (core : MappingInference) (e : Entity) (rows : List Row)
    (he : DataModel.Earlier e) :
    CoreDataStack.persistentStoreCoordinator core Bundle.main ⟨e, rows⟩ =
        .error "Unable to Load Persistent Store" ∧
      ¬ OpensWithPlants core ⟨e, rows⟩ := by
  have hf : CoreDataStack.persistentStoreCoordinator core Bundle.main ⟨e, rows⟩ =
      .error "Unable to Load Persistent Store" := persistentStoreCoordinator_fatalError he
  refine ⟨hf, ?_⟩
  intro hopens
  obtain ⟨rows', ho, -⟩ := hopens
  rw [hf] at ho
  cases ho

/-- A plant stored under the second version. -/
def oldFern : Row
  | "frequency" => some (.string "Once a day")
  | "id" => some (.integer16 0)
  | "nickname" => some (.string "Fern")
  | "species" => some (.string "Nephrolepis")
  | "timestamp" => some (.date 1)
  | _ => none

theorem earlier_store_never_opens_oldFern :
    CoreDataStack.persistentStoreCoordinator .widest Bundle.main
        ⟨DataModel.WaterMyPlantsModel2, [oldFern]⟩ = .error "Unable to Load Persistent Store" ∧
      ¬ OpensWithPlants .widest ⟨DataModel.WaterMyPlantsModel2, [oldFern]⟩ :=
  earlier_store_never_opens .widest _ _ (Or.inr rfl)

/-- A store with one plant, written under the second version, does not open. -/
theorem oldFern_lost :
    ¬ ∀ (core : MappingInference) (e : Entity) (rows : List Row), DataModel.Earlier e →
      OpensWithPlants core ⟨e, rows⟩ := by
  intro hall
  obtain ⟨rows, ho, -⟩ := hall .widest _ [oldFern] (Or.inr rfl)
  rw [persistentStoreCoordinator_fatalError (Or.inr rfl)] at ho
  cases ho

end WaterMyPlants
