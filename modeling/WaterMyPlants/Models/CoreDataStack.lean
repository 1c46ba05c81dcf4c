import WaterMyPlants.Models.Plant

/-!
# The Core Data stack

`updatePlant` does not change the object it is handed.  It searches the whole
context, every owner included, for that object's timestamp, and changes the row
found when there is exactly one.  It force-unwraps the timestamp, so it traps on
a plant without one.

`persistentStoreCoordinator` opens the store with an inferred mapping and ends
the program when the store does not open.
-/

namespace WaterMyPlants

open LightweightMigration

/-! ## Updating a plant -/

/-- The values `updatePlant` sets before it looks at the image. -/
def Plant.setValues (id : Option Uid) (frequency nickname species : String) (timestamp : Date)
    (dict : Plant) : Plant :=
  { dict with
    id := id
    nickname := some nickname
    frequency := some frequency
    timestamp := some timestamp
    species := some species }

/-- `CoreDataStack.updatePlant`.  `none` is the trap of `plant.timestamp!`.  A
save that throws is printed, so what it came to is returned and not acted on. -/
def CoreDataStack.updatePlant (id : Option Uid) (frequency : String) (image : Option Data)
    (nickname species : String) (timestamp : Date) (plant : Plant) (disk : Disk)
    (context : Context) : Option (Option WorkingCopy.SaveResult × Context) :=
  match plant.timestamp with
  | none => none
  | some t =>
      match context.fetch disk t with
      | some [dict] =>
          let context := context.modify dict.1
            (Plant.setValues id frequency nickname species timestamp)
          match image with
          | none =>
              let saved := Context.save disk context
              some (some saved.1, saved.2)
          | some newPlantImage =>
              let context :=
                context.modify dict.1 fun dict => { dict with image := some newPlantImage }
              let saved := Context.save disk context
              some (some saved.1, saved.2)
      | _ => some (none, context)

/-- What an update makes of the plant it is applied to. -/
def Plant.edited (id : Option Uid) (frequency : String) (image : Option Data)
    (nickname species : String) (timestamp : Date) (p : Plant) : Plant where
  frequency := some frequency
  id := id
  image := image.or p.image
  nickname := some nickname
  species := some species
  timestamp := some timestamp

theorem CoreDataStack.updatePlant_trap {id : Option Uid} {frequency : String} {image : Option Data}
    {nickname species : String} {timestamp : Date} {plant : Plant} {disk : Disk}
    {context : Context} (ht : plant.timestamp = none) :
    updatePlant id frequency image nickname species timestamp plant disk context = none := by
  rw [updatePlant, ht]

/-- Both exits of `updatePlant` at once: the row found, if it is the only one,
is edited and the context saved. -/
theorem CoreDataStack.updatePlant_eq {id : Option Uid} {frequency : String} {image : Option Data}
    {nickname species : String} {timestamp t : Date} {plant : Plant} {disk : Disk}
    {context : Context} (ht : plant.timestamp = some t) :
    updatePlant id frequency image nickname species timestamp plant disk context =
      some (match context.fetch disk t with
        | some [dict] =>
            ((some (Context.save disk (context.modify dict.1
                (Plant.edited id frequency image nickname species timestamp))).1),
              (Context.save disk (context.modify dict.1
                (Plant.edited id frequency image nickname species timestamp))).2)
        | _ => (none, context)) := by
  rw [updatePlant, ht]
  dsimp only
  cases context.fetch disk t with
  | none => rfl
  | some result =>
      cases result with
      | nil => rfl
      | cons dict rest =>
          cases rest with
          | cons _ _ => rfl
          | nil =>
              cases image with
              | none => rfl
              | some newPlantImage =>
                  simp only [WorkingCopy.modify_modify]
                  rfl

/-! ## Opening the store -/

/-- `Bundle.main`: the compiled model under a resource name, if there is one and
it loads. -/
abbrev Bundle := String → Option (Option ManagedObjectModel)

/-- The bundle of the app. -/
def Bundle.main : Bundle := fun name =>
  if name = "WaterMyPlants" then some (some DataModel.momd) else none

/-- `CoreDataStack.modelName`. -/
def CoreDataStack.modelName : String := "WaterMyPlants"

/-- `CoreDataStack.managedObjectModel`.  An error is a `fatalError`. -/
def CoreDataStack.managedObjectModel (bundle : Bundle) : Except String ManagedObjectModel :=
  match bundle CoreDataStack.modelName with
  | none => .error "Unable to Find Data Model"
  | some none => .error "Unable to Load Data Model"
  | some (some managedObjectModel) => .ok managedObjectModel

/-- `CoreDataStack.persistentStoreCoordinator`, as the rows it gives access to.
An error is a `fatalError`. -/
def CoreDataStack.persistentStoreCoordinator (core : MappingInference) (bundle : Bundle)
    (file : StoreFile) : Except String (List Row) :=
  match CoreDataStack.managedObjectModel bundle with
  | .error message => .error message
  | .ok managedObjectModel =>
      let options : StoreOptions :=
        { inferMappingModelAutomatically := true, migratePersistentStoresAutomatically := true }
      match addPersistentStore core managedObjectModel options file with
      | .error _ => .error "Unable to Load Persistent Store"
      | .ok rows => .ok rows

end WaterMyPlants
