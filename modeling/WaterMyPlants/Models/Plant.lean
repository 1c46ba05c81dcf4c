import WaterMyPlants.Library.WorkingCopy
import WaterMyPlants.Models.DataModel

/-!
# Plants and the managed object context

`Plant` has the six optional properties of `Plant+CoreDataProperties.swift`.
The managed object context is a working copy of plants: identity is the object
ID, `objects` are the live objects, and what Core Data calls pending changes is
the difference between `objects` and `store`.

Core Data validates a changed plant against the current model version before a
save: an attribute that is not optional there must have a value.
-/

namespace WaterMyPlants

open LightweightMigration (Value)

/-- The uid of a Firebase user. -/
abbrev Uid := String

/-- A reading of the wall clock.  Nothing but equality is used of it. -/
abbrev Date := Int

/-- Bytes. -/
abbrev Data := List UInt8

/-- A picked image.  `pngData` is `nil` when it has no PNG form. -/
structure UIImage where
  pngData : Option Data
deriving DecidableEq, Repr

/-- The managed object `Plant`. -/
structure Plant where
  frequency : Option String
  id : Option Uid
  image : Option Data
  nickname : Option String
  species : Option String
  timestamp : Option Date
deriving DecidableEq, Repr

/-- The value under a key of the data model. -/
def Plant.value (p : Plant) : String → Option Value
  | "frequency" => p.frequency.map .string
  | "id" => p.id.map .string
  | "image" => p.image.map .binary
  | "nickname" => p.nickname.map .string
  | "species" => p.species.map .string
  | "timestamp" => p.timestamp.map .date
  | _ => none

/-- Every attribute that is not optional in the current version has a value. -/
def Plant.validateForSave (p : Plant) : Bool :=
  DataModel.momd.current.attributes.all fun a => a.optional || (p.value a.name).isSome

theorem Plant.validateForSave_iff (p : Plant) :
    p.validateForSave = true ↔
      p.frequency.isSome = true ∧ p.id.isSome = true ∧ p.nickname.isSome = true ∧
        p.species.isSome = true := by
  simp [validateForSave, value, DataModel.momd, DataModel.WaterMyPlantsModel3]

/-- The managed object context over its persistent store. -/
abbrev Context := WorkingCopy Plant

/-- `Plant.init(frequency:id:image:nickname:species:timestamp:context:)`. -/
def Plant.init (frequency : Option String) (id : Option Uid) (image : Option Data)
    (nickname species : Option String) (timestamp : Option Date) (context : Context) : Context :=
  context.insert { frequency, id, image, nickname, species, timestamp }

/-- What the disk does during one action: whether a fetch reaches the store, and
whether a save does. -/
structure Disk where
  fetches : Bool
  saves : Bool
deriving DecidableEq, Repr

/-- `NSManagedObjectContext.save()`. -/
def Context.save (disk : Disk) (c : Context) : WorkingCopy.SaveResult × Context :=
  WorkingCopy.save Plant.validateForSave disk.saves c

/-- The live plants with a timestamp, pending changes included. -/
def Context.withTimestamp (c : Context) (t : Date) : List (Nat × Plant) :=
  c.objects.part fun p => p.timestamp = some t

/-- `try? context.fetch` with the predicate `timestamp = t`. -/
def Context.fetch (disk : Disk) (t : Date) (c : Context) : Option (List (Nat × Plant)) :=
  if disk.fetches then some (c.withTimestamp t) else none

/-- The objects of a fetched results controller with the predicate `id = uid`. -/
def Context.fetchedObjects (uid : Uid) (c : Context) : List (Nat × Plant) :=
  c.objects.part fun p => p.id = some uid

end WaterMyPlants
