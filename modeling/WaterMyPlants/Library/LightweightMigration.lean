import Mathlib.Data.List.Basic

/-!
# Lightweight migration of a store

A *store* is a list of rows written under one version of an entity.  Opening it
under another version needs a mapping between the two.  A *lightweight*
migration infers the mapping from the two versions and nothing else.

When an inferred mapping exists is not for this file to say.  What is
documented is when it cannot: an attribute of both versions must have one type,
and a mandatory attribute of the new version only must have a default.
`Inferable` states that, and a `MappingInference` is any inference that keeps
to it.

`addPersistentStore_error` is the failure: a store of another version with no
inferable mapping does not open, whatever it holds.
-/

namespace LightweightMigration

/-! ## Versions of an entity -/

/-- The type of an attribute. -/
inductive AttributeType where
  | string
  | integer16
  | binary
  | date
deriving DecidableEq, Repr

/-- A value of an attribute. -/
inductive Value where
  | string (s : String)
  | integer16 (n : Int)
  | binary (d : List UInt8)
  | date (t : Int)
deriving DecidableEq, Repr

/-- An attribute of an entity. -/
structure Attribute where
  name : String
  attributeType : AttributeType
  optional : Bool := false
  defaultValue : Option Value := none
deriving DecidableEq, Repr

/-- One version of an entity. -/
structure Entity where
  name : String
  attributes : List Attribute
deriving DecidableEq, Repr

/-- A row: the value under each key, `none` where there is no value. -/
abbrev Row := String → Option Value

/-- The attribute with a name. -/
def Entity.attribute? (e : Entity) (key : String) : Option Attribute :=
  e.attributes.find? fun a => a.name = key

/-- The entity has an attribute with this name. -/
def Entity.Has (e : Entity) (key : String) : Prop := (e.attribute? key).isSome = true

instance (e : Entity) (key : String) : Decidable (e.Has key) :=
  inferInstanceAs (Decidable (_ = true))

/-! ## The inferred mapping -/

/-- What an inferred mapping between two versions needs. -/
structure Inferable (src dst : Entity) : Prop where
  /-- An attribute of both has one type. -/
  types : ∀ a ∈ src.attributes, ∀ b ∈ dst.attributes,
    a.name = b.name → a.attributeType = b.attributeType
  /-- A mandatory attribute of the new version only has a default. -/
  defaults : ∀ b ∈ dst.attributes, b.optional = false → ¬ src.Has b.name →
    b.defaultValue.isSome = true

/-- An inference of mappings that infers none where none can be. -/
structure MappingInference where
  /-- A mapping from the first version to the second is inferred. -/
  infers : Entity → Entity → Bool
  /-- It is inferred only where it can be. -/
  inferable : ∀ {src dst}, infers src dst = true → Inferable src dst

theorem inferable_iff {src dst : Entity} : Inferable src dst ↔
    (∀ a ∈ src.attributes, ∀ b ∈ dst.attributes, a.name = b.name →
        a.attributeType = b.attributeType) ∧
      ∀ b ∈ dst.attributes, b.optional = false → ¬ src.Has b.name →
        b.defaultValue.isSome = true :=
  ⟨fun h => ⟨h.types, h.defaults⟩, fun h => ⟨h.1, h.2⟩⟩

instance (src dst : Entity) : Decidable (Inferable src dst) := decidable_of_iff' _ inferable_iff

/-- The inference that infers a mapping wherever one can be. -/
def MappingInference.widest : MappingInference where
  infers src dst := decide (Inferable src dst)
  inferable := of_decide_eq_true

/-- A row under an inferred mapping: shared attributes are copied, new ones take
their default, dropped ones are gone. -/
def migrateRow (src dst : Entity) (row : Row) : Row := fun key =>
  match dst.attribute? key with
  | none => none
  | some b => if src.Has key then row key else b.defaultValue

/-! ## Opening a store -/

/-- A store on disk: the version it was written under, and its rows. -/
structure StoreFile where
  version : Entity
  rows : List Row

/-- The options a store is opened with. -/
structure StoreOptions where
  migratePersistentStoresAutomatically : Bool
  inferMappingModelAutomatically : Bool

/-- A compiled model: the versions it ships with, one of them current. -/
structure ManagedObjectModel where
  versions : List Entity
  current : Entity

/-- Why a store does not open. -/
inductive StoreError where
  /-- The store has another version and migration is off. -/
  | incompatibleVersion
  /-- The version of the store is not among those shipped. -/
  | missingSourceModel
  /-- There is no mapping to the current version. -/
  | missingMappingModel
deriving DecidableEq, Repr

/-- Open a store under a model.  No mapping model is shipped, so a mapping is
inferred or missing. -/
def addPersistentStore (core : MappingInference) (model : ManagedObjectModel)
    (options : StoreOptions) (file : StoreFile) : Except StoreError (List Row) :=
  if file.version = model.current then .ok file.rows
  else if options.migratePersistentStoresAutomatically = false then .error .incompatibleVersion
  else if file.version ∉ model.versions then .error .missingSourceModel
  else if options.inferMappingModelAutomatically && core.infers file.version model.current then
    .ok (file.rows.map (migrateRow file.version model.current))
  else .error .missingMappingModel

section
variable {core : MappingInference} {model : ManagedObjectModel} {options : StoreOptions}
  {file : StoreFile}

/-- A store of another version with no inferable mapping does not open. -/
theorem addPersistentStore_error (hv : file.version ≠ model.current)
    (hi : ¬ Inferable file.version model.current) :
    ∃ e, addPersistentStore core model options file = .error e := by
  have hn : core.infers file.version model.current ≠ true := fun h => hi (core.inferable h)
  rw [addPersistentStore, if_neg hv]
  split
  next => exact ⟨_, rfl⟩
  next =>
    split
    next => exact ⟨_, rfl⟩
    next => exact ⟨_, by simp [hn]; rfl⟩

end

end LightweightMigration
