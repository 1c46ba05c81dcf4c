import WaterMyPlants.Library.Run
import WaterMyPlants.ViewControllers.Plants

/-!
# The garden

The three actions on plants as one machine on the managed object context.  An
action names a row of the table it is taken from, the list of the plants whose
`id` is the uid that table shows.  `handle` calls the handler of the action.

`Change` says once what an action can do to the context before it saves, and
`handle_cases` says that an action does nothing, or makes such a change and
saves it.  Everything about runs is proved from these two.
-/

namespace WaterMyPlants

open Transition

/-- An action on plants.  `indexPath` is the row of the table. -/
inductive Action where
  | add (vc : AddPlantViewController)
  | edit (indexPath : Nat) (vc : EditViewController)
  | delete (indexPath : Nat)
deriving DecidableEq, Repr

/-- The action is a delete, whose save site resets the context. -/
def Action.isDelete : Action → Bool
  | .delete _ => true
  | _ => false

/-- The handler of an action.  `uid` is the key of `UserDefaults` that an add
reads, `shown` the uid of the table on screen.  A row that is not there can not
be tapped. -/
def Action.handle (uid : Option Uid) (shown : Uid) (now : Date) (disk : Disk) (context : Context) :
    Action → Option Handled
  | .add vc => some (vc.saveButtonTapped uid now disk context)
  | .edit indexPath vc =>
      match (context.fetchedObjects shown)[indexPath]? with
      | none => some ⟨context, none, []⟩
      | some row => vc.updateButtonTapped (some row.2) now disk context
  | .delete indexPath =>
      match (context.fetchedObjects shown)[indexPath]? with
      | none => some ⟨context, none, []⟩
      | some row => some (PlantTableViewController.commit .delete row.1 disk context)

/-- An action of the user of a session: `uid` is that user, and so is the table. -/
structure Tap where
  user : Uid
  action : Action
  now : Date
  disk : Disk
deriving DecidableEq, Repr

/-- The handler of a tap of that user. -/
def Tap.handle (context : Context) (tap : Tap) : Option Handled :=
  tap.action.handle (some tap.user) tap.user tap.now tap.disk context

/-- The garden refuses a tap whose handler traps. -/
def Garden.step : Machine Context Tap := fun context tap =>
  (tap.handle context).map Handled.context

/-! ## What an action changes -/

/-- The plant an add creates. -/
def AddPlantViewController.plant (vc : AddPlantViewController) (uid : Option Uid)
    (nickname species : String) (now : Date) : Plant where
  frequency := some vc.segControlString
  id := uid
  image := vc.plantImage.bind UIImage.pngData
  nickname := some nickname
  species := some species
  timestamp := some now

/-- What an update on screen makes of the plant it is applied to. -/
def EditViewController.edited (vc : EditViewController) (nickname species : String) (now : Date)
    (p : Plant) : Plant :=
  p.edited p.id vc.segControlString (vc.newPlantImage.bind UIImage.pngData) nickname species now

/-- The changes an action can hand to its save. -/
inductive Change (uid : Option Uid) (shown : Uid) (now : Date) (disk : Disk) (c : Context) :
    Action → Context → Prop where
  | add {vc : AddPlantViewController} {nickname species : String} :
      vc.plantNicknameTextField = some nickname → nickname ≠ "" →
      vc.speciesTextField = some species → species ≠ "" →
      Change uid shown now disk c (.add vc) (c.insert (vc.plant uid nickname species now))
  | edit {vc : EditViewController} {indexPath k : Nat} {p : Plant} {nickname species : String}
      {t : Date} :
      (c.fetchedObjects shown)[indexPath]? = some (k, p) →
      vc.nicknameTextField = some nickname → vc.speciesTextField = some species →
      p.timestamp = some t → disk.fetches = true → c.withTimestamp t = [(k, p)] →
      Change uid shown now disk c (.edit indexPath vc) (c.modify k (vc.edited nickname species now))
  | delete {indexPath k : Nat} {p : Plant} :
      (c.fetchedObjects shown)[indexPath]? = some (k, p) →
      Change uid shown now disk c (.delete indexPath) (c.delete k)

/-- The context after its save: only a delete resets it when the save throws. -/
def Action.settle (a : Action) (saved : WorkingCopy.SaveResult × Context) : Context :=
  if a.isDelete && saved.1.threw then saved.2.reset else saved.2

theorem mem_fetchedObjects {c : Context} {uid : Uid} {o : Nat × Plant} :
    o ∈ c.fetchedObjects uid ↔ o ∈ c.objects.list ∧ o.2.id = some uid := by
  rw [Context.fetchedObjects, WorkingCopy.Rows.mem_part, decide_eq_true_iff]

theorem mem_withTimestamp {c : Context} {t : Date} {o : Nat × Plant} :
    o ∈ c.withTimestamp t ↔ o ∈ c.objects.list ∧ o.2.timestamp = some t := by
  rw [Context.withTimestamp, WorkingCopy.Rows.mem_part, decide_eq_true_iff]

/-- A row of the table is a live plant of the uid it shows. -/
theorem mem_of_row {c : Context} {uid : Uid} {i : Nat} {o : Nat × Plant}
    (h : (c.fetchedObjects uid)[i]? = some o) : o ∈ c.objects.list ∧ o.2.id = some uid :=
  mem_fetchedObjects.mp (List.mem_of_getElem? h)

/-! ## The handlers -/

namespace AddPlantViewController

/-- Both guards pass and the plant is created and saved, or nothing happens. -/
theorem saveButtonTapped_cases (vc : AddPlantViewController) (uid : Option Uid) (now : Date)
    (disk : Disk) (c : Context) :
    (vc.saveButtonTapped uid now disk c = ⟨c, none, []⟩ ∧
        ∀ nickname species, vc.plantNicknameTextField = some nickname →
          vc.speciesTextField = some species → nickname = "" ∨ species = "") ∨
      ∃ nickname species, vc.plantNicknameTextField = some nickname ∧ nickname ≠ "" ∧
        vc.speciesTextField = some species ∧ species ≠ "" ∧
        vc.saveButtonTapped uid now disk c =
          ⟨(Context.save disk (c.insert (vc.plant uid nickname species now))).2,
            some (Context.save disk (c.insert (vc.plant uid nickname species now))).1,
            [.popViewController]⟩ := by
  rw [saveButtonTapped]
  cases hn : vc.plantNicknameTextField with
  | none => exact Or.inl ⟨rfl, fun _ _ h => by cases h⟩
  | some nickname =>
      dsimp only
      split
      next hne =>
        refine Or.inl ⟨rfl, fun _ _ h _ => ?_⟩
        cases h
        exact Or.inl (by simpa using hne)
      next hne =>
        cases hs : vc.speciesTextField with
        | none => exact Or.inl ⟨rfl, fun _ _ _ h => by cases h⟩
        | some species =>
            dsimp only
            split
            next hse =>
              refine Or.inl ⟨rfl, fun _ _ _ h => ?_⟩
              cases h
              exact Or.inr (by simpa using hse)
            next hse =>
              refine Or.inr ⟨nickname, species, rfl, by simpa using hne, rfl, by simpa using hse,
                ?_⟩
              -- the two save sites differ in the image they were given
              cases hi : vc.plantImage with
              | none => simp [plant, Plant.init, hi]
              | some image => simp [plant, Plant.init, hi]

end AddPlantViewController

namespace EditViewController

theorem updateButtonTapped_no_text {vc : EditViewController} {p : Plant} {now : Date} {disk : Disk}
    {c : Context} (h : vc.nicknameTextField = none ∨ vc.speciesTextField = none) :
    vc.updateButtonTapped (some p) now disk c = some ⟨c, none, []⟩ := by
  unfold updateButtonTapped
  rcases h with h | h
  · rw [h]
    cases vc.speciesTextField with
    | none => rfl
    | some _ => rfl
  · rw [h]

/-- The update lands on the plant of the screen when that plant alone has its
timestamp.  Otherwise nothing is changed or saved.  The screen closes and
`plantUpdated` is posted either way. -/
theorem updateButtonTapped_eq {vc : EditViewController} {k : Nat} {p : Plant} {now t : Date}
    {nickname species : String} {c : Context} (disk : Disk) (hp : (k, p) ∈ c.objects.list)
    (ht : p.timestamp = some t) (hn : vc.nicknameTextField = some nickname)
    (hs : vc.speciesTextField = some species) :
    vc.updateButtonTapped (some p) now disk c =
      some (if disk.fetches = true ∧ c.withTimestamp t = [(k, p)] then
        ⟨(Context.save disk (c.modify k (vc.edited nickname species now))).2,
          some (Context.save disk (c.modify k (vc.edited nickname species now))).1, segueAndUpdate⟩
      else ⟨c, none, segueAndUpdate⟩) := by
  have hmem : (k, p) ∈ c.withTimestamp t := mem_withTimestamp.mpr ⟨hp, ht⟩
  have hboth : vc.updateButtonTapped (some p) now disk c =
      (CoreDataStack.updatePlant p.id vc.segControlString (vc.newPlantImage.bind UIImage.pngData)
        nickname species now p disk c).map fun updated =>
          ⟨updated.2, updated.1, segueAndUpdate⟩ := by
    rw [updateButtonTapped, hn, hs]
    cases vc.newPlantImage with
    | none => rfl
    | some _ => rfl
  have hedit : c.modify k (Plant.edited p.id vc.segControlString
      (vc.newPlantImage.bind UIImage.pngData) nickname species now) =
      c.modify k (vc.edited nickname species now) := by
    refine WorkingCopy.modify_congr fun q hq => ?_
    rw [WorkingCopy.Rows.eq_of_mem hq hp]
    rfl
  rw [hboth, CoreDataStack.updatePlant_eq ht, Option.map_some, Context.fetch]
  cases disk.fetches with
  | false => simp
  | true =>
      cases hf : c.withTimestamp t with
      | nil => rw [hf] at hmem; cases hmem
      | cons dict rest =>
          cases rest with
          | cons _ _ => simp
          | nil =>
              rw [hf, List.mem_singleton] at hmem
              subst hmem
              simp [hedit]

theorem updateButtonTapped_trap {vc : EditViewController} {p : Plant} {now : Date}
    {nickname species : String} {disk : Disk} {c : Context} (ht : p.timestamp = none)
    (hn : vc.nicknameTextField = some nickname) (hs : vc.speciesTextField = some species) :
    vc.updateButtonTapped (some p) now disk c = none := by
  unfold updateButtonTapped
  rw [hn, hs]
  cases vc.newPlantImage with
  | none => simp [CoreDataStack.updatePlant_trap ht]
  | some _ => simp [CoreDataStack.updatePlant_trap ht]

theorem updateButtonTapped_cases {vc : EditViewController} {k : Nat} {p : Plant} {now : Date}
    {disk : Disk} {c : Context} {h : Handled} (hp : (k, p) ∈ c.objects.list)
    (hh : vc.updateButtonTapped (some p) now disk c = some h) :
    (h.context = c ∧ h.save = none ∧
        ∀ nickname species t, vc.nicknameTextField = some nickname →
          vc.speciesTextField = some species → p.timestamp = some t →
          ¬ (disk.fetches = true ∧ c.withTimestamp t = [(k, p)])) ∨
      ∃ nickname species t, vc.nicknameTextField = some nickname ∧
        vc.speciesTextField = some species ∧ p.timestamp = some t ∧ disk.fetches = true ∧
        c.withTimestamp t = [(k, p)] ∧
        h = ⟨(Context.save disk (c.modify k (vc.edited nickname species now))).2,
          some (Context.save disk (c.modify k (vc.edited nickname species now))).1,
          segueAndUpdate⟩ := by
  cases hn : vc.nicknameTextField with
  | none =>
      rw [updateButtonTapped_no_text (Or.inl hn)] at hh
      cases hh
      exact Or.inl ⟨rfl, rfl, fun _ _ _ h => by cases h⟩
  | some nickname =>
      cases hs : vc.speciesTextField with
      | none =>
          rw [updateButtonTapped_no_text (Or.inr hs)] at hh
          cases hh
          exact Or.inl ⟨rfl, rfl, fun _ _ _ _ h => by cases h⟩
      | some species =>
          cases ht : p.timestamp with
          | none =>
              rw [updateButtonTapped_trap ht hn hs] at hh
              cases hh
          | some t =>
              rw [updateButtonTapped_eq disk hp ht hn hs] at hh
              cases hh
              split
              next hu => exact Or.inr ⟨nickname, species, t, rfl, rfl, rfl, hu.1, hu.2, rfl⟩
              next hu =>
                refine Or.inl ⟨rfl, rfl, fun _ _ _ _ _ h => ?_⟩
                cases h
                exact hu

end EditViewController

theorem PlantTableViewController.commit_eq (k : Nat) (disk : Disk) (c : Context) (a : Action)
    (ha : a.isDelete = true) :
    PlantTableViewController.commit .delete k disk c =
      ⟨a.settle (Context.save disk (c.delete k)), some (Context.save disk (c.delete k)).1,
        [.reloadData, .reloadData]⟩ := by
  rw [PlantTableViewController.commit, Action.settle]
  rw [if_pos rfl, ha, Bool.true_and]
  dsimp only
  split
  next => rfl
  next => rfl

/-- What an action does: nothing where there is no change it can make, or one
change that it saves. -/
theorem handle_cases {uid : Option Uid} {shown : Uid} {now : Date} {disk : Disk} {c : Context}
    {a : Action} {h : Handled} (hh : a.handle uid shown now disk c = some h) :
    (h.context = c ∧ h.save = none ∧ ∀ c', ¬ Change uid shown now disk c a c') ∨
      ∃ c', Change uid shown now disk c a c' ∧ h.save = some (Context.save disk c').1 ∧
        h.context = a.settle (Context.save disk c') := by
  cases a with
  | add vc =>
      cases hh
      obtain ⟨h, hno⟩ | ⟨nickname, species, hn, hne, hs, hse, h⟩ :=
        vc.saveButtonTapped_cases uid now disk c
      · rw [h]
        refine Or.inl ⟨rfl, rfl, fun c' hc => ?_⟩
        cases hc with
        | add hn hne hs hse => exact (hno _ _ hn hs).elim hne hse
      · rw [h]
        exact Or.inr ⟨_, .add hn hne hs hse, rfl, rfl⟩
  | edit i vc =>
      rw [Action.handle] at hh
      cases hr : (c.fetchedObjects shown)[i]? with
      | none =>
          rw [hr] at hh
          cases hh
          refine Or.inl ⟨rfl, rfl, fun c' hc => ?_⟩
          cases hc with
          | edit hr' => rw [hr] at hr'; cases hr'
      | some row =>
          obtain ⟨k, p⟩ := row
          rw [hr] at hh
          obtain ⟨h, hnone, hno⟩ | ⟨nickname, species, t, hn, hs, ht, hf, hu, rfl⟩ :=
            EditViewController.updateButtonTapped_cases (mem_of_row hr).1 hh
          · refine Or.inl ⟨h, hnone, fun c' hc => ?_⟩
            cases hc with
            | edit hr' hn hs ht hf hu =>
                rw [hr, Option.some.injEq] at hr'
                cases hr'
                exact hno _ _ _ hn hs ht ⟨hf, hu⟩
          · exact Or.inr ⟨_, .edit hr hn hs ht hf hu, rfl, rfl⟩
  | delete i =>
      rw [Action.handle] at hh
      cases hr : (c.fetchedObjects shown)[i]? with
      | none =>
          rw [hr] at hh
          cases hh
          refine Or.inl ⟨rfl, rfl, fun c' hc => ?_⟩
          cases hc with
          | delete hr' => rw [hr] at hr'; cases hr'
      | some row =>
          obtain ⟨k, p⟩ := row
          rw [hr] at hh
          cases hh
          rw [PlantTableViewController.commit_eq k disk c (.delete i) rfl]
          exact Or.inr ⟨_, .delete hr, rfl, rfl⟩

/-! ## What a change and its save keep -/

section
variable {uid : Option Uid} {shown : Uid} {now : Date} {disk : Disk} {c c' : Context} {a : Action}

theorem Change.store_eq (hc : Change uid shown now disk c a c') : c'.store = c.store := by
  cases hc with
  | add => rfl
  | edit => rfl
  | delete => rfl

/-- What holds of every plant shown, of a plant an add creates and of what an
update makes of its plant holds of every plant the change shows. -/
theorem Change.forall_objects {P : Plant → Prop} (hc : Change uid shown now disk c a c')
    (ho : ∀ o ∈ c.objects.list, P o.2)
    (hadd : ∀ vc nickname species, a = .add vc → nickname ≠ "" → species ≠ "" →
      P (vc.plant uid nickname species now))
    (hedit : ∀ i vc k p nickname species t, a = .edit i vc →
      (c.fetchedObjects shown)[i]? = some (k, p) → vc.nicknameTextField = some nickname →
      vc.speciesTextField = some species → p.timestamp = some t → disk.fetches = true →
      c.withTimestamp t = [(k, p)] → P (vc.edited nickname species now p)) :
    ∀ o ∈ c'.objects.list, P o.2 := by
  intro o hoc
  cases hc with
  | add hn hne hs hse =>
      rw [WorkingCopy.insert_objects, List.mem_append, List.mem_singleton] at hoc
      rcases hoc with hoc | rfl
      · exact ho o hoc
      · exact hadd _ _ _ rfl hne hse
  | edit hr hn hs ht hf hu =>
      obtain ⟨hoc, -⟩ | ⟨q, hq, rfl⟩ := WorkingCopy.Rows.mem_modify hoc
      · exact ho o hoc
      · rw [WorkingCopy.Rows.eq_of_mem hq (mem_of_row hr).1]
        exact hedit _ _ _ _ _ _ _ rfl hr hn hs ht hf hu
  | delete _ => exact ho o (List.mem_of_mem_filter hoc)

/-- The save went through, or it threw and a delete went back to the store. -/
theorem settle_cases (a : Action) (disk : Disk) (c' : Context) :
    ((Context.save disk c').1 = .saved ∧ a.settle (Context.save disk c') = c'.commit) ∨
      ((Context.save disk c').1.threw = true ∧
        a.settle (Context.save disk c') = if a.isDelete then c'.reset else c') := by
  rw [Action.settle, Context.save]
  obtain ⟨hs, -⟩ | ⟨r, hr, hs⟩ := WorkingCopy.save_cases Plant.validateForSave disk.saves c'
  · rw [hs]
    exact Or.inl ⟨rfl, by simp [WorkingCopy.SaveResult.threw]⟩
  · rw [hs]
    exact Or.inr ⟨hr, by rw [hr, Bool.and_true]⟩

/-- What holds of every plant shown and stored, and of every plant a change
shows, holds of every plant shown and stored after the action. -/
theorem handle_forall {P : Plant → Prop} {h : Handled}
    (hh : a.handle uid shown now disk c = some h) (ho : ∀ o ∈ c.objects.list, P o.2)
    (hs : ∀ o ∈ c.store.list, P o.2)
    (hc : ∀ c', Change uid shown now disk c a c' → ∀ o ∈ c'.objects.list, P o.2) :
    (∀ o ∈ h.context.objects.list, P o.2) ∧ ∀ o ∈ h.context.store.list, P o.2 := by
  obtain ⟨h, -⟩ | ⟨c', hch, -, h⟩ := handle_cases hh
  · rw [h]
    exact ⟨ho, hs⟩
  · have ho' := hc c' hch
    rw [← hch.store_eq] at hs
    obtain ⟨-, hset⟩ | ⟨-, hset⟩ := settle_cases a disk c'
    · rw [h, hset]
      exact ⟨ho', ho'⟩
    · rw [h, hset]
      cases a.isDelete with
      | true => exact ⟨hs, hs⟩
      | false => exact ⟨ho', hs⟩

theorem step_handle {tap : Tap} (hs : Garden.step c tap = some c') :
    ∃ h, tap.handle c = some h ∧ h.context = c' :=
  Option.map_eq_some_iff.mp hs

end

end WaterMyPlants
