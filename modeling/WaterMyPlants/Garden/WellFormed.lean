import WaterMyPlants.Garden.Step
import WaterMyPlants.Notifications

/-!
# Well-formed plants

A plant is well-formed when no branch that gives up on a missing attribute can
be taken on it: every mandatory attribute of the data model has a value, it has
a timestamp, and the switch of `waterPlantNotification` knows its frequency.
An action that adds plants with an `id` keeps all plants well-formed.
-/

namespace WaterMyPlants

open Transition

/-- No crash branch can be taken on the plant. -/
structure Plant.WellFormed (p : Plant) : Prop where
  id : p.id.isSome = true
  nickname : p.nickname.isSome = true
  species : p.species.isSome = true
  timestamp : p.timestamp.isSome = true
  frequency : ∃ f ∈ LocalNotifications.frequencies, p.frequency = some f

/-- Every plant shown and every plant stored is well-formed. -/
def Context.WellFormed (c : Context) : Prop :=
  (∀ o ∈ c.objects.list, o.2.WellFormed) ∧ ∀ o ∈ c.store.list, o.2.WellFormed

theorem Plant.WellFormed.validateForSave {p : Plant} (h : p.WellFormed) :
    p.validateForSave = true := by
  obtain ⟨f, -, hf⟩ := h.frequency
  exact p.validateForSave_iff.mpr ⟨by rw [hf]; rfl, h.id, h.nickname, h.species⟩

theorem Plant.WellFormed.timeInterval_pos {p : Plant} (h : p.WellFormed) :
    0 < LocalNotifications.timeInterval p.frequency :=
  (LocalNotifications.timeInterval_pos_iff p.frequency).mpr h.frequency

/-- Watering a well-formed plant schedules a notification with a delay. -/
theorem Plant.WellFormed.watering_pos {p : Plant} (h : p.WellFormed) {w : Watering}
    (hw : LocalNotifications.waterPlantNotification p = some w) : 0 < w.timeInterval := by
  rw [LocalNotifications.waterPlantNotification] at hw
  split at hw
  next => cases hw
  next =>
    cases hw
    exact h.timeInterval_pos

/-- Every segment title is a frequency the switch knows, and so is the title
`segControlString` falls back on. -/
theorem AddPlantViewController.segControlString_mem (vc : AddPlantViewController) :
    vc.segControlString ∈ LocalNotifications.frequencies :=
  segmentTitle_mem (by decide) (by decide) vc.selectedSegmentIndex

theorem EditViewController.segControlString_mem (vc : EditViewController) :
    vc.segControlString ∈ LocalNotifications.frequencies :=
  segmentTitle_mem (by decide) (by decide) vc.selectedSegmentIndex

section
variable {uid : Option Uid} {shown : Uid} {now : Date} {disk : Disk} {c c' : Context} {a : Action}

theorem Change.wellFormed (hu : uid.isSome = true) (hw : ∀ o ∈ c.objects.list, o.2.WellFormed)
    (hc : Change uid shown now disk c a c') : ∀ o ∈ c'.objects.list, o.2.WellFormed := by
  refine hc.forall_objects hw ?_ ?_
  · intro vc nickname species _ _ _
    exact ⟨hu, rfl, rfl, rfl, _, vc.segControlString_mem, rfl⟩
  · intro i vc k p nickname species t _ hr _ _ _ _ _
    exact ⟨(hw _ (mem_of_row hr).1).id, rfl, rfl, rfl, _, vc.segControlString_mem, rfl⟩

/-- An action with a uid keeps every plant well-formed. -/
theorem handle_wellFormed {h : Handled} (hu : uid.isSome = true) (hw : c.WellFormed)
    (hh : a.handle uid shown now disk c = some h) : h.context.WellFormed :=
  handle_forall hh hw.1 hw.2 fun _ hc => hc.wellFormed hu hw.1

/-- On well-formed plants no handler traps. -/
theorem handle_isSome (hw : c.WellFormed) : (a.handle uid shown now disk c).isSome = true := by
  cases a with
  | add vc => rfl
  | edit i vc =>
      rw [Action.handle]
      cases hr : (c.fetchedObjects shown)[i]? with
      | none => rfl
      | some row =>
          obtain ⟨k, p⟩ := row
          have hp := (mem_of_row hr).1
          obtain ⟨t, ht⟩ := Option.isSome_iff_exists.mp (hw.1 _ hp).timestamp
          dsimp only
          cases hn : vc.nicknameTextField with
          | none => rw [EditViewController.updateButtonTapped_no_text (Or.inl hn)]; rfl
          | some nickname =>
              cases hs : vc.speciesTextField with
              | none => rw [EditViewController.updateButtonTapped_no_text (Or.inr hs)]; rfl
              | some species => rw [EditViewController.updateButtonTapped_eq disk hp ht hn hs]; rfl
  | delete i =>
      rw [Action.handle]
      cases (c.fetchedObjects shown)[i]? with
      | none => rfl
      | some row => rfl

/-- On well-formed plants validation rejects no save. -/
theorem save_valid (hw : ∀ o ∈ c.objects.list, o.2.WellFormed) :
    Context.save disk c = if disk.saves then (.saved, c.commit) else (.failed, c) :=
  WorkingCopy.save_of_valid fun o ho => (hw o ho).validateForSave

/-- On well-formed plants no action hands an invalid plant to its save. -/
theorem handle_save_valid {h : Handled} (hu : uid.isSome = true) (hw : c.WellFormed)
    (hh : a.handle uid shown now disk c = some h) : h.save ≠ some .invalid := by
  obtain ⟨-, hn, -⟩ | ⟨c', hc, hs, -⟩ := handle_cases hh
  · simp [hn]
  · rw [hs, save_valid (hc.wellFormed hu hw.1)]
    cases disk.saves with
    | true => simp
    | false => simp

end

theorem Context.wellFormed_empty : Context.WellFormed .empty :=
  ⟨fun _ ho => absurd ho List.not_mem_nil, fun _ ho => absurd ho List.not_mem_nil⟩

theorem step_wellFormed {tap : Tap} {c c' : Context} (hw : c.WellFormed)
    (hs : Garden.step c tap = some c') : c'.WellFormed := by
  obtain ⟨h, hh, rfl⟩ := step_handle hs
  exact handle_wellFormed rfl hw hh

/-- A run from an empty store keeps every plant well-formed. -/
theorem Garden.wellFormed {h : List (Context × Tap)} {c : Context}
    (hr : Run Garden.step .empty h c) : c.WellFormed :=
  hr.invariant Context.wellFormed_empty fun _ _ _ hw hs => step_wellFormed hw hs

end WaterMyPlants
