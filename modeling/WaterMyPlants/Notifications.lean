import WaterMyPlants.Models.Plant

/-!
# Watering

`waterPlantNotification` schedules a notification whose delay is read off the
frequency of the plant, and says so in an alert.  A frequency its switch does
not know leaves the delay at `0`, which a time interval trigger rejects.
-/

namespace WaterMyPlants

/-- What watering a plant schedules and shows.  `timeInterval` is the delay of
the trigger, in seconds. -/
structure Watering where
  title : String
  body : String
  badge : Nat
  timeInterval : Nat
  alertTitle : String
  alertMessage : String
deriving DecidableEq, Repr

namespace LocalNotifications

/-- The switch of `waterPlantNotification`. -/
def timeInterval : Option String → Nat
  | some "Once a day" => 86400
  | some "Twice a day" => 28800
  | some "Thrice a day" => 18000
  | some "Often" => 10
  | _ => 0

/-- The switch of `alertController`. -/
def timeIntervalString : Nat → String
  | 10 => "in 10 seconds"
  | 18000 => "in 4 hours"
  | 28800 => "in 8 hours"
  | 86400 => "by tomorrow"
  | _ => ""

/-- `waterPlantNotification(plant:navigationController:)`. -/
def waterPlantNotification (plant : Plant) : Option Watering :=
  match plant.nickname with
  | none => none
  | some plantName =>
      let timeInterval := timeInterval plant.frequency
      some {
        title := "Hey John"
        body := "Time to water " ++ plantName
        badge := 1
        timeInterval := timeInterval
        alertTitle := plantName ++ " has been watered!"
        alertMessage := "Good job! We'll notify you " ++ timeIntervalString timeInterval ++
          " to water them again." }

/-- The frequencies the switch knows. -/
def frequencies : List String := ["Once a day", "Twice a day", "Thrice a day", "Often"]

/-- The delay is positive exactly for a frequency the switch knows. -/
theorem timeInterval_pos_iff (frequency : Option String) :
    0 < timeInterval frequency ↔ ∃ f ∈ frequencies, frequency = some f := by
  constructor
  · intro hpos
    unfold timeInterval at hpos
    split at hpos
    next => exact ⟨_, by simp [frequencies], rfl⟩
    next => exact ⟨_, by simp [frequencies], rfl⟩
    next => exact ⟨_, by simp [frequencies], rfl⟩
    next => exact ⟨_, by simp [frequencies], rfl⟩
    next => exact absurd hpos (Nat.lt_irrefl 0)
  · intro h
    obtain ⟨f, hf, rfl⟩ := h
    simp only [frequencies, List.mem_cons, List.not_mem_nil, or_false] at hf
    rcases hf with rfl | rfl | rfl | rfl <;> decide

end LocalNotifications

end WaterMyPlants
