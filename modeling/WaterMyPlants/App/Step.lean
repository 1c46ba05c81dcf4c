import WaterMyPlants.Garden.WellFormed
import WaterMyPlants.Session.Step

/-!
# The app

The session and the garden as one machine.  Plants can be added, edited, deleted
and watered while a plant table that has loaded is the screen on top.  An add
reads the uid of `UserDefaults`, and the rows are those of the uid the table put
in its predicate.  A launch makes a new context over the store.

The rows are read off the context at each event.  Where a delete has reset the context
and the controller of the table holds objects that are gone, the interface says what
comes of a tap (`Interface.gone`).

A handler that would crash is `none`, and so is the step that calls it.
-/

namespace WaterMyPlants

open Transition

/-- The process, with the managed object context it shares. -/
structure App where
  session : Session
  context : Context
deriving DecidableEq

/-- An event of the session, an action on plants, or a tap on the water button of a row. -/
inductive AppEvent where
  | session (e : Event)
  | garden (action : Action) (now : Date) (disk : Disk)
  | water (indexPath : Nat)
deriving DecidableEq, Repr

/-- The handler of an action on a table with the uid `captured` in its predicate.
A table without one has no rows. -/
def Action.handleOn (uid captured : Option Uid) (now : Date) (disk : Disk) (context : Context)
    (a : Action) : Option Handled :=
  match captured with
  | some shown => a.handle uid shown now disk context
  | none =>
      match a with
      | .add vc => some (vc.saveButtonTapped uid now disk context)
      | _ => some ⟨context, none, []⟩

/-- `plantButtonTapped` of the plant at a row.  A time interval trigger crashes on
an interval that is not positive. -/
def waterTapped (captured : Option Uid) (context : Context) (indexPath : Nat) :
    Option (Option Watering) :=
  match captured.bind fun shown => (context.fetchedObjects shown)[indexPath]? with
  | none => some none
  | some row =>
      match LocalNotifications.waterPlantNotification row.2 with
      | none => some none
      | some watering => if 0 < watering.timeInterval then some (some watering) else none

namespace App

/-- The first launch. -/
def launch (accounts : List Account) (database : Database) : App :=
  ⟨.launch accounts database, .empty⟩

/-- The uid in the predicate of the table, while the table takes taps. -/
def plants (app : App) : Option (Option Uid) :=
  match app.session.screens with
  | .plants (some captured) none :: _ => some captured
  | _ => none

/-- One event.  An action or a watering needs a table that takes taps. -/
def step : Machine App AppEvent := fun app e =>
  match e with
  | .session e =>
      (Session.step app.session e).map fun session =>
        ⟨session, if e = .launched then app.context.reset else app.context⟩
  | .garden action now disk =>
      app.plants.bind fun captured =>
        (action.handleOn app.session.defaults.uid captured now disk app.context).map fun h =>
          { app with context := h.context }
  | .water indexPath =>
      app.plants.bind fun captured =>
        (waterTapped captured app.context indexPath).map fun _ => app

theorem table_of_plants {app : App} {captured : Option Uid} (h : app.plants = some captured) :
    app.session.table = some (some captured) := by
  simp only [plants] at h
  split at h
  next hs =>
    cases h
    rw [Session.table, hs, Screen.table]
  next => cases h

end App

end WaterMyPlants
