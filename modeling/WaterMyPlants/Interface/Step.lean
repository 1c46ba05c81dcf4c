import WaterMyPlants.App.Step
import WaterMyPlants.ViewControllers.Forms
import WaterMyPlants.ViewControllers.PlantScreens

/-!
# The interface

The app with what its forms hold and the screens over its plant table.  A tap takes
its arguments from the screen in front: the texts of the fields, the plant a detail
screen was opened for, the title of the button.

`observe` is the event of the app that a tap comes to, and `none` where the tap only
changes a screen.  `Interface.app_run` (in the next file) is the result about it.

A login screen, a settings screen or a plant table that comes to the front is a new
one.  The screens under a login screen never come back, and what they held is dropped
here.

A delete whose save throws resets the context, and the app never makes the fetched
results controller of the table fetch again.  From then on its rows are objects that
are gone (`Interface.gone`), until another table is loaded.
-/

namespace WaterMyPlants

open Transition

/-- A request to the notification center, with the watering it is for. -/
structure UNNotificationRequest where
  identifier : String
  watering : Watering
deriving DecidableEq, Repr

/-- `UNUserNotificationCenter.add(_:)`.  A request replaces the one with its identifier. -/
def UNUserNotificationCenter.add (request : UNNotificationRequest)
    (requests : List UNNotificationRequest) : List UNNotificationRequest :=
  (requests.filter fun r => r.identifier ≠ request.identifier) ++ [request]

/-- The app with its forms and its screens. -/
structure Interface where
  app : App
  /-- The login screen in front. -/
  login : LoginViewController
  /-- The settings screen in front. -/
  settings : SettingsForm
  /-- The screens over the table in front. -/
  plants : PlantScreens
  /-- The rows of the table in front, where its objects are gone. -/
  gone : Option (List Nat)
  /-- The requests handed over, delivered or not. -/
  notificationCenter : List UNNotificationRequest
deriving DecidableEq

/-- A tap or an entry of the user, or an event that comes from elsewhere. -/
inductive InterfaceEvent where
  /-- An event of the session that takes nothing from a form. -/
  | session (e : Event)
  | loginEntered (entry : LoginEntry)
  | loginSignUpButtonTapped
  | settingsTyped (text : String)
  /-- The selection in the text field of the settings changes and its text does not, as
  when the field is tapped. -/
  | settingsSelected
  | saveChangesButtonTapped
  | addTapped
  | rowSelected (indexPath : Nat)
  | rowDeleted (indexPath : Nat) (disk : Disk)
  | entered (entry : Entry)
  | saveButtonTapped (now : Date) (disk : Disk)
  | editTapped
  | updateButtonTapped (now : Date) (disk : Disk)
  | plantButtonTapped (uuid : String)
  | okTapped
  | backTapped
deriving DecidableEq, Repr

/-- The event reads a form. -/
def Event.readsForm : Event → Bool
  | .loginSignUpButtonTapped .. | .saveChangesButtonTapped _ => true
  | _ => false

namespace Interface

/-- The first launch. -/
def launch (accounts : List Account) (database : Database) : Interface where
  app := .launch accounts database
  login := .viewDidLoad
  settings := .updateViews ""
  plants := .table
  gone := none
  notificationCenter := []

/-- The event on the login button, with the texts of the form. -/
def loginEvent (s : Interface) : Event :=
  .loginSignUpButtonTapped s.login.loginSignUpButton s.login.emailTextField
    s.login.passwordTextField s.login.usernameTextField

/-- The rows of the table in front. -/
def rows (s : Interface) : List (Nat × Plant) :=
  match s.app.plants, s.gone with
  | some (some shown), none => s.app.context.fetchedObjects shown
  | some (some _), some objects => objects.map fun k => (k, .gone)
  | _, _ => []

/-- What is behind a reference that the table has handed on. -/
def object (s : Interface) (k : Nat) : Option Plant :=
  match s.gone with
  | some _ => some .gone
  | none => s.app.context.object k

/-- The row of an object. -/
def indexPath (s : Interface) (plant : Option Nat) : Nat :=
  s.rows.findIdx fun o => some o.1 = plant

/-- A segue of the table may start. -/
def atTable (s : Interface) : Bool :=
  match s.plants with
  | .table => true
  | _ => false

/-- The interface after an event of the session.  The screen that the event brings to
the front is a new one. -/
def opened (s : Interface) (e : Event) (app : App) : Interface :=
  match e with
  | .settingsShown => { s with app := app, settings := .updateViews s.app.session.username }
  | .logoutButtonTapped => { s with app := app, login := .viewDidLoad }
  | .tableLoaded => { s with app := app, plants := .table, gone := none }
  | .launched => { s with app := app, login := .viewDidLoad, plants := .table, gone := none }
  | _ => { s with app := app }

/-- The app takes an event of the session, if it can. -/
def follow (s : Interface) (e : Event) : Option Interface :=
  (App.step s.app (.session e)).map (s.opened e)

/-- What a handler left behind, in the context and on the screen. -/
def leave (s : Interface) (handled : Handled) : Interface :=
  { s with
    app := { s.app with context := handled.context }
    plants := handled.effects.foldl PlantScreens.receive s.plants }

/-- What a delete left behind.  Where its save threw, the controller has been told of the
delete before, and what it keeps are the other objects, which are gone. -/
def deleted (s : Interface) (indexPath : Nat) (handled : Handled) : Interface :=
  { s.leave handled with
    gone :=
      if handled.save.any WorkingCopy.SaveResult.threw then
        some ((s.rows.map Prod.fst).eraseIdx indexPath)
      else none }

/-- An event on the table in front and the screens over it.  `captured` is the uid in
the predicate of the table. -/
def onPlants (images : ImageLoader UIImage) (captured : Option Uid) (s : Interface) :
    InterfaceEvent → Option Interface
  | .addTapped =>
      match s.plants with
      | .table => some { s with plants := .add .viewDidLoad }
      | _ => none
  | .rowSelected indexPath =>
      match s.plants with
      | .table =>
          s.rows[indexPath]?.bind fun row =>
            (PlantDetailViewController.viewDidLoad images s.object row.1).map fun vc =>
              { s with plants := .detail vc }
      | _ => none
  | .rowDeleted indexPath disk =>
      match s.plants, s.gone with
      | .table, none =>
          ((Action.delete indexPath).handleOn s.app.session.defaults.uid captured 0 disk
            s.app.context).map (s.deleted indexPath)
      -- a context deletes none but its own objects
      | _, _ => none
  | .entered entry =>
      match s.plants with
      | .add screen => some { s with plants := .add (screen.enter entry) }
      | .edit screen vc => some { s with plants := .edit (screen.enter entry) vc }
      | _ => none
  | .saveButtonTapped now disk =>
      match s.plants with
      | .add screen =>
          some (s.leave
            (screen.vc.saveButtonTapped s.app.session.defaults.uid now disk s.app.context))
      | _ => none
  | .editTapped =>
      match s.plants with
      | .detail vc =>
          (vc.prepareEditPlant.updateViews images s.object).map fun screen =>
            { s with plants := .edit screen vc }
      | _ => none
  | .updateButtonTapped now disk =>
      match s.plants with
      | .edit screen _ => (screen.updateButtonTapped s.object now disk s.app.context).map s.leave
      | _ => none
  | .plantButtonTapped uuid =>
      match s.plants with
      | .detail vc =>
          (vc.plantButtonTapped s.object).map fun alert =>
            match alert with
            | none => s
            | some watering =>
                { s with
                  plants := .alert watering vc
                  notificationCenter :=
                    UNUserNotificationCenter.add ⟨uuid, watering⟩ s.notificationCenter }
      | _ => none
  | .okTapped =>
      match s.plants with
      | .alert _ _ => some { s with plants := .table }
      | _ => none
  | .backTapped => s.plants.back.map fun plants => { s with plants := plants }
  | _ => none

/-- `count` counts the characters of a text. -/
def step (images : ImageLoader UIImage) (count : String → Nat) :
    Machine Interface InterfaceEvent := fun s e =>
  match e with
  | .session e =>
      if e.readsForm || (e = .settingsShown && !s.atTable) then none else s.follow e
  | .loginEntered entry =>
      match s.app.session.screens with
      | .login :: _ => (s.login.enter entry).map fun login => { s with login := login }
      | _ => none
  | .loginSignUpButtonTapped => s.follow s.loginEvent
  | .settingsTyped text =>
      match s.app.session.screens with
      | .plants _ (some _) :: _ =>
          let settings := { s.settings with usernameTextField := some text }
          some { s with settings := settings.textFieldDidChangeSelection count }
      | _ => none
  | .settingsSelected =>
      match s.app.session.screens with
      | .plants _ (some _) :: _ =>
          some { s with settings := s.settings.textFieldDidChangeSelection count }
      | _ => none
  | .saveChangesButtonTapped =>
      if s.settings.saveButtonIsEnabled then
        s.follow (.saveChangesButtonTapped s.settings.usernameTextField)
      else none
  | e => s.app.plants.bind fun captured => s.onPlants images captured e

/-- The event of the app that an event of the interface comes to.  On a plant that is
gone it comes to none. -/
def observe (s : Interface) : InterfaceEvent → Option AppEvent
  | .session e => some (.session e)
  | .loginSignUpButtonTapped => some (.session s.loginEvent)
  | .saveChangesButtonTapped =>
      some (.session (.saveChangesButtonTapped s.settings.usernameTextField))
  | .rowDeleted indexPath disk => some (.garden (.delete indexPath) 0 disk)
  | .saveButtonTapped now disk =>
      match s.plants with
      | .add screen => some (.garden (.add screen.vc) now disk)
      | _ => none
  | .updateButtonTapped now disk =>
      match s.plants, s.gone with
      | .edit screen _, none => some (.garden (.edit (s.indexPath screen.plant) screen.vc) now disk)
      | _, _ => none
  | .plantButtonTapped _ =>
      match s.plants, s.gone with
      | .detail vc, none => some (.water (s.indexPath vc.plant))
      | _, _ => none
  | _ => none

/-! ## What an event does -/

/-- Everything an event can do to the interface. -/
inductive Outcome (images : ImageLoader UIImage) (count : String → Nat) (s : Interface) :
    InterfaceEvent → Interface → Prop where
  | session {e : Event} {app : App} :
      e.readsForm = false → (e = .settingsShown → s.plants = .table) →
      App.step s.app (.session e) = some app →
      Outcome images count s (.session e) (s.opened e app)
  | loginEntered {entry : LoginEntry} {login : LoginViewController} {covered : List Screen} :
      s.app.session.screens = .login :: covered → s.login.enter entry = some login →
      Outcome images count s (.loginEntered entry) { s with login := login }
  | loginTapped {app : App} :
      App.step s.app (.session s.loginEvent) = some app →
      Outcome images count s .loginSignUpButtonTapped { s with app := app }
  | settingsTyped {text : String} {frc : Option (Option Uid)} {vc : SettingsViewController}
      {covered : List Screen} :
      s.app.session.screens = .plants frc (some vc) :: covered →
      Outcome images count s (.settingsTyped text)
        { s with settings :=
            SettingsForm.textFieldDidChangeSelection count ⟨s.settings.saveButtonIsEnabled, text⟩ }
  | settingsSelected {frc : Option (Option Uid)} {vc : SettingsViewController}
      {covered : List Screen} :
      s.app.session.screens = .plants frc (some vc) :: covered →
      Outcome images count s .settingsSelected
        { s with settings := s.settings.textFieldDidChangeSelection count }
  | settingsSaved {app : App} :
      s.settings.saveButtonIsEnabled = true →
      App.step s.app (.session (.saveChangesButtonTapped s.settings.usernameTextField)) = some app →
      Outcome images count s .saveChangesButtonTapped { s with app := app }
  | added {captured : Option Uid} :
      s.app.plants = some captured → s.plants = .table →
      Outcome images count s .addTapped { s with plants := .add .viewDidLoad }
  | selected {captured : Option Uid} {indexPath : Nat} {row : Nat × Plant}
      {vc : PlantDetailViewController} :
      s.app.plants = some captured → s.plants = .table → s.rows[indexPath]? = some row →
      PlantDetailViewController.viewDidLoad images s.object row.1 = some vc →
      Outcome images count s (.rowSelected indexPath) { s with plants := .detail vc }
  | deleted {captured : Option Uid} {indexPath : Nat} {disk : Disk} {handled : Handled} :
      s.app.plants = some captured → s.plants = .table → s.gone = none →
      (Action.delete indexPath).handleOn s.app.session.defaults.uid captured 0 disk s.app.context =
        some handled →
      Outcome images count s (.rowDeleted indexPath disk) (s.deleted indexPath handled)
  | addEntered {captured : Option Uid} {entry : Entry} {screen : AddScreen} :
      s.app.plants = some captured → s.plants = .add screen →
      Outcome images count s (.entered entry) { s with plants := .add (screen.enter entry) }
  | editEntered {captured : Option Uid} {entry : Entry} {screen : EditScreen}
      {vc : PlantDetailViewController} :
      s.app.plants = some captured → s.plants = .edit screen vc →
      Outcome images count s (.entered entry) { s with plants := .edit (screen.enter entry) vc }
  | saved {captured : Option Uid} {screen : AddScreen} {now : Date} {disk : Disk} :
      s.app.plants = some captured → s.plants = .add screen →
      Outcome images count s (.saveButtonTapped now disk)
        (s.leave (screen.vc.saveButtonTapped s.app.session.defaults.uid now disk s.app.context))
  | edited {captured : Option Uid} {screen : EditScreen} {vc : PlantDetailViewController} :
      s.app.plants = some captured → s.plants = .detail vc →
      vc.prepareEditPlant.updateViews images s.object = some screen →
      Outcome images count s .editTapped { s with plants := .edit screen vc }
  | updated {captured : Option Uid} {screen : EditScreen} {vc : PlantDetailViewController}
      {now : Date} {disk : Disk} {handled : Handled} :
      s.app.plants = some captured → s.plants = .edit screen vc →
      screen.updateButtonTapped s.object now disk s.app.context = some handled →
      Outcome images count s (.updateButtonTapped now disk) (s.leave handled)
  | notWatered {captured : Option Uid} {vc : PlantDetailViewController} {uuid : String} :
      s.app.plants = some captured → s.plants = .detail vc →
      vc.plantButtonTapped s.object = some none →
      Outcome images count s (.plantButtonTapped uuid) s
  | watered {captured : Option Uid} {vc : PlantDetailViewController} {uuid : String}
      {watering : Watering} :
      s.app.plants = some captured → s.plants = .detail vc →
      vc.plantButtonTapped s.object = some (some watering) →
      Outcome images count s (.plantButtonTapped uuid)
        { s with
          plants := .alert watering vc
          notificationCenter :=
            UNUserNotificationCenter.add ⟨uuid, watering⟩ s.notificationCenter }
  | dismissed {captured : Option Uid} {watering : Watering} {vc : PlantDetailViewController} :
      s.app.plants = some captured → s.plants = .alert watering vc →
      Outcome images count s .okTapped { s with plants := .table }
  | back {captured : Option Uid} {plants : PlantScreens} :
      s.app.plants = some captured → s.plants.back = some plants →
      Outcome images count s .backTapped { s with plants := plants }

variable {images : ImageLoader UIImage} {count : String → Nat} {s s' : Interface}
  {e : InterfaceEvent}

theorem rows_eq {shown : Uid} (hg : s.gone = none) (h : s.app.plants = some (some shown)) :
    s.rows = s.app.context.fetchedObjects shown := by
  simp only [rows, hg, h]

theorem rows_of_getElem? {indexPath : Nat} {row : Nat × Plant} (hg : s.gone = none)
    (h : s.rows[indexPath]? = some row) :
    ∃ shown, s.app.plants = some (some shown) ∧
      (s.app.context.fetchedObjects shown)[indexPath]? = some row := by
  simp only [rows, hg] at h
  split at h
  next shown hp _ => exact ⟨shown, hp, h⟩
  next hgone => cases hgone
  next => cases h

theorem object_eq (hg : s.gone = none) (k : Nat) : s.object k = s.app.context.object k := by
  rw [object, hg]

theorem object_gone {objects : List Nat} (hg : s.gone = some objects) (k : Nat) :
    s.object k = some .gone := by
  rw [object, hg]

theorem onPlants_outcome {captured : Option Uid} (hp : s.app.plants = some captured)
    (hs : s.onPlants images captured e = some s') : s.Outcome images count e s' := by
  cases e with
  | addTapped =>
      simp only [onPlants] at hs
      split at hs
      next ht =>
        cases hs
        exact .added hp ht
      next => cases hs
  | rowSelected indexPath =>
      simp only [onPlants] at hs
      split at hs
      next ht =>
        obtain ⟨row, hrow, hs⟩ := Option.bind_eq_some_iff.mp hs
        obtain ⟨vc, hvc, rfl⟩ := Option.map_eq_some_iff.mp hs
        exact .selected hp ht hrow hvc
      next => cases hs
  | rowDeleted indexPath disk =>
      simp only [onPlants] at hs
      split at hs
      next ht hg =>
        obtain ⟨handled, hh, rfl⟩ := Option.map_eq_some_iff.mp hs
        exact .deleted hp ht hg hh
      next => cases hs
  | entered entry =>
      simp only [onPlants] at hs
      split at hs
      next screen ht =>
        cases hs
        exact .addEntered hp ht
      next screen vc ht =>
        cases hs
        exact .editEntered hp ht
      next => cases hs
  | saveButtonTapped now disk =>
      simp only [onPlants] at hs
      split at hs
      next screen ht =>
        cases hs
        exact .saved hp ht
      next => cases hs
  | editTapped =>
      simp only [onPlants] at hs
      split at hs
      next vc ht =>
        obtain ⟨screen, hscreen, rfl⟩ := Option.map_eq_some_iff.mp hs
        exact .edited hp ht hscreen
      next => cases hs
  | updateButtonTapped now disk =>
      simp only [onPlants] at hs
      split at hs
      next screen vc ht =>
        obtain ⟨handled, hh, rfl⟩ := Option.map_eq_some_iff.mp hs
        exact .updated hp ht hh
      next => cases hs
  | plantButtonTapped uuid =>
      simp only [onPlants] at hs
      split at hs
      next vc ht =>
        obtain ⟨alert, halert, rfl⟩ := Option.map_eq_some_iff.mp hs
        cases alert with
        | none => exact .notWatered hp ht halert
        | some watering => exact .watered hp ht halert
      next => cases hs
  | okTapped =>
      simp only [onPlants] at hs
      split at hs
      next watering vc ht =>
        cases hs
        exact .dismissed hp ht
      next => cases hs
  | backTapped =>
      simp only [onPlants] at hs
      obtain ⟨plants, hback, rfl⟩ := Option.map_eq_some_iff.mp hs
      exact .back hp hback
  | _ => cases hs

theorem atTable_iff : s.atTable = true ↔ s.plants = .table := by
  rw [atTable]
  split
  next h => simp [h]
  next h =>
    constructor
    · intro hf
      cases hf
    · intro ht
      exact absurd ht h

theorem step_outcome (hs : Interface.step images count s e = some s') :
    s.Outcome images count e s' := by
  have hplants : (s.app.plants.bind fun captured => s.onPlants images captured e) = some s' →
      s.Outcome images count e s' := by
    intro hs
    obtain ⟨captured, hp, hs⟩ := Option.bind_eq_some_iff.mp hs
    exact onPlants_outcome hp hs
  cases e with
  | session e =>
      simp only [Interface.step] at hs
      split at hs
      next => cases hs
      next hform =>
        obtain ⟨app, hx, rfl⟩ := Option.map_eq_some_iff.mp hs
        rw [Bool.or_eq_true, not_or, Bool.not_eq_true] at hform
        refine .session hform.1 ?_ hx
        rintro rfl
        simpa [atTable_iff] using hform.2
  | loginEntered entry =>
      simp only [Interface.step] at hs
      split at hs
      next covered hscreens =>
        obtain ⟨login, hlogin, rfl⟩ := Option.map_eq_some_iff.mp hs
        exact .loginEntered hscreens hlogin
      next => cases hs
  | loginSignUpButtonTapped =>
      obtain ⟨app, hx, rfl⟩ := Option.map_eq_some_iff.mp hs
      exact .loginTapped hx
  | settingsTyped text =>
      simp only [Interface.step] at hs
      split at hs
      next frc vc covered hscreens =>
        cases hs
        exact .settingsTyped hscreens
      next => cases hs
  | settingsSelected =>
      simp only [Interface.step] at hs
      split at hs
      next frc vc covered hscreens =>
        cases hs
        exact .settingsSelected hscreens
      next => cases hs
  | saveChangesButtonTapped =>
      simp only [Interface.step] at hs
      split at hs
      next henabled =>
        obtain ⟨app, hx, rfl⟩ := Option.map_eq_some_iff.mp hs
        exact .settingsSaved henabled hx
      next => cases hs
  | _ => exact hplants hs

end Interface

end WaterMyPlants
