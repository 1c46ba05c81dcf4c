import WaterMyPlants.Models.CoreDataStack

/-!
# The screens that change plants

A view controller is the values its handler reads: the texts of its fields, the
picked image and the selected segment.  A handler takes the clock reading of its
one `Date()` and what the disk does, and returns the context it leaves behind,
what came of its save if it made one, and what it did to the screen.

There are five save sites.  `saveButtonTapped` and `updatePlant` have two each,
with and without an image, and print an error.  The delete of the table has one
and resets the context on an error.
-/

namespace WaterMyPlants

/-- What a handler does to the screen. -/
inductive Effect where
  | popViewController
  | popToRootViewController
  | plantUpdated
  | reloadData
deriving DecidableEq, Repr

/-- What a handler leaves behind.  `save` is `none` where it made no save. -/
structure Handled where
  context : Context
  save : Option WorkingCopy.SaveResult
  effects : List Effect
deriving DecidableEq

/-! ## The frequency control -/

/-- The title of the selected segment. -/
def segmentTitle (segments : List String) (selectedSegmentIndex : Nat) : String :=
  match segments[selectedSegmentIndex]? with
  | none => "Often"
  | some title => title

theorem segmentTitle_mem {segments titles : List String} (hs : ∀ s ∈ segments, s ∈ titles)
    (ho : "Often" ∈ titles) (selectedSegmentIndex : Nat) :
    segmentTitle segments selectedSegmentIndex ∈ titles := by
  rw [segmentTitle]
  split
  next => exact ho
  next title ht => exact hs title (List.mem_of_getElem? ht)

/-! ## AddPlantViewController -/

/-- `UITextField.text` is optional. -/
structure AddPlantViewController where
  plantNicknameTextField : Option String
  speciesTextField : Option String
  plantImage : Option UIImage
  selectedSegmentIndex : Nat
deriving DecidableEq, Repr

namespace AddPlantViewController

/-- The segments of `frequencySegControl` in `Main.storyboard`. -/
def frequencySegControl : List String := ["Once a day", "Twice a day", "Thrice a day"]

/-- The title of the selected segment. -/
def segControlString (vc : AddPlantViewController) : String :=
  segmentTitle frequencySegControl vc.selectedSegmentIndex

/-- A text that is `nil` or empty stops the tap. -/
def saveButtonTapped (vc : AddPlantViewController) (uid : Option Uid) (now : Date) (disk : Disk)
    (context : Context) : Handled :=
  match vc.plantNicknameTextField with
  | none => ⟨context, none, []⟩
  | some plantNickname =>
      if plantNickname.isEmpty then ⟨context, none, []⟩
      else
        match vc.speciesTextField with
        | none => ⟨context, none, []⟩
        | some plantSpecies =>
            if plantSpecies.isEmpty then ⟨context, none, []⟩
            else
              match vc.plantImage with
              | none =>
                  let context := Plant.init (some vc.segControlString) uid none (some plantNickname)
                    (some plantSpecies) (some now) context
                  let saved := Context.save disk context
                  ⟨saved.2, some saved.1, [.popViewController]⟩
              | some plantImage =>
                  let context := Plant.init (some vc.segControlString) uid plantImage.pngData
                    (some plantNickname) (some plantSpecies) (some now) context
                  let saved := Context.save disk context
                  ⟨saved.2, some saved.1, [.popViewController]⟩

end AddPlantViewController

/-! ## EditViewController -/

/-- `newPlantImage` is `nil` until an image is picked. -/
structure EditViewController where
  nicknameTextField : Option String
  speciesTextField : Option String
  newPlantImage : Option UIImage
  selectedSegmentIndex : Nat
deriving DecidableEq, Repr

namespace EditViewController

/-- The segments of `frequencySegControl` in `Main.storyboard`. -/
def frequencySegControl : List String := ["Once a day", "Twice a day", "Thrice a day"]

/-- The title of the selected segment. -/
def segControlString (vc : EditViewController) : String :=
  segmentTitle frequencySegControl vc.selectedSegmentIndex

/-- The form is closed and the notification posted. -/
def segueAndUpdate : List Effect := [.popToRootViewController, .plantUpdated]

/-- `none` is a trap of `updatePlant`.  `plant` is the property of the controller,
set when the screen is opened. -/
def updateButtonTapped (vc : EditViewController) (plant : Option Plant) (now : Date) (disk : Disk)
    (context : Context) : Option Handled :=
  match plant with
  | none => some ⟨context, none, []⟩
  | some plant =>
      match vc.speciesTextField, vc.nicknameTextField with
      | some speciesText, some nicknameText =>
          match vc.newPlantImage with
          | some newPlantImage =>
              (CoreDataStack.updatePlant plant.id vc.segControlString newPlantImage.pngData
                nicknameText speciesText now plant disk context).map fun updated =>
                  ⟨updated.2, updated.1, segueAndUpdate⟩
          | none =>
              (CoreDataStack.updatePlant plant.id vc.segControlString none nicknameText speciesText
                now plant disk context).map fun updated => ⟨updated.2, updated.1, segueAndUpdate⟩
      | _, _ => some ⟨context, none, []⟩

end EditViewController

/-! ## PlantTableViewController -/

/-- `UITableViewCell.EditingStyle`. -/
inductive EditingStyle where
  | none
  | delete
  | insert
deriving DecidableEq, Repr

namespace PlantTableViewController

/-- `tableView(_:commit:forRowAt:)`, at the row of the object `plant`. -/
def commit (editingStyle : EditingStyle) (plant : Nat) (disk : Disk) (context : Context) :
    Handled :=
  if editingStyle = .delete then
    let context := context.delete plant
    let saved := Context.save disk context
    if saved.1.threw then ⟨saved.2.reset, some saved.1, [.reloadData, .reloadData]⟩
    else ⟨saved.2, some saved.1, [.reloadData, .reloadData]⟩
  else ⟨context, none, []⟩

end PlantTableViewController

end WaterMyPlants
