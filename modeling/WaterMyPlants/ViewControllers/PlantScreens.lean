import WaterMyPlants.Notifications
import WaterMyPlants.ViewControllers.PlantTable

/-!
# The screens over the plant table

The navigation controller of the table holds the table, an add screen over it, or
the detail screen of a plant and over that its edit screen.  A segue hands on a
reference to the managed object, not a copy, so the handlers of these screens read
the plant as it is when they run.  Labels and fields are set once, when the screen is
loaded.

A context that is reset forgets its objects.  A reference to one that is gone reads
`nil` for every property.

Watering shows an alert over the detail screen.  Its button pops to the table.
-/

namespace WaterMyPlants

/-- The object behind a reference. -/
def Context.object (c : Context) (k : Nat) : Option Plant :=
  (c.objects.list.find? fun o => o.1 = k).map Prod.snd

theorem Context.mem_of_object {c : Context} {k : Nat} {p : Plant} (h : c.object k = some p) :
    (k, p) ∈ c.objects.list := by
  obtain ⟨⟨k', q⟩, hq, rfl⟩ := Option.map_eq_some_iff.mp h
  obtain rfl : k' = k := by simpa using List.find?_some hq
  exact List.mem_of_find?_eq_some hq

theorem Context.object_of_mem {c : Context} {k : Nat} {p : Plant} (h : (k, p) ∈ c.objects.list) :
    c.object k = some p := by
  have hsome : (c.objects.list.find? fun o => o.1 = k).isSome = true :=
    List.find?_isSome.mpr ⟨(k, p), h, by simp⟩
  obtain ⟨⟨k', q⟩, hq⟩ := Option.isSome_iff_exists.mp hsome
  obtain rfl : k' = k := by simpa using List.find?_some hq
  rw [Context.object, hq, Option.map_some,
    WorkingCopy.Rows.eq_of_mem (List.mem_of_find?_eq_some hq) h]

/-- What is read of an object that its context has forgotten. -/
def Plant.gone : Plant := ⟨none, none, none, none, none, none⟩

/-! ## PlantDetailViewController -/

/-- The class has no state. -/
structure LocalNotifications where
deriving DecidableEq, Repr

/-- The outlets and the properties of the detail screen. -/
structure PlantDetailViewController where
  h20Label : Option String
  speciesLabel : Option String
  plantImageView : Option UIImage
  nicknameLabel : Option String
  plant : Option Nat
  localNotifications : Option LocalNotifications
deriving DecidableEq, Repr

/-- `prepare(for:sender:)` of the table for the segue `PlantDetail`, from the row of the
object `selectedPlant` to the screen in `Main.storyboard`. -/
def PlantTableViewController.preparePlantDetail (selectedPlant : Nat) :
    PlantDetailViewController where
  h20Label := some "H2O Frequency"
  speciesLabel := some "Species"
  plantImageView := none
  nicknameLabel := some "Nickname"
  plant := some selectedPlant
  localNotifications := some ⟨⟩

namespace PlantDetailViewController

/-- `object` is what is behind a reference, and `none` a reference to nothing. -/
def updateViews (images : ImageLoader UIImage) (object : Nat → Option Plant)
    (vc : PlantDetailViewController) : Option PlantDetailViewController :=
  match vc.plant with
  | none => some vc
  | some plant =>
      (object plant).map fun plant =>
        match plant.frequency, plant.species, plant.nickname with
        | some frequency, some species, some nickname =>
            let vc := { vc with
              h20Label := some ("Frequency: " ++ frequency)
              speciesLabel := some ("Species: " ++ species)
              nicknameLabel := some ("Nickname: " ++ nickname) }
            match plant.image with
            | none => { vc with plantImageView := images.named "plant" }
            | some image => { vc with plantImageView := images.data image }
        | _, _, _ => vc

/-- The detail screen of an object, when it is shown. -/
def viewDidLoad (images : ImageLoader UIImage) (object : Nat → Option Plant)
    (selectedPlant : Nat) : Option PlantDetailViewController :=
  (PlantTableViewController.preparePlantDetail selectedPlant).updateViews images object

/-- The alert is `some none` where a guard returns.  `none` is a crash: a reference to
nothing, or a trigger with no delay. -/
def plantButtonTapped (object : Nat → Option Plant) (vc : PlantDetailViewController) :
    Option (Option Watering) :=
  match vc.plant with
  | none => some none
  | some plant =>
      match vc.localNotifications with
      | none => some none
      | some _ =>
          (object plant).bind fun plant =>
            match LocalNotifications.waterPlantNotification plant with
            | none => some none
            | some watering => if 0 < watering.timeInterval then some (some watering) else none

/-- The labels and the image are those of the plant. -/
structure ShowsPlant (images : ImageLoader UIImage) (p : Plant)
    (vc : PlantDetailViewController) : Prop where
  frequency : vc.h20Label = p.frequency.map ("Frequency: " ++ ·)
  species : vc.speciesLabel = p.species.map ("Species: " ++ ·)
  nickname : vc.nicknameLabel = p.nickname.map ("Nickname: " ++ ·)
  image : vc.plantImageView = (p.cell images).imageView

end PlantDetailViewController

/-! ## AddPlantViewController and EditViewController -/

/-- What the user enters on an add or an edit screen: a text, one of the three segments,
or what the image picker finishes with. -/
inductive Entry where
  | nickname (text : String)
  | species (text : String)
  | frequency (selectedSegmentIndex : Fin 3)
  | photo (editedImage : Option UIImage)
deriving DecidableEq, Repr

/-- An add screen with its image view. -/
structure AddScreen where
  vc : AddPlantViewController
  plantImageView : Option UIImage
deriving DecidableEq, Repr

namespace AddScreen

/-- The screen as it stands in `Main.storyboard`. -/
def viewDidLoad : AddScreen := ⟨⟨some "", some "", none, 0⟩, none⟩

/-- `imagePickerController(_:didFinishPickingMediaWithInfo:)`. -/
def imagePickerController (editedImage : Option UIImage) (screen : AddScreen) : AddScreen :=
  match editedImage with
  | none => screen
  | some userPickedImage =>
      { plantImageView := some userPickedImage
        vc := { screen.vc with plantImage := some userPickedImage } }

/-- The form after an entry. -/
def enter (screen : AddScreen) : Entry → AddScreen
  | .nickname text => { screen with vc := { screen.vc with plantNicknameTextField := some text } }
  | .species text => { screen with vc := { screen.vc with speciesTextField := some text } }
  | .frequency i => { screen with vc := { screen.vc with selectedSegmentIndex := i } }
  | .photo editedImage => screen.imagePickerController editedImage

end AddScreen

/-- An edit screen with its image view and its plant. -/
structure EditScreen where
  vc : EditViewController
  plantImageView : Option UIImage
  plant : Option Nat
deriving DecidableEq, Repr

/-- `prepare(for:sender:)` of the detail screen for the segue `EditPlant`, to the screen
in `Main.storyboard`. -/
def PlantDetailViewController.prepareEditPlant (vc : PlantDetailViewController) : EditScreen :=
  ⟨⟨some "", some "", none, 0⟩, none, vc.plant⟩

namespace EditScreen

/-- `object` is what is behind a reference, and `none` a reference to nothing. -/
def updateViews (images : ImageLoader UIImage) (object : Nat → Option Plant)
    (screen : EditScreen) : Option EditScreen :=
  match screen.plant with
  | none => some screen
  | some plant =>
      (object plant).map fun plant =>
        let screen := { screen with vc := { screen.vc with
          speciesTextField := plant.species
          nicknameTextField := plant.nickname } }
        match plant.image with
        | none => screen
        | some plantImage => { screen with plantImageView := images.data plantImage }

/-- `imagePickerController(_:didFinishPickingMediaWithInfo:)`. -/
def imagePickerController (editedImage : Option UIImage) (screen : EditScreen) : EditScreen :=
  match editedImage with
  | none => screen
  | some userPickedImage =>
      { screen with
        plantImageView := some userPickedImage
        vc := { screen.vc with newPlantImage := some userPickedImage } }

/-- The form after an entry. -/
def enter (screen : EditScreen) : Entry → EditScreen
  | .nickname text => { screen with vc := { screen.vc with nicknameTextField := some text } }
  | .species text => { screen with vc := { screen.vc with speciesTextField := some text } }
  | .frequency i => { screen with vc := { screen.vc with selectedSegmentIndex := i } }
  | .photo editedImage => screen.imagePickerController editedImage

/-- `updateButtonTapped`, on the plant as it is.  `none` is a trap. -/
def updateButtonTapped (screen : EditScreen) (object : Nat → Option Plant) (now : Date)
    (disk : Disk) (context : Context) : Option Handled :=
  match screen.plant with
  | none => screen.vc.updateButtonTapped none now disk context
  | some plant =>
      (object plant).bind fun plant =>
        screen.vc.updateButtonTapped (some plant) now disk context

@[simp] theorem enter_plant (screen : EditScreen) (entry : Entry) :
    (screen.enter entry).plant = screen.plant := by
  cases entry with
  | photo editedImage =>
      cases editedImage with
      | none => rfl
      | some _ => rfl
  | _ => rfl

end EditScreen

/-! ## The navigation controller -/

/-- The screens over the table, the one on top first. -/
inductive PlantScreens where
  | table
  | add (screen : AddScreen)
  | detail (vc : PlantDetailViewController)
  | alert (watering : Watering) (vc : PlantDetailViewController)
  | edit (screen : EditScreen) (vc : PlantDetailViewController)
deriving DecidableEq, Repr

namespace PlantScreens

/-- `popViewController`, which an alert does not keep from what it covers. -/
def popViewController : PlantScreens → PlantScreens
  | .edit _ vc => .detail vc
  | _ => .table

/-- What a handler did to the screen, as the navigation controller sees it. -/
def receive (screens : PlantScreens) : Effect → PlantScreens
  | .popViewController => screens.popViewController
  | .popToRootViewController => .table
  | .plantUpdated => screens
  | .reloadData => screens

/-- The back button, which a screen that is pushed has. -/
def back : PlantScreens → Option PlantScreens
  | .add _ => some .table
  | .detail _ => some .table
  | .edit _ vc => some (.detail vc)
  | _ => none

/-- The detail screen, on top or covered. -/
def detailScreen : PlantScreens → Option PlantDetailViewController
  | .detail vc => some vc
  | .alert _ vc => some vc
  | .edit _ vc => some vc
  | _ => none

end PlantScreens

/-! ## Screens of a plant that is there -/

section
variable {images : ImageLoader UIImage} {object : Nat → Option Plant} {k : Nat} {p : Plant}
  {vc : PlantDetailViewController}

/-- The detail screen of a plant with all its texts shows them. -/
theorem PlantDetailViewController.viewDidLoad_shows (images : ImageLoader UIImage)
    (hp : object k = some p) (hf : p.frequency.isSome = true) (hs : p.species.isSome = true)
    (hn : p.nickname.isSome = true) :
    ∃ vc, viewDidLoad images object k = some vc ∧ vc.ShowsPlant images p := by
  obtain ⟨frequency, hf⟩ := Option.isSome_iff_exists.mp hf
  obtain ⟨species, hs⟩ := Option.isSome_iff_exists.mp hs
  obtain ⟨nickname, hn⟩ := Option.isSome_iff_exists.mp hn
  simp only [viewDidLoad, PlantTableViewController.preparePlantDetail, updateViews, hp,
    Option.map_some, hf, hs, hn]
  refine ⟨_, rfl, ?_⟩
  cases hi : p.image with
  | none => exact ⟨by rw [hf]; rfl, by rw [hs]; rfl, by rw [hn]; rfl, by rw [Plant.cell, hi]⟩
  | some image => exact ⟨by rw [hf]; rfl, by rw [hs]; rfl, by rw [hn]; rfl, by rw [Plant.cell, hi]⟩

/-- A detail screen refers to the object of the row it was opened from. -/
theorem PlantDetailViewController.viewDidLoad_plant (h : viewDidLoad images object k = some vc) :
    vc.plant = some k ∧ vc.localNotifications = some ⟨⟩ ∧ ∃ p, object k = some p := by
  obtain ⟨plant, hobj, rfl⟩ := Option.map_eq_some_iff.mp h
  have hobj : object k = some plant := hobj
  dsimp only
  split
  next =>
    split
    next => exact ⟨rfl, rfl, plant, hobj⟩
    next => exact ⟨rfl, rfl, plant, hobj⟩
  next => exact ⟨rfl, rfl, plant, hobj⟩

/-- An update of a plant that is gone does nothing where it does not trap. -/
theorem EditScreen.updateButtonTapped_gone {screen : EditScreen} {now : Date} {disk : Disk}
    {c : Context} {handled : Handled} (hgone : ∀ k, object k = some .gone)
    (hs : screen.updateButtonTapped object now disk c = some handled) :
    handled = ⟨c, none, []⟩ := by
  rw [updateButtonTapped] at hs
  split at hs
  next =>
    cases hs
    rfl
  next plant _ =>
    rw [hgone plant, Option.bind_some, EditViewController.updateButtonTapped] at hs
    split at hs
    next =>
      -- `plant.timestamp!` traps
      split at hs
      next => cases hs
      next => cases hs
    next =>
      cases hs
      rfl

end

end WaterMyPlants
