import WaterMyPlants.Session.State

/-!
# The handlers of a session

What the login screen, the settings screen, the plant table and the scene
delegate do when they are tapped, loaded or launched, and what their completion
handlers do.  A tap that issues requests numbers them with the count of taps.
-/

namespace WaterMyPlants

/-! ## PlantFirebaseController -/

namespace PlantFirebaseController

/-- The name of the user in `UserDefaults` is asked for. -/
def getUsername (s : Session) : Session :=
  match s.defaults.uid with
  | none => s
  | some uid => s.request (.getUsername uid)

/-- `tap` is the tap of the save button that led here. -/
def updateUsername (tap : Nat) (username : String) (s : Session) : Session :=
  match s.currentUser with
  | none => s
  | some userID => s.request (.updateUsername tap userID username)

end PlantFirebaseController

/-! ## LoginViewController -/

namespace LoginViewController

/-- The alert for a field without a text. -/
def presentAlert (vc : Nat) (missingField : String) (s : Session) : Session :=
  s.present vc (.alert "Error" ("Please enter proper " ++ missingField))

/-- A text that is `nil` or empty stops the tap with an alert. -/
def loginSignUpButtonTapped (vc : Nat) (currentTitle emailTextField passwordTextField
    usernameTextField : Option String) (s : Session) : Session :=
  match emailTextField with
  | none => presentAlert vc "Email" s
  | some emailText =>
      if emailText.isEmpty then presentAlert vc "Email" s
      else
        match passwordTextField with
        | none => presentAlert vc "Password" s
        | some passwordText =>
            if passwordText.isEmpty then presentAlert vc "Password" s
            else if currentTitle = some "Sign Up" then
              match usernameTextField with
              | none => presentAlert vc "Username" s
              | some usernameText =>
                  if usernameText.isEmpty then presentAlert vc "Username" s
                  else s.request (.createUser s.taps vc emailText passwordText usernameText)
            else if currentTitle = some "Login" then
              s.request (.signIn s.taps vc emailText passwordText)
            else s

/-- The completion of `createUser` with a user. -/
def userCreated (tap vc : Nat) (uid : Uid) (authEmail : Option String) (usernameText : String)
    (s : Session) : Session :=
  match authEmail with
  | none => s
  | some authEmail => s.request (.updateProfile tap vc uid usernameText authEmail)

/-- The lines both completions end with: the keys are set and the table is
presented. -/
def showTable (vc : Nat) (uid : Uid) (s : Session) : Session :=
  { s with defaults := ⟨true, some uid⟩ }.present vc (.plants none none)

end LoginViewController

/-! ## PlantTableViewController -/

namespace PlantTableViewController

/-- The predicate of the lazy `fetchedResultsController`. -/
def fetchedResultsController (defaults : UserDefaults) : Option Uid := defaults.uid

/-- `viewDidLoad`, with the rows asked for. -/
def viewDidLoad (settings : Option SettingsViewController) (covered : List Screen) (s : Session) :
    Session :=
  PlantFirebaseController.getUsername
    { s with screens := .plants (some (fetchedResultsController s.defaults)) settings :: covered }

end PlantTableViewController

/-! ## SettingsViewController -/

namespace SettingsViewController

/-- `updateViews` of a settings screen that is opened. -/
def updateViews (s : Session) : SettingsViewController := ⟨s.taps, s.username⟩

/-- The completion of the `present` signs out, which may fail. -/
def logoutButtonTapped (s : Session) : Session :=
  { s with
    defaults := { s.defaults with isUserLoggedIn := false }
    screens := .login :: s.screens }.request .signOut

/-- The operation is put on the main queue. -/
def saveChangesButtonTapped (vc : SettingsViewController) (usernameTextField : Option String)
    (s : Session) : Session :=
  match usernameTextField with
  | none => s
  | some usernameText =>
      if usernameText = "" then s else s.request (.firebaseOp s.taps vc.view usernameText)

/-- The block of the operation. -/
def firebaseOp (tap view : Nat) (usernameText : String) (s : Session) : Session :=
  (PlantFirebaseController.updateUsername tap usernameText s).request (.successTimer tap view)

/-- The settings screen `view` is shown and nothing covers it. -/
def Uncovered (view : Nat) (s : Session) : Bool :=
  match s.screens with
  | .plants _ (some vc) :: _ => vc.view = view
  | _ => false

/-- The block that runs three seconds later. -/
def success (view : Nat) (s : Session) : Session :=
  let s := PlantFirebaseController.getUsername s
  { s with screens :=
      if Uncovered view s then .alert "Success" "Updated Profile" :: s.screens else s.screens }

end SettingsViewController

/-! ## SceneDelegate -/

/-- `scene(_:willConnectTo:options:)`: the table, or the initial controller of the
storyboard. -/
def SceneDelegate.scene (defaults : UserDefaults) : List Screen :=
  if defaults.isUserLoggedIn then [.plants none none] else [.login]

end WaterMyPlants
