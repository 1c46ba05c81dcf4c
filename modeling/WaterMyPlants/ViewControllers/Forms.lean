import WaterMyPlants.Session.State

/-!
# The login form and the settings form

Both forms have a control that says what their button does.  The login screen has a
segmented control for login and sign-up, and its button does what its title says.
`loginSegmentChanged` sets the title, shows the username field for a sign-up, and
toggles it for a login.  The save button of the settings screen is enabled while its
text field has more than three characters.

UIKit sends `valueChanged` only when the user picks another segment.
-/

namespace WaterMyPlants

/-! ## LoginViewController -/

/-- The outlets of the login screen.  Of the control and of the button it is the
selected segment and the current title. -/
structure LoginViewController where
  loginSignUpButton : Option String
  usernameLabelIsHidden : Bool
  loginSegmentedControl : Nat
  passwordTextField : Option String
  emailTextField : Option String
  usernameTextField : Option String
  usernameTextFieldIsHidden : Bool
deriving DecidableEq, Repr

/-- What the user enters on a login screen. -/
inductive LoginEntry where
  | email (text : String)
  | password (text : String)
  | username (text : String)
  | segment (i : Nat)
deriving DecidableEq, Repr

namespace LoginViewController

/-- The segments of `loginSegmentedControl` in `Main.storyboard`. -/
def segments : List String := ["Login", "Sign Up"]

/-- The screen as it stands in `Main.storyboard`. -/
def storyboard : LoginViewController where
  loginSignUpButton := some "Login"
  usernameLabelIsHidden := false
  loginSegmentedControl := 0
  passwordTextField := some ""
  emailTextField := some ""
  usernameTextField := some ""
  usernameTextFieldIsHidden := false

/-- A login screen starts with the login segment, without the username. -/
def updateViews (vc : LoginViewController) : LoginViewController :=
  if segments[0]? = some "Login" then
    { vc with
      usernameLabelIsHidden := true
      usernameTextFieldIsHidden := true
      usernameTextField := none }
  else if segments[1]? = some "Sign Up" then
    { vc with usernameTextFieldIsHidden := false, usernameLabelIsHidden := false }
  else vc

/-- A new login screen. -/
def viewDidLoad : LoginViewController := updateViews storyboard

/-- `valueChanged` of the control.  The login segment toggles what the other one sets. -/
def loginSegmentChanged (vc : LoginViewController) : LoginViewController :=
  if vc.loginSegmentedControl = 1 then
    { vc with
      usernameLabelIsHidden := false
      usernameTextFieldIsHidden := false
      loginSignUpButton := some "Sign Up" }
  else if vc.loginSegmentedControl = 0 then
    { vc with
      usernameLabelIsHidden := !vc.usernameLabelIsHidden
      usernameTextFieldIsHidden := !vc.usernameTextFieldIsHidden
      loginSignUpButton := some "Login" }
  else vc

/-- The user picks a segment, which is another one. -/
def select (vc : LoginViewController) (segment : Nat) : Option LoginViewController :=
  if segment < segments.length ∧ segment ≠ vc.loginSegmentedControl then
    some { vc with loginSegmentedControl := segment }.loginSegmentChanged
  else none

/-- A field that is hidden takes no text. -/
def enter (vc : LoginViewController) : LoginEntry → Option LoginViewController
  | .email text => some { vc with emailTextField := some text }
  | .password text => some { vc with passwordTextField := some text }
  | .username text =>
      if vc.usernameTextFieldIsHidden then none else some { vc with usernameTextField := some text }
  | .segment i => vc.select i

/-- The button is named after the selected segment, and the username is asked for
where that segment is the sign-up. -/
structure Agrees (vc : LoginViewController) : Prop where
  selected : vc.loginSegmentedControl < segments.length
  title : vc.loginSignUpButton = segments[vc.loginSegmentedControl]?
  label : vc.usernameLabelIsHidden = decide (vc.loginSegmentedControl = 0)
  field : vc.usernameTextFieldIsHidden = decide (vc.loginSegmentedControl = 0)

variable {vc vc' : LoginViewController} {segment : Nat}

theorem viewDidLoad_agrees : viewDidLoad.Agrees := ⟨by decide, rfl, rfl, rfl⟩

/-- The toggles are right, since a login that is picked was not picked before. -/
theorem Agrees.select (h : vc.Agrees) (hs : vc.select segment = some vc') : vc'.Agrees := by
  rw [LoginViewController.select, Option.ite_none_right_eq_some, Option.some.injEq] at hs
  obtain ⟨⟨hlt, hne⟩, rfl⟩ := hs
  have hsel := h.selected
  have hseg : segment = 0 ∨ segment = 1 := by
    simp only [segments, List.length_cons, List.length_nil] at hlt
    omega
  rcases hseg with rfl | rfl
  · have hone : vc.loginSegmentedControl = 1 := by
      simp only [segments, List.length_cons, List.length_nil] at hsel
      omega
    refine ⟨hlt, rfl, ?_, ?_⟩
    · simp [loginSegmentChanged, h.label, hone]
    · simp [loginSegmentChanged, h.field, hone]
  · exact ⟨hlt, rfl, rfl, rfl⟩

theorem Agrees.enter {entry : LoginEntry} (h : vc.Agrees) (he : vc.enter entry = some vc') :
    vc'.Agrees := by
  cases entry with
  | email text =>
      cases he
      exact ⟨h.selected, h.title, h.label, h.field⟩
  | password text =>
      cases he
      exact ⟨h.selected, h.title, h.label, h.field⟩
  | username text =>
      rw [LoginViewController.enter, Option.ite_none_left_eq_some] at he
      cases he.2
      exact ⟨h.selected, h.title, h.label, h.field⟩
  | segment i => exact h.select he

/-- The username field holds what it held, or what was entered in it. -/
theorem enter_username {entry : LoginEntry} (he : vc.enter entry = some vc') :
    vc'.usernameTextField = vc.usernameTextField ∨
      ∃ text, entry = .username text ∧ vc'.usernameTextField = some text := by
  cases entry with
  | email text =>
      cases he
      exact Or.inl rfl
  | password text =>
      cases he
      exact Or.inl rfl
  | username text =>
      rw [LoginViewController.enter, Option.ite_none_left_eq_some] at he
      cases he.2
      exact Or.inr ⟨text, rfl, rfl⟩
  | segment i =>
      rw [LoginViewController.enter, LoginViewController.select, Option.ite_none_right_eq_some,
        Option.some.injEq] at he
      obtain ⟨-, rfl⟩ := he
      refine Or.inl ?_
      rw [loginSegmentChanged]
      split
      next => rfl
      next =>
        split
        next => rfl
        next => rfl

/-- The button has one of the two titles its tap knows. -/
theorem Agrees.titles (h : vc.Agrees) :
    (vc.loginSegmentedControl = 0 ∧ vc.loginSignUpButton = some "Login" ∧
        vc.usernameTextFieldIsHidden = true) ∨
      (vc.loginSegmentedControl = 1 ∧ vc.loginSignUpButton = some "Sign Up" ∧
        vc.usernameTextFieldIsHidden = false) := by
  have hsel := h.selected
  rw [h.title, h.field]
  generalize vc.loginSegmentedControl = segment at hsel
  have hseg : segment = 0 ∨ segment = 1 := by
    simp only [segments, List.length_cons, List.length_nil] at hsel
    omega
  rcases hseg with rfl | rfl
  · exact Or.inl ⟨rfl, rfl, rfl⟩
  · exact Or.inr ⟨rfl, rfl, rfl⟩

end LoginViewController

/-! ## SettingsViewController -/

/-- The outlets of the settings screen. -/
structure SettingsForm where
  saveButtonIsEnabled : Bool
  usernameTextField : Option String
deriving DecidableEq, Repr

namespace SettingsForm

/-- `updateViews`, where `username` is the one `PlantFirebaseController` holds. -/
def updateViews (username : String) : SettingsForm where
  saveButtonIsEnabled := false
  usernameTextField := some username

/-- The delegate of the text field.  `count` counts the characters of a text. -/
def textFieldDidChangeSelection (count : String → Nat) (vc : SettingsForm) : SettingsForm :=
  match vc.usernameTextField with
  | none => vc
  | some textFieldText =>
      if count textFieldText > 3 then { vc with saveButtonIsEnabled := true }
      else { vc with saveButtonIsEnabled := false }

/-- A button that is enabled has a text of more than three characters to save. -/
def Guarded (count : String → Nat) (vc : SettingsForm) : Prop :=
  vc.saveButtonIsEnabled = true → ∃ text, vc.usernameTextField = some text ∧ 3 < count text

theorem updateViews_guarded (count : String → Nat) (username : String) :
    (updateViews username).Guarded count := by
  intro h
  cases h

/-- The delegate leaves the text alone. -/
theorem textFieldDidChangeSelection_text (count : String → Nat) (vc : SettingsForm) :
    (vc.textFieldDidChangeSelection count).usernameTextField = vc.usernameTextField := by
  rw [textFieldDidChangeSelection]
  split
  next => rfl
  next =>
    split
    next => rfl
    next => rfl

/-- The button is right after the delegate was told of a text, whatever it was before. -/
theorem textFieldDidChangeSelection_guarded {count : String → Nat} {vc : SettingsForm}
    (h : vc.usernameTextField = none → vc.Guarded count) :
    (vc.textFieldDidChangeSelection count).Guarded count := by
  rw [textFieldDidChangeSelection]
  split
  next htext => exact h htext
  next text htext =>
    intro henabled
    split at henabled
    next hlt => exact ⟨text, by rw [if_pos hlt]; exact htext, hlt⟩
    next => cases henabled

end SettingsForm

end WaterMyPlants
