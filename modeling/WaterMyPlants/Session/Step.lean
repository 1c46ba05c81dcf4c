import WaterMyPlants.Library.Run
import WaterMyPlants.Session.Handlers

/-!
# The session as a machine

An event is a tap, a screen that loads, an answer of a service, a completion, or
a launch.  Completions come in any order: `completed i` runs the one of the
`i`-th pending request.

A launch ends the process before it.  The requests of that process and its
username cache are gone, and `UserDefaults`, the signed-in user and the services
are not.

`Effect` says once what an event can do to the session, and `step_effect` that it
does no more.  The results about runs are proved from these two.
-/

namespace WaterMyPlants

open Transition

/-- A tap, a screen that loads, an answer of a service, a completion, or a launch. -/
inductive Event where
  | loginSignUpButtonTapped (currentTitle emailTextField passwordTextField
      usernameTextField : Option String)
  | alertDismissed
  | tableLoaded
  | settingsShown
  | settingsClosed
  | saveChangesButtonTapped (usernameTextField : Option String)
  | logoutButtonTapped
  /-- Auth accepts a request for the user `uid` and signs that user in. -/
  | authenticated (i : Nat) (uid : Uid) (email : Option String)
  /-- The database commits a write. -/
  | committed (i : Nat)
  /-- The completion of a request runs. -/
  | completed (i : Nat) (reply : Reply)
  | launched
deriving DecidableEq, Repr

/-- What Auth makes of a request it accepts, with the accounts it then has.  An
email has one account, and an account is entered with its password. -/
def Request.authenticate (uid : Uid) (authEmail : Option String) (accounts : List Account) :
    Request → Option (Request × List Account)
  | .createUser tap vc email password username =>
      if ∀ a ∈ accounts, a.email ≠ email ∧ a.uid ≠ uid then
        some (.userCreated tap vc uid authEmail username, ⟨uid, email, password⟩ :: accounts)
      else none
  | .signIn tap vc email password =>
      if ⟨uid, email, password⟩ ∈ accounts then some (.signedIn tap vc uid, accounts) else none
  | _ => none

/-- What the database makes of a write, with the values it then has. -/
def Request.commit (database : Database) : Request → Option (Request × Database)
  | .updateProfile tap vc uid username email =>
      some (.profileUpdated tap vc uid,
        database.updateChildValues uid [("uid", uid), ("username", username), ("email", email)])
  | .updateUsername tap uid username =>
      some (.usernameUpdated tap, database.updateChildValues uid [("username", username)])
  | _ => none

/-- The completion of a request, in the state it is no longer pending in. -/
def Request.complete (s : Session) : Request → Reply → Option Session
  | .createUser _ vc _ _ _, .failure =>
      some (LoginViewController.presentAlert vc "Unable to create a user" s)
  | .userCreated tap vc uid email username, .success =>
      some (LoginViewController.userCreated tap vc uid email username s)
  | .updateProfile _ _ _ _ _, .failure => some s
  | .profileUpdated _ vc uid, .success => some (LoginViewController.showTable vc uid s)
  | .signIn _ vc _ _, .failure => some (LoginViewController.presentAlert vc "Error Signing In" s)
  | .signedIn _ vc uid, .success => some (LoginViewController.showTable vc uid s)
  | .signOut, .success => some { s with currentUser := none }
  | .signOut, .failure => some s
  | .getUsername uid, .value value =>
      if s.Reads uid value then some { s with username := value } else none
  | .getUsername _, .missing => some s
  | .getUsername _, .failure => some s
  | .firebaseOp tap view username, .success =>
      some (SettingsViewController.firebaseOp tap view username s)
  | .updateUsername _ _ _, .failure => some s
  | .usernameUpdated _, .success => some s
  | .successTimer _ view, .success => some (SettingsViewController.success view s)
  | _, _ => none

/-- One event.  An event that its screen or its request does not allow is
refused. -/
def Session.step : Machine Session Event := fun s e =>
  match e with
  | .loginSignUpButtonTapped title email password username =>
      match s.screens with
      | .login :: covered =>
          some { LoginViewController.loginSignUpButtonTapped covered.length title email password
            username s with taps := s.taps + 1 }
      | _ => none
  | .alertDismissed =>
      match s.screens with
      | .alert _ _ :: covered => some { s with screens := covered }
      | _ => none
  | .tableLoaded =>
      match s.screens with
      | .plants none settings :: covered =>
          some (PlantTableViewController.viewDidLoad settings covered s)
      | _ => none
  | .settingsShown =>
      match s.screens with
      | .plants (some frc) none :: covered =>
          some { s with
            screens := .plants (some frc) (some (SettingsViewController.updateViews s)) :: covered
            taps := s.taps + 1 }
      | _ => none
  | .settingsClosed =>
      match s.screens with
      | .plants frc (some _) :: covered => some { s with screens := .plants frc none :: covered }
      | _ => none
  | .saveChangesButtonTapped username =>
      match s.screens with
      | .plants _ (some vc) :: _ =>
          some { SettingsViewController.saveChangesButtonTapped vc username s with
            taps := s.taps + 1 }
      | _ => none
  | .logoutButtonTapped =>
      match s.screens with
      | .plants _ (some _) :: _ =>
          some { SettingsViewController.logoutButtonTapped s with taps := s.taps + 1 }
      | _ => none
  | .authenticated i uid email =>
      match s.pending[i]? with
      | none => none
      | some r =>
          (r.authenticate uid email s.accounts).map fun served =>
            { s with
              pending := s.pending.set i served.1
              accounts := served.2
              currentUser := some uid }
  | .committed i =>
      match s.pending[i]? with
      | none => none
      | some r =>
          (r.commit s.database).map fun served =>
            { s with pending := s.pending.set i served.1, database := served.2 }
  | .completed i reply =>
      match s.pending[i]? with
      | none => none
      | some r => r.complete (s.drop i) reply
  | .launched =>
      some { s with
        screens := SceneDelegate.scene s.defaults
        pending := []
        username := "" }

/-! ## What an event does -/

/-- A tap that sets nothing but the screen and asks for nothing but answers. -/
def Event.isTap : Event → Bool
  | .loginSignUpButtonTapped .. | .alertDismissed | .settingsShown | .settingsClosed
  | .saveChangesButtonTapped _ => true
  | _ => false

/-- Nobody is logged in or out and no value is learned.  The requests issued are
for no accepted user. -/
structure Session.Kept (s s' : Session) : Prop where
  defaults : s'.defaults = s.defaults
  currentUser : s'.currentUser = s.currentUser
  accounts : s'.accounts = s.accounts
  database : s'.database = s.database
  username : s'.username = s.username
  pending : ∃ rs, s'.pending = s.pending ++ rs ∧ ∀ r ∈ rs, r.accepted = none

/-- A request that ends without a login although Auth had accepted its user: a
sign-up with no email to write, or whose write failed. -/
def Request.GivesUp (uid : Uid) : Request → Reply → Prop
  | .userCreated _ _ uid' none _, .success => uid' = uid
  | .updateProfile _ _ uid' _ _, .failure => uid' = uid
  | _, _ => False

/-- Everything an event can do to a session. -/
inductive Session.Effect (s : Session) : Event → Session → Prop where
  | tap {e : Event} {s' : Session} :
      e.isTap = true → s.Kept s' → s'.table = s.table → Effect s e s'
  | loaded {s' : Session} :
      s.Kept s' → s.table = some none → s'.table = some (some s.defaults.uid) →
      Effect s .tableLoaded s'
  | loggedOut :
      Effect s .logoutButtonTapped
        { SettingsViewController.logoutButtonTapped s with taps := s.taps + 1 }
  | authenticated {i : Nat} {uid : Uid} {email : Option String} {r r' : Request}
      {accounts : List Account} :
      s.pending[i]? = some r → r.authenticate uid email s.accounts = some (r', accounts) →
      Effect s (.authenticated i uid email)
        { s with pending := s.pending.set i r', accounts := accounts, currentUser := some uid }
  | committed {i : Nat} {r r' : Request} {database : Database} :
      s.pending[i]? = some r → r.commit s.database = some (r', database) →
      Effect s (.committed i) { s with pending := s.pending.set i r', database := database }
  | done {i : Nat} {r : Request} {reply : Reply} {s' : Session} :
      s.pending[i]? = some r → r.accepted = none → (∀ value, reply ≠ .value value) →
      (s.drop i).Kept s' → s'.table = s.table → Effect s (.completed i reply) s'
  | created {i tap vc : Nat} {uid : Uid} {username email : String} :
      s.pending[i]? = some (.userCreated tap vc uid (some email) username) →
      Effect s (.completed i .success)
        ((s.drop i).request (.updateProfile tap vc uid username email))
  | gaveUp {i : Nat} {r : Request} {reply : Reply} {uid : Uid} :
      s.pending[i]? = some r → r.GivesUp uid reply → Effect s (.completed i reply) (s.drop i)
  | opened {i tap vc : Nat} {r : Request} {uid : Uid} :
      s.pending[i]? = some r → r.opens = some (tap, uid) →
      Effect s (.completed i .success) (LoginViewController.showTable vc uid (s.drop i))
  | signedOut {i : Nat} :
      s.pending[i]? = some .signOut →
      Effect s (.completed i .success) { s.drop i with currentUser := none }
  | named {i : Nat} {uid : Uid} {value : String} :
      s.pending[i]? = some (.getUsername uid) → s.Reads uid value →
      Effect s (.completed i (.value value)) { s.drop i with username := value }
  | launched :
      Effect s .launched
        { s with screens := SceneDelegate.scene s.defaults, pending := [], username := "" }

section
variable {s s' : Session}

/-! ### The handlers keep what they do not set -/

theorem Session.Kept.refl (s : Session) : s.Kept s :=
  ⟨rfl, rfl, rfl, rfl, rfl, [], by simp, by simp⟩

/-- A change of screens or of the count of taps is no change. -/
theorem Session.Kept.of_screens {screens : List Screen} {taps : Nat} (h : s.Kept s') :
    s.Kept { s' with screens := screens, taps := taps } :=
  ⟨h.defaults, h.currentUser, h.accounts, h.database, h.username, h.pending⟩

theorem Session.Kept.request {r : Request} (h : s.Kept s') (hr : r.accepted = none) :
    s.Kept (s'.request r) := by
  obtain ⟨rs, hp, hrs⟩ := h.pending
  refine ⟨h.defaults, h.currentUser, h.accounts, h.database, h.username, rs ++ [r], ?_, ?_⟩
  · simp [Session.request, hp]
  · intro q hq
    rw [List.mem_append, List.mem_singleton] at hq
    obtain hq | rfl := hq
    · exact hrs q hq
    · exact hr

theorem PlantFirebaseController.getUsername_kept (h : s.Kept s') :
    s.Kept (PlantFirebaseController.getUsername s') := by
  simp only [PlantFirebaseController.getUsername]
  cases s'.defaults.uid with
  | none => exact h
  | some uid => exact h.request rfl

theorem PlantFirebaseController.getUsername_screens (s : Session) :
    (PlantFirebaseController.getUsername s).screens = s.screens := by
  simp only [PlantFirebaseController.getUsername]
  cases s.defaults.uid with
  | none => rfl
  | some uid => rfl

/-- An alert does not hide the table. -/
theorem Session.present_alert_table (vc : Nat) (title message : String) (s : Session) :
    (s.present vc (.alert title message)).table = s.table := by
  simp only [Session.table, Session.present]
  split
  next => rfl
  next => rfl

theorem LoginViewController.presentAlert_kept (vc : Nat) (field : String) (h : s.Kept s') :
    s.Kept (LoginViewController.presentAlert vc field s') := h.of_screens

/-- A tap on the login button shows an alert, issues one request or does nothing. -/
theorem LoginViewController.loginSignUpButtonTapped_cases (vc : Nat)
    (title email password username : Option String) (s : Session) :
    (∃ field, loginSignUpButtonTapped vc title email password username s =
        presentAlert vc field s) ∨
      (∃ r, r.accepted = none ∧ r.ofSession = true ∧
        loginSignUpButtonTapped vc title email password username s = s.request r) ∨
      loginSignUpButtonTapped vc title email password username s = s := by
  simp only [loginSignUpButtonTapped]
  cases email with
  | none => exact Or.inl ⟨_, rfl⟩
  | some emailText =>
      dsimp only
      split
      next => exact Or.inl ⟨_, rfl⟩
      next =>
        cases password with
        | none => exact Or.inl ⟨_, rfl⟩
        | some passwordText =>
            dsimp only
            split
            next => exact Or.inl ⟨_, rfl⟩
            next =>
              split
              next =>
                cases username with
                | none => exact Or.inl ⟨_, rfl⟩
                | some usernameText =>
                    dsimp only
                    split
                    next => exact Or.inl ⟨_, rfl⟩
                    next => exact Or.inr (Or.inl ⟨_, rfl, rfl, rfl⟩)
              next =>
                split
                next => exact Or.inr (Or.inl ⟨_, rfl, rfl, rfl⟩)
                next => exact Or.inr (Or.inr rfl)

theorem SettingsViewController.firebaseOp_kept (tap view : Nat) (username : String)
    (h : s.Kept s') : s.Kept (SettingsViewController.firebaseOp tap view username s') := by
  simp only [SettingsViewController.firebaseOp, PlantFirebaseController.updateUsername]
  cases s'.currentUser with
  | none => exact h.request rfl
  | some uid => exact (Session.Kept.request h rfl).request rfl

theorem SettingsViewController.firebaseOp_screens (tap view : Nat) (username : String)
    (s : Session) :
    (SettingsViewController.firebaseOp tap view username s).screens = s.screens := by
  simp only [SettingsViewController.firebaseOp, PlantFirebaseController.updateUsername]
  cases s.currentUser with
  | none => rfl
  | some uid => rfl

theorem SettingsViewController.success_kept (view : Nat) (h : s.Kept s') :
    s.Kept (SettingsViewController.success view s') :=
  (PlantFirebaseController.getUsername_kept h).of_screens

theorem SettingsViewController.success_table (view : Nat) (s : Session) :
    (SettingsViewController.success view s).table = s.table := by
  simp only [SettingsViewController.success, Session.table]
  split
  next => rw [Screen.table, PlantFirebaseController.getUsername_screens]
  next => rw [PlantFirebaseController.getUsername_screens]

theorem Session.Waiting.of_drop {i : Nat} {uid : Uid} {username : String}
    (h : (s.drop i).Waiting uid username) : s.Waiting uid username := by
  obtain ⟨r, hr, hw⟩ := h
  exact ⟨r, List.mem_of_mem_eraseIdx hr, hw⟩

/-! ### Every event has an effect of the list -/

theorem Request.complete_effect {i : Nat} {r : Request} {reply : Reply}
    (hr : s.pending[i]? = some r) (h : r.complete (s.drop i) reply = some s') :
    s.Effect (.completed i reply) s' := by
  unfold Request.complete at h
  split at h
  next =>
    cases h
    exact .done hr rfl (by simp) (LoginViewController.presentAlert_kept _ _ (.refl _))
      (Session.present_alert_table _ _ _ _)
  next tap vc uid email username =>
    cases h
    cases email with
    | none => exact .gaveUp hr rfl
    | some email => exact .created hr
  next =>
    cases h
    exact .gaveUp hr rfl
  next =>
    cases h
    exact .opened hr rfl
  next =>
    cases h
    exact .done hr rfl (by simp) (LoginViewController.presentAlert_kept _ _ (.refl _))
      (Session.present_alert_table _ _ _ _)
  next =>
    cases h
    exact .opened hr rfl
  next =>
    cases h
    exact .signedOut hr
  next =>
    cases h
    exact .done hr rfl (by simp) (.refl _) rfl
  next =>
    split at h
    next hread =>
      cases h
      exact .named hr (hread.imp_right Session.Waiting.of_drop)
    next => cases h
  next =>
    cases h
    exact .done hr rfl (by simp) (.refl _) rfl
  next =>
    cases h
    exact .done hr rfl (by simp) (.refl _) rfl
  next =>
    cases h
    refine .done hr rfl (by simp) (SettingsViewController.firebaseOp_kept _ _ _ (.refl _)) ?_
    exact congrArg Screen.table (SettingsViewController.firebaseOp_screens _ _ _ _)
  next =>
    cases h
    exact .done hr rfl (by simp) (.refl _) rfl
  next =>
    cases h
    exact .done hr rfl (by simp) (.refl _) rfl
  next =>
    cases h
    exact .done hr rfl (by simp) (SettingsViewController.success_kept _ (.refl _))
      (SettingsViewController.success_table _ _)
  next => cases h

theorem step_effect {e : Event} (h : Session.step s e = some s') : s.Effect e s' := by
  cases e with
  | loginSignUpButtonTapped title email password username =>
      simp only [Session.step] at h
      split at h
      next covered hs =>
        cases h
        obtain ⟨field, hx⟩ | ⟨r, hr, -, hx⟩ | hx := LoginViewController.loginSignUpButtonTapped_cases
          covered.length title email password username s
        · rw [hx]
          exact .tap rfl (LoginViewController.presentAlert_kept _ _ (.refl _)).of_screens
            (Session.present_alert_table _ _ _ _)
        · rw [hx]
          exact .tap rfl ((Session.Kept.refl s).request hr).of_screens rfl
        · rw [hx]
          exact .tap rfl (Session.Kept.refl s).of_screens rfl
      next => cases h
  | alertDismissed =>
      simp only [Session.step] at h
      split at h
      next covered hs =>
        cases h
        refine .tap rfl (Session.Kept.refl s).of_screens ?_
        rw [Session.table, Session.table, hs, Screen.table]
      next => cases h
  | tableLoaded =>
      simp only [Session.step] at h
      split at h
      next settings covered hs =>
        cases h
        refine .loaded ?_ ?_ ?_
        · exact PlantFirebaseController.getUsername_kept (Session.Kept.refl s).of_screens
        · rw [Session.table, hs, Screen.table]
        · rw [Session.table, PlantTableViewController.viewDidLoad,
            PlantFirebaseController.getUsername_screens]
          rfl
      next => cases h
  | settingsShown =>
      simp only [Session.step] at h
      split at h
      next frc covered hs =>
        cases h
        refine .tap rfl (Session.Kept.refl s).of_screens ?_
        rw [Session.table, Session.table, hs, Screen.table, Screen.table]
      next => cases h
  | settingsClosed =>
      simp only [Session.step] at h
      split at h
      next frc vc covered hs =>
        cases h
        refine .tap rfl (Session.Kept.refl s).of_screens ?_
        rw [Session.table, Session.table, hs, Screen.table, Screen.table]
      next => cases h
  | saveChangesButtonTapped username =>
      simp only [Session.step] at h
      split at h
      next frc vc covered hs =>
        cases h
        simp only [SettingsViewController.saveChangesButtonTapped]
        cases username with
        | none => exact .tap rfl (Session.Kept.refl s).of_screens rfl
        | some username =>
            dsimp only
            split
            next => exact .tap rfl (Session.Kept.refl s).of_screens rfl
            next => exact .tap rfl ((Session.Kept.refl s).request rfl).of_screens rfl
      next => cases h
  | logoutButtonTapped =>
      simp only [Session.step] at h
      split at h
      next =>
        cases h
        exact .loggedOut
      next => cases h
  | authenticated i uid email =>
      simp only [Session.step] at h
      split at h
      next => cases h
      next r hr =>
        obtain ⟨⟨r', accounts⟩, hx, rfl⟩ := Option.map_eq_some_iff.mp h
        exact .authenticated hr hx
  | committed i =>
      simp only [Session.step] at h
      split at h
      next => cases h
      next r hr =>
        obtain ⟨⟨r', database⟩, hx, rfl⟩ := Option.map_eq_some_iff.mp h
        exact .committed hr hx
  | completed i reply =>
      simp only [Session.step] at h
      split at h
      next => cases h
      next r hr => exact Request.complete_effect hr h
  | launched =>
      cases h
      exact .launched

/-- A request that Auth accepts is a sign-up or a login. -/
theorem Request.authenticate_cases {uid : Uid} {authEmail : Option String} {r r' : Request}
    {accounts accounts' : List Account}
    (h : r.authenticate uid authEmail accounts = some (r', accounts')) :
    (∃ tap vc email password username, r = .createUser tap vc email password username ∧
        r' = .userCreated tap vc uid authEmail username) ∨
      ∃ tap vc email password, r = .signIn tap vc email password ∧ r' = .signedIn tap vc uid := by
  cases r with
  | createUser tap vc email password username =>
      simp only [Request.authenticate] at h
      split at h
      next =>
        cases h
        exact Or.inl ⟨tap, vc, email, password, username, rfl, rfl⟩
      next => cases h
  | signIn tap vc email password =>
      simp only [Request.authenticate] at h
      split at h
      next =>
        cases h
        exact Or.inr ⟨tap, vc, email, password, rfl, rfl⟩
      next => cases h
  | _ => cases h

/-! ### The keys of `UserDefaults` -/

/-- Only a logout and a completion that logs in set the keys. -/
theorem step_defaults {e : Event} (hs : Session.step s e = some s') :
    s'.defaults = s.defaults ∨
      (e = .logoutButtonTapped ∧ s'.defaults = { s.defaults with isUserLoggedIn := false }) ∨
      ∃ i tap r uid, e = .completed i .success ∧ s.pending[i]? = some r ∧
        r.opens = some (tap, uid) ∧ s'.defaults = ⟨true, some uid⟩ := by
  cases step_effect hs with
  | tap _ hk _ => exact Or.inl hk.defaults
  | loaded hk _ _ => exact Or.inl hk.defaults
  | loggedOut => exact Or.inr (Or.inl ⟨rfl, rfl⟩)
  | done _ _ _ hk _ => exact Or.inl hk.defaults
  | opened hr ho => exact Or.inr (Or.inr ⟨_, _, _, _, rfl, hr, ho, rfl⟩)
  | _ => exact Or.inl rfl

/-! ### The database -/

/-- A write that is committed is that of a profile or that of a username. -/
theorem Request.commit_cases {r r' : Request} {database database' : Database}
    (h : r.commit database = some (r', database')) :
    (∃ tap vc uid username email, r = .updateProfile tap vc uid username email ∧
        r' = .profileUpdated tap vc uid ∧
        database' = database.updateChildValues uid
          [("uid", uid), ("username", username), ("email", email)]) ∨
      ∃ tap uid username, r = .updateUsername tap uid username ∧ r' = .usernameUpdated tap ∧
        database' = database.updateChildValues uid [("username", username)] := by
  cases r with
  | updateProfile tap vc uid username email =>
      cases h
      exact Or.inl ⟨tap, vc, uid, username, email, rfl, rfl, rfl⟩
  | updateUsername tap uid username =>
      cases h
      exact Or.inr ⟨tap, uid, username, rfl, rfl, rfl⟩
  | _ => cases h

/-- Only a commit changes the database. -/
theorem step_database {e : Event} (hs : Session.step s e = some s') :
    s'.database = s.database ∨ ∃ i r r', e = .committed i ∧ s.pending[i]? = some r ∧
      r.commit s.database = some (r', s'.database) := by
  cases step_effect hs with
  | tap _ hk _ => exact Or.inl hk.database
  | loaded hk _ _ => exact Or.inl hk.database
  | committed hr hc => exact Or.inr ⟨_, _, _, rfl, hr, hc⟩
  | done _ _ _ hk _ => exact Or.inl hk.database
  | _ => exact Or.inl rfl

/-- What has been stored stays stored. -/
theorem step_database_mono {e : Event} (hs : Session.step s e = some s') :
    ∀ v ∈ s.database, v ∈ s'.database := by
  intro v hv
  rcases step_database hs with hd | ⟨i, r, r', -, -, hc⟩
  · rw [hd]
    exact hv
  · rcases Request.commit_cases hc with ⟨_, _, _, _, _, -, -, hd⟩ | ⟨_, _, _, -, -, hd⟩
    · rw [hd]
      exact List.mem_append_right _ hv
    · rw [hd]
      exact List.mem_append_right _ hv

end

end WaterMyPlants
