import WaterMyPlants.Models.Plant

/-!
# The session

The app has three notions of who is logged in: the keys of `UserDefaults`, the
`currentUser` of Firebase Auth, and the uid that a plant table put in the
predicate of its fetched results controller.  They are set in different places
by handlers that run when a request completes.

Firebase is modelled by what it answers.  A request is issued, may be served (an
account accepted, a write committed) and then completes.  Any of these can take
any time and the requests of a session may overtake each other.  A database
value once committed can be overwritten but not taken back, so the database is
the list of all committed values.  A read may be answered by the client itself,
from a write of its own that is not committed yet.

Of UIKit one rule matters.  `present` puts a screen over the controller it is
called on, and does nothing when that controller is already covered.
-/

namespace WaterMyPlants

/-- The keys of `UserDefaults.standard`. -/
structure UserDefaults where
  isUserLoggedIn : Bool
  uid : Option Uid
deriving DecidableEq, Repr

/-- An account of Firebase Auth. -/
structure Account where
  uid : Uid
  email : String
  password : String
deriving DecidableEq, Repr

/-! ## The database -/

/-- A value committed under `users/<uid>/<key>`. -/
structure ChildValue where
  uid : Uid
  key : String
  value : String
deriving DecidableEq, Repr

/-- The values committed so far, the latest first. -/
abbrev Database := List ChildValue

namespace Database

/-- The write of a dictionary, as a whole. -/
def updateChildValues (uid : Uid) (dict : List (String × String)) (database : Database) :
    Database :=
  dict.map (fun d => ⟨uid, d.1, d.2⟩) ++ database

/-- The value at `users/<uid>/<key>` now. -/
def child (uid : Uid) (key : String) (database : Database) : Option String :=
  (database.find? fun v => v.uid = uid ∧ v.key = key).map ChildValue.value

/-- The value has at some time been stored at `users/<uid>/<key>`. -/
def Stored (uid : Uid) (key value : String) (database : Database) : Prop :=
  ⟨uid, key, value⟩ ∈ database

instance (uid : Uid) (key value : String) (database : Database) :
    Decidable (database.Stored uid key value) :=
  inferInstanceAs (Decidable (_ ∈ database))

theorem child_isSome {uid : Uid} {key : String} {database : Database} :
    (database.child uid key).isSome = true ↔ ∃ value, database.Stored uid key value := by
  simp only [child, Option.isSome_map, List.find?_isSome, decide_eq_true_eq, Stored]
  constructor
  · intro h
    obtain ⟨v, hv, rfl, rfl⟩ := h
    exact ⟨v.value, hv⟩
  · intro h
    obtain ⟨value, hv⟩ := h
    exact ⟨_, hv, rfl, rfl⟩

end Database

/-! ## Requests -/

/-- A request whose completion has not run.  `tap` numbers the tap that made it
and `vc` is the place of the controller its completion presents on.

`createUser` and `signIn` become `userCreated` and `signedIn` when Auth accepts
them, which sets `currentUser`.  `updateProfile` and `updateUsername` become
`profileUpdated` and `usernameUpdated` when the database commits them. -/
inductive Request where
  | createUser (tap vc : Nat) (email password username : String)
  | userCreated (tap vc : Nat) (uid : Uid) (email : Option String) (username : String)
  | updateProfile (tap vc : Nat) (uid : Uid) (username email : String)
  | profileUpdated (tap vc : Nat) (uid : Uid)
  | signIn (tap vc : Nat) (email password : String)
  | signedIn (tap vc : Nat) (uid : Uid)
  | signOut
  | getUsername (uid : Uid)
  | firebaseOp (tap view : Nat) (username : String)
  | updateUsername (tap : Nat) (uid : Uid) (username : String)
  | usernameUpdated (tap : Nat)
  | successTimer (tap view : Nat)
deriving DecidableEq, Repr

/-- The user that Auth has accepted and that the request is to log in. -/
def Request.accepted : Request → Option Uid
  | .userCreated _ _ uid _ _ => some uid
  | .updateProfile _ _ uid _ _ => some uid
  | .profileUpdated _ _ uid => some uid
  | .signedIn _ _ uid => some uid
  | _ => none

/-- The tap and the user of a request whose completion logs in. -/
def Request.opens : Request → Option (Nat × Uid)
  | .profileUpdated tap _ uid => some (tap, uid)
  | .signedIn tap _ uid => some (tap, uid)
  | _ => none

/-- The user and the name of a write to `users/<uid>/username` that the server has
not acknowledged. -/
def Request.unacknowledged : Request → Option (Uid × String)
  | .updateProfile _ _ uid username _ => some (uid, username)
  | .updateUsername _ uid username => some (uid, username)
  | _ => none

/-- A completion that a login, a sign-up or a logout waits for. -/
def Request.ofSession : Request → Bool
  | .createUser .. | .userCreated .. | .updateProfile .. | .profileUpdated .. | .signIn ..
  | .signedIn .. | .signOut => true
  | _ => false

/-- What a request completes with. -/
inductive Reply where
  | success
  | failure
  | value (value : String)
  | missing
deriving DecidableEq, Repr

/-! ## Screens -/

/-- A settings screen.  `view` tells it from other settings screens. -/
structure SettingsViewController where
  view : Nat
  usernameTextField : String
deriving DecidableEq, Repr

/-- A screen.  The controller of a plant table is `none` before the table has
loaded, and its uid is `none` where `UserDefaults` had none. -/
inductive Screen where
  | login
  | alert (title message : String)
  | plants (fetchedResultsController : Option (Option Uid))
      (settings : Option SettingsViewController)
deriving DecidableEq, Repr

/-- The controller of the table on screen, which an alert does not hide. -/
def Screen.table : List Screen → Option (Option (Option Uid))
  | .alert _ _ :: rest => Screen.table rest
  | .plants fetchedResultsController _ :: _ => some fetchedResultsController
  | _ => none

/-- The state of the app and of the services it talks to. -/
structure Session where
  defaults : UserDefaults
  /-- `Auth.auth().currentUser`. -/
  currentUser : Option Uid
  accounts : List Account
  database : Database
  /-- `PlantFirebaseController.shared.username`. -/
  username : String
  /-- Each screen covers the next. -/
  screens : List Screen
  pending : List Request
  /-- The taps so far. -/
  taps : Nat
deriving DecidableEq, Repr

namespace Session

/-- The first launch, with what the services already hold. -/
def launch (accounts : List Account) (database : Database) : Session where
  defaults := ⟨false, none⟩
  currentUser := none
  accounts := accounts
  database := database
  username := ""
  screens := [.login]
  pending := []
  taps := 0

/-- The controller of the table on screen. -/
def table (s : Session) : Option (Option (Option Uid)) := Screen.table s.screens

/-- Issue a request. -/
def request (r : Request) (s : Session) : Session := { s with pending := s.pending ++ [r] }

/-- The state without the `i`-th pending request. -/
def drop (i : Nat) (s : Session) : Session := { s with pending := s.pending.eraseIdx i }

/-- A write of the name waits for the server. -/
def Waiting (uid : Uid) (username : String) (s : Session) : Prop :=
  ∃ r ∈ s.pending, r.unacknowledged = some (uid, username)

instance (uid : Uid) (username : String) (s : Session) : Decidable (s.Waiting uid username) :=
  inferInstanceAs (Decidable (∃ r ∈ s.pending, _))

/-- A name that `getData` can answer with at `users/<uid>/username`.  The client
does not ask the server where a write of its own waits for it, and answers with
the name of that write, which the server may still refuse. -/
def Reads (uid : Uid) (username : String) (s : Session) : Prop :=
  s.database.Stored uid "username" username ∨ s.Waiting uid username

instance (uid : Uid) (username : String) (s : Session) : Decidable (s.Reads uid username) :=
  inferInstanceAs (Decidable (_ ∨ _))

/-- Put a screen over the `vc`-th, unless that one is covered. -/
def present (vc : Nat) (screen : Screen) (s : Session) : Session :=
  { s with screens := if s.screens.length = vc + 1 then screen :: s.screens else s.screens }

end Session

end WaterMyPlants
