import WaterMyPlants.Session.Step

/-!
# Screens and requests

`Effect` says what an event does to the values of a session.  `Moves` says what
it does to the screens and to the requests: which screen comes or goes, which
request is answered, and which requests are issued in its place.
-/

namespace WaterMyPlants

/-- The screens after `present` on the `vc`-th. -/
def Screen.present (vc : Nat) (screen : Screen) (screens : List Screen) : List Screen :=
  if screens.length = vc + 1 then screen :: screens else screens

/-- The login screen whose request it is, by its place. -/
def Request.vc : Request → Option Nat
  | .createUser _ vc _ _ _ => some vc
  | .userCreated _ vc _ _ _ => some vc
  | .updateProfile _ vc _ _ _ => some vc
  | .profileUpdated _ vc _ => some vc
  | .signIn _ vc _ _ => some vc
  | .signedIn _ vc _ => some vc
  | _ => none

/-- The request of `getUsername`. -/
def Session.usernameRequests (s : Session) : List Request :=
  s.defaults.uid.toList.map Request.getUsername

/-- The write of `updateUsername`. -/
def Session.writeRequests (tap : Nat) (username : String) (s : Session) : List Request :=
  s.currentUser.toList.map fun uid => .updateUsername tap uid username

/-- A request whose answer changes no screen and issues nothing. -/
def Request.quiet : Request → Reply → Bool
  | .userCreated _ _ _ none _, .success => true
  | .updateProfile .., .failure => true
  | .signOut, _ => true
  | .getUsername _, _ => true
  | .updateUsername .., .failure => true
  | .usernameUpdated _, .success => true
  | _, _ => false

/-- The event is numbered by the count of taps. -/
def Event.numbered : Event → Bool
  | .loginSignUpButtonTapped .. | .settingsShown | .saveChangesButtonTapped _
  | .logoutButtonTapped => true
  | _ => false

/-- The screens and the requests an event can leave. -/
inductive Session.Moves (s : Session) : Event → List Screen → List Request → Prop where
  | refused {title email password username : Option String} {message : String}
      {covered : List Screen} :
      s.screens = .login :: covered →
      Moves s (.loginSignUpButtonTapped title email password username)
        (.alert "Error" message :: s.screens) s.pending
  | ignored {title email password username : Option String} {covered : List Screen} :
      s.screens = .login :: covered → title ≠ some "Sign Up" → title ≠ some "Login" →
      Moves s (.loginSignUpButtonTapped title email password username) s.screens s.pending
  | signUp {email password username : String} {covered : List Screen} :
      s.screens = .login :: covered → email ≠ "" → password ≠ "" → username ≠ "" →
      Moves s (.loginSignUpButtonTapped (some "Sign Up") (some email) (some password)
          (some username)) s.screens
        (s.pending ++ [.createUser s.taps covered.length email password username])
  | login {email password : String} {username : Option String} {covered : List Screen} :
      s.screens = .login :: covered → email ≠ "" → password ≠ "" →
      Moves s (.loginSignUpButtonTapped (some "Login") (some email) (some password) username)
        s.screens (s.pending ++ [.signIn s.taps covered.length email password])
  | dismissed {title message : String} {covered : List Screen} :
      s.screens = .alert title message :: covered →
      Moves s .alertDismissed covered s.pending
  | loaded {settings : Option SettingsViewController} {covered : List Screen} :
      s.screens = .plants none settings :: covered →
      Moves s .tableLoaded (.plants (some s.defaults.uid) settings :: covered)
        (s.pending ++ s.usernameRequests)
  | shown {captured : Option Uid} {covered : List Screen} :
      s.screens = .plants (some captured) none :: covered →
      Moves s .settingsShown
        (.plants (some captured) (some (SettingsViewController.updateViews s)) :: covered) s.pending
  | closed {frc : Option (Option Uid)} {vc : SettingsViewController} {covered : List Screen} :
      s.screens = .plants frc (some vc) :: covered →
      Moves s .settingsClosed (.plants frc none :: covered) s.pending
  | unsaved {frc : Option (Option Uid)} {vc : SettingsViewController} {covered : List Screen}
      {username : Option String} :
      s.screens = .plants frc (some vc) :: covered → username = none ∨ username = some "" →
      Moves s (.saveChangesButtonTapped username) s.screens s.pending
  | saved {frc : Option (Option Uid)} {vc : SettingsViewController} {covered : List Screen}
      {username : String} :
      s.screens = .plants frc (some vc) :: covered → username ≠ "" →
      Moves s (.saveChangesButtonTapped (some username)) s.screens
        (s.pending ++ [.firebaseOp s.taps vc.view username])
  | loggedOut {frc : Option (Option Uid)} {vc : SettingsViewController} {covered : List Screen} :
      s.screens = .plants frc (some vc) :: covered →
      Moves s .logoutButtonTapped (.login :: s.screens) (s.pending ++ [.signOut])
  | authenticated {i : Nat} {uid : Uid} {email : Option String} {r r' : Request}
      {accounts : List Account} :
      s.pending[i]? = some r → r.authenticate uid email s.accounts = some (r', accounts) →
      Moves s (.authenticated i uid email) s.screens (s.pending.set i r')
  | committed {i : Nat} {r r' : Request} {database : Database} :
      s.pending[i]? = some r → r.commit s.database = some (r', database) →
      Moves s (.committed i) s.screens (s.pending.set i r')
  | rejected {i vc : Nat} {r : Request} {message : String} :
      s.pending[i]? = some r → r.vc = some vc → r.accepted = none →
      Moves s (.completed i .failure) (Screen.present vc (.alert "Error" message) s.screens)
        (s.pending.eraseIdx i)
  | created {i tap vc : Nat} {uid : Uid} {email username : String} :
      s.pending[i]? = some (.userCreated tap vc uid (some email) username) →
      Moves s (.completed i .success) s.screens
        (s.pending.eraseIdx i ++ [.updateProfile tap vc uid username email])
  | opened {i tap vc : Nat} {uid : Uid} {r : Request} :
      s.pending[i]? = some r → r.opens = some (tap, uid) → r.vc = some vc →
      Moves s (.completed i .success) (Screen.present vc (.plants none none) s.screens)
        (s.pending.eraseIdx i)
  | ran {i tap view : Nat} {username : String} :
      s.pending[i]? = some (.firebaseOp tap view username) →
      Moves s (.completed i .success) s.screens
        (s.pending.eraseIdx i ++ (s.writeRequests tap username ++ [.successTimer tap view]))
  | fired {i tap view : Nat} :
      s.pending[i]? = some (.successTimer tap view) →
      Moves s (.completed i .success)
        (if SettingsViewController.Uncovered view s then
          .alert "Success" "Updated Profile" :: s.screens else s.screens)
        (s.pending.eraseIdx i ++ s.usernameRequests)
  | quiet {i : Nat} {reply : Reply} {r : Request} :
      s.pending[i]? = some r → r.quiet reply = true →
      Moves s (.completed i reply) s.screens (s.pending.eraseIdx i)
  | launched : Moves s .launched (SceneDelegate.scene s.defaults) []

section
variable {s s' : Session} {e : Event}

theorem PlantFirebaseController.getUsername_pending (s : Session) :
    (PlantFirebaseController.getUsername s).pending = s.pending ++ s.usernameRequests := by
  simp only [PlantFirebaseController.getUsername, Session.usernameRequests]
  cases s.defaults.uid with
  | none => simp
  | some uid => rfl

theorem SettingsViewController.firebaseOp_pending (tap view : Nat) (username : String)
    (s : Session) : (SettingsViewController.firebaseOp tap view username s).pending =
      s.pending ++ (s.writeRequests tap username ++ [.successTimer tap view]) := by
  simp only [SettingsViewController.firebaseOp, PlantFirebaseController.updateUsername,
    Session.writeRequests]
  cases s.currentUser with
  | none => rfl
  | some uid => simp [Session.request]

/-- A tap on the login button asks for a text that is missing, or issues the request
its title names. -/
theorem LoginViewController.loginSignUpButtonTapped_moves {title email password username :
    Option String} {covered : List Screen} (hs : s.screens = .login :: covered) :
    s.Moves (.loginSignUpButtonTapped title email password username)
      (loginSignUpButtonTapped covered.length title email password username s).screens
      (loginSignUpButtonTapped covered.length title email password username s).pending := by
  have halert : ∀ field, (presentAlert covered.length field s).screens =
      .alert "Error" ("Please enter proper " ++ field) :: s.screens := by
    intro field
    rw [presentAlert, Session.present, if_pos (by rw [hs, List.length_cons])]
  have hrefused : ∀ field, s.Moves (.loginSignUpButtonTapped title email password username)
      (presentAlert covered.length field s).screens s.pending := by
    intro field
    rw [halert field]
    exact .refused hs
  unfold loginSignUpButtonTapped
  cases email with
  | none => exact hrefused _
  | some emailText =>
      dsimp only
      split
      next => exact hrefused _
      next hemail =>
        have hemail : emailText ≠ "" := by simpa using hemail
        cases password with
        | none => exact hrefused _
        | some passwordText =>
            dsimp only
            split
            next => exact hrefused _
            next hpassword =>
              have hpassword : passwordText ≠ "" := by simpa using hpassword
              split
              next htitle =>
                subst htitle
                cases username with
                | none => exact hrefused _
                | some usernameText =>
                    dsimp only
                    split
                    next => exact hrefused _
                    next husername => exact .signUp hs hemail hpassword (by simpa using husername)
              next htitle =>
                split
                next htitle =>
                  subst htitle
                  exact .login hs hemail hpassword
                next hlogin => exact .ignored hs htitle hlogin

theorem Request.complete_moves {i : Nat} {r : Request} {reply : Reply}
    (hr : s.pending[i]? = some r) (h : r.complete (s.drop i) reply = some s') :
    s.Moves (.completed i reply) s'.screens s'.pending := by
  unfold Request.complete at h
  split at h
  next =>
    cases h
    exact .rejected hr rfl rfl
  next tap vc uid email username =>
    cases h
    cases email with
    | none => exact .quiet hr rfl
    | some email => exact .created hr
  next =>
    cases h
    exact .quiet hr rfl
  next =>
    cases h
    exact .opened hr rfl rfl
  next =>
    cases h
    exact .rejected hr rfl rfl
  next =>
    cases h
    exact .opened hr rfl rfl
  next =>
    cases h
    exact .quiet hr rfl
  next =>
    cases h
    exact .quiet hr rfl
  next =>
    split at h
    next =>
      cases h
      exact .quiet hr rfl
    next => cases h
  next =>
    cases h
    exact .quiet hr rfl
  next =>
    cases h
    exact .quiet hr rfl
  next tap view username =>
    cases h
    rw [SettingsViewController.firebaseOp_screens, SettingsViewController.firebaseOp_pending]
    exact .ran hr
  next =>
    cases h
    exact .quiet hr rfl
  next =>
    cases h
    exact .quiet hr rfl
  next tap view =>
    cases h
    have hscreens := PlantFirebaseController.getUsername_screens (s.drop i)
    have hpending := PlantFirebaseController.getUsername_pending (s.drop i)
    simp only [SettingsViewController.success, SettingsViewController.Uncovered, hscreens, hpending]
    exact .fired hr
  next => cases h

theorem step_moves (h : Session.step s e = some s') : s.Moves e s'.screens s'.pending := by
  cases e with
  | loginSignUpButtonTapped title email password username =>
      simp only [Session.step] at h
      split at h
      next covered hs =>
        cases h
        exact LoginViewController.loginSignUpButtonTapped_moves hs
      next => cases h
  | alertDismissed =>
      simp only [Session.step] at h
      split at h
      next hs =>
        cases h
        exact .dismissed hs
      next => cases h
  | tableLoaded =>
      simp only [Session.step] at h
      split at h
      next hs =>
        cases h
        rw [PlantTableViewController.viewDidLoad, PlantFirebaseController.getUsername_screens,
          PlantFirebaseController.getUsername_pending]
        exact .loaded hs
      next => cases h
  | settingsShown =>
      simp only [Session.step] at h
      split at h
      next hs =>
        cases h
        exact .shown hs
      next => cases h
  | settingsClosed =>
      simp only [Session.step] at h
      split at h
      next hs =>
        cases h
        exact .closed hs
      next => cases h
  | saveChangesButtonTapped username =>
      simp only [Session.step] at h
      split at h
      next hs =>
        cases h
        simp only [SettingsViewController.saveChangesButtonTapped]
        cases username with
        | none => exact .unsaved hs (Or.inl rfl)
        | some text =>
            dsimp only
            split
            next hempty => exact .unsaved hs (Or.inr (congrArg some hempty))
            next hempty => exact .saved hs hempty
      next => cases h
  | logoutButtonTapped =>
      simp only [Session.step] at h
      split at h
      next hs =>
        cases h
        exact .loggedOut hs
      next => cases h
  | authenticated i uid email =>
      simp only [Session.step] at h
      split at h
      next => cases h
      next r hr =>
        obtain ⟨⟨r', accounts⟩, hx, rfl⟩ := Option.map_eq_some_iff.mp h
        exact .authenticated hr hx
  | committed i =>
      simp only [Session.step] at h
      split at h
      next => cases h
      next r hr =>
        obtain ⟨⟨r', database⟩, hx, rfl⟩ := Option.map_eq_some_iff.mp h
        exact .committed hr hx
  | completed i reply =>
      simp only [Session.step] at h
      split at h
      next => cases h
      next r hr => exact Request.complete_moves hr h
  | launched =>
      cases h
      exact .launched

theorem PlantFirebaseController.getUsername_taps (s : Session) :
    (PlantFirebaseController.getUsername s).taps = s.taps := by
  simp only [PlantFirebaseController.getUsername]
  cases s.defaults.uid with
  | none => rfl
  | some uid => rfl

theorem Request.complete_taps {r : Request} {reply : Reply} (h : r.complete s reply = some s') :
    s'.taps = s.taps := by
  unfold Request.complete at h
  split at h
  case h_2 tap vc uid email username =>
    cases h
    cases email with
    | none => rfl
    | some email => rfl
  case h_9 =>
    split at h
    next =>
      cases h
      rfl
    next => cases h
  case h_12 tap view username =>
    cases h
    simp only [SettingsViewController.firebaseOp, PlantFirebaseController.updateUsername]
    cases s.currentUser with
    | none => rfl
    | some uid => rfl
  case h_15 =>
    cases h
    exact PlantFirebaseController.getUsername_taps s
  case h_16 => cases h
  all_goals
    cases h
    rfl

/-- A tap takes the next number. -/
theorem step_taps (h : Session.step s e = some s') :
    s'.taps = s.taps + if e.numbered then 1 else 0 := by
  cases e with
  | completed i reply =>
      simp only [Session.step] at h
      split at h
      next => cases h
      next =>
        have htaps : s'.taps = (s.drop i).taps := Request.complete_taps h
        exact htaps
  | authenticated i uid email =>
      simp only [Session.step] at h
      split at h
      next => cases h
      next =>
        obtain ⟨_, _, rfl⟩ := Option.map_eq_some_iff.mp h
        rfl
  | committed i =>
      simp only [Session.step] at h
      split at h
      next => cases h
      next =>
        obtain ⟨_, _, rfl⟩ := Option.map_eq_some_iff.mp h
        rfl
  | tableLoaded =>
      simp only [Session.step] at h
      split at h
      next =>
        cases h
        exact PlantFirebaseController.getUsername_taps _
      next => cases h
  | launched =>
      cases h
      rfl
  | _ =>
      simp only [Session.step] at h
      split at h
      next =>
        cases h
        rfl
      next => cases h

/-! ## What holds of every request -/

/-- What holds of every pending request and of every request an event can issue, and
is kept when a request is served, holds of every request after the event. -/
theorem Session.Moves.forall_pending {Q : Request → Prop} {screens : List Screen}
    {pending : List Request} (h : s.Moves e screens pending) (hold : ∀ r ∈ s.pending, Q r)
    (hsignUp : ∀ covered email password username, s.screens = .login :: covered →
      username ≠ "" → e = .loginSignUpButtonTapped (some "Sign Up") (some email) (some password)
        (some username) → Q (.createUser s.taps covered.length email password username))
    (hlogin : ∀ covered email password username, s.screens = .login :: covered →
      e = .loginSignUpButtonTapped (some "Login") (some email) (some password) username →
      Q (.signIn s.taps covered.length email password))
    (hsignOut : Q .signOut)
    (hget : ∀ uid, s.defaults.uid = some uid → Q (.getUsername uid))
    (hsave : ∀ tap view username, username ≠ "" →
      e = .saveChangesButtonTapped (some username) → Q (.firebaseOp tap view username))
    (hauth : ∀ i uid email r r' accounts, e = .authenticated i uid email →
      s.pending[i]? = some r → r.authenticate uid email s.accounts = some (r', accounts) →
        Q r → Q r')
    (hcommit : ∀ r r' database, r.commit s.database = some (r', database) → Q r → Q r')
    (hcreated : ∀ tap vc uid email username, Q (.userCreated tap vc uid (some email) username) →
      Q (.updateProfile tap vc uid username email))
    (hwrite : ∀ tap view username uid, Q (.firebaseOp tap view username) →
      s.currentUser = some uid → Q (.updateUsername tap uid username))
    (htimer : ∀ tap view, Q (.successTimer tap view)) : ∀ r ∈ pending, Q r := by
  have happend : ∀ {l rs : List Request}, (∀ r ∈ l, Q r) → (∀ r ∈ rs, Q r) →
      ∀ r ∈ l ++ rs, Q r := by
    intro l rs hl hrs r hr
    rcases List.mem_append.mp hr with hr | hr
    · exact hl r hr
    · exact hrs r hr
  have hone : ∀ {q : Request}, Q q → ∀ r ∈ [q], Q r := by
    intro q hq r hr
    rw [List.mem_singleton] at hr
    rw [hr]
    exact hq
  have hset : ∀ {i : Nat} {q : Request}, Q q → ∀ r ∈ s.pending.set i q, Q r := by
    intro i q hq r hr
    rcases List.mem_or_eq_of_mem_set hr with hr | rfl
    · exact hold r hr
    · exact hq
  have herase : ∀ {i : Nat}, ∀ r ∈ s.pending.eraseIdx i, Q r :=
    fun r hr => hold r (List.mem_of_mem_eraseIdx hr)
  have hnames : ∀ r ∈ s.usernameRequests, Q r := by
    intro r hr
    obtain ⟨uid, hu, rfl⟩ := List.mem_map.mp hr
    exact hget uid (Option.mem_toList.mp hu)
  have hat : ∀ {i : Nat} {q : Request}, s.pending[i]? = some q → Q q :=
    fun hq => hold _ (List.mem_of_getElem? hq)
  cases h with
  | signUp hs _ _ hu => exact happend hold (hone (hsignUp _ _ _ _ hs hu rfl))
  | login hs _ _ => exact happend hold (hone (hlogin _ _ _ _ hs rfl))
  | loaded _ => exact happend hold hnames
  | saved _ hu => exact happend hold (hone (hsave _ _ _ hu rfl))
  | loggedOut _ => exact happend hold (hone hsignOut)
  | authenticated hr ha => exact hset (hauth _ _ _ _ _ _ rfl hr ha (hat hr))
  | committed hr hc => exact hset (hcommit _ _ _ hc (hat hr))
  | created hr => exact happend herase (hone (hcreated _ _ _ _ _ (hat hr)))
  | @ran i tap view username hr =>
      refine happend herase (happend ?_ (hone (htimer _ _)))
      intro r hmem
      obtain ⟨uid, hu, rfl⟩ := List.mem_map.mp hmem
      exact hwrite _ view _ _ (hat hr) (Option.mem_toList.mp hu)
  | fired _ => exact happend herase hnames
  | rejected _ _ _ => exact herase
  | opened _ _ _ => exact herase
  | quiet _ _ => exact herase
  | launched => exact fun r hr => absurd hr List.not_mem_nil
  | _ => exact hold

end

end WaterMyPlants
