import WaterMyPlants.Session.Logout
import WaterMyPlants.Session.Moves

/-!
# Accounts and records

Every uid the app holds is handed on: from Auth to a completion, from there to
`UserDefaults`, from there to a table and to `getUsername`, and from Auth to a write.
So in every run a uid that is held anywhere is that of an account, and its email and
password have been typed into the login screen (`Session.Entered`).

The records are sound for the same reason.  What is stored under `users/<uid>/uid` is
that uid, and no name that is stored is empty.
-/

namespace WaterMyPlants

open Transition

/-! ## Accounts -/

section
variable {s s' : Session} {e : Event} {uid : Uid} {r r' : Request} {email : Option String}
  {accounts accounts' : List Account}

/-- Auth creates an account or finds one. -/
theorem Request.authenticate_accounts
    (h : r.authenticate uid email accounts = some (r', accounts')) :
    (∃ tap vc em password username, r = .createUser tap vc em password username ∧
        r' = .userCreated tap vc uid email username ∧
        accounts' = ⟨uid, em, password⟩ :: accounts) ∨
      ∃ tap vc em password, r = .signIn tap vc em password ∧ r' = .signedIn tap vc uid ∧
        accounts' = accounts ∧ ⟨uid, em, password⟩ ∈ accounts := by
  cases r with
  | createUser tap vc em password username =>
      simp only [Request.authenticate] at h
      split at h
      next =>
        cases h
        exact Or.inl ⟨tap, vc, em, password, username, rfl, rfl, rfl⟩
      next => cases h
  | signIn tap vc em password =>
      simp only [Request.authenticate] at h
      split at h
      next hold =>
        cases h
        exact Or.inr ⟨tap, vc, em, password, rfl, rfl, rfl, hold⟩
      next => cases h
  | _ => cases h

/-- An event leaves the accounts alone, or adds one. -/
theorem step_accounts (hs : Session.step s e = some s') :
    s'.accounts = s.accounts ∨ ∃ a, s'.accounts = a :: s.accounts := by
  cases step_effect hs with
  | tap _ hk _ => exact Or.inl hk.accounts
  | loaded hk _ _ => exact Or.inl hk.accounts
  | done _ _ _ hk _ => exact Or.inl hk.accounts
  | authenticated hr ha =>
      rcases Request.authenticate_accounts ha with
        ⟨_, _, _, _, _, -, -, hacc⟩ | ⟨_, _, _, _, -, -, hacc, -⟩
      · exact Or.inr ⟨_, hacc⟩
      · exact Or.inl hacc
  | _ => exact Or.inl rfl

theorem step_accounts_mono (hs : Session.step s e = some s') :
    ∀ a ∈ s.accounts, a ∈ s'.accounts := by
  intro a ha
  rcases step_accounts hs with hacc | ⟨b, hacc⟩
  · rw [hacc]
    exact ha
  · rw [hacc]
    exact List.mem_cons_of_mem _ ha

end

/-! ## Who has typed a password -/

/-- The email and the password have been typed and sent off. -/
def Typed (h : List (Session × Event)) (email password : String) : Prop :=
  ∃ p ∈ h, ∃ title username,
    p.2 = .loginSignUpButtonTapped title (some email) (some password) username

/-- The uid is that of an account whose email and password have been typed. -/
def Session.Entered (h : List (Session × Event)) (s : Session) (uid : Uid) : Prop :=
  ∃ email password, ⟨uid, email, password⟩ ∈ s.accounts ∧ Typed h email password

/-- The uid a request is for. -/
def Request.uid : Request → Option Uid
  | .userCreated _ _ uid _ _ => some uid
  | .updateProfile _ _ uid _ _ => some uid
  | .profileUpdated _ _ uid => some uid
  | .signedIn _ _ uid => some uid
  | .getUsername uid => some uid
  | .updateUsername _ uid _ => some uid
  | _ => none

/-- The email and the password a request gives to Auth. -/
def Request.credentials : Request → Option (String × String)
  | .createUser _ _ email password _ => some (email, password)
  | .signIn _ _ email password => some (email, password)
  | _ => none

/-- The uid in the predicate of a table. -/
def Screen.captured : Screen → Option Uid
  | .plants (some captured) _ => captured
  | _ => none

/-- Wherever the session holds a uid, its password has been typed.  `database` is
what the database held at the start. -/
structure Session.Vouched (database : Database) (h : List (Session × Event)) (s : Session) :
    Prop where
  defaults : ∀ uid, s.defaults.uid = some uid → s.Entered h uid
  currentUser : ∀ uid, s.currentUser = some uid → s.Entered h uid
  tables : ∀ screen ∈ s.screens, ∀ uid, screen.captured = some uid → s.Entered h uid
  requests : ∀ r ∈ s.pending, (∀ uid, r.uid = some uid → s.Entered h uid) ∧
    ∀ email password, r.credentials = some (email, password) → Typed h email password
  records : ∀ v ∈ s.database, v ∈ database ∨ s.Entered h v.uid

section
variable {s s' : Session} {e : Event} {uid : Uid} {h : List (Session × Event)} {r r' : Request}
  {screens : List Screen} {pending : List Request}

theorem Typed.append {email password : String} (ht : Typed h email password)
    (p : Session × Event) : Typed (h ++ [p]) email password := by
  obtain ⟨q, hq, htyped⟩ := ht
  exact ⟨q, List.mem_append_left _ hq, htyped⟩

theorem Session.Entered.append (he : s.Entered h uid) (hs : Session.step s e = some s') :
    s'.Entered (h ++ [(s, e)]) uid := by
  obtain ⟨email, password, ha, ht⟩ := he
  exact ⟨email, password, step_accounts_mono hs _ ha, ht.append _⟩

theorem Request.uid_of_opens {tap : Nat} (ho : r.opens = some (tap, uid)) : r.uid = some uid := by
  cases r with
  | profileUpdated _ _ _ =>
      cases ho
      rfl
  | signedIn _ _ _ =>
      cases ho
      rfl
  | _ => cases ho

/-- A table shows the uid another one showed, or that of `UserDefaults`. -/
theorem Session.Moves.captured_of_mem {screen : Screen} (hm : s.Moves e screens pending)
    (hmem : screen ∈ screens) (hc : screen.captured = some uid) :
    (∃ q ∈ s.screens, q.captured = some uid) ∨ s.defaults.uid = some uid := by
  have hold : screen ∈ s.screens → (∃ q ∈ s.screens, q.captured = some uid) ∨
      s.defaults.uid = some uid := fun hmem => Or.inl ⟨screen, hmem, hc⟩
  have hpush : ∀ {top : Screen}, top.captured = none → screen ∈ top :: s.screens →
      (∃ q ∈ s.screens, q.captured = some uid) ∨ s.defaults.uid = some uid := by
    intro top htop hmem
    rcases List.mem_cons.mp hmem with rfl | hmem
    · rw [htop] at hc
      cases hc
    · exact hold hmem
  have htop : ∀ {top top' : Screen} {covered : List Screen}, s.screens = top :: covered →
      top'.captured = top.captured → screen ∈ top' :: covered →
      (∃ q ∈ s.screens, q.captured = some uid) ∨ s.defaults.uid = some uid := by
    intro top top' covered hs hsame hmem
    rcases List.mem_cons.mp hmem with rfl | hmem
    · exact Or.inl ⟨top, by rw [hs]; exact List.mem_cons_self .., hsame.symm.trans hc⟩
    · exact hold (by rw [hs]; exact List.mem_cons_of_mem _ hmem)
  cases hm with
  | refused _ => exact hpush rfl hmem
  | dismissed hs => exact hold (by rw [hs]; exact List.mem_cons_of_mem _ hmem)
  | loaded hs =>
      rcases List.mem_cons.mp hmem with rfl | hmem
      · exact Or.inr hc
      · exact hold (by rw [hs]; exact List.mem_cons_of_mem _ hmem)
  | shown hs =>
      refine htop hs ?_ hmem
      rfl
  | @closed frc _ _ hs =>
      refine htop hs ?_ hmem
      cases frc with
      | none => rfl
      | some _ => rfl
  | loggedOut _ => exact hpush rfl hmem
  | rejected _ _ _ =>
      rw [Screen.present] at hmem
      split at hmem
      next => exact hpush rfl hmem
      next => exact hold hmem
  | opened _ _ _ =>
      rw [Screen.present] at hmem
      split at hmem
      next => exact hpush rfl hmem
      next => exact hold hmem
  | fired _ =>
      split at hmem
      next => exact hpush rfl hmem
      next => exact hold hmem
  | launched =>
      rw [SceneDelegate.scene] at hmem
      split at hmem
      next =>
        rw [List.mem_singleton] at hmem
        rw [hmem] at hc
        cases hc
      next =>
        rw [List.mem_singleton] at hmem
        rw [hmem] at hc
        cases hc
  | _ => exact hold hmem

/-- Auth signs in a user whose password the request has. -/
theorem Request.entered_of_authenticate {email : Option String} {accounts : List Account}
    (hcred : ∀ email password, r.credentials = some (email, password) → Typed h email password)
    (ha : r.authenticate uid email s.accounts = some (r', accounts))
    (hacc : s'.accounts = accounts) :
    s'.Entered h uid ∧ r'.uid = some uid ∧ r'.credentials = none := by
  rcases Request.authenticate_accounts ha with
    ⟨_, _, em, password, _, rfl, rfl, rfl⟩ | ⟨_, _, em, password, rfl, rfl, rfl, hold⟩
  · refine ⟨⟨em, password, ?_, hcred em password rfl⟩, rfl, rfl⟩
    rw [hacc]
    exact List.mem_cons_self ..
  · refine ⟨⟨em, password, ?_, hcred em password rfl⟩, rfl, rfl⟩
    rw [hacc]
    exact hold

/-- A write that is committed is for the uid of its request. -/
theorem Request.uid_of_commit {database database' : Database}
    (hc : r.commit database = some (r', database')) :
    (∀ v ∈ database', v ∈ database ∨ r.uid = some v.uid) ∧
      (∀ uid, r'.uid = some uid → r.uid = some uid) ∧ r'.credentials = none := by
  rcases Request.commit_cases hc with ⟨_, _, _, _, _, rfl, rfl, rfl⟩ | ⟨_, _, _, rfl, rfl, rfl⟩
  · refine ⟨?_, fun _ h => h, rfl⟩
    intro v hv
    simp only [Database.updateChildValues, List.mem_append, List.mem_map] at hv
    rcases hv with ⟨d, -, rfl⟩ | hv
    · exact Or.inr rfl
    · exact Or.inl hv
  · refine ⟨?_, fun _ hu => (by cases hu), rfl⟩
    intro v hv
    simp only [Database.updateChildValues, List.mem_append, List.mem_map] at hv
    rcases hv with ⟨d, -, rfl⟩ | hv
    · exact Or.inr rfl
    · exact Or.inl hv

/-- The user Auth has signed in: the one before, one it has just accepted, or none. -/
theorem step_currentUser (hs : Session.step s e = some s') :
    s'.currentUser = s.currentUser ∨ s'.currentUser = none ∨
      ∃ i uid email r r', e = .authenticated i uid email ∧ s.pending[i]? = some r ∧
        r.authenticate uid email s.accounts = some (r', s'.accounts) ∧
        s'.currentUser = some uid := by
  cases step_effect hs with
  | tap _ hk _ => exact Or.inl hk.currentUser
  | loaded hk _ _ => exact Or.inl hk.currentUser
  | done _ _ _ hk _ => exact Or.inl hk.currentUser
  | authenticated hr ha => exact Or.inr (Or.inr ⟨_, _, _, _, _, rfl, hr, ha, rfl⟩)
  | signedOut _ => exact Or.inr (Or.inl rfl)
  | _ => exact Or.inl rfl

/-- A request is for a uid that has been entered, and asks with texts that were typed. -/
theorem step_requests_vouched {database : Database} (hv : s.Vouched database h)
    (hs : Session.step s e = some s') : ∀ r ∈ s'.pending,
    (∀ uid, r.uid = some uid → s'.Entered (h ++ [(s, e)]) uid) ∧
      ∀ email password, r.credentials = some (email, password) →
        Typed (h ++ [(s, e)]) email password := by
  have hkeep : ∀ {uid : Uid}, s.Entered h uid → s'.Entered (h ++ [(s, e)]) uid :=
    fun hent => hent.append hs
  have hnone : ∀ r : Request, r.uid = none → r.credentials = none →
      (∀ uid, r.uid = some uid → s'.Entered (h ++ [(s, e)]) uid) ∧
        ∀ email password, r.credentials = some (email, password) →
          Typed (h ++ [(s, e)]) email password := by
    intro r hu hc
    rw [hu, hc]
    exact ⟨fun _ h => (by cases h), fun _ _ h => (by cases h)⟩
  refine (step_moves hs).forall_pending ?_ ?_ ?_ ?_ ?_ ?_ ?_ ?_ ?_ ?_ ?_
  · intro r hr
    obtain ⟨hu, hc⟩ := hv.requests r hr
    exact ⟨fun uid h => hkeep (hu uid h), fun em pw h => (hc em pw h).append _⟩
  · intro covered email password username _ _ he
    refine ⟨fun _ h => (by cases h), fun em pw h => ?_⟩
    cases h
    exact ⟨(s, e), List.mem_append_right _ (List.mem_singleton.mpr rfl), _, _, he⟩
  · intro covered email password username _ he
    refine ⟨fun _ h => (by cases h), fun em pw h => ?_⟩
    cases h
    exact ⟨(s, e), List.mem_append_right _ (List.mem_singleton.mpr rfl), _, _, he⟩
  · exact hnone _ rfl rfl
  · intro uid hu
    refine ⟨fun uid' h => ?_, fun _ _ h => (by cases h)⟩
    cases h
    exact hkeep (hv.defaults uid hu)
  · intro _ _ _ _ _
    exact hnone _ rfl rfl
  · intro i uid email r r' accounts he hr ha hq
    subst he
    have hacc : s'.accounts = accounts := by
      simp only [Session.step, hr, ha, Option.map_some, Option.some.injEq] at hs
      rw [← hs]
    obtain ⟨hent, hu, hc⟩ := Request.entered_of_authenticate hq.2 ha hacc
    rw [hu, hc]
    refine ⟨fun uid' h => ?_, fun _ _ h => (by cases h)⟩
    cases h
    exact hent
  · intro r r' database' hc hq
    obtain ⟨-, huid, hcred⟩ := Request.uid_of_commit hc
    refine ⟨fun uid hu => hq.1 uid (huid uid hu), fun em pw h => ?_⟩
    rw [hcred] at h
    cases h
  · intro tap vc uid email username hq
    exact ⟨hq.1, fun _ _ h => (by cases h)⟩
  · intro tap view username uid _ hu
    refine ⟨fun uid' h => ?_, fun _ _ h => (by cases h)⟩
    cases h
    exact hkeep (hv.currentUser uid hu)
  · intro _ _
    exact hnone _ rfl rfl

theorem step_vouched {database : Database} (hv : s.Vouched database h)
    (hs : Session.step s e = some s') : s'.Vouched database (h ++ [(s, e)]) := by
  have hkeep : ∀ {uid : Uid}, s.Entered h uid → s'.Entered (h ++ [(s, e)]) uid :=
    fun hent => hent.append hs
  refine ⟨?_, ?_, ?_, step_requests_vouched hv hs, ?_⟩
  · intro uid hu
    rcases step_defaults hs with hd | ⟨-, hd⟩ | ⟨i, tap, r, uid', -, hr, ho, hd⟩
    · rw [hd] at hu
      exact hkeep (hv.defaults uid hu)
    · rw [hd] at hu
      exact hkeep (hv.defaults uid hu)
    · rw [hd] at hu
      cases hu
      exact hkeep ((hv.requests r (List.mem_of_getElem? hr)).1 uid (Request.uid_of_opens ho))
  · intro uid hu
    rcases step_currentUser hs with hc | hc | ⟨i, uid', email, r, r', rfl, hr, ha, hc⟩
    · rw [hc] at hu
      exact hkeep (hv.currentUser uid hu)
    · rw [hc] at hu
      cases hu
    · rw [hc] at hu
      cases hu
      have hcred := (hv.requests r (List.mem_of_getElem? hr)).2
      exact (Request.entered_of_authenticate (fun em pw hem => (hcred em pw hem).append _) ha rfl).1
  · intro screen hmem uid hc
    rcases (step_moves hs).captured_of_mem hmem hc with ⟨q, hq, hqc⟩ | hd
    · exact hkeep (hv.tables q hq uid hqc)
    · exact hkeep (hv.defaults uid hd)
  · intro v hmem
    rcases step_database hs with hd | ⟨i, r, r', -, hr, hc⟩
    · rw [hd] at hmem
      exact (hv.records v hmem).imp id hkeep
    · rcases (Request.uid_of_commit hc).1 v hmem with hold | hnew
      · exact (hv.records v hold).imp id hkeep
      · exact Or.inr (hkeep ((hv.requests r (List.mem_of_getElem? hr)).1 v.uid hnew))

end

theorem Session.vouched_launch (accounts : List Account) (database : Database) :
    (Session.launch accounts database).Vouched database [] := by
  refine ⟨?_, ?_, ?_, ?_, fun v hv => Or.inl hv⟩
  · intro uid hu
    cases hu
  · intro uid hu
    cases hu
  · intro screen hmem uid hc
    rw [Session.launch, List.mem_singleton] at hmem
    rw [hmem] at hc
    cases hc
  · intro r hr
    cases hr

/-- In every run each uid the session holds, in `UserDefaults`, as the signed-in user,
in a table or in a request, is that of an account whose email and password have been
typed in this run.  So is the uid of each record that was written. -/
theorem uids_entered {accounts : List Account} {database : Database} {s : Session}
    {h : List (Session × Event)} (hr : Run Session.step (.launch accounts database) h s) :
    s.Vouched database h :=
  hr.history_invariant (I := fun h s => s.Vouched database h)
    (Session.vouched_launch accounts database) fun _ _ _ _ hv hs => step_vouched hv hs

/-! ## What the records hold -/

/-- What a record may hold: its own uid, a name that is not empty, an email. -/
structure ChildValue.Sound (v : ChildValue) : Prop where
  key : v.key ∈ ["uid", "username", "email"]
  uid : v.key = "uid" → v.value = v.uid
  username : v.key = "username" → v.value ≠ ""

/-- The name a request is to store. -/
def Request.name : Request → Option String
  | .createUser _ _ _ _ username => some username
  | .userCreated _ _ _ _ username => some username
  | .updateProfile _ _ _ username _ => some username
  | .firebaseOp _ _ username => some username
  | .updateUsername _ _ username => some username
  | _ => none

/-- The name that a tap is to store. -/
def Event.name : Event → Option String
  | .loginSignUpButtonTapped (some "Sign Up") _ _ username => username
  | .saveChangesButtonTapped username => username
  | _ => none

section
variable {s s' : Session} {e : Event} {r r' : Request}

theorem Request.name_of_authenticate {uid : Uid} {email : Option String}
    {accounts accounts' : List Account}
    (h : r.authenticate uid email accounts = some (r', accounts')) {name : String}
    (hn : r'.name = some name) : r.name = some name := by
  rcases Request.authenticate_cases h with ⟨_, _, _, _, _, rfl, rfl⟩ | ⟨_, _, _, _, rfl, rfl⟩
  · exact hn
  · cases hn

theorem Request.name_of_commit {database database' : Database}
    (h : r.commit database = some (r', database')) : r'.name = none := by
  rcases Request.commit_cases h with ⟨_, _, _, _, _, -, rfl, -⟩ | ⟨_, _, _, -, rfl, -⟩
  · rfl
  · rfl

/-- A commit adds values a record may hold, if the name is not empty. -/
theorem Request.sound_of_commit {database database' : Database}
    (h : r.commit database = some (r', database')) (hn : ∀ name, r.name = some name → name ≠ "")
    (hd : ∀ v ∈ database, v.Sound) : ∀ v ∈ database', v.Sound := by
  intro v hv
  rcases Request.commit_cases h with
    ⟨_, _, uid, username, email, rfl, -, rfl⟩ | ⟨_, uid, username, rfl, -, rfl⟩
  · simp only [Database.updateChildValues, List.map_cons, List.map_nil, List.cons_append,
      List.nil_append, List.mem_cons] at hv
    rcases hv with rfl | rfl | rfl | hv
    · exact ⟨by simp, fun _ => rfl, fun hk => absurd hk (by simp)⟩
    · exact ⟨by simp, fun hk => absurd hk (by simp), fun _ => hn _ rfl⟩
    · exact ⟨by simp, fun hk => absurd hk (by simp), fun hk => absurd hk (by simp)⟩
    · exact hd v hv
  · simp only [Database.updateChildValues, List.map_cons, List.map_nil, List.cons_append,
      List.nil_append, List.mem_cons] at hv
    rcases hv with rfl | hv
    · exact ⟨by simp, fun hk => absurd hk (by simp), fun _ => hn _ rfl⟩
    · exact hd v hv

/-- A username that a commit adds is the name of the request. -/
theorem Request.username_of_commit {database database' : Database}
    (h : r.commit database = some (r', database')) {v : ChildValue} (hv : v ∈ database')
    (hk : v.key = "username") : v ∈ database ∨ r.name = some v.value := by
  rcases Request.commit_cases h with
    ⟨_, _, uid, username, email, rfl, -, rfl⟩ | ⟨_, uid, username, rfl, -, rfl⟩
  · simp only [Database.updateChildValues, List.map_cons, List.map_nil, List.cons_append,
      List.nil_append, List.mem_cons] at hv
    rcases hv with rfl | rfl | rfl | hv
    · exact absurd hk (by simp)
    · exact Or.inr rfl
    · exact absurd hk (by simp)
    · exact Or.inl hv
  · simp only [Database.updateChildValues, List.map_cons, List.map_nil, List.cons_append,
      List.nil_append, List.mem_cons] at hv
    rcases hv with rfl | hv
    · exact Or.inr rfl
    · exact Or.inl hv

/-- Every name that a request carries came with a tap, and is not empty. -/
theorem step_names {P : String → Prop}
    (h : ∀ r ∈ s.pending, ∀ name, r.name = some name → P name)
    (he : ∀ name, e.name = some name → name ≠ "" → P name) (hs : Session.step s e = some s') :
    ∀ r ∈ s'.pending, ∀ name, r.name = some name → P name := by
  refine (step_moves hs).forall_pending h ?_ ?_ ?_ ?_ ?_ ?_ ?_ ?_ ?_ ?_
  · rintro _ _ _ username _ hne rfl name hn
    cases hn
    exact he _ rfl hne
  · intro _ _ _ _ _ _ name hn
    cases hn
  · intro name hn
    cases hn
  · intro _ _ name hn
    cases hn
  · rintro _ _ username hne rfl name hn
    cases hn
    exact he _ rfl hne
  · intro _ _ _ _ _ _ _ _ ha hq name hn
    exact hq name (Request.name_of_authenticate ha hn)
  · intro _ _ _ hc _ name hn
    rw [Request.name_of_commit hc] at hn
    cases hn
  · intro _ _ _ _ _ hq name hn
    exact hq name hn
  · intro _ _ _ _ hq _ name hn
    exact hq name hn
  · intro _ _ name hn
    cases hn

/-- The username cache is kept, emptied by a launch, or filled with a name that was read. -/
theorem step_username (hs : Session.step s e = some s') :
    s'.username = s.username ∨ s'.username = "" ∨ ∃ uid, s.Reads uid s'.username := by
  cases step_effect hs with
  | tap _ hk _ => exact Or.inl hk.username
  | loaded hk _ _ => exact Or.inl hk.username
  | done _ _ _ hk _ => exact Or.inl hk.username
  | named _ hread => exact Or.inr (Or.inr ⟨_, hread⟩)
  | launched => exact Or.inr (Or.inl rfl)
  | _ => exact Or.inl rfl

/-- A name that is read is stored, or a request is to store it. -/
theorem Session.Reads.cases {uid : Uid} {username : String} (h : s.Reads uid username) :
    s.database.Stored uid "username" username ∨ ∃ r ∈ s.pending, r.name = some username := by
  refine h.imp_right fun hwaiting => ?_
  obtain ⟨r, hr, hw⟩ := hwaiting
  refine ⟨r, hr, ?_⟩
  cases r with
  | updateProfile _ _ _ _ _ =>
      cases hw
      rfl
  | updateUsername _ _ _ =>
      cases hw
      rfl
  | _ => cases hw

/-- Every username that is stored was carried by a request. -/
theorem step_usernames {P : String → Prop}
    (h : ∀ r ∈ s.pending, ∀ name, r.name = some name → P name) (hs : Session.step s e = some s')
    {v : ChildValue} (hv : v ∈ s'.database) (hk : v.key = "username") :
    v ∈ s.database ∨ P v.value := by
  rcases step_database hs with hsame | ⟨i, r, r', -, hr, hc⟩
  · rw [hsame] at hv
    exact Or.inl hv
  · exact (Request.username_of_commit hc hv hk).imp id fun hn =>
      h r (List.mem_of_getElem? hr) v.value hn

end

/-- In every run the records hold under `uid` their own uid, under `username` a name
that is not empty, and nothing but these and an email, if they did at the start. -/
theorem records_sound {accounts : List Account} {database : Database} {s : Session}
    {h : List (Session × Event)} (hr : Run Session.step (.launch accounts database) h s)
    (hd : ∀ v ∈ database, v.Sound) : ∀ v ∈ s.database, v.Sound := by
  refine (hr.invariant (I := fun s => (∀ v ∈ s.database, v.Sound) ∧
    ∀ r ∈ s.pending, ∀ name, r.name = some name → name ≠ "") ⟨hd, ?_⟩ ?_).1
  · intro r hr
    cases hr
  · rintro s e s' ⟨hd, hn⟩ hs
    refine ⟨?_, step_names hn (fun _ _ hne => hne) hs⟩
    rcases step_database hs with hsame | ⟨i, r, r', -, hr, hc⟩
    · rw [hsame]
      exact hd
    · exact Request.sound_of_commit hc (hn r (List.mem_of_getElem? hr)) hd

/-! ## A sign-up and a save -/

/-- `eve` signs up, and her profile is written. -/
def signUpRun : List Event :=
  [.loginSignUpButtonTapped (some "Sign Up") (some "eve@mail.com") (some "apple") (some "eve"),
    .authenticated 0 "e" (some "eve@mail.com"), .completed 0 .success, .committed 0,
    .completed 0 .success]

/-- The state it ends in. -/
def signedUp : Session := endState Session.step adaLaunch signUpRun rfl

theorem signedUp_run :
    Run Session.step adaLaunch (history Session.step adaLaunch signUpRun) signedUp :=
  endState_run rfl

theorem uids_entered_signedUp :
    signedUp.Vouched [] (history Session.step adaLaunch signUpRun) :=
  uids_entered signedUp_run

theorem records_sound_signedUp :
    signedUp.database.child "e" "username" = some "eve" ∧ ∀ v ∈ signedUp.database, v.Sound :=
  ⟨by decide, records_sound signedUp_run fun _ hv => absurd hv List.not_mem_nil⟩

end WaterMyPlants
