import WaterMyPlants.Session.Logout

/-!
# The profile record

A sign-up makes an account first and writes the record of its user after that.
It logs in only when the write has gone through.  A login looks at the account
alone.  So everybody logged in has a record exactly when every login is of a
user whose record had been written.
-/

namespace WaterMyPlants

open Transition

/-- The record of a user has all its fields. -/
def Database.Complete (uid : Uid) (database : Database) : Prop :=
  ∀ key ∈ ["uid", "username", "email"], (database.child uid key).isSome = true

/-- If somebody is logged in, the user in `UserDefaults` has a complete record. -/
def Session.ProfileHeld (s : Session) : Prop :=
  s.defaults.isUserLoggedIn = true → ∃ uid, s.defaults.uid = some uid ∧ s.database.Complete uid

/-- The profile a sign-up writes has been committed for the user. -/
def ProfileWritten (h : List (Session × Event)) (uid : Uid) : Prop :=
  ∃ d i tap vc username email, (d, Event.committed i) ∈ h ∧
    d.pending[i]? = some (.updateProfile tap vc uid username email)

/-- Every login that completes is of a user whose profile had been committed. -/
def LoginsAfterProfile (h : List (Session × Event)) : Prop :=
  ∀ before d i after tap vc uid, h = before ++ (d, Event.completed i .success) :: after →
    d.pending[i]? = some (.signedIn tap vc uid) → ProfileWritten before uid

section
variable {s s' : Session} {e : Event} {uid : Uid} {h : List (Session × Event)}

theorem Database.Complete.mono {database database' : Database} (hc : database.Complete uid)
    (hsub : ∀ v ∈ database, v ∈ database') : database'.Complete uid := by
  intro key hk
  obtain ⟨value, hv⟩ := Database.child_isSome.mp (hc key hk)
  exact Database.child_isSome.mpr ⟨value, hsub _ hv⟩

theorem Database.complete_updateChildValues (uid : Uid) (username email : String)
    (database : Database) :
    (database.updateChildValues uid
      [("uid", uid), ("username", username), ("email", email)]).Complete uid := by
  intro key hk
  refine Database.child_isSome.mpr ?_
  simp only [List.mem_cons, List.not_mem_nil, or_false] at hk
  rcases hk with rfl | rfl | rfl
  · exact ⟨uid, by simp [Database.Stored, Database.updateChildValues]⟩
  · exact ⟨username, by simp [Database.Stored, Database.updateChildValues]⟩
  · exact ⟨email, by simp [Database.Stored, Database.updateChildValues]⟩

theorem ProfileWritten.append (hw : ProfileWritten h uid) (h' : List (Session × Event)) :
    ProfileWritten (h ++ h') uid := by
  obtain ⟨d, i, tap, vc, username, email, hd, hp⟩ := hw
  exact ⟨d, i, tap, vc, username, email, List.mem_append_left _ hd, hp⟩

/-! ## What the database and the pending requests say of a profile -/

/-- The value under the key `uid` comes from the write of a profile. -/
theorem step_uid_stored {value : String} (hs : Session.step s e = some s')
    (h' : s'.database.Stored uid "uid" value) :
    s.database.Stored uid "uid" value ∨ ProfileWritten [(s, e)] uid := by
  rcases step_database hs with hd | ⟨i, r, r', rfl, hr, hc⟩
  · rw [hd] at h'
    exact Or.inl h'
  · rcases Request.commit_cases hc with
      ⟨tap, vc, uid', username, email, rfl, -, hd⟩ | ⟨tap, uid', username, rfl, -, hd⟩
    · rw [hd] at h'
      rcases List.mem_append.mp h' with h' | h'
      · obtain ⟨p, -, hp⟩ := List.mem_map.mp h'
        obtain rfl : uid' = uid := (ChildValue.mk.inj hp).1
        exact Or.inr ⟨s, i, tap, vc, username, email, List.mem_singleton.mpr rfl, hr⟩
      · exact Or.inl h'
    · -- a write of the username has no other key
      rw [hd] at h'
      rcases List.mem_append.mp h' with h' | h'
      · obtain ⟨p, hp, hv⟩ := List.mem_map.mp h'
        rw [List.mem_singleton] at hp
        rw [hp] at hv
        have hkey : "username" = "uid" := (ChildValue.mk.inj hv).2.1
        exact absurd hkey (by decide)
      · exact Or.inl h'

/-- A committed profile write is pending only after its commit. -/
theorem step_profileUpdated {tap vc : Nat} (hs : Session.step s e = some s')
    (hp : .profileUpdated tap vc uid ∈ s'.pending) :
    .profileUpdated tap vc uid ∈ s.pending ∨ ProfileWritten [(s, e)] uid := by
  have hnew : ∀ {q q' : Session}, q.Kept q' → .profileUpdated tap vc uid ∈ q'.pending →
      .profileUpdated tap vc uid ∈ q.pending := by
    intro q q' hk hq
    obtain ⟨rs, hrs, hn⟩ := hk.pending
    rw [hrs, List.mem_append] at hq
    rcases hq with hq | hq
    · exact hq
    · cases hn _ hq
  cases step_effect hs with
  | tap _ hk _ => exact Or.inl (hnew hk hp)
  | loaded hk _ _ => exact Or.inl (hnew hk hp)
  | loggedOut =>
      refine Or.inl ?_
      simpa [SettingsViewController.logoutButtonTapped, Session.request] using hp
  | authenticated hr ha =>
      rcases List.mem_or_eq_of_mem_set hp with hp | hp
      · exact Or.inl hp
      · subst hp
        rcases Request.authenticate_cases ha with ⟨_, _, _, _, _, -, hx⟩ | ⟨_, _, _, _, -, hx⟩
        · cases hx
        · cases hx
  | @committed i r r' database hr hc =>
      rcases List.mem_or_eq_of_mem_set hp with hp | hp
      · exact Or.inl hp
      · subst hp
        rcases Request.commit_cases hc with
          ⟨_, _, _, username, email, rfl, hx, -⟩ | ⟨_, _, _, -, hx, -⟩
        · cases hx
          exact Or.inr ⟨s, i, tap, vc, username, email, List.mem_singleton.mpr rfl, hr⟩
        · cases hx
  | done _ _ _ hk _ => exact Or.inl (List.mem_of_mem_eraseIdx (hnew hk hp))
  | created _ =>
      rcases List.mem_append.mp hp with hp | hp
      · exact Or.inl (List.mem_of_mem_eraseIdx hp)
      · cases List.mem_singleton.mp hp
  | gaveUp _ _ => exact Or.inl (List.mem_of_mem_eraseIdx hp)
  | opened _ _ => exact Or.inl (List.mem_of_mem_eraseIdx hp)
  | signedOut _ => exact Or.inl (List.mem_of_mem_eraseIdx hp)
  | named _ _ => exact Or.inl (List.mem_of_mem_eraseIdx hp)
  | launched => cases hp

/-- A profile that has been written is complete. -/
theorem step_profileWritten (hs : Session.step s e = some s') (hw : ProfileWritten [(s, e)] uid) :
    s'.database.Complete uid := by
  obtain ⟨d, i, tap, vc, username, email, hd, hp⟩ := hw
  rw [List.mem_singleton] at hd
  cases hd
  simp only [Session.step, hp, Request.commit, Option.map_some, Option.some.injEq] at hs
  subst hs
  exact Database.complete_updateChildValues _ _ _ _

end

/-- What a run from an empty database says of profiles. -/
structure Traced (h : List (Session × Event)) (s : Session) : Prop where
  complete : ∀ uid, ProfileWritten h uid → s.database.Complete uid
  stored : ∀ uid value, s.database.Stored uid "uid" value → ProfileWritten h uid
  pending : ∀ tap vc uid, .profileUpdated tap vc uid ∈ s.pending → ProfileWritten h uid

theorem profileWritten_append {h h' : List (Session × Event)} {uid : Uid} :
    ProfileWritten (h ++ h') uid ↔ ProfileWritten h uid ∨ ProfileWritten h' uid := by
  constructor
  · intro hw
    obtain ⟨d, i, tap, vc, username, email, hd, hp⟩ := hw
    rcases List.mem_append.mp hd with hd | hd
    · exact Or.inl ⟨d, i, tap, vc, username, email, hd, hp⟩
    · exact Or.inr ⟨d, i, tap, vc, username, email, hd, hp⟩
  · intro hw
    rcases hw with hw | ⟨d, i, tap, vc, username, email, hd, hp⟩
    · exact hw.append h'
    · exact ⟨d, i, tap, vc, username, email, List.mem_append_right _ hd, hp⟩

theorem run_traced {h : List (Session × Event)} {s : Session}
    (hr : Run Session.step (.launch [] []) h s) : Traced h s := by
  refine hr.history_invariant ⟨?_, ?_, ?_⟩ ?_
  · intro uid hw
    obtain ⟨d, i, tap, vc, username, email, hd, -⟩ := hw
    cases hd
  · intro uid value hst
    cases hst
  · intro tap vc uid hp
    cases hp
  · intro h s e s' ht hs
    refine ⟨?_, ?_, ?_⟩
    · intro uid hw
      rcases profileWritten_append.mp hw with hw | hw
      · exact (ht.complete uid hw).mono (step_database_mono hs)
      · exact step_profileWritten hs hw
    · intro uid value hst
      refine profileWritten_append.mpr ?_
      rcases step_uid_stored hs hst with hst | hw
      · exact Or.inl (ht.stored uid value hst)
      · exact Or.inr hw
    · intro tap vc uid hp
      refine profileWritten_append.mpr ?_
      rcases step_profileUpdated hs hp with hp | hw
      · exact Or.inl (ht.pending tap vc uid hp)
      · exact Or.inr hw

theorem LoginsAfterProfile.left {h h' : List (Session × Event)}
    (hl : LoginsAfterProfile (h ++ h')) : LoginsAfterProfile h := by
  intro before d i after tap vc uid hh hp
  exact hl before d i (after ++ h') tap vc uid (by simp [hh]) hp

/-- Where logins come after profiles, whoever is logged in has one. -/
theorem run_profileHeld {h : List (Session × Event)} {s : Session}
    (hr : Run Session.step (.launch [] []) h s) (hl : LoginsAfterProfile h) : s.ProfileHeld := by
  induction hr with
  | refl =>
      intro hin
      cases hin
  | @tail h s s' e hr hs ih =>
      have ht := run_traced hr
      have hheld := ih hl.left
      rcases step_defaults hs with hd | ⟨-, hd⟩ | ⟨i, tap, r, uid, rfl, hp, ho, hd⟩
      · intro hin
        rw [hd] at hin ⊢
        obtain ⟨uid, hu, hc⟩ := hheld hin
        exact ⟨uid, hu, hc.mono (step_database_mono hs)⟩
      · intro hin
        rw [hd] at hin
        cases hin
      · intro _
        rw [hd]
        refine ⟨uid, rfl, ?_⟩
        -- a login needs the condition, and a sign-up logs in after its write
        refine Database.Complete.mono (ht.complete uid ?_) (step_database_mono hs)
        cases r with
        | profileUpdated tap' vc' uid' =>
            cases ho
            exact ht.pending _ _ _ (List.mem_of_getElem? hp)
        | signedIn tap' vc' uid' =>
            cases ho
            exact hl h s i [] _ _ _ rfl hp
        | _ => cases ho

/-- In a run from an empty database with no accounts, everybody logged in has a
complete record, in every state, exactly when every login that completes is of a
user whose profile had been committed. -/
theorem profile_held_iff {h : List (Session × Event)} {s : Session}
    (hr : Run Session.step (.launch [] []) h s) :
    (∀ d ∈ visited h s, d.ProfileHeld) ↔ LoginsAfterProfile h := by
  constructor
  · rintro hheld before d i after tap vc uid rfl hp
    obtain ⟨d', hd', hv⟩ := hr.step_of_mem (List.mem_append_right _ (List.mem_cons_self ..))
    obtain ⟨vc', hx⟩ := step_of_opens hp rfl
    rw [hx, Option.some.injEq] at hd'
    subst hd'
    obtain ⟨uid', hu, hc⟩ := hheld _ hv rfl
    obtain rfl := Option.some.inj hu
    obtain ⟨value, hst⟩ := Database.child_isSome.mp (hc "uid" (by simp))
    exact (run_traced hr.before).stored uid value hst
  · intro hl d hd
    rcases mem_visited.mp hd with ⟨e, he⟩ | rfl
    · obtain ⟨before, after, rfl⟩ := List.append_of_mem he
      exact run_profileHeld hr.before hl.left
    · exact run_profileHeld hr hl

/-! ## A profile that is never written -/

/-- `ada` signs up, and the write of her profile fails.  Then she logs in. -/
def halfRun : List Event :=
  [.loginSignUpButtonTapped (some "Sign Up") (some "ada@mail.com") (some "secret") (some "ada"),
    .authenticated 0 "a" (some "ada@mail.com"), .completed 0 .success, .completed 0 .failure,
    .loginSignUpButtonTapped (some "Login") (some "ada@mail.com") (some "secret") none,
    .authenticated 0 "a" none, .completed 0 .success]

/-- The state it ends in. -/
def half : Session := endState Session.step (.launch [] []) halfRun rfl

theorem half_run :
    Run Session.step (.launch [] []) (history Session.step (.launch [] []) halfRun) half :=
  endState_run rfl

/-- `ada` is logged in and has no record. -/
theorem no_profile_logged_in :
    ¬ ∀ (h : List (Session × Event)) (s : Session), Run Session.step (.launch [] []) h s →
      ∀ d ∈ visited h s, d.ProfileHeld := by
  intro hall
  obtain ⟨uid, hu, hc⟩ := hall _ _ half_run half (mem_visited.mpr (Or.inr rfl)) (by decide)
  have hsome := hc "uid" (by simp)
  have hnone : ∀ u ∈ half.defaults.uid, half.database.child u "uid" = none := by decide
  rw [hnone uid hu] at hsome
  cases hsome

theorem profile_held_iff_half :
    (∀ d ∈ visited (history Session.step (.launch [] []) halfRun) half, d.ProfileHeld) ↔
      LoginsAfterProfile (history Session.step (.launch [] []) halfRun) :=
  profile_held_iff half_run

end WaterMyPlants
