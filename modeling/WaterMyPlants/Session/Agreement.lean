import WaterMyPlants.Session.Logout

/-!
# Who is logged in

While a table is on screen and nothing is under way, `UserDefaults`, Firebase
Auth and the table should name one user.  They are set by different steps: Auth
when it accepts a request, `UserDefaults` when that request has completed, the
table when it loads.  Requests that overlap can leave them apart, and
`Session.Crosses` lists the steps that do.

`Session.Coherent` is the invariant of the runs without such steps.  In it Auth
may be ahead of `UserDefaults`, as long as a pending request will catch up.
-/

namespace WaterMyPlants

open Transition

/-- The three notions of who is logged in agree, when a table is on screen and
no login, sign-up or logout is under way. -/
def Session.Agreed (s : Session) : Prop :=
  s.defaults.isUserLoggedIn = true → (∀ r ∈ s.pending, r.ofSession = false) →
    ∀ shown, s.table = some (some shown) → shown = s.defaults.uid ∧ s.currentUser = s.defaults.uid

/-- A pending request is to log in a user that Auth has accepted. -/
def Accepted (pending : List Request) (uid : Uid) : Prop :=
  ∃ r ∈ pending, r.accepted = some uid

/-- The signed-in user is `uid`, or a pending request is to log that user in. -/
def Session.Covers (s : Session) (uid : Option Uid) : Prop :=
  s.currentUser = uid ∨ ∃ user, s.currentUser = some user ∧ Accepted s.pending user

/-- A step that takes the three apart. -/
inductive Session.Crosses (s : Session) : Event → Prop where
  /-- A login completes while Auth has gone on to a user nobody is to log in. -/
  | outrun {i tap : Nat} {r : Request} {uid : Uid} :
      s.pending[i]? = some r → r.opens = some (tap, uid) → ¬ (s.drop i).Covers (some uid) →
      s.Crosses (.completed i .success)
  /-- A login completes behind the table of another user. -/
  | behind {i tap : Nat} {r : Request} {uid : Uid} {shown : Option Uid} :
      s.pending[i]? = some r → r.opens = some (tap, uid) → s.table = some (some shown) →
      shown ≠ some uid → s.Crosses (.completed i .success)
  /-- A sign-up gives up while another user is logged in. -/
  | abandoned {i : Nat} {r : Request} {uid : Uid} {reply : Reply} :
      s.pending[i]? = some r → r.GivesUp uid reply → s.defaults.isUserLoggedIn = true →
      ¬ (s.drop i).Covers s.defaults.uid → s.Crosses (.completed i reply)
  /-- A logout signs out while somebody is logged in again. -/
  | signedOut {i : Nat} :
      s.pending[i]? = some .signOut → s.defaults.isUserLoggedIn = true →
      s.Crosses (.completed i .success)
  /-- The app is launched again while Auth is ahead of `UserDefaults`. -/
  | launched :
      s.defaults.isUserLoggedIn = true → s.currentUser ≠ s.defaults.uid → s.Crosses .launched

/-- While somebody is logged in, the table on screen is theirs, and so is the
signed-in user or a pending request is to catch up with it. -/
def Session.Coherent (s : Session) : Prop :=
  s.defaults.isUserLoggedIn = true →
    (∀ shown, s.table = some (some shown) → shown = s.defaults.uid) ∧ s.Covers s.defaults.uid

/-! ## Pending requests -/

section
variable {pending : List Request} {uid : Uid} {i : Nat} {r r' : Request}

theorem Accepted.append (h : Accepted pending uid) (rs : List Request) :
    Accepted (pending ++ rs) uid := by
  obtain ⟨q, hq, hu⟩ := h
  exact ⟨q, List.mem_append_left _ hq, hu⟩

/-- A request for nobody, or for somebody else, can leave. -/
theorem Accepted.eraseIdx (h : Accepted pending uid) (hr : pending[i]? = some r)
    (hne : r.accepted ≠ some uid) : Accepted (pending.eraseIdx i) uid := by
  obtain ⟨q, hq, hu⟩ := h
  obtain ⟨j, hj⟩ := List.mem_iff_getElem?.mp hq
  refine ⟨q, List.mem_eraseIdx_iff_getElem?.mpr ⟨j, ?_, hj⟩, hu⟩
  rintro rfl
  rw [hr, Option.some.injEq] at hj
  exact hne (by rw [hj, hu])

theorem Accepted.set (h : Accepted pending uid) (hr : pending[i]? = some r)
    (hr' : r'.accepted = r.accepted) : Accepted (pending.set i r') uid := by
  obtain ⟨q, hq, hu⟩ := h
  obtain ⟨j, hj⟩ := List.mem_iff_getElem?.mp hq
  by_cases hij : i = j
  · subst hij
    rw [hr, Option.some.injEq] at hj
    subst hj
    exact ⟨r', List.mem_set (List.getElem?_eq_some_iff.mp hr).1 _, hr'.trans hu⟩
  · exact ⟨q, List.mem_iff_getElem?.mpr ⟨j, by rw [List.getElem?_set_ne hij, hj]⟩, hu⟩

theorem Accepted.of_set (hr : pending[i]? = some r) (hr' : r'.accepted = some uid) :
    Accepted (pending.set i r') uid :=
  ⟨r', List.mem_set (List.getElem?_eq_some_iff.mp hr).1 _, hr'⟩

theorem Request.authenticate_accepted {email : Option String} {accounts accounts' : List Account}
    (h : r.authenticate uid email accounts = some (r', accounts')) : r'.accepted = some uid := by
  rcases Request.authenticate_cases h with ⟨_, _, _, _, _, -, rfl⟩ | ⟨_, _, _, _, -, rfl⟩
  · rfl
  · rfl

theorem Request.commit_accepted {database database' : Database}
    (h : r.commit database = some (r', database')) : r'.accepted = r.accepted := by
  rcases Request.commit_cases h with ⟨_, _, _, _, _, rfl, rfl, -⟩ | ⟨_, _, _, rfl, rfl, -⟩
  · rfl
  · rfl

end

/-! ## The invariant -/

section
variable {s s' : Session} {e : Event}

/-- What is kept keeps the cover. -/
theorem Session.Covers.kept {uid : Option Uid} (h : s.Covers uid) (hk : s.Kept s') :
    s'.Covers uid := by
  obtain ⟨rs, hp, -⟩ := hk.pending
  rcases h with h | ⟨user, h, ha⟩
  · exact Or.inl (hk.currentUser.trans h)
  · refine Or.inr ⟨user, hk.currentUser.trans h, ?_⟩
    rw [hp]
    exact ha.append rs

theorem Session.Covers.drop {uid : Option Uid} {i : Nat} {r : Request} (h : s.Covers uid)
    (hr : s.pending[i]? = some r) (hn : r.accepted = none) : (s.drop i).Covers uid := by
  rcases h with h | ⟨user, h, ha⟩
  · exact Or.inl h
  · exact Or.inr ⟨user, h, ha.eraseIdx hr (by simp [hn])⟩

theorem Session.Coherent.kept (h : s.Coherent) (hk : s.Kept s')
    (ht : ∀ shown, s'.table = some (some shown) → s.table = some (some shown) ∨
      shown = s.defaults.uid) : s'.Coherent := by
  intro hl
  rw [hk.defaults] at hl ⊢
  obtain ⟨htab, hcov⟩ := h hl
  refine ⟨fun shown hs => ?_, hcov.kept hk⟩
  rcases ht shown hs with hs | hs
  · exact htab shown hs
  · exact hs

/-- A step that does not cross keeps the session coherent. -/
theorem step_coherent (h : s.Coherent) (hc : ¬ s.Crosses e) (hs : Session.step s e = some s') :
    s'.Coherent := by
  cases step_effect hs with
  | tap _ hk ht => exact h.kept hk fun shown hx => Or.inl (ht ▸ hx)
  | loaded hk _ ht =>
      refine h.kept hk fun shown hx => Or.inr ?_
      rw [ht, Option.some.injEq, Option.some.injEq] at hx
      exact hx.symm
  | loggedOut =>
      intro hl
      cases hl
  | authenticated hr ha =>
      -- Auth goes ahead, and the request that made it do so is to catch up
      intro hl
      exact ⟨(h hl).1, Or.inr ⟨_, rfl, .of_set hr (Request.authenticate_accepted ha)⟩⟩
  | committed hr hcm =>
      intro hl
      obtain ⟨htab, hcov⟩ := h hl
      refine ⟨htab, ?_⟩
      rcases hcov with hcov | ⟨user, hcov, ha⟩
      · exact Or.inl hcov
      · exact Or.inr ⟨user, hcov, ha.set hr (Request.commit_accepted hcm)⟩
  | done hr hn _ hk ht =>
      refine Session.Coherent.kept ?_ hk fun shown hx => Or.inl (ht ▸ hx)
      intro hl
      exact ⟨(h hl).1, (h hl).2.drop hr hn⟩
  | @created i tap vc uid username email hr =>
      intro hl
      obtain ⟨htab, hcov⟩ := h hl
      refine ⟨htab, ?_⟩
      rcases hcov with hcov | ⟨user, hcov, ha⟩
      · exact Or.inl hcov
      · refine Or.inr ⟨user, hcov, ?_⟩
        by_cases hu : uid = user
        · -- the write is for the user the request was for
          exact ⟨_, List.mem_append_right _ (List.mem_singleton.mpr rfl), congrArg some hu⟩
        · exact (ha.eraseIdx hr fun hx => hu (Option.some.inj hx)).append _
  | gaveUp hr hg =>
      intro hl
      refine ⟨(h hl).1, ?_⟩
      by_contra hcov
      exact hc (.abandoned hr hg hl hcov)
  | @opened i tap vc r uid hr ho =>
      intro _
      constructor
      · intro shown hx
        by_contra hne
        simp only [Session.table, LoginViewController.showTable, Session.present] at hx
        -- either the new table is on top and has not loaded, or the old one still is
        split at hx
        next => cases hx
        next => exact hc (.behind hr ho hx hne)
      · by_contra hcov
        exact hc (.outrun hr ho hcov)
  | signedOut hr =>
      intro hl
      exact absurd (.signedOut hr hl) hc
  | named hr _ =>
      intro hl
      exact ⟨(h hl).1, (h hl).2.drop hr rfl⟩
  | launched =>
      intro hl
      refine ⟨fun shown hx => ?_, Or.inl ?_⟩
      · have hscene : SceneDelegate.scene s.defaults = [.plants none none] := if_pos hl
        simp only [Session.table, hscene, Screen.table] at hx
        cases hx
      · by_contra hne
        exact hc (.launched hl hne)

theorem Session.Coherent.agreed (h : s.Coherent) : s.Agreed := by
  intro hl hp shown hs
  obtain ⟨htab, hcov⟩ := h hl
  refine ⟨htab shown hs, ?_⟩
  rcases hcov with hcov | ⟨user, -, r, hr, ha⟩
  · exact hcov
  · have hn := hp r hr
    cases r with
    | userCreated _ _ _ _ _ => cases hn
    | updateProfile _ _ _ _ _ => cases hn
    | profileUpdated _ _ _ => cases hn
    | signedIn _ _ _ => cases hn
    | _ => cases ha

end

/-- In every state of a run without crossing steps the three notions of who is
logged in agree. -/
theorem session_agrees {accounts : List Account} {database : Database} {s : Session}
    {h : List (Session × Event)} (hr : Run Session.step (.launch accounts database) h s)
    (hm : Meets (fun d e => ¬ d.Crosses e) h) : ∀ d ∈ visited h s, d.Agreed := by
  intro d hd
  refine Session.Coherent.agreed (hr.visited_invariant hm ?_ ?_ d hd)
  · intro hl
    cases hl
  · intro d e d' hcoh hc hs
    exact step_coherent hcoh hc hs

/-! ## Two requests that overlap -/

/-- `ada` logs in and her table loads. -/
def loginRun : List Event :=
  [.loginSignUpButtonTapped (some "Login") (some "ada@mail.com") (some "secret") none,
    .authenticated 0 "a" none, .completed 0 .success, .tableLoaded]

/-- The state it ends in. -/
def loggedIn : Session := endState Session.step adaLaunch loginRun rfl

theorem loggedIn_run :
    Run Session.step adaLaunch (history Session.step adaLaunch loginRun) loggedIn :=
  endState_run rfl

theorem loggedIn_not_crossing :
    Meets (fun d e => ¬ d.Crosses e) (history Session.step adaLaunch loginRun) := by
  have hall : ∀ p ∈ history Session.step adaLaunch loginRun,
      (∀ r ∈ p.1.pending, r ≠ .signOut ∧ ∀ o ∈ r.opens, p.1.currentUser = some o.2) ∧
        p.1.table = none ∧ p.1.defaults.isUserLoggedIn = false ∨ p.2 = .tableLoaded := by decide
  intro ⟨d, e⟩ hp hc
  rcases hall _ hp with ⟨hpend, htab, hl⟩ | ht
  · cases hc with
    | outrun hr ho hcov => exact hcov (Or.inl ((hpend _ (List.mem_of_getElem? hr)).2 _ ho))
    | behind hr ho ht hne =>
        rw [htab] at ht
        cases ht
    | abandoned hr hg hl' hcov =>
        rw [hl] at hl'
        cases hl'
    | signedOut hr hl' =>
        rw [hl] at hl'
        cases hl'
    | launched hl' hne =>
        rw [hl] at hl'
        cases hl'
  · dsimp only at ht hc
    rw [ht] at hc
    cases hc

theorem session_agrees_loggedIn :
    some "a" = loggedIn.defaults.uid ∧ loggedIn.currentUser = loggedIn.defaults.uid :=
  session_agrees loggedIn_run loggedIn_not_crossing loggedIn (mem_visited.mpr (Or.inr rfl))
    (by decide) (by decide) (some "a") (by decide)

/-- `bob` signs up, and while his profile is written `ada` logs in and her table
loads.  Then the write completes. -/
def overlapRun : List Event :=
  [.loginSignUpButtonTapped (some "Sign Up") (some "bob@mail.com") (some "hidden") (some "bob"),
    .authenticated 0 "b" (some "bob@mail.com"), .completed 0 .success,
    .loginSignUpButtonTapped (some "Login") (some "ada@mail.com") (some "secret") none,
    .authenticated 1 "a" none, .completed 1 .success, .tableLoaded,
    .committed 0, .completed 0 .success, .completed 0 .failure]

/-- The state it ends in. -/
def overlap : Session := endState Session.step adaLaunch overlapRun rfl

theorem overlap_run :
    Run Session.step adaLaunch (history Session.step adaLaunch overlapRun) overlap :=
  endState_run rfl

/-- `UserDefaults` names `bob`, Auth and the table name `ada`, and nothing is
pending. -/
theorem overlap_disagrees :
    ¬ ∀ (accounts : List Account) (database : Database) (s : Session)
      (h : List (Session × Event)), Run Session.step (.launch accounts database) h s →
      ∀ d ∈ visited h s, d.Agreed := by
  intro hall
  have hagreed := hall _ _ _ _ overlap_run overlap (mem_visited.mpr (Or.inr rfl))
  have hpend : ∀ r ∈ overlap.pending, r.ofSession = false := by decide
  obtain ⟨-, hcur⟩ := hagreed (by decide) hpend (some "a") (by decide)
  have hne : overlap.currentUser ≠ overlap.defaults.uid := by decide
  exact hne hcur

end WaterMyPlants
