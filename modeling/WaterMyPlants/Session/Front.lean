import WaterMyPlants.Session.Logout
import WaterMyPlants.Session.Moves

/-!
# The screen in front

The login screen presents the plant table, and the settings screen presents the
login screen.  Nothing is ever dismissed but an alert.  So the screens pile up, a
table over a login screen over a table, and a request that still names its login
screen by its place names a login screen whenever it completes.

A table is in front only while `isUserLoggedIn` is set.  The converse fails when a
login completes while an alert covers its screen: `present` does nothing, and the
key is set with no table to show for it (`Strands`).
-/

namespace WaterMyPlants

open Transition

/-! ## The pile of screens -/

/-- A login screen. -/
def Screen.isLogin : Screen → Bool
  | .login => true
  | _ => false

/-- An alert. -/
def Screen.isAlert : Screen → Bool
  | .alert _ _ => true
  | _ => false

/-- The screens below an alert. -/
def Screen.base : List Screen → List Screen
  | .alert _ _ :: covered => covered
  | screens => screens

/-- There is one alert at most, and it is on top.  Below it login screens and
tables take turns. -/
structure Screen.Stacked (screens : List Screen) : Prop where
  nonempty : Screen.base screens ≠ []
  alerts : ∀ screen ∈ Screen.base screens, screen.isAlert = false
  turns : (Screen.base screens).IsChain fun above below => above.isLogin = !below.isLogin

/-- The `vc`-th screen is a login screen. -/
def Screen.Hosts (screens : List Screen) (vc : Nat) : Prop :=
  ∃ covered, .login :: covered <:+ screens ∧ covered.length = vc

/-- Every request that names a screen names a login screen. -/
def Session.Hosted (s : Session) : Prop :=
  ∀ r ∈ s.pending, ∀ vc, r.vc = some vc → Screen.Hosts s.screens vc

namespace Screen

variable {screen below : Screen} {screens covered : List Screen} {vc : Nat}

theorem Hosts.cons (h : Hosts screens vc) : Hosts (screen :: screens) vc := by
  obtain ⟨covered, hs, hc⟩ := h
  exact ⟨covered, hs.trans (List.suffix_cons _ _), hc⟩

theorem Hosts.present {vc' : Nat} (h : Hosts screens vc) :
    Hosts (Screen.present vc' screen screens) vc := by
  rw [Screen.present]
  split
  next => exact h.cons
  next => exact h

/-- A screen that is not a login screen may go. -/
theorem Hosts.tail (h : Hosts (screen :: covered) vc) (hl : screen.isLogin = false) :
    Hosts covered vc := by
  obtain ⟨below, hs, hc⟩ := h
  rcases List.suffix_cons_iff.mp hs with heq | hs
  · cases heq
    cases hl
  · exact ⟨below, hs, hc⟩

/-- A host that nothing covers is on top. -/
theorem Hosts.top (h : Hosts screens vc) (hl : screens.length = vc + 1) :
    ∃ covered, screens = .login :: covered := by
  obtain ⟨covered, hs, hc⟩ := h
  exact ⟨covered, (hs.eq_of_length (by rw [List.length_cons, hc, hl])).symm⟩

theorem base_of_not_alert (h : screen.isAlert = false) :
    base (screen :: covered) = screen :: covered := by
  cases screen with
  | alert _ _ => cases h
  | login => rfl
  | plants _ _ => rfl

/-- A screen may cover one of the other kind. -/
theorem Stacked.cons (h : Stacked (below :: covered)) (hb : below.isAlert = false)
    (hs : screen.isAlert = false) (hl : screen.isLogin = !below.isLogin) :
    Stacked (screen :: below :: covered) := by
  obtain ⟨-, halerts, hturns⟩ := h
  rw [base_of_not_alert hb] at halerts hturns
  refine ⟨?_, ?_, ?_⟩
  · rw [base_of_not_alert hs]
    exact List.cons_ne_nil _ _
  · rw [base_of_not_alert hs]
    intro x hx
    rcases List.mem_cons.mp hx with rfl | hx
    · exact hs
    · exact halerts x hx
  · rw [base_of_not_alert hs]
    exact List.isChain_cons_cons.mpr ⟨hl, hturns⟩

/-- An alert may cover any screen but an alert. -/
theorem Stacked.alert {title message : String} (h : Stacked (below :: covered))
    (hb : below.isAlert = false) : Stacked (.alert title message :: below :: covered) := by
  obtain ⟨-, halerts, hturns⟩ := h
  rw [base_of_not_alert hb] at halerts hturns
  exact ⟨List.cons_ne_nil _ _, halerts, hturns⟩

theorem Stacked.dismiss {title message : String} (h : Stacked (.alert title message :: covered)) :
    Stacked covered := by
  obtain ⟨hne, halerts, hturns⟩ := h
  cases covered with
  | nil => exact absurd rfl hne
  | cons top covered =>
      have htop := halerts top (List.mem_cons_self ..)
      refine ⟨?_, ?_, ?_⟩
      · rw [base_of_not_alert htop]
        exact hne
      · rw [base_of_not_alert htop]
        exact halerts
      · rw [base_of_not_alert htop]
        exact hturns

/-- The table on top may change what it holds. -/
theorem Stacked.table {frc frc' : Option (Option Uid)}
    {settings settings' : Option SettingsViewController}
    (h : Stacked (.plants frc settings :: covered)) :
    Stacked (.plants frc' settings' :: covered) := by
  obtain ⟨-, halerts, hturns⟩ := h
  refine ⟨List.cons_ne_nil _ _, ?_, ?_⟩
  · intro x hx
    rcases List.mem_cons.mp hx with rfl | hx
    · rfl
    · exact halerts x (List.mem_cons_of_mem _ hx)
  · cases covered with
    | nil => exact List.IsChain.singleton _
    | cons below covered =>
        have hturns := List.isChain_cons_cons.mp hturns
        exact List.isChain_cons_cons.mpr ⟨hturns.1, hturns.2⟩

/-- A login screen on top may present an alert or a table. -/
theorem Stacked.present (h : Stacked screens) (hh : Hosts screens vc)
    (hl : screen.isLogin = false) : Stacked (Screen.present vc screen screens) := by
  rw [Screen.present]
  split
  next hlen =>
    obtain ⟨covered, rfl⟩ := hh.top hlen
    cases screen with
    | alert _ _ => exact h.alert rfl
    | plants _ _ => exact h.cons rfl rfl rfl
    | login => cases hl
  next => exact h

end Screen

/-! ## Every run keeps the pile -/

section
variable {s s' : Session} {e : Event} {screens : List Screen} {pending : List Request}

theorem Request.authenticate_vc {uid : Uid} {email : Option String} {r r' : Request}
    {accounts accounts' : List Account}
    (h : r.authenticate uid email accounts = some (r', accounts')) : r'.vc = r.vc := by
  rcases Request.authenticate_cases h with ⟨_, _, _, _, _, rfl, rfl⟩ | ⟨_, _, _, _, rfl, rfl⟩
  · rfl
  · rfl

theorem Request.commit_vc {r r' : Request} {database database' : Database}
    (h : r.commit database = some (r', database')) : r'.vc = r.vc := by
  rcases Request.commit_cases h with ⟨_, _, _, _, _, rfl, rfl, -⟩ | ⟨_, _, _, rfl, rfl, -⟩
  · rfl
  · rfl

/-- A login screen stays where it is, until the process ends. -/
theorem Session.Moves.hosts {vc : Nat} (h : s.Moves e screens pending) (he : e ≠ .launched)
    (hh : Screen.Hosts s.screens vc) : Screen.Hosts screens vc := by
  cases h with
  | refused hs => exact hh.cons
  | dismissed hs =>
      rw [hs] at hh
      exact hh.tail rfl
  | loaded hs =>
      rw [hs] at hh
      exact (hh.tail rfl).cons
  | shown hs =>
      rw [hs] at hh
      exact (hh.tail rfl).cons
  | closed hs =>
      rw [hs] at hh
      exact (hh.tail rfl).cons
  | loggedOut hs => exact hh.cons
  | rejected hr hv ha => exact hh.present
  | opened hr ho hv => exact hh.present
  | fired hr =>
      split
      next => exact hh.cons
      next => exact hh
  | launched => exact absurd rfl he
  | _ => exact hh

theorem Session.Moves.launched_pending (h : s.Moves .launched screens pending) : pending = [] := by
  cases h
  rfl

/-- A request that names a screen was issued on the login screen on top, or came of
one that names the same. -/
theorem step_hosted (h : s.Hosted) (hs : Session.step s e = some s') : s'.Hosted := by
  have hmoves := step_moves hs
  by_cases he : e = .launched
  · subst he
    intro r hr
    rw [hmoves.launched_pending] at hr
    cases hr
  have hbefore : ∀ r ∈ s'.pending, ∀ vc, r.vc = some vc → Screen.Hosts s.screens vc := by
    refine hmoves.forall_pending h ?_ ?_ ?_ ?_ ?_ ?_ ?_ ?_ ?_ ?_
    · intro covered _ _ _ hscreens _ _ vc hv
      cases hv
      exact ⟨covered, hscreens ▸ List.suffix_refl _, rfl⟩
    · intro covered _ _ _ hscreens _ vc hv
      cases hv
      exact ⟨covered, hscreens ▸ List.suffix_refl _, rfl⟩
    · intro vc hv
      cases hv
    · intro _ _ vc hv
      cases hv
    · intro _ _ _ _ _ vc hv
      cases hv
    · intro _ _ _ r r' _ _ _ ha hq vc hv
      rw [Request.authenticate_vc ha] at hv
      exact hq vc hv
    · intro r r' _ hc hq vc hv
      rw [Request.commit_vc hc] at hv
      exact hq vc hv
    · intro _ vc' _ _ _ hq vc hv
      exact hq vc hv
    · intro _ _ _ _ _ _ vc hv
      cases hv
    · intro _ _ vc hv
      cases hv
  exact fun r hr vc hv => hmoves.hosts he (hbefore r hr vc hv)

theorem SceneDelegate.scene_stacked (defaults : UserDefaults) :
    Screen.Stacked (SceneDelegate.scene defaults) := by
  rw [SceneDelegate.scene]
  split
  next => exact ⟨List.cons_ne_nil _ _, by simp [Screen.base, Screen.isAlert], .singleton _⟩
  next => exact ⟨List.cons_ne_nil _ _, by simp [Screen.base, Screen.isAlert], .singleton _⟩

/-- The success alert covers a settings screen. -/
theorem Screen.Stacked.success {view : Nat} {title message : String}
    (h : Screen.Stacked s.screens) (hu : SettingsViewController.Uncovered view s = true) :
    Screen.Stacked (.alert title message :: s.screens) := by
  rw [SettingsViewController.Uncovered] at hu
  split at hu
  next hs =>
    rw [hs] at h ⊢
    exact h.alert rfl
  next => cases hu

theorem Session.Moves.stacked (h : s.Moves e screens pending) (hh : s.Hosted)
    (hst : Screen.Stacked s.screens) : Screen.Stacked screens := by
  have hhosts : ∀ {i vc : Nat} {r : Request}, s.pending[i]? = some r → r.vc = some vc →
      Screen.Hosts s.screens vc := fun hr hv => hh _ (List.mem_of_getElem? hr) _ hv
  cases h with
  | refused hs =>
      rw [hs] at hst ⊢
      exact hst.alert rfl
  | dismissed hs =>
      rw [hs] at hst
      exact hst.dismiss
  | loaded hs =>
      rw [hs] at hst
      exact hst.table
  | shown hs =>
      rw [hs] at hst
      exact hst.table
  | closed hs =>
      rw [hs] at hst
      exact hst.table
  | loggedOut hs =>
      rw [hs] at hst ⊢
      exact hst.cons rfl rfl rfl
  | rejected hr hv _ => exact hst.present (hhosts hr hv) rfl
  | opened hr _ hv => exact hst.present (hhosts hr hv) rfl
  | fired _ =>
      split
      next hu => exact hst.success hu
      next => exact hst
  | launched => exact SceneDelegate.scene_stacked _
  | _ => exact hst

end

/-- In every run there is one alert at most, and it is on top.  Below it login
screens and tables take turns, so a login presents its table on a login screen, and
every request that names a screen names a login screen. -/
theorem screens_stacked {accounts : List Account} {database : Database} {s : Session}
    {h : List (Session × Event)} (hr : Run Session.step (.launch accounts database) h s) :
    Screen.Stacked s.screens ∧ s.Hosted := by
  refine hr.invariant (I := fun s => Screen.Stacked s.screens ∧ s.Hosted) ⟨?_, ?_⟩ ?_
  · exact SceneDelegate.scene_stacked ⟨false, none⟩
  · intro r hr
    cases hr
  · intro s e s' hinv hs
    exact ⟨(step_moves hs).stacked hinv.2 hinv.1, step_hosted hinv.2 hs⟩

/-! ## The table and the key -/

/-- A login completes while something covers its login screen and no table is in
front. -/
def Strands (s : Session) (e : Event) : Prop :=
  ∃ i r tap uid vc, e = .completed i .success ∧ s.pending[i]? = some r ∧
    r.opens = some (tap, uid) ∧ r.vc = some vc ∧ s.screens.length ≠ vc + 1 ∧ s.table = none

section
variable {s s' : Session} {e : Event}

/-- A completion that logs in presents a table on its login screen. -/
theorem step_opened {i tap vc : Nat} {r : Request} {uid : Uid} (hr : s.pending[i]? = some r)
    (ho : r.opens = some (tap, uid)) (hv : r.vc = some vc) :
    Session.step s (.completed i .success) =
      some (LoginViewController.showTable vc uid (s.drop i)) := by
  simp only [Session.step, hr]
  cases r with
  | profileUpdated _ _ _ =>
      cases ho
      cases hv
      rfl
  | signedIn _ _ _ =>
      cases ho
      cases hv
      rfl
  | _ => cases ho

/-- The table that is in front after a login: a new one, or the one that was. -/
theorem LoginViewController.showTable_table (vc : Nat) (uid : Uid) (s : Session) :
    (showTable vc uid s).table = if s.screens.length = vc + 1 then some none else s.table := by
  simp only [showTable, Session.present, Session.table]
  split
  next => rfl
  next => rfl

theorem Request.vc_of_opens {r : Request} {tap : Nat} {uid : Uid} (ho : r.opens = some (tap, uid)) :
    ∃ vc, r.vc = some vc := by
  cases r with
  | profileUpdated _ vc _ => exact ⟨vc, rfl⟩
  | signedIn _ vc _ => exact ⟨vc, rfl⟩
  | _ => cases ho

/-- A table is in front only while the key is set. -/
theorem step_loggedIn_of_table (h : s.table.isSome = true → s.defaults.isUserLoggedIn = true)
    (hs : Session.step s e = some s') :
    s'.table.isSome = true → s'.defaults.isUserLoggedIn = true := by
  cases step_effect hs with
  | tap _ hk ht =>
      rw [ht, hk.defaults]
      exact h
  | loaded hk hu ht =>
      rw [hk.defaults]
      intro _
      exact h (by rw [hu]; rfl)
  | loggedOut =>
      intro ht
      cases ht
  | done _ _ _ hk ht =>
      rw [ht, hk.defaults]
      exact h
  | opened _ _ => exact fun _ => rfl
  | launched =>
      simp only [Session.table, SceneDelegate.scene]
      split
      next hl => exact fun _ => hl
      next =>
        intro ht
        cases ht
  | _ => exact h

/-- While the key is set a table is in front, unless a login is stranded. -/
theorem step_table_of_loggedIn (h : s.defaults.isUserLoggedIn = true → s.table.isSome = true)
    (hn : ¬ Strands s e) (hs : Session.step s e = some s') :
    s'.defaults.isUserLoggedIn = true → s'.table.isSome = true := by
  cases step_effect hs with
  | tap _ hk ht =>
      rw [ht, hk.defaults]
      exact h
  | loaded _ _ ht => exact fun _ => by rw [ht]; rfl
  | loggedOut =>
      intro hl
      cases hl
  | done _ _ _ hk ht =>
      rw [ht, hk.defaults]
      exact h
  | @opened i tap _ r uid hr ho =>
      intro _
      obtain ⟨vc, hv⟩ := Request.vc_of_opens ho
      have hx := step_opened hr ho hv
      rw [hs, Option.some.injEq] at hx
      rw [hx, LoginViewController.showTable_table]
      split
      next => rfl
      next hlen =>
        -- something covers the login screen, so a table must
        by_contra ht
        rw [Option.not_isSome_iff_eq_none] at ht
        exact hn ⟨i, r, tap, uid, vc, rfl, hr, ho, hv, hlen, ht⟩
  | launched =>
      intro hl
      have hl : s.defaults.isUserLoggedIn = true := hl
      simp [Session.table, SceneDelegate.scene, hl, Screen.table]
  | _ => exact h

/-- A stranded login sets the key and leaves no table in front. -/
theorem Strands.leaves (h : Strands s e) (hs : Session.step s e = some s') :
    s'.defaults.isUserLoggedIn = true ∧ s'.table = none := by
  obtain ⟨i, r, tap, uid, vc, rfl, hr, ho, hv, hlen, ht⟩ := h
  rw [step_opened hr ho hv, Option.some.injEq] at hs
  rw [← hs, LoginViewController.showTable_table]
  exact ⟨rfl, (if_neg hlen).trans ht⟩

end

/-- In every run a plant table is in front only while somebody is logged in. -/
theorem no_table_logged_out {accounts : List Account} {database : Database} {s : Session}
    {h : List (Session × Event)} (hr : Run Session.step (.launch accounts database) h s) :
    s.table.isSome = true → s.defaults.isUserLoggedIn = true := by
  refine hr.invariant ?_ fun s e s' hinv hs => step_loggedIn_of_table hinv hs
  intro ht
  cases ht

/-- In every run a plant table is in front whenever somebody is logged in, exactly
when no login completes while something covers its screen and no table is in front. -/
theorem table_in_front_iff {accounts : List Account} {database : Database} {s : Session}
    {h : List (Session × Event)} (hr : Run Session.step (.launch accounts database) h s) :
    (∀ d ∈ visited h s, d.defaults.isUserLoggedIn = true → d.table.isSome = true) ↔
      Meets (fun d e => ¬ Strands d e) h := by
  constructor
  · intro hfront ⟨d, e⟩ hp hst
    obtain ⟨d', hd', hv⟩ := hr.step_of_mem hp
    obtain ⟨hl, ht⟩ := hst.leaves hd'
    have hsome := hfront d' hv hl
    rw [ht] at hsome
    cases hsome
  · intro hm
    refine hr.visited_invariant hm ?_ fun d e d' hinv hn hd => step_table_of_loggedIn hinv hn hd
    intro hl
    cases hl

/-! ## A login under an alert -/

/-- `ada` taps Login, and again with an empty field.  The alert of the second tap is
up when the first completes. -/
def strandedRun : List Event :=
  [.loginSignUpButtonTapped (some "Login") (some "ada@mail.com") (some "secret") none,
    .loginSignUpButtonTapped (some "Login") none (some "secret") none,
    .authenticated 0 "a" none, .completed 0 .success, .alertDismissed]

/-- The state it ends in: logged in, and on the login screen. -/
def stranded : Session := endState Session.step adaLaunch strandedRun rfl

theorem stranded_run :
    Run Session.step adaLaunch (history Session.step adaLaunch strandedRun) stranded :=
  endState_run rfl

example : stranded.defaults.isUserLoggedIn = true ∧ stranded.screens = [.login] := by decide

theorem screens_stacked_stranded : Screen.Stacked stranded.screens ∧ stranded.Hosted :=
  screens_stacked stranded_run

theorem no_table_logged_out_twice :
    twice.table.isSome = true ∧ twice.defaults.isUserLoggedIn = true :=
  ⟨by decide, no_table_logged_out twice_run (by decide)⟩

theorem table_in_front_iff_stranded :
    (∀ d ∈ visited (history Session.step adaLaunch strandedRun) stranded,
        d.defaults.isUserLoggedIn = true → d.table.isSome = true) ↔
      Meets (fun d e => ¬ Strands d e) (history Session.step adaLaunch strandedRun) :=
  table_in_front_iff stranded_run

end WaterMyPlants
