import WaterMyPlants.Session.Step

/-!
# Logging out

`logoutButtonTapped` clears `isUserLoggedIn` and cancels nothing.  The
completions of a login and of a sign-up set the key again, whenever they run.
So a logout lasts exactly when no request that was made before it logs in after
it.
-/

namespace WaterMyPlants

open Transition

/-- The event is the completion, without error, that ends the login or sign-up
that was tapped as number `tap`. -/
def LogsIn (s : Session) (e : Event) (tap : Nat) : Prop :=
  ∃ i r uid, e = .completed i .success ∧ s.pending[i]? = some r ∧ r.opens = some (tap, uid)

/-- What is promised after a logout: nobody is logged in, and no launch opens the
plant table. -/
def LoggedOut (h : List (Session × Event)) (s : Session) : Prop :=
  (∀ d ∈ visited h s, d.defaults.isUserLoggedIn = false) ∧
    ∀ d d', (d, Event.launched) ∈ h → Session.step d .launched = some d' → d'.screens = [.login]

section
variable {s s' : Session} {e : Event}

/-- A completion that logs in sets both keys. -/
theorem step_of_opens {i tap : Nat} {r : Request} {uid : Uid} (hr : s.pending[i]? = some r)
    (ho : r.opens = some (tap, uid)) :
    ∃ vc, Session.step s (.completed i .success) =
      some (LoginViewController.showTable vc uid (s.drop i)) := by
  simp only [Session.step, hr]
  cases r with
  | profileUpdated tap' vc uid' => cases ho; exact ⟨vc, rfl⟩
  | signedIn tap' vc uid' => cases ho; exact ⟨vc, rfl⟩
  | _ => cases ho

/-- Only the completion of a login or a sign-up sets `isUserLoggedIn`. -/
theorem step_loggedOut (hs : Session.step s e = some s') (hl : s.defaults.isUserLoggedIn = false)
    (hn : ∀ tap, ¬ LogsIn s e tap) : s'.defaults.isUserLoggedIn = false := by
  rcases step_defaults hs with hd | ⟨-, hd⟩ | ⟨i, tap, r, uid, he, hr, ho, -⟩
  · rw [hd, hl]
  · rw [hd]
  · exact absurd ⟨i, r, uid, he, hr, ho⟩ (hn tap)

end

/-- After a logout, and until a login or sign-up tapped after it succeeds, nobody
is logged in and no launch opens the plant table, exactly when no request tapped
before the logout logs in. -/
theorem logout_final_iff {s s₁ t : Session} {h : List (Session × Event)}
    (hs : Session.step s .logoutButtonTapped = some s₁) (hr : Run Session.step s₁ h t)
    (hfresh : Meets (fun d e => ∀ tap, s₁.taps ≤ tap → ¬ LogsIn d e tap) h) :
    LoggedOut h t ↔ Meets (fun d e => ∀ tap < s₁.taps, ¬ LogsIn d e tap) h := by
  constructor
  · intro hout ⟨d, e⟩ hp tap _ ⟨i, r, uid, he, hpend, ho⟩
    obtain ⟨d', hd', hv⟩ := hr.step_of_mem hp
    obtain ⟨vc, hx⟩ := step_of_opens hpend ho
    dsimp only at he
    rw [he, hx, Option.some.injEq] at hd'
    have hl := hout.1 d' hv
    rw [← hd'] at hl
    cases hl
  · intro hold
    have hnone : Meets (fun d e => ∀ tap, ¬ LogsIn d e tap) h := by
      intro p hp tap
      rcases Nat.lt_or_ge tap s₁.taps with hlt | hge
      · exact hold p hp tap hlt
      · exact hfresh p hp tap hge
    have hall : ∀ d ∈ visited h t, d.defaults.isUserLoggedIn = false := by
      refine hr.visited_invariant hnone ?_ fun d e d' hl hn hd => step_loggedOut hd hl hn
      cases step_effect hs with
      | tap ht _ _ => cases ht
      | loggedOut => rfl
    refine ⟨hall, ?_⟩
    intro d d' hp hd
    have hl := hall d (mem_visited.mpr (Or.inl ⟨_, hp⟩))
    cases hd
    simp [SceneDelegate.scene, hl]

/-! ## A login tapped twice -/

/-- The account of `ada`. -/
def adaAccount : Account := ⟨"a", "ada@mail.com", "secret"⟩

/-- The first launch, with her account on the server. -/
abbrev adaLaunch : Session := .launch [adaAccount] []

/-- Login is tapped twice.  The first request logs in, and `ada` logs out. -/
def twiceRun : List Event :=
  [.loginSignUpButtonTapped (some "Login") (some "ada@mail.com") (some "secret") none,
    .loginSignUpButtonTapped (some "Login") (some "ada@mail.com") (some "secret") none,
    .authenticated 0 "a" none, .completed 0 .success, .tableLoaded, .settingsShown]

/-- The state before the logout. -/
def twice : Session := endState Session.step adaLaunch twiceRun rfl

theorem twice_run : Run Session.step adaLaunch (history Session.step adaLaunch twiceRun) twice :=
  endState_run rfl

/-- The state after it. -/
def left : Session := (Session.step twice .logoutButtonTapped).get (by decide)

theorem twice_step : Session.step twice .logoutButtonTapped = some left :=
  (Option.some_get _).symm

/-- The second request is accepted and completes. -/
def backRun : List Event :=
  [.completed 2 .success, .authenticated 0 "a" none, .completed 0 .success]

/-- The state after that. -/
def back : Session := endState Session.step left backRun rfl

theorem back_run : Run Session.step left (history Session.step left backRun) back :=
  endState_run rfl

/-- Every login of the run was tapped before the logout. -/
theorem back_not_fresh :
    Meets (fun d e => ∀ tap, left.taps ≤ tap → ¬ LogsIn d e tap)
      (history Session.step left backRun) := by
  have hall : ∀ p ∈ history Session.step left backRun, ∀ r ∈ p.1.pending,
      ∀ o ∈ r.opens, o.1 < left.taps := by decide
  intro p hp tap htap hin
  obtain ⟨i, r, uid, -, hr, ho⟩ := hin
  have hlt := hall p hp r (List.mem_of_getElem? hr) _ ho
  dsimp only at hlt
  omega

/-- The request tapped before the logout logs back in. -/
theorem logged_back_in :
    ¬ ∀ (accounts : List Account) (database : Database) (s s₁ t : Session)
      (h₀ h : List (Session × Event)), Run Session.step (.launch accounts database) h₀ s →
      Session.step s .logoutButtonTapped = some s₁ → Run Session.step s₁ h t →
      Meets (fun d e => ∀ tap, s₁.taps ≤ tap → ¬ LogsIn d e tap) h → LoggedOut h t := by
  intro hall
  have hout := hall _ _ _ _ _ _ _ twice_run twice_step back_run back_not_fresh
  have hback : back.defaults.isUserLoggedIn = true := by decide
  rw [hout.1 back (mem_visited.mpr (Or.inr rfl))] at hback
  cases hback

theorem logout_final_iff_back :
    LoggedOut (history Session.step left backRun) back ↔
      Meets (fun d e => ∀ tap < left.taps, ¬ LogsIn d e tap) (history Session.step left backRun) :=
  logout_final_iff twice_step back_run back_not_fresh

end WaterMyPlants
