import WaterMyPlants.App.Step

/-!
# No crash

What keeps plants well-formed is that a table, and so an add, is reached only
with a uid in `UserDefaults`.  The session sets it before it presents a table,
never removes it, and opens a table at launch only when somebody is logged in.
With that every run of the app keeps the invariant of the garden, and no branch
that crashes is ever taken.
-/

namespace WaterMyPlants

open Transition

/-- Where somebody is logged in or a table is on screen, `UserDefaults` has a uid,
and so has the table once it has loaded. -/
structure Session.HasUser (s : Session) : Prop where
  loggedIn : s.defaults.isUserLoggedIn = true → s.defaults.uid.isSome = true
  table : ∀ frc, s.table = some frc → s.defaults.uid.isSome = true
  captured : ∀ captured, s.table = some (some captured) → captured.isSome = true

section
variable {s s' : Session} {e : Event}

theorem Session.HasUser.kept (h : s.HasUser) (hd : s'.defaults = s.defaults)
    (ht : s'.table = s.table) : s'.HasUser := by
  refine ⟨?_, ?_, ?_⟩
  · rw [hd]
    exact h.loggedIn
  · rw [hd, ht]
    exact h.table
  · rw [ht]
    exact h.captured

theorem step_hasUser (h : s.HasUser) (hs : Session.step s e = some s') : s'.HasUser := by
  cases step_effect hs with
  | tap _ hk ht => exact h.kept hk.defaults ht
  | loaded hk hu ht =>
      have hsome := h.table none hu
      refine ⟨?_, ?_, ?_⟩
      · intro _
        rw [hk.defaults]
        exact hsome
      · intro _ _
        rw [hk.defaults]
        exact hsome
      · intro captured hc
        rw [ht, Option.some.injEq, Option.some.injEq] at hc
        rw [← hc]
        exact hsome
  | loggedOut =>
      refine ⟨?_, ?_, ?_⟩
      · intro hl
        cases hl
      · intro _ ht
        cases ht
      · intro _ ht
        cases ht
  | done _ _ _ hk ht => exact h.kept hk.defaults ht
  | @opened i tap vc r uid hr ho =>
      refine ⟨fun _ => rfl, fun _ _ => rfl, fun captured hc => ?_⟩
      simp only [Session.table, LoginViewController.showTable, Session.present] at hc
      split at hc
      next => cases hc
      next => exact h.captured captured hc
  | launched =>
      refine ⟨h.loggedIn, fun frc ht => ?_, fun captured ht => ?_⟩
      · refine h.loggedIn ?_
        by_contra hl
        simp [Session.table, SceneDelegate.scene, hl, Screen.table] at ht
      · simp only [Session.table, SceneDelegate.scene] at ht
        split at ht
        next => cases ht
        next => cases ht
  | _ => exact h.kept rfl rfl

end

section
variable {uid captured : Option Uid} {now : Date} {disk : Disk} {c : Context} {a : Action}
  {hd : Handled}

/-- On a table with a uid the handler is that of the garden. -/
theorem Action.handleOn_some (hc : captured.isSome = true) :
    ∃ shown, captured = some shown ∧
      a.handleOn uid captured now disk c = a.handle uid shown now disk c := by
  obtain ⟨shown, rfl⟩ := Option.isSome_iff_exists.mp hc
  exact ⟨shown, rfl, rfl⟩

theorem waterTapped_isSome (hw : ∀ o ∈ c.objects.list, o.2.WellFormed) (indexPath : Nat) :
    (waterTapped captured c indexPath).isSome = true := by
  simp only [waterTapped]
  split
  next => rfl
  next row hrow =>
    obtain ⟨shown, -, hrow⟩ := Option.bind_eq_some_iff.mp hrow
    split
    next => rfl
    next watering hwat =>
      rw [if_pos]
      · rfl
      · exact (hw _ (mem_of_row hrow).1).watering_pos hwat

end

/-- Nothing the user can do in this state crashes: every plant shown is
well-formed, no handler of the table traps, no save is rejected, and no
notification is scheduled without a delay. -/
structure App.Safe (app : App) : Prop where
  wellFormed : ∀ o ∈ app.context.objects.list, o.2.WellFormed
  handles : ∀ captured, app.plants = some captured → ∀ (a : Action) (now : Date) (disk : Disk),
    ∃ h, a.handleOn app.session.defaults.uid captured now disk app.context = some h ∧
      h.save ≠ some .invalid
  waters : ∀ captured, app.plants = some captured → ∀ indexPath,
    (waterTapped captured app.context indexPath).isSome = true
  delays : ∀ o ∈ app.context.objects.list, ∀ watering,
    LocalNotifications.waterPlantNotification o.2 = some watering → 0 < watering.timeInterval

/-- A step of the app keeps the uid where it is needed and every plant
well-formed. -/
theorem App.step_invariant {app app' : App} {e : AppEvent} (hu : app.session.HasUser)
    (hw : app.context.WellFormed) (hs : App.step app e = some app') :
    app'.session.HasUser ∧ app'.context.WellFormed := by
  cases e with
  | session e =>
      obtain ⟨session, hx, rfl⟩ := Option.map_eq_some_iff.mp hs
      refine ⟨step_hasUser hu hx, ?_⟩
      dsimp only
      split
      next => exact ⟨hw.2, hw.2⟩
      next => exact hw
  | garden action now disk =>
      obtain ⟨captured, hp, hs⟩ := Option.bind_eq_some_iff.mp hs
      obtain ⟨h, hh, rfl⟩ := Option.map_eq_some_iff.mp hs
      -- a table on screen has a uid, and so has the add it leads to
      have htab := App.table_of_plants hp
      obtain ⟨shown, -, hx⟩ := Action.handleOn_some (hu.captured _ htab)
      rw [hx] at hh
      exact ⟨hu, handle_wellFormed (hu.table _ htab) hw hh⟩
  | water indexPath =>
      obtain ⟨captured, hp, hs⟩ := Option.bind_eq_some_iff.mp hs
      obtain ⟨watering, hx, rfl⟩ := Option.map_eq_some_iff.mp hs
      exact ⟨hu, hw⟩

/-- In every state of every run from a first launch with an empty store, nothing
the user can do crashes. -/
theorem app_safe {accounts : List Account} {database : Database} {h : List (App × AppEvent)}
    {app : App} (hr : Run App.step (.launch accounts database) h app) : app.Safe := by
  have hinv : app.session.HasUser ∧ app.context.WellFormed := by
    refine hr.invariant ?_ fun app e app' hi hs => App.step_invariant hi.1 hi.2 hs
    refine ⟨⟨?_, ?_, ?_⟩, Context.wellFormed_empty⟩
    · intro hl
      cases hl
    · intro _ ht
      cases ht
    · intro _ ht
      cases ht
  obtain ⟨hu, hw⟩ := hinv
  refine ⟨hw.1, ?_, fun captured _ i => waterTapped_isSome hw.1 i, ?_⟩
  · intro captured hp a now disk
    have htab := App.table_of_plants hp
    obtain ⟨shown, -, hx⟩ := Action.handleOn_some (hu.captured _ htab)
    rw [hx]
    obtain ⟨hd, hh⟩ := Option.isSome_iff_exists.mp (handle_isSome hw)
    exact ⟨hd, hh, handle_save_valid (hu.table _ htab) hw hh⟩
  · intro o ho watering hwat
    exact (hw.1 o ho).watering_pos hwat

/-- A login, an add, a relaunch and a watering. -/
def dayRun : List AppEvent :=
  [.session (.loginSignUpButtonTapped (some "Sign Up") (some "ada@mail.com") (some "secret")
      (some "ada")),
    .session (.authenticated 0 "a" (some "ada@mail.com")), .session (.completed 0 .success),
    .session (.committed 0), .session (.completed 0 .success), .session .tableLoaded,
    .garden (.add ⟨some "Fern", some "Nephrolepis", none, 1⟩) 1 ⟨true, true⟩,
    .session .launched, .session .tableLoaded, .water 0]

/-- The state it ends in. -/
def day : App := endState App.step (.launch [] []) dayRun rfl

theorem app_safe_day : day.Safe := app_safe (endState_run rfl)

end WaterMyPlants
