import WaterMyPlants.App.Owners

/-!
# What a relaunch keeps

The context lives with the process and the store does not.  A relaunch starts from the
store, and the store is what the context held after the last save that went through.  A
save that fails leaves its change pending, and the next one that goes through
writes it too.
-/

namespace WaterMyPlants

open Transition

/-- The event is an action whose save goes through. -/
def App.Saves (app : App) (e : AppEvent) : Prop :=
  ∃ action now disk captured handled, e = .garden action now disk ∧ app.plants = some captured ∧
    action.handleOn app.session.defaults.uid captured now disk app.context = some handled ∧
    handled.save = some .saved

/-- The event is an add or an edit on a disk that writes nothing. -/
def AppEvent.fails : AppEvent → Bool
  | .garden action _ disk => !action.isDelete && !disk.saves
  | _ => false

section
variable {app app' : App} {e : AppEvent} {c : Context} {a : Action}
  {uid captured : Option Uid} {now : Date} {disk : Disk} {handled : Handled}

/-- On any table the handler is that of a garden, or it does nothing. -/
theorem Action.handleOn_cases (hh : a.handleOn uid captured now disk c = some handled) :
    handled = ⟨c, none, []⟩ ∨ ∃ shown, a.handle uid shown now disk c = some handled := by
  cases captured with
  | some shown => exact Or.inr ⟨shown, hh⟩
  | none =>
      cases a with
      | add vc => exact Or.inr ⟨"", hh⟩
      | edit indexPath vc =>
          cases hh
          exact Or.inl rfl
      | delete indexPath =>
          cases hh
          exact Or.inl rfl

/-- A save that goes through writes what the context holds, and any other action leaves the
store alone. -/
theorem handle_store {shown : Uid} (hh : a.handle uid shown now disk c = some handled) :
    (handled.save = some .saved ∧ handled.context.store = handled.context.objects) ∨
      (handled.save ≠ some .saved ∧ handled.context.store = c.store) := by
  obtain ⟨hctx, hsave, -⟩ | ⟨c', hc, hsave, hctx⟩ := handle_cases hh
  · rw [hctx, hsave]
    exact Or.inr ⟨by simp, rfl⟩
  · obtain ⟨hs, hset⟩ | ⟨ht, hset⟩ := settle_cases a disk c'
    · rw [hsave, hs, hctx, hset]
      exact Or.inl ⟨rfl, rfl⟩
    · refine Or.inr ⟨?_, ?_⟩
      · rw [hsave]
        intro hs
        rw [Option.some.inj hs] at ht
        cases ht
      · rw [hctx, hset, ← hc.store_eq]
        split
        next => rfl
        next => rfl

/-- Only a save that goes through changes the store. -/
theorem App.step_store (hn : ¬ app.Saves e) (hs : App.step app e = some app') :
    app'.context.store = app.context.store := by
  cases e with
  | session e =>
      rw [(App.step_session hs).2]
      split
      next => rfl
      next => rfl
  | garden action now disk =>
      obtain ⟨captured, hp, hs⟩ := Option.bind_eq_some_iff.mp hs
      obtain ⟨handled, hh, rfl⟩ := Option.map_eq_some_iff.mp hs
      rcases Action.handleOn_cases hh with rfl | ⟨shown, hshown⟩
      · rfl
      · rcases handle_store hshown with ⟨hsave, -⟩ | ⟨-, hstore⟩
        · exact absurd ⟨action, now, disk, captured, handled, rfl, hp, hh, hsave⟩ hn
        · exact hstore
  | water indexPath =>
      obtain ⟨captured, -, hs⟩ := Option.bind_eq_some_iff.mp hs
      obtain ⟨watering, -, rfl⟩ := Option.map_eq_some_iff.mp hs
      rfl

theorem App.Saves.store_eq (hsaves : app.Saves e) (hs : App.step app e = some app') :
    app'.context.store = app'.context.objects := by
  obtain ⟨action, now, disk, captured, handled, rfl, hp, hh, hsave⟩ := hsaves
  simp only [App.step, hp, Option.bind_some, hh, Option.map_some, Option.some.injEq] at hs
  rw [← hs]
  rcases Action.handleOn_cases hh with rfl | ⟨shown, hshown⟩
  · cases hsave
  · rcases handle_store hshown with ⟨-, hstore⟩ | ⟨hne, -⟩
    · exact hstore
    · exact absurd hsave hne

/-- A relaunch starts from the store. -/
theorem App.launched_objects (hs : App.step app (.session .launched) = some app') :
    app'.context.objects = app.context.store := by
  rw [(App.step_session hs).2, if_pos rfl]
  rfl

end

/-- In every run the context after a relaunch holds exactly what it held after the last
save that went through, and nothing where none did. -/
theorem relaunch_shows_saved {accounts : List Account} {database : Database}
    {h : List (App × AppEvent)} {app app' : App}
    (hr : Run App.step (.launch accounts database) h app)
    (hs : App.step app (.session .launched) = some app') :
    (Meets (fun d e => ¬ d.Saves e) h ∧ app'.context.objects.list = []) ∨
      ∃ before d e after d', h = before ++ (d, e) :: after ∧ App.step d e = some d' ∧
        d.Saves e ∧ Meets (fun d e => ¬ d.Saves e) after ∧
        app'.context.objects = d'.context.objects := by
  rw [App.launched_objects hs]
  rcases hr.since_last (f := fun app => app.context.store) (P := App.Saves)
      fun _ _ _ hn hs => App.step_store hn hs with ⟨hm, hstore⟩ |
    ⟨before, d, e, after, d', heq, hd, hsaves, hm, hstore⟩
  · refine Or.inl ⟨hm, ?_⟩
    rw [hstore]
    rfl
  · exact Or.inr ⟨before, d, e, after, d', heq, hd, hsaves, hm, hstore.trans (hsaves.store_eq hd)⟩

section
variable {app app' : App} {e : AppEvent} {c : Context} {a : Action}
  {uid : Option Uid} {now : Date} {disk : Disk} {handled : Handled}

/-- Where nothing is pending nothing is after an action, if its save goes through or
it is a delete. -/
theorem handle_clean {shown : Uid} (hu : uid.isSome = true) (hw : c.WellFormed)
    (hclean : c.objects = c.store) (hd : a.isDelete = false → disk.saves = true)
    (hh : a.handle uid shown now disk c = some handled) :
    handled.context.objects = handled.context.store := by
  obtain ⟨hctx, -⟩ | ⟨c', hc, -, hctx⟩ := handle_cases hh
  · rw [hctx]
    exact hclean
  · have hvalid : Context.save disk c' =
        if disk.saves then (.saved, c'.commit) else (.failed, c') :=
      save_valid (hc.wellFormed hu hw.1)
    rw [hctx]
    obtain ⟨-, hset⟩ | ⟨ht, hset⟩ := settle_cases a disk c'
    · rw [hset]
      rfl
    · -- no plant is rejected, so it is the disk that failed
      have hdel : a.isDelete = true := by
        by_contra hdel
        rw [hvalid, if_pos (hd (Bool.eq_false_iff.mpr hdel))] at ht
        cases ht
      rw [hset, if_pos hdel]
      rfl

end

/-- In every run whose adds and edits are all saved, the context holds after a relaunch at
any time the plants that it held before. -/
theorem relaunch_keeps_plants {accounts : List Account} {database : Database}
    {h : List (App × AppEvent)} {app app' : App}
    (hr : Run App.step (.launch accounts database) h app)
    (hm : Meets (fun _ e => e.fails = false) h)
    (hs : App.step app (.session .launched) = some app') :
    app'.context.objects = app.context.objects := by
  rw [App.launched_objects hs]
  refine (hr.invariant_of_meets (I := fun app => app.session.HasUser ∧ app.context.WellFormed ∧
    app.context.objects = app.context.store) hm ?_ ?_).2.2.symm
  · exact ⟨Session.hasUser_launch accounts database, Context.wellFormed_empty, rfl⟩
  · rintro app e app' ⟨hu, hw, hclean⟩ hn hs
    obtain ⟨hu', hw'⟩ := App.step_invariant hu hw hs
    refine ⟨hu', hw', ?_⟩
    cases e with
    | session e =>
        rw [(App.step_session hs).2]
        split
        next => rfl
        next => exact hclean
    | garden action now disk =>
        obtain ⟨captured, hp, hs⟩ := Option.bind_eq_some_iff.mp hs
        obtain ⟨handled, hh, rfl⟩ := Option.map_eq_some_iff.mp hs
        have htab := App.table_of_plants hp
        obtain ⟨shown, -, hx⟩ := Action.handleOn_some (hu.captured _ htab)
        rw [hx] at hh
        refine handle_clean (hu.table _ htab) hw hclean ?_ hh
        intro hdel
        simpa [AppEvent.fails, hdel] using hn
    | water indexPath =>
        obtain ⟨captured, -, hs⟩ := Option.bind_eq_some_iff.mp hs
        obtain ⟨watering, -, rfl⟩ := Option.map_eq_some_iff.mp hs
        exact hclean

/-- The state after a relaunch of the day's end. -/
def relaunched : App := (App.step day (.session .launched)).get rfl

theorem relaunch_shows_saved_day :
    (Meets (fun d e => ¬ App.Saves d e) (history App.step (.launch [] []) dayRun) ∧
        relaunched.context.objects.list = []) ∨
      ∃ before d e after d', history App.step (.launch [] []) dayRun = before ++ (d, e) :: after ∧
        App.step d e = some d' ∧ d.Saves e ∧ Meets (fun d e => ¬ App.Saves d e) after ∧
        relaunched.context.objects = d'.context.objects :=
  relaunch_shows_saved (endState_run rfl) (Option.some_get _).symm

theorem relaunch_keeps_plants_day : relaunched.context.objects = day.context.objects :=
  relaunch_keeps_plants (h := history App.step (.launch [] []) dayRun) (endState_run rfl)
    (by unfold Meets; decide) (Option.some_get _).symm

end WaterMyPlants
