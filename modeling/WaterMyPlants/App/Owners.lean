import WaterMyPlants.App.Safety
import WaterMyPlants.Session.Accounts

/-!
# Owners

A run of the app is a run of its session, with the actions on plants left out.  So
the uid an add writes into its plant is vouched for: in every run each plant, shown
or stored, belongs to an account whose password has been typed on this device.
-/

namespace WaterMyPlants

open Transition

/-- The part of an event that the session takes. -/
def AppEvent.ofSession : AppEvent → Option Event
  | .session e => some e
  | _ => none

/-- The history of the session in a history of the app. -/
def App.sessionHistory (h : List (App × AppEvent)) : List (Session × Event) :=
  project App.session (fun _ e => e.ofSession) h

section
variable {app app' : App} {e : AppEvent} {h : List (App × AppEvent)}

theorem App.step_session {e : Event} (hs : App.step app (.session e) = some app') :
    Session.step app.session e = some app'.session ∧
      app'.context = if e = .launched then app.context.reset else app.context := by
  obtain ⟨session, hx, rfl⟩ := Option.map_eq_some_iff.mp hs
  exact ⟨hx, rfl⟩

/-- An event that is not of the session leaves it alone. -/
theorem App.step_other (he : e.ofSession = none) (hs : App.step app e = some app') :
    app'.session = app.session := by
  cases e with
  | session e => cases he
  | garden action now disk =>
      obtain ⟨captured, -, hs⟩ := Option.bind_eq_some_iff.mp hs
      obtain ⟨hd, -, rfl⟩ := Option.map_eq_some_iff.mp hs
      rfl
  | water indexPath =>
      obtain ⟨captured, -, hs⟩ := Option.bind_eq_some_iff.mp hs
      obtain ⟨watering, -, rfl⟩ := Option.map_eq_some_iff.mp hs
      rfl

theorem App.sessionHistory_session (h : List (App × AppEvent)) (app : App) (e : Event) :
    App.sessionHistory (h ++ [(app, .session e)]) = App.sessionHistory h ++ [(app.session, e)] :=
  project_append _ _ _ _ _

theorem App.sessionHistory_other (h : List (App × AppEvent)) (app : App)
    (he : e.ofSession = none) : App.sessionHistory (h ++ [(app, e)]) = App.sessionHistory h := by
  rw [App.sessionHistory, project_append, he, Option.map_none, Option.toList_none, List.append_nil,
    App.sessionHistory]

/-- The plant belongs to an account whose password has been typed. -/
def App.Owned (h : List (App × AppEvent)) (app : App) (p : Plant) : Prop :=
  ∃ uid, p.id = some uid ∧ app.session.Entered (App.sessionHistory h) uid

/-- The password of the session stays typed. -/
theorem App.entered_append {uid : Uid} (hent : app.session.Entered (App.sessionHistory h) uid)
    (hs : App.step app e = some app') :
    app'.session.Entered (App.sessionHistory (h ++ [(app, e)])) uid := by
  cases he : e.ofSession with
  | none =>
      rw [App.sessionHistory_other h app he, App.step_other he hs]
      exact hent
  | some e' =>
      obtain rfl : e = .session e' := by
        cases e with
        | session e =>
            cases he
            rfl
        | _ => cases he
      rw [App.sessionHistory_session]
      exact hent.append (App.step_session hs).1

theorem App.vouched_append {database : Database}
    (hv : app.session.Vouched database (App.sessionHistory h)) (hs : App.step app e = some app') :
    app'.session.Vouched database (App.sessionHistory (h ++ [(app, e)])) := by
  cases e with
  | session e =>
      rw [App.sessionHistory_session]
      exact step_vouched hv (App.step_session hs).1
  | garden action now disk =>
      rw [App.sessionHistory_other h app rfl, App.step_other rfl hs]
      exact hv
  | water indexPath =>
      rw [App.sessionHistory_other h app rfl, App.step_other rfl hs]
      exact hv

theorem Session.hasUser_launch (accounts : List Account) (database : Database) :
    (Session.launch accounts database).HasUser := by
  refine ⟨?_, ?_, ?_⟩
  · intro hl
    cases hl
  · intro _ ht
    cases ht
  · intro _ ht
    cases ht

/-- What holds of every plant of a context, shown or stored. -/
def Context.All (P : Plant → Prop) (c : Context) : Prop :=
  (∀ o ∈ c.objects.list, P o.2) ∧ ∀ o ∈ c.store.list, P o.2

/-- What holds of every plant that has the uid of `UserDefaults`, and of a plant
whatever is edited but its owner, holds of every plant after an event. -/
theorem App.step_all {P : Plant → Prop} (hu : app.session.HasUser)
    (hadd : ∀ uid, app.session.defaults.uid = some uid → ∀ p : Plant, p.id = some uid → P p)
    (hedit : ∀ p q : Plant, q.id = p.id → P p → P q) (hall : app.context.All P)
    (hs : App.step app e = some app') : app'.context.All P := by
  cases e with
  | session e =>
      rw [(App.step_session hs).2]
      split
      next => exact ⟨hall.2, hall.2⟩
      next => exact hall
  | garden action now disk =>
      obtain ⟨captured, hp, hs⟩ := Option.bind_eq_some_iff.mp hs
      obtain ⟨handled, hh, rfl⟩ := Option.map_eq_some_iff.mp hs
      have htab := App.table_of_plants hp
      obtain ⟨shown, -, hx⟩ := Action.handleOn_some (hu.captured _ htab)
      rw [hx] at hh
      obtain ⟨uid, huid⟩ := Option.isSome_iff_exists.mp (hu.table _ htab)
      refine handle_forall hh hall.1 hall.2 fun c' hc => hc.forall_objects hall.1 ?_ ?_
      · intro vc nickname species _ _ _
        exact hadd uid huid _ huid
      · intro i vc k p nickname species t _ hr _ _ _ _ _
        exact hedit p _ rfl (hall.1 _ (mem_of_row hr).1)
  | water indexPath =>
      obtain ⟨captured, -, hs⟩ := Option.bind_eq_some_iff.mp hs
      obtain ⟨watering, -, rfl⟩ := Option.map_eq_some_iff.mp hs
      exact hall

theorem App.step_hasUser (hu : app.session.HasUser) (hs : App.step app e = some app') :
    app'.session.HasUser := by
  cases e with
  | session e => exact WaterMyPlants.step_hasUser hu (App.step_session hs).1
  | garden action now disk =>
      rw [App.step_other rfl hs]
      exact hu
  | water indexPath =>
      rw [App.step_other rfl hs]
      exact hu

end

/-- In every run from an empty store each plant, shown or stored, belongs to an
account whose email and password have been typed in this run. -/
theorem plants_owned {accounts : List Account} {database : Database} {h : List (App × AppEvent)}
    {app : App} (hr : Run App.step (.launch accounts database) h app) :
    app.context.All (app.Owned h) := by
  refine (hr.history_invariant (I := fun h app =>
    app.session.Vouched database (App.sessionHistory h) ∧ app.session.HasUser ∧
      app.context.All (app.Owned h)) ?_ ?_).2.2
  · refine ⟨Session.vouched_launch accounts database, Session.hasUser_launch accounts database, ?_⟩
    exact ⟨fun _ ho => absurd ho List.not_mem_nil, fun _ ho => absurd ho List.not_mem_nil⟩
  · rintro h app e app' ⟨hv, hu, hall⟩ hs
    refine ⟨App.vouched_append hv hs, App.step_hasUser hu hs, ?_⟩
    have hnow : app.context.All (app'.Owned (h ++ [(app, e)])) := by
      have hkeep : ∀ p, app.Owned h p → app'.Owned (h ++ [(app, e)]) p := by
        intro p ho
        obtain ⟨uid, hid, hent⟩ := ho
        exact ⟨uid, hid, App.entered_append hent hs⟩
      exact ⟨fun o ho => hkeep _ (hall.1 o ho), fun o ho => hkeep _ (hall.2 o ho)⟩
    refine App.step_all hu ?_ ?_ hnow hs
    · intro uid huid p hid
      exact ⟨uid, hid, App.entered_append (hv.defaults uid huid) hs⟩
    · intro p q hid ho
      obtain ⟨uid, hp, hent⟩ := ho
      exact ⟨uid, hid.trans hp, hent⟩

theorem plants_owned_day :
    day.context.All (day.Owned (history App.step (.launch [] []) dayRun)) :=
  plants_owned (endState_run rfl)

end WaterMyPlants
