import WaterMyPlants.App.Owners
import WaterMyPlants.Garden.Table
import WaterMyPlants.Session.Moves

/-!
# The tables over a run

A logout covers the plant table with a login screen, and the next login presents a
table over that.  The tables below stay in memory.  They observe `plantUpdated`, and
the fetched results controller of each reports the plants of the user it was loaded
for.

So an action goes through every table that has loaded, and a report that does not
match would crash the app from a table that nobody sees.  The reports are whatever the
controllers document (`DisplayedEvent.Documented`).
-/

namespace WaterMyPlants

open Transition

/-- A plant table that has loaded.  `place` counts the screens it covers. -/
structure LoadedTable (Image : Type) where
  place : Nat
  shown : Uid
  tableView : UITableView Image

/-- The app, and every table that has loaded, the last one first. -/
structure Displayed (Image : Type) where
  app : App
  tables : List (LoadedTable Image)

/-- An event of the app, with what the fetched results controller of each table reports
and the cells it dequeues. -/
inductive DisplayedEvent (Image : Type) where
  | session (e : Event) (dequeueReusableCell : Nat → PlantTableViewCell Image)
  | garden (action : Action) (now : Date) (disk : Disk) (report : Nat → List Reported)
      (dequeueReusableCell : Nat → Nat → PlantTableViewCell Image)
  | water (indexPath : Nat)

variable {Image : Type}

/-- The event of the app. -/
def DisplayedEvent.event : DisplayedEvent Image → AppEvent
  | .session e _ => .session e
  | .garden action now disk _ _ => .garden action now disk
  | .water indexPath => .water indexPath

/-- What of a handler reaches a table.  A covered table hears what is posted and nothing
else. -/
def Effect.reaches (front : Bool) : Effect → Bool
  | .plantUpdated => true
  | _ => front

namespace LoadedTable

/-- A table is loaded with a new view. -/
def viewDidLoad (images : ImageLoader Image) (context : Context) (place : Nat) (shown : Uid)
    (dequeueReusableCell : Nat → PlantTableViewCell Image) : Option (LoadedTable Image) :=
  (UITableView.reloadData (context.dataSource shown images dequeueReusableCell) ⟨[], {}⟩).map
    fun tableView => ⟨place, shown, tableView⟩

/-- A table is told of a save by its controller, and then of what reaches it of the handler. -/
def didSave (images : ImageLoader Image) (handled : Handled) (front : Bool)
    (report : List Reported) (dequeueReusableCell : Nat → PlantTableViewCell Image)
    (t : LoadedTable Image) : Option (LoadedTable Image) :=
  (PlantTableViewController.didSave
    (handled.context.dataSource t.shown images dequeueReusableCell)
    (report.map Reported.change) (handled.effects.filter (Effect.reaches front)) t.tableView).map
      fun tableView => { t with tableView := tableView }

/-- The place and the user of a table. -/
def key (t : LoadedTable Image) : Nat × Option Uid := (t.place, some t.shown)

end LoadedTable

/-- The tables that have loaded, each with the count of the screens it covers and the
uid in its predicate. -/
def Screen.loaded : List Screen → List (Nat × Option Uid)
  | [] => []
  | .plants (some captured) _ :: covered => (covered.length, captured) :: Screen.loaded covered
  | _ :: covered => Screen.loaded covered

namespace Displayed

/-- The first launch. -/
def launch (accounts : List Account) (database : Database) : Displayed Image :=
  ⟨.launch accounts database, []⟩

/-- The tables after an event of the session.  A relaunch has none.  A table without a
uid has no rows. -/
def opened (images : ImageLoader Image) (dequeueReusableCell : Nat → PlantTableViewCell Image)
    (s : Displayed Image) : Event → Option (List (LoadedTable Image))
  | .tableLoaded =>
      match s.app.session.defaults.uid with
      | none => some s.tables
      | some uid =>
          (LoadedTable.viewDidLoad images s.app.context (s.app.session.screens.length - 1) uid
            dequeueReusableCell).map (· :: s.tables)
  | .launched => some []
  | _ => some s.tables

/-- A table in front is the one that covers all the other screens. -/
def isFront (s : Displayed Image) (place : Nat) : Bool :=
  place + 1 = s.app.session.screens.length

/-- Every table is told of a save. -/
def didSave (images : ImageLoader Image) (handled : Handled) (report : Nat → List Reported)
    (dequeueReusableCell : Nat → Nat → PlantTableViewCell Image) (s : Displayed Image) :
    Option (List (LoadedTable Image)) :=
  s.tables.mapM fun t =>
    LoadedTable.didSave images handled (s.isFront t.place) (report t.place)
      (dequeueReusableCell t.place) t

/-- An event is refused where a handler traps or an update of a table is inconsistent. -/
def step (images : ImageLoader Image) : Machine (Displayed Image) (DisplayedEvent Image) :=
  fun s e =>
    match e with
    | .session e dequeueReusableCell =>
        (App.step s.app (.session e)).bind fun app =>
          (s.opened images dequeueReusableCell e).map fun tables => ⟨app, tables⟩
    | .garden action now disk report dequeueReusableCell =>
        s.app.plants.bind fun captured =>
          (action.handleOn s.app.session.defaults.uid captured now disk s.app.context).bind
            fun handled =>
              (s.didSave images handled report dequeueReusableCell).map fun tables =>
                ⟨{ s.app with context := handled.context }, tables⟩
    | .water indexPath =>
        (App.step s.app (.water indexPath)).map fun app => { s with app := app }

end Displayed

/-- The reports of the event are documented, and it is no delete whose save throws.
After such a delete the controllers hold objects of a context that was reset, and
document no report until they fetch again, which the app never makes them do. -/
def DisplayedEvent.Documented (s : Displayed Image) (e : DisplayedEvent Image) : Prop :=
  ∀ action now disk report cells, e = .garden action now disk report cells →
    ∀ captured handled, s.app.plants = some captured →
      action.handleOn s.app.session.defaults.uid captured now disk s.app.context = some handled →
      (action.isDelete = true → ∀ r, handled.save = some r → r.threw = false) ∧
        ∀ t ∈ s.tables, WaterMyPlants.Documented (report t.place)
          (s.app.context.fetchedObjects t.shown) (handled.context.fetchedObjects t.shown)

/-! ## The tables that have loaded -/

section
variable {s : Session} {e : Event} {screens : List Screen} {pending : List Request}

theorem Screen.loaded_present {vc : Nat} {screen : Screen} (h : Screen.loaded [screen] = []) :
    Screen.loaded (Screen.present vc screen screens) = Screen.loaded screens := by
  rw [Screen.present]
  split
  next =>
    cases screen with
    | plants frc settings =>
        cases frc with
        | none => rfl
        | some captured => cases h
    | _ => rfl
  next => rfl

/-- A table is loaded by its load alone and lost by a relaunch alone. -/
theorem Session.Moves.loaded_eq (h : s.Moves e screens pending) (hload : e ≠ .tableLoaded)
    (hlaunch : e ≠ .launched) : Screen.loaded screens = Screen.loaded s.screens := by
  cases h with
  | dismissed hs => rw [hs]; rfl
  | loaded _ => exact absurd rfl hload
  | shown hs => rw [hs]; rfl
  | @closed frc _ _ hs =>
      rw [hs]
      cases frc with
      | none => rfl
      | some captured => rfl
  | rejected _ _ _ => exact Screen.loaded_present rfl
  | opened _ _ _ => exact Screen.loaded_present rfl
  | fired _ =>
      split
      next => rfl
      next => rfl
  | launched => exact absurd rfl hlaunch
  | _ => rfl

end

/-! ## Runs -/

namespace Displayed

/-- What holds between the events: there is a table for each screen that has loaded one,
and each shows the plants of its user. -/
structure InStep (images : ImageLoader Image) (s : Displayed Image) : Prop where
  hasUser : s.app.session.HasUser
  wellFormed : s.app.context.WellFormed
  loaded : s.tables.map LoadedTable.key = Screen.loaded s.app.session.screens
  shows : ∀ t ∈ s.tables, t.tableView.Shows images (s.app.context.fetchedObjects t.shown)

variable {images : ImageLoader Image} {s s' : Displayed Image} {e : DisplayedEvent Image}

theorem launch_inStep (accounts : List Account) (database : Database) :
    (launch accounts database).InStep images where
  hasUser := Session.hasUser_launch accounts database
  wellFormed := Context.wellFormed_empty
  loaded := rfl
  shows := fun _ ht => absurd ht List.not_mem_nil

/-- An event of the session that goes through leaves the tables in step. -/
theorem InStep.opened {e : Event} {app : App} (h : s.InStep images)
    (cells : Nat → PlantTableViewCell Image) (ha : App.step s.app (.session e) = some app) :
    ∃ tables, s.opened images cells e = some tables ∧
      tables.map LoadedTable.key = Screen.loaded app.session.screens ∧
      ∀ t ∈ tables, t.tableView.Shows images (app.context.fetchedObjects t.shown) := by
  obtain ⟨hs, hctx⟩ := App.step_session ha
  have hm := step_moves hs
  by_cases hlaunch : e = .launched
  · subst hlaunch
    refine ⟨[], rfl, ?_, fun _ ht => absurd ht List.not_mem_nil⟩
    generalize app.session.screens = screens, app.session.pending = pending at hm
    cases hm
    rw [SceneDelegate.scene]
    split
    next => rfl
    next => rfl
  rw [if_neg hlaunch] at hctx
  rw [hctx]
  by_cases hload : e = .tableLoaded
  · subst hload
    generalize app.session.screens = screens, app.session.pending = pending at hm
    cases hm with
    | @loaded settings covered hscreens =>
        have htab : s.app.session.table = some none := by
          rw [Session.table, hscreens, Screen.table]
        obtain ⟨uid, huid⟩ := Option.isSome_iff_exists.mp (h.hasUser.table _ htab)
        obtain ⟨tableView, hreload, hshows⟩ := reloadData_shows
          (d := s.app.context.dataSource uid images cells) ⟨[], {}⟩ rfl
        refine ⟨⟨covered.length, uid, tableView⟩ :: s.tables, ?_, ?_, ?_⟩
        · simp only [Displayed.opened, huid, LoadedTable.viewDidLoad, hreload, hscreens,
            List.length_cons, Nat.add_sub_cancel, Option.map_some]
        · rw [List.map_cons, h.loaded, hscreens, huid]
          rfl
        · intro t ht
          rcases List.mem_cons.mp ht with rfl | ht
          · exact hshows
          · exact h.shows t ht
  · have hkept : s.opened images cells e = some s.tables := by
      cases e with
      | tableLoaded => exact absurd rfl hload
      | launched => exact absurd rfl hlaunch
      | _ => rfl
    refine ⟨s.tables, hkept, ?_, h.shows⟩
    rw [hm.loaded_eq hload hlaunch]
    exact h.loaded

/-- So does an action, if its reports are documented. -/
theorem InStep.didSave {action : Action} {now : Date} {disk : Disk} {shown : Uid}
    {handled : Handled} {report : Nat → List Reported} (h : s.InStep images)
    (cells : Nat → Nat → PlantTableViewCell Image)
    (hh : action.handle s.app.session.defaults.uid shown now disk s.app.context = some handled)
    (hthrew : action.isDelete = true → ∀ r, handled.save = some r → r.threw = false)
    (hdoc : ∀ t ∈ s.tables, WaterMyPlants.Documented (report t.place)
      (s.app.context.fetchedObjects t.shown) (handled.context.fetchedObjects t.shown)) :
    ∃ tables, s.didSave images handled report cells = some tables ∧
      tables.map LoadedTable.key = s.tables.map LoadedTable.key ∧
      ∀ t ∈ tables, t.tableView.Shows images (handled.context.fetchedObjects t.shown) := by
  have hone : ∀ t ∈ s.tables, ∃ t', LoadedTable.didSave images handled (s.isFront t.place)
      (report t.place) (cells t.place) t = some t' ∧
      t'.tableView.Shows images (handled.context.fetchedObjects t'.shown) ∧
      t'.key = t.key := by
    intro t ht
    obtain ⟨tableView, hsave, hshows⟩ := didSave_shows
      (handled.effects.filter (Effect.reaches (s.isFront t.place))) (cells t.place) hh hthrew
      (fun hpost => List.mem_filter.mpr ⟨hpost, rfl⟩) (hdoc t ht) (h.shows t ht)
    refine ⟨{ t with tableView := tableView }, ?_, hshows, rfl⟩
    rw [LoadedTable.didSave, hsave, Option.map_some]
  obtain ⟨tables, hx, hshows, hkeys⟩ := BatchUpdate.mapM_forall hone
  exact ⟨tables, hx, hkeys, hshows⟩

/-- Where the app goes on, so do its tables. -/
theorem InStep.goes (h : s.InStep images) (hd : e.Documented s) {app : App}
    (ha : App.step s.app e.event = some app) :
    ∃ tables, Displayed.step images s e = some ⟨app, tables⟩ ∧
      tables.map LoadedTable.key = Screen.loaded app.session.screens ∧
      ∀ t ∈ tables, t.tableView.Shows images (app.context.fetchedObjects t.shown) := by
  cases e with
  | session e cells =>
      have ha : App.step s.app (.session e) = some app := ha
      obtain ⟨tables, hx, hkeys, hshows⟩ := h.opened cells ha
      refine ⟨tables, ?_, hkeys, hshows⟩
      rw [Displayed.step, ha, Option.bind_some, hx, Option.map_some]
  | garden action now disk report cells =>
      obtain ⟨captured, hp, ha⟩ := Option.bind_eq_some_iff.mp ha
      obtain ⟨handled, hh, rfl⟩ := Option.map_eq_some_iff.mp ha
      obtain ⟨hthrew, hdoc⟩ := hd action now disk report cells rfl captured handled hp hh
      obtain ⟨shown, rfl⟩ :=
        Option.isSome_iff_exists.mp (h.hasUser.captured _ (App.table_of_plants hp))
      obtain ⟨tables, hsave, hkeys, hshows⟩ := h.didSave cells hh hthrew hdoc
      refine ⟨tables, ?_, hkeys.trans h.loaded, hshows⟩
      simp only [Displayed.step, hp, hh, Option.bind_some, hsave, Option.map_some]
  | water indexPath =>
      have ha : App.step s.app (.water indexPath) = some app := ha
      refine ⟨s.tables, ?_, ?_, ?_⟩
      · rw [Displayed.step, ha, Option.map_some]
      · rw [App.step_other rfl ha]
        exact h.loaded
      · obtain ⟨captured, -, ha⟩ := Option.bind_eq_some_iff.mp ha
        obtain ⟨watering, -, rfl⟩ := Option.map_eq_some_iff.mp ha
        exact h.shows

/-- An event that goes through is one that the app takes. -/
theorem step_app (hs : Displayed.step images s e = some s') :
    App.step s.app e.event = some s'.app := by
  cases e with
  | session e cells =>
      obtain ⟨app, ha, hs⟩ := Option.bind_eq_some_iff.mp hs
      obtain ⟨tables, -, rfl⟩ := Option.map_eq_some_iff.mp hs
      exact ha
  | garden action now disk report cells =>
      obtain ⟨captured, hp, hs⟩ := Option.bind_eq_some_iff.mp hs
      obtain ⟨handled, hh, hs⟩ := Option.bind_eq_some_iff.mp hs
      obtain ⟨tables, -, rfl⟩ := Option.map_eq_some_iff.mp hs
      simp only [DisplayedEvent.event, App.step, hp, hh, Option.bind_some, Option.map_some]
  | water indexPath =>
      obtain ⟨app, ha, rfl⟩ := Option.map_eq_some_iff.mp hs
      exact ha

theorem InStep.step (h : s.InStep images) (hd : e.Documented s)
    (hs : Displayed.step images s e = some s') : s'.InStep images := by
  have ha := step_app hs
  obtain ⟨tables, hx, hkeys, hshows⟩ := h.goes hd ha
  rw [hs, Option.some.injEq] at hx
  obtain ⟨hu, hw⟩ := App.step_invariant h.hasUser h.wellFormed ha
  rw [hx] at hu hw ⊢
  exact ⟨hu, hw, hkeys, hshows⟩

end Displayed

/-- In every run in which no delete's save throws and the fetched results controllers
report what they document, there is a table for each screen that has loaded one, and each
of them, in front or covered, shows the plants of its user with their nicknames and
images.  No table crashes the app: what the app takes goes through. -/
theorem tables_in_step {images : ImageLoader Image} {accounts : List Account}
    {database : Database} {h : List (Displayed Image × DisplayedEvent Image)}
    {s : Displayed Image}
    (hr : Run (Displayed.step images) (.launch accounts database) h s)
    (hm : Meets (fun s e => e.Documented s) h) :
    s.tables.map LoadedTable.key = Screen.loaded s.app.session.screens ∧
      (∀ t ∈ s.tables, t.tableView.Shows images (s.app.context.fetchedObjects t.shown)) ∧
      ∀ e : DisplayedEvent Image, e.Documented s → ∀ app,
        App.step s.app e.event = some app →
          ∃ tables, Displayed.step images s e = some ⟨app, tables⟩ := by
  have hin : s.InStep images := hr.invariant_of_meets hm
    (Displayed.launch_inStep accounts database) fun _ _ _ hi hd hs => hi.step hd hs
  refine ⟨hin.loaded, hin.shows, fun e hd app ha => ?_⟩
  obtain ⟨tables, hx, -⟩ := hin.goes hd ha
  exact ⟨tables, hx⟩

/-! ## Two users -/

/-- Each table is reported what `Action.report` says, and the save does not make a
delete throw. -/
def DisplayedEvent.reportsAction (s : Displayed Image) : DisplayedEvent Image → Bool
  | .garden action now disk report _ =>
      match s.app.plants with
      | some (some shown) =>
          match action.handle s.app.session.defaults.uid shown now disk s.app.context with
          | none => true
          | some handled =>
              handled.save.all (fun r => !(action.isDelete && r.threw)) &&
                s.tables.all fun t =>
                  report t.place = action.report shown t.shown s.app.context handled
      | _ => false
  | _ => true

/-- Such reports are documented. -/
theorem DisplayedEvent.documented_of_reportsAction {s : Displayed Image} {e : DisplayedEvent Image}
    (h : e.reportsAction s = true) : e.Documented s := by
  rintro action now disk report cells rfl captured handled hp hh
  rw [reportsAction, hp] at h
  cases captured with
  | none => cases h
  | some shown =>
      dsimp only at h
      have hh : action.handle s.app.session.defaults.uid shown now disk s.app.context =
          some handled := hh
      rw [hh, Bool.and_eq_true, List.all_eq_true] at h
      have hthrew : action.isDelete = true → ∀ r, handled.save = some r → r.threw = false := by
        intro hdel r hr
        simpa [hr, hdel] using h.1
      refine ⟨hthrew, fun t ht => ?_⟩
      rw [of_decide_eq_true (h.2 t ht)]
      exact report_documented hh hthrew

/-- `ada` adds a plant and logs out.  `bob` signs up, adds a plant, edits it and deletes
it.  The table of `ada` covers one screen and the table of `bob` three. -/
def displayedRun : List (DisplayedEvent Data) :=
  let session (e : Event) : DisplayedEvent Data := .session e fun _ => ⟨none, none⟩
  let garden (action : Action) (now : Date) (place : Nat) (report : List Reported) :
      DisplayedEvent Data :=
    .garden action now ⟨true, true⟩ (fun i => if i = place then report else [])
      fun _ _ => ⟨none, none⟩
  let signUp (email username : String) (uid : Uid) : List (DisplayedEvent Data) :=
    [session (.loginSignUpButtonTapped (some "Sign Up") (some email) (some "secret")
        (some username)),
      session (.authenticated 0 uid (some email)), session (.completed 0 .success),
      session (.committed 0), session (.completed 0 .success), session .tableLoaded]
  signUp "ada@mail.com" "ada" "a" ++
    [garden (.add ⟨some "Fern", some "Nephrolepis", none, 1⟩) 1 1 [.insert 0],
      session (.completed 0 (.value "ada")), session .settingsShown,
      session .logoutButtonTapped, session (.completed 0 .success)] ++
    signUp "bob@mail.com" "bob" "b" ++
    [garden (.add ⟨some "Aloe", some "Aloe", some ⟨some [1]⟩, 0⟩) 2 3 [.insert 0],
      garden (.edit 0 ⟨some "Aloe", some "Aloe vera", none, 2⟩) 3 3 [.move 0 0],
      garden (.delete 0) 4 3 [.delete 0]]

/-- The state it ends in. -/
def displayed : Displayed Data :=
  endState (Displayed.step plainImages) (.launch [] []) displayedRun rfl

theorem tables_in_step_displayed :
    displayed.tables.map LoadedTable.key = [(3, some "b"), (1, some "a")] ∧
      (∀ t ∈ displayed.tables,
        t.tableView.Shows plainImages (displayed.app.context.fetchedObjects t.shown)) ∧
      ∀ e : DisplayedEvent Data, e.Documented displayed → ∀ app,
        App.step displayed.app e.event = some app →
          ∃ tables, Displayed.step plainImages displayed e = some ⟨app, tables⟩ := by
  have hreports : Meets (fun s e => e.reportsAction s = true)
      (history (Displayed.step plainImages) (.launch [] []) displayedRun) := by
    unfold Meets
    decide
  exact tables_in_step (endState_run rfl) fun p hp =>
    DisplayedEvent.documented_of_reportsAction (hreports p hp)

end WaterMyPlants
