import WaterMyPlants.App.Owners
import WaterMyPlants.Interface.Step
import WaterMyPlants.Session.Front

/-!
# The screens in front

While a screen is over the plant table the table stays in front: no completion covers
it and no other table takes its place, since a login presents its table on the login
screen it was tapped on (`Session.Moves.front`).  So the plant a detail screen was
opened for stays a row of the table and stays what the labels say, as long as the
objects of the table are not gone.

With that a run of the interface is a run of the app, in which a tap on a detail
screen is a tap on the row of its plant.
-/

namespace WaterMyPlants

open Transition

/-! ## The table stays in front -/

section
variable {s : Session} {e : Event} {screens : List Screen} {pending : List Request}
  {captured : Option Uid} {covered : List Screen}

/-- A login screen that is covered by a table presents nothing. -/
theorem Screen.Hosts.present_eq {vc : Nat} {screen : Screen} {frc : Option (Option Uid)}
    {settings : Option SettingsViewController}
    (h : Screen.Hosts (.plants frc settings :: covered) vc) :
    Screen.present vc screen (.plants frc settings :: covered) =
      .plants frc settings :: covered := by
  rw [Screen.present, if_neg]
  intro hlen
  obtain ⟨_, htop⟩ := h.top hlen
  cases htop

/-- A table that has loaded stays in front until its settings are opened or the process
ends. -/
theorem Session.Moves.front (h : s.Moves e screens pending) (hh : s.Hosted)
    (hs : s.screens = .plants (some captured) none :: covered) (hset : e ≠ .settingsShown)
    (hlaunch : e ≠ .launched) : screens = s.screens := by
  have hhosts : ∀ {i vc : Nat} {r : Request}, s.pending[i]? = some r → r.vc = some vc →
      Screen.Hosts s.screens vc := fun hr hv => hh _ (List.mem_of_getElem? hr) _ hv
  cases h with
  | refused hx => rw [hs] at hx; cases hx
  | dismissed hx => rw [hs] at hx; cases hx
  | loaded hx => rw [hs] at hx; cases hx
  | shown _ => exact absurd rfl hset
  | closed hx => rw [hs] at hx; cases hx
  | loggedOut hx => rw [hs] at hx; cases hx
  | rejected hr hv _ =>
      have hhost := hhosts hr hv
      rw [hs] at hhost ⊢
      exact hhost.present_eq
  | opened hr _ hv =>
      have hhost := hhosts hr hv
      rw [hs] at hhost ⊢
      exact hhost.present_eq
  | fired _ => rw [SettingsViewController.Uncovered, hs, if_neg (by simp)]
  | launched => exact absurd rfl hlaunch
  | _ => rfl

end

section
variable {app app' : App} {e : Event} {captured : Option Uid}

theorem App.screens_of_plants (h : app.plants = some captured) :
    ∃ covered, app.session.screens = .plants (some captured) none :: covered := by
  simp only [App.plants] at h
  split at h
  next covered hs =>
    cases h
    exact ⟨covered, hs⟩
  next => cases h

/-- So the table takes taps after any other event of the session, and its plants are
what they were. -/
theorem App.step_front (hh : app.session.Hosted) (hp : app.plants = some captured)
    (hset : e ≠ .settingsShown) (hlaunch : e ≠ .launched)
    (hs : App.step app (.session e) = some app') :
    app'.plants = some captured ∧ app'.context = app.context := by
  obtain ⟨session, hx, rfl⟩ := Option.map_eq_some_iff.mp hs
  obtain ⟨covered, hscreens⟩ := App.screens_of_plants hp
  have hsame := (step_moves hx).front hh hscreens hset hlaunch
  refine ⟨?_, if_neg hlaunch⟩
  simp only [App.plants, hsame, hscreens]

end

section
variable {app app' : App} {d : AppEvent}

theorem App.step_hosted (hh : app.session.Hosted) (hs : App.step app d = some app') :
    app'.session.Hosted := by
  cases d with
  | session e => exact WaterMyPlants.step_hosted hh (App.step_session hs).1
  | _ =>
      rw [App.step_other rfl hs]
      exact hh

end

/-- The event opens a form over the table, or enters something in it. -/
def InterfaceEvent.fills : InterfaceEvent → Bool
  | .addTapped | .editTapped | .entered _ => true
  | _ => false

/-! ## The plant of a detail screen -/

namespace Interface

variable {images : ImageLoader UIImage} {count : String → Nat} {s s' : Interface}
  {e : InterfaceEvent}

/-- The screen would be the same if it were opened now.  It was opened for a plant that
the table shows, unless the objects of the table are gone. -/
def Current (images : ImageLoader UIImage) (s : Interface) (vc : PlantDetailViewController) :
    Prop :=
  ∃ k, PlantDetailViewController.viewDidLoad images s.object k = some vc ∧
    (s.gone = none → ∃ shown p, s.app.plants = some (some shown) ∧
      (k, p) ∈ s.app.context.fetchedObjects shown)

/-- The table under a screen is in front, and a screen that is about a plant is current. -/
structure Live (images : ImageLoader UIImage) (s : Interface) : Prop where
  front : s.plants ≠ .table → ∃ captured, s.app.plants = some captured
  detail : ∀ vc, s.plants.detailScreen = some vc → s.Current images vc
  edit : ∀ screen vc, s.plants = .edit screen vc → screen.plant = vc.plant

theorem object_congr (hctx : s'.app.context = s.app.context) (hgone : s'.gone = s.gone) :
    s'.object = s.object := by
  funext k
  rw [object, object, hctx, hgone]

theorem Live.table (h : s.plants = .table) : s.Live images := by
  refine ⟨fun hn => absurd h hn, ?_, ?_⟩
  · intro vc hd
    rw [h] at hd
    cases hd
  · intro screen vc he
    rw [h] at he
    cases he

/-- The row of a plant that the table shows. -/
theorem row_of_mem {k : Nat} {p : Plant} {shown : Uid} (hg : s.gone = none)
    (hp : s.app.plants = some (some shown)) (h : (k, p) ∈ s.app.context.fetchedObjects shown) :
    (s.app.context.fetchedObjects shown)[s.indexPath (some k)]? = some (k, p) := by
  rw [indexPath, rows_eq hg hp]
  simp only [Option.some.injEq]
  exact WorkingCopy.Rows.part_findIdx h

/-! ## A tap is an event of the app -/

theorem opened_app (s : Interface) (e : Event) (app : App) : (s.opened e app).app = app := by
  cases e with
  | settingsShown => rfl
  | logoutButtonTapped => rfl
  | tableLoaded => rfl
  | launched => rfl
  | _ => rfl

/-- A live screen has a plant behind its reference. -/
theorem Live.reads {vc : PlantDetailViewController} (hl : s.Live images)
    (hd : s.plants.detailScreen = some vc) :
    ∃ k p, vc.plant = some k ∧ vc.localNotifications = some ⟨⟩ ∧ s.object k = some p := by
  obtain ⟨k, hload, -⟩ := hl.detail vc hd
  obtain ⟨hplant, hnote, p, hobj⟩ := PlantDetailViewController.viewDidLoad_plant hload
  exact ⟨k, p, hplant, hnote, hobj⟩

/-- The plant of a live screen is a row of the table, if it is not gone. -/
theorem Live.row {vc : PlantDetailViewController} (hl : s.Live images) (hg : s.gone = none)
    (hd : s.plants.detailScreen = some vc) :
    ∃ shown k p, s.app.plants = some (some shown) ∧ vc.plant = some k ∧
      vc.localNotifications = some ⟨⟩ ∧ s.object k = some p ∧
      (s.app.context.fetchedObjects shown)[s.indexPath (some k)]? = some (k, p) := by
  obtain ⟨k, hload, hshown⟩ := hl.detail vc hd
  obtain ⟨shown, p, hp, hmem⟩ := hshown hg
  obtain ⟨hplant, hnote, -⟩ := PlantDetailViewController.viewDidLoad_plant hload
  refine ⟨shown, k, p, hp, hplant, hnote, ?_, row_of_mem hg hp hmem⟩
  rw [object_eq hg]
  exact Context.object_of_mem (mem_fetchedObjects.mp hmem).1

/-- A tap on a detail screen waters the plant of a row. -/
theorem Live.water {vc : PlantDetailViewController} (hl : s.Live images) (hg : s.gone = none)
    (hd : s.plants.detailScreen = some vc) {alert : Option Watering}
    (hs : vc.plantButtonTapped s.object = some alert) :
    App.step s.app (.water (s.indexPath vc.plant)) = some s.app := by
  obtain ⟨shown, k, p, hp, hplant, hnote, hobj, hrow⟩ := hl.row hg hd
  rw [PlantDetailViewController.plantButtonTapped, hplant, hnote] at hs
  simp only [hobj, Option.bind_some] at hs
  have hw : waterTapped (some shown) s.app.context (s.indexPath (some k)) = some alert := by
    simp only [waterTapped, Option.bind_some, hrow]
    exact hs
  rw [hplant, App.step, hp, Option.bind_some, hw, Option.map_some]

/-- A tap on an edit screen updates the plant of a row. -/
theorem Live.update {screen : EditScreen} {vc : PlantDetailViewController} (hl : s.Live images)
    (hg : s.gone = none) (he : s.plants = .edit screen vc) {now : Date} {disk : Disk}
    {handled : Handled}
    (hs : screen.updateButtonTapped s.object now disk s.app.context = some handled) :
    App.step s.app (.garden (.edit (s.indexPath screen.plant) screen.vc) now disk) =
      some (s.leave handled).app := by
  obtain ⟨shown, k, p, hp, hplant, -, hobj, hrow⟩ := hl.row hg (by rw [he]; rfl)
  rw [← hl.edit screen vc he] at hplant
  rw [EditScreen.updateButtonTapped, hplant] at hs
  simp only [hobj, Option.bind_some] at hs
  simp only [App.step, hp, Option.bind_some, Action.handleOn, Action.handle, hplant, hrow, hs,
    Option.map_some, leave]

/-- A step of the interface is a step of the app where it is observed, and leaves the
app alone where it is not. -/
theorem Live.observe (hl : s.Live images) (ho : s.Outcome images count e s') :
    match s.observe e with
    | some d => App.step s.app d = some s'.app
    | none => s'.app = s.app := by
  cases ho with
  | session _ _ hx =>
      rw [opened_app]
      exact hx
  | loginTapped hx => exact hx
  | settingsSaved _ hx => exact hx
  | deleted hp _ _ hh => simp only [Interface.observe, App.step, hp, Option.bind_some, hh]; rfl
  | @saved captured screen now disk hp ht =>
      simp only [Interface.observe, ht, App.step, hp, Option.bind_some]
      cases captured with
      | none => rfl
      | some shown => rfl
  | updated hp ht hh =>
      cases hg : s.gone with
      | none =>
          simp only [Interface.observe, ht, hg]
          exact hl.update hg ht hh
      | some objects =>
          simp only [Interface.observe, ht, hg]
          rw [EditScreen.updateButtonTapped_gone (object_gone hg) hh]
          rfl
  | notWatered hp ht hw =>
      cases hg : s.gone with
      | none =>
          simp only [Interface.observe, ht, hg]
          exact hl.water hg (by rw [ht]; rfl) hw
      | some objects => simp only [Interface.observe, ht, hg]
  | watered hp ht hw =>
      cases hg : s.gone with
      | none =>
          simp only [Interface.observe, ht, hg]
          exact hl.water hg (by rw [ht]; rfl) hw
      | some objects => simp only [Interface.observe, ht, hg]
  | _ => rfl

/-! ## Every run keeps the screens live -/

/-- Nothing over a table is seen on the table. -/
theorem receive_table (effects : List Effect) :
    effects.foldl PlantScreens.receive .table = .table := by
  induction effects with
  | nil => rfl
  | cons effect effects ih =>
      rw [List.foldl_cons]
      cases effect with
      | _ => exact ih

/-- Only a table that is loaded and a launch change what is over the table. -/
theorem opened_plants (s : Interface) {e : Event} (app : App) (hload : e ≠ .tableLoaded)
    (hlaunch : e ≠ .launched) :
    (s.opened e app).plants = s.plants ∧ (s.opened e app).gone = s.gone := by
  cases e with
  | settingsShown => exact ⟨rfl, rfl⟩
  | logoutButtonTapped => exact ⟨rfl, rfl⟩
  | tableLoaded => exact absurd rfl hload
  | launched => exact absurd rfl hlaunch
  | _ => exact ⟨rfl, rfl⟩

/-- An update leaves the screens over the table, or it does nothing. -/
theorem updateButtonTapped_effects {screen : EditScreen} {object : Nat → Option Plant} {now : Date}
    {disk : Disk} {c : Context} {handled : Handled}
    (hs : screen.updateButtonTapped object now disk c = some handled) :
    handled.effects = EditViewController.segueAndUpdate ∨ handled = ⟨c, none, []⟩ := by
  have hvc : ∀ plant, screen.vc.updateButtonTapped plant now disk c = some handled →
      handled.effects = EditViewController.segueAndUpdate ∨ handled = ⟨c, none, []⟩ := by
    intro plant hs
    simp only [EditViewController.updateButtonTapped] at hs
    split at hs
    next =>
      cases hs
      exact Or.inr rfl
    next =>
      split at hs
      next =>
        split at hs
        next =>
          obtain ⟨updated, -, rfl⟩ := Option.map_eq_some_iff.mp hs
          exact Or.inl rfl
        next =>
          obtain ⟨updated, -, rfl⟩ := Option.map_eq_some_iff.mp hs
          exact Or.inl rfl
      next =>
        cases hs
        exact Or.inr rfl
  rw [EditScreen.updateButtonTapped] at hs
  split at hs
  next => exact hvc none hs
  next =>
    obtain ⟨plant, -, hs⟩ := Option.bind_eq_some_iff.mp hs
    exact hvc (some plant) hs

theorem EditScreen.updateViews_plant {object : Nat → Option Plant} {screen screen' : EditScreen}
    (hs : screen.updateViews images object = some screen') : screen'.plant = screen.plant := by
  rw [EditScreen.updateViews] at hs
  split at hs
  next =>
    cases hs
    rfl
  next =>
    obtain ⟨plant, -, rfl⟩ := Option.map_eq_some_iff.mp hs
    dsimp only
    split
    next => rfl
    next => rfl

/-- What an event can leave over the table. -/
inductive Screens (images : ImageLoader UIImage) (s : Interface) :
    InterfaceEvent → PlantScreens → Prop where
  | kept {e : InterfaceEvent} : e.fills = false → Screens images s e s.plants
  | added : Screens images s .addTapped (.add .viewDidLoad)
  | selected {indexPath : Nat} {row : Nat × Plant} {vc : PlantDetailViewController} :
      s.rows[indexPath]? = some row →
      PlantDetailViewController.viewDidLoad images s.object row.1 = some vc →
      Screens images s (.rowSelected indexPath) (.detail vc)
  | addEntered {entry : Entry} {screen : AddScreen} :
      s.plants = .add screen → Screens images s (.entered entry) (.add (screen.enter entry))
  | editEntered {entry : Entry} {screen : EditScreen} {vc : PlantDetailViewController} :
      s.plants = .edit screen vc →
      Screens images s (.entered entry) (.edit (screen.enter entry) vc)
  | edited {screen : EditScreen} {vc : PlantDetailViewController} :
      s.plants = .detail vc →
      vc.prepareEditPlant.updateViews images s.object = some screen →
      Screens images s .editTapped (.edit screen vc)
  | watered {vc : PlantDetailViewController} {uuid : String} {watering : Watering} :
      s.plants = .detail vc → vc.plantButtonTapped s.object = some (some watering) →
      Screens images s (.plantButtonTapped uuid) (.alert watering vc)
  | closed {screen : EditScreen} {vc : PlantDetailViewController} :
      s.plants = .edit screen vc → Screens images s .backTapped (.detail vc)

/-- An event ends at the table, or it leaves the plants alone. -/
theorem Outcome.screens (ho : s.Outcome images count e s') :
    s'.plants = .table ∨
      (Screens images s e s'.plants ∧ s'.app.context = s.app.context ∧ s'.gone = s.gone) := by
  have hsession : ∀ {e' : Event} {app : App}, e' ≠ .launched →
      App.step s.app (.session e') = some app → app.context = s.app.context := by
    intro e' app hlaunch hx
    rw [(App.step_session hx).2, if_neg hlaunch]
  cases ho with
  | @session e app _ _ hx =>
      by_cases hlaunch : e = .launched
      · subst hlaunch
        exact Or.inl rfl
      by_cases hload : e = .tableLoaded
      · subst hload
        exact Or.inl rfl
      obtain ⟨hplants, hgone⟩ := s.opened_plants app hload hlaunch
      rw [hplants, hgone, opened_app]
      exact Or.inr ⟨.kept rfl, hsession hlaunch hx, rfl⟩
  | loginEntered _ _ => exact Or.inr ⟨.kept rfl, rfl, rfl⟩
  | loginTapped hx => exact Or.inr ⟨.kept rfl, hsession (fun h => by cases h) hx, rfl⟩
  | settingsTyped _ => exact Or.inr ⟨.kept rfl, rfl, rfl⟩
  | settingsSelected _ => exact Or.inr ⟨.kept rfl, rfl, rfl⟩
  | settingsSaved _ hx => exact Or.inr ⟨.kept rfl, hsession (fun h => by cases h) hx, rfl⟩
  | added _ _ => exact Or.inr ⟨.added, rfl, rfl⟩
  | selected _ _ hrow hload => exact Or.inr ⟨.selected hrow hload, rfl, rfl⟩
  | @deleted captured indexPath disk handled _ ht _ _ =>
      refine Or.inl ?_
      change handled.effects.foldl PlantScreens.receive s.plants = .table
      rw [ht]
      exact receive_table _
  | addEntered _ ht => exact Or.inr ⟨.addEntered ht, rfl, rfl⟩
  | editEntered _ ht => exact Or.inr ⟨.editEntered ht, rfl, rfl⟩
  | @saved captured screen now disk _ ht =>
      obtain ⟨heq, -⟩ | ⟨_, _, -, -, -, -, heq⟩ := screen.vc.saveButtonTapped_cases
        s.app.session.defaults.uid now disk s.app.context
      · rw [heq]
        exact Or.inr ⟨.kept rfl, rfl, rfl⟩
      · rw [heq, leave, ht]
        exact Or.inl rfl
  | edited _ ht hscreen => exact Or.inr ⟨.edited ht hscreen, rfl, rfl⟩
  | updated _ ht hs =>
      obtain heff | rfl := updateButtonTapped_effects hs
      · refine Or.inl ?_
        rw [leave, heff]
        rfl
      · exact Or.inr ⟨.kept rfl, rfl, rfl⟩
  | notWatered _ _ _ => exact Or.inr ⟨.kept rfl, rfl, rfl⟩
  | watered _ ht hw => exact Or.inr ⟨.watered ht hw, rfl, rfl⟩
  | dismissed _ _ => exact Or.inl rfl
  | @back captured plants _ hback =>
      cases ht : s.plants with
      | table => rw [ht] at hback; cases hback
      | add screen =>
          rw [ht] at hback
          cases hback
          exact Or.inl rfl
      | detail vc =>
          rw [ht] at hback
          cases hback
          exact Or.inl rfl
      | alert watering vc => rw [ht] at hback; cases hback
      | edit screen vc =>
          rw [ht] at hback
          cases hback
          exact Or.inr ⟨.closed ht, rfl, rfl⟩

/-- An event ends at the table, or the same table is in front. -/
theorem Outcome.front (ho : s.Outcome images count e s') (hl : s.Live images)
    (hh : s.app.session.Hosted) :
    s'.plants = .table ∨
      ∃ captured, s.app.plants = some captured ∧ s'.app.plants = some captured := by
  have hsession : ∀ {e' : Event}, e' ≠ .settingsShown → e' ≠ .launched →
      App.step s.app (.session e') = some s'.app → s'.plants = s.plants →
      s'.plants = .table ∨
        ∃ captured, s.app.plants = some captured ∧ s'.app.plants = some captured := by
    intro e' hset hlaunch hx hplants
    by_cases ht : s.plants = .table
    · exact Or.inl (hplants.trans ht)
    · obtain ⟨captured, hp⟩ := hl.front ht
      exact Or.inr ⟨captured, hp, (App.step_front hh hp hset hlaunch hx).1⟩
  have hform : s'.app.plants = s.app.plants → s'.plants = s.plants →
      s'.plants = .table ∨
        ∃ captured, s.app.plants = some captured ∧ s'.app.plants = some captured := by
    intro hp hplants
    by_cases ht : s.plants = .table
    · exact Or.inl (hplants.trans ht)
    · obtain ⟨captured, hc⟩ := hl.front ht
      exact Or.inr ⟨captured, hc, hp.trans hc⟩
  cases ho with
  | @session e app _ hset hx =>
      by_cases hlaunch : e = .launched
      · subst hlaunch
        exact Or.inl rfl
      by_cases hload : e = .tableLoaded
      · subst hload
        exact Or.inl rfl
      obtain ⟨hplants, -⟩ := s.opened_plants app hload hlaunch
      by_cases hshown : e = .settingsShown
      · exact Or.inl (hplants.trans (hset hshown))
      · exact hsession hshown hlaunch (by rw [opened_app]; exact hx) hplants
  | loginEntered _ _ => exact hform rfl rfl
  | loginTapped hx => exact hsession (fun h => by cases h) (fun h => by cases h) hx rfl
  | settingsTyped _ => exact hform rfl rfl
  | settingsSelected _ => exact hform rfl rfl
  | settingsSaved _ hx => exact hsession (fun h => by cases h) (fun h => by cases h) hx rfl
  | selected hp _ _ _ => exact Or.inr ⟨_, hp, hp⟩
  | added hp _ => exact Or.inr ⟨_, hp, hp⟩
  | deleted hp _ _ _ => exact Or.inr ⟨_, hp, hp⟩
  | addEntered hp _ => exact Or.inr ⟨_, hp, hp⟩
  | editEntered hp _ => exact Or.inr ⟨_, hp, hp⟩
  | saved hp _ => exact Or.inr ⟨_, hp, hp⟩
  | edited hp _ _ => exact Or.inr ⟨_, hp, hp⟩
  | updated hp _ _ => exact Or.inr ⟨_, hp, hp⟩
  | notWatered hp _ _ => exact Or.inr ⟨_, hp, hp⟩
  | watered hp _ _ => exact Or.inr ⟨_, hp, hp⟩
  | dismissed hp _ => exact Or.inr ⟨_, hp, hp⟩
  | back hp _ => exact Or.inr ⟨_, hp, hp⟩

theorem Live.step (hl : s.Live images) (hh : s.app.session.Hosted)
    (ho : s.Outcome images count e s') : s'.Live images := by
  rcases ho.screens with ht | ⟨hscreens, hctx, hgone⟩
  · exact .table ht
  rcases ho.front hl hh with ht | ⟨captured, hp, hp'⟩
  · exact .table ht
  generalize hplants : s'.plants = plants at hscreens
  refine ⟨fun _ => ⟨captured, hp'⟩, fun vc hd => ?_, fun screen vc he => ?_⟩
  · rw [hplants] at hd
    have hobject : s'.object = s.object := object_congr hctx hgone
    rw [Current, hobject, hgone, hctx, hp', ← hp]
    cases hscreens with
    | kept _ => exact hl.detail vc hd
    | @selected indexPath row _ hrow hload =>
        cases hd
        refine ⟨row.1, hload, fun hg => ?_⟩
        obtain ⟨shown, hshown, hrow⟩ := rows_of_getElem? hg hrow
        exact ⟨shown, row.2, hshown, List.mem_of_getElem? hrow⟩
    | editEntered ht => exact hl.detail vc (by rw [ht]; exact hd)
    | edited ht _ => exact hl.detail vc (by rw [ht]; exact hd)
    | watered ht _ => exact hl.detail vc (by rw [ht]; exact hd)
    | closed ht => exact hl.detail vc (by rw [ht]; exact hd)
    | _ => cases hd
  · rw [hplants] at he
    cases hscreens with
    | kept _ => exact hl.edit screen vc he
    | editEntered ht =>
        cases he
        rw [EditScreen.enter_plant]
        exact hl.edit _ _ ht
    | edited _ hscreen =>
        cases he
        exact EditScreen.updateViews_plant hscreen
    | _ => cases he

/-! ## Runs -/

variable {h : List (Interface × InterfaceEvent)}

theorem launch_live (accounts : List Account) (database : Database) :
    (launch accounts database).app.session.Hosted ∧ (launch accounts database).Live images :=
  ⟨fun _ hr => absurd hr List.not_mem_nil, .table rfl⟩

/-- A step keeps what the projection onto the app needs. -/
theorem step_live (hi : s.app.session.Hosted ∧ s.Live images)
    (hs : Interface.step images count s e = some s') :
    s'.app.session.Hosted ∧ s'.Live images := by
  have ho := step_outcome hs
  have hobs := hi.2.observe ho
  refine ⟨?_, hi.2.step hi.1 ho⟩
  split at hobs
  next => exact App.step_hosted hi.1 hobs
  next =>
    rw [hobs]
    exact hi.1

theorem app_run {s₀ : Interface} (hr : Run (Interface.step images count) s₀ h s)
    (h₀ : s₀.app.session.Hosted ∧ s₀.Live images) :
    Run App.step s₀.app (project Interface.app Interface.observe h) s.app := by
  refine hr.project h₀ (fun _ _ _ hi hs => step_live hi hs) ?_ ?_
  · intro s e s' d hi hs hd
    have hobs := hi.2.observe (step_outcome hs)
    rw [hd] at hobs
    exact hobs
  · intro s e s' hi hs hn
    have hobs := hi.2.observe (step_outcome hs)
    rw [hn] at hobs
    exact hobs

/-- What the app keeps in every run, the interface keeps. -/
theorem invariant {accounts : List Account} {database : Database}
    (hr : Run (Interface.step images count) (.launch accounts database) h s) :
    s.Live images ∧ s.app.session.HasUser ∧ s.app.context.WellFormed := by
  refine ⟨(hr.invariant (launch_live accounts database) fun _ _ _ hi hs => step_live hi hs).2, ?_⟩
  refine (app_run hr (launch_live accounts database)).invariant ?_ fun app d app' hi hs =>
    App.step_invariant hi.1 hi.2 hs
  exact ⟨Session.hasUser_launch accounts database, Context.wellFormed_empty⟩

end Interface

/-- Every run of the interface is a run of the app: a tap on a form is an event with
the texts of the form, a tap on the screens of a plant is one on the row of that plant,
and one on a plant that is gone is no event of the app. -/
theorem interface_refines {images : ImageLoader UIImage} {count : String → Nat}
    {accounts : List Account} {database : Database} {h : List (Interface × InterfaceEvent)}
    {s : Interface} (hr : Run (Interface.step images count) (.launch accounts database) h s) :
    Run App.step (.launch accounts database) (project Interface.app Interface.observe h) s.app :=
  Interface.app_run hr (Interface.launch_live accounts database)

/-- In every run, while the objects of the table are not gone, the detail screen of a
plant, on top or under its alert or its edit screen, is about a plant that the table in
front shows, and its labels and its image are those the plant has now. -/
theorem detail_current {images : ImageLoader UIImage} {count : String → Nat}
    {accounts : List Account} {database : Database} {h : List (Interface × InterfaceEvent)}
    {s : Interface} (hr : Run (Interface.step images count) (.launch accounts database) h s)
    (hg : s.gone = none) {vc : PlantDetailViewController}
    (hd : s.plants.detailScreen = some vc) :
    ∃ shown k p, s.app.plants = some (some shown) ∧
      (k, p) ∈ s.app.context.fetchedObjects shown ∧ vc.plant = some k ∧ vc.ShowsPlant images p := by
  obtain ⟨hl, -, hw⟩ := Interface.invariant hr
  obtain ⟨k, hload, hshown⟩ := hl.detail vc hd
  obtain ⟨shown, p, hp, hmem⟩ := hshown hg
  have hobj := (mem_fetchedObjects.mp hmem).1
  have hp' := hw.1 _ hobj
  obtain ⟨f, -, hf⟩ := hp'.frequency
  have hread : s.object k = some p := by
    rw [Interface.object_eq hg]
    exact Context.object_of_mem hobj
  obtain ⟨vc', hload', hshows⟩ := PlantDetailViewController.viewDidLoad_shows images hread
    (by rw [hf]; rfl) hp'.species hp'.nickname
  rw [hload, Option.some.injEq] at hload'
  subst hload'
  exact ⟨shown, k, p, hp, hmem, (PlantDetailViewController.viewDidLoad_plant hload).1, hshows⟩

/-- Every tap on the screens of plants is answered: a row opens its plant, and the edit
button its form.  Where the objects of the table are not gone, a row is deleted, the
water button waters its plant and the update button does not trap.  Where they are gone
the water button does nothing. -/
structure Interface.Answers (images : ImageLoader UIImage) (count : String → Nat)
    (s : Interface) : Prop where
  rowSelected : ∀ indexPath row, s.plants = .table → s.rows[indexPath]? = some row →
    ∃ s' vc, Interface.step images count s (.rowSelected indexPath) = some s' ∧
      s'.plants = .detail vc ∧ vc.plant = some row.1
  editTapped : ∀ vc, s.plants = .detail vc →
    ∃ s' screen, Interface.step images count s .editTapped = some s' ∧
      s'.plants = .edit screen vc
  rowDeleted : ∀ indexPath row disk, s.gone = none → s.plants = .table →
    s.rows[indexPath]? = some row →
    (Interface.step images count s (.rowDeleted indexPath disk)).isSome = true
  plantButtonTapped : ∀ vc uuid, s.gone = none → s.plants = .detail vc →
    ∃ s' watering, Interface.step images count s (.plantButtonTapped uuid) = some s' ∧
      s'.plants = .alert watering vc
  updateButtonTapped : ∀ screen vc now disk, s.gone = none → s.plants = .edit screen vc →
    (Interface.step images count s (.updateButtonTapped now disk)).isSome = true
  notWatered : ∀ vc uuid objects, s.gone = some objects → s.plants = .detail vc →
    Interface.step images count s (.plantButtonTapped uuid) = some s

section
variable {images : ImageLoader UIImage} {count : String → Nat} {s : Interface}
  {vc : PlantDetailViewController}

/-- A live screen is about a well-formed plant, if it is not gone. -/
theorem Interface.Live.plant (hl : s.Live images) (hw : s.app.context.WellFormed)
    (hg : s.gone = none) (hd : s.plants.detailScreen = some vc) :
    ∃ shown k p, s.app.plants = some (some shown) ∧ vc.plant = some k ∧
      vc.localNotifications = some ⟨⟩ ∧ s.object k = some p ∧ p.WellFormed ∧
      (s.app.context.fetchedObjects shown)[s.indexPath (some k)]? = some (k, p) := by
  obtain ⟨shown, k, p, hp, hplant, hnote, hobj, hrow⟩ := hl.row hg hd
  exact ⟨shown, k, p, hp, hplant, hnote, hobj, hw.1 _ (mem_of_row hrow).1, hrow⟩

theorem EditScreen.updateButtonTapped_isSome {screen : EditScreen} {object : Nat → Option Plant}
    {c : Context} {shown : Uid} {i k : Nat} {p : Plant} (now : Date) (disk : Disk)
    (hplant : screen.plant = some k) (hobj : object k = some p) (hw : c.WellFormed)
    (hrow : (c.fetchedObjects shown)[i]? = some (k, p)) :
    (screen.updateButtonTapped object now disk c).isSome = true := by
  have hsome : ((Action.edit i screen.vc).handle none shown now disk c).isSome = true :=
    handle_isSome hw
  rw [Action.handle, hrow] at hsome
  rw [EditScreen.updateButtonTapped, hplant]
  simp only [hobj, Option.bind_some]
  exact hsome

theorem Interface.Live.updateButtonTapped_answered {count : String → Nat} {screen : EditScreen}
    (now : Date) (disk : Disk) (hl : s.Live images) (hw : s.app.context.WellFormed)
    (hg : s.gone = none) (ht : s.plants = .edit screen vc) :
    (Interface.step images count s (.updateButtonTapped now disk)).isSome = true := by
  have hd : s.plants.detailScreen = some vc := by rw [ht]; rfl
  obtain ⟨shown, k, p, hp, hplant, -, hobj, -, hrow⟩ := hl.plant hw hg hd
  rw [← hl.edit screen vc ht] at hplant
  obtain ⟨handled, hh⟩ := Option.isSome_iff_exists.mp
    (EditScreen.updateButtonTapped_isSome now disk hplant hobj hw hrow)
  simp only [Interface.step, hp, Option.bind_some, Interface.onPlants, ht, hh, Option.map_some,
    Option.isSome_some]

end

/-- Bytes stand for themselves, and the default image has none. -/
def bytesLoader : ImageLoader UIImage := ⟨fun _ => some ⟨none⟩, fun data => some ⟨some data⟩⟩

/-- `ada` signs up, adds a plant and opens it. -/
def openedRun : List InterfaceEvent :=
  [.loginEntered (.segment 1), .loginEntered (.email "ada@mail.com"),
    .loginEntered (.password "secret"), .loginEntered (.username "ada"), .loginSignUpButtonTapped,
    .session (.authenticated 0 "a" (some "ada@mail.com")), .session (.completed 0 .success),
    .session (.committed 0), .session (.completed 0 .success), .session .tableLoaded, .addTapped,
    .entered (.nickname "Fern"), .entered (.species "Nephrolepis"), .entered (.frequency 2),
    .saveButtonTapped 1 ⟨true, true⟩, .rowSelected 0]

/-- The state with the plant opened. -/
def plantOpened : Interface :=
  endState (Interface.step bytesLoader String.length) (.launch [] []) openedRun rfl

theorem plantOpened_run : Run (Interface.step bytesLoader String.length) (.launch [] [])
    (history (Interface.step bytesLoader String.length) (.launch [] []) openedRun) plantOpened :=
  endState_run rfl

theorem interface_refines_opened :
    Run App.step (.launch [] []) (project Interface.app Interface.observe
      (history (Interface.step bytesLoader String.length) (.launch [] []) openedRun))
        plantOpened.app :=
  interface_refines plantOpened_run

theorem detail_current_opened :
    ∃ vc, plantOpened.plants.detailScreen = some vc ∧
      ∃ shown k p, plantOpened.app.plants = some (some shown) ∧
        (k, p) ∈ plantOpened.app.context.fetchedObjects shown ∧ vc.plant = some k ∧
        vc.ShowsPlant bytesLoader p :=
  ⟨_, rfl, detail_current plantOpened_run rfl rfl⟩

/-- Another plant is added.  The delete of the first throws, and the second is opened. -/
def forgottenRun : List InterfaceEvent :=
  openedRun ++ [.backTapped, .addTapped, .entered (.nickname "Aloe"),
    .entered (.species "Aloe vera"), .saveButtonTapped 2 ⟨true, true⟩,
    .rowDeleted 0 ⟨true, false⟩, .rowSelected 0]

/-- Both plants are there, and the labels of the storyboard are left on the screen. -/
example :
    ((exec (Interface.step bytesLoader String.length) (.launch [] []) forgottenRun).bind fun s =>
      s.plants.detailScreen.map fun vc => (s.app.context.objects.list.length, vc.nicknameLabel)) =
        some (2, some "Nickname") := by decide

end WaterMyPlants
