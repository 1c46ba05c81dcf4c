import WaterMyPlants.Interface.Front

/-!
# What was entered

An add screen starts empty and an edit screen with the texts of its plant.  From then
on it holds what the user entered, and a tap on its button writes what it holds.  So
the plant gets of every kind of entry the last one.

The frequency control of an edit screen starts at its first segment, whatever the
plant has.  An update without a choice makes the plant one that is watered once a day.
-/

namespace WaterMyPlants

open Transition

namespace Entry

/-! ## The last entry of a kind -/

/-- The nickname an entry sets. -/
def nickname? : Entry → Option String
  | .nickname text => some text
  | _ => none

/-- The species an entry sets. -/
def species? : Entry → Option String
  | .species text => some text
  | _ => none

/-- The segment an entry selects. -/
def segment? : Entry → Option Nat
  | .frequency selectedSegmentIndex => some selectedSegmentIndex
  | _ => none

/-- The image an entry picks. -/
def photo? : Entry → Option UIImage
  | .photo editedImage => editedImage
  | _ => none

/-- The last entry of a kind. -/
def last {τ : Type} (kind : Entry → Option τ) (entries : List Entry) : Option τ :=
  (entries.filterMap kind).getLast?

end Entry

/-! ## The form after some entries -/

namespace AddScreen

/-- The form with the last entry of each kind. -/
def fill (screen : AddScreen) (entries : List Entry) : AddScreen where
  vc :=
    { plantNicknameTextField := (Entry.last Entry.nickname? entries).or
        screen.vc.plantNicknameTextField
      speciesTextField := (Entry.last Entry.species? entries).or screen.vc.speciesTextField
      plantImage := (Entry.last Entry.photo? entries).or screen.vc.plantImage
      selectedSegmentIndex :=
        (Entry.last Entry.segment? entries).getD screen.vc.selectedSegmentIndex }
  plantImageView := (Entry.last Entry.photo? entries).or screen.plantImageView

theorem enter_fields (screen : AddScreen) (entry : Entry) :
    (screen.enter entry).vc.plantNicknameTextField =
        entry.nickname?.or screen.vc.plantNicknameTextField ∧
      (screen.enter entry).vc.speciesTextField = entry.species?.or screen.vc.speciesTextField ∧
      (screen.enter entry).vc.plantImage = entry.photo?.or screen.vc.plantImage ∧
      some (screen.enter entry).vc.selectedSegmentIndex =
        entry.segment?.or (some screen.vc.selectedSegmentIndex) ∧
      (screen.enter entry).plantImageView = entry.photo?.or screen.plantImageView := by
  cases entry with
  | photo editedImage =>
      cases editedImage with
      | none => exact ⟨rfl, rfl, rfl, rfl, rfl⟩
      | some userPickedImage => exact ⟨rfl, rfl, rfl, rfl, rfl⟩
  | _ => exact ⟨rfl, rfl, rfl, rfl, rfl⟩

theorem foldl_enter (screen : AddScreen) (entries : List Entry) :
    entries.foldl enter screen = screen.fill entries := by
  have hn := foldl_last (f := fun screen : AddScreen => screen.vc.plantNicknameTextField)
    (fun screen entry => (screen.enter_fields entry).1) screen entries
  have hs := foldl_last (f := fun screen : AddScreen => screen.vc.speciesTextField)
    (fun screen entry => (screen.enter_fields entry).2.1) screen entries
  have hp := foldl_last (f := fun screen : AddScreen => screen.vc.plantImage)
    (fun screen entry => (screen.enter_fields entry).2.2.1) screen entries
  have hi := foldl_last (f := fun screen : AddScreen => some screen.vc.selectedSegmentIndex)
    (fun screen entry => (screen.enter_fields entry).2.2.2.1) screen entries
  have hv := foldl_last (f := fun screen : AddScreen => screen.plantImageView)
    (fun screen entry => (screen.enter_fields entry).2.2.2.2) screen entries
  rw [Option.or_some, Option.some.injEq] at hi
  rw [fill, Entry.last, Entry.last, Entry.last, Entry.last, ← hn, ← hs, ← hp, ← hi, ← hv]

end AddScreen

namespace EditScreen

/-- The form with the last entry of each kind. -/
def fill (screen : EditScreen) (entries : List Entry) : EditScreen where
  vc :=
    { nicknameTextField := (Entry.last Entry.nickname? entries).or screen.vc.nicknameTextField
      speciesTextField := (Entry.last Entry.species? entries).or screen.vc.speciesTextField
      newPlantImage := (Entry.last Entry.photo? entries).or screen.vc.newPlantImage
      selectedSegmentIndex :=
        (Entry.last Entry.segment? entries).getD screen.vc.selectedSegmentIndex }
  plantImageView := (Entry.last Entry.photo? entries).or screen.plantImageView
  plant := screen.plant

theorem enter_fields (screen : EditScreen) (entry : Entry) :
    (screen.enter entry).vc.nicknameTextField = entry.nickname?.or screen.vc.nicknameTextField ∧
      (screen.enter entry).vc.speciesTextField = entry.species?.or screen.vc.speciesTextField ∧
      (screen.enter entry).vc.newPlantImage = entry.photo?.or screen.vc.newPlantImage ∧
      some (screen.enter entry).vc.selectedSegmentIndex =
        entry.segment?.or (some screen.vc.selectedSegmentIndex) ∧
      (screen.enter entry).plantImageView = entry.photo?.or screen.plantImageView := by
  cases entry with
  | photo editedImage =>
      cases editedImage with
      | none => exact ⟨rfl, rfl, rfl, rfl, rfl⟩
      | some userPickedImage => exact ⟨rfl, rfl, rfl, rfl, rfl⟩
  | _ => exact ⟨rfl, rfl, rfl, rfl, rfl⟩

theorem foldl_enter_plant (screen : EditScreen) (entries : List Entry) :
    (entries.foldl enter screen).plant = screen.plant := by
  induction entries generalizing screen with
  | nil => rfl
  | cons entry entries ih => rw [List.foldl_cons, ih, enter_plant]

theorem foldl_enter (screen : EditScreen) (entries : List Entry) :
    entries.foldl enter screen = screen.fill entries := by
  have hn := foldl_last (f := fun screen : EditScreen => screen.vc.nicknameTextField)
    (fun screen entry => (screen.enter_fields entry).1) screen entries
  have hs := foldl_last (f := fun screen : EditScreen => screen.vc.speciesTextField)
    (fun screen entry => (screen.enter_fields entry).2.1) screen entries
  have hp := foldl_last (f := fun screen : EditScreen => screen.vc.newPlantImage)
    (fun screen entry => (screen.enter_fields entry).2.2.1) screen entries
  have hi := foldl_last (f := fun screen : EditScreen => some screen.vc.selectedSegmentIndex)
    (fun screen entry => (screen.enter_fields entry).2.2.2.1) screen entries
  have hv := foldl_last (f := fun screen : EditScreen => screen.plantImageView)
    (fun screen entry => (screen.enter_fields entry).2.2.2.2) screen entries
  rw [Option.or_some, Option.some.injEq] at hi
  rw [fill, Entry.last, Entry.last, Entry.last, Entry.last, ← hn, ← hs, ← hp, ← hi, ← hv,
    ← foldl_enter_plant screen entries]

end EditScreen

/-! ## What an update writes -/

/-- The plant with the last entry of each kind.  Without a segment it is the first. -/
def Plant.entered (entries : List Entry) (now : Date) (p : Plant) : Plant where
  frequency := some (segmentTitle EditViewController.frequencySegControl
    ((Entry.last Entry.segment? entries).getD 0))
  id := p.id
  image := ((Entry.last Entry.photo? entries).bind UIImage.pngData).or p.image
  nickname := (Entry.last Entry.nickname? entries).or p.nickname
  species := (Entry.last Entry.species? entries).or p.species
  timestamp := some now

/-- The edit screen of a plant, when it is shown. -/
def EditScreen.ofPlant (images : ImageLoader UIImage) (k : Nat) (p : Plant) : EditScreen where
  vc := ⟨p.nickname, p.species, none, 0⟩
  plantImageView := p.image.bind images.data
  plant := some k

theorem EditScreen.updateViews_eq {images : ImageLoader UIImage} {object : Nat → Option Plant}
    {k : Nat} {p : Plant} {vc : PlantDetailViewController} (hplant : vc.plant = some k)
    (hobj : object k = some p) :
    vc.prepareEditPlant.updateViews images object = some (.ofPlant images k p) := by
  simp only [EditScreen.updateViews, PlantDetailViewController.prepareEditPlant, hplant, hobj,
    Option.map_some, Option.some.injEq, EditScreen.ofPlant]
  cases p.image with
  | none => rfl
  | some plantImage => rfl

namespace Interface

/-- What was entered since a form over the table was opened. -/
def entries (h : List (Interface × InterfaceEvent)) : List Entry :=
  h.foldl (fun entries p =>
    match p.2 with
    | .addTapped => []
    | .editTapped => []
    | .entered entry => entries ++ [entry]
    | _ => entries) []

theorem entries_append (h : List (Interface × InterfaceEvent)) (s : Interface)
    (e : InterfaceEvent) :
    entries (h ++ [(s, e)]) =
      match e with
      | .addTapped => []
      | .editTapped => []
      | .entered entry => entries h ++ [entry]
      | _ => entries h := by
  rw [entries, List.foldl_append]
  rfl

theorem entries_kept {h : List (Interface × InterfaceEvent)} {s : Interface} {e : InterfaceEvent}
    (he : e.fills = false) : entries (h ++ [(s, e)]) = entries h := by
  rw [entries_append]
  cases e with
  | addTapped => cases he
  | editTapped => cases he
  | entered entry => cases he
  | _ => rfl

/-- A form over the table is the one that was opened, with what was entered since. -/
structure FilledIn (images : ImageLoader UIImage) (h : List (Interface × InterfaceEvent))
    (s : Interface) : Prop where
  add : ∀ screen, s.plants = .add screen → screen = (entries h).foldl AddScreen.enter .viewDidLoad
  edit : ∀ screen vc, s.plants = .edit screen vc → ∃ k p, s.object k = some p ∧
    screen = (entries h).foldl EditScreen.enter (.ofPlant images k p)

variable {images : ImageLoader UIImage} {count : String → Nat} {s s' : Interface}
  {e : InterfaceEvent} {h : List (Interface × InterfaceEvent)}

theorem FilledIn.table (ht : s.plants = .table) : FilledIn images h s := by
  refine ⟨fun screen ha => ?_, fun screen vc he => ?_⟩
  · rw [ht] at ha
    cases ha
  · rw [ht] at he
    cases he

theorem FilledIn.step (hf : FilledIn images h s) (hl : s.Live images)
    (ho : s.Outcome images count e s') : FilledIn images (h ++ [(s, e)]) s' := by
  rcases ho.screens with ht | ⟨hscreens, hctx, hgone⟩
  · exact .table ht
  generalize hplants : s'.plants = plants at hscreens
  refine ⟨fun screen ha => ?_, fun screen vc he => ?_⟩
  · rw [hplants] at ha
    cases hscreens with
    | kept he =>
        rw [entries_kept he]
        exact hf.add screen ha
    | added =>
        cases ha
        rw [entries_append]
        rfl
    | addEntered ht =>
        cases ha
        rw [entries_append, List.foldl_append, ← hf.add _ ht]
        rfl
    | _ => cases ha
  · rw [hplants] at he
    rw [object_congr hctx hgone]
    cases hscreens with
    | kept hfills =>
        rw [entries_kept hfills]
        exact hf.edit screen vc he
    | editEntered ht =>
        cases he
        obtain ⟨k, p, hobj, hscreen⟩ := hf.edit _ vc ht
        refine ⟨k, p, hobj, ?_⟩
        rw [entries_append, List.foldl_append, ← hscreen]
        rfl
    | edited ht hscreen =>
        cases he
        have hd : s.plants.detailScreen = some vc := by rw [ht]; rfl
        obtain ⟨k, p, hplant, -, hobj⟩ := hl.reads hd
        rw [EditScreen.updateViews_eq hplant hobj, Option.some.injEq] at hscreen
        refine ⟨k, p, hobj, ?_⟩
        rw [entries_append, ← hscreen]
        rfl
    | _ => cases he

theorem filledIn {accounts : List Account} {database : Database}
    (hr : Run (Interface.step images count) (.launch accounts database) h s) :
    FilledIn images h s := by
  refine (hr.history_invariant (I := fun h s =>
    (s.app.session.Hosted ∧ s.Live images) ∧ FilledIn images h s) ?_ ?_).2
  · exact ⟨launch_live accounts database, .table rfl⟩
  · rintro h s e s' ⟨hi, hf⟩ hs
    exact ⟨step_live hi hs, hf.step hi.2 (step_outcome hs)⟩

end Interface

/-! ## The buttons of the forms -/

section
variable {images : ImageLoader UIImage} {count : String → Nat} {accounts : List Account}
  {database : Database} {h : List (Interface × InterfaceEvent)} {s s' : Interface} {now : Date}
  {disk : Disk}

theorem EditScreen.updateButtonTapped_eq {screen : EditScreen} {object : Nat → Option Plant}
    {c : Context} {k : Nat} {p : Plant} (hplant : screen.plant = some k)
    (hobj : object k = some p) :
    screen.updateButtonTapped object now disk c =
      screen.vc.updateButtonTapped (some p) now disk c := by
  rw [EditScreen.updateButtonTapped, hplant]
  simp only [hobj, Option.bind_some]

/-- What an update makes of the plant of the form it is on. -/
theorem EditScreen.edited_eq {k : Nat} {p : Plant} {entries : List Entry}
    {nickname species : String}
    (hn : ((EditScreen.ofPlant images k p).fill entries).vc.nicknameTextField = some nickname)
    (hs : ((EditScreen.ofPlant images k p).fill entries).vc.speciesTextField = some species) :
    ((EditScreen.ofPlant images k p).fill entries).vc.edited nickname species now p =
      p.entered entries now := by
  have hn : (Entry.last Entry.nickname? entries).or p.nickname = some nickname := hn
  have hs : (Entry.last Entry.species? entries).or p.species = some species := hs
  simp only [EditViewController.edited, Plant.edited, Plant.entered, hn, hs, EditScreen.fill,
    EditScreen.ofPlant, EditViewController.segControlString, Option.or_none]

/-- What an update of a form that was filled in leaves behind. -/
theorem EditScreen.update_writes {entries : List Entry} {object : Nat → Option Plant} {c : Context}
    {k : Nat} {p : Plant} {t : Date} {handled : Handled} (hread : object k = some p)
    (hobj : (k, p) ∈ c.objects.list) (hw : p.WellFormed) (ht : p.timestamp = some t)
    (hh : ((EditScreen.ofPlant images k p).fill entries).updateButtonTapped object now disk c =
      some handled) :
    handled.effects = EditViewController.segueAndUpdate ∧ handled.context.objects =
      if disk.fetches = true ∧ c.withTimestamp t = [(k, p)] then
        c.objects.modify k (Plant.entered entries now)
      else c.objects := by
  have hnick : (((EditScreen.ofPlant images k p).fill entries).vc.nicknameTextField
      ).isSome = true := by
    simp only [EditScreen.fill, EditScreen.ofPlant, Option.isSome_or, hw.nickname, Bool.or_true]
  have hspec : (((EditScreen.ofPlant images k p).fill entries).vc.speciesTextField
      ).isSome = true := by
    simp only [EditScreen.fill, EditScreen.ofPlant, Option.isSome_or, hw.species, Bool.or_true]
  obtain ⟨nickname, hnick⟩ := Option.isSome_iff_exists.mp hnick
  obtain ⟨species, hspec⟩ := Option.isSome_iff_exists.mp hspec
  rw [EditScreen.updateButtonTapped_eq rfl hread,
    EditViewController.updateButtonTapped_eq disk hobj ht hnick hspec, Option.some.injEq] at hh
  subst hh
  by_cases hu : disk.fetches = true ∧ c.withTimestamp t = [(k, p)]
  · rw [if_pos hu, if_pos hu]
    refine ⟨rfl, ?_⟩
    have hsave : (Context.save disk (c.modify k
        (((EditScreen.ofPlant images k p).fill entries).vc.edited nickname species
          now))).2.objects = c.objects.modify k
        (((EditScreen.ofPlant images k p).fill entries).vc.edited nickname species now) :=
      WorkingCopy.save_objects _ _ _
    refine hsave.trans (WorkingCopy.Rows.modify_congr fun q hq => ?_)
    rw [WorkingCopy.Rows.eq_of_mem hq hobj]
    exact EditScreen.edited_eq hnick hspec
  · rw [if_neg hu, if_neg hu]
    exact ⟨rfl, rfl⟩

/-- In every run, while the objects of the table are not gone, an update closes the form
and changes its plant, if that alone has its timestamp: of every kind of entry it gets the
last one since the form was opened.  A text or an image that was not entered stays, and
without a choice the frequency is the first. -/
theorem update_writes_entries
    (hr : Run (Interface.step images count) (.launch accounts database) h s)
    (hg : s.gone = none) {screen : EditScreen} {vc : PlantDetailViewController}
    (he : s.plants = .edit screen vc) :
    ∃ s' k p t, Interface.step images count s (.updateButtonTapped now disk) = some s' ∧
      (k, p) ∈ s.app.context.objects.list ∧ vc.plant = some k ∧ p.timestamp = some t ∧
      s'.plants = .table ∧ s'.app.context.objects =
        if disk.fetches = true ∧ s.app.context.withTimestamp t = [(k, p)] then
          s.app.context.objects.modify k (Plant.entered (Interface.entries h) now)
        else s.app.context.objects := by
  obtain ⟨hl, -, hw⟩ := Interface.invariant hr
  obtain ⟨k, p, hread, hscreen⟩ := (Interface.filledIn hr).edit screen vc he
  rw [EditScreen.foldl_enter] at hscreen
  subst hscreen
  have hobj : (k, p) ∈ s.app.context.objects.list := by
    rw [Interface.object_eq hg] at hread
    exact Context.mem_of_object hread
  have hwf := hw.1 _ hobj
  obtain ⟨t, ht⟩ := Option.isSome_iff_exists.mp hwf.timestamp
  have hsome : (Interface.step images count s (.updateButtonTapped now disk)).isSome = true :=
    hl.updateButtonTapped_answered now disk hw hg he
  obtain ⟨s', hs⟩ := Option.isSome_iff_exists.mp hsome
  refine ⟨s', k, p, t, hs, hobj, (hl.edit _ vc he).symm, ht, ?_⟩
  cases Interface.step_outcome hs with
  | updated _ he' hh =>
      rw [he] at he'
      cases he'
      obtain ⟨heff, hobjects⟩ := EditScreen.update_writes hread hobj hwf ht hh
      refine ⟨?_, hobjects⟩
      rw [Interface.leave, heff]
      rfl

/-- The plant an add starts from. -/
def Plant.blank (uid : Option Uid) : Plant where
  frequency := none
  id := uid
  image := none
  nickname := some ""
  species := some ""
  timestamp := none

/-- What a save of a form that was filled in does. -/
theorem AddScreen.save_writes (entries : List Entry) (uid : Option Uid) (now : Date)
    (disk : Disk) (c : Context) :
    let handled := (AddScreen.viewDidLoad.fill entries).vc.saveButtonTapped uid now disk c
    if (Entry.last Entry.nickname? entries).getD "" = "" ∨
        (Entry.last Entry.species? entries).getD "" = "" then handled = ⟨c, none, []⟩
    else handled.effects = [.popViewController] ∧
      handled.context.objects.list = c.objects.list ++
        [(c.next, (Plant.blank uid).entered entries now)] := by
  intro handled
  have hnick : (AddScreen.viewDidLoad.fill entries).vc.plantNicknameTextField =
      some ((Entry.last Entry.nickname? entries).getD "") := Option.or_some
  have hspec : (AddScreen.viewDidLoad.fill entries).vc.speciesTextField =
      some ((Entry.last Entry.species? entries).getD "") := Option.or_some
  obtain ⟨heq, hempty⟩ | ⟨nickname, species, hn, hne, hsp, hse, heq⟩ :=
    (AddScreen.viewDidLoad.fill entries).vc.saveButtonTapped_cases uid now disk c
  · rw [if_pos (hempty _ _ hnick hspec)]
    exact heq
  · rw [hnick, Option.some.injEq] at hn
    rw [hspec, Option.some.injEq] at hsp
    have hplant : (AddScreen.viewDidLoad.fill entries).vc.plant uid nickname species now =
        (Plant.blank uid).entered entries now := by
      rw [← hn, ← hsp]
      simp only [AddPlantViewController.plant, Plant.entered, Plant.blank, Option.or_some,
        Option.or_none, AddScreen.fill, AddScreen.viewDidLoad]
      rfl
    rw [hplant] at heq
    rw [if_neg (by rw [hn, hsp, not_or]; exact ⟨hne, hse⟩), show handled = _ from heq]
    exact ⟨rfl, congrArg WorkingCopy.Rows.list (WorkingCopy.save_objects _ _ _)⟩

/-- In every run a save does nothing while the nickname or the species that was entered
last is empty.  Otherwise it closes the form and adds one plant, of the user who is
logged in, with the last entry of each kind since the form was opened. -/
theorem save_writes_entries
    (hr : Run (Interface.step images count) (.launch accounts database) h s) {screen : AddScreen}
    (ha : s.plants = .add screen)
    (hs : Interface.step images count s (.saveButtonTapped now disk) = some s') :
    if (Entry.last Entry.nickname? (Interface.entries h)).getD "" = "" ∨
        (Entry.last Entry.species? (Interface.entries h)).getD "" = "" then s' = s
    else s'.plants = .table ∧ s'.app.context.objects.list = s.app.context.objects.list ++
      [(s.app.context.next,
        (Plant.blank s.app.session.defaults.uid).entered (Interface.entries h) now)] := by
  have hscreen := (Interface.filledIn hr).add screen ha
  rw [AddScreen.foldl_enter] at hscreen
  subst hscreen
  cases Interface.step_outcome hs with
  | saved _ ha' =>
      rw [ha] at ha'
      cases ha'
      have hwrites := AddScreen.save_writes (Interface.entries h) s.app.session.defaults.uid now
        disk s.app.context
      split at hwrites
      next hempty =>
        rw [if_pos hempty, hwrites]
        rfl
      next hfilled =>
        rw [if_neg hfilled]
        refine ⟨?_, hwrites.2⟩
        rw [Interface.leave, hwrites.1, ha]
        rfl

end

/-! ## A plant is added, and gets another nickname -/

/-- The form in which the plant was entered. -/
def adding : Interface :=
  endState (Interface.step bytesLoader String.length) (.launch [] []) (openedRun.take 14) rfl

/-- What led to it. -/
def addingHistory : List (Interface × InterfaceEvent) :=
  history (Interface.step bytesLoader String.length) (.launch [] []) (openedRun.take 14)

/-- The state after the save. -/
def afterSave : Interface :=
  (Interface.step bytesLoader String.length adding (.saveButtonTapped 1 ⟨true, true⟩)).get rfl

theorem save_writes_entries_adding :
    ∃ screen, adding.plants = .add screen ∧
      if (Entry.last Entry.nickname? (Interface.entries addingHistory)).getD "" = "" ∨
          (Entry.last Entry.species? (Interface.entries addingHistory)).getD "" = "" then
        afterSave = adding
      else afterSave.plants = .table ∧
        afterSave.app.context.objects.list = adding.app.context.objects.list ++
          [(adding.app.context.next, (Plant.blank adding.app.session.defaults.uid).entered
            (Interface.entries addingHistory) 1)] :=
  ⟨_, rfl, save_writes_entries (h := addingHistory) (endState_run rfl) rfl
    (Option.some_get _).symm⟩

/-- The plant that was opened is edited. -/
def editingRun : List InterfaceEvent :=
  openedRun ++ [.editTapped, .entered (.nickname "Boston fern")]

/-- The form in which the nickname was changed. -/
def editing : Interface :=
  endState (Interface.step bytesLoader String.length) (.launch [] []) editingRun rfl

/-- What led to it. -/
def editingHistory : List (Interface × InterfaceEvent) :=
  history (Interface.step bytesLoader String.length) (.launch [] []) editingRun

theorem update_writes_entries_editing :
    ∃ screen vc, editing.plants = .edit screen vc ∧
      ∃ s' k p t, Interface.step bytesLoader String.length editing
          (.updateButtonTapped 2 ⟨true, true⟩) = some s' ∧
        (k, p) ∈ editing.app.context.objects.list ∧ vc.plant = some k ∧
        p.timestamp = some t ∧ s'.plants = .table ∧ s'.app.context.objects =
          if true = true ∧ editing.app.context.withTimestamp t = [(k, p)] then
            editing.app.context.objects.modify k
              (Plant.entered (Interface.entries editingHistory) 2)
          else editing.app.context.objects :=
  ⟨_, _, rfl, update_writes_entries (h := editingHistory) (endState_run rfl) rfl rfl⟩

/-- The frequency that was chosen is lost. -/
example :
    (Interface.step bytesLoader String.length editing (.updateButtonTapped 2 ⟨true, true⟩)).map
        (fun s => s.app.context.objects.list.map fun o => (o.2.nickname, o.2.frequency)) =
      some [(some "Boston fern", some "Once a day")] := by decide

end WaterMyPlants
