import WaterMyPlants.Garden.Shelf

/-!
# Several users on one device

All users share one context and one store, so an action of one user can reach
the plants of another in two ways.  Its save writes, or its failed delete drops,
what the other still has pending (`Tap.Sweeps`).  And an update is lost when a
plant of another user has the timestamp it searches for (`Tap.Mistaken`).

There is no third way.  A run without such steps moves the shelf of a user by
that user's actions alone (`run_shelf`), and so does the run from which all
others have been removed.
-/

namespace WaterMyPlants

open Transition

/-- An action of another user writes or drops plants of `v` that no save of `v`
has written. -/
def Tap.Sweeps (v : Uid) (c : Context) (tap : Tap) : Prop :=
  tap.user ≠ v ∧ ¬ (c.shelf v).Settled ∧ (tap.action.isDelete = true ∨ tap.disk.saves = true) ∧
    ∃ c', Change (some tap.user) tap.user tap.now tap.disk c tap.action c'

/-- An update of `v` searches for a timestamp that one plant of `v` has and a
plant of another user has too. -/
def Tap.Mistaken (v : Uid) (c : Context) (tap : Tap) : Prop :=
  tap.user = v ∧ tap.disk.fetches = true ∧ ∃ indexPath vc k p t, tap.action = .edit indexPath vc ∧
    vc.nicknameTextField.isSome = true ∧ vc.speciesTextField.isSome = true ∧
    (c.fetchedObjects v)[indexPath]? = some (k, p) ∧ p.timestamp = some t ∧
    (c.shelf v).shown.filter (fun q => q.timestamp = some t) = [p] ∧ c.withTimestamp t ≠ [(k, p)]

/-- No action of another user disturbs `v` here. -/
def Tap.Undisturbed (v : Uid) (c : Context) (tap : Tap) : Prop :=
  ¬ tap.Sweeps v c ∧ ¬ tap.Mistaken v c

section
variable {v : Uid} {tap : Tap} {c c' : Context}

/-- On well-formed plants the disk alone decides what becomes of a change. -/
theorem settle_eq (a : Action) (disk : Disk) (hw : ∀ o ∈ c'.objects.list, o.2.WellFormed) :
    a.settle (Context.save disk c') =
      if disk.saves then c'.commit else if a.isDelete then c'.reset else c' := by
  rw [save_valid hw, Action.settle]
  cases disk.saves with
  | true => simp [WorkingCopy.SaveResult.threw]
  | false => simp [WorkingCopy.SaveResult.threw]

/-! ## One step -/

/-- A step of another user leaves the shelf as it is, unless it sweeps. -/
theorem step_shelf_other (hw : c.WellFormed) (hv : tap.user ≠ v) (hn : ¬ tap.Sweeps v c)
    (hs : Garden.step c tap = some c') : c'.shelf v = c.shelf v := by
  obtain ⟨h, hh, rfl⟩ := step_handle hs
  obtain ⟨h, -⟩ | ⟨c', hc, -, h⟩ := handle_cases hh
  · rw [h]
  have hshown : (c'.shelf v).shown = (c.shelf v).shown := hc.shown_other hv
  have hsaved : (c'.shelf v).saved = (c.shelf v).saved := hc.saved_eq v
  rw [h, settle_eq _ _ (hc.wellFormed rfl hw.1)]
  -- the store of `v` is touched only by a save that goes through or by a reset
  by_cases hq : tap.action.isDelete = true ∨ tap.disk.saves = true
  · have hset : (c.shelf v).shown = (c.shelf v).saved := by
      by_contra hset
      exact hn ⟨hv, hset, hq, c', hc⟩
    split
    next => exact Context.shelf_ext hshown (hshown.trans hset)
    next hsv =>
      rw [if_pos (hq.resolve_right hsv)]
      exact Context.shelf_ext (hsaved.trans hset.symm) hsaved
  · rw [not_or] at hq
    rw [if_neg hq.2, if_neg hq.1]
    exact Context.shelf_ext hshown hsaved

/-- A step of the user moves the shelf as the user alone would, unless it is
mistaken. -/
theorem step_shelf_own (hw : c.WellFormed) (hn : ¬ tap.Mistaken tap.user c)
    (hs : Garden.step c tap = some c') : c'.shelf tap.user = (c.shelf tap.user).step tap := by
  obtain ⟨h, hh, rfl⟩ := step_handle hs
  rw [Shelf.step]
  obtain ⟨h, -, hno⟩ | ⟨c', hc, -, h⟩ := handle_cases hh
  · rw [h]
    cases hx : Shelf.change tap (c.shelf tap.user).shown with
    | none => rfl
    | some shown =>
        refine absurd (Change.of_shelf_change hx ?_ fun o ho => (hw.1 o ho).timestamp) ?_
        · intro i vc k p t ha hr ht hf hn' hsp honly
          by_contra hu
          exact hn ⟨rfl, hf, i, vc, k, p, t, ha, hn', hsp, hr, ht, honly, hu⟩
        · intro hchange
          obtain ⟨c', hc⟩ := hchange
          exact hno c' hc
  · have hsaved : (c'.shelf tap.user).saved = (c.shelf tap.user).saved := hc.saved_eq tap.user
    rw [h, settle_eq _ _ (hc.wellFormed rfl hw.1), hc.shelf_change]
    dsimp only
    split
    next => rfl
    next =>
      split
      next => rw [Context.shelf_reset, hsaved]
      next => rw [← hsaved]

/-! ## Runs -/

/-- An undisturbed run moves the shelf of `v` by the actions of `v`. -/
theorem run_shelf {h : List (Context × Tap)} (hr : Run Garden.step .empty h c)
    (hm : Meets (Tap.Undisturbed v) h) :
    c.shelf v =
      ((h.map Prod.snd).filter fun tap => tap.user = v).foldl Shelf.step Shelf.empty := by
  rw [← List.filterMap_eq_filter]
  refine (hr.simulates (R := fun c s => c.WellFormed ∧ c.shelf v = s) hm ?_ ?_ ?_).2
  · exact ⟨Context.wellFormed_empty, Context.shelf_empty v⟩
  · intro c s tap c' d hrel hu hs hd
    obtain ⟨hw, rfl⟩ := hrel
    rw [Option.guard_eq_some_iff, decide_eq_true_iff] at hd
    obtain ⟨rfl, rfl⟩ := hd
    exact ⟨step_wellFormed hw hs, step_shelf_own hw hu.2 hs⟩
  · intro c s tap c' hrel hu hs hd
    obtain ⟨hw, rfl⟩ := hrel
    rw [Option.guard_eq_none_iff, decide_eq_false_iff_not] at hd
    exact ⟨step_wellFormed hw hs, step_shelf_other hw hd hu.1 hs⟩

/-- Every list of taps can be taken from a well-formed context. -/
theorem Garden.exec_isSome (hw : c.WellFormed) (taps : List Tap) :
    ∃ c', exec Garden.step c taps = some c' := by
  induction taps generalizing c with
  | nil => exact ⟨c, rfl⟩
  | cons tap taps ih =>
      have hsome : (tap.handle c).isSome = true := handle_isSome hw
      obtain ⟨h, hh⟩ := Option.isSome_iff_exists.mp hsome
      have hs : Garden.step c tap = some h.context := Option.map_eq_some_iff.mpr ⟨h, hh, rfl⟩
      obtain ⟨c', hc'⟩ := ih (step_wellFormed hw hs)
      exact ⟨c', by rw [exec, hs, Option.bind_some, hc']⟩

/-! ## A user alone -/

/-- Every plant shown or stored belongs to `v`. -/
def Context.OwnedBy (v : Uid) (c : Context) : Prop :=
  (∀ o ∈ c.objects.list, o.2.id = some v) ∧ ∀ o ∈ c.store.list, o.2.id = some v

theorem step_owned (ho : c.OwnedBy tap.user) (hs : Garden.step c tap = some c') :
    c'.OwnedBy tap.user := by
  obtain ⟨h, hh, rfl⟩ := step_handle hs
  refine handle_forall (P := fun p => p.id = some tap.user) hh ho.1 ho.2 fun c' hc => ?_
  refine hc.forall_objects (P := fun p => p.id = some tap.user) ho.1 ?_ ?_
  · intro vc nickname species _ _ _
    rfl
  · intro i vc k p nickname species t _ hr _ _ _ _ _
    exact (mem_of_row hr).2

/-- Where every plant is the user's own, no update of the user is mistaken. -/
theorem Context.OwnedBy.not_mistaken (ho : c.OwnedBy v) : ¬ tap.Mistaken v c := by
  intro hmis
  obtain ⟨rfl, -, i, vc, k, p, t, -, -, -, hr, ht, honly, hu⟩ := hmis
  have hall : (c.withTimestamp t).filter (fun o => o.2.id = some tap.user) = c.withTimestamp t :=
    List.filter_eq_self.mpr fun o h => decide_eq_true (ho.1 o (mem_withTimestamp.mp h).1)
  rw [shown_filter_timestamp, hall, List.map_eq_singleton_iff] at honly
  obtain ⟨o, honly, -⟩ := honly
  have hmem : (k, p) ∈ c.withTimestamp t := mem_withTimestamp.mpr ⟨(mem_of_row hr).1, ht⟩
  rw [honly, List.mem_singleton] at hmem
  exact hu (by rw [honly, hmem])

/-- A user with the device alone is undisturbed. -/
theorem run_undisturbed {h : List (Context × Tap)} (hr : Run Garden.step .empty h c)
    (hv : Meets (fun _ tap => tap.user = v) h) : Meets (Tap.Undisturbed v) h := by
  have howned : ∀ d ∈ visited h c, d.OwnedBy v := by
    refine hr.visited_invariant hv ?_ ?_
    · exact ⟨fun _ ho => absurd ho List.not_mem_nil, fun _ ho => absurd ho List.not_mem_nil⟩
    · rintro d tap d' ho rfl hs
      exact step_owned ho hs
  intro p hp
  obtain ⟨d, tap⟩ := p
  refine ⟨fun hsw => hsw.1 (hv _ hp), ?_⟩
  exact (howned d (mem_visited.mpr (Or.inl ⟨tap, hp⟩))).not_mistaken

/-- In a run from an empty store whose steps leave `v` undisturbed, the store
holds of `v` what it holds after the actions of `v` alone, at the same clock
readings and with the same saves going through. -/
theorem saved_alone {h : List (Context × Tap)} (hr : Run Garden.step .empty h c)
    (hm : Meets (Tap.Undisturbed v) h) :
    ∃ c', exec Garden.step .empty ((h.map Prod.snd).filter fun tap => tap.user = v) = some c' ∧
      (c'.shelf v).saved = (c.shelf v).saved := by
  obtain ⟨c', hx⟩ := Garden.exec_isSome Context.wellFormed_empty
    ((h.map Prod.snd).filter fun tap => tap.user = v)
  have hr' := exec_run _ hx
  -- `v` alone is undisturbed, so both runs move the shelf by the same actions
  have hsnd := history_map_snd _ hx
  have hown : Meets (fun _ tap => tap.user = v)
      (history Garden.step .empty ((h.map Prod.snd).filter fun tap => tap.user = v)) := by
    intro p hp
    have hmem := List.mem_map_of_mem (f := Prod.snd) hp
    rw [hsnd, List.mem_filter, decide_eq_true_iff] at hmem
    exact hmem.2
  have hall : ((h.map Prod.snd).filter fun tap => tap.user = v).filter
      (fun tap => tap.user = v) = (h.map Prod.snd).filter fun tap => tap.user = v := by
    rw [List.filter_filter]
    simp only [Bool.and_self]
  refine ⟨c', hx, ?_⟩
  rw [run_shelf hr hm, run_shelf hr' (run_undisturbed hr' hown), hsnd, hall]

end

/-! ## A plant of another user's -/

/-- Both users add a plant and `ada` renames hers. -/
def quietRun : List Tap :=
  [⟨"ada", .add ⟨some "Fern", some "Nephrolepis", none, 0⟩, 1, ⟨true, true⟩⟩,
    ⟨"bob", .add ⟨some "Aloe", some "Aloe vera", none, 1⟩, 2, ⟨true, true⟩⟩,
    ⟨"ada", .edit 0 ⟨some "Boston fern", some "Nephrolepis", none, 0⟩, 3, ⟨true, true⟩⟩]

/-- The context it ends in. -/
def quiet : Context := endState Garden.step .empty quietRun rfl

theorem quiet_run : Run Garden.step .empty (history Garden.step .empty quietRun) quiet :=
  endState_run rfl

theorem quiet_undisturbed :
    Meets (Tap.Undisturbed "ada") (history Garden.step .empty quietRun) := by
  have hall : ∀ p ∈ history Garden.step .empty quietRun, (p.1.shelf "ada").Settled ∧
      ∀ o ∈ p.1.objects.list, o.2.timestamp.map p.1.withTimestamp = some [o] := by decide
  intro p hp
  obtain ⟨hset, hsole⟩ := hall p hp
  refine ⟨fun hsw => hsw.2.1 hset, ?_⟩
  intro hmis
  obtain ⟨-, -, i, vc, k, q, t, -, -, -, hr, ht, -, hu⟩ := hmis
  have hq := hsole _ (mem_of_row hr).1
  rw [ht, Option.map_some, Option.some.injEq] at hq
  exact hu hq

theorem saved_alone_quiet :
    ∃ c', exec Garden.step .empty
        (((history Garden.step .empty quietRun).map Prod.snd).filter fun tap => tap.user = "ada") =
          some c' ∧ (c'.shelf "ada").saved = (quiet.shelf "ada").saved :=
  saved_alone quiet_run quiet_undisturbed

/-- A save of `ada` fails, and the next save of `bob` goes through. -/
def sweptRun : List Tap :=
  [⟨"ada", .add ⟨some "Fern", some "Nephrolepis", none, 0⟩, 1, ⟨true, false⟩⟩,
    ⟨"bob", .add ⟨some "Aloe", some "Aloe vera", none, 1⟩, 2, ⟨true, true⟩⟩]

/-- The context it ends in. -/
def swept : Context := endState Garden.step .empty sweptRun rfl

theorem swept_run : Run Garden.step .empty (history Garden.step .empty sweptRun) swept :=
  endState_run rfl

/-- The save of `bob` stores the plant of `ada`, which alone would not be stored. -/
theorem swept_saved :
    ¬ ∀ (v : Uid) (h : List (Context × Tap)) (c : Context), Run Garden.step .empty h c →
      ∃ c', exec Garden.step .empty ((h.map Prod.snd).filter fun tap => tap.user = v) = some c' ∧
        (c'.shelf v).saved = (c.shelf v).saved := by
  intro hall
  obtain ⟨c', hx, hc⟩ := hall "ada" _ _ swept_run
  have halone : (exec Garden.step .empty
      (((history Garden.step .empty sweptRun).map Prod.snd).filter fun tap => tap.user = "ada")).map
        (fun c => (c.shelf "ada").saved) = some [] := by decide
  have hswept : (swept.shelf "ada").saved.length = 1 := by decide
  rw [hx, Option.map_some, Option.some.injEq] at halone
  rw [← hc, halone] at hswept
  cases hswept

end WaterMyPlants
