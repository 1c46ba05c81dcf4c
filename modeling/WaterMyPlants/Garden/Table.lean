import WaterMyPlants.Garden.Display
import WaterMyPlants.Garden.WellFormed

/-!
# What an action does to a table

An action changes the context, and every fetched results controller reports the
difference of its objects.  The report is whatever the controller documents
(`Documented`), of a table in front or of one that is covered.

A plant that stays changes its content only by an edit, and an edit posts
`plantUpdated` (`handle_changed`).  So no report makes a batch update inconsistent,
and a table that showed the plants of its user shows them after the action
(`didSave_shows`).

A delete whose save throws resets the context.  A controller reports nothing of that
and holds objects that are gone, until it fetches again, which the app never makes it
do.  So such a delete is left out.
-/

namespace WaterMyPlants

open BatchUpdate (Batch)

/-- What a fetched results controller reports of a save: the difference of its
objects, in which every object whose content changed is named. -/
structure Documented (report : List Reported) (old new : List (Nat × Plant)) : Prop where
  turns : Reported.Turns report old new
  changed : ∀ i j k p q, old[i]? = some (k, p) → new[j]? = some (k, q) → p ≠ q →
    .insert j ∈ report ∨ (∃ newIndexPath, .update i newIndexPath ∈ report) ∨ .move i j ∈ report

/-- What the data source of a table reads. -/
def Context.dataSource {Image : Type} (shown : Uid) (images : ImageLoader Image)
    (dequeueReusableCell : Nat → PlantTableViewCell Image) (c : Context) : TableDataSource Image :=
  ⟨some (c.fetchedObjects shown), images, dequeueReusableCell⟩

section
variable {uid : Option Uid} {shown : Uid} {now : Date} {disk : Disk} {c c' : Context} {a : Action}
  {handled : Handled} {k : Nat} {p q : Plant}

/-- Where the save of a delete does not throw, the context shows the change. -/
theorem settle_objects (hd : a.isDelete = true → (Context.save disk c').1.threw = false) :
    (a.settle (Context.save disk c')).objects = c'.objects := by
  rw [Action.settle]
  split
  next h =>
    rw [Bool.and_eq_true] at h
    rw [hd h.1] at h
    cases h.2
  next => exact WorkingCopy.save_objects _ _ _

/-- A plant that stays changes only by an edit, which posts the notification. -/
theorem handle_changed (hh : a.handle uid shown now disk c = some handled)
    (hd : a.isDelete = true → ∀ r, handled.save = some r → r.threw = false)
    (hp : (k, p) ∈ c.objects.list) (hq : (k, q) ∈ handled.context.objects.list) (hne : p ≠ q) :
    .plantUpdated ∈ handled.effects := by
  have hsame : ¬ (k, q) ∈ c.objects.list := fun hq' => hne (WorkingCopy.Rows.eq_of_mem hp hq')
  cases a with
  | add vc =>
      cases hh
      obtain ⟨h, -⟩ | ⟨nickname, species, -, -, -, -, h⟩ := vc.saveButtonTapped_cases uid now disk c
      · rw [h] at hq
        exact absurd hq hsame
      · rw [h] at hq
        have hobj : (Context.save disk (c.insert (vc.plant uid nickname species now))).2.objects =
            (c.insert (vc.plant uid nickname species now)).objects := WorkingCopy.save_objects _ _ _
        rw [hobj, WorkingCopy.insert_objects, List.mem_append, List.mem_singleton] at hq
        rcases hq with hq | hq
        · exact absurd hq hsame
        · -- the object is new, so no plant had its identity
          cases hq
          exact absurd (c.objects_lt _ hp) (Nat.lt_irrefl _)
  | edit i vc =>
      rw [Action.handle] at hh
      cases hr : (c.fetchedObjects shown)[i]? with
      | none =>
          rw [hr] at hh
          cases hh
          exact absurd hq hsame
      | some row =>
          rw [hr] at hh
          obtain hc | ⟨hpost, -⟩ := edit_fetchedObjects hr hh
          · rw [hc] at hq
            exact absurd hq hsame
          · exact hpost
  | delete i =>
      obtain ⟨hctx, -⟩ | ⟨c', hc, hsave, hctx⟩ := handle_cases hh
      · rw [hctx] at hq
        exact absurd hq hsame
      · rw [hctx, settle_objects fun ht => hd ht _ hsave] at hq
        cases hc with
        | delete hr => exact absurd (List.mem_of_mem_filter hq) hsame

end

/-! ## What a table makes of it -/

section
variable {Image : Type} {images : ImageLoader Image} {uid : Option Uid} {shown v : Uid}
  {now : Date} {disk : Disk} {c : Context} {a : Action} {handled : Handled}
  {report : List Reported} {tableView : UITableView Image}

/-- A table that showed the plants of its user shows them after an action on any table,
if its report is documented.  `effects` is what of the handler reaches it. -/
theorem didSave_shows (effects : List Effect) (cells : Nat → PlantTableViewCell Image)
    (hh : a.handle uid shown now disk c = some handled)
    (hd : a.isDelete = true → ∀ r, handled.save = some r → r.threw = false)
    (hposted : .plantUpdated ∈ handled.effects → .plantUpdated ∈ effects)
    (hdoc : Documented report (c.fetchedObjects v) (handled.context.fetchedObjects v))
    (hs : tableView.Shows images (c.fetchedObjects v)) :
    ∃ t, PlantTableViewController.didSave (handled.context.dataSource v images cells)
        (report.map Reported.change) effects tableView = some t ∧
      t.Shows images (handled.context.fetchedObjects v) := by
  have hc : ContentReported report effects (c.fetchedObjects v)
      (handled.context.fetchedObjects v) := by
    intro i j k p q hp hq hne
    rcases hdoc.changed i j k p q hp hq hne with h | h | h
    · exact Or.inl h
    · exact Or.inr (Or.inl h)
    · have hpost := handle_changed hh hd (mem_of_row hp).1 (mem_of_row hq).1 hne
      exact Or.inr (Or.inr ⟨h, hposted hpost⟩)
  exact save_shown (d := handled.context.dataSource v images cells) rfl hs hdoc.turns hc

end

/-! ## A report for every action -/

/-- A report on the table of `v` for an action on the table of `shown`: an added plant
is the last row, an edited one is moved to its row, and the rows of another user are
what they were. -/
def Action.report (shown v : Uid) (c : Context) (handled : Handled) : Action → List Reported
  | .add _ =>
      if (c.fetchedObjects v).length < (handled.context.fetchedObjects v).length then
        [.insert (c.fetchedObjects v).length]
      else []
  | .edit indexPath _ =>
      if handled.save = none ∨ v ≠ shown then [] else [.move indexPath indexPath]
  | .delete indexPath =>
      if handled.save = none ∨ v ≠ shown then [] else [.delete indexPath]

section
variable {uid : Option Uid} {shown v : Uid} {now : Date} {disk : Disk} {c c' : Context}
  {a : Action} {handled : Handled}

/-- Nothing is to be reported where nothing changed. -/
theorem turns_nil (objects : List (Nat × Plant)) : Reported.Turns [] objects objects := by
  refine Batch.turns_of_keys rfl ⟨List.nodup_nil, ?_, List.nodup_nil, ?_⟩ (fun _ => rfl) ?_
  · exact fun _ hi => absurd hi List.not_mem_nil
  · exact fun _ hj => absurd hj List.not_mem_nil
  · exact fun _ hm => absurd hm List.not_mem_nil

/-- An added plant is the last row of its user, and no row of another. -/
theorem insert_turns (p : Plant) (hc : c'.objects = (c.insert p).objects) :
    Reported.Turns
      (if (c.fetchedObjects v).length < (c'.fetchedObjects v).length then
        [.insert (c.fetchedObjects v).length] else [])
      (c.fetchedObjects v) (c'.fetchedObjects v) := by
  have hpart : c'.fetchedObjects v = c.fetchedObjects v ++
      if decide (p.id = some v) = true then [(c.next, p)] else [] := by
    rw [Context.fetchedObjects, hc]
    exact WorkingCopy.Rows.part_insert _ _ _ _ c.objects_lt
  rw [hpart]
  by_cases hid : p.id = some v
  · rw [if_pos (decide_eq_true hid), if_pos (by simp)]
    exact Batch.turns_concat Prod.fst _ _
  · have hnone : ¬ decide (p.id = some v) = true := by simpa using hid
    rw [if_neg hnone, List.append_nil, if_neg (Nat.lt_irrefl _)]
    exact turns_nil _

/-- A row of the table of `shown` is no row of another table. -/
theorem row_other {i k : Nat} {p q : Plant} (hv : v ≠ shown)
    (hr : (c.fetchedObjects shown)[i]? = some (k, p)) (hq : (k, q) ∈ c.objects.list) :
    decide (q.id = some v) = false := by
  obtain ⟨hp, hid⟩ := mem_of_row hr
  rw [WorkingCopy.Rows.eq_of_mem hq hp, hid]
  simpa using hv.symm

/-- An edit or a delete leaves the rows of another user alone. -/
theorem Change.fetchedObjects_other (hc : Change uid shown now disk c a c')
    (ha : ∀ vc, a ≠ .add vc) (hv : v ≠ shown) : c'.fetchedObjects v = c.fetchedObjects v := by
  cases hc with
  | add _ _ _ _ => exact absurd rfl (ha _)
  | edit hr _ _ _ _ _ =>
      refine WorkingCopy.Rows.part_modify_outside fun q hq => ?_
      have hother := row_other hv hr hq
      exact ⟨hother, hother⟩
  | delete hr => exact WorkingCopy.Rows.part_erase_outside fun q hq => row_other hv hr hq

/-- The report of an action turns the rows before it into those after it. -/
theorem report_turns (hh : a.handle uid shown now disk c = some handled)
    (hd : a.isDelete = true → ∀ r, handled.save = some r → r.threw = false) :
    Reported.Turns (a.report shown v c handled) (c.fetchedObjects v)
      (handled.context.fetchedObjects v) := by
  obtain ⟨hctx, hnone, -⟩ | ⟨c', hc, hsave, hctx⟩ := handle_cases hh
  · have hreport : a.report shown v c handled = [] := by
      cases a with
      | add vc => simp [Action.report, hctx]
      | edit i vc => rw [Action.report, if_pos (Or.inl hnone)]
      | delete i => rw [Action.report, if_pos (Or.inl hnone)]
    rw [hreport, hctx]
    exact turns_nil _
  have hobj : handled.context.objects = c'.objects := by
    rw [hctx]
    exact settle_objects fun ht => hd ht _ hsave
  have hrows : handled.context.fetchedObjects v = c'.fetchedObjects v := by
    rw [Context.fetchedObjects, Context.fetchedObjects, hobj]
  by_cases hadd : ∃ vc, a = .add vc
  · obtain ⟨vc, rfl⟩ := hadd
    cases hc with
    | add _ _ _ _ => exact insert_turns _ hobj
  by_cases hv : v = shown
  · subst hv
    have hsome : ¬ (handled.save = none ∨ v ≠ v) := by simp [hsave]
    cases hc with
    | add _ _ _ _ => exact absurd ⟨_, rfl⟩ hadd
    | edit hr _ _ _ _ _ =>
        rw [Action.handle, hr] at hh
        rw [Action.report, if_neg hsome]
        exact edit_turns hr hh
    | @delete i k p hr =>
        have herase : Context.fetchedObjects v (c.delete k) = (c.fetchedObjects v).eraseIdx i :=
          WorkingCopy.Rows.part_eraseIdx hr
        rw [Action.report, if_neg hsome, hrows, herase]
        exact Batch.turns_eraseIdx Prod.fst (List.getElem?_eq_some_iff.mp hr).1
  · have hreport : a.report shown v c handled = [] := by
      cases a with
      | add vc => exact absurd ⟨vc, rfl⟩ hadd
      | edit i vc => rw [Action.report, if_pos (Or.inr hv)]
      | delete i => rw [Action.report, if_pos (Or.inr hv)]
    rw [hreport, hrows, hc.fetchedObjects_other (fun vc hvc => hadd ⟨vc, hvc⟩) hv]
    exact turns_nil _

/-- Only an edit posts `plantUpdated`. -/
theorem edit_of_plantUpdated (hh : a.handle uid shown now disk c = some handled)
    (hpost : .plantUpdated ∈ handled.effects) :
    ∃ indexPath vc k p, a = .edit indexPath vc ∧
      (c.fetchedObjects shown)[indexPath]? = some (k, p) ∧
      vc.updateButtonTapped (some p) now disk c = some handled := by
  cases a with
  | add vc =>
      cases hh
      obtain ⟨h, -⟩ | ⟨nickname, species, -, -, -, -, h⟩ := vc.saveButtonTapped_cases uid now disk c
      · simp [h] at hpost
      · simp [h] at hpost
  | edit indexPath vc =>
      rw [Action.handle] at hh
      cases hr : (c.fetchedObjects shown)[indexPath]? with
      | none =>
          rw [hr] at hh
          cases hh
          cases hpost
      | some row =>
          rw [hr] at hh
          exact ⟨indexPath, vc, row.1, row.2, rfl, hr, hh⟩
  | delete indexPath =>
      rw [Action.handle] at hh
      cases hr : (c.fetchedObjects shown)[indexPath]? with
      | none =>
          rw [hr] at hh
          cases hh
          cases hpost
      | some row =>
          rw [hr] at hh
          cases hh
          simp [PlantTableViewController.commit_eq _ disk c (.delete indexPath) rfl] at hpost

/-- It is a report that the controller documents. -/
theorem report_documented (hh : a.handle uid shown now disk c = some handled)
    (hd : a.isDelete = true → ∀ r, handled.save = some r → r.threw = false) :
    Documented (a.report shown v c handled) (c.fetchedObjects v)
      (handled.context.fetchedObjects v) := by
  refine ⟨report_turns hh hd, ?_⟩
  intro i j k p q hp hq hne
  -- rows that are what they were hold no plant that changed
  have hchanged : handled.context.fetchedObjects v ≠ c.fetchedObjects v := by
    intro hsame
    rw [hsame] at hq
    obtain rfl : i = j := WorkingCopy.Rows.part_index hp hq rfl
    rw [hp] at hq
    cases hq
    exact hne rfl
  obtain ⟨indexPath, vc, k', p', rfl, hr, hu⟩ :=
    edit_of_plantUpdated hh (handle_changed hh hd (mem_of_row hp).1 (mem_of_row hq).1 hne)
  obtain ⟨hctx, -⟩ | ⟨c', hc, hsave, hctx⟩ := handle_cases hh
  · rw [hctx] at hchanged
    exact absurd rfl hchanged
  have hv : v = shown := by
    by_contra hv
    refine hchanged ?_
    have hother := hc.fetchedObjects_other (fun _ hadd => by cases hadd) hv
    rw [← hother, Context.fetchedObjects, Context.fetchedObjects, hctx,
      settle_objects fun ht => hd ht _ hsave]
  subst hv
  obtain ⟨rfl, rfl, -⟩ := edit_changed hr hu hp hq hne
  rw [Action.report, if_neg (by simp [hsave])]
  exact Or.inr (Or.inr (List.mem_singleton.mpr rfl))

end

end WaterMyPlants
