import WaterMyPlants.Garden.Step
import WaterMyPlants.ViewControllers.PlantTable

/-!
# An edit and the table it is made from

`updatePlant` sets `id`, by which the table sorts, to what it was.  So the fetched
results controller reports the edited plant as moved from its row to its row, and
the table asks for no cell.  The notification `segueAndUpdate` posts makes the row
right.
-/

namespace WaterMyPlants

open BatchUpdate (Batch)

section
variable {vc : EditViewController} {uid : Uid} {i k : Nat} {p : Plant} {now : Date}
  {disk : Disk} {c : Context} {handled : Handled}

/-- An edit changes nothing, or it changes one row of the table and posts the
notification. -/
theorem edit_fetchedObjects (hr : (c.fetchedObjects uid)[i]? = some (k, p))
    (hh : vc.updateButtonTapped (some p) now disk c = some handled) :
    handled.context = c ∨ (.plantUpdated ∈ handled.effects ∧
      ∃ f, handled.context.fetchedObjects uid =
        (c.fetchedObjects uid).map (WorkingCopy.Rows.update k f)) := by
  obtain ⟨hc, -⟩ | ⟨nickname, species, t, -, -, -, -, -, rfl⟩ :=
    EditViewController.updateButtonTapped_cases (mem_of_row hr).1 hh
  · exact Or.inl hc
  · refine Or.inr ⟨by simp [EditViewController.segueAndUpdate],
      vc.edited nickname species now, ?_⟩
    have hsave : (Context.save disk (c.modify k (vc.edited nickname species now))).2.objects =
        c.objects.modify k (vc.edited nickname species now) := WorkingCopy.save_objects _ _ _
    rw [Context.fetchedObjects, hsave]
    refine WorkingCopy.Rows.part_modify fun q hq => ?_
    rw [WorkingCopy.Rows.eq_of_mem hq (mem_of_row hr).1]
    rfl

/-- Whatever an edit changes is the plant of its row, which keeps its row. -/
theorem edit_changed {i' j' k' : Nat} {q q' : Plant}
    (hr : (c.fetchedObjects uid)[i]? = some (k, p))
    (hh : vc.updateButtonTapped (some p) now disk c = some handled)
    (hq : (c.fetchedObjects uid)[i']? = some (k', q))
    (hq' : (handled.context.fetchedObjects uid)[j']? = some (k', q')) (hne : q ≠ q') :
    i' = i ∧ j' = i ∧ .plantUpdated ∈ handled.effects := by
  obtain hc | ⟨hpost, f, hf⟩ := edit_fetchedObjects hr hh
  · rw [hc] at hq'
    obtain rfl : i' = j' := WorkingCopy.Rows.part_index hq hq' rfl
    rw [hq] at hq'
    cases hq'
    exact absurd rfl hne
  · rw [hf, List.getElem?_map] at hq'
    obtain ⟨⟨k'', b⟩, hb, heq⟩ := Option.map_eq_some_iff.mp hq'
    obtain rfl : k'' = k' := by
      have hkey := WorkingCopy.Rows.update_fst k f (k'', b)
      rw [heq] at hkey
      exact hkey.symm
    obtain rfl : i' = j' := WorkingCopy.Rows.part_index hq hb rfl
    by_cases hk : k'' = k
    · subst hk
      exact ⟨WorkingCopy.Rows.part_index hq hr rfl, WorkingCopy.Rows.part_index hq hr rfl, hpost⟩
    · rw [hq] at hb
      cases hb
      simp [WorkingCopy.Rows.update, hk] at heq
      exact absurd heq hne

/-- The report of an edit, a move of the row to itself, turns the objects before it
into those after it. -/
theorem edit_turns (hr : (c.fetchedObjects uid)[i]? = some (k, p))
    (hh : vc.updateButtonTapped (some p) now disk c = some handled) :
    Reported.Turns [.move i i] (c.fetchedObjects uid) (handled.context.fetchedObjects uid) := by
  have hkeys : (handled.context.fetchedObjects uid).map Prod.fst =
      (c.fetchedObjects uid).map Prod.fst := by
    obtain hc | ⟨-, f, hf⟩ := edit_fetchedObjects hr hh
    · rw [hc]
    · rw [hf, List.map_map]
      exact List.map_congr_left fun o _ => WorkingCopy.Rows.update_fst k f o
  have hold := (List.getElem?_eq_some_iff.mp hr).1
  have hnew := congrArg List.length hkeys
  rw [List.length_map, List.length_map] at hnew
  refine Batch.turns_of_keys hkeys ⟨?_, ?_, ?_, ?_⟩ (fun _ => rfl) ?_
  · simp [Reported.batch]
  · simpa [Reported.batch] using hold
  · simp [Reported.batch]
  · simpa [Reported.batch, hnew] using hold
  · simp [Reported.batch]

/-- After an edit the handler has posted what the report of the edited row needs,
whether it is moved or updated. -/
theorem edit_reported {report : List Reported} (hr : (c.fetchedObjects uid)[i]? = some (k, p))
    (hh : vc.updateButtonTapped (some p) now disk c = some handled)
    (hrow : .move i i ∈ report ∨ ∃ newIndexPath, .update i newIndexPath ∈ report) :
    ContentReported report handled.effects (c.fetchedObjects uid)
      (handled.context.fetchedObjects uid) := by
  intro i' j' k' q q' hq hq' hne
  obtain ⟨rfl, rfl, hpost⟩ := edit_changed hr hh hq hq' hne
  rcases hrow with hrow | hrow
  · exact Or.inr (Or.inr ⟨hrow, hpost⟩)
  · exact Or.inr (Or.inl hrow)

end

/-- For every batch of changes that turns the old objects into the new ones, reports
every plant whose content changed, and whose moves of such plants are followed by the
notification: once the callbacks and the reloads have run, the rows are the new
objects in their order, each with the nickname and the image of its plant.

After a tap on Update a report of the edited row is enough, as the handler posts the
notification itself. -/
theorem table_shows_objects {Image : Type} {d : TableDataSource Image}
    {old new : List (Nat × Plant)} {report : List Reported} {tableView : UITableView Image}
    (hd : d.sections = some new) (hs : tableView.Shows d.images old)
    (ht : Reported.Turns report old new) :
    (∀ effects, ContentReported report effects old new →
      ∃ t, PlantTableViewController.didSave d (report.map Reported.change) effects tableView =
          some t ∧ t.Shows d.images new) ∧
    ∀ (vc : EditViewController) (uid : Uid) (i k : Nat) (p : Plant) (now : Date) (disk : Disk)
      (c : Context) (handled : Handled),
      (c.fetchedObjects uid)[i]? = some (k, p) →
      vc.updateButtonTapped (some p) now disk c = some handled →
      old = c.fetchedObjects uid → new = handled.context.fetchedObjects uid →
      (.move i i ∈ report ∨ ∃ newIndexPath, .update i newIndexPath ∈ report) →
      ∃ t, PlantTableViewController.didSave d (report.map Reported.change) handled.effects
          tableView = some t ∧ t.Shows d.images new := by
  refine ⟨fun effects hc => save_shown hd hs ht hc, ?_⟩
  rintro vc uid i k p now disk c handled hr hh rfl rfl hrow
  exact save_shown hd hs ht (edit_reported hr hh hrow)

/-! ## A batch of all four kinds -/

/-- A plant with a nickname and nothing else that a row shows. -/
def nicknamed (nickname : String) : Plant := ⟨none, some "ada", none, some nickname, none, none⟩

/-- Bytes stand for themselves. -/
def plainImages : ImageLoader Data := ⟨fun _ => some [], some⟩

/-- Three plants on display. -/
def shownTable : UITableView Data where
  rows := ["Fern", "Aloe", "Moss"].map fun nickname => (nicknamed nickname).cell plainImages
  updates := {}

/-- After a save: the fern was edited and is last, the aloe was edited, a rose is new
and the moss is gone. -/
def savedPlants : TableDataSource Data where
  sections := some [(1, nicknamed "Aloe vera"), (3, nicknamed "Rose"), (0, nicknamed "Boston fern")]
  images := plainImages
  dequeueReusableCell := fun _ => ⟨some "Moss", none⟩

/-- A stored plant. -/
def plantedFern : Plant :=
  ⟨some "Once a day", some "ada", none, some "Fern", some "Nephrolepis", some 1⟩

/-- The context that holds it. -/
def fernContext : Context := WorkingCopy.insert .empty plantedFern

/-- An edit of its nickname. -/
def fernHandled : Handled :=
  (EditViewController.updateButtonTapped ⟨some "Boston fern", some "Nephrolepis", none, 0⟩
    (some plantedFern) 2 ⟨true, true⟩ fernContext).get rfl

/-- What its table reads then. -/
def fernRow : TableDataSource Data :=
  ⟨some (fernHandled.context.fetchedObjects "ada"), plainImages, fun _ => ⟨none, none⟩⟩

theorem table_shows_objects_saved :
    (∃ t, PlantTableViewController.didSave savedPlants
        ([.move 0 2, .update 1 (some 0), .insert 1, .delete 2].map Reported.change)
        EditViewController.segueAndUpdate shownTable = some t ∧
      t.Shows plainImages
        [(1, nicknamed "Aloe vera"), (3, nicknamed "Rose"), (0, nicknamed "Boston fern")]) ∧
    ∃ t, PlantTableViewController.didSave fernRow ([.move 0 0].map Reported.change)
        fernHandled.effects ⟨[plantedFern.cell plainImages], {}⟩ = some t ∧
      t.Shows plainImages (fernHandled.context.fetchedObjects "ada") := by
  have hold : shownTable.Shows plainImages
      [(0, nicknamed "Fern"), (1, nicknamed "Aloe"), (2, nicknamed "Moss")] := rfl
  have hedit : (fernContext.fetchedObjects "ada")[0]? = some (0, plantedFern) := rfl
  have hhandled : EditViewController.updateButtonTapped
      ⟨some "Boston fern", some "Nephrolepis", none, 0⟩ (some plantedFern) 2 ⟨true, true⟩
        fernContext = some fernHandled := rfl
  have hfern : UITableView.Shows plainImages (fernContext.fetchedObjects "ada")
      ⟨[plantedFern.cell plainImages], {}⟩ := rfl
  obtain ⟨hsaved, -⟩ := @table_shows_objects Data savedPlants _ _
    [.move 0 2, .update 1 (some 0), .insert 1, .delete 2] _ rfl hold
    ⟨by decide, by decide, by decide⟩
  obtain ⟨-, hedited⟩ := @table_shows_objects Data fernRow _ _ _ _ rfl hfern
    (edit_turns hedit hhandled)
  refine ⟨hsaved _ ?_, hedited _ _ _ _ _ _ _ _ _ hedit hhandled rfl rfl
    (Or.inl (List.mem_singleton.mpr rfl))⟩
  intro i j k p q hi hj hne
  rcases i with _ | _ | _ | i
  · -- the fern, which is the object at the place it is moved to
    obtain ⟨rfl, rfl⟩ : k = 0 ∧ p = nicknamed "Fern" := by simpa using hi.symm
    rcases j with _ | _ | _ | j
    · simp at hj
    · simp at hj
    · simp [EditViewController.segueAndUpdate]
    · simp at hj
  · exact Or.inr (Or.inl ⟨some 0, by simp⟩)
  · -- the moss, which is gone
    obtain ⟨rfl, rfl⟩ : k = 2 ∧ p = nicknamed "Moss" := by simpa using hi.symm
    rcases j with _ | _ | _ | j
    · simp at hj
    · simp at hj
    · simp at hj
    · simp at hj
  · simp at hi

end WaterMyPlants
