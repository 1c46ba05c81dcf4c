import WaterMyPlants.Library.BatchUpdate
import WaterMyPlants.ViewControllers.Plants

/-!
# The plant table

The table shows the objects of a fetched results controller.  UIKit keeps a cell
for each row and asks the data source for a cell only when it is told to.  The
controller reports every save as a batch of changes, and the delegate hands them
on to the table between `beginUpdates` and `endUpdates`.

A changed plant is reported as an update, and its row is reloaded.  When the
change set the sort key, it is reported as a move, and `moveRow` keeps the cell.
`updatePlant` sets `id`, the sort key, even to what it was.  The row is rendered
again only because the edit screen posts `plantUpdated`.

`sectionNameKeyPath` is `nil`, so there is one section, none is ever inserted or
deleted, and an index path is a row.
-/

namespace WaterMyPlants

open BatchUpdate (Batch)

/-- The images of UIKit: those of the bundle, and what it makes of bytes. -/
structure ImageLoader (Image : Type) where
  named : String → Option Image
  data : Data → Option Image

/-- The outlets of the cell. -/
structure PlantTableViewCell (Image : Type) where
  nameLabel : Option String
  imageView : Option Image
deriving DecidableEq

/-- The table view.  `updates` is what has been recorded since `beginUpdates`. -/
structure UITableView (Image : Type) where
  rows : List (PlantTableViewCell Image)
  updates : Batch

/-- `NSFetchedResultsChangeType`. -/
inductive NSFetchedResultsChangeType where
  | insert
  | delete
  | move
  | update
deriving DecidableEq, Repr

/-- The arguments of one call of the delegate. -/
structure ObjectChange where
  type : NSFetchedResultsChangeType
  indexPath : Option Nat
  newIndexPath : Option Nat
deriving DecidableEq, Repr

variable {Image : Type}

/-! ## UITableView -/

namespace UITableView

/-- Nothing has been recorded. -/
def beginUpdates (tableView : UITableView Image) : UITableView Image :=
  { tableView with updates := {} }

/-- Record an insert. -/
def insertRows (newIndexPath : Nat) (tableView : UITableView Image) : UITableView Image :=
  { tableView with
    updates := { tableView.updates with inserts := tableView.updates.inserts ++ [newIndexPath] } }

/-- Record a reload. -/
def reloadRows (indexPath : Nat) (tableView : UITableView Image) : UITableView Image :=
  { tableView with
    updates := { tableView.updates with reloads := tableView.updates.reloads ++ [indexPath] } }

/-- Record a move. -/
def moveRow (indexPath newIndexPath : Nat) (tableView : UITableView Image) : UITableView Image :=
  { tableView with
    updates :=
      { tableView.updates with moves := tableView.updates.moves ++ [(indexPath, newIndexPath)] } }

/-- Record a delete. -/
def deleteRows (indexPath : Nat) (tableView : UITableView Image) : UITableView Image :=
  { tableView with
    updates := { tableView.updates with deletes := tableView.updates.deletes ++ [indexPath] } }

end UITableView

/-! ## PlantTableViewController -/

/-- What the data source reads.  `sections` is the one section of the fetched results
controller, `none` where nothing was fetched.  A cell that is dequeued shows what it
showed when it was last used. -/
structure TableDataSource (Image : Type) where
  sections : Option (List (Nat × Plant))
  images : ImageLoader Image
  dequeueReusableCell : Nat → PlantTableViewCell Image

/-- `fetchedResultsController.object(at:)`.  No object there is an exception. -/
def TableDataSource.object (d : TableDataSource Image) (indexPath : Nat) : Option Plant :=
  match d.sections with
  | none => none
  | some objects => objects[indexPath]?.map Prod.snd

namespace PlantTableViewController

/-- `tableView(_:numberOfRowsInSection:)`. -/
def numberOfRowsInSection (d : TableDataSource Image) : Nat :=
  match d.sections with
  | none => 0
  | some objects => objects.length

/-- `tableView(_:cellForRowAt:)`.  The storyboard gives every cell this class. -/
def cellForRowAt (d : TableDataSource Image) (indexPath : Nat) :
    Option (PlantTableViewCell Image) :=
  let cell := d.dequeueReusableCell indexPath
  match d.object indexPath with
  | none => none
  | some plant =>
      let cell := { cell with nameLabel := plant.nickname }
      match plant.image with
      | none => some { cell with imageView := d.images.named "plant" }
      | some plantImage => some { cell with imageView := d.images.data plantImage }

end PlantTableViewController

/-- Every row is asked for again. -/
def UITableView.reloadData (d : TableDataSource Image) (tableView : UITableView Image) :
    Option (UITableView Image) :=
  ((List.range (PlantTableViewController.numberOfRowsInSection d)).mapM
    (PlantTableViewController.cellForRowAt d)).map fun rows => { tableView with rows := rows }

/-- The batch recorded since `beginUpdates` is carried out. -/
def UITableView.endUpdates (d : TableDataSource Image) (tableView : UITableView Image) :
    Option (UITableView Image) :=
  (tableView.updates.perform (PlantTableViewController.cellForRowAt d)
    (PlantTableViewController.numberOfRowsInSection d) tableView.rows).map fun rows =>
      { rows := rows, updates := {} }

namespace PlantTableViewController

/-- The observer of `plantUpdated`. -/
def reload (d : TableDataSource Image) (tableView : UITableView Image) :
    Option (UITableView Image) :=
  tableView.reloadData d

/-- The delegate, before the changes of a save. -/
def controllerWillChangeContent (tableView : UITableView Image) : UITableView Image :=
  tableView.beginUpdates

/-- The delegate, after them. -/
def controllerDidChangeContent (d : TableDataSource Image) (tableView : UITableView Image) :
    Option (UITableView Image) :=
  tableView.endUpdates d

/-- `controller(_:didChange:at:for:newIndexPath:)`. -/
def controllerDidChangeObject (tableView : UITableView Image) (change : ObjectChange) :
    UITableView Image :=
  match change.type with
  | .insert =>
      match change.newIndexPath with
      | none => tableView
      | some newIndexPath => tableView.insertRows newIndexPath
  | .update =>
      match change.indexPath with
      | none => tableView
      | some indexPath => tableView.reloadRows indexPath
  | .move =>
      match change.indexPath, change.newIndexPath with
      | some oldIndexPath, some newIndexPath => tableView.moveRow oldIndexPath newIndexPath
      | _, _ => tableView
  | .delete =>
      match change.indexPath with
      | none => tableView
      | some indexPath => tableView.deleteRows indexPath

/-- What a handler did to the screen, as the table sees it.  `viewDidLoad` makes the
table an observer of `plantUpdated`. -/
def receive (d : TableDataSource Image) (tableView : UITableView Image) :
    Effect → Option (UITableView Image)
  | .plantUpdated => reload d tableView
  | .reloadData => tableView.reloadData d
  | .popViewController => some tableView
  | .popToRootViewController => some tableView

/-- The callbacks for a save, and then what its handler did to the screen. -/
def didSave (d : TableDataSource Image) (changes : List ObjectChange) (effects : List Effect)
    (tableView : UITableView Image) : Option (UITableView Image) :=
  (controllerDidChangeContent d
    (changes.foldl controllerDidChangeObject (controllerWillChangeContent tableView))).bind
      fun tableView => effects.foldlM (receive d) tableView

end PlantTableViewController

/-! ## Reports -/

/-- A change as the fetched results controller reports it. -/
inductive Reported where
  | insert (newIndexPath : Nat)
  | delete (indexPath : Nat)
  | update (indexPath : Nat) (newIndexPath : Option Nat)
  | move (indexPath newIndexPath : Nat)
deriving DecidableEq, Repr

namespace Reported

/-- The call of the delegate for a change. -/
def change : Reported → ObjectChange
  | .insert newIndexPath => ⟨.insert, none, some newIndexPath⟩
  | .delete indexPath => ⟨.delete, some indexPath, none⟩
  | .update indexPath newIndexPath => ⟨.update, some indexPath, newIndexPath⟩
  | .move indexPath newIndexPath => ⟨.move, some indexPath, some newIndexPath⟩

/-- The rows a report names. -/
def batch : List Reported → Batch
  | [] => {}
  | .insert newIndexPath :: report =>
      { batch report with inserts := newIndexPath :: (batch report).inserts }
  | .delete indexPath :: report =>
      { batch report with deletes := indexPath :: (batch report).deletes }
  | .update indexPath _ :: report =>
      { batch report with reloads := indexPath :: (batch report).reloads }
  | .move indexPath newIndexPath :: report =>
      { batch report with moves := (indexPath, newIndexPath) :: (batch report).moves }

end Reported

/-- The report turns the object list `old` into `new`. -/
def Reported.Turns (report : List Reported) (old new : List (Nat × Plant)) : Prop :=
  (Reported.batch report).Turns Prod.fst old new

/-- A plant whose content changed is reported as an insert or an update, or as a move
that a posted `plantUpdated` follows. -/
def ContentReported (report : List Reported) (effects : List Effect)
    (old new : List (Nat × Plant)) : Prop :=
  ∀ i j k p q, old[i]? = some (k, p) → new[j]? = some (k, q) → p ≠ q →
    .insert j ∈ report ∨ (∃ newIndexPath, .update i newIndexPath ∈ report) ∨
      (.move i j ∈ report ∧ .plantUpdated ∈ effects)

/-- The cell a plant is to have: its nickname, and its image or the default one. -/
def Plant.cell (images : ImageLoader Image) (p : Plant) : PlantTableViewCell Image where
  nameLabel := p.nickname
  imageView :=
    match p.image with
    | none => images.named "plant"
    | some image => images.data image

/-- The rows are the objects in their order, each with the cell of its plant. -/
def UITableView.Shows (images : ImageLoader Image) (objects : List (Nat × Plant))
    (tableView : UITableView Image) : Prop :=
  tableView.rows = objects.map fun o => o.2.cell images

namespace Reported

variable {report : List Reported} {i j : Nat}

theorem mem_inserts (h : .insert j ∈ report) : j ∈ (batch report).inserts := by
  induction report with
  | nil => cases h
  | cons r report ih =>
      rcases List.mem_cons.mp h with rfl | hmem
      · exact List.mem_cons_self ..
      · cases r with
        | insert _ => exact List.mem_cons_of_mem _ (ih hmem)
        | _ => exact ih hmem

theorem mem_reloads {newIndexPath : Option Nat} (h : .update i newIndexPath ∈ report) :
    i ∈ (batch report).reloads := by
  induction report with
  | nil => cases h
  | cons r report ih =>
      rcases List.mem_cons.mp h with rfl | hmem
      · exact List.mem_cons_self ..
      · cases r with
        | update _ _ => exact List.mem_cons_of_mem _ (ih hmem)
        | _ => exact ih hmem

theorem mem_moves (h : .move i j ∈ report) : (i, j) ∈ (batch report).moves := by
  induction report with
  | nil => cases h
  | cons r report ih =>
      rcases List.mem_cons.mp h with rfl | hmem
      · exact List.mem_cons_self ..
      · cases r with
        | move _ _ => exact List.mem_cons_of_mem _ (ih hmem)
        | _ => exact ih hmem

end Reported

section
variable {d : TableDataSource Image} {old new : List (Nat × Plant)} {report : List Reported}
  {effects : List Effect} {tableView : UITableView Image}

/-- Whatever cell is dequeued, it gets the nickname and the image of its plant. -/
theorem cellForRowAt_eq (hd : d.sections = some new) {j : Nat} {o : Nat × Plant}
    (ho : new[j]? = some o) :
    PlantTableViewController.cellForRowAt d j = some (o.2.cell d.images) := by
  simp only [PlantTableViewController.cellForRowAt, TableDataSource.object, hd, ho, Option.map_some,
    Plant.cell]
  cases o.2.image with
  | none => rfl
  | some image => rfl

/-- A reload shows the objects, whatever was shown. -/
theorem reloadData_shows (tableView : UITableView Image) (hd : d.sections = some new) :
    ∃ t, tableView.reloadData d = some t ∧ t.Shows d.images new := by
  have hrows : (List.range' 0 new.length).mapM (PlantTableViewController.cellForRowAt d) =
      some (new.map fun o => o.2.cell d.images) := by
    refine BatchUpdate.mapM_range' fun j o ho => ?_
    rw [Nat.zero_add]
    exact cellForRowAt_eq hd ho
  rw [← List.range_eq_range'] at hrows
  simp only [UITableView.reloadData, PlantTableViewController.numberOfRowsInSection, hd, hrows,
    Option.map_some]
  exact ⟨_, rfl, rfl⟩

/-- The delegate records what was reported, and touches no row before `endUpdates`. -/
theorem record_report (tableView : UITableView Image) (report : List Reported) :
    (report.map Reported.change).foldl PlantTableViewController.controllerDidChangeObject
        tableView =
      { rows := tableView.rows
        updates :=
          { deletes := tableView.updates.deletes ++ (Reported.batch report).deletes
            reloads := tableView.updates.reloads ++ (Reported.batch report).reloads
            inserts := tableView.updates.inserts ++ (Reported.batch report).inserts
            moves := tableView.updates.moves ++ (Reported.batch report).moves } } := by
  induction report generalizing tableView with
  | nil => simp [Reported.batch]
  | cons r report ih =>
      rw [List.map_cons, List.foldl_cons, ih]
      cases r with
      | insert newIndexPath =>
          simp [Reported.change, Reported.batch, PlantTableViewController.controllerDidChangeObject,
            UITableView.insertRows]
      | delete indexPath =>
          simp [Reported.change, Reported.batch, PlantTableViewController.controllerDidChangeObject,
            UITableView.deleteRows]
      | update indexPath newIndexPath =>
          simp [Reported.change, Reported.batch, PlantTableViewController.controllerDidChangeObject,
            UITableView.reloadRows]
      | move indexPath newIndexPath =>
          simp [Reported.change, Reported.batch, PlantTableViewController.controllerDidChangeObject,
            UITableView.moveRow]

/-- A plant that stays and is not reloaded has the content it had. -/
theorem ContentReported.stays {i j : Nat} {a b : Nat × Plant}
    (hc : ContentReported report effects old new) (ha : old[i]? = some a) (hb : new[j]? = some b)
    (hk : a.1 = b.1) (hi : (Reported.batch report).leaves i = false)
    (hj : (Reported.batch report).arrives j = false) (hr : i ∉ (Reported.batch report).reloads) :
    a.2 = b.2 := by
  obtain ⟨k, p⟩ := a
  obtain ⟨k', q⟩ := b
  obtain rfl : k = k' := hk
  simp only [Batch.leaves, Batch.arrives, decide_eq_false_iff_not, List.mem_append, not_or,
    List.mem_map] at hi hj
  by_contra hne
  rcases hc i j k p q ha hb hne with h | ⟨_, h⟩ | ⟨h, -⟩
  · exact hj.1 (Reported.mem_inserts h)
  · exact hr (Reported.mem_reloads h)
  · exact hi.2 ⟨_, Reported.mem_moves h, rfl⟩

/-- A plant that is moved has the content it had, or the notification is posted. -/
theorem ContentReported.moved {m : Nat × Nat} {a b : Nat × Plant}
    (hc : ContentReported report effects old new) (ht : Reported.Turns report old new)
    (hm : m ∈ (Reported.batch report).moves) (ha : old[m.1]? = some a) (hb : new[m.2]? = some b)
    (hk : a.1 = b.1) : a.2 = b.2 ∨ .plantUpdated ∈ effects := by
  obtain ⟨k, p⟩ := a
  obtain ⟨k', q⟩ := b
  obtain rfl : k = k' := hk
  by_cases hpq : p = q
  · exact Or.inl hpq
  refine Or.inr ?_
  -- no other change may name the rows of a move
  have hold := (List.nodup_append.mp ht.valid.old_nodup).2.2 m.1
    (List.mem_append_right _ (List.mem_map.mpr ⟨m, hm, rfl⟩))
  have hnew := (List.nodup_append.mp ht.valid.new_nodup).2.2
  rcases hc m.1 m.2 k p q ha hb hpq with h | ⟨_, h⟩ | ⟨-, h⟩
  · exact absurd rfl (hnew m.2 (Reported.mem_inserts h) m.2 (List.mem_map.mpr ⟨m, hm, rfl⟩))
  · exact absurd rfl (hold m.1 (Reported.mem_reloads h))
  · exact h

/-- The callbacks go through.  They show the new objects, unless a notification is
to follow. -/
theorem callbacks_show (hd : d.sections = some new) (hs : tableView.Shows d.images old)
    (ht : Reported.Turns report old new) (hc : ContentReported report effects old new) :
    ∃ t, PlantTableViewController.controllerDidChangeContent d
        ((report.map Reported.change).foldl PlantTableViewController.controllerDidChangeObject
          (PlantTableViewController.controllerWillChangeContent tableView)) = some t ∧
      (t.Shows d.images new ∨ .plantUpdated ∈ effects) := by
  have hperform : (Reported.batch report).perform (PlantTableViewController.cellForRowAt d)
      new.length (old.map fun o => o.2.cell d.images) =
        some ((Reported.batch report).outcome (old.map fun o => o.2.cell d.images)
          (fun o => o.2.cell d.images) 0 new) := by
    refine Batch.perform_of_turns ht (fun j o ho => cellForRowAt_eq hd ho) ?_
    intro i j a b ha hb hk hi hj hr
    rw [hc.stays ha hb hk hi hj hr]
  rw [← hs] at hperform
  simp only [PlantTableViewController.controllerDidChangeContent, UITableView.endUpdates,
    record_report, PlantTableViewController.controllerWillChangeContent, UITableView.beginUpdates,
    PlantTableViewController.numberOfRowsInSection, hd, List.nil_append, hperform, Option.map_some]
  refine ⟨_, rfl, ?_⟩
  by_cases hpost : .plantUpdated ∈ effects
  · exact Or.inr hpost
  refine Or.inl (Batch.outcome_eq_map ?_)
  intro m hm j b hb hj _
  rw [Nat.zero_add] at hj
  subst hj
  have hlt : m.1 < old.length := ht.valid.old_lt m.1
    (List.mem_append_left _ (List.mem_append_right _ (List.mem_map.mpr ⟨m, hm, rfl⟩)))
  have ha := List.getElem?_eq_getElem hlt
  have hk := ht.moved m hm
  rw [ha, hb, Option.map_some, Option.map_some, Option.some.injEq] at hk
  have hsame := (hc.moved ht hm ha hb hk).resolve_right hpost
  rw [hs, List.getElem?_map, ha, Option.map_some, hsame]

/-- What a handler did to the screen keeps the table right, and makes it right where
it posts the notification. -/
theorem effects_show (hd : d.sections = some new)
    (h : tableView.Shows d.images new ∨ .plantUpdated ∈ effects) :
    ∃ t, effects.foldlM (PlantTableViewController.receive d) tableView = some t ∧
      t.Shows d.images new := by
  induction effects generalizing tableView with
  | nil =>
      rcases h with h | h
      · exact ⟨tableView, rfl, h⟩
      · cases h
  | cons e effects ih =>
      have hfirst : ∃ t, PlantTableViewController.receive d tableView e = some t ∧
          (t.Shows d.images new ∨ .plantUpdated ∈ effects) := by
        obtain ⟨t, ht, hshow⟩ := reloadData_shows tableView hd
        cases e with
        | plantUpdated => exact ⟨t, ht, Or.inl hshow⟩
        | reloadData => exact ⟨t, ht, Or.inl hshow⟩
        | popViewController => exact ⟨tableView, rfl, by simpa using h⟩
        | popToRootViewController => exact ⟨tableView, rfl, by simpa using h⟩
      obtain ⟨t, ht, hnext⟩ := hfirst
      rw [List.foldlM_cons, ht]
      exact ih hnext

/-- So the callbacks and the reloads show the new objects. -/
theorem save_shown (hd : d.sections = some new) (hs : tableView.Shows d.images old)
    (ht : Reported.Turns report old new) (hc : ContentReported report effects old new) :
    ∃ t, PlantTableViewController.didSave d (report.map Reported.change) effects tableView =
        some t ∧ t.Shows d.images new := by
  obtain ⟨t, hcall, hshow⟩ := callbacks_show hd hs ht hc
  rw [PlantTableViewController.didSave, hcall, Option.bind_some]
  exact effects_show hd hshow

end

end WaterMyPlants
