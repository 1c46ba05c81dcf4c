import WaterMyPlants.Garden.WellFormed

/-!
# The shelf of one user

What one user is meant to have, with no other user in it: the plants shown, in
the order of the table, and the plants saved.  An action of the user changes
the shown list, and its save copies that list or fails.

`Context.shelf` is what the context holds of a user.  An action of another user
leaves the shown plants alone (`Change.shown_other`) but not the saved ones: its
save writes everything that is pending.
-/

namespace WaterMyPlants

/-- The plants of one user: shown, and saved. -/
structure Shelf where
  shown : List Plant
  saved : List Plant
deriving DecidableEq, Repr

namespace Shelf

/-- No plants. -/
def empty : Shelf := ⟨[], []⟩

/-- Nothing waits for a save. -/
def Settled (s : Shelf) : Prop := s.shown = s.saved

instance (s : Shelf) : Decidable s.Settled := inferInstanceAs (Decidable (s.shown = s.saved))

/-- What an action makes of the plants shown to its user, `none` where it makes
nothing.  An update needs its plant to be the user's only one with its
timestamp. -/
def change (tap : Tap) (shown : List Plant) : Option (List Plant) :=
  match tap.action with
  | .add vc =>
      match vc.plantNicknameTextField, vc.speciesTextField with
      | some nickname, some species =>
          if nickname = "" ∨ species = "" then none
          else some (shown ++ [vc.plant (some tap.user) nickname species tap.now])
      | _, _ => none
  | .edit indexPath vc =>
      match shown[indexPath]?, vc.nicknameTextField, vc.speciesTextField with
      | some p, some nickname, some species =>
          if tap.disk.fetches = true ∧ shown.filter (fun q => q.timestamp = p.timestamp) = [p] then
            some (shown.set indexPath (vc.edited nickname species tap.now p))
          else none
      | _, _, _ => none
  | .delete indexPath => if indexPath < shown.length then some (shown.eraseIdx indexPath) else none

/-- An action of the user, with its save. -/
def step (s : Shelf) (tap : Tap) : Shelf :=
  match change tap s.shown with
  | none => s
  | some shown =>
      if tap.disk.saves then ⟨shown, shown⟩
      else if tap.action.isDelete then ⟨s.saved, s.saved⟩
      else ⟨shown, s.saved⟩

end Shelf

/-- What the context shows to a user and what the store holds of them. -/
def Context.shelf (v : Uid) (c : Context) : Shelf where
  shown := c.objects.view fun p => p.id = some v
  saved := c.store.view fun p => p.id = some v

section
variable {v : Uid} {tap : Tap} {uid : Option Uid} {shown : Uid} {now : Date} {disk : Disk}
  {c c' : Context} {a : Action}

theorem Context.shelf_ext {c d : Context} (ho : (c.shelf v).shown = (d.shelf v).shown)
    (hs : (c.shelf v).saved = (d.shelf v).saved) : c.shelf v = d.shelf v := by
  rw [show c.shelf v = ⟨(c.shelf v).shown, (c.shelf v).saved⟩ from rfl, ho, hs]

@[simp] theorem Context.shelf_commit (c : Context) :
    Context.shelf v c.commit = ⟨(c.shelf v).shown, (c.shelf v).shown⟩ := rfl

@[simp] theorem Context.shelf_reset (c : Context) :
    Context.shelf v c.reset = ⟨(c.shelf v).saved, (c.shelf v).saved⟩ := rfl

theorem Context.shelf_empty (v : Uid) : Context.shelf v .empty = Shelf.empty := rfl

/-- A row of the table is the plant at that place of the shelf. -/
theorem shown_of_row {i k : Nat} {p : Plant} (hr : (c.fetchedObjects v)[i]? = some (k, p)) :
    (c.shelf v).shown[i]? = some p :=
  WorkingCopy.Rows.view_getElem? hr

theorem row_of_shown {i : Nat} {p : Plant} (hi : (c.shelf v).shown[i]? = some p) :
    ∃ k, (c.fetchedObjects v)[i]? = some (k, p) := by
  change ((c.fetchedObjects v).map Prod.snd)[i]? = some p at hi
  rw [List.getElem?_map, Option.map_eq_some_iff] at hi
  obtain ⟨⟨k, q⟩, ho, rfl⟩ := hi
  exact ⟨k, ho⟩

/-- The plants of the shelf with a timestamp are the user's among all with it. -/
theorem shown_filter_timestamp (t : Date) :
    (c.shelf v).shown.filter (fun q => q.timestamp = some t) =
      ((c.withTimestamp t).filter fun o => o.2.id = some v).map Prod.snd := by
  show ((c.objects.part fun p => p.id = some v).map Prod.snd).filter _ = _
  rw [List.filter_map, Context.withTimestamp, WorkingCopy.Rows.part, WorkingCopy.Rows.part,
    List.filter_filter, List.filter_filter]
  refine congrArg _ (List.filter_congr fun o _ => ?_)
  exact Bool.and_comm _ _

/-! ## Actions of the user -/

/-- What an action changes in the context it changes on the shelf of its user. -/
theorem Change.shelf_change
    (hc : Change (some tap.user) tap.user tap.now tap.disk c tap.action c') :
    Shelf.change tap (c.shelf tap.user).shown = some (c'.shelf tap.user).shown := by
  rw [Shelf.change]
  generalize tap.action = a at hc
  cases hc with
  | @add vc nickname species hn hne hs hse =>
      dsimp only
      rw [hn, hs]
      dsimp only
      rw [if_neg (by rintro (h | h); exacts [hne h, hse h])]
      refine congrArg some (Eq.symm ?_)
      refine (WorkingCopy.Rows.view_insert _ _ _ _ c.objects_lt).trans ?_
      rw [if_pos (by simp [AddPlantViewController.plant])]
      rfl
  | @edit vc i k p nickname species t hr hn hs ht hf hu =>
      dsimp only
      rw [shown_of_row hr, hn, hs]
      have hid : p.id = some tap.user := (mem_of_row hr).2
      have honly : (c.shelf tap.user).shown.filter (fun q => q.timestamp = p.timestamp) = [p] := by
        rw [ht, shown_filter_timestamp, hu]
        simp [hid]
      dsimp only
      rw [if_pos ⟨hf, honly⟩]
      refine congrArg some (Eq.symm ?_)
      exact WorkingCopy.Rows.view_modify hr (by simp [EditViewController.edited, Plant.edited, hid])
  | @delete i k p hr =>
      dsimp only
      have hlt := (List.getElem?_eq_some_iff.mp (shown_of_row hr)).1
      rw [if_pos hlt]
      exact congrArg some (WorkingCopy.Rows.view_erase hr).symm

/-- What an action changes on the shelf it changes in the context, unless it is
an update and a plant of another user has the timestamp of the plant it is for. -/
theorem Change.of_shelf_change {shown : List Plant}
    (hs : Shelf.change tap (c.shelf tap.user).shown = some shown)
    (hsole : ∀ i vc k p t, tap.action = .edit i vc →
      (c.fetchedObjects tap.user)[i]? = some (k, p) → p.timestamp = some t →
      tap.disk.fetches = true → vc.nicknameTextField.isSome = true →
      vc.speciesTextField.isSome = true →
      (c.shelf tap.user).shown.filter (fun q => q.timestamp = some t) = [p] →
      c.withTimestamp t = [(k, p)])
    (hts : ∀ o ∈ c.objects.list, o.2.timestamp.isSome = true) :
    ∃ c', Change (some tap.user) tap.user tap.now tap.disk c tap.action c' := by
  rw [Shelf.change] at hs
  cases ha : tap.action with
  | add vc =>
      rw [ha] at hs
      dsimp only at hs
      split at hs
      next nickname species hn hsp =>
        split at hs
        next => cases hs
        next hne =>
          rw [not_or] at hne
          exact ⟨_, .add hn hne.1 hsp hne.2⟩
      next => cases hs
  | edit i vc =>
      rw [ha] at hs
      dsimp only at hs
      split at hs
      next p nickname species hp hn hsp =>
        split at hs
        next hu =>
          obtain ⟨k, hr⟩ := row_of_shown hp
          obtain ⟨t, ht⟩ := Option.isSome_iff_exists.mp (hts _ (mem_of_row hr).1)
          rw [ht] at hu
          refine ⟨_, .edit hr hn hsp ht hu.1 ?_⟩
          exact hsole i vc k p t ha hr ht hu.1 (by rw [hn]; rfl) (by rw [hsp]; rfl) hu.2
        next => cases hs
      next => cases hs
  | delete i =>
      rw [ha] at hs
      dsimp only at hs
      split at hs
      next hlt =>
        obtain ⟨k, hr⟩ := row_of_shown (List.getElem?_eq_getElem hlt)
        exact ⟨_, .delete hr⟩
      next => cases hs

/-- A change is not saved yet. -/
theorem Change.saved_eq (v : Uid) (hc : Change uid shown now disk c a c') :
    (c'.shelf v).saved = (c.shelf v).saved :=
  congrArg (WorkingCopy.Rows.view fun p : Plant => p.id = some v) hc.store_eq

/-! ## Actions of other users -/

/-- An action of another user changes no plant shown to this one. -/
theorem Change.shown_other (hv : shown ≠ v)
    (hc : Change (some shown) shown now disk c a c') :
    (c'.shelf v).shown = (c.shelf v).shown := by
  have hne : ∀ p : Plant, p.id = some shown → decide (p.id = some v) = false := by
    intro p hp
    rw [hp]
    simpa using hv
  have hrow : ∀ {k : Nat} {p : Plant}, (k, p) ∈ c.objects.list → p.id = some shown →
      ∀ q, (k, q) ∈ c.objects.list → q.id = some shown := by
    intro k p hp hid q hq
    rw [WorkingCopy.Rows.eq_of_mem hq hp, hid]
  show WorkingCopy.Rows.view _ c'.objects = WorkingCopy.Rows.view _ c.objects
  cases hc with
  | @add vc nickname species _ _ _ _ =>
      refine (WorkingCopy.Rows.view_insert _ _ _ _ c.objects_lt).trans ?_
      rw [hne _ rfl]
      simp
  | @edit vc i k p _ _ _ hr _ _ _ _ _ =>
      obtain ⟨hp, hid⟩ := mem_of_row hr
      refine congrArg (List.map Prod.snd) (WorkingCopy.Rows.part_modify_outside fun q hq => ?_)
      have hq' := hrow hp hid q hq
      exact ⟨hne q hq', hne _ hq'⟩
  | @delete i k p hr =>
      obtain ⟨hp, hid⟩ := mem_of_row hr
      exact congrArg (List.map Prod.snd)
        (WorkingCopy.Rows.part_erase_outside fun q hq => hne q (hrow hp hid q hq))

end

end WaterMyPlants
