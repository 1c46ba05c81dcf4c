import WaterMyPlants.Garden.Step

/-!
# Saves that fail

The delete of the table resets the context when its save throws.  The other
four save sites print the error and keep the change, which stays pending for
whatever saves next.
-/

namespace WaterMyPlants

/-- The action is an update whose values are those the plant already has. -/
def Action.Rewrites (a : Action) (shown : Uid) (now : Date) (c : Context) : Prop :=
  ∃ indexPath vc k p nickname species, a = .edit indexPath vc ∧
    (c.fetchedObjects shown)[indexPath]? = some (k, p) ∧
    vc.nicknameTextField = some nickname ∧ vc.speciesTextField = some species ∧
    vc.edited nickname species now p = p

/-- The context shows the plants it showed before and has nothing to write. -/
def Context.Restored (before after : Context) : Prop :=
  after.objects = before.objects ∧ after.Clean

section
variable {uid : Option Uid} {shown : Uid} {now : Date} {disk : Disk} {c : Context} {a : Action}

/-- What a change that is kept shows is what was shown before only if it is an
update that rewrites its plant. -/
theorem Change.rewrites {c' : Context} (hc : Change uid shown now disk c a c')
    (ho : c'.objects = c.objects) : a.isDelete = true ∨ a.Rewrites shown now c := by
  cases hc with
  | add _ _ _ _ =>
      have hlen := congrArg (fun r => r.list.length) ho
      simp at hlen
  | edit hr hn hs _ _ _ =>
      refine Or.inr ⟨_, _, _, _, _, _, rfl, hr, hn, hs, ?_⟩
      exact (WorkingCopy.Rows.modify_eq_self_iff (mem_of_row hr).1).mp ho
  | delete _ => exact Or.inl rfl

theorem Change.of_rewrites {c' : Context} (hc : Change uid shown now disk c a c')
    (hw : a.Rewrites shown now c) : c'.objects = c.objects := by
  obtain ⟨i, vc, k, p, nickname, species, rfl, hr, hn, hs, he⟩ := hw
  cases hc with
  | edit hr' hn' hs' _ _ _ =>
      rw [hr, Option.some.injEq] at hr'
      rw [hn, Option.some.injEq] at hn'
      rw [hs, Option.some.injEq] at hs'
      cases hr'
      cases hn'
      cases hs'
      exact (WorkingCopy.Rows.modify_eq_self_iff (mem_of_row hr).1).mpr he

/-- An action whose save throws, taken on a context with nothing to write, puts
everything back exactly when it is the delete, or an update that rewrites its
plant. -/
theorem failed_save_restores_iff {h : Handled} {r : WorkingCopy.SaveResult} (hclean : c.Clean)
    (hh : a.handle uid shown now disk c = some h) (hs : h.save = some r)
    (hr : r.threw = true) :
    c.Restored h.context ↔ a.isDelete = true ∨ a.Rewrites shown now c := by
  obtain ⟨-, hnone, -⟩ | ⟨c', hc, hsave, hctx⟩ := handle_cases hh
  · rw [hs] at hnone
    cases hnone
  rw [hs, Option.some.injEq] at hsave
  have hset : h.context = if a.isDelete then c'.reset else c' := by
    obtain ⟨hsaved, -⟩ | ⟨-, hset⟩ := settle_cases a disk c'
    · rw [hsave, hsaved] at hr
      cases hr
    · rw [hctx, hset]
  have hstore : c'.store = c.objects := hc.store_eq.trans hclean.symm
  constructor
  · intro hrestored
    obtain ⟨ho, -⟩ := hrestored
    cases hd : a.isDelete with
    | true => exact Or.inl rfl
    | false =>
        rw [hset, hd] at ho
        rw [← hd]
        exact hc.rewrites ho
  · intro hor
    rcases hor with hd | hw
    · rw [hset, hd]
      exact ⟨hstore, rfl⟩
    · have ho := hc.of_rewrites hw
      rw [hset]
      cases a.isDelete with
      | true => exact ⟨hstore, rfl⟩
      | false => exact ⟨ho, ho.trans hstore.symm⟩

end

/-- An add whose save fails. -/
def failedAdd : Action := .add ⟨some "Fern", some "Nephrolepis", none, 0⟩

theorem failedAdd_handle :
    ∃ h, failedAdd.handle (some "ada") "ada" 1 ⟨true, false⟩ .empty = some h ∧
      h.save = some .failed ∧ h.context.objects.list.length = 1 :=
  ⟨_, rfl, by decide, by decide⟩

/-- After an add whose save throws, the context shows the plant that was not
saved. -/
theorem failed_add_kept :
    ¬ ∀ (uid : Option Uid) (shown : Uid) (now : Date) (disk : Disk) (c : Context) (a : Action)
      (h : Handled) (r : WorkingCopy.SaveResult), c.Clean →
      a.handle uid shown now disk c = some h → h.save = some r → r.threw = true →
      c.Restored h.context := by
  intro hall
  obtain ⟨h, hh, hs, hlen⟩ := failedAdd_handle
  obtain ⟨ho, -⟩ := hall _ _ _ _ _ _ _ _ WorkingCopy.clean_empty hh hs rfl
  rw [ho] at hlen
  cases hlen

theorem failed_save_restores_iff_failedAdd :
    ∃ h, failedAdd.handle (some "ada") "ada" 1 ⟨true, false⟩ .empty = some h ∧
      (Context.Restored .empty h.context ↔
        failedAdd.isDelete = true ∨ failedAdd.Rewrites "ada" 1 .empty) := by
  obtain ⟨h, hh, hs, -⟩ := failedAdd_handle
  exact ⟨h, hh, failed_save_restores_iff WorkingCopy.clean_empty hh hs rfl⟩

end WaterMyPlants
