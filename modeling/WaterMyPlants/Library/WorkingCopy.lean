import Mathlib.Data.List.InsertIdx
import Mathlib.Data.List.Nodup

/-!
# A working copy over a store

A *working copy* holds rows in memory over the rows of a persistent store.
Every row has an identity, a number that no other row has and that is never
given out again.  Changes are made in memory.  `save` writes all of them or
none, and `reset` drops all of them.

The two freshness facts are fields, so a working copy with two rows of one
identity, or with an identity still to be given out, cannot be built.

`Rows.part` is what a fixed class of rows sees of the whole.  Its lemmas say
how each operation looks from inside a class and that it looks like nothing
from outside.  `Rows.view` is the same without the identities: there a change
and a deletion happen at an index.
-/

namespace WorkingCopy

/-- Rows with an identity each, in the order they were added. -/
@[ext]
structure Rows (α : Type) where
  /-- The rows. -/
  list : List (Nat × α)
  /-- No two rows share an identity. -/
  nodup : (list.map Prod.fst).Nodup
deriving DecidableEq

namespace Rows

variable {α : Type}

/-- No rows. -/
def empty : Rows α := ⟨[], List.nodup_nil⟩

/-- Apply `f` to the row with identity `k`. -/
def update (k : Nat) (f : α → α) (o : Nat × α) : Nat × α := if o.1 = k then (k, f o.2) else o

/-- Add a row under a new identity. -/
def insert (r : Rows α) (k : Nat) (a : α) (hk : ∀ o ∈ r.list, o.1 < k) : Rows α where
  list := r.list ++ [(k, a)]
  nodup := by
    rw [List.map_append, List.map_singleton, List.nodup_append]
    refine ⟨r.nodup, List.nodup_singleton _, ?_⟩
    intro x hx y hy hxy
    obtain ⟨o, ho, rfl⟩ := List.mem_map.mp hx
    rw [List.mem_singleton] at hy
    exact absurd (hxy.trans hy) (Nat.ne_of_lt (hk o ho))

theorem update_fst (k : Nat) (f : α → α) (o : Nat × α) : (update k f o).1 = o.1 := by
  simp only [update]
  split
  next h => exact h.symm
  next => rfl

/-- Change the row with identity `k`, if there is one. -/
def modify (r : Rows α) (k : Nat) (f : α → α) : Rows α where
  list := r.list.map (update k f)
  nodup := by
    have hkeys : (r.list.map (update k f)).map Prod.fst = r.list.map Prod.fst := by
      rw [List.map_map]
      exact List.map_congr_left fun o _ => update_fst k f o
    rw [hkeys]
    exact r.nodup

/-- Drop the row with identity `k`, if there is one. -/
def erase (r : Rows α) (k : Nat) : Rows α where
  list := r.list.filter fun o => o.1 ≠ k
  nodup := r.nodup.sublist (List.filter_sublist.map _)

@[simp] theorem empty_list : (empty : Rows α).list = [] := rfl

@[simp] theorem insert_list (r : Rows α) (k : Nat) (a : α) (hk : ∀ o ∈ r.list, o.1 < k) :
    (r.insert k a hk).list = r.list ++ [(k, a)] := rfl

@[simp] theorem modify_list (r : Rows α) (k : Nat) (f : α → α) :
    (r.modify k f).list = r.list.map (update k f) := rfl

@[simp] theorem erase_list (r : Rows α) (k : Nat) :
    (r.erase k).list = r.list.filter fun o => o.1 ≠ k := rfl

/-- The row with an identity is the only one with it. -/
theorem eq_of_mem {r : Rows α} {k : Nat} {a b : α} (ha : (k, a) ∈ r.list)
    (hb : (k, b) ∈ r.list) : a = b := by
  have h := List.inj_on_of_nodup_map r.nodup ha hb rfl
  exact (Prod.mk.inj h).2

theorem mem_modify {r : Rows α} {k : Nat} {f : α → α} {o : Nat × α}
    (ho : o ∈ (r.modify k f).list) :
    (o ∈ r.list ∧ o.1 ≠ k) ∨ ∃ a, (k, a) ∈ r.list ∧ o = (k, f a) := by
  rw [modify_list, List.mem_map] at ho
  obtain ⟨⟨j, a⟩, hp, rfl⟩ := ho
  by_cases hj : j = k
  · subst hj
    exact Or.inr ⟨a, hp, by simp [update]⟩
  · exact Or.inl ⟨by simpa [update, hj] using hp, by simp [update, hj]⟩

/-- No row comes or goes with a change. -/
theorem modify_keys (r : Rows α) (k : Nat) (f : α → α) :
    (r.modify k f).list.map Prod.fst = r.list.map Prod.fst := by
  rw [modify_list, List.map_map]
  exact List.map_congr_left fun o _ => update_fst k f o

/-- The other rows are what they were. -/
theorem mem_modify_of_ne {r : Rows α} {k : Nat} {f : α → α} {o : Nat × α} (hk : o.1 ≠ k) :
    o ∈ (r.modify k f).list ↔ o ∈ r.list := by
  constructor
  · intro ho
    obtain ⟨ho, -⟩ | ⟨a, -, rfl⟩ := mem_modify ho
    · exact ho
    · exact absurd rfl hk
  · intro ho
    exact List.mem_map.mpr ⟨o, ho, by simp [update, hk]⟩

theorem mem_modify_self {r : Rows α} {k : Nat} {a : α} (f : α → α) (ha : (k, a) ∈ r.list) :
    (k, f a) ∈ (r.modify k f).list :=
  List.mem_map.mpr ⟨(k, a), ha, by simp [update]⟩

/-- Two changes that agree on the row make the same of it. -/
theorem modify_congr {r : Rows α} {k : Nat} {f g : α → α} (h : ∀ a, (k, a) ∈ r.list → f a = g a) :
    r.modify k f = r.modify k g := by
  ext1
  refine List.map_congr_left ?_
  intro o ho
  obtain ⟨j, a⟩ := o
  by_cases hj : j = k
  · subst hj
    simp [update, h a ho]
  · simp [update, hj]

/-- A change is visible unless it makes its row what it was. -/
theorem modify_eq_self_iff {r : Rows α} {k : Nat} {a : α} {f : α → α} (ha : (k, a) ∈ r.list) :
    r.modify k f = r ↔ f a = a := by
  constructor
  · intro h
    have hf := mem_modify_self f ha
    rw [h] at hf
    exact eq_of_mem hf ha
  · intro h
    have hid : ∀ o ∈ r.list, update k f o = o := by
      intro o hb
      obtain ⟨j, b⟩ := o
      by_cases hj : j = k
      · subst hj
        rw [eq_of_mem hb ha]
        simp [update, h]
      · simp [update, hj]
    ext1
    rw [modify_list, List.map_congr_left hid, List.map_id']

theorem modify_modify (r : Rows α) (k : Nat) (f g : α → α) :
    (r.modify k f).modify k g = r.modify k fun a => g (f a) := by
  ext1
  rw [modify_list, modify_list, modify_list, List.map_map]
  refine List.map_congr_left fun o _ => ?_
  by_cases ho : o.1 = k
  · simp [update, ho]
  · simp [update, ho]

/-! ## A class of rows -/

/-- The rows of a class, in order. -/
def part (P : α → Bool) (r : Rows α) : List (Nat × α) := r.list.filter fun o => P o.2

theorem part_nodup (P : α → Bool) (r : Rows α) : ((r.part P).map Prod.fst).Nodup :=
  r.nodup.sublist (List.filter_sublist.map _)

theorem mem_part {P : α → Bool} {r : Rows α} {o : Nat × α} :
    o ∈ r.part P ↔ o ∈ r.list ∧ P o.2 = true := List.mem_filter

theorem part_insert (P : α → Bool) (r : Rows α) (k : Nat) (a : α) (hk : ∀ o ∈ r.list, o.1 < k) :
    (r.insert k a hk).part P = r.part P ++ if P a = true then [(k, a)] else [] := by
  simp only [part, insert_list, List.filter_append, List.filter_cons, List.filter_nil]

/-- A change that keeps its row in the class, or out of it, changes that row of
the class and nothing else. -/
theorem part_modify {P : α → Bool} {r : Rows α} {k : Nat} {f : α → α}
    (hP : ∀ a, (k, a) ∈ r.list → P (f a) = P a) :
    (r.modify k f).part P = (r.part P).map (update k f) := by
  have hall : ∀ o ∈ r.list, P (update k f o).2 = P o.2 := by
    intro o ho
    obtain ⟨j, a⟩ := o
    by_cases hj : j = k
    · subst hj
      simpa [update] using hP a ho
    · simp [update, hj]
  rw [part, part, modify_list, List.filter_map]
  exact congrArg _ (List.filter_congr fun o ho => by simp [hall o ho])

/-- A change to a row that stays outside the class is not seen inside. -/
theorem part_modify_outside {P : α → Bool} {r : Rows α} {k : Nat} {f : α → α}
    (hP : ∀ a, (k, a) ∈ r.list → P a = false ∧ P (f a) = false) :
    (r.modify k f).part P = r.part P := by
  rw [part_modify fun a ha => (hP a ha).2.trans (hP a ha).1.symm]
  have hsame : ∀ o ∈ r.part P, update k f o = o := by
    intro o ho
    obtain ⟨j, a⟩ := o
    rw [mem_part] at ho
    have hj : j ≠ k := by
      rintro rfl
      simp [(hP a ho.1).1] at ho
    simp [update, hj]
  rw [List.map_congr_left hsame, List.map_id']

theorem part_erase (P : α → Bool) (r : Rows α) (k : Nat) :
    (r.erase k).part P = (r.part P).filter fun o => o.1 ≠ k := by
  rw [part, part, erase_list, List.filter_filter, List.filter_filter]
  exact List.filter_congr fun o _ => Bool.and_comm _ _

/-- Dropping a row that is not in the class is not seen inside. -/
theorem part_erase_outside {P : α → Bool} {r : Rows α} {k : Nat}
    (hP : ∀ a, (k, a) ∈ r.list → P a = false) : (r.erase k).part P = r.part P := by
  rw [part_erase]
  refine List.filter_eq_self.mpr ?_
  intro o ho
  obtain ⟨j, a⟩ := o
  rw [mem_part] at ho
  have hj : j ≠ k := by
    rintro rfl
    simp [hP a ho.1] at ho
  simpa using hj

/-! ## The rows of a class without their identities -/

/-- The rows of a class, in order, by what they hold. -/
def view (P : α → Bool) (r : Rows α) : List α := (r.part P).map Prod.snd

theorem view_insert (P : α → Bool) (r : Rows α) (k : Nat) (a : α) (hk : ∀ o ∈ r.list, o.1 < k) :
    (r.insert k a hk).view P = r.view P ++ if P a = true then [a] else [] := by
  rw [view, part_insert, List.map_append]
  split
  next => rfl
  next => rfl

theorem view_getElem? {P : α → Bool} {r : Rows α} {i k : Nat} {a : α}
    (hi : (r.part P)[i]? = some (k, a)) : (r.view P)[i]? = some a := by
  rw [view, List.getElem?_map, hi, Option.map_some]

/-- Where a row of the class stands, it stands alone under its identity. -/
theorem part_index {P : α → Bool} {r : Rows α} {i j : Nat} {o p : Nat × α}
    (hi : (r.part P)[i]? = some o) (hj : (r.part P)[j]? = some p) (hk : o.1 = p.1) : i = j := by
  have hlt : i < ((r.part P).map Prod.fst).length := by
    rw [List.length_map]
    exact (List.getElem?_eq_some_iff.mp hi).1
  refine (List.getElem?_inj hlt (r.part_nodup P)).mp ?_
  rw [List.getElem?_map, List.getElem?_map, hi, hj, Option.map_some, Option.map_some, hk]

/-- Changing the row at an index replaces it there. -/
theorem view_modify {P : α → Bool} {r : Rows α} {i k : Nat} {a : α} {f : α → α}
    (hi : (r.part P)[i]? = some (k, a)) (hP : P (f a) = true) :
    (r.modify k f).view P = (r.view P).set i (f a) := by
  have hmem : (k, a) ∈ r.list := (mem_part.mp (List.mem_of_getElem? hi)).1
  have hstay : ∀ b, (k, b) ∈ r.list → P (f b) = P b := by
    intro b hb
    rw [eq_of_mem hb hmem, hP]
    exact (mem_part.mp (List.mem_of_getElem? hi)).2.symm
  rw [view, view, part_modify hstay]
  refine List.ext_getElem? fun j => ?_
  rw [List.getElem?_set, List.length_map, List.getElem?_map, List.getElem?_map]
  by_cases hij : i = j
  · subst hij
    rw [if_pos rfl, if_pos (List.getElem?_eq_some_iff.mp hi).1, hi]
    simp [update]
  · rw [if_neg hij, List.getElem?_map]
    cases hj : (r.part P)[j]? with
    | none => rfl
    | some o =>
        have hne : o.1 ≠ k := fun hk => hij (part_index hi hj hk.symm)
        simp [update, hne]

/-- Dropping the row at an index drops it there. -/
theorem view_erase {P : α → Bool} {r : Rows α} {i k : Nat} {a : α}
    (hi : (r.part P)[i]? = some (k, a)) : (r.erase k).view P = (r.view P).eraseIdx i := by
  rw [view, view, part_erase, List.eraseIdx_map]
  refine congrArg _ ?_
  have hnodup := r.part_nodup P
  generalize r.part P = l at hi hnodup
  induction l generalizing i with
  | nil => simp at hi
  | cons o l ih =>
      rw [List.map_cons, List.nodup_cons] at hnodup
      cases i with
      | zero =>
          rw [List.getElem?_cons_zero, Option.some.injEq] at hi
          subst hi
          have hne : ∀ q ∈ l, q.1 ≠ k := fun q hq hk =>
            hnodup.1 (List.mem_map.mpr ⟨q, hq, hk⟩)
          rw [List.eraseIdx_cons_zero, List.filter_cons_of_neg (by simp)]
          exact List.filter_eq_self.mpr fun q hq => by simpa using hne q hq
      | succ i =>
          rw [List.getElem?_cons_succ] at hi
          have hne : o.1 ≠ k := fun hk =>
            hnodup.1 (List.mem_map.mpr ⟨(k, a), List.mem_of_getElem? hi, hk.symm⟩)
          rw [List.eraseIdx_cons_succ, List.filter_cons_of_pos (by simpa using hne), ih hi hnodup.2]

/-- Looking for the identity of a row of the class finds that row. -/
theorem part_findIdx {P : α → Bool} {r : Rows α} {k : Nat} {a : α} (h : (k, a) ∈ r.part P) :
    (r.part P)[(r.part P).findIdx fun o => o.1 = k]? = some (k, a) := by
  have hlt : (r.part P).findIdx (fun o => decide (o.1 = k)) < (r.part P).length :=
    List.findIdx_lt_length_of_exists ⟨(k, a), h, by simp⟩
  have hkey : (r.part P)[(r.part P).findIdx fun o => decide (o.1 = k)].1 = k :=
    of_decide_eq_true (List.findIdx_getElem (w := hlt))
  rw [List.getElem?_eq_getElem hlt, Option.some.injEq]
  exact List.inj_on_of_nodup_map (r.part_nodup P) (List.getElem_mem hlt) h hkey

/-- Dropping the row at an index of a class drops it there. -/
theorem part_eraseIdx {P : α → Bool} {r : Rows α} {i k : Nat} {a : α}
    (hi : (r.part P)[i]? = some (k, a)) : (r.erase k).part P = (r.part P).eraseIdx i := by
  classical
  obtain ⟨hlt, hrow⟩ := List.getElem?_eq_some_iff.mp hi
  have hnodup : (r.part P).Nodup := (r.part_nodup P).of_map
  rw [part_erase, ← hnodup.erase_getElem i hlt, hnodup.erase_eq_filter, hrow]
  refine List.filter_congr fun o ho => ?_
  have hsame : o.1 = k ↔ o = (k, a) := by
    constructor
    · intro hk
      have heq : o = (r.part P)[i] :=
        List.inj_on_of_nodup_map (r.part_nodup P) ho (List.getElem_mem hlt) (by rw [hk, hrow])
      rw [heq, hrow]
    · intro heq
      rw [heq]
  rw [bne, decide_not, Bool.beq_eq_decide_eq, decide_eq_decide.mpr hsame]

end Rows

/-! ## The working copy -/

/-- What came of a save. -/
inductive SaveResult where
  /-- Every change was written. -/
  | saved
  /-- A changed row was rejected, nothing was written. -/
  | invalid
  /-- The store could not be written. -/
  | failed
deriving DecidableEq, Repr

/-- The save threw. -/
def SaveResult.threw : SaveResult → Bool
  | .saved => false
  | .invalid => true
  | .failed => true

end WorkingCopy

/-- Rows in memory over the rows of a store. -/
@[ext]
structure WorkingCopy (α : Type) where
  /-- What the working copy shows. -/
  objects : WorkingCopy.Rows α
  /-- What the store holds. -/
  store : WorkingCopy.Rows α
  /-- The next identity to be given out. -/
  next : Nat
  /-- No identity in memory is still to be given out. -/
  objects_lt : ∀ o ∈ objects.list, o.1 < next
  /-- No identity in the store is still to be given out. -/
  store_lt : ∀ o ∈ store.list, o.1 < next
deriving DecidableEq

namespace WorkingCopy

variable {α : Type}

/-- A working copy of an empty store. -/
def empty : WorkingCopy α where
  objects := .empty
  store := .empty
  next := 0
  objects_lt := by simp
  store_lt := by simp

/-- There is nothing to write. -/
def Clean (w : WorkingCopy α) : Prop := w.objects = w.store

/-- Add a row. -/
def insert (w : WorkingCopy α) (a : α) : WorkingCopy α where
  objects := w.objects.insert w.next a w.objects_lt
  store := w.store
  next := w.next + 1
  objects_lt := by
    intro o ho
    rw [Rows.insert_list, List.mem_append, List.mem_singleton] at ho
    obtain ho | rfl := ho
    · exact Nat.lt_succ_of_lt (w.objects_lt o ho)
    · exact Nat.lt_succ_self _
  store_lt := fun o ho => Nat.lt_succ_of_lt (w.store_lt o ho)

/-- Change a row. -/
def modify (w : WorkingCopy α) (k : Nat) (f : α → α) : WorkingCopy α where
  objects := w.objects.modify k f
  store := w.store
  next := w.next
  objects_lt := by
    intro o ho
    rw [Rows.modify_list, List.mem_map] at ho
    obtain ⟨p, hp, rfl⟩ := ho
    rw [Rows.update_fst]
    exact w.objects_lt p hp
  store_lt := w.store_lt

/-- Drop a row. -/
def delete (w : WorkingCopy α) (k : Nat) : WorkingCopy α where
  objects := w.objects.erase k
  store := w.store
  next := w.next
  objects_lt := fun o ho => w.objects_lt o (List.mem_of_mem_filter ho)
  store_lt := w.store_lt

/-- Write what is shown. -/
def commit (w : WorkingCopy α) : WorkingCopy α :=
  { w with store := w.objects, store_lt := w.objects_lt }

/-- Show what is stored. -/
def reset (w : WorkingCopy α) : WorkingCopy α :=
  { w with objects := w.store, objects_lt := w.store_lt }

/-- The rows shown that are not stored as they are. -/
def changed [DecidableEq α] (w : WorkingCopy α) : List (Nat × α) :=
  w.objects.list.filter fun o => o ∉ w.store.list

/-- Write every change or none.  A changed row that is not `valid` is rejected
before the store is touched, and `disk` says whether the store can be written. -/
def save [DecidableEq α] (valid : α → Bool) (disk : Bool) (w : WorkingCopy α) :
    SaveResult × WorkingCopy α :=
  if w.changed.all fun o => valid o.2 then
    if disk then (.saved, w.commit) else (.failed, w)
  else (.invalid, w)

theorem clean_empty : (empty : WorkingCopy α).Clean := rfl

@[simp] theorem insert_objects (w : WorkingCopy α) (a : α) :
    (w.insert a).objects.list = w.objects.list ++ [(w.next, a)] := rfl

@[simp] theorem insert_store (w : WorkingCopy α) (a : α) : (w.insert a).store = w.store := rfl

@[simp] theorem modify_objects (w : WorkingCopy α) (k : Nat) (f : α → α) :
    (w.modify k f).objects = w.objects.modify k f := rfl

@[simp] theorem modify_store (w : WorkingCopy α) (k : Nat) (f : α → α) :
    (w.modify k f).store = w.store := rfl

@[simp] theorem delete_objects (w : WorkingCopy α) (k : Nat) :
    (w.delete k).objects = w.objects.erase k := rfl

@[simp] theorem delete_store (w : WorkingCopy α) (k : Nat) : (w.delete k).store = w.store := rfl

@[simp] theorem commit_objects (w : WorkingCopy α) : w.commit.objects = w.objects := rfl

@[simp] theorem commit_store (w : WorkingCopy α) : w.commit.store = w.objects := rfl

@[simp] theorem reset_objects (w : WorkingCopy α) : w.reset.objects = w.store := rfl

@[simp] theorem reset_store (w : WorkingCopy α) : w.reset.store = w.store := rfl

theorem modify_congr {w : WorkingCopy α} {k : Nat} {f g : α → α}
    (h : ∀ a, (k, a) ∈ w.objects.list → f a = g a) : w.modify k f = w.modify k g := by
  ext1
  · exact Rows.modify_congr h
  · rfl
  · rfl

theorem modify_modify (w : WorkingCopy α) (k : Nat) (f g : α → α) :
    (w.modify k f).modify k g = w.modify k fun a => g (f a) := by
  ext1
  · exact Rows.modify_modify _ _ _ _
  · rfl
  · rfl

section
variable [DecidableEq α] {valid : α → Bool} {disk : Bool} {w : WorkingCopy α}

/-- A save that does not throw wrote what is shown, and one that throws changed
nothing. -/
theorem save_cases (valid : α → Bool) (disk : Bool) (w : WorkingCopy α) :
    (w.save valid disk = (.saved, w.commit) ∧ disk = true) ∨
      ∃ r, r.threw = true ∧ w.save valid disk = (r, w) := by
  rw [save]
  split
  next =>
    cases disk with
    | true => exact Or.inl ⟨rfl, rfl⟩
    | false => exact Or.inr ⟨.failed, rfl, rfl⟩
  next => exact Or.inr ⟨.invalid, rfl, rfl⟩

/-- Where every row shown is valid, the disk alone decides. -/
theorem save_of_valid (hv : ∀ o ∈ w.objects.list, valid o.2 = true) :
    w.save valid disk = if disk then (.saved, w.commit) else (.failed, w) := by
  have hall : (w.changed.all fun o => valid o.2) = true :=
    List.all_eq_true.mpr fun o ho => hv o (List.mem_of_mem_filter ho)
  rw [save, if_pos hall]

@[simp] theorem save_objects (valid : α → Bool) (disk : Bool) (w : WorkingCopy α) :
    (w.save valid disk).2.objects = w.objects := by
  obtain ⟨h, -⟩ | ⟨r, -, h⟩ := save_cases valid disk w
  · rw [h, commit_objects]
  · rw [h]

end

end WorkingCopy
