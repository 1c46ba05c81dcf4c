import Mathlib.Data.List.Forall2
import Mathlib.Data.List.Nodup
import Mathlib.Data.List.Range

/-!
# Batch updates of a list

A *batch* changes a list of rows at once.  It names rows in two index spaces.
The rows to delete, to reload and to move are named in the old list, the rows to
insert and the places to move to in the new one.  The rows it does not name keep
what they show and their order.

`perform` carries a batch out.  It asks for a row anew only where the batch says
insert or reload, at the index the row has in the new list.  `Turns` says that a
batch is a difference of two lists of objects.  `perform_of_turns` is the result:
on the rows of the old objects such a batch goes through, and leaves the rows of
the new objects, but for those it moves, which show what they showed before.
-/

namespace BatchUpdate

/-- The rows a batch names. -/
structure Batch where
  /-- Indices of the old list. -/
  deletes : List Nat := []
  /-- Indices of the old list. -/
  reloads : List Nat := []
  /-- Indices of the new list. -/
  inserts : List Nat := []
  /-- An index of the old list and one of the new. -/
  moves : List (Nat × Nat) := []
deriving DecidableEq, Repr

namespace Batch

variable {α κ γ : Type}

/-- The old row does not stay. -/
def leaves (b : Batch) (i : Nat) : Bool := i ∈ b.deletes ++ b.moves.map Prod.fst

/-- The new row was not there. -/
def arrives (b : Batch) (j : Nat) : Bool := j ∈ b.inserts ++ b.moves.map Prod.snd

/-- Every row named is there, and none is named twice. -/
structure Valid (b : Batch) (m n : Nat) : Prop where
  old_nodup : (b.deletes ++ b.moves.map Prod.fst ++ b.reloads).Nodup
  old_lt : ∀ i ∈ b.deletes ++ b.moves.map Prod.fst ++ b.reloads, i < m
  new_nodup : (b.inserts ++ b.moves.map Prod.snd).Nodup
  new_lt : ∀ j ∈ b.inserts ++ b.moves.map Prod.snd, j < n

instance (b : Batch) (m n : Nat) : Decidable (b.Valid m n) :=
  decidable_of_iff
    ((b.deletes ++ b.moves.map Prod.fst ++ b.reloads).Nodup ∧
      (∀ i ∈ b.deletes ++ b.moves.map Prod.fst ++ b.reloads, i < m) ∧
      (b.inserts ++ b.moves.map Prod.snd).Nodup ∧
      ∀ j ∈ b.inserts ++ b.moves.map Prod.snd, j < n)
    ⟨fun h => ⟨h.1, h.2.1, h.2.2.1, h.2.2.2⟩, fun h => ⟨h.1, h.2, h.3, h.4⟩⟩

/-! ## The rows that stay -/

/-- The elements whose index is not named, with their indices.  The first index
is `k`. -/
def rest (named : Nat → Bool) : Nat → List α → List (Nat × α)
  | _, [] => []
  | k, a :: as => if named k then rest named (k + 1) as else (k, a) :: rest named (k + 1) as

theorem rest_map {β : Type} (named : Nat → Bool) (f : α → β) (k : Nat) (as : List α) :
    rest named k (as.map f) = (rest named k as).map fun p => (p.1, f p.2) := by
  induction as generalizing k with
  | nil => rfl
  | cons a as ih =>
      simp only [List.map_cons, rest, ih]
      split
      next => rfl
      next => rfl

theorem mem_rest {named : Nat → Bool} {k : Nat} {as : List α} {p : Nat × α}
    (hp : p ∈ rest named k as) :
    ∃ i, p.1 = k + i ∧ as[i]? = some p.2 ∧ named p.1 = false := by
  induction as generalizing k with
  | nil => cases hp
  | cons a as ih =>
      have htail : p ∈ rest named (k + 1) as →
          ∃ i, p.1 = k + i ∧ (a :: as)[i]? = some p.2 ∧ named p.1 = false := by
        intro hp
        obtain ⟨i, hi, ha, hn⟩ := ih hp
        exact ⟨i + 1, by omega, by simpa using ha, hn⟩
      rw [rest] at hp
      split at hp
      next => exact htail hp
      next hk =>
        rcases List.mem_cons.mp hp with rfl | hp
        · exact ⟨0, rfl, rfl, by simpa using hk⟩
        · exact htail hp

/-- The indices of the rows that stay. -/
theorem rest_fst (named : Nat → Bool) (k : Nat) (as : List α) :
    (rest named k as).map Prod.fst = (List.range' k as.length).filter fun i => !named i := by
  induction as generalizing k with
  | nil => rfl
  | cons a as ih =>
      rw [rest, List.length_cons, List.range'_succ, List.filter_cons]
      cases hk : named k with
      | true => simpa using ih (k + 1)
      | false => simpa using ih (k + 1)

/-- As many rows stay as are not named. -/
theorem rest_length {names : List Nat} {named : Nat → Bool} (hn : ∀ i, named i = true ↔ i ∈ names)
    (hd : names.Nodup) {as : List α} (hlt : ∀ i ∈ names, i < as.length) :
    (rest named 0 as).length + names.length = as.length := by
  have hperm : ((List.range as.length).filter named).Perm names := by
    refine (List.perm_ext_iff_of_nodup (List.nodup_range.filter _) hd).mpr fun i => ?_
    rw [List.mem_filter, List.mem_range, hn]
    exact ⟨fun h => h.2, fun h => ⟨hlt i h, h⟩⟩
  have hsplit := List.length_eq_length_filter_add (l := List.range as.length) named
  have hrest := congrArg List.length (rest_fst named 0 as)
  rw [List.length_map, ← List.range_eq_range'] at hrest
  rw [List.length_range, hperm.length_eq] at hsplit
  omega

/-! ## Carrying a batch out -/

/-- The new rows at the indices `js`, where `stay` are the old rows left to place.
`cell` renders the row at an index of the new list. -/
def fill (b : Batch) (cell : Nat → Option γ) (rows : List γ) :
    List Nat → List (Nat × γ) → Option (List γ)
  | [], stay => if stay.isEmpty then some [] else none
  | j :: js, stay =>
      if j ∈ b.inserts then (cell j).bind fun c => (fill b cell rows js stay).map (c :: ·)
      else
        match b.moves.find? fun m => m.2 = j with
        | some m => (rows[m.1]?).bind fun c => (fill b cell rows js stay).map (c :: ·)
        | none =>
            match stay with
            | [] => none
            | (i, c) :: stay =>
                (if i ∈ b.reloads then cell j else some c).bind fun c =>
                  (fill b cell rows js stay).map (c :: ·)

/-- The rows after the batch, `n` of them.  A batch that names a row twice or one
that is not there, or that does not account for the number of rows, is an
exception. -/
def perform (b : Batch) (cell : Nat → Option γ) (n : Nat) (rows : List γ) : Option (List γ) :=
  if b.Valid rows.length n ∧ rows.length + b.inserts.length = n + b.deletes.length then
    b.fill cell rows (List.range n) (rest b.leaves 0 rows)
  else none

/-- The rows a batch leaves of rows of the new objects `as`: a row that was moved is
an old one. -/
def outcome (b : Batch) (rows : List γ) (f : α → γ) : Nat → List α → List γ
  | _, [] => []
  | k, a :: as =>
      (if k ∈ b.inserts then f a
        else
          match b.moves.find? fun m => m.2 = k with
          | some m => rows[m.1]?.getD (f a)
          | none => f a) :: outcome b rows f (k + 1) as

theorem fill_eq {b : Batch} {cell : Nat → Option γ} {rows : List γ} {f : α → γ} {k : Nat}
    {as : List α} {stay : List (Nat × γ)}
    (hcell : ∀ i a, as[i]? = some a → cell (k + i) = some (f a))
    (hmoves : ∀ m ∈ b.moves, m.1 < rows.length)
    (hstay : List.Forall₂ (fun r p => r.1 ∉ b.reloads → r.2 = f p.2) stay (rest b.arrives k as)) :
    b.fill cell rows (List.range' k as.length) stay = some (b.outcome rows f k as) := by
  induction as generalizing k stay with
  | nil =>
      cases hstay
      rfl
  | cons a as ih =>
      have hk : cell k = some (f a) := hcell 0 a rfl
      have ih := fun {stay} => @ih (k + 1) stay fun i c hc => by
        have hnext := hcell (i + 1) c (by simpa using hc)
        rwa [Nat.add_assoc, Nat.add_comm 1 i]
      rw [List.length_cons, List.range'_succ, outcome]
      unfold fill
      split
      next hin =>
        have harr : b.arrives k = true := by simp [arrives, hin]
        rw [rest, if_pos harr] at hstay
        simp [hk, ih hstay]
      next hin =>
        cases hfind : b.moves.find? fun m => m.2 = k with
        | some m =>
            have hm := List.mem_of_find?_eq_some hfind
            have hmk : m.2 = k := by simpa using List.find?_some hfind
            have harr : b.arrives k = true := by
              simp only [arrives, decide_eq_true_eq, List.mem_append]
              exact Or.inr (List.mem_map.mpr ⟨m, hm, hmk⟩)
            rw [rest, if_pos harr] at hstay
            simp [ih hstay, List.getElem?_eq_getElem (hmoves m hm)]
        | none =>
            have harr : ¬ b.arrives k = true := by
              simp only [arrives, decide_eq_true_eq, List.mem_append, List.mem_map, not_or]
              refine ⟨hin, ?_⟩
              rintro ⟨m, hm, hmk⟩
              have hne := List.find?_eq_none.mp hfind m hm
              simp [hmk] at hne
            rw [rest, if_neg harr] at hstay
            obtain ⟨⟨i, c⟩, stay, hc, htail, rfl⟩ := List.forall₂_cons_right_iff.mp hstay
            dsimp only
            split
            next => simp [hk, ih htail]
            next hi =>
              have hca : c = f a := hc hi
              simp [ih htail, hca]

/-- Where every row that was moved shows its new object, so do all rows. -/
theorem outcome_eq_map {b : Batch} {rows : List γ} {f : α → γ} {k : Nat} {as : List α}
    (h : ∀ m ∈ b.moves, ∀ i a, as[i]? = some a → m.2 = k + i → m.2 ∉ b.inserts →
      rows[m.1]? = some (f a)) :
    b.outcome rows f k as = as.map f := by
  induction as generalizing k with
  | nil => rfl
  | cons a as ih =>
      have htail : b.outcome rows f (k + 1) as = as.map f := by
        refine ih fun m hm i c hc hi hin => h m hm (i + 1) c (by simpa using hc) (by omega) hin
      rw [outcome, htail, List.map_cons]
      congr 1
      split
      next => rfl
      next hin =>
        cases hfind : b.moves.find? fun m => m.2 = k with
        | none => rfl
        | some m =>
            have hmk : m.2 = k := by simpa using List.find?_some hfind
            have hrow := h m (List.mem_of_find?_eq_some hfind) 0 a rfl hmk (by rwa [hmk])
            simp [hrow]

/-! ## A batch that is a difference of two lists -/

/-- The batch turns the objects `old` into the objects `new`, where `key` tells which
objects are the same: a move is of one object, and the objects that stay are those
that were there before, in their order. -/
structure Turns (key : α → κ) (b : Batch) (old new : List α) : Prop where
  valid : b.Valid old.length new.length
  moved : ∀ m ∈ b.moves, (old[m.1]?).map key = (new[m.2]?).map key
  stays : (rest b.leaves 0 old).map (fun p => key p.2) =
    (rest b.arrives 0 new).map fun p => key p.2

section
variable {key : α → κ} {b : Batch} {old new : List α}

/-- Such a batch accounts for the number of rows. -/
theorem Turns.length_eq (h : b.Turns key old new) :
    old.length + b.inserts.length = new.length + b.deletes.length := by
  have hleaves : ∀ i, b.leaves i = true ↔ i ∈ b.deletes ++ b.moves.map Prod.fst := by
    simp [leaves]
  have harrives : ∀ j, b.arrives j = true ↔ j ∈ b.inserts ++ b.moves.map Prod.snd := by
    simp [arrives]
  have hold := rest_length hleaves h.valid.old_nodup.of_append_left
    fun i hi => h.valid.old_lt i (List.mem_append_left _ hi)
  have hnew := rest_length harrives h.valid.new_nodup h.valid.new_lt
  have hstays := congrArg List.length h.stays
  simp only [List.length_map, List.length_append] at hold hnew hstays
  omega

/-- A batch that moves rows to their own places turns objects into the same objects,
whatever their content. -/
theorem turns_of_keys (hkeys : new.map key = old.map key) (hv : b.Valid old.length new.length)
    (hplace : ∀ i, b.leaves i = b.arrives i) (hmoves : ∀ m ∈ b.moves, m.2 = m.1) :
    b.Turns key old new := by
  have hrest : ∀ (named : Nat → Bool) (as : List α),
      (rest named 0 as).map (fun p => key p.2) = (rest named 0 (as.map key)).map Prod.snd := by
    intro named as
    rw [rest_map, List.map_map]
    rfl
  refine ⟨hv, ?_, ?_⟩
  · intro m hm
    rw [hmoves m hm, ← List.getElem?_map, ← List.getElem?_map, hkeys]
  · rw [hrest, hrest, hkeys, show b.leaves = b.arrives from funext hplace]

theorem rest_append (named : Nat → Bool) (k : Nat) (as bs : List α) :
    rest named k (as ++ bs) = rest named k as ++ rest named (k + as.length) bs := by
  induction as generalizing k with
  | nil => rfl
  | cons a as ih =>
      have hk : k + 1 + as.length = k + (as.length + 1) := by omega
      rw [List.cons_append, rest, rest, ih, List.length_cons, hk]
      split
      next => rfl
      next => rfl

/-- Elements whose indices are not named all stay. -/
theorem rest_of_not_named {named : Nat → Bool} {k : Nat} {as : List α}
    (h : ∀ i < as.length, named (k + i) = false) : (rest named k as).map Prod.snd = as := by
  induction as generalizing k with
  | nil => rfl
  | cons a as ih =>
      have hk : named k = false := h 0 (Nat.succ_pos _)
      have htail : (rest named (k + 1) as).map Prod.snd = as := by
        refine ih fun i hi => ?_
        have hnext := h (i + 1) (Nat.succ_lt_succ hi)
        rwa [Nat.add_assoc, Nat.add_comm 1 i]
      rw [rest, hk, if_neg Bool.false_ne_true, List.map_cons, htail]

/-- One row is inserted at the end. -/
theorem turns_concat (key : α → κ) (old : List α) (a : α) :
    ({ inserts := [old.length] } : Batch).Turns key old (old ++ [a]) := by
  refine ⟨⟨?_, ?_, ?_, ?_⟩, ?_, ?_⟩
  · simp
  · simp
  · simp
  · simp
  · simp
  · have hleaves : ∀ i < old.length,
        ({ inserts := [old.length] } : Batch).leaves (0 + i) = false := by simp [leaves]
    have harrives : ∀ j < old.length,
        ({ inserts := [old.length] } : Batch).arrives (0 + j) = false := by
      intro j hj
      simp [arrives]
      omega
    have hold := congrArg (List.map key) (rest_of_not_named hleaves)
    have hnew := congrArg (List.map key) (rest_of_not_named harrives)
    rw [List.map_map] at hold hnew
    rw [rest_append, List.map_append]
    refine hold.trans (hnew.symm.trans ?_)
    simp [rest, arrives, Function.comp_def]

/-- One row is deleted. -/
theorem turns_eraseIdx (key : α → κ) {old : List α} {i : Nat} (hi : i < old.length) :
    ({ deletes := [i] } : Batch).Turns key old (old.eraseIdx i) := by
  refine ⟨⟨?_, ?_, ?_, ?_⟩, ?_, ?_⟩
  · simp
  · simpa using hi
  · simp
  · simp
  · simp
  · have hsplit : old = old.take i ++ old[i] :: old.drop (i + 1) := by
      rw [← List.drop_eq_getElem_cons hi, List.take_append_drop]
    have hbefore : ∀ j < (old.take i).length,
        ({ deletes := [i] } : Batch).leaves (0 + j) = false := by
      intro j hj
      rw [List.length_take] at hj
      simp [leaves]
      omega
    have hafter : ∀ j < (old.drop (i + 1)).length,
        ({ deletes := [i] } : Batch).leaves (i + 1 + j) = false := by
      intro j hj
      simp [leaves]
      omega
    have harrives : ∀ j < (old.eraseIdx i).length,
        ({ deletes := [i] } : Batch).arrives (0 + j) = false := by simp [arrives]
    have hrest : (rest ({ deletes := [i] } : Batch).leaves 0 old).map Prod.snd =
        old.eraseIdx i := by
      have hlen : (old.take i).length = i := by
        rw [List.length_take]
        omega
      have hat : ({ deletes := [i] } : Batch).leaves (0 + i) = true := by simp [leaves]
      rw [List.eraseIdx_eq_take_drop_succ]
      conv_lhs => rw [hsplit]
      rw [rest_append, List.map_append, rest_of_not_named hbefore, hlen, rest, hat, if_pos rfl,
        Nat.zero_add, rest_of_not_named hafter]
    have hold := congrArg (List.map key) hrest
    have hnew := congrArg (List.map key) (rest_of_not_named harrives)
    rw [List.map_map] at hold hnew
    exact hold.trans hnew.symm

/-- On the rows of the old objects the batch goes through.  It leaves the rows of the
new objects, but for those it moves, when an object that stays and is not reloaded
is shown as before. -/
theorem perform_of_turns {cell : Nat → Option γ} {f : α → γ} (h : b.Turns key old new)
    (hcell : ∀ j a, new[j]? = some a → cell j = some (f a))
    (hsame : ∀ i j a c, old[i]? = some a → new[j]? = some c → key a = key c →
      b.leaves i = false → b.arrives j = false → i ∉ b.reloads → f a = f c) :
    b.perform cell new.length (old.map f) = some (b.outcome (old.map f) f 0 new) := by
  have hpairs : List.Forall₂ (fun r p => r.1 ∉ b.reloads → r.2 = f p.2)
      (rest b.leaves 0 (old.map f)) (rest b.arrives 0 new) := by
    have hkeys := h.stays
    rw [← List.forall₂_eq_eq_eq, List.forall₂_map_left_iff, List.forall₂_map_right_iff,
      List.forall₂_iff_zip] at hkeys
    rw [rest_map, List.forall₂_map_left_iff, List.forall₂_iff_zip]
    refine ⟨hkeys.1, fun {p q} hz hr => ?_⟩
    obtain ⟨i, hi, ha, hl⟩ := mem_rest (List.of_mem_zip hz).1
    obtain ⟨j, hj, hc, hn⟩ := mem_rest (List.of_mem_zip hz).2
    rw [Nat.zero_add] at hi hj
    rw [← hi] at ha
    rw [← hj] at hc
    exact hsame _ _ _ _ ha hc (hkeys.2 hz) hl hn hr
  rw [perform, if_pos ⟨by simpa using h.valid, by simpa using h.length_eq⟩, List.range_eq_range']
  refine fill_eq ?_ ?_ hpairs
  · intro i a ha
    rw [Nat.zero_add]
    exact hcell i a ha
  · intro m hm
    rw [List.length_map]
    refine h.valid.old_lt m.1 ?_
    simp only [List.mem_append, List.mem_map]
    exact Or.inl (Or.inr ⟨m, hm, rfl⟩)

end

-- the row that is moved is not rendered again
example : ({ deletes := [2], reloads := [1], inserts := [1], moves := [(0, 2)] } : Batch).perform
    (fun j => ["b'", "d'", "a'"][j]?) 3 ["a", "b", "c"] = some ["b'", "d'", "a"] := by decide

end Batch

/-- Every row rendered anew. -/
theorem mapM_range' {α γ : Type} {cell : Nat → Option γ} {f : α → γ} {k : Nat} {as : List α}
    (hcell : ∀ i a, as[i]? = some a → cell (k + i) = some (f a)) :
    (List.range' k as.length).mapM cell = some (as.map f) := by
  induction as generalizing k with
  | nil => rfl
  | cons a as ih =>
      have hk : cell k = some (f a) := hcell 0 a rfl
      have htail : (List.range' (k + 1) as.length).mapM cell = some (as.map f) := by
        refine ih fun i c hc => ?_
        have hnext := hcell (i + 1) c (by simpa using hc)
        rwa [Nat.add_assoc, Nat.add_comm 1 i]
      simp [List.range'_succ, hk, htail]

/-- A function that goes through on every element, and keeps `g` of it, goes through on
the list. -/
theorem mapM_forall {α β γ : Type} {f : α → Option β} {g : α → γ} {g' : β → γ} {P : β → Prop}
    {as : List α} (h : ∀ a ∈ as, ∃ b, f a = some b ∧ P b ∧ g' b = g a) :
    ∃ bs, as.mapM f = some bs ∧ (∀ b ∈ bs, P b) ∧ bs.map g' = as.map g := by
  induction as with
  | nil => exact ⟨[], rfl, fun _ hb => absurd hb List.not_mem_nil, rfl⟩
  | cons a as ih =>
      obtain ⟨b, hb, hP, hg⟩ := h a List.mem_cons_self
      obtain ⟨bs, hbs, hPs, hgs⟩ := ih fun c hc => h c (List.mem_cons_of_mem _ hc)
      refine ⟨b :: bs, by simp [hb, hbs], ?_, by rw [List.map_cons, List.map_cons, hg, hgs]⟩
      intro d hd
      rcases List.mem_cons.mp hd with rfl | hd
      · exact hP
      · exact hPs d hd

end BatchUpdate
