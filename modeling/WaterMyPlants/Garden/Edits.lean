import WaterMyPlants.Garden.WellFormed

/-!
# Edits

`updatePlant` searches for the timestamp of the plant it is handed and acts only
when one row has it.  So an edit reaches its plant exactly when no other live
plant has that timestamp.  Both adds and edits stamp a plant with the wall
clock, and nothing keeps two readings apart.

Whether or not it reaches its plant, an edit touches no other.  The row found by
the timestamp is the plant of the screen, because that plant is among the
matches and there is one match.
-/

namespace WaterMyPlants

open Transition

/-- Object `k` has the values an edit of `p` gives it: the texts, the segment, the
clock reading, and the new image where there is one. -/
def EditViewController.Applied (vc : EditViewController) (nickname species : String) (now : Date)
    (p : Plant) (k : Nat) (c : Context) : Prop :=
  ∃ q, (k, q) ∈ c.objects.list ∧ q.nickname = some nickname ∧ q.species = some species ∧
    q.frequency = some vc.segControlString ∧ q.timestamp = some now ∧
    q.image = (vc.newPlantImage.bind UIImage.pngData).or p.image

/-- No other live plant has the timestamp of `p`. -/
def Context.OnlyStamp (c : Context) (k : Nat) (p : Plant) : Prop :=
  ∀ o ∈ c.objects.list, o.2.timestamp = p.timestamp → o.1 = k

/-- The plant already has the values of the edit. -/
def EditViewController.Idle (vc : EditViewController) (nickname species : String) (now : Date)
    (p : Plant) : Prop :=
  vc.edited nickname species now p = p

section
variable {vc : EditViewController} {nickname species : String} {now : Date} {p : Plant} {k : Nat}
  {c : Context}

/-- One row has the timestamp exactly when no other live plant has it. -/
theorem withTimestamp_eq_singleton_iff {t : Date} (hp : (k, p) ∈ c.objects.list)
    (ht : p.timestamp = some t) : c.withTimestamp t = [(k, p)] ↔ c.OnlyStamp k p := by
  have hmem : (k, p) ∈ c.withTimestamp t := mem_withTimestamp.mpr ⟨hp, ht⟩
  constructor
  · intro hu o ho hts
    have ho' := mem_withTimestamp.mpr ⟨ho, hts.trans ht⟩
    rw [hu, List.mem_singleton] at ho'
    rw [ho']
  · intro hu
    have hall : ∀ o ∈ c.withTimestamp t, o = (k, p) := by
      intro o ho
      obtain ⟨j, q⟩ := o
      rw [mem_withTimestamp] at ho
      obtain rfl : j = k := hu _ ho.1 (ho.2.trans ht.symm)
      rw [WorkingCopy.Rows.eq_of_mem ho.1 hp]
    have hnodup := WorkingCopy.Rows.part_nodup (fun p => p.timestamp = some t) c.objects
    change ((c.withTimestamp t).map Prod.fst).Nodup at hnodup
    cases hf : c.withTimestamp t with
    | nil => rw [hf] at hmem; cases hmem
    | cons a rest =>
        cases rest with
        | nil => rw [hall a (by rw [hf]; exact List.mem_cons_self ..)]
        | cons b _ =>
            rw [hf] at hnodup hall
            have ha := hall a (List.mem_cons_self ..)
            have hb := hall b (List.mem_cons_of_mem _ (List.mem_cons_self ..))
            rw [ha, hb] at hnodup
            simp at hnodup

theorem applied_iff_idle (hp : (k, p) ∈ c.objects.list) :
    vc.Applied nickname species now p k c ↔ vc.Idle nickname species now p := by
  constructor
  · intro ha
    obtain ⟨q, hq, hn, hs, hf, ht, hi⟩ := ha
    obtain rfl := WorkingCopy.Rows.eq_of_mem hq hp
    rw [EditViewController.Idle, EditViewController.edited, Plant.edited, ← hn, ← hs, ← hf, ← ht,
      ← hi]
  · intro hidle
    refine ⟨p, hp, ?_⟩
    rw [← hidle]
    refine ⟨rfl, rfl, rfl, rfl, ?_⟩
    show (vc.newPlantImage.bind UIImage.pngData).or p.image =
      (vc.newPlantImage.bind UIImage.pngData).or (vc.edited nickname species now p).image
    rw [hidle]

/-- In every context a run from an empty store reaches, an update goes through and
leaves its plant with the new values exactly when the fetch goes through and no other live
plant has its timestamp, or the plant already has them. -/
theorem update_applied_iff {h : List (Context × Tap)} (disk : Disk)
    (hr : Run Garden.step .empty h c) (hp : (k, p) ∈ c.objects.list)
    (hn : vc.nicknameTextField = some nickname) (hs : vc.speciesTextField = some species) :
    ∃ hd, vc.updateButtonTapped (some p) now disk c = some hd ∧
      (vc.Applied nickname species now p k hd.context ↔
        (disk.fetches = true ∧ c.OnlyStamp k p) ∨ vc.Idle nickname species now p) := by
  obtain ⟨t, ht⟩ := Option.isSome_iff_exists.mp ((Garden.wellFormed hr).1 _ hp).timestamp
  refine ⟨_, EditViewController.updateButtonTapped_eq disk hp ht hn hs, ?_⟩
  rw [← withTimestamp_eq_singleton_iff hp ht]
  split
  next hu =>
    refine ⟨fun _ => Or.inl hu, fun _ => ?_⟩
    refine ⟨vc.edited nickname species now p, ?_, rfl, rfl, rfl, rfl, rfl⟩
    rw [Context.save, WorkingCopy.save_objects]
    exact WorkingCopy.Rows.mem_modify_self _ hp
  next hu =>
    rw [applied_iff_idle hp]
    exact ⟨Or.inr, fun hor => hor.resolve_left hu⟩

end

/-! ## Two plants with one timestamp -/

/-- Two plants are added at one clock reading. -/
def twinRun : List Tap :=
  [⟨"ada", .add ⟨some "Fern", some "Nephrolepis", none, 0⟩, 1, ⟨true, true⟩⟩,
    ⟨"ada", .add ⟨some "Aloe", some "Aloe vera", none, 0⟩, 1, ⟨true, true⟩⟩]

/-- The context it ends in. -/
def twins : Context := endState Garden.step .empty twinRun rfl

theorem twins_run : Run Garden.step .empty (history Garden.step .empty twinRun) twins :=
  endState_run rfl

/-- The first of the two plants. -/
def fern : Plant :=
  ⟨some "Once a day", some "ada", none, some "Fern", some "Nephrolepis", some 1⟩

/-- An edit of its nickname. -/
def renameFern : EditViewController := ⟨some "Boston fern", some "Nephrolepis", none, 0⟩

theorem fern_mem : (0, fern) ∈ twins.objects.list := by decide

theorem renameFern_handled :
    ∃ hd, renameFern.updateButtonTapped (some fern) 2 ⟨true, true⟩ twins = some hd ∧
      hd.context = twins ∧ hd.effects = [.popToRootViewController, .plantUpdated] :=
  ⟨_, rfl, by decide, rfl⟩

/-- The screen closes and posts `plantUpdated`, and the plant is unchanged. -/
theorem rename_lost :
    ∃ hd, Run Garden.step .empty (history Garden.step .empty twinRun) twins ∧
      (0, fern) ∈ twins.objects.list ∧
      renameFern.updateButtonTapped (some fern) 2 ⟨true, true⟩ twins = some hd ∧
      hd.context = twins ∧ hd.effects = [.popToRootViewController, .plantUpdated] ∧
      ¬ renameFern.Applied "Boston fern" "Nephrolepis" 2 fern 0 hd.context := by
  obtain ⟨hd, hh, hc, he⟩ := renameFern_handled
  refine ⟨hd, twins_run, fern_mem, hh, hc, he, ?_⟩
  intro ha
  obtain ⟨q, hq, hn, -⟩ := ha
  rw [hc] at hq
  rw [WorkingCopy.Rows.eq_of_mem hq fern_mem] at hn
  exact absurd hn (by decide)

theorem update_applied_iff_twins :
    ∃ hd, renameFern.updateButtonTapped (some fern) 2 ⟨true, true⟩ twins = some hd ∧
      (renameFern.Applied "Boston fern" "Nephrolepis" 2 fern 0 hd.context ↔
        (true = true ∧ twins.OnlyStamp 0 fern) ∨
          renameFern.Idle "Boston fern" "Nephrolepis" 2 fern) :=
  update_applied_iff ⟨true, true⟩ twins_run fern_mem rfl rfl

/-! ## What an edit leaves alone -/

/-- The plant has what an update sets in any case: the texts, the segment and the
clock reading. -/
def EditViewController.Sets (vc : EditViewController) (now : Date) (q : Plant) : Prop :=
  q.nickname = vc.nicknameTextField ∧ q.species = vc.speciesTextField ∧
    q.frequency = some vc.segControlString ∧ q.timestamp = some now

/-- Two plants agree in what an update sets in any case. -/
def Plant.SameValues (p q : Plant) : Prop :=
  q.nickname = p.nickname ∧ q.species = p.species ∧ q.frequency = p.frequency ∧
    q.timestamp = p.timestamp

/-- Between the contexts `c` and `c'` nothing is edited but object `k`, which was
the plant `p`, and that one as a whole or not at all.  A new image is set together
with the other values. -/
structure EditViewController.EditsOnly (vc : EditViewController) (now : Date) (k : Nat) (p : Plant)
    (c c' : Context) : Prop where
  objects : c'.objects.list.map Prod.fst = c.objects.list.map Prod.fst
  others : ∀ o : Nat × Plant, o.1 ≠ k → (o ∈ c'.objects.list ↔ o ∈ c.objects.list)
  plant : ∃ q, (k, q) ∈ c'.objects.list ∧ q.id = p.id ∧
    (vc.newPlantImage = none → q.image = p.image) ∧
    ((vc.Sets now q ∧ q.image = (vc.newPlantImage.bind UIImage.pngData).or p.image) ∨
      (p.SameValues q ∧ q.image = p.image))

section
variable {vc : EditViewController} {now : Date} {p : Plant} {k : Nat} {c : Context}

/-- Where nothing is done, all of it is left alone. -/
theorem EditViewController.EditsOnly.refl (hp : (k, p) ∈ c.objects.list) :
    vc.EditsOnly now k p c c :=
  ⟨rfl, fun _ _ => Iff.rfl, p, hp, rfl, fun _ => rfl, Or.inr ⟨⟨rfl, rfl, rfl, rfl⟩, rfl⟩⟩

/-- A save keeps what is shown, so what it returns is edited as what it was given. -/
theorem EditViewController.EditsOnly.of_save {nickname species : String} (disk : Disk)
    (hp : (k, p) ∈ c.objects.list) (hn : vc.nicknameTextField = some nickname)
    (hs : vc.speciesTextField = some species) :
    vc.EditsOnly now k p c
      (Context.save disk (c.modify k (vc.edited nickname species now))).2 := by
  have hobj : (Context.save disk (c.modify k (vc.edited nickname species now))).2.objects =
      c.objects.modify k (vc.edited nickname species now) :=
    WorkingCopy.save_objects _ _ _
  refine ⟨?_, ?_, ?_⟩
  · rw [hobj]
    exact WorkingCopy.Rows.modify_keys _ _ _
  · intro o ho
    rw [hobj]
    exact WorkingCopy.Rows.mem_modify_of_ne ho
  · refine ⟨vc.edited nickname species now p, ?_, rfl, ?_,
      Or.inl ⟨⟨hn.symm, hs.symm, rfl, rfl⟩, rfl⟩⟩
    · rw [hobj]
      exact WorkingCopy.Rows.mem_modify_self _ hp
    · intro hi
      simp [EditViewController.edited, Plant.edited, hi]

/-- In every context, an update of a live plant with a timestamp goes through.  It
leaves every other plant alone, and edits its own as a whole or not at all. -/
theorem update_edits_only (disk : Disk) (hp : (k, p) ∈ c.objects.list)
    (ht : p.timestamp.isSome = true) :
    ∃ hd, vc.updateButtonTapped (some p) now disk c = some hd ∧
      vc.EditsOnly now k p c hd.context := by
  obtain ⟨t, ht⟩ := Option.isSome_iff_exists.mp ht
  cases hn : vc.nicknameTextField with
  | none =>
      exact ⟨_, EditViewController.updateButtonTapped_no_text (Or.inl hn), .refl hp⟩
  | some nickname =>
      cases hs : vc.speciesTextField with
      | none =>
          exact ⟨_, EditViewController.updateButtonTapped_no_text (Or.inr hs), .refl hp⟩
      | some species =>
          refine ⟨_, EditViewController.updateButtonTapped_eq disk hp ht hn hs, ?_⟩
          split
          next => exact .of_save disk hp hn hs
          next => exact .refl hp

end

/-- Two plants are added at two clock readings. -/
def neighboursRun : List Tap :=
  [⟨"ada", .add ⟨some "Fern", some "Nephrolepis", none, 0⟩, 1, ⟨true, true⟩⟩,
    ⟨"ada", .add ⟨some "Aloe", some "Aloe vera", none, 0⟩, 2, ⟨true, true⟩⟩]

/-- The context it ends in. -/
def neighbours : Context := endState Garden.step .empty neighboursRun rfl

theorem update_edits_only_neighbours :
    ∃ hd, renameFern.updateButtonTapped (some fern) 3 ⟨true, true⟩ neighbours = some hd ∧
      renameFern.EditsOnly 3 0 fern neighbours hd.context :=
  update_edits_only ⟨true, true⟩ (by decide) rfl

end WaterMyPlants
