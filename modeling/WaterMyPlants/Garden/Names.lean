import WaterMyPlants.Garden.Step

/-!
# Names of plants

`saveButtonTapped` creates no plant without a nickname or a species.
`updateButtonTapped` checks only that its fields have a text, and an empty text
is one.  So a run keeps every plant named exactly when no update reaches its
plant with an empty text.
-/

namespace WaterMyPlants

open Transition

/-- A text that is there and not empty. -/
def NonEmpty (text : Option String) : Prop := ∃ s, text = some s ∧ s ≠ ""

/-- The rule `saveButtonTapped` checks before it creates a plant. -/
def Plant.Named (p : Plant) : Prop := NonEmpty p.nickname ∧ NonEmpty p.species

/-- Every plant in the context is named. -/
def Context.Named (c : Context) : Prop := ∀ o ∈ c.objects.list, o.2.Named

/-- The tap is an update that reaches its plant with an empty text. -/
def Tap.Blanks (c : Context) (tap : Tap) : Prop :=
  ∃ indexPath vc k p nickname species t, tap.action = .edit indexPath vc ∧
    (c.fetchedObjects tap.user)[indexPath]? = some (k, p) ∧
    vc.nicknameTextField = some nickname ∧ vc.speciesTextField = some species ∧
    p.timestamp = some t ∧ tap.disk.fetches = true ∧ c.withTimestamp t = [(k, p)] ∧
    (nickname = "" ∨ species = "")

theorem nonEmpty_some {s : String} : NonEmpty (some s) ↔ s ≠ "" := by
  constructor
  · intro h
    obtain ⟨s', hs, hne⟩ := h
    cases hs
    exact hne
  · intro hne
    exact ⟨s, rfl, hne⟩

/-- A change that does not blank a plant shows named plants only. -/
theorem Change.named {tap : Tap} {c c' : Context} (hn : c.Named) (hb : ¬ tap.Blanks c)
    (hc : Change (some tap.user) tap.user tap.now tap.disk c tap.action c') : c'.Named := by
  refine hc.forall_objects hn ?_ ?_
  · intro vc nickname species _ hne hse
    exact ⟨nonEmpty_some.mpr hne, nonEmpty_some.mpr hse⟩
  · intro i vc k p nickname species t ha hr hn' hs' ht hf hu
    refine ⟨nonEmpty_some.mpr fun he => hb ?_, nonEmpty_some.mpr fun he => hb ?_⟩
    · exact ⟨i, vc, k, p, nickname, species, t, ha, hr, hn', hs', ht, hf, hu, Or.inl he⟩
    · exact ⟨i, vc, k, p, nickname, species, t, ha, hr, hn', hs', ht, hf, hu, Or.inr he⟩

/-- An update with an empty text leaves a plant without a name. -/
theorem Tap.Blanks.unnamed {tap : Tap} {c c' : Context} (hb : tap.Blanks c)
    (hs : Garden.step c tap = some c') : ¬ c'.Named := by
  obtain ⟨i, vc, k, p, nickname, species, t, ha, hr, hn, hsp, ht, hf, hu, he⟩ := hb
  have hp := (mem_of_row hr).1
  obtain ⟨h, hh, rfl⟩ := step_handle hs
  rw [Tap.handle, ha, Action.handle, hr] at hh
  dsimp only at hh
  rw [EditViewController.updateButtonTapped_eq tap.disk hp ht hn hsp, if_pos ⟨hf, hu⟩] at hh
  cases hh
  intro hnamed
  have hk : (k, vc.edited nickname species tap.now p) ∈
      (Context.save tap.disk (c.modify k (vc.edited nickname species tap.now))).2.objects.list := by
    rw [Context.save, WorkingCopy.save_objects]
    exact WorkingCopy.Rows.mem_modify_self _ hp
  obtain ⟨hnick, hspec⟩ := hnamed _ hk
  cases he with
  | inl he => exact nonEmpty_some.mp hnick he
  | inr he => exact nonEmpty_some.mp hspec he

/-- A run from an empty store shows named plants only, in every context it goes
through, exactly when none of its updates reaches its plant with an empty text. -/
theorem named_iff_no_blanks {h : List (Context × Tap)} {c : Context}
    (hr : Run Garden.step .empty h c) :
    (∀ d ∈ visited h c, d.Named) ↔ Meets (fun d tap => ¬ tap.Blanks d) h := by
  constructor
  · intro hn ⟨d, tap⟩ hp hb
    obtain ⟨d', hs, hv⟩ := hr.step_of_mem hp
    exact hb.unnamed hs (hn d' hv)
  · intro hm d hd
    refine (hr.visited_invariant (I := fun d => d.Named ∧ ∀ o ∈ d.store.list, o.2.Named) hm
      ?_ ?_ d hd).1
    · exact ⟨fun _ ho => absurd ho List.not_mem_nil, fun _ ho => absurd ho List.not_mem_nil⟩
    · rintro d tap d' ⟨hn, hst⟩ hb hs
      obtain ⟨h, hh, rfl⟩ := step_handle hs
      exact handle_forall hh hn hst fun c' hc => hc.named hn hb

/-- One plant is added and updated with an empty nickname. -/
def blankRun : List Tap :=
  [⟨"ada", .add ⟨some "Fern", some "Nephrolepis", none, 0⟩, 1, ⟨true, true⟩⟩,
    ⟨"ada", .edit 0 ⟨some "", some "Nephrolepis", none, 0⟩, 2, ⟨true, true⟩⟩]

/-- The context it ends in. -/
def blanked : Context := endState Garden.step .empty blankRun rfl

theorem blanked_run : Run Garden.step .empty (history Garden.step .empty blankRun) blanked :=
  endState_run rfl

theorem named_iff_no_blanks_blankRun :
    (∀ d ∈ visited (history Garden.step .empty blankRun) blanked, d.Named) ↔
      Meets (fun d tap => ¬ tap.Blanks d) (history Garden.step .empty blankRun) :=
  named_iff_no_blanks blanked_run

/-- A run from an empty store shows a plant with an empty nickname. -/
theorem blank_nickname_reached :
    ¬ ∀ h c, Run Garden.step .empty h c → ∀ d ∈ visited h c, d.Named := by
  intro hall
  have hnamed := hall _ _ blanked_run blanked (mem_visited.mpr (Or.inr rfl))
  have hblank : ∃ o ∈ blanked.objects.list, o.2.nickname = some "" := by decide
  obtain ⟨o, ho, hb⟩ := hblank
  obtain ⟨s, hs, hne⟩ := (hnamed o ho).1
  rw [hb, Option.some.injEq] at hs
  exact hne hs.symm

end WaterMyPlants
