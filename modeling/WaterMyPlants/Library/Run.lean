import Mathlib.Data.List.Basic

/-!
# Runs of a machine

A *machine* takes a state and an event to the next state, or refuses the event.
A *run* is a finite sequence of events it accepts.  The run keeps its history:
every event with the state it was taken in, oldest first.  Conditions on the
steps of a run are therefore conditions on its history (`Meets`), and the
states a run passes through are read off the history too (`visited`).

`Run.invariant` is the induction every safety result goes through.
`Run.invariant_of_meets` is the same for the runs whose steps all meet a
condition, and `Run.history_invariant` is for properties that relate a state to
what happened before it.  `Run.simulates` transfers a run of the machine to a
fold of an abstract step over the observed events, the unobserved ones being
stutters of the abstract state.  `Run.project` does so onto the runs of another
machine, and `Run.since_last` says of a part of the state that it is what the
last step of a kind left.  `foldl_last` is the same for a record that is filled in.
-/

namespace Transition

/-- The next state, or `none` where the event is not accepted. -/
abbrev Machine (σ ε : Type*) := σ → ε → Option σ

/-- `Run step s₀ h s`: from `s₀` the machine reaches `s`, with history `h`. -/
inductive Run {σ ε : Type*} (step : Machine σ ε) (s₀ : σ) : List (σ × ε) → σ → Prop where
  | refl : Run step s₀ [] s₀
  | tail {h : List (σ × ε)} {s s' : σ} {e : ε} :
      Run step s₀ h s → step s e = some s' → Run step s₀ (h ++ [(s, e)]) s'

/-- Every step of a history meets the condition. -/
def Meets {σ ε : Type*} (cond : σ → ε → Prop) (h : List (σ × ε)) : Prop :=
  ∀ p ∈ h, cond p.1 p.2

/-- The states of a run that ends in `s`, the last one included. -/
def visited {σ ε : Type*} (h : List (σ × ε)) (s : σ) : List σ := h.map Prod.fst ++ [s]

section
variable {σ ε : Type*} {step : Machine σ ε} {cond : σ → ε → Prop}

@[simp] theorem meets_append {h h' : List (σ × ε)} :
    Meets cond (h ++ h') ↔ Meets cond h ∧ Meets cond h' := by
  simp only [Meets, List.mem_append]
  constructor
  · intro hm
    exact ⟨fun p hp => hm p (Or.inl hp), fun p hp => hm p (Or.inr hp)⟩
  · intro hm p hp
    rcases hp with hp | hp
    · exact hm.1 p hp
    · exact hm.2 p hp

@[simp] theorem meets_singleton {s : σ} {e : ε} : Meets cond [(s, e)] ↔ cond s e := by
  simp [Meets]

theorem mem_visited {h : List (σ × ε)} {s t : σ} :
    t ∈ visited h s ↔ (∃ e, (t, e) ∈ h) ∨ t = s := by
  simp [visited]

/-! ## Invariants -/

/-- What holds at the start and survives every step holds at the end. -/
theorem Run.invariant {I : σ → Prop} {s₀ s : σ} {h : List (σ × ε)}
    (hr : Run step s₀ h s) (h₀ : I s₀)
    (hstep : ∀ s e s', I s → step s e = some s' → I s') : I s := by
  induction hr with
  | refl => exact h₀
  | tail _ hs ih => exact hstep _ _ _ ih hs

/-- The same for a run whose steps meet a condition, which each step may use. -/
theorem Run.invariant_of_meets {I : σ → Prop} {s₀ s : σ} {h : List (σ × ε)}
    (hr : Run step s₀ h s) (hm : Meets cond h) (h₀ : I s₀)
    (hstep : ∀ s e s', I s → cond s e → step s e = some s' → I s') : I s := by
  induction hr with
  | refl => exact h₀
  | tail _ hs ih =>
      rw [meets_append, meets_singleton] at hm
      exact hstep _ _ _ (ih hm.1) hm.2 hs

/-- The same for a property of the state and the history that led to it. -/
theorem Run.history_invariant {I : List (σ × ε) → σ → Prop} {s₀ s : σ} {h : List (σ × ε)}
    (hr : Run step s₀ h s) (h₀ : I [] s₀)
    (hstep : ∀ h s e s', I h s → step s e = some s' → I (h ++ [(s, e)]) s') : I h s := by
  induction hr with
  | refl => exact h₀
  | tail _ hs ih => exact hstep _ _ _ _ ih hs

/-- An invariant of the steps a run takes holds in every state it visits. -/
theorem Run.visited_invariant {I : σ → Prop} {s₀ s : σ} {h : List (σ × ε)}
    (hr : Run step s₀ h s) (hm : Meets cond h) (h₀ : I s₀)
    (hstep : ∀ s e s', I s → cond s e → step s e = some s' → I s') :
    ∀ t ∈ visited h s, I t := by
  induction hr with
  | refl =>
      intro t ht
      obtain ⟨e, he⟩ | rfl := mem_visited.mp ht
      · cases he
      · exact h₀
  | @tail h s s' e hr hs ih =>
      rw [meets_append, meets_singleton] at hm
      have hi : I s := hr.invariant_of_meets hm.1 h₀ hstep
      intro t ht
      obtain ⟨e', he⟩ | rfl := mem_visited.mp ht
      · rw [List.mem_append, List.mem_singleton] at he
        obtain he | he := he
        · exact ih hm.1 t (mem_visited.mpr (Or.inl ⟨e', he⟩))
        · cases he
          exact hi
      · exact hstep _ _ _ hi hm.2 hs

/-! ## Parts of a run -/

/-- Every event of the history was accepted where the history says, and the
state it led to is visited too. -/
theorem Run.step_of_mem {s₀ s t : σ} {e : ε} {h : List (σ × ε)}
    (hr : Run step s₀ h s) (hp : (t, e) ∈ h) : ∃ t', step t e = some t' ∧ t' ∈ visited h s := by
  induction hr with
  | refl => cases hp
  | @tail h s s' e' _ hs ih =>
      rw [List.mem_append, List.mem_singleton] at hp
      obtain hp | hp := hp
      · obtain ⟨t', ht', hv⟩ := ih hp
        refine ⟨t', ht', mem_visited.mpr (Or.inl ?_)⟩
        obtain ⟨e'', he''⟩ | rfl := mem_visited.mp hv
        · exact ⟨e'', List.mem_append_left _ he''⟩
        · exact ⟨e', List.mem_append_right _ (List.mem_singleton.mpr rfl)⟩
      · cases hp
        exact ⟨s', hs, mem_visited.mpr (Or.inr rfl)⟩

/-- A run up to any step of its history is a run. -/
theorem Run.before {s₀ s t : σ} {e : ε} {h h' : List (σ × ε)}
    (hr : Run step s₀ (h ++ (t, e) :: h') s) : Run step s₀ h t := by
  generalize hg : h ++ (t, e) :: h' = g at hr
  induction hr generalizing h' with
  | refl => simp at hg
  | @tail g s s' e' hr hs ih =>
      rcases List.eq_nil_or_concat h' with rfl | ⟨h'', q, rfl⟩
      · obtain ⟨rfl, hq⟩ := List.append_inj' hg rfl
        cases hq
        exact hr
      · rw [List.concat_eq_append, ← List.cons_append, ← List.append_assoc] at hg
        exact ih (List.append_inj' hg rfl).1

theorem Run.trans {s₀ s t : σ} {h h' : List (σ × ε)}
    (hr : Run step s₀ h s) (hr' : Run step s h' t) : Run step s₀ (h ++ h') t := by
  induction hr' with
  | refl => rwa [List.append_nil]
  | tail _ hs ih =>
      rw [← List.append_assoc]
      exact ih.tail hs

/-! ## Executing a list of events -/

/-- The state after a list of events, `none` where one of them is refused. -/
def exec (step : Machine σ ε) : σ → List ε → Option σ
  | s, [] => some s
  | s, e :: es => (step s e).bind fun s' => exec step s' es

/-- The history of a list of events, up to the first one refused. -/
def history (step : Machine σ ε) : σ → List ε → List (σ × ε)
  | _, [] => []
  | s, e :: es =>
      match step s e with
      | none => []
      | some s' => (s, e) :: history step s' es

/-- A run from the second state of a step is a run from the first. -/
theorem Run.cons {s₀ s s' : σ} {e : ε} {h : List (σ × ε)}
    (hs : step s₀ e = some s) (hr : Run step s h s') : Run step s₀ ((s₀, e) :: h) s' :=
  (Run.tail .refl hs : Run step s₀ ([] ++ [(s₀, e)]) s).trans hr

theorem exec_run : ∀ (es : List ε) {s s' : σ}, exec step s es = some s' →
    Run step s (history step s es) s'
  | [], s, s', hx => by
      rw [exec, Option.some.injEq] at hx
      subst hx
      exact .refl
  | e :: es, s, s', hx => by
      rw [exec, Option.bind_eq_some_iff] at hx
      obtain ⟨t, ht, hx⟩ := hx
      rw [history, ht]
      exact (exec_run es hx).cons ht

/-- The state a list of events ends in, all of them accepted. -/
def endState (step : Machine σ ε) (s : σ) (es : List ε) (h : (exec step s es).isSome = true) : σ :=
  (exec step s es).get h

theorem endState_run {s : σ} {es : List ε} (h : (exec step s es).isSome = true) :
    Run step s (history step s es) (endState step s es h) :=
  exec_run es (Option.some_get h).symm

/-- A list of events that is accepted is the events of its history. -/
theorem history_map_snd : ∀ (es : List ε) {s s' : σ}, exec step s es = some s' →
    (history step s es).map Prod.snd = es
  | [], _, _, _ => rfl
  | e :: es, s, s', hx => by
      rw [exec, Option.bind_eq_some_iff] at hx
      obtain ⟨t, ht, hx⟩ := hx
      rw [history, ht, List.map_cons, history_map_snd es hx]

/-! ## Simulation -/

/-- A forward simulation onto an abstract step.  An event observed as `d` moves
the abstract state by `d`, and one that is not observed leaves it alone. -/
theorem Run.simulates {τ δ : Type*} {abs : τ → δ → τ} {obs : ε → Option δ} {R : σ → τ → Prop}
    {s₀ s : σ} {t₀ : τ} {h : List (σ × ε)} (hr : Run step s₀ h s) (hm : Meets cond h)
    (h₀ : R s₀ t₀)
    (hmove : ∀ s t e s' d, R s t → cond s e → step s e = some s' → obs e = some d →
      R s' (abs t d))
    (hstay : ∀ s t e s', R s t → cond s e → step s e = some s' → obs e = none → R s' t) :
    R s (((h.map Prod.snd).filterMap obs).foldl abs t₀) := by
  induction hr with
  | refl => exact h₀
  | @tail h s s' e _ hs ih =>
      rw [meets_append, meets_singleton] at hm
      have ih := ih hm.1
      rw [List.map_append, List.filterMap_append, List.foldl_append]
      cases ho : obs e with
      | none => simpa [ho] using hstay _ _ _ _ ih hm.2 hs ho
      | some d => simpa [ho] using hmove _ _ _ _ _ ih hm.2 hs ho

/-! ## Projection -/

/-- The history seen through `f`: every observed event, with what its state looks
like. -/
def project {τ δ : Type*} (f : σ → τ) (obs : σ → ε → Option δ) (h : List (σ × ε)) :
    List (τ × δ) :=
  h.filterMap fun p => (obs p.1 p.2).map fun d => (f p.1, d)

theorem project_append {τ δ : Type*} (f : σ → τ) (obs : σ → ε → Option δ)
    (h : List (σ × ε)) (s : σ) (e : ε) :
    project f obs (h ++ [(s, e)]) =
      project f obs h ++ ((obs s e).map fun d => (f s, d)).toList := by
  rw [project, project, List.filterMap_append]
  cases ho : obs s e with
  | none => simp [ho]
  | some d => simp [ho]

/-- A run of one machine is a run of another seen through `f`, if what a step is
observed as is a step there and an unobserved step changes nothing there.  An
invariant of the first machine may be used. -/
theorem Run.project {τ δ : Type*} {step' : Machine τ δ} {f : σ → τ} {obs : σ → ε → Option δ}
    {I : σ → Prop} {s₀ s : σ} {h : List (σ × ε)} (hr : Run step s₀ h s) (h₀ : I s₀)
    (hstep : ∀ s e s', I s → step s e = some s' → I s')
    (hmove : ∀ s e s' d, I s → step s e = some s' → obs s e = some d →
      step' (f s) d = some (f s'))
    (hstay : ∀ s e s', I s → step s e = some s' → obs s e = none → f s' = f s) :
    Run step' (f s₀) (Transition.project f obs h) (f s) := by
  induction hr with
  | refl => exact .refl
  | @tail h s s' e hr hs ih =>
      have hi : I s := hr.invariant h₀ hstep
      rw [project_append]
      cases ho : obs s e with
      | none =>
          rw [hstay s e s' hi hs ho]
          simpa using ih
      | some d => exact ih.tail (hmove s e s' d hi hs ho)

/-! ## The last step of a kind -/

/-- What every step but those in `P` leaves alone is as it was at the start, or as
the last step in `P` left it. -/
theorem Run.since_last {τ : Type*} {f : σ → τ} {P : σ → ε → Prop} {s₀ s : σ} {h : List (σ × ε)}
    (hr : Run step s₀ h s) (hf : ∀ s e s', ¬ P s e → step s e = some s' → f s' = f s) :
    (Meets (fun s e => ¬ P s e) h ∧ f s = f s₀) ∨
      ∃ before d e after d', h = before ++ (d, e) :: after ∧ step d e = some d' ∧ P d e ∧
        Meets (fun s e => ¬ P s e) after ∧ f s = f d' := by
  induction hr with
  | refl => exact Or.inl ⟨fun _ hp => absurd hp List.not_mem_nil, rfl⟩
  | @tail h s s' e hr hs ih =>
      by_cases hP : P s e
      · exact Or.inr ⟨h, s, e, [], s', rfl, hs, hP, fun _ hp => absurd hp List.not_mem_nil, rfl⟩
      have hsame := hf s e s' hP hs
      obtain ⟨hm, h₀⟩ | ⟨before, d, e', after, d', rfl, hs', hP', hm, hd⟩ := ih
      · exact Or.inl ⟨meets_append.mpr ⟨hm, meets_singleton.mpr hP⟩, hsame.trans h₀⟩
      · refine Or.inr ⟨before, d, e', after ++ [(s, e)], d', ?_, hs', hP', ?_, hsame.trans hd⟩
        · rw [List.append_assoc, List.cons_append]
        · exact meets_append.mpr ⟨hm, meets_singleton.mpr hP⟩

/-! ## The last entry of a kind -/

/-- What every entry sets or leaves alone is, after a list of entries, what the last
entry that sets it set it to. -/
theorem foldl_last {τ : Type*} {enter : σ → ε → σ} {f : σ → Option τ} {g : ε → Option τ}
    (h : ∀ s e, f (enter s e) = (g e).or (f s)) (s : σ) (es : List ε) :
    f (es.foldl enter s) = (es.filterMap g).getLast?.or (f s) := by
  induction es generalizing s with
  | nil => rfl
  | cons e es ih =>
      rw [List.foldl_cons, ih, h, List.filterMap_cons]
      cases he : g e with
      | none => rfl
      | some b =>
          dsimp only
          rw [List.getLast?_cons]
          cases (es.filterMap g).getLast? with
          | none => rfl
          | some _ => rfl

end

end Transition
