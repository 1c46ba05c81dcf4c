import WaterMyPlants.Session.Logout

/-!
# The cached username

`PlantFirebaseController.shared.username` is one cell for the whole process.  A
reply to `getUsername` fills it, whoever is logged in by then, and an error or a
missing node leaves it.  The reply carries a name that is committed, or one of a
write that still waits for the server.

So the cell holds a name of the user the last reply was asked for where that name
was committed, and the settings screen shows a name of the user in `UserDefaults`
where that is the same user.
-/

namespace WaterMyPlants

open Transition

/-- The last reply that filled the username cache, after one more event: the user
it was asked for, and whether its value was committed when it came. -/
def askedFor (last : Option (Uid × Bool)) (p : Session × Event) : Option (Uid × Bool) :=
  match p.2 with
  | .completed i (.value value) =>
      match p.1.pending[i]? with
      | some (.getUsername uid) => some (uid, decide (p.1.database.Stored uid "username" value))
      | _ => last
  | .launched => none
  | _ => last

/-- The last reply that filled the username cache, `none` where no value has come
in this process. -/
def lastAsked (h : List (Session × Event)) : Option (Uid × Bool) := h.foldl askedFor none

/-- The cache is empty, or holds a name of the user it was asked for where that
name was committed. -/
def Session.NamedFor (s : Session) : Option (Uid × Bool) → Prop
  | none => s.username = ""
  | some (uid, committed) => committed = true → s.database.Stored uid "username" s.username

/-- Whenever the settings screen is opened, the last value of the cache was asked
for the user in `UserDefaults` and was committed when it came. -/
def AskedForUser (h : List (Session × Event)) : Prop :=
  ∀ before d after, h = before ++ (d, Event.settingsShown) :: after →
    ∀ uid committed, lastAsked before = some (uid, committed) →
      d.defaults.uid = some uid ∧ committed = true

/-- Whenever the settings screen is opened, the name it shows is empty or has been
stored for the user in `UserDefaults`. -/
def NamesStored (h : List (Session × Event)) : Prop :=
  ∀ d, (d, Event.settingsShown) ∈ h → ∀ uid, d.defaults.uid = some uid →
    (SettingsViewController.updateViews d).usernameTextField = "" ∨
      d.database.Stored uid "username" (SettingsViewController.updateViews d).usernameTextField

section
variable {s s' : Session} {e : Event}

theorem Request.not_givesUp_value (r : Request) (uid : Uid) (value : String) :
    ¬ r.GivesUp uid (.value value) := by
  intro h
  unfold Request.GivesUp at h
  split at h
  next heq => cases heq
  next heq => cases heq
  next => exact h

/-- A step that keeps the cache keeps whose name it holds. -/
theorem Session.NamedFor.keep {last : Option (Uid × Bool)} (h : s.NamedFor last)
    (hs : Session.step s e = some s') (hu : s'.username = s.username) : s'.NamedFor last := by
  cases last with
  | none => exact hu.trans h
  | some asked =>
      intro hc
      rw [hu]
      exact step_database_mono hs _ (h hc)

theorem step_namedFor {last : Option (Uid × Bool)} (h : s.NamedFor last)
    (hs : Session.step s e = some s') : s'.NamedFor (askedFor last (s, e)) := by
  cases step_effect hs with
  | tap ht hk _ =>
      have hlast : askedFor last (s, e) = last := by
        cases e with
        | completed _ _ => cases ht
        | launched => cases ht
        | _ => rfl
      rw [hlast]
      exact h.keep hs hk.username
  | @done i r reply s' _ _ hv hk _ =>
      have hlast : askedFor last (s, .completed i reply) = last := by
        cases reply with
        | value value => exact absurd rfl (hv value)
        | _ => rfl
      rw [hlast]
      exact h.keep hs hk.username
  | @gaveUp i r reply uid hr hg =>
      have hlast : askedFor last (s, .completed i reply) = last := by
        cases reply with
        | value value => exact absurd hg (r.not_givesUp_value uid value)
        | _ => rfl
      rw [hlast]
      exact h.keep hs rfl
  | named hr _ =>
      simp only [askedFor, hr]
      exact fun hc => of_decide_eq_true hc
  | launched => rfl
  | loaded hk _ _ => exact h.keep hs hk.username
  | loggedOut => exact h.keep hs rfl
  | authenticated _ _ => exact h.keep hs rfl
  | committed _ _ => exact h.keep hs rfl
  | created _ => exact h.keep hs rfl
  | opened _ _ => exact h.keep hs rfl
  | signedOut _ => exact h.keep hs rfl

end

/-- Along every run the cache is empty, or holds a name of the user that the last
reply was asked for where that reply was committed. -/
theorem run_namedFor {accounts : List Account} {database : Database} {s : Session}
    {h : List (Session × Event)} (hr : Run Session.step (.launch accounts database) h s) :
    s.NamedFor (lastAsked h) := by
  refine hr.history_invariant (I := fun h s => s.NamedFor (lastAsked h)) rfl ?_
  intro h s e s' hn hs
  simp only [lastAsked, List.foldl_append, List.foldl_cons, List.foldl_nil]
  exact step_namedFor hn hs

/-- In every run in which the settings screen is opened only on a cache filled for
the user in `UserDefaults`, with a name that was committed, the name shown has been
stored for that user. -/
theorem shown_name_stored {accounts : List Account} {database : Database} {s : Session}
    {h : List (Session × Event)} (hr : Run Session.step (.launch accounts database) h s)
    (ha : AskedForUser h) : NamesStored h := by
  intro d hd uid hu
  obtain ⟨before, after, rfl⟩ := List.append_of_mem hd
  have hn := run_namedFor hr.before
  cases hl : lastAsked before with
  | none =>
      rw [hl] at hn
      exact Or.inl hn
  | some asked =>
      obtain ⟨askedUid, committed⟩ := asked
      obtain ⟨hsame, hcommitted⟩ := ha before d after rfl askedUid committed hl
      rw [hu, Option.some.injEq] at hsame
      rw [hl, ← hsame] at hn
      exact Or.inr (hn hcommitted)

/-! ## A name that was never stored -/

/-- The account of `bob`. -/
def bobAccount : Account := ⟨"b", "bob@mail.com", "hidden"⟩

/-- Both users have a name. -/
def names : Database := [⟨"a", "username", "ada"⟩, ⟨"b", "username", "bob"⟩]

/-- The first launch, with both accounts on the server. -/
abbrev bothLaunch : Session := .launch [adaAccount, bobAccount] names

/-- `ada` logs in, her name arrives, and she opens the settings. -/
def adaRun : List Event :=
  [.loginSignUpButtonTapped (some "Login") (some "ada@mail.com") (some "secret") none,
    .authenticated 0 "a" none, .completed 0 .success, .tableLoaded,
    .completed 0 (.value "ada"), .settingsShown]

/-- She logs out and `bob` logs in.  The reply with his name is an error, and he
opens the settings. -/
def bobRun : List Event :=
  adaRun ++ [.logoutButtonTapped, .completed 0 .success,
    .loginSignUpButtonTapped (some "Login") (some "bob@mail.com") (some "hidden") none,
    .authenticated 0 "b" none, .completed 0 .success, .tableLoaded,
    .completed 0 .failure, .settingsShown]

/-- She saves another name.  The read after the alert is answered from that write,
which the server then refuses, and she opens the settings again. -/
def unstoredRun : List Event :=
  adaRun ++ [.saveChangesButtonTapped (some "countess"), .completed 0 .success,
    .completed 1 .success, .completed 1 (.value "countess"), .completed 0 .failure,
    .alertDismissed, .settingsClosed, .settingsShown]

/-- Where `ada` has opened the settings. -/
def adaSettings : Session := endState Session.step bothLaunch adaRun rfl

theorem adaSettings_run :
    Run Session.step bothLaunch (history Session.step bothLaunch adaRun) adaSettings :=
  endState_run rfl

theorem adaSettings_asked : AskedForUser (history Session.step bothLaunch adaRun) := by
  have hall : ∀ k < 6, ∀ p ∈ (history Session.step bothLaunch adaRun)[k]?,
      p.2 = .settingsShown →
        lastAsked ((history Session.step bothLaunch adaRun).take k) =
          p.1.defaults.uid.map fun uid => (uid, true) := by
    decide
  intro before d after hh uid committed hl
  have hlen : (history Session.step bothLaunch adaRun).length = 6 := rfl
  rw [hh, List.length_append, List.length_cons] at hlen
  have hasked := hall before.length (by omega) (d, .settingsShown) (by simp [hh]) rfl
  rw [hh, List.take_left, hl] at hasked
  obtain ⟨uid', hu, heq⟩ := Option.map_eq_some_iff.mp hasked.symm
  cases heq
  exact ⟨hu, rfl⟩

theorem shown_name_stored_ada : NamesStored (history Session.step bothLaunch adaRun) :=
  shown_name_stored adaSettings_run adaSettings_asked

/-- Where `bob` has. -/
def bobSettings : Session := endState Session.step bothLaunch bobRun rfl

theorem bobSettings_run :
    Run Session.step bothLaunch (history Session.step bothLaunch bobRun) bobSettings :=
  endState_run rfl

/-- `bob` is shown the name of `ada`. -/
theorem other_name_shown :
    ¬ ∀ (accounts : List Account) (database : Database) (s : Session)
      (h : List (Session × Event)), Run Session.step (.launch accounts database) h s →
      NamesStored h := by
  intro hall
  have hstored := hall _ _ _ _ bobSettings_run
  have hshown : ∃ p ∈ history Session.step bothLaunch bobRun,
      p.2 = .settingsShown ∧ p.1.defaults.uid = some "b" ∧ p.1.username = "ada" ∧
        ¬ p.1.database.Stored "b" "username" "ada" := by decide
  obtain ⟨⟨d, e⟩, hp, he, hu, hn, hst⟩ := hshown
  dsimp only at he hu hn hst
  subst he
  rcases hstored d hp "b" hu with hempty | hb
  · change d.username = "" at hempty
    rw [hn] at hempty
    exact absurd hempty (by decide)
  · change d.database.Stored "b" "username" d.username at hb
    rw [hn] at hb
    exact hst hb

/-- `ada` is shown a name of hers that the server has refused. -/
example : ∃ p ∈ history Session.step bothLaunch unstoredRun,
    p.2 = .settingsShown ∧ p.1.defaults.uid = some "a" ∧ p.1.username = "countess" ∧
      ¬ p.1.database.Stored "a" "username" "countess" := by decide

end WaterMyPlants
