import Mathlib.Data.List.Perm.Basic
import Mathlib.Tactic.MkIffOfInductiveProp
import WaterMyPlants.Session.Logout

/-!
# The success alert

A tap on Save puts an operation on the main queue.  The operation issues a write
when somebody is signed in, and it starts a timer of three seconds whether or not
it issued one.  The timer shows the alert and asks nothing of the write.

So the alert of a tap comes after its write has gone through exactly when the
write was issued, was not refused and was quicker than the timer.

`SaveEffect` says once what an event can do to the requests of taps on Save.
`Books` is the invariant: what a tap has issued is pending or has been answered,
as long as its timer is.
-/

namespace WaterMyPlants

open Transition

/-! ## The requests of a tap on Save -/

/-- The tap on Save a request comes from. -/
def Request.saveTap : Request → Option Nat
  | .firebaseOp tap _ _ => some tap
  | .updateUsername tap _ _ => some tap
  | .usernameUpdated tap => some tap
  | .successTimer tap _ => some tap
  | _ => none

/-- The operation of the tap. -/
@[simp] def Request.isOp (tap : Nat) : Request → Bool
  | .firebaseOp tap' _ _ => tap' = tap
  | _ => false

/-- The write of the tap, committed or not. -/
@[simp] def Request.isWrite (tap : Nat) : Request → Bool
  | .updateUsername tap' _ _ => tap' = tap
  | .usernameUpdated tap' => tap' = tap
  | _ => false

/-- The timer of the tap. -/
@[simp] def Request.isTimer (tap : Nat) : Request → Bool
  | .successTimer tap' _ => tap' = tap
  | _ => false

/-- The step is the completion of a request in `P`. -/
def Completes (P : Request → Bool) (reply : Reply) (p : Session × Event) : Bool :=
  match p.2 with
  | .completed i reply' => reply' = reply ∧ (p.1.pending[i]?).any P
  | _ => false

/-- The step runs the operation of the tap while somebody is signed in. -/
def Issues (tap : Nat) (p : Session × Event) : Bool :=
  Completes (Request.isOp tap) .success p && p.1.currentUser.isSome

/-- The step shows the success alert for the timer of the tap. -/
def Reports (tap : Nat) (d : Session) (e : Event) : Prop :=
  ∃ i reply view d', e = .completed i reply ∧ d.pending[i]? = some (.successTimer tap view) ∧
    Session.step d e = some d' ∧ d'.screens = .alert "Success" "Updated Profile" :: d.screens

/-- Whenever the success alert of a tap is shown, the write of that tap has completed
without error. -/
def ReportsStored (h : List (Session × Event)) : Prop :=
  ∀ before d e after tap, h = before ++ (d, e) :: after → Reports tap d e →
    ∃ p ∈ before, Completes (Request.isWrite tap) .success p = true

/-- Whenever the timer of a tap fires over a settings screen that nothing covers,
somebody was signed in when the operation of the tap ran, and the write of the tap
has not been refused and is not pending. -/
def TimersOutlast (h : List (Session × Event)) : Prop :=
  ∀ before d i after tap view, h = before ++ (d, Event.completed i .success) :: after →
    d.pending[i]? = some (.successTimer tap view) →
    SettingsViewController.Uncovered view d = true →
    (∃ p ∈ before, Issues tap p = true) ∧
      (∀ p ∈ before, Completes (Request.isWrite tap) .failure p = false) ∧
      ∀ r ∈ d.pending, r.isWrite tap = false

/-! ## Counting pending requests -/

section
variable {P : Request → Bool} {s : Session} {i : Nat} {r r' : Request}

/-- The number of pending requests in `P`. -/
def Session.count (P : Request → Bool) (s : Session) : Nat := s.pending.countP P

@[simp] theorem Session.count_request :
    (s.request r).count P = s.count P + if P r then 1 else 0 := by
  simp [Session.count, Session.request, List.countP_cons]

theorem Session.count_drop (hr : s.pending[i]? = some r) :
    ((s.drop i).count P + if P r then 1 else 0) = s.count P := by
  obtain ⟨hi, rfl⟩ := List.getElem?_eq_some_iff.mp hr
  have hperm := (List.getElem_cons_eraseIdx_perm hi).countP_eq P
  rw [List.countP_cons] at hperm
  exact hperm

theorem Session.count_set (hr : s.pending[i]? = some r) (hP : P r' = P r) :
    (s.pending.set i r').countP P = s.count P := by
  obtain ⟨hi, rfl⟩ := List.getElem?_eq_some_iff.mp hr
  rw [(List.set_perm_cons_eraseIdx hi r').countP_eq P, List.countP_cons, hP]
  exact Session.count_drop hr

theorem completes_completed {reply reply' : Reply} (hr : s.pending[i]? = some r) :
    Completes P reply (s, .completed i reply') = (decide (reply' = reply) && P r) := by
  simp [Completes, hr]

end

/-! ## What an event does to the requests of a tap -/

/-- As many requests of the tap are pending, of any kind. -/
structure Session.SameSaves (tap : Nat) (s s' : Session) : Prop where
  taps : s.taps ≤ s'.taps
  count : ∀ P : Request → Bool, (∀ r, P r = true → r.saveTap = some tap) → s'.count P = s.count P

/-- Everything an event can do to the requests of a tap. -/
inductive Session.SaveEffect (tap : Nat) (s : Session) : Event → Session → Prop where
  | other {e : Event} {s' : Session} :
      s.SameSaves tap s' →
      (∀ i reply r, e = .completed i reply → s.pending[i]? = some r → r.saveTap ≠ some tap) →
      SaveEffect tap s e s'
  | tapped {username : Option String} {text : String} {view : Nat} :
      s.taps = tap →
      SaveEffect tap s (.saveChangesButtonTapped username)
        { s.request (.firebaseOp tap view text) with taps := s.taps + 1 }
  | ran {i view : Nat} {username : String} :
      s.pending[i]? = some (.firebaseOp tap view username) →
      SaveEffect tap s (.completed i .success)
        (SettingsViewController.firebaseOp tap view username (s.drop i))
  | committed {i : Nat} {uid : Uid} {username : String} {database : Database} :
      s.pending[i]? = some (.updateUsername tap uid username) →
      SaveEffect tap s (.committed i)
        { s with pending := s.pending.set i (.usernameUpdated tap), database := database }
  | refused {i : Nat} {uid : Uid} {username : String} :
      s.pending[i]? = some (.updateUsername tap uid username) →
      SaveEffect tap s (.completed i .failure) (s.drop i)
  | written {i : Nat} :
      s.pending[i]? = some (.usernameUpdated tap) →
      SaveEffect tap s (.completed i .success) (s.drop i)
  | fired {i view : Nat} :
      s.pending[i]? = some (.successTimer tap view) →
      SaveEffect tap s (.completed i .success) (SettingsViewController.success view (s.drop i))
  | launched {s' : Session} :
      s'.pending = [] → s'.taps = s.taps → SaveEffect tap s .launched s'

section
variable {tap tap' i : Nat} {s s' : Session} {e : Event} {r r' : Request} {reply : Reply}

theorem Request.saveTap_of_ofSession (h : r.ofSession = true) : r.saveTap = none := by
  cases r with
  | firebaseOp _ _ _ => cases h
  | updateUsername _ _ _ => cases h
  | usernameUpdated _ => cases h
  | successTimer _ _ => cases h
  | _ => rfl

/-- Auth serves no request of a tap on Save. -/
theorem Request.authenticate_saveTap {uid : Uid} {email : Option String}
    {accounts accounts' : List Account}
    (h : r.authenticate uid email accounts = some (r', accounts')) :
    r.saveTap = none ∧ r'.saveTap = none := by
  rcases Request.authenticate_cases h with ⟨_, _, _, _, _, rfl, rfl⟩ | ⟨_, _, _, _, rfl, rfl⟩
  · exact ⟨rfl, rfl⟩
  · exact ⟨rfl, rfl⟩

namespace Session.SameSaves

theorem refl (s : Session) : s.SameSaves tap s := ⟨Nat.le_refl _, fun _ _ => rfl⟩

theorem trans {s'' : Session} (h : s.SameSaves tap s') (h' : s'.SameSaves tap s'') :
    s.SameSaves tap s'' :=
  ⟨Nat.le_trans h.taps h'.taps, fun P hP => (h'.count P hP).trans (h.count P hP)⟩

/-- What keeps the requests keeps those of the tap. -/
theorem of_pending (ht : s.taps ≤ s'.taps) (hp : s'.pending = s.pending) :
    s.SameSaves tap s' :=
  ⟨ht, fun P _ => by rw [Session.count, hp, Session.count]⟩

/-- So does a request that is not of the tap. -/
theorem of_request (hr : r.saveTap ≠ some tap) (ht : s.taps ≤ s'.taps)
    (hp : s'.pending = s.pending ++ [r]) : s.SameSaves tap s' := by
  refine ⟨ht, fun P hP => ?_⟩
  have hPr : P r = false := Bool.eq_false_iff.mpr fun h => hr (hP r h)
  simp [Session.count, hp, hPr]

theorem drop (hr : s.pending[i]? = some r) (hn : r.saveTap ≠ some tap) :
    s.SameSaves tap (s.drop i) := by
  refine ⟨Nat.le_refl _, fun P hP => ?_⟩
  have hPr : P r = false := Bool.eq_false_iff.mpr fun h => hn (hP r h)
  have hd := Session.count_drop (P := P) hr
  rw [hPr] at hd
  simpa using hd

/-- A served request is of the same tap as before. -/
theorem set (hr : s.pending[i]? = some r) (hn : r.saveTap ≠ some tap)
    (hn' : r'.saveTap ≠ some tap) (ht : s.taps ≤ s'.taps) (hp : s'.pending = s.pending.set i r') :
    s.SameSaves tap s' := by
  refine ⟨ht, fun P hP => ?_⟩
  have hPr : P r = false := Bool.eq_false_iff.mpr fun h => hn (hP r h)
  have hPr' : P r' = false := Bool.eq_false_iff.mpr fun h => hn' (hP r' h)
  rw [Session.count, hp]
  exact Session.count_set hr (by rw [hPr, hPr'])

end Session.SameSaves

theorem PlantFirebaseController.getUsername_sameSaves (s : Session) :
    s.SameSaves tap (PlantFirebaseController.getUsername s) := by
  simp only [PlantFirebaseController.getUsername]
  cases s.defaults.uid with
  | none => exact .refl s
  | some uid =>
      exact .of_request (r := .getUsername uid) (by simp [Request.saveTap]) (Nat.le_refl _) rfl

/-- An operation of another tap issues requests of that tap. -/
theorem SettingsViewController.firebaseOp_sameSaves {view : Nat} {username : String}
    (hne : tap' ≠ tap) :
    s.SameSaves tap (SettingsViewController.firebaseOp tap' view username s) := by
  have hn : some tap' ≠ some tap := fun h => hne (Option.some.inj h)
  have hwrite : s.SameSaves tap (PlantFirebaseController.updateUsername tap' username s) := by
    simp only [PlantFirebaseController.updateUsername]
    cases s.currentUser with
    | none => exact .refl s
    | some uid =>
        exact .of_request (r := .updateUsername tap' uid username) hn (Nat.le_refl _) rfl
  exact hwrite.trans (.of_request (r := .successTimer tap' view) hn (Nat.le_refl _) rfl)

/-- An event that completes nothing. -/
theorem Session.SaveEffect.of_sameSaves (h : s.SameSaves tap s')
    (he : ∀ i reply, e ≠ .completed i reply) : s.SaveEffect tap e s' :=
  .other h fun i reply _ hx _ => absurd hx (he i reply)

/-- The completion of a request that is not of the tap. -/
theorem Session.SaveEffect.of_drop (hr : s.pending[i]? = some r) (hn : r.saveTap ≠ some tap)
    (h : (s.drop i).SameSaves tap s') : s.SaveEffect tap (.completed i reply) s' := by
  refine .other ((Session.SameSaves.drop hr hn).trans h) fun j _ q hx hq => ?_
  cases hx
  rw [hr, Option.some.injEq] at hq
  rw [← hq]
  exact hn

/-- A completion issues requests of the tap only if it is of the tap. -/
theorem Request.complete_sameSaves (hn : r.saveTap ≠ some tap)
    (h : r.complete s reply = some s') : s.SameSaves tap s' := by
  unfold Request.complete at h
  split at h
  -- a sign-up issues the write of its profile
  case h_2 tap' vc uid email username =>
    cases h
    cases email with
    | none => exact .refl s
    | some email =>
        exact .of_request (r := .updateProfile tap' vc uid username email)
          (by simp [Request.saveTap]) (Nat.le_refl _) rfl
  -- a value that was never stored is refused
  case h_9 =>
    split at h
    next =>
      cases h
      exact .of_pending (Nat.le_refl _) rfl
    next => cases h
  -- the operation and the timer of another tap
  case h_12 tap' view username =>
    cases h
    exact SettingsViewController.firebaseOp_sameSaves fun he => hn (congrArg some he)
  case h_15 =>
    cases h
    exact (PlantFirebaseController.getUsername_sameSaves s).trans (.of_pending (Nat.le_refl _) rfl)
  case h_16 => cases h
  -- the other completions issue nothing
  all_goals
    cases h
    exact .of_pending (Nat.le_refl _) rfl

theorem Request.complete_saves (hr : s.pending[i]? = some r)
    (h : r.complete (s.drop i) reply = some s') : s.SaveEffect tap (.completed i reply) s' := by
  by_cases hn : r.saveTap = some tap
  · cases r with
    | firebaseOp tap' view username =>
        obtain rfl := Option.some.inj hn
        cases reply with
        | success =>
            cases h
            exact .ran hr
        | _ => cases h
    | updateUsername tap' uid username =>
        obtain rfl := Option.some.inj hn
        cases reply with
        | failure =>
            cases h
            exact .refused hr
        | _ => cases h
    | usernameUpdated tap' =>
        obtain rfl := Option.some.inj hn
        cases reply with
        | success =>
            cases h
            exact .written hr
        | _ => cases h
    | successTimer tap' view =>
        obtain rfl := Option.some.inj hn
        cases reply with
        | success =>
            cases h
            exact .fired hr
        | _ => cases h
    | _ => cases hn
  · exact .of_drop hr hn (Request.complete_sameSaves hn h)

theorem step_saves (tap : Nat) (h : Session.step s e = some s') : s.SaveEffect tap e s' := by
  cases e with
  | loginSignUpButtonTapped title email password username =>
      simp only [Session.step] at h
      split at h
      next covered hs =>
        cases h
        refine .of_sameSaves ?_ (by simp)
        obtain ⟨field, hx⟩ | ⟨r, -, hr, hx⟩ | hx :=
          LoginViewController.loginSignUpButtonTapped_cases covered.length title email password
            username s
        · rw [hx]
          exact .of_pending (Nat.le_succ _) rfl
        · rw [hx]
          exact .of_request (by simp [Request.saveTap_of_ofSession hr]) (Nat.le_succ _) rfl
        · rw [hx]
          exact .of_pending (Nat.le_succ _) rfl
      next => cases h
  | alertDismissed =>
      simp only [Session.step] at h
      split at h
      next =>
        cases h
        exact .of_sameSaves (.of_pending (Nat.le_refl _) rfl) (by simp)
      next => cases h
  | tableLoaded =>
      simp only [Session.step] at h
      split at h
      next settings covered hs =>
        cases h
        refine .of_sameSaves (Session.SameSaves.trans ?_
          (PlantFirebaseController.getUsername_sameSaves _)) (by simp)
        exact .of_pending (Nat.le_refl _) rfl
      next => cases h
  | settingsShown =>
      simp only [Session.step] at h
      split at h
      next =>
        cases h
        exact .of_sameSaves (.of_pending (Nat.le_succ _) rfl) (by simp)
      next => cases h
  | settingsClosed =>
      simp only [Session.step] at h
      split at h
      next =>
        cases h
        exact .of_sameSaves (.of_pending (Nat.le_refl _) rfl) (by simp)
      next => cases h
  | saveChangesButtonTapped username =>
      simp only [Session.step] at h
      split at h
      next frc vc covered hs =>
        cases h
        simp only [SettingsViewController.saveChangesButtonTapped]
        cases username with
        | none => exact .of_sameSaves (.of_pending (Nat.le_succ _) rfl) (by simp)
        | some text =>
            dsimp only
            split
            next => exact .of_sameSaves (.of_pending (Nat.le_succ _) rfl) (by simp)
            next =>
              by_cases ht : s.taps = tap
              · rw [ht, ← ht]
                exact .tapped rfl
              · refine .of_sameSaves (.of_request (r := .firebaseOp s.taps vc.view text) ?_
                  (Nat.le_succ _) rfl) (by simp)
                exact fun h => ht (Option.some.inj h)
      next => cases h
  | logoutButtonTapped =>
      simp only [Session.step] at h
      split at h
      next =>
        cases h
        refine .of_sameSaves ?_ (by simp)
        exact .of_request (r := .signOut) (by simp [Request.saveTap]) (Nat.le_succ _) rfl
      next => cases h
  | authenticated i uid email =>
      simp only [Session.step] at h
      split at h
      next => cases h
      next r hr =>
        obtain ⟨⟨r', accounts⟩, hx, rfl⟩ := Option.map_eq_some_iff.mp h
        obtain ⟨hn, hn'⟩ := Request.authenticate_saveTap hx
        exact .of_sameSaves (.set hr (by simp [hn]) (by simp [hn']) (Nat.le_refl _) rfl) (by simp)
  | committed i =>
      simp only [Session.step] at h
      split at h
      next => cases h
      next r hr =>
        obtain ⟨⟨r', database⟩, hx, rfl⟩ := Option.map_eq_some_iff.mp h
        rcases Request.commit_cases hx with
          ⟨_, _, _, _, _, rfl, rfl, -⟩ | ⟨tap', uid, username, rfl, rfl, -⟩
        · exact .of_sameSaves (.set hr (by simp [Request.saveTap]) (by simp [Request.saveTap])
            (Nat.le_refl _) rfl) (by simp)
        · by_cases ht : tap' = tap
          · subst ht
            exact .committed hr
          · have hn : some tap' ≠ some tap := fun h => ht (Option.some.inj h)
            have hn' : (Request.usernameUpdated tap').saveTap ≠ some tap := hn
            exact .of_sameSaves (.set hr hn hn' (Nat.le_refl _) rfl) (by simp)
  | completed i reply =>
      simp only [Session.step] at h
      split at h
      next => cases h
      next r hr => exact Request.complete_saves hr h
  | launched =>
      cases h
      exact .launched rfl rfl

end

/-! ## The books of a tap -/

/-- How often the operation of a tap has run, how often that issued a write, and how
often a write of the tap has been answered. -/
structure Ledger where
  ran : Nat
  issued : Nat
  refused : Nat
  written : Nat

/-- The ledger of a tap after a history. -/
def ledger (tap : Nat) (h : List (Session × Event)) : Ledger where
  ran := h.countP (Completes (Request.isOp tap) .success)
  issued := h.countP (Issues tap)
  refused := h.countP (Completes (Request.isWrite tap) .failure)
  written := h.countP (Completes (Request.isWrite tap) .success)

/-- A tap has one operation, which runs once at most.  No write is answered that was
not issued, and while the timer of the tap is pending none is lost. -/
@[mk_iff]
structure Books (tap : Nat) (l : Ledger) (s : Session) : Prop where
  once : s.count (Request.isOp tap) + l.ran ≤ 1
  fresh : s.taps ≤ tap → s.count (Request.isOp tap) + l.ran = 0
  issued : l.issued ≤ l.ran
  answered : s.count (Request.isWrite tap) + l.refused + l.written ≤ l.issued
  timed : 0 < s.count (Request.isTimer tap) →
    l.ran = 1 ∧ s.count (Request.isWrite tap) + l.refused + l.written = l.issued

section
variable {tap i : Nat} {s s' : Session} {e : Event} {h : List (Session × Event)}

theorem ledger_append : ledger tap (h ++ [(s, e)]) =
    { ran := (ledger tap h).ran + if Completes (Request.isOp tap) .success (s, e) then 1 else 0
      issued := (ledger tap h).issued + if Issues tap (s, e) then 1 else 0
      refused := (ledger tap h).refused +
        if Completes (Request.isWrite tap) .failure (s, e) then 1 else 0
      written := (ledger tap h).written +
        if Completes (Request.isWrite tap) .success (s, e) then 1 else 0 } := by
  simp [ledger, List.countP_cons]

theorem Request.saveTap_of_isOp {r : Request} (hr : r.isOp tap = true) :
    r.saveTap = some tap := by
  cases r with
  | firebaseOp _ _ _ => simpa [Request.isOp, Request.saveTap] using hr
  | _ => cases hr

theorem Request.saveTap_of_isWrite {r : Request} (hr : r.isWrite tap = true) :
    r.saveTap = some tap := by
  cases r with
  | updateUsername _ _ _ => simpa [Request.isWrite, Request.saveTap] using hr
  | usernameUpdated _ => simpa [Request.isWrite, Request.saveTap] using hr
  | _ => cases hr

theorem Request.saveTap_of_isTimer {r : Request} (hr : r.isTimer tap = true) :
    r.saveTap = some tap := by
  cases r with
  | successTimer _ _ => simpa [Request.isTimer, Request.saveTap] using hr
  | _ => cases hr

/-- A step that does nothing to the requests of the tap is not in its ledger. -/
theorem ledger_append_other
    (hn : ∀ i reply r, e = .completed i reply → s.pending[i]? = some r → r.saveTap ≠ some tap) :
    ledger tap (h ++ [(s, e)]) = ledger tap h := by
  have hcomp : ∀ P reply, (∀ r : Request, P r = true → r.saveTap = some tap) →
      Completes P reply (s, e) = false := by
    intro P reply hP
    cases e with
    | completed i reply' =>
        cases hr : s.pending[i]? with
        | none => simp [Completes, hr]
        | some r =>
            have hPr : P r = false :=
              Bool.eq_false_iff.mpr fun h => hn i reply' r rfl hr (hP r h)
            simp [Completes, hr, hPr]
    | _ => rfl
  have hop := hcomp _ .success fun _ => Request.saveTap_of_isOp
  simp [ledger_append, Issues, hop, hcomp _ _ fun _ => Request.saveTap_of_isWrite]

/-- A tap has three kinds of requests. -/
theorem Session.SameSaves.counts (h : s.SameSaves tap s') :
    s'.count (Request.isOp tap) = s.count (Request.isOp tap) ∧
      s'.count (Request.isWrite tap) = s.count (Request.isWrite tap) ∧
      s'.count (Request.isTimer tap) = s.count (Request.isTimer tap) :=
  ⟨h.count _ fun _ => Request.saveTap_of_isOp, h.count _ fun _ => Request.saveTap_of_isWrite,
    h.count _ fun _ => Request.saveTap_of_isTimer⟩

/-- A write that is answered is one write less. -/
theorem Session.counts_drop_write {r : Request} (tap : Nat) (hr : s.pending[i]? = some r)
    (hw : r.isWrite tap = true) :
    (s.drop i).count (Request.isOp tap) = s.count (Request.isOp tap) ∧
      (s.drop i).count (Request.isWrite tap) + 1 = s.count (Request.isWrite tap) ∧
      (s.drop i).count (Request.isTimer tap) = s.count (Request.isTimer tap) := by
  have hop : r.isOp tap = false := by
    cases r with
    | firebaseOp _ _ _ => cases hw
    | _ => rfl
  have htimer : r.isTimer tap = false := by
    cases r with
    | successTimer _ _ => cases hw
    | _ => rfl
  have hops := Session.count_drop (P := Request.isOp tap) hr
  have hwrites := Session.count_drop (P := Request.isWrite tap) hr
  have htimers := Session.count_drop (P := Request.isTimer tap) hr
  rw [hop] at hops
  rw [hw] at hwrites
  rw [htimer] at htimers
  exact ⟨by simpa using hops, by simpa using hwrites, by simpa using htimers⟩

/-- The operation leaves a timer, and a write when somebody is signed in. -/
theorem SettingsViewController.firebaseOp_count (P : Request → Bool) (view : Nat)
    (username : String) (s : Session) :
    (SettingsViewController.firebaseOp tap view username s).count P =
      (s.count P + if s.currentUser.any fun uid => P (.updateUsername tap uid username) then 1
        else 0) + if P (.successTimer tap view) then 1 else 0 := by
  simp only [SettingsViewController.firebaseOp, PlantFirebaseController.updateUsername]
  cases s.currentUser with
  | none => simp
  | some uid => simp

@[simp] theorem SettingsViewController.firebaseOp_taps (tap view : Nat) (username : String)
    (s : Session) : (SettingsViewController.firebaseOp tap view username s).taps = s.taps := by
  simp only [SettingsViewController.firebaseOp, PlantFirebaseController.updateUsername]
  cases s.currentUser with
  | none => rfl
  | some uid => rfl

/-- The timer reads the name back and shows the alert, and asks for nothing else. -/
theorem SettingsViewController.success_sameSaves (tap view : Nat) (s : Session) :
    s.SameSaves tap (SettingsViewController.success view s) :=
  (PlantFirebaseController.getUsername_sameSaves s).trans (.of_pending (Nat.le_refl _) rfl)

/-- The books are kept where nothing is issued, answered or lost. -/
theorem Books.keep {l : Ledger} (hb : Books tap l s) (ht : s.taps ≤ s'.taps)
    (hop : s'.count (Request.isOp tap) = s.count (Request.isOp tap))
    (hwrite : s'.count (Request.isWrite tap) = s.count (Request.isWrite tap))
    (htimer : s'.count (Request.isTimer tap) = s.count (Request.isTimer tap)) :
    Books tap l s' := by
  obtain ⟨honce, hfresh, hissued, hanswered, htimed⟩ := hb
  rw [books_iff]
  omega

theorem step_books (hb : Books tap (ledger tap h) s) (hs : Session.step s e = some s') :
    Books tap (ledger tap (h ++ [(s, e)])) s' := by
  have hkeep := @Books.keep tap s s' (ledger tap h) hb
  obtain ⟨honce, hfresh, hissued, hanswered, htimed⟩ := hb
  have htaps : ∀ i, (s.drop i).taps = s.taps := fun _ => rfl
  cases step_saves tap hs with
  | other hsame hn =>
      obtain ⟨hop, hwrite, htimer⟩ := hsame.counts
      rw [ledger_append_other hn]
      exact hkeep hsame.taps hop hwrite htimer
  | @tapped username text view ht =>
      have hnew := hfresh (Nat.le_of_eq ht)
      have hcount : ∀ P : Request → Bool,
          Session.count P { s.request (.firebaseOp tap view text) with taps := s.taps + 1 } =
            s.count P + if P (.firebaseOp tap view text) then 1 else 0 :=
        fun P => Session.count_request
      rw [ledger_append_other (fun _ _ _ he => by cases he), books_iff]
      simp [hcount]
      omega
  | @ran i view username hr =>
      have hop : (s.drop i).count (Request.isOp tap) + 1 = s.count (Request.isOp tap) := by
        simpa using Session.count_drop (P := Request.isOp tap) hr
      have hwrite : (s.drop i).count (Request.isWrite tap) = s.count (Request.isWrite tap) := by
        simpa using Session.count_drop (P := Request.isWrite tap) hr
      have hcur : (s.drop i).currentUser = s.currentUser := rfl
      rw [books_iff]
      cases hu : s.currentUser with
      | none =>
          simp [ledger_append, Issues, completes_completed hr,
            SettingsViewController.firebaseOp_count, htaps, hcur, hu]
          omega
      | some uid =>
          simp [ledger_append, Issues, completes_completed hr,
            SettingsViewController.firebaseOp_count, htaps, hcur, hu]
          omega
  | @committed i uid username database hr =>
      rw [ledger_append_other fun _ _ _ he => by cases he]
      exact hkeep (Nat.le_refl _) (Session.count_set hr rfl) (Session.count_set hr rfl)
        (Session.count_set hr rfl)
  | @refused i uid username hr =>
      obtain ⟨hop, hwrite, htimer⟩ := Session.counts_drop_write tap hr (by simp)
      rw [books_iff]
      simp [ledger_append, Issues, completes_completed hr, htaps]
      omega
  | @written i hr =>
      obtain ⟨hop, hwrite, htimer⟩ := Session.counts_drop_write tap hr (by simp)
      rw [books_iff]
      simp [ledger_append, Issues, completes_completed hr, htaps]
      omega
  | @fired i view hr =>
      have hsame := SettingsViewController.success_sameSaves tap view (s.drop i)
      obtain ⟨hop', hwrite', htimer'⟩ := hsame.counts
      have ht : s.taps ≤ (SettingsViewController.success view (s.drop i)).taps := hsame.taps
      have hop : (s.drop i).count (Request.isOp tap) = s.count (Request.isOp tap) := by
        simpa using Session.count_drop (P := Request.isOp tap) hr
      have hwrite : (s.drop i).count (Request.isWrite tap) = s.count (Request.isWrite tap) := by
        simpa using Session.count_drop (P := Request.isWrite tap) hr
      have htimer : (s.drop i).count (Request.isTimer tap) + 1 =
          s.count (Request.isTimer tap) := by
        simpa using Session.count_drop (P := Request.isTimer tap) hr
      rw [books_iff]
      simp [ledger_append, Issues, completes_completed hr, hop', hwrite', htimer']
      omega
  | @launched s' hp ht =>
      -- the requests of the process are gone, and its timers with them
      have hcount : ∀ P : Request → Bool, s'.count P = 0 := by simp [Session.count, hp]
      rw [ledger_append_other (fun _ _ _ he => by cases he), books_iff]
      simp [hcount, ht]
      omega

theorem run_books {accounts : List Account} {database : Database}
    (hr : Run Session.step (.launch accounts database) h s) (tap : Nat) :
    Books tap (ledger tap h) s := by
  refine hr.history_invariant (I := fun h s => Books tap (ledger tap h) s) ?_ ?_
  · rw [books_iff]
    simp [ledger, Session.count, Session.launch]
  · intro h s e s' hb hs
    exact step_books hb hs

/-- While the timer of a tap is pending, its write has gone through exactly when it
was issued, was not refused and is not pending. -/
theorem Books.written_iff (hb : Books tap (ledger tap h) s)
    (ht : 0 < s.count (Request.isTimer tap)) :
    (∃ p ∈ h, Completes (Request.isWrite tap) .success p = true) ↔
      (∃ p ∈ h, Issues tap p = true) ∧
        (∀ p ∈ h, Completes (Request.isWrite tap) .failure p = false) ∧
        ∀ r ∈ s.pending, r.isWrite tap = false := by
  have hwritten := List.countP_pos_iff (p := Completes (Request.isWrite tap) .success) (l := h)
  have hissued := List.countP_pos_iff (p := Issues tap) (l := h)
  have hrefused := List.countP_eq_zero (p := Completes (Request.isWrite tap) .failure) (l := h)
  have hpending := List.countP_eq_zero (p := Request.isWrite tap) (l := s.pending)
  simp only [Bool.not_eq_true] at hrefused hpending
  rw [← hwritten, ← hissued, ← hrefused, ← hpending]
  obtain ⟨hran, hsum⟩ := hb.timed ht
  have hle := hb.issued
  simp only [ledger, Session.count] at hran hsum hle
  omega

end

/-! ## The alert and the write -/

section
variable {tap i view : Nat} {d s : Session} {e : Event} {h : List (Session × Event)}

theorem SettingsViewController.uncovered_congr (view : Nat) {s s' : Session}
    (h : s'.screens = s.screens) :
    SettingsViewController.Uncovered view s' = SettingsViewController.Uncovered view s := by
  rw [SettingsViewController.Uncovered, h, SettingsViewController.Uncovered]

/-- The timer shows the alert exactly when nothing covers its settings screen. -/
theorem SettingsViewController.success_screens (view : Nat) (s : Session) :
    (SettingsViewController.success view s).screens =
        .alert "Success" "Updated Profile" :: s.screens ↔
      SettingsViewController.Uncovered view s = true := by
  simp only [SettingsViewController.success]
  rw [SettingsViewController.uncovered_congr view (PlantFirebaseController.getUsername_screens s),
    PlantFirebaseController.getUsername_screens]
  constructor
  · intro h
    split at h
    next hu => exact hu
    next => exact absurd h.symm (List.cons_ne_self _ _)
  · intro hu
    rw [if_pos hu]

theorem reports_iff : Reports tap d e ↔ ∃ i view, e = .completed i .success ∧
    d.pending[i]? = some (.successTimer tap view) ∧
    SettingsViewController.Uncovered view d = true := by
  have hdrop : ∀ i view, SettingsViewController.Uncovered view (d.drop i) =
      SettingsViewController.Uncovered view d :=
    fun i view => SettingsViewController.uncovered_congr view rfl
  constructor
  · intro hrep
    obtain ⟨i, reply, view, d', rfl, hp, hs, hscreens⟩ := hrep
    simp only [Session.step, hp] at hs
    cases reply with
    | success =>
        cases hs
        refine ⟨i, view, rfl, hp, ?_⟩
        rw [← hdrop i view]
        exact (SettingsViewController.success_screens view (d.drop i)).mp hscreens
    | _ => cases hs
  · intro hfire
    obtain ⟨i, view, rfl, hp, hu⟩ := hfire
    refine ⟨i, .success, view, SettingsViewController.success view (d.drop i), rfl, hp, ?_, ?_⟩
    · simp only [Session.step, hp, Request.complete]
    · rw [← hdrop i view] at hu
      exact (SettingsViewController.success_screens view (d.drop i)).mpr hu

/-- A pending timer is counted. -/
theorem timer_count_pos (hp : d.pending[i]? = some (.successTimer tap view)) :
    0 < d.count (Request.isTimer tap) :=
  List.countP_pos_iff.mpr ⟨_, List.mem_of_getElem? hp, by simp⟩

end

/-- In every run, the success alert of a tap on Save is shown only after the write of
that tap has completed without error, exactly when no timer fires over its settings
screen for a tap whose write was not issued, was refused or is still pending. -/
theorem reports_stored_iff {accounts : List Account} {database : Database} {s : Session}
    {h : List (Session × Event)} (hr : Run Session.step (.launch accounts database) h s) :
    ReportsStored h ↔ TimersOutlast h := by
  constructor
  · rintro hrep before d i after tap view rfl hp hu
    have hshown : Reports tap d (.completed i .success) := reports_iff.mpr ⟨i, view, rfl, hp, hu⟩
    exact ((run_books hr.before tap).written_iff (timer_count_pos hp)).mp
      (hrep before d _ after tap rfl hshown)
  · rintro hout before d e after tap rfl hrep
    obtain ⟨i, view, rfl, hp, hu⟩ := reports_iff.mp hrep
    exact ((run_books hr.before tap).written_iff (timer_count_pos hp)).mpr
      (hout before d i after tap view rfl hp hu)

/-! ## A write that is refused -/

/-- `ada` logs in, opens the settings, types another name and taps Save. -/
def saveRun : List Event :=
  [.loginSignUpButtonTapped (some "Login") (some "ada@mail.com") (some "secret") none,
    .authenticated 0 "a" none, .completed 0 .success, .tableLoaded, .settingsShown,
    .saveChangesButtonTapped (some "countess"), .completed 1 .success]

/-- The write is refused. -/
def refusedRun : List Event := saveRun ++ [.completed 1 .failure]

/-- Where the timer of the refused write is to fire. -/
def refused : Session := endState Session.step adaLaunch refusedRun rfl

theorem refused_run :
    Run Session.step adaLaunch (history Session.step adaLaunch refusedRun) refused :=
  endState_run rfl

/-- Where it has fired. -/
def reported : Session := endState Session.step refused [.completed 1 .success] rfl

theorem reported_run : Run Session.step adaLaunch
    (history Session.step adaLaunch refusedRun ++ [(refused, .completed 1 .success)]) reported :=
  refused_run.tail rfl

/-- The screen reports success for a write that was refused. -/
theorem refused_reported :
    ¬ ∀ (accounts : List Account) (database : Database) (s : Session)
      (h : List (Session × Event)), Run Session.step (.launch accounts database) h s →
      ReportsStored h := by
  intro hall
  have hshown : Reports 2 refused (.completed 1 .success) :=
    reports_iff.mpr ⟨1, 1, rfl, by decide, by decide⟩
  obtain ⟨p, hp, hw⟩ := hall _ _ _ _ reported_run _ refused _ [] 2 rfl hshown
  have hnone : ∀ p ∈ history Session.step adaLaunch refusedRun,
      Completes (Request.isWrite 2) .success p = false := by decide
  rw [hnone p hp] at hw
  cases hw

theorem reports_stored_iff_reported :
    ReportsStored (history Session.step adaLaunch refusedRun ++
        [(refused, .completed 1 .success)]) ↔
      TimersOutlast (history Session.step adaLaunch refusedRun ++
        [(refused, .completed 1 .success)]) :=
  reports_stored_iff reported_run

end WaterMyPlants
