import WaterMyPlants.Session.Moves
import WaterMyPlants.Session.Success

/-!
# One tap, one login

The login button stays enabled while a request is in flight, requests overtake each
other, and the app may be killed in between.  Still a tap is answered once.  It has
one request under way at most: a sign-up goes on from the account to the profile,
and a login or an alert or a failed write ends it.

The taps are numbered, so this is the count of what a tap has under way together
with what has come of it, along the history.
-/

namespace WaterMyPlants

open Transition

/-! ## The requests of a tap on the login button -/

/-- The tap on the login button a request comes from. -/
def Request.loginTap : Request → Option Nat
  | .createUser tap _ _ _ _ => some tap
  | .userCreated tap _ _ _ _ => some tap
  | .updateProfile tap _ _ _ _ => some tap
  | .profileUpdated tap _ _ => some tap
  | .signIn tap _ _ _ => some tap
  | .signedIn tap _ _ => some tap
  | _ => none

/-- The request of the tap. -/
def Request.isLogin (tap : Nat) (r : Request) : Bool := r.loginTap = some tap

/-- The request of the tap, before Auth has accepted it. -/
def Request.isAsking (tap : Nat) (r : Request) : Bool := r.isLogin tap && r.accepted.isNone

/-- The answer of the request is not the end of its tap: a user with an email has a
profile to be written. -/
def Request.goesOn : Request → Bool
  | .userCreated _ _ _ (some _) _ => true
  | _ => false

/-- Auth accepts the request of the tap. -/
def Accepts (tap : Nat) (p : Session × Event) : Bool :=
  match p.2 with
  | .authenticated i _ _ => (p.1.pending[i]?).any (Request.isLogin tap)
  | _ => false

/-- The step answers the tap: it logs in, shows an alert or gives up. -/
def Answers (tap : Nat) (p : Session × Event) : Bool :=
  match p.2 with
  | .completed i _ => (p.1.pending[i]?).any fun r => r.isLogin tap && !r.goesOn
  | _ => false

/-- The step logs in for the tap. -/
def Opens (tap : Nat) (p : Session × Event) : Bool :=
  match p.2 with
  | .completed i reply => reply = .success ∧ (p.1.pending[i]?).any fun r => r.opens.any (·.1 = tap)
  | _ => false

/-! ## What an event does to the requests of a tap -/

/-- What an event can do to the requests of a tap on the login button.  `pending` is
what it leaves of all requests. -/
inductive LoginEffect (tap : Nat) (s : Session) (e : Event) (pending : List Request) : Prop where
  | other :
      pending.countP (Request.isLogin tap) = s.pending.countP (Request.isLogin tap) →
      pending.countP (Request.isAsking tap) = s.pending.countP (Request.isAsking tap) →
      Accepts tap (s, e) = false → Answers tap (s, e) = false → LoginEffect tap s e pending
  | tapped :
      s.taps = tap → e.numbered = true →
      pending.countP (Request.isLogin tap) = s.pending.countP (Request.isLogin tap) + 1 →
      pending.countP (Request.isAsking tap) = s.pending.countP (Request.isAsking tap) + 1 →
      Accepts tap (s, e) = false → Answers tap (s, e) = false → LoginEffect tap s e pending
  | accepted :
      pending.countP (Request.isLogin tap) = s.pending.countP (Request.isLogin tap) →
      pending.countP (Request.isAsking tap) + 1 = s.pending.countP (Request.isAsking tap) →
      Accepts tap (s, e) = true → Answers tap (s, e) = false → LoginEffect tap s e pending
  | answered :
      pending.countP (Request.isLogin tap) + 1 = s.pending.countP (Request.isLogin tap) →
      pending.countP (Request.isAsking tap) ≤ s.pending.countP (Request.isAsking tap) →
      Accepts tap (s, e) = false → Answers tap (s, e) = true → LoginEffect tap s e pending
  | launched : pending = [] → e = .launched → LoginEffect tap s e pending

section
variable {tap i : Nat} {s s' : Session} {e : Event} {r r' : Request} {rs : List Request}
  {screens : List Screen} {pending : List Request}

/-- A request of the tap that Auth has not accepted is one of the tap. -/
theorem count_asking_le (l : List Request) :
    l.countP (Request.isAsking tap) ≤ l.countP (Request.isLogin tap) :=
  List.countP_mono_left fun _ _ h => (Bool.and_eq_true_iff.mp h).1

/-- Requests of other kinds do not count. -/
theorem count_append_other {P : Request → Bool} (l : List Request)
    (hP : ∀ r, P r = true → r.isLogin tap = true) (hrs : ∀ r ∈ rs, r.loginTap = none) :
    (l ++ rs).countP P = l.countP P := by
  have hnone : rs.countP P = 0 := by
    rw [List.countP_eq_zero]
    intro r hr hp
    have hlogin := hP r hp
    simp [Request.isLogin, hrs r hr] at hlogin
  rw [List.countP_append, hnone, Nat.add_zero]

theorem isLogin_of_isAsking (r : Request) (h : r.isAsking tap = true) : r.isLogin tap = true :=
  (Bool.and_eq_true_iff.mp h).1

/-- An event that answers and accepts nothing, and issues nothing for a login. -/
theorem LoginEffect.of_append (hrs : ∀ r ∈ rs, r.loginTap = none)
    (ha : Accepts tap (s, e) = false) (hn : Answers tap (s, e) = false) :
    LoginEffect tap s e (s.pending ++ rs) :=
  .other (count_append_other _ (fun _ h => h) hrs)
    (count_append_other _ isLogin_of_isAsking hrs) ha hn

/-- A tap that issues a request for a login. -/
theorem LoginEffect.of_tap (hr : r.loginTap = some s.taps) (hacc : r.accepted = none)
    (he : e.numbered = true) (ha : Accepts tap (s, e) = false) (hn : Answers tap (s, e) = false) :
    LoginEffect tap s e (s.pending ++ [r]) := by
  by_cases ht : s.taps = tap
  · refine .tapped ht he ?_ ?_ ha hn
    · simp [Request.isLogin, hr, ht]
    · simp [Request.isAsking, Request.isLogin, hr, hacc, ht]
  · refine .other ?_ ?_ ha hn
    · simp [Request.isLogin, hr, ht]
    · simp [Request.isAsking, Request.isLogin, hr, ht]

/-- A completion ends the tap of its request, unless that goes on. -/
theorem LoginEffect.of_erase {reply : Reply} (hr : s.pending[i]? = some r)
    (hg : r.goesOn = false) (hrs : ∀ q ∈ rs, q.loginTap = none) :
    LoginEffect tap s (.completed i reply) (s.pending.eraseIdx i ++ rs) := by
  have hlogin := Session.count_drop (P := Request.isLogin tap) hr
  have hasking := Session.count_drop (P := Request.isAsking tap) hr
  have hlogin' := count_append_other (s.drop i).pending (fun _ h => h) hrs
    (P := Request.isLogin tap)
  have hasking' := count_append_other (s.drop i).pending isLogin_of_isAsking hrs
    (P := Request.isAsking tap)
  simp only [Session.count, Session.drop] at hlogin hasking hlogin' hasking'
  cases hl : r.isLogin tap with
  | false =>
      have hask : r.isAsking tap = false := by rw [Request.isAsking, hl, Bool.false_and]
      rw [hl] at hlogin
      rw [hask] at hasking
      refine .other ?_ ?_ rfl ?_
      · rw [hlogin']
        simpa using hlogin
      · rw [hasking']
        simpa using hasking
      · simp [Answers, hr, hl]
  | true =>
      rw [hl] at hlogin
      refine .answered ?_ ?_ rfl ?_
      · rw [hlogin']
        simpa using hlogin
      · rw [hasking', ← hasking]
        exact Nat.le_add_right _ _
      · simp [Answers, hr, hl, hg]

theorem LoginEffect.of_drop {reply : Reply} (hr : s.pending[i]? = some r)
    (hg : r.goesOn = false) : LoginEffect tap s (.completed i reply) (s.pending.eraseIdx i) := by
  have hdrop : LoginEffect tap s (.completed i reply) (s.pending.eraseIdx i ++ []) :=
    .of_erase hr hg fun _ hq => absurd hq List.not_mem_nil
  rwa [List.append_nil] at hdrop

/-- A served request is of the same tap, and Auth accepts it once. -/
theorem LoginEffect.of_authenticate {uid : Uid} {email : Option String}
    {accounts accounts' : List Account} (hr : s.pending[i]? = some r)
    (h : r.authenticate uid email accounts = some (r', accounts')) :
    LoginEffect tap s (.authenticated i uid email) (s.pending.set i r') := by
  obtain ⟨hsame, hnew, hold⟩ : r'.loginTap = r.loginTap ∧ r'.accepted.isNone = false ∧
      r.accepted.isNone = true := by
    rcases Request.authenticate_cases h with ⟨_, _, _, _, _, rfl, rfl⟩ | ⟨_, _, _, _, rfl, rfl⟩
    · exact ⟨rfl, rfl, rfl⟩
    · exact ⟨rfl, rfl, rfl⟩
  have hlogin : r'.isLogin tap = r.isLogin tap := by rw [Request.isLogin, Request.isLogin, hsame]
  have hset := Session.count_set hr hlogin
  obtain ⟨hi, hri⟩ := List.getElem?_eq_some_iff.mp hr
  have hasking := List.countP_set (p := Request.isAsking tap) (a := r') hi
  have hr'ask : r'.isAsking tap = false := by rw [Request.isAsking, hnew, Bool.and_false]
  rw [hri, hr'ask] at hasking
  cases hl : r.isLogin tap with
  | false =>
      have hask : r.isAsking tap = false := by rw [Request.isAsking, hl, Bool.false_and]
      rw [hask] at hasking
      exact .other hset (by simpa using hasking) (by simp [Accepts, hr, hl]) rfl
  | true =>
      have hask : r.isAsking tap = true := by rw [Request.isAsking, hl, hold, Bool.and_self]
      have hpos : 0 < s.pending.countP (Request.isAsking tap) :=
        List.countP_pos_iff.mpr ⟨r, List.mem_of_getElem? hr, hask⟩
      rw [hask] at hasking
      refine .accepted hset ?_ (by simp [Accepts, hr, hl]) rfl
      simp only [if_true, Bool.false_eq_true, if_false] at hasking
      omega

theorem LoginEffect.of_commit {database database' : Database} (hr : s.pending[i]? = some r)
    (h : r.commit database = some (r', database')) :
    LoginEffect tap s (.committed i) (s.pending.set i r') := by
  have hsame : r'.loginTap = r.loginTap ∧ r'.accepted = r.accepted := by
    rcases Request.commit_cases h with ⟨_, _, _, _, _, rfl, rfl, -⟩ | ⟨_, _, _, rfl, rfl, -⟩
    · exact ⟨rfl, rfl⟩
    · exact ⟨rfl, rfl⟩
  have hlogin : r'.isLogin tap = r.isLogin tap := by
    rw [Request.isLogin, Request.isLogin, hsame.1]
  have hasking : r'.isAsking tap = r.isAsking tap := by
    rw [Request.isAsking, Request.isAsking, hlogin, hsame.2]
  exact .other (Session.count_set hr hlogin) (Session.count_set hr hasking) rfl rfl

theorem usernameRequests_loginTap : ∀ r ∈ s.usernameRequests, r.loginTap = none := by
  intro r hr
  obtain ⟨uid, -, rfl⟩ := List.mem_map.mp hr
  rfl

theorem Session.Moves.login_effect (tap : Nat) (h : s.Moves e screens pending) :
    LoginEffect tap s e pending := by
  have hkeep : ∀ {e : Event}, Accepts tap (s, e) = false → Answers tap (s, e) = false →
      LoginEffect tap s e s.pending := .other rfl rfl
  cases h with
  | refused _ => exact hkeep rfl rfl
  | ignored _ _ _ => exact hkeep rfl rfl
  | signUp _ _ _ _ => exact .of_tap rfl rfl rfl rfl rfl
  | login _ _ _ => exact .of_tap rfl rfl rfl rfl rfl
  | dismissed _ => exact hkeep rfl rfl
  | loaded _ => exact .of_append usernameRequests_loginTap rfl rfl
  | shown _ => exact hkeep rfl rfl
  | closed _ => exact hkeep rfl rfl
  | unsaved _ _ => exact hkeep rfl rfl
  | saved _ _ => exact .of_append (by simp [Request.loginTap]) rfl rfl
  | loggedOut _ => exact .of_append (by simp [Request.loginTap]) rfl rfl
  | authenticated hr ha => exact .of_authenticate hr ha
  | committed hr hc => exact .of_commit hr hc
  | @rejected i vc r message hr hv hacc =>
      have hg : r.goesOn = false := by
        cases r with
        | userCreated _ _ _ _ _ => cases hacc
        | _ => rfl
      exact .of_drop hr hg
  | @created i tap' vc uid email username hr =>
      have hlogin := Session.count_drop (P := Request.isLogin tap) hr
      have hasking := Session.count_drop (P := Request.isAsking tap) hr
      refine .other ?_ ?_ rfl ?_
      · simpa [Session.count, Session.drop, Request.isLogin, Request.loginTap] using hlogin
      · simpa [Session.count, Session.drop, Request.isAsking, Request.accepted] using hasking
      · simp [Answers, hr, Request.goesOn]
  | @opened i tap' vc uid r hr ho hv =>
      have hg : r.goesOn = false := by
        cases r with
        | userCreated _ _ _ _ _ => cases ho
        | _ => rfl
      exact .of_drop hr hg
  | @ran i tap' view username hr =>
      refine .of_erase hr rfl ?_
      intro r hmem
      rcases List.mem_append.mp hmem with hmem | hmem
      · obtain ⟨uid, -, rfl⟩ := List.mem_map.mp hmem
        rfl
      · rw [List.mem_singleton] at hmem
        rw [hmem]
        rfl
  | fired hr => exact .of_erase hr rfl usernameRequests_loginTap
  | @quiet i reply r hr hq =>
      have hg : r.goesOn = false := by
        cases r with
        | userCreated _ _ _ email _ =>
            cases email with
            | none => rfl
            | some _ => cases reply <;> cases hq
        | _ => rfl
      exact .of_drop hr hg
  | launched => exact .launched rfl rfl

end

/-! ## The count of a tap -/

/-- What a tap has under way and what has come of it, together one of each at most. -/
@[mk_iff]
structure Once (tap : Nat) (h : List (Session × Event)) (s : Session) : Prop where
  fresh : s.taps ≤ tap → s.pending.countP (Request.isLogin tap) + h.countP (Answers tap) +
    h.countP (Accepts tap) = 0
  answer : s.pending.countP (Request.isLogin tap) + h.countP (Answers tap) ≤ 1
  accept : s.pending.countP (Request.isAsking tap) + h.countP (Accepts tap) ≤ 1

section
variable {tap : Nat} {s s' : Session} {e : Event} {h : List (Session × Event)}

theorem step_once (ho : Once tap h s) (hs : Session.step s e = some s') :
    Once tap (h ++ [(s, e)]) s' := by
  obtain ⟨hfresh, hanswer, haccept⟩ := ho
  have htaps := step_taps hs
  have hle : s.pending.countP (Request.isAsking tap) ≤ s.pending.countP (Request.isLogin tap) :=
    count_asking_le _
  have hmono : s.taps ≤ s'.taps := by
    rw [htaps]
    exact Nat.le_add_right _ _
  have hacc : (h ++ [(s, e)]).countP (Accepts tap) =
      h.countP (Accepts tap) + if Accepts tap (s, e) then 1 else 0 := by
    simp [List.countP_cons]
  have hans : (h ++ [(s, e)]).countP (Answers tap) =
      h.countP (Answers tap) + if Answers tap (s, e) then 1 else 0 := by
    simp [List.countP_cons]
  rw [once_iff, hacc, hans]
  cases (step_moves hs).login_effect tap with
  | other hl hk ha hn =>
      rw [hl, hk, ha, hn]
      simp only [Bool.false_eq_true, if_false]
      omega
  | tapped ht he hl hk ha hn =>
      rw [if_pos he] at htaps
      rw [hl, hk, ha, hn]
      simp only [Bool.false_eq_true, if_false]
      omega
  | accepted hl hk ha hn =>
      rw [hl, ha, hn]
      simp only [Bool.false_eq_true, if_false, if_true]
      omega
  | answered hl hk ha hn =>
      rw [ha, hn]
      simp only [Bool.false_eq_true, if_false, if_true]
      omega
  | launched hp he =>
      subst he
      rw [hp]
      simp only [Accepts, Answers, List.countP_nil, Bool.false_eq_true, if_false]
      omega

theorem run_once {accounts : List Account} {database : Database}
    (hr : Run Session.step (.launch accounts database) h s) (tap : Nat) : Once tap h s := by
  refine hr.history_invariant (I := fun h s => Once tap h s) ?_ fun _ _ _ _ ho hs => step_once ho hs
  rw [once_iff]
  simp [Session.launch]

/-- A login answers its tap. -/
theorem answers_of_opens {p : Session × Event} (h : Opens tap p = true) : Answers tap p = true := by
  obtain ⟨s, e⟩ := p
  cases e with
  | completed i reply =>
      simp only [Opens, decide_eq_true_eq, Option.any_eq_true] at h
      obtain ⟨-, r, hr, ⟨t, uid⟩, ho, ht⟩ := h
      obtain rfl : t = tap := by simpa using ht
      simp only [Answers, Option.any_eq_true]
      refine ⟨r, hr, ?_⟩
      cases r with
      | profileUpdated _ _ _ =>
          cases ho
          simp [Request.isLogin, Request.loginTap, Request.goesOn]
      | signedIn _ _ _ =>
          cases ho
          simp [Request.isLogin, Request.loginTap, Request.goesOn]
      | _ => cases ho
  | _ => cases h

end

/-- In every run a tap on the login button is accepted by Auth once at most, so it
creates one account at most, and it is answered once at most.  It logs in once at
most, and once it is answered nothing of it is under way. -/
theorem tap_answered_once {accounts : List Account} {database : Database} {s : Session}
    {h : List (Session × Event)} (hr : Run Session.step (.launch accounts database) h s)
    (tap : Nat) :
    h.countP (Accepts tap) ≤ 1 ∧ h.countP (Answers tap) ≤ 1 ∧ h.countP (Opens tap) ≤ 1 ∧
      ((∃ p ∈ h, Answers tap p = true) → ∀ r ∈ s.pending, r.loginTap ≠ some tap) := by
  obtain ⟨-, hanswer, haccept⟩ := run_once hr tap
  have hopens : h.countP (Opens tap) ≤ h.countP (Answers tap) :=
    List.countP_mono_left fun _ _ ho => answers_of_opens ho
  refine ⟨by omega, by omega, by omega, ?_⟩
  intro hend r hr' htap
  have hpos := List.countP_pos_iff.mpr hend
  have hpending : 0 < s.pending.countP (Request.isLogin tap) :=
    List.countP_pos_iff.mpr ⟨r, hr', by simp [Request.isLogin, htap]⟩
  omega

/-- The first of two taps on Login, both accepted and completed. -/
theorem tap_answered_once_twice :
    (history Session.step adaLaunch twiceRun).countP (Accepts 0) ≤ 1 ∧
      (history Session.step adaLaunch twiceRun).countP (Answers 0) ≤ 1 ∧
      (history Session.step adaLaunch twiceRun).countP (Opens 0) ≤ 1 ∧
      ((∃ p ∈ history Session.step adaLaunch twiceRun, Answers 0 p = true) →
        ∀ r ∈ twice.pending, r.loginTap ≠ some 0) :=
  tap_answered_once twice_run 0

end WaterMyPlants
