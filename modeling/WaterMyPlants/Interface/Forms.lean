import WaterMyPlants.Interface.Front

/-!
# The forms in front

The login form agrees with its segmented control in every run, whatever is toggled.
So a tap on its button does what the form shows: it asks for the first field that is
shown and empty, or issues the request of the selected segment
(`login_taps`).  The tap that knows no title is never made.

A save of the settings form is enabled only for a name of more than three characters.
The form is opened with the name the cache holds, which may be that of another user, and
a tap into the field enables the save.  So a username in a record was sent off from a form
that showed it, and was typed there or was the username of somebody before
(`usernames_sent`).
-/

namespace WaterMyPlants

open Transition

namespace LoginViewController

/-- The first field that is shown and has no text, by the name the alert gives it. -/
def missing (vc : LoginViewController) : Option String :=
  if vc.emailTextField.getD "" = "" then some "Email"
  else if vc.passwordTextField.getD "" = "" then some "Password"
  else if vc.usernameTextFieldIsHidden = false ∧ vc.usernameTextField.getD "" = "" then
    some "Username"
  else none

/-- The request of the selected segment. -/
def selectedRequest (tap place : Nat) (vc : LoginViewController) : Request :=
  if vc.loginSegmentedControl = 0 then
    .signIn tap place (vc.emailTextField.getD "") (vc.passwordTextField.getD "")
  else
    .createUser tap place (vc.emailTextField.getD "") (vc.passwordTextField.getD "")
      (vc.usernameTextField.getD "")

end LoginViewController

namespace Interface

variable {images : ImageLoader UIImage} {count : String → Nat} {s s' : Interface}
  {e : InterfaceEvent} {h : List (Interface × InterfaceEvent)}

/-- Both forms are what their controls say. -/
structure FormsAgree (count : String → Nat) (s : Interface) : Prop where
  login : s.login.Agrees
  settings : s.settings.Guarded count

theorem FormsAgree.opened (hf : s.FormsAgree count) (e : Event) (app : App) :
    (s.opened e app).FormsAgree count := by
  cases e with
  | settingsShown => exact ⟨hf.login, SettingsForm.updateViews_guarded count _⟩
  | tableLoaded => exact ⟨hf.login, hf.settings⟩
  | logoutButtonTapped => exact ⟨LoginViewController.viewDidLoad_agrees, hf.settings⟩
  | launched => exact ⟨LoginViewController.viewDidLoad_agrees, hf.settings⟩
  | _ => exact ⟨hf.login, hf.settings⟩

theorem FormsAgree.step (hf : s.FormsAgree count) (ho : s.Outcome images count e s') :
    s'.FormsAgree count := by
  cases ho with
  | session _ _ _ => exact hf.opened _ _
  | loginEntered _ he => exact ⟨hf.login.enter he, hf.settings⟩
  | settingsTyped _ =>
      exact ⟨hf.login, SettingsForm.textFieldDidChangeSelection_guarded fun h => by cases h⟩
  | settingsSelected _ =>
      exact ⟨hf.login, SettingsForm.textFieldDidChangeSelection_guarded fun _ => hf.settings⟩
  | _ => exact ⟨hf.login, hf.settings⟩

theorem formsAgree {accounts : List Account} {database : Database}
    (hr : Run (Interface.step images count) (.launch accounts database) h s) :
    s.FormsAgree count :=
  hr.invariant
    ⟨LoginViewController.viewDidLoad_agrees, SettingsForm.updateViews_guarded count ""⟩
    fun _ _ _ hf hs => hf.step (step_outcome hs)

end Interface

/-! ## The login button -/

/-- The handler does what the form shows. -/
theorem LoginViewController.Agrees.tapped {vc : LoginViewController} (ha : vc.Agrees)
    (place : Nat) (s : Session) :
    loginSignUpButtonTapped place vc.loginSignUpButton vc.emailTextField vc.passwordTextField
        vc.usernameTextField s =
      match vc.missing with
      | some field => presentAlert place field s
      | none => s.request (vc.selectedRequest s.taps place) := by
  have hempty : ∀ {text : String}, text ≠ "" → text.isEmpty = false := by
    intro text hne
    simpa using hne
  unfold loginSignUpButtonTapped missing selectedRequest
  cases vc.emailTextField with
  | none => rfl
  | some email =>
      by_cases hemail : email = ""
      · rw [hemail]
        rfl
      simp only [Option.getD_some, hempty hemail, Bool.false_eq_true, hemail, if_false]
      cases vc.passwordTextField with
      | none => rfl
      | some password =>
          by_cases hpassword : password = ""
          · rw [hpassword]
            rfl
          simp only [Option.getD_some, hempty hpassword, Bool.false_eq_true, hpassword, if_false]
          rcases ha.titles with ⟨hseg, htitle, hhidden⟩ | ⟨hseg, htitle, hhidden⟩
          · simp [hseg, htitle, hhidden]
          · rw [hseg, htitle, hhidden]
            cases vc.usernameTextField with
            | none => rfl
            | some username =>
                by_cases husername : username = ""
                · rw [husername]
                  rfl
                simp [husername]

section
variable {images : ImageLoader UIImage} {count : String → Nat} {s s' : Interface}
  {e : InterfaceEvent} {h : List (Interface × InterfaceEvent)} {accounts : List Account}
  {database : Database}

/-- In every run a tap on the login button asks for the first field that is shown and
empty, or issues the request of the selected segment with the texts of the form. -/
theorem login_taps (hr : Run (Interface.step images count) (.launch accounts database) h s)
    {covered : List Screen} (hs : s.app.session.screens = .login :: covered) :
    ∃ s', Interface.step images count s .loginSignUpButtonTapped = some s' ∧
      s'.app.session.screens =
        (s.login.missing.map fun field =>
          Screen.alert "Error" ("Please enter proper " ++ field)).toList ++ s.app.session.screens ∧
      s'.app.session.pending = s.app.session.pending ++
        if s.login.missing = none then
          [s.login.selectedRequest s.app.session.taps covered.length]
        else [] := by
  have htapped := (Interface.formsAgree hr).login.tapped covered.length s.app.session
  have hstep : Interface.step images count s .loginSignUpButtonTapped =
      some { s with app := ⟨{ LoginViewController.loginSignUpButtonTapped covered.length
        s.login.loginSignUpButton s.login.emailTextField s.login.passwordTextField
        s.login.usernameTextField s.app.session with taps := s.app.session.taps + 1 },
          s.app.context⟩ } := by
    simp only [Interface.step, Interface.follow, App.step, Interface.loginEvent, Session.step, hs,
      Option.map_some]
    rfl
  refine ⟨_, hstep, ?_⟩
  dsimp only
  rw [htapped]
  cases s.login.missing with
  | none => exact ⟨rfl, rfl⟩
  | some field =>
      refine ⟨?_, (List.append_nil _).symm⟩
      exact if_pos (by rw [hs, List.length_cons])

/-! ## Names -/

/-- The tap sends the name off: for a sign-up from a form that shows its username field,
or for a save of more than three characters. -/
def Interface.Sends (count : String → Nat) (s : Interface) : InterfaceEvent → String → Prop
  | .loginSignUpButtonTapped, name =>
      s.login.usernameTextFieldIsHidden = false ∧ s.login.usernameTextField = some name
  | .saveChangesButtonTapped, name =>
      s.settings.usernameTextField = some name ∧ 3 < count name
  | _, _ => False

/-- The event types the name into the username field of a login form or into the field of
a settings form. -/
def InterfaceEvent.Types (e : InterfaceEvent) (name : String) : Prop :=
  e = .loginEntered (.username name) ∨ e = .settingsTyped name

/-- The name was sent off. -/
def NameSent (count : String → Nat) (h : List (Interface × InterfaceEvent)) (name : String) :
    Prop :=
  ∃ p ∈ h, p.1.Sends count p.2 name

/-- The name was typed, or was the username of somebody at the start. -/
def NameKnown (database : Database) (h : List (Interface × InterfaceEvent)) (name : String) :
    Prop :=
  (∃ p ∈ h, p.2.Types name) ∨ ∃ uid, database.Stored uid "username" name

theorem NameSent.mono {h' : List (Interface × InterfaceEvent)} {name : String}
    (hn : NameSent count h name) (hsub : ∀ p ∈ h, p ∈ h') : NameSent count h' name := by
  obtain ⟨p, hp, hsends⟩ := hn
  exact ⟨p, hsub p hp, hsends⟩

theorem NameKnown.mono {h' : List (Interface × InterfaceEvent)} {name : String}
    (hn : NameKnown database h name) (hsub : ∀ p ∈ h, p ∈ h') : NameKnown database h' name :=
  hn.imp_left fun ⟨p, hp, htypes⟩ => ⟨p, hsub p hp, htypes⟩

/-- A name that is sent off is in a field. -/
theorem Interface.Sends.field {name : String} (hn : s.Sends count e name) :
    s.login.usernameTextField = some name ∨ s.settings.usernameTextField = some name := by
  cases e with
  | loginSignUpButtonTapped => exact Or.inl hn.2
  | saveChangesButtonTapped => exact Or.inr hn.1
  | _ => exact hn.elim

/-- The session takes one event or none, and a name that the event is to store is sent
off. -/
theorem Interface.Outcome.session_step (ho : s.Outcome images count e s')
    (hf : s.FormsAgree count) :
    s'.app.session = s.app.session ∨
      ∃ e', Session.step s.app.session e' = some s'.app.session ∧
        ∀ name, e'.name = some name → s.Sends count e name := by
  cases ho with
  | @session e app hform _ hx =>
      rw [Interface.opened_app]
      refine Or.inr ⟨e, (App.step_session hx).1, fun name hn => ?_⟩
      cases e with
      | loginSignUpButtonTapped _ _ _ _ => cases hform
      | saveChangesButtonTapped _ => cases hform
      | _ => cases hn
  | loginTapped hx =>
      refine Or.inr ⟨_, (App.step_session hx).1, fun name hn => ?_⟩
      rw [Interface.loginEvent] at hn
      rcases hf.login.titles with ⟨-, htitle, -⟩ | ⟨-, htitle, hhidden⟩
      · rw [htitle] at hn
        cases hn
      · rw [htitle] at hn
        exact ⟨hhidden, hn⟩
  | settingsSaved henabled hx =>
      refine Or.inr ⟨_, (App.step_session hx).1, fun name hn => ?_⟩
      obtain ⟨text, htext, hlt⟩ := hf.settings henabled
      have hn : s.settings.usernameTextField = some name := hn
      rw [htext, Option.some.injEq] at hn
      subst hn
      exact ⟨htext, hlt⟩
  | _ => exact Or.inl rfl

/-- A new form holds no username but the one of the cache. -/
theorem Interface.opened_fields (s : Interface) (e : Event) (app : App) :
    ((s.opened e app).login.usernameTextField = s.login.usernameTextField ∨
        (s.opened e app).login.usernameTextField = none) ∧
      ((s.opened e app).settings.usernameTextField = s.settings.usernameTextField ∨
        (s.opened e app).settings.usernameTextField = some s.app.session.username) := by
  cases e with
  | settingsShown => exact ⟨Or.inl rfl, Or.inr rfl⟩
  | logoutButtonTapped => exact ⟨Or.inr rfl, Or.inl rfl⟩
  | tableLoaded => exact ⟨Or.inl rfl, Or.inl rfl⟩
  | launched => exact ⟨Or.inr rfl, Or.inl rfl⟩
  | _ => exact ⟨Or.inl rfl, Or.inl rfl⟩

/-- What the fields of the forms hold: a name they held before, the one of the cache, or
one that is typed. -/
theorem Interface.Outcome.fields (ho : s.Outcome images count e s') {name : String}
    (hn : s'.login.usernameTextField = some name ∨ s'.settings.usernameTextField = some name) :
    s.login.usernameTextField = some name ∨ s.settings.usernameTextField = some name ∨
      name = s.app.session.username ∨ e.Types name := by
  have hkept : s'.login = s.login → s'.settings = s.settings →
      s.login.usernameTextField = some name ∨ s.settings.usernameTextField = some name ∨
        name = s.app.session.username ∨ e.Types name := by
    intro hlogin hsettings
    rw [hlogin, hsettings] at hn
    exact hn.imp_right Or.inl
  cases ho with
  | @session e app _ _ hx =>
      obtain ⟨hlogin, hsettings⟩ := s.opened_fields e app
      rcases hn with hn | hn
      · rcases hlogin with heq | heq
        · exact Or.inl (heq.symm.trans hn)
        · rw [heq] at hn
          cases hn
      · rcases hsettings with heq | heq
        · exact Or.inr (Or.inl (heq.symm.trans hn))
        · rw [heq, Option.some.injEq] at hn
          exact Or.inr (Or.inr (Or.inl hn.symm))
  | loginEntered _ he =>
      rcases hn with hn | hn
      · rcases LoginViewController.enter_username he with heq | ⟨text, rfl, heq⟩
        · exact Or.inl (heq.symm.trans hn)
        · obtain rfl : text = name := Option.some.inj (heq.symm.trans hn)
          exact Or.inr (Or.inr (Or.inr (Or.inl rfl)))
      · exact Or.inr (Or.inl hn)
  | @settingsTyped text _ _ _ _ =>
      rcases hn with hn | hn
      · exact Or.inl hn
      · rw [SettingsForm.textFieldDidChangeSelection_text] at hn
        obtain rfl : text = name := Option.some.inj hn
        exact Or.inr (Or.inr (Or.inr (Or.inr rfl)))
  | settingsSelected _ =>
      rw [SettingsForm.textFieldDidChangeSelection_text] at hn
      exact hn.imp_right Or.inl
  | _ => exact hkept rfl rfl

/-- Wherever the interface holds a name, it is known, or empty.  A name that a request is
to store, or that was stored, was sent off and is not empty. -/
structure Interface.NamesKnown (count : String → Nat) (database : Database)
    (h : List (Interface × InterfaceEvent)) (s : Interface) : Prop where
  forms : s.FormsAgree count
  fields : ∀ name, s.login.usernameTextField = some name ∨
    s.settings.usernameTextField = some name → name = "" ∨ NameKnown database h name
  username : s.app.session.username = "" ∨ NameKnown database h s.app.session.username
  requests : ∀ r ∈ s.app.session.pending, ∀ name, r.name = some name →
    name ≠ "" ∧ NameSent count h name ∧ NameKnown database h name
  records : ∀ v ∈ s.app.session.database, v.key = "username" →
    v ∈ database ∨ (v.value ≠ "" ∧ NameSent count h v.value ∧ NameKnown database h v.value)

/-- A name that the session reads is known. -/
theorem Interface.NamesKnown.reads {uid : Uid} {name : String}
    (hk : s.NamesKnown count database h) (hread : s.app.session.Reads uid name) :
    NameKnown database h name := by
  rcases hread.cases with hstored | ⟨r, hr, hname⟩
  · rcases hk.records _ hstored rfl with hold | ⟨-, -, hknown⟩
    · exact Or.inr ⟨uid, hold⟩
    · exact hknown
  · exact (hk.requests r hr name hname).2.2

theorem Interface.NamesKnown.step (hk : s.NamesKnown count database h)
    (ho : s.Outcome images count e s') : s'.NamesKnown count database (h ++ [(s, e)]) := by
  have hsub : ∀ p ∈ h, p ∈ h ++ [(s, e)] := fun p hp => List.mem_append_left _ hp
  have hlast : (s, e) ∈ h ++ [(s, e)] := List.mem_append_right _ (List.mem_singleton.mpr rfl)
  have hrequests : ∀ r ∈ s.app.session.pending, ∀ name, r.name = some name → name ≠ "" ∧
      NameSent count (h ++ [(s, e)]) name ∧ NameKnown database (h ++ [(s, e)]) name := by
    intro r hr name hname
    obtain ⟨hne, hsent, hknown⟩ := hk.requests r hr name hname
    exact ⟨hne, hsent.mono hsub, hknown.mono hsub⟩
  have hrecords : ∀ v ∈ s.app.session.database, v.key = "username" → v ∈ database ∨
      (v.value ≠ "" ∧ NameSent count (h ++ [(s, e)]) v.value ∧
        NameKnown database (h ++ [(s, e)]) v.value) := by
    intro v hv hkey
    refine (hk.records v hv hkey).imp_right fun ⟨hne, hsent, hknown⟩ => ?_
    exact ⟨hne, hsent.mono hsub, hknown.mono hsub⟩
  have husername : s.app.session.username = "" ∨
      NameKnown database (h ++ [(s, e)]) s.app.session.username :=
    hk.username.imp_right fun hknown => hknown.mono hsub
  have hfields : ∀ name, s'.login.usernameTextField = some name ∨
      s'.settings.usernameTextField = some name →
      name = "" ∨ NameKnown database (h ++ [(s, e)]) name := by
    intro name hname
    rcases ho.fields hname with hn | hn | rfl | htypes
    · exact (hk.fields name (Or.inl hn)).imp_right fun hknown => hknown.mono hsub
    · exact (hk.fields name (Or.inr hn)).imp_right fun hknown => hknown.mono hsub
    · exact husername
    · exact Or.inr (Or.inl ⟨(s, e), hlast, htypes⟩)
  rcases ho.session_step hk.forms with hsame | ⟨e', hx, hsends⟩
  · refine ⟨hk.forms.step ho, hfields, ?_, ?_, ?_⟩
    · rw [hsame]
      exact husername
    · rw [hsame]
      exact hrequests
    · rw [hsame]
      exact hrecords
  · refine ⟨hk.forms.step ho, hfields, ?_, ?_, ?_⟩
    · rcases step_username hx with hsame | hempty | ⟨uid, hread⟩
      · rw [hsame]
        exact husername
      · exact Or.inl hempty
      · exact Or.inr ((hk.reads hread).mono hsub)
    · refine step_names hrequests (fun name hname hne => ?_) hx
      have hsent := hsends name hname
      have hknown := (hk.fields name hsent.field).resolve_left hne
      exact ⟨hne, ⟨(s, e), hlast, hsent⟩, hknown.mono hsub⟩
    · intro v hv hkey
      exact (step_usernames hrequests hx hv hkey).elim (fun hold => hrecords v hold hkey) Or.inr

/-- In every run a username that a record comes to hold is not empty.  It was sent off
from a sign-up form that shows its username field, or from a settings form with more than
three characters, and it was typed into one of these fields before, or was the username of
somebody at the start. -/
theorem usernames_sent
    (hr : Run (Interface.step images count) (.launch accounts database) h s) :
    ∀ v ∈ s.app.session.database, v.key = "username" →
      v ∈ database ∨
        (v.value ≠ "" ∧ NameSent count h v.value ∧ NameKnown database h v.value) := by
  refine (hr.history_invariant (I := fun h (s : Interface) => s.NamesKnown count database h) ?_ ?_).records
  · refine ⟨⟨LoginViewController.viewDidLoad_agrees, SettingsForm.updateViews_guarded count ""⟩,
      ?_, Or.inl rfl, fun _ hmem => absurd hmem List.not_mem_nil, fun v hv _ => Or.inl hv⟩
    intro name hname
    rcases hname with hname | hname
    · cases hname
    · cases hname
      exact Or.inl rfl
  · intro h s e s' hk hs
    exact hk.step (Interface.step_outcome hs)

end

/-! ## A sign-up and a save -/

/-- `ada` signs up and saves another name. -/
def renamedRun : List InterfaceEvent :=
  [.loginEntered (.segment 1), .loginEntered (.email "ada@mail.com"),
    .loginEntered (.password "secret"), .loginEntered (.username "ada"), .loginSignUpButtonTapped,
    .session (.authenticated 0 "a" (some "ada@mail.com")), .session (.completed 0 .success),
    .session (.committed 0), .session (.completed 0 .success), .session .tableLoaded,
    .session .settingsShown, .settingsTyped "lovelace", .saveChangesButtonTapped,
    .session (.completed 1 .success), .session (.committed 1)]

/-- The state after the second name is committed. -/
def renamed : Interface :=
  endState (Interface.step bytesLoader String.length) (.launch [] []) renamedRun rfl

/-- What led to it. -/
def renamedHistory : List (Interface × InterfaceEvent) :=
  history (Interface.step bytesLoader String.length) (.launch [] []) renamedRun

theorem usernames_sent_renamed :
    renamed.app.session.database.child "a" "username" = some "lovelace" ∧
      ∀ v ∈ renamed.app.session.database, v.key = "username" →
        v ∈ ([] : Database) ∨ (v.value ≠ "" ∧ NameSent String.length renamedHistory v.value ∧
          NameKnown [] renamedHistory v.value) :=
  ⟨by decide, usernames_sent (endState_run rfl)⟩

/-- `ada` logs in and out.  The read of the name of `bob` fails, and he saves the name
that his settings were opened with after no more than a tap into the field. -/
def prefilledRun : List InterfaceEvent :=
  let logIn (email password : String) (uid : Uid) (reply : Reply) : List InterfaceEvent :=
    [.loginEntered (.email email), .loginEntered (.password password), .loginSignUpButtonTapped,
      .session (.authenticated 0 uid none), .session (.completed 0 .success),
      .session .tableLoaded, .session (.completed 0 reply), .session .settingsShown]
  logIn "ada@mail.com" "secret" "a" (.value "lovelace") ++
    [.session .logoutButtonTapped, .session (.completed 0 .success)] ++
    logIn "bob@mail.com" "hidden" "b" .failure ++
    [.settingsSelected, .saveChangesButtonTapped, .session (.completed 0 .success),
      .session (.committed 0)]

/-- The record of `bob` has come to hold the name of `ada`. -/
example :
    (exec (Interface.step bytesLoader String.length)
      (.launch [adaAccount, ⟨"b", "bob@mail.com", "hidden"⟩] [⟨"a", "username", "lovelace"⟩])
      prefilledRun).map (fun s => s.app.session.database.child "b" "username") =
        some (some "lovelace") := by decide

/-- The form of the sign-up, with everything entered. -/
def signingUp : Interface :=
  endState (Interface.step bytesLoader String.length) (.launch [] []) (renamedRun.take 4) rfl

theorem login_taps_signingUp :
    ∃ s', Interface.step bytesLoader String.length signingUp .loginSignUpButtonTapped = some s' ∧
      s'.app.session.screens =
        (signingUp.login.missing.map fun field =>
          Screen.alert "Error" ("Please enter proper " ++ field)).toList ++
            signingUp.app.session.screens ∧
      s'.app.session.pending = signingUp.app.session.pending ++
        if signingUp.login.missing = none then
          [signingUp.login.selectedRequest signingUp.app.session.taps 0]
        else [] :=
  login_taps (h := history _ _ (renamedRun.take 4)) (endState_run rfl) rfl

end WaterMyPlants
