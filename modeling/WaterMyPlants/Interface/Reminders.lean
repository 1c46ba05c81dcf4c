import WaterMyPlants.App.Durable
import WaterMyPlants.Interface.Entries

/-!
# Reminders

Watering a plant hands a request to the notification center and shows an alert with
the time until the reminder.  The request has a fresh `UUID`, so it replaces no other,
and nothing in the app takes a request back: not a delete of the plant, not a logout.

The frequency of a plant is a segment title, so no plant is watered "Often" and no
reminder comes after ten seconds.  The alert and the trigger read different switches,
which agree but for a plant watered thrice a day: the alert says "in 4 hours" and the
trigger waits five.
-/

namespace WaterMyPlants

open Transition

/-! ## The requests -/

namespace Interface

/-- The request that an event hands to the notification center: that of the plant on
screen. -/
def scheduled (s : Interface) : InterfaceEvent → Option UNNotificationRequest
  | .plantButtonTapped uuid =>
      match s.plants with
      | .detail vc =>
          ((vc.plant.bind s.object).bind LocalNotifications.waterPlantNotification).map
            fun watering => ⟨uuid, watering⟩
      | _ => none
  | _ => none

/-- The requests handed over, the first one first. -/
def requests (h : List (Interface × InterfaceEvent)) : List UNNotificationRequest :=
  h.filterMap fun p => p.1.scheduled p.2

variable {images : ImageLoader UIImage} {count : String → Nat} {s s' : Interface}
  {e : InterfaceEvent} {h : List (Interface × InterfaceEvent)}

theorem requests_append (h : List (Interface × InterfaceEvent)) (s : Interface)
    (e : InterfaceEvent) : requests (h ++ [(s, e)]) = requests h ++ (s.scheduled e).toList := by
  rw [requests, List.filterMap_append]
  cases hr : s.scheduled e with
  | none => simp [requests, hr]
  | some r => simp [requests, hr]

theorem opened_notificationCenter (s : Interface) (e : Event) (app : App) :
    (s.opened e app).notificationCenter = s.notificationCenter := by
  cases e with
  | settingsShown => rfl
  | logoutButtonTapped => rfl
  | tableLoaded => rfl
  | launched => rfl
  | _ => rfl

/-- On a live screen the handler is that of the plant. -/
theorem Live.plantButtonTapped_eq {vc : PlantDetailViewController} (hl : s.Live images)
    (hd : s.plants.detailScreen = some vc) {alert : Option Watering}
    (hs : vc.plantButtonTapped s.object = some alert) :
    (vc.plant.bind s.object).bind LocalNotifications.waterPlantNotification = alert := by
  obtain ⟨k, p, hplant, hnote, hobj⟩ := hl.reads hd
  rw [PlantDetailViewController.plantButtonTapped, hplant, hnote] at hs
  simp only [hobj, Option.bind_some] at hs
  rw [hplant, Option.bind_some, hobj, Option.bind_some]
  cases hw : LocalNotifications.waterPlantNotification p with
  | none =>
      rw [hw] at hs
      exact Option.some.inj hs
  | some watering =>
      rw [hw] at hs
      dsimp only at hs
      split at hs
      next => exact Option.some.inj hs
      next => cases hs

/-- Only watering changes the notification center. -/
theorem Outcome.notificationCenter (ho : s.Outcome images count e s') (hl : s.Live images) :
    s'.notificationCenter =
      match s.scheduled e with
      | none => s.notificationCenter
      | some request => UNUserNotificationCenter.add request s.notificationCenter := by
  cases ho with
  | session _ _ _ => exact opened_notificationCenter s _ _
  | notWatered _ ht hw =>
      have hd := hl.plantButtonTapped_eq (by rw [ht]; rfl) hw
      simp only [scheduled, ht, hd, Option.map_none]
  | watered _ ht hw =>
      have hd := hl.plantButtonTapped_eq (by rw [ht]; rfl) hw
      simp only [scheduled, ht, hd, Option.map_some]
  | _ => rfl

end Interface

/-- A request with a new identifier replaces none. -/
theorem UNUserNotificationCenter.add_of_new {request : UNNotificationRequest}
    {requests : List UNNotificationRequest}
    (h : request.identifier ∉ requests.map UNNotificationRequest.identifier) :
    add request requests = requests ++ [request] := by
  rw [add, List.filter_eq_self.mpr]
  intro r hr
  refine decide_eq_true fun hid => h ?_
  rw [← hid]
  exact List.mem_map.mpr ⟨r, hr, rfl⟩

/-- In every run in which each `UUID` is a new one the notification center holds the
request of every watering, in order: no later event takes one back or replaces it. -/
theorem reminders_kept {images : ImageLoader UIImage} {count : String → Nat}
    {accounts : List Account} {database : Database} {h : List (Interface × InterfaceEvent)}
    {s : Interface} (hr : Run (Interface.step images count) (.launch accounts database) h s)
    (huuid : ((Interface.requests h).map UNNotificationRequest.identifier).Nodup) :
    s.notificationCenter = Interface.requests h := by
  refine (hr.history_invariant (I := fun h s => (s.app.session.Hosted ∧ s.Live images) ∧
    (((Interface.requests h).map UNNotificationRequest.identifier).Nodup →
      s.notificationCenter = Interface.requests h)) ?_ ?_).2 huuid
  · exact ⟨Interface.launch_live accounts database, fun _ => rfl⟩
  · rintro h s e s' ⟨hi, hkept⟩ hs
    refine ⟨Interface.step_live hi hs, fun hnodup => ?_⟩
    rw [Interface.requests_append, List.map_append] at hnodup
    have hkept := hkept hnodup.of_append_left
    rw [(Interface.step_outcome hs).notificationCenter hi.2, Interface.requests_append, hkept]
    cases hsch : s.scheduled e with
    | none => exact (List.append_nil _).symm
    | some request =>
        refine UNUserNotificationCenter.add_of_new fun hmem => ?_
        rw [hsch] at hnodup
        exact (List.nodup_append.mp hnodup).2.2 _ hmem _ (List.mem_singleton.mpr rfl) rfl

/-! ## The frequencies -/

/-- The frequency is one of the titles that the frequency control offers. -/
def Plant.Offered (p : Plant) : Prop :=
  ∃ f ∈ AddPlantViewController.frequencySegControl, p.frequency = some f

/-- The form of the event has a segment selected. -/
def AppEvent.Selected : AppEvent → Prop
  | .garden (.add vc) _ _ =>
      vc.selectedSegmentIndex < AddPlantViewController.frequencySegControl.length
  | .garden (.edit _ vc) _ _ =>
      vc.selectedSegmentIndex < EditViewController.frequencySegControl.length
  | _ => True

theorem segmentTitle_mem_of_lt {segments : List String} {i : Nat} (h : i < segments.length) :
    segmentTitle segments i ∈ segments := by
  rw [segmentTitle, List.getElem?_eq_getElem h]
  exact List.getElem_mem h

theorem Entry.last_segment_lt (entries : List Entry) :
    (Entry.last Entry.segment? entries).getD 0 < 3 := by
  cases hlast : Entry.last Entry.segment? entries with
  | none => exact Nat.succ_pos 2
  | some i =>
      obtain ⟨entry, -, he⟩ := List.mem_filterMap.mp (List.mem_of_getLast? hlast)
      cases entry with
      | frequency selectedSegmentIndex =>
          cases he
          exact selectedSegmentIndex.isLt
      | _ => cases he

section
variable {app app' : App} {d : AppEvent}

theorem App.step_offered (hd : d.Selected) (hall : app.context.All Plant.Offered)
    (hs : App.step app d = some app') : app'.context.All Plant.Offered := by
  cases d with
  | session e =>
      rw [(App.step_session hs).2]
      split
      next => exact ⟨hall.2, hall.2⟩
      next => exact hall
  | garden action now disk =>
      obtain ⟨captured, -, hs⟩ := Option.bind_eq_some_iff.mp hs
      obtain ⟨handled, hh, rfl⟩ := Option.map_eq_some_iff.mp hs
      rcases Action.handleOn_cases hh with rfl | ⟨shown, hh⟩
      · exact hall
      · refine handle_forall hh hall.1 hall.2 fun c' hc => hc.forall_objects hall.1 ?_ ?_
        · rintro vc nickname species rfl - -
          exact ⟨_, segmentTitle_mem_of_lt hd, rfl⟩
        · rintro i vc k p nickname species t rfl - - - - - -
          exact ⟨_, segmentTitle_mem_of_lt hd, rfl⟩
  | water indexPath =>
      obtain ⟨captured, -, hs⟩ := Option.bind_eq_some_iff.mp hs
      obtain ⟨watering, -, rfl⟩ := Option.map_eq_some_iff.mp hs
      exact hall

end

/-- The reminder was scheduled for a plant whose frequency is offered. -/
def UNNotificationRequest.Offered (request : UNNotificationRequest) : Prop :=
  ∃ p : Plant, p.Offered ∧ LocalNotifications.waterPlantNotification p = some request.watering

namespace Interface

variable {images : ImageLoader UIImage} {count : String → Nat} {s s' : Interface}
  {e : InterfaceEvent} {h : List (Interface × InterfaceEvent)}

/-- The forms always have a segment selected. -/
theorem FilledIn.selected (hf : FilledIn images h s) {d : AppEvent} (hd : s.observe e = some d) :
    d.Selected := by
  cases e with
  | saveButtonTapped now disk =>
      simp only [observe] at hd
      split at hd
      next screen ht =>
        cases hd
        have hscreen := hf.add screen ht
        rw [AddScreen.foldl_enter] at hscreen
        rw [hscreen]
        exact Entry.last_segment_lt (entries h)
      next => cases hd
  | updateButtonTapped now disk =>
      simp only [observe] at hd
      split at hd
      next screen vc ht _ =>
        cases hd
        obtain ⟨k, p, -, hscreen⟩ := hf.edit screen vc ht
        rw [EditScreen.foldl_enter] at hscreen
        rw [hscreen]
        exact Entry.last_segment_lt (entries h)
      next => cases hd
  | plantButtonTapped uuid =>
      simp only [observe] at hd
      split at hd
      next =>
        cases hd
        trivial
      next => cases hd
  | session e => cases hd; trivial
  | loginSignUpButtonTapped => cases hd; trivial
  | saveChangesButtonTapped => cases hd; trivial
  | rowDeleted indexPath disk => cases hd; trivial
  | _ => cases hd

theorem step_offered (hl : s.Live images) (hf : FilledIn images h s)
    (hall : s.app.context.All Plant.Offered) (ho : s.Outcome images count e s') :
    s'.app.context.All Plant.Offered := by
  have hobs := hl.observe ho
  split at hobs
  next d hd => exact App.step_offered (hf.selected hd) hall hobs
  next =>
    rw [hobs]
    exact hall

/-- What is behind a reference is a plant that is there or one that is gone. -/
theorem mem_of_object {k : Nat} {p : Plant} (hobj : s.object k = some p) (hne : p ≠ .gone) :
    (k, p) ∈ s.app.context.objects.list := by
  rw [object] at hobj
  split at hobj
  next => exact absurd (Option.some.inj hobj).symm hne
  next => exact Context.mem_of_object hobj

/-- A request that is scheduled is for a plant on screen. -/
theorem scheduled_offered (hall : s.app.context.All Plant.Offered)
    {request : UNNotificationRequest} (hr : s.scheduled e = some request) : request.Offered := by
  cases e with
  | plantButtonTapped uuid =>
      simp only [scheduled] at hr
      split at hr
      next vc _ =>
        obtain ⟨watering, hw, rfl⟩ := Option.map_eq_some_iff.mp hr
        obtain ⟨p, hp, hw⟩ := Option.bind_eq_some_iff.mp hw
        obtain ⟨k, -, hobj⟩ := Option.bind_eq_some_iff.mp hp
        have hmem := mem_of_object hobj fun hgone => by rw [hgone] at hw; cases hw
        exact ⟨p, hall.1 _ hmem, hw⟩
      next => cases hr
  | _ => cases hr

end Interface

/-- The trigger and the alert of a watering, by the frequency of its plant. -/
theorem LocalNotifications.waterPlantNotification_times {p : Plant} {watering : Watering}
    (h : waterPlantNotification p = some watering) :
    watering.timeInterval = timeInterval p.frequency ∧
      watering.alertMessage = "Good job! We'll notify you " ++
        timeIntervalString (timeInterval p.frequency) ++ " to water them again." := by
  rw [waterPlantNotification] at h
  split at h
  next => cases h
  next =>
    cases h
    exact ⟨rfl, rfl⟩

/-- The delays of the titles. -/
theorem UNNotificationRequest.Offered.timeInterval {request : UNNotificationRequest}
    (h : request.Offered) : request.watering.timeInterval ∈ [86400, 28800, 18000] := by
  obtain ⟨p, ⟨f, hf, hp⟩, hw⟩ := h
  rw [(LocalNotifications.waterPlantNotification_times hw).1, hp]
  simp only [AddPlantViewController.frequencySegControl, List.mem_cons, List.not_mem_nil,
    or_false] at hf
  rcases hf with rfl | rfl | rfl
  · decide
  · decide
  · decide

/-- In every run every plant, shown or stored, has a frequency that the control offers,
so none is watered "Often", and every reminder comes after a day, eight hours or five. -/
theorem frequencies_offered {images : ImageLoader UIImage} {count : String → Nat}
    {accounts : List Account} {database : Database} {h : List (Interface × InterfaceEvent)}
    {s : Interface} (hr : Run (Interface.step images count) (.launch accounts database) h s) :
    s.app.context.All Plant.Offered ∧
      ∀ request ∈ s.notificationCenter, request.watering.timeInterval ∈ [86400, 28800, 18000] := by
  have hinv := hr.history_invariant (I := fun h s =>
    (s.app.session.Hosted ∧ s.Live images) ∧ Interface.FilledIn images h s ∧
      s.app.context.All Plant.Offered ∧ ∀ request ∈ s.notificationCenter, request.Offered) ?_ ?_
  · exact ⟨hinv.2.2.1, fun request hmem => (hinv.2.2.2 request hmem).timeInterval⟩
  · refine ⟨Interface.launch_live accounts database, .table rfl, ⟨?_, ?_⟩, ?_⟩
    · exact fun _ ho => absurd ho List.not_mem_nil
    · exact fun _ ho => absurd ho List.not_mem_nil
    · exact fun _ hmem => absurd hmem List.not_mem_nil
  · rintro h s e s' ⟨hi, hf, hall, hreq⟩ hs
    have ho := Interface.step_outcome hs
    refine ⟨Interface.step_live hi hs, hf.step hi.2 ho, Interface.step_offered hi.2 hf hall ho, ?_⟩
    rw [ho.notificationCenter hi.2]
    intro request hmem
    split at hmem
    next => exact hreq request hmem
    next new hnew =>
      rcases List.mem_append.mp hmem with hmem | hmem
      · exact hreq request (List.mem_of_mem_filter hmem)
      · rw [List.mem_singleton.mp hmem]
        exact Interface.scheduled_offered hall hnew

/-! ## The alert and the trigger -/

/-- The delay that a phrase of the alert promises, in seconds. -/
def LocalNotifications.promised : String → Option Nat
  | "in 10 seconds" => some 10
  | "in 4 hours" => some (4 * 60 * 60)
  | "in 8 hours" => some (8 * 60 * 60)
  | "by tomorrow" => some (24 * 60 * 60)
  | _ => none

/-- The alert of a frequency that the switch knows promises a delay, which the trigger
exceeds by an hour for a plant that is watered thrice a day. -/
theorem LocalNotifications.promised_timeIntervalString {f : String} (hf : f ∈ frequencies) :
    ∃ delay, promised (timeIntervalString (timeInterval (some f))) = some delay ∧
      timeInterval (some f) = if f = "Thrice a day" then delay + 60 * 60 else delay := by
  simp only [frequencies, List.mem_cons, List.not_mem_nil, or_false] at hf
  rcases hf with rfl | rfl | rfl | rfl
  · exact ⟨86400, rfl, rfl⟩
  · exact ⟨28800, rfl, rfl⟩
  · exact ⟨14400, rfl, rfl⟩
  · exact ⟨10, rfl, rfl⟩

namespace Interface

variable {images : ImageLoader UIImage} {count : String → Nat} {s s' : Interface}
  {e : InterfaceEvent} {h : List (Interface × InterfaceEvent)}

/-- The alert over a detail screen is that of its plant. -/
def Alerts (s : Interface) : Prop :=
  ∀ watering vc, s.plants = .alert watering vc → ∃ k p, vc.plant = some k ∧
    (k, p) ∈ s.app.context.objects.list ∧
      LocalNotifications.waterPlantNotification p = some watering

theorem Alerts.step (ha : s.Alerts) (hl : s.Live images) (ho : s.Outcome images count e s') :
    s'.Alerts := by
  rcases ho.screens with ht | ⟨hscreens, hctx, -⟩
  · intro watering vc hv
    rw [ht] at hv
    cases hv
  generalize hplants : s'.plants = plants at hscreens
  intro watering vc hv
  rw [hplants] at hv
  rw [hctx]
  cases hscreens with
  | kept _ => exact ha watering vc hv
  | watered ht hw =>
      cases hv
      have hd : s.plants.detailScreen = some vc := by rw [ht]; rfl
      have heq := hl.plantButtonTapped_eq hd hw
      obtain ⟨k, p, hplant, -, hobj⟩ := hl.reads hd
      rw [hplant, Option.bind_some, hobj, Option.bind_some] at heq
      refine ⟨k, p, hplant, mem_of_object hobj fun hgone => ?_, heq⟩
      rw [hgone] at heq
      cases heq
  | _ => cases hv

end Interface

/-- In every run an alert over a plant says "Good job!" and when to expect the reminder.
The trigger waits for just that long, or an hour longer for a plant that is watered
thrice a day: the alert says "in 4 hours" and the trigger waits 18000 seconds. -/
theorem alert_promises {images : ImageLoader UIImage} {count : String → Nat}
    {accounts : List Account} {database : Database} {h : List (Interface × InterfaceEvent)}
    {s : Interface} (hr : Run (Interface.step images count) (.launch accounts database) h s)
    {watering : Watering} {vc : PlantDetailViewController}
    (ha : s.plants = .alert watering vc) :
    ∃ k p phrase delay, vc.plant = some k ∧ (k, p) ∈ s.app.context.objects.list ∧
      watering.alertMessage = "Good job! We'll notify you " ++ phrase ++ " to water them again." ∧
      LocalNotifications.promised phrase = some delay ∧
      watering.timeInterval =
        (if p.frequency = some "Thrice a day" then delay + 60 * 60 else delay) ∧
      (p.frequency = some "Thrice a day" →
        phrase = "in 4 hours" ∧ watering.timeInterval = 18000) := by
  obtain ⟨-, -, hw⟩ := Interface.invariant hr
  have halerts := hr.invariant (I := fun s => (s.app.session.Hosted ∧ s.Live images) ∧ s.Alerts)
    ⟨Interface.launch_live accounts database, fun _ _ ht => by cases ht⟩
    fun s e s' hi hs => ⟨Interface.step_live hi.1 hs, hi.2.step hi.1.2 (Interface.step_outcome hs)⟩
  obtain ⟨k, p, hplant, hobj, hwater⟩ := halerts.2 watering vc ha
  obtain ⟨f, hf, hfreq⟩ := (hw.1 _ hobj).frequency
  obtain ⟨htime, hmessage⟩ := LocalNotifications.waterPlantNotification_times hwater
  obtain ⟨delay, hpromised, hdelay⟩ := LocalNotifications.promised_timeIntervalString hf
  rw [hfreq] at htime hmessage
  refine ⟨k, p, _, delay, hplant, hobj, hmessage, hpromised, ?_, fun hthrice => ?_⟩
  · rw [htime, hdelay, hfreq]
    simp only [Option.some.injEq]
  · rw [htime]
    rw [hfreq, Option.some.injEq] at hthrice
    subst hthrice
    exact ⟨rfl, rfl⟩

/-! ## A plant that is watered and deleted -/

/-- The plant that was opened is watered. -/
def wateredRun : List InterfaceEvent := openedRun ++ [.plantButtonTapped "first"]

/-- The state with the alert. -/
def watered : Interface :=
  endState (Interface.step bytesLoader String.length) (.launch [] []) wateredRun rfl

/-- It is watered again and deleted, and its user logs out. -/
def remindedRun : List InterfaceEvent :=
  wateredRun ++ [.okTapped, .rowSelected 0, .plantButtonTapped "second", .okTapped,
    .rowDeleted 0 ⟨true, true⟩, .session .settingsShown, .session .logoutButtonTapped,
    .session .launched]

/-- What happened until then. -/
def remindedHistory : List (Interface × InterfaceEvent) :=
  history (Interface.step bytesLoader String.length) (.launch [] []) remindedRun

/-- The state after the relaunch. -/
def reminded : Interface :=
  endState (Interface.step bytesLoader String.length) (.launch [] []) remindedRun rfl

theorem reminders_kept_reminded :
    reminded.notificationCenter = Interface.requests remindedHistory :=
  reminders_kept (endState_run rfl) (by decide)

/-- The plant is gone and both reminders are to come. -/
example : reminded.app.context.objects.list = [] ∧ reminded.notificationCenter.length = 2 := by
  decide

theorem frequencies_offered_reminded :
    reminded.app.context.All Plant.Offered ∧
      ∀ request ∈ reminded.notificationCenter,
        request.watering.timeInterval ∈ [86400, 28800, 18000] :=
  frequencies_offered (h := remindedHistory) (endState_run rfl)

theorem alert_promises_watered :
    ∃ watering vc, watered.plants = .alert watering vc ∧
      ∃ k p phrase delay, vc.plant = some k ∧ (k, p) ∈ watered.app.context.objects.list ∧
        watering.alertMessage = "Good job! We'll notify you " ++ phrase ++ " to water them again." ∧
        LocalNotifications.promised phrase = some delay ∧
        watering.timeInterval =
          (if p.frequency = some "Thrice a day" then delay + 60 * 60 else delay) ∧
        (p.frequency = some "Thrice a day" →
          phrase = "in 4 hours" ∧ watering.timeInterval = 18000) :=
  ⟨_, _, rfl, alert_promises (endState_run rfl) rfl⟩

end WaterMyPlants
