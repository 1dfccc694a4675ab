import GenericNode.Freefall.Notification

/-!
# Silence after the button

The buzzer never sounds in STOP2, and the button handler leaves it off, as long
as no alarm starts it again between the two calls of the handler that turn it off
and stop the timer.
-/

namespace GenericNode.Freefall

open GenericNode.Library
open GenericNode.Library.Prog
open GenericNode.Buzzer
open GenericNode.Lpm

/-- The timer of the buzzer puts out a tone. -/
structure PwmRunning (timer : BuzzerTimer) : Prop where
  clock : timer.clock = true
  started : timer.started = true
  tone : timer.compare ≠ 0

/-- STOP2 is forbidden. -/
structure Awake (stopModeDisable : GnseLpmBm) : Prop where
  forbids : Forbids stopModeDisable gnseLpmTimBuzzer
  sleep : gnseLpmEnterLowPower stopModeDisable = .sleep

/-- Everything that the notification uses is off. -/
structure Silent (device : Device) : Prop where
  buzzer : device.buzzer.buzzerState = .off
  isLinked : device.timer.isLinked = false
  isRunning : device.timer.isRunning = false
  stopMode : ¬ Forbids device.stopModeDisable gnseLpmTimBuzzer

/-- STOP2 is forbidden while the buzzer sounds, and after the button handler
everything is off. -/
structure Notified (state : Notification) : Prop where
  awake : PwmRunning state.device.buzzer.timer ∨ state.device.buzzer.buzzerState = .danger →
    Awake state.device.stopModeDisable
  silent : state.disabled = true → Silent state.device

/-- No expiry, or none that turns the buzzer on as the last one, comes between
the calls of the button handler that turn the buzzer off and stop the timer, and
the button handler does not return between a downlink and the start of the timer
for it. -/
def Untroubled (state : Notification) : NotificationEvent → Prop
  | .button _ => state.button.head? = some .utilTimerStop → state.raised = false
  | .thread _ => state.thread.head? = some .utilTimerStart → state.disabled = false
  | .downlink _ | .press | .expire | .alarm _ | .vote _ _ => True

instance (state : Notification) :
    ∀ event : NotificationEvent, Decidable (Untroubled state event)
  | .button _ => inferInstanceAs (Decidable (_ → _))
  | .thread _ => inferInstanceAs (Decidable (_ → _))
  | .downlink _ | .press | .expire | .alarm _ | .vote _ _ => .isTrue trivial

/-! ## The calls -/

/-- What the calls keep. -/
structure Sound (device : Device) : Prop where
  states : device.buzzer.buzzerState = .off ∨ device.buzzer.buzzerState = .danger
  tone : device.buzzer.buzzerState = .off → device.buzzer.timer.compare = 0
  mark : device.timer.isLinked = false → device.timer.isRunning = false
  awake : device.buzzer.buzzerState = .danger → Forbids device.stopModeDisable gnseLpmTimBuzzer

section Calls

variable {device : Device} (outcome : Outcome)

theorem callBuzzerSetState_state (succeeds : InitStatement → Bool) (state : BuzzerState)
    (buzzer : Driver) : (callBuzzerSetState succeeds state buzzer).buzzerState = state := by
  rw [callBuzzerSetState]
  split_ifs with other
  · cases state <;> rfl
  · exact (not_not.mp other).symm

theorem Sound.setOff (sound : Sound device) :
    Sound (Call.apply outcome device (.buzzerSetState .off)) := by
  have off := callBuzzerSetState_state outcome.succeeds .off device.buzzer
  refine ⟨.inl off, fun _ => ?_, sound.mark, fun danger => ?_⟩
  · change (callBuzzerSetState outcome.succeeds .off device.buzzer).timer.compare = 0
    rw [callBuzzerSetState]
    split_ifs with other
    · rfl
    · exact sound.tone (not_not.mp other).symm
  · cases off.symm.trans danger

theorem Sound.setDanger (sound : Sound device)
    (forbids : Forbids device.stopModeDisable gnseLpmTimBuzzer) :
    Sound (Call.apply outcome device (.buzzerSetState .danger)) := by
  have danger := callBuzzerSetState_state outcome.succeeds .danger device.buzzer
  refine ⟨.inr danger, fun off => ?_, sound.mark, fun _ => forbids⟩
  cases danger.symm.trans off

theorem Sound.deInit (sound : Sound device) :
    Sound (Call.apply outcome device .buzzerDeInit) :=
  ⟨sound.states, sound.tone, sound.mark, sound.awake⟩

theorem Sound.toggle (sound : Sound device) : Sound (Call.apply outcome device .toggle) :=
  ⟨sound.states, sound.tone, sound.mark, sound.awake⟩

theorem Sound.forbid (sound : Sound device) :
    Sound (Call.apply outcome device (.gnseLpmSetStopMode .disable)) :=
  ⟨sound.states, sound.tone, sound.mark, fun _ => forbids_setStopMode.mpr rfl⟩

theorem Sound.allow (sound : Sound device) (off : device.buzzer.buzzerState = .off) :
    Sound (Call.apply outcome device (.gnseLpmSetStopMode .enable)) := by
  refine ⟨sound.states, sound.tone, sound.mark, fun danger => ?_⟩
  cases off.symm.trans danger

theorem Sound.withTimer (sound : Sound device) {timer : DownlinkTimer}
    (mark : timer.isLinked = false → timer.isRunning = false) :
    Sound { device with timer := timer } :=
  ⟨sound.states, sound.tone, mark, sound.awake⟩

theorem Sound.start (sound : Sound device) :
    Sound (Call.apply outcome device .utilTimerStart) := by
  apply sound.withTimer
  rw [DownlinkTimer.start]
  split_ifs
  · intro isLinked
    cases isLinked
  · exact sound.mark

theorem Sound.create (sound : Sound device) :
    Sound (Call.apply outcome device .utilTimerCreate) :=
  sound.withTimer fun _ => rfl

theorem stop_eq (isEmpty : Bool) {timer : DownlinkTimer}
    (mark : timer.isLinked = false → timer.isRunning = false) :
    timer.stop isEmpty = ⟨false, false⟩ := by
  rw [DownlinkTimer.stop]
  split_ifs with empty
  · obtain ⟨isLinked, isRunning⟩ := timer
    have isLinked' : isLinked = false := empty.2
    have isRunning' : isRunning = false := mark empty.2
    rw [isLinked', isRunning']
  · rfl

theorem Sound.stop (sound : Sound device) :
    Sound (Call.apply outcome device .utilTimerStop) := by
  apply sound.withTimer
  rw [stop_eq outcome.isEmpty sound.mark]
  exact fun _ => rfl

theorem Sound.setPeriod (sound : Sound device) :
    Sound (Call.apply outcome device .utilTimerSetPeriod) := by
  apply sound.withTimer
  rw [DownlinkTimer.setPeriod]
  split_ifs
  · rw [stop_eq false sound.mark]
    intro isLinked
    cases isLinked
  · exact sound.mark

/-- The vote of another requester. -/
theorem Sound.vote (sound : Sound device) {requester : GnseLpmId}
    (other : requester ≠ gnseLpmTimBuzzer) (state : GnseLpmState) :
    Sound { device with
      stopModeDisable := Lpm.gnseLpmSetStopMode requester.bit state device.stopModeDisable } :=
  ⟨sound.states, sound.tone, sound.mark, fun danger =>
    (forbids_setStopMode_other (Ne.symm other)).mpr (sound.awake danger)⟩

end Calls

/-! ## The contexts -/

/-- The calls ahead in the alarm callback, and what they rely on. -/
inductive AlarmAt (device : Device) : List Call → Prop
  | idle : AlarmAt device []
  | forbid : AlarmAt device
      [.gnseLpmSetStopMode .disable, .buzzerSetState .danger, .toggle, .utilTimerStart]
  | danger (forbids : Forbids device.stopModeDisable gnseLpmTimBuzzer) :
      AlarmAt device [.buzzerSetState .danger, .toggle, .utilTimerStart]
  | off : AlarmAt device
      [.buzzerSetState .off, .buzzerDeInit, .gnseLpmSetStopMode .enable, .toggle, .utilTimerStart]
  | deInit (off : device.buzzer.buzzerState = .off) : AlarmAt device
      [.buzzerDeInit, .gnseLpmSetStopMode .enable, .toggle, .utilTimerStart]
  | allow (off : device.buzzer.buzzerState = .off) : AlarmAt device
      [.gnseLpmSetStopMode .enable, .toggle, .utilTimerStart]
  | toggle : AlarmAt device [.toggle, .utilTimerStart]
  | start : AlarmAt device [.utilTimerStart]

/-- The calls ahead in the alarm callback that turns the buzzer off, or none. -/
inductive OffAt (device : Device) : List Call → Prop
  | idle (off : device.buzzer.buzzerState = .off) : OffAt device []
  | off : OffAt device
      [.buzzerSetState .off, .buzzerDeInit, .gnseLpmSetStopMode .enable, .toggle, .utilTimerStart]
  | deInit (off : device.buzzer.buzzerState = .off) : OffAt device
      [.buzzerDeInit, .gnseLpmSetStopMode .enable, .toggle, .utilTimerStart]
  | allow (off : device.buzzer.buzzerState = .off) : OffAt device
      [.gnseLpmSetStopMode .enable, .toggle, .utilTimerStart]
  | toggle (off : device.buzzer.buzzerState = .off) : OffAt device [.toggle, .utilTimerStart]
  | start (off : device.buzzer.buzzerState = .off) : OffAt device [.utilTimerStart]

/-- The button handler has turned the buzzer off and not stopped the timer. -/
def Notification.InWindow (state : Notification) : Prop :=
  state.button = [.buzzerDeInit, .utilTimerStop, .gnseLpmSetStopMode .enable] ∨
    state.button = [.utilTimerStop, .gnseLpmSetStopMode .enable]

/-- The invariant of the three contexts. -/
structure Placed (state : Notification) : Prop where
  sound : Sound state.device
  thread : state.thread <:+ accFreeFallDownlinkHandler accFfDownlinkPort
  button : state.button <:+ accDisableFreeFallNotification
  stopped : state.button = [.gnseLpmSetStopMode .enable] →
    state.device.buzzer.buzzerState = .off ∧ state.device.timer.isLinked = false ∧
      state.alarm = []
  alarm : AlarmAt state.device state.alarm
  quiet : state.InWindow → state.raised = false → OffAt state.device state.alarm
  silent : state.disabled = true → Silent state.device ∧ state.alarm = []

theorem placed_boot : Placed notificationBoot where
  sound := by
    refine ⟨.inl rfl, fun _ => rfl, fun _ => rfl, fun danger => ?_⟩
    cases danger
  thread := List.nil_suffix
  button := List.nil_suffix
  stopped last := by cases last
  alarm := .idle
  quiet window _ := by rcases window with window | window <;> cases window
  silent disabled := by cases disabled

theorem accDownlinkCallback_at (device : Device) (toggle : Bool) :
    AlarmAt device (accDownlinkCallback toggle) := by
  cases toggle with
  | true => exact .forbid
  | false => exact .off

section Steps

variable {state : Notification} {outcome : Outcome}

/-- Only the state of the buzzer matters. -/
theorem OffAt.congr {device final : Device} {ahead : List Call} (quiet : OffAt device ahead)
    (same : final.buzzer.buzzerState = device.buzzer.buzzerState) : OffAt final ahead := by
  cases quiet with
  | idle off => exact .idle (same.trans off)
  | off => exact .off
  | deInit off => exact .deInit (same.trans off)
  | allow off => exact .allow (same.trans off)
  | toggle off => exact .toggle (same.trans off)
  | start off => exact .start (same.trans off)

theorem Notification.not_inWindow (idle : state.button = []) : ¬ state.InWindow := by
  rw [Notification.InWindow, idle]
  simp

theorem Placed.downlink (placed : Placed state) (port : ℕ)
    (enabled : notificationEnabled state (.downlink port)) :
    Placed (notificationStep (.downlink port) state) := by
  obtain ⟨-, button, -⟩ := enabled
  refine ⟨placed.sound, ?_, placed.button, placed.stopped, placed.alarm, placed.quiet, ?_⟩
  · change accFreeFallDownlinkHandler port <:+ _
    rw [accFreeFallDownlinkHandler]
    split_ifs
    · exact List.suffix_rfl
    · exact List.nil_suffix
  · intro disabled
    apply placed.silent
    change (if port = accFfDownlinkPort then false else state.disabled) = true at disabled
    split_ifs at disabled
    exact disabled

theorem Placed.press (placed : Placed state) : Placed (notificationStep .press state) := by
  refine ⟨placed.sound, placed.thread, List.suffix_rfl, fun last => ?_, placed.alarm,
    fun window _ => ?_, placed.silent⟩
  · cases last
  · rcases window with window | window <;> cases window

theorem Placed.expire (placed : Placed state) (enabled : notificationEnabled state .expire) :
    Placed (notificationStep .expire state) := by
  obtain ⟨-, isLinked⟩ := enabled
  refine ⟨placed.sound.withTimer fun _ => rfl, placed.thread, placed.button, fun last => ?_,
    accDownlinkCallback_at _ _, fun _ lowered => ?_, fun disabled => ?_⟩
  · rw [(placed.stopped last).2.1] at isLinked
    cases isLinked
  · change OffAt _ (accDownlinkCallback state.device.toggle)
    rw [show state.device.toggle = false from lowered]
    exact .off
  · rw [(placed.silent disabled).1.isLinked] at isLinked
    cases isLinked

theorem Placed.vote (placed : Placed state) {requester : GnseLpmId}
    (other : requester ≠ gnseLpmTimBuzzer) (vote : GnseLpmState) :
    Placed (notificationStep (.vote requester vote) state) := by
  have same : Forbids (Lpm.gnseLpmSetStopMode requester.bit vote state.device.stopModeDisable)
      gnseLpmTimBuzzer ↔ Forbids state.device.stopModeDisable gnseLpmTimBuzzer :=
    forbids_setStopMode_other (Ne.symm other)
  refine ⟨placed.sound.vote other vote, placed.thread, placed.button, placed.stopped, ?_,
    fun window lowered => (placed.quiet window lowered).congr rfl, fun disabled => ?_⟩
  · have alarm := placed.alarm
    change AlarmAt _ state.alarm
    generalize state.alarm = ahead at alarm
    cases alarm with
    | idle => exact .idle
    | forbid => exact .forbid
    | danger forbids => exact .danger (same.mpr forbids)
    | off => exact .off
    | deInit off => exact .deInit off
    | allow off => exact .allow off
    | toggle => exact .toggle
    | start => exact .start
  · obtain ⟨silent, idle⟩ := placed.silent disabled
    exact ⟨⟨silent.buzzer, silent.isLinked, silent.isRunning,
      fun forbids => silent.stopMode (same.mp forbids)⟩, idle⟩

/-- The calls of the downlink handler. -/
theorem thread_suffix {ahead : List Call}
    (suffix : ahead <:+ accFreeFallDownlinkHandler accFfDownlinkPort) :
    ahead = [.utilTimerCreate, .utilTimerSetPeriod, .utilTimerStart, .buzzerSetState .off] ∨
      ahead = [.utilTimerSetPeriod, .utilTimerStart, .buzzerSetState .off] ∨
      ahead = [.utilTimerStart, .buzzerSetState .off] ∨ ahead = [.buzzerSetState .off] ∨
      ahead = [] := by
  simpa only [accFreeFallDownlinkHandler, if_pos, List.suffix_cons_iff, List.suffix_nil]
    using suffix

/-- The calls of the button handler. -/
theorem button_suffix {ahead : List Call} (suffix : ahead <:+ accDisableFreeFallNotification) :
    ahead = [.buzzerSetState .off, .buzzerDeInit, .utilTimerStop, .gnseLpmSetStopMode .enable] ∨
      ahead = [.buzzerDeInit, .utilTimerStop, .gnseLpmSetStopMode .enable] ∨
      ahead = [.utilTimerStop, .gnseLpmSetStopMode .enable] ∨
      ahead = [.gnseLpmSetStopMode .enable] ∨ ahead = [] := by
  simpa only [accDisableFreeFallNotification, List.suffix_cons_iff, List.suffix_nil] using suffix

/-- Nothing that is off is switched on again by a call of the downlink handler
other than the start of the timer. -/
theorem Placed.continueThread (placed : Placed state) {device : Device} {ahead : List Call}
    (idle : state.alarm = []) (button : state.button = []) (sound : Sound device)
    (suffix : ahead <:+ accFreeFallDownlinkHandler accFfDownlinkPort)
    (silent : Silent state.device → state.disabled = true → Silent device) :
    Placed { state with device := device, thread := ahead } := by
  refine ⟨sound, suffix, placed.button, fun last => ?_, ?_,
    fun window => absurd window (Notification.not_inWindow button), fun disabled => ?_⟩
  · change state.button = _ at last
    rw [button] at last
    cases last
  · change AlarmAt device state.alarm
    rw [idle]
    exact .idle
  · exact ⟨silent (placed.silent disabled).1 disabled, idle⟩

theorem Placed.threadCall (placed : Placed state)
    (enabled : notificationEnabled state (.thread outcome))
    (untroubled : Untroubled state (.thread outcome)) :
    Placed (notificationStep (.thread outcome) state) := by
  obtain ⟨idle, button, busy⟩ := enabled
  have untroubled : state.thread.head? = some .utilTimerStart → state.disabled = false :=
    untroubled
  have sound := placed.sound
  have suffix := placed.thread
  have rest : ∀ {ahead : List Call}, ahead <:+ state.thread →
      ahead <:+ accFreeFallDownlinkHandler accFfDownlinkPort := fun later => later.trans suffix
  rcases thread_suffix suffix with thread | thread | thread | thread | thread
  · simp only [notificationStep, thread, nextCall, Call.Returns]
    apply placed.continueThread idle button (sound.create outcome)
    · exact rest (by rw [thread]; exact List.suffix_cons _ _)
    · intro silent _
      exact ⟨silent.buzzer, silent.isLinked, rfl, silent.stopMode⟩
  · simp only [notificationStep, thread, nextCall, Call.Returns]
    apply placed.continueThread idle button (sound.setPeriod outcome)
    · exact rest (by rw [thread]; exact List.suffix_cons _ _)
    · intro silent _
      have unlinked : state.device.timer.setPeriod = state.device.timer := by
        rw [DownlinkTimer.setPeriod, silent.isLinked]
        rfl
      refine ⟨silent.buzzer, ?_, ?_, silent.stopMode⟩
      · exact (congrArg DownlinkTimer.isLinked unlinked).trans silent.isLinked
      · exact (congrArg DownlinkTimer.isRunning unlinked).trans silent.isRunning
  · simp only [notificationStep, thread, nextCall, Call.Returns]
    apply placed.continueThread idle button (sound.start outcome)
    · exact rest (by rw [thread]; exact List.suffix_cons _ _)
    · intro _ disabled
      rw [untroubled (by rw [thread]; rfl)] at disabled
      cases disabled
  · simp only [notificationStep, thread, nextCall, Call.Returns]
    apply placed.continueThread idle button (sound.setOff outcome) List.nil_suffix
    intro silent _
    exact ⟨callBuzzerSetState_state _ _ _, silent.isLinked, silent.isRunning, silent.stopMode⟩
  · exact absurd thread busy

theorem Placed.buttonCall (placed : Placed state)
    (enabled : notificationEnabled state (.button outcome))
    (untroubled : Untroubled state (.button outcome)) :
    Placed (notificationStep (.button outcome) state) := by
  obtain ⟨idle, busy⟩ := enabled
  have untroubled : state.button.head? = some .utilTimerStop → state.raised = false :=
    untroubled
  have sound := placed.sound
  have alarm : ∀ device : Device, AlarmAt device state.alarm := by
    intro device
    rw [idle]
    exact .idle
  have quiet : ∀ {device : Device}, device.buzzer.buzzerState = .off →
      OffAt device state.alarm := by
    intro device off
    rw [idle]
    exact .idle off
  -- In the window no callback is under way, so the buzzer is off if none raised it.
  have off_of : state.InWindow → state.raised = false →
      state.device.buzzer.buzzerState = .off := by
    intro window lowered
    have quiet := placed.quiet window lowered
    rw [idle] at quiet
    cases quiet with
    | idle off => exact off
  rcases button_suffix placed.button with button | button | button | button | button
  · have off := callBuzzerSetState_state outcome.succeeds .off state.device.buzzer
    simp only [notificationStep, button, nextCall, Call.Returns]
    refine ⟨sound.setOff outcome, placed.thread, List.suffix_cons _ _, fun last => ?_, alarm _,
      fun _ _ => quiet off, fun disabled => ?_⟩
    · cases last
    · have silent := (placed.silent disabled).1
      exact ⟨⟨off, silent.isLinked, silent.isRunning, silent.stopMode⟩, idle⟩
  · have off := off_of (.inl button)
    by_cases returns : Call.Returns state.device .buzzerDeInit
    · simp only [notificationStep, button, nextCall, if_pos returns]
      refine ⟨sound.deInit outcome, placed.thread, ?_, fun last => ?_, alarm _,
        fun _ lowered => quiet (off lowered), fun disabled => ?_⟩
      · exact (List.suffix_cons _ _).trans (List.suffix_cons _ _)
      · cases last
      · have silent := (placed.silent disabled).1
        exact ⟨⟨silent.buzzer, silent.isLinked, silent.isRunning, silent.stopMode⟩, idle⟩
    · simp only [notificationStep, button, nextCall, if_neg returns]
      refine ⟨sound, placed.thread, List.suffix_cons _ _, fun last => ?_, alarm _,
        fun _ lowered => quiet (off lowered), fun disabled => placed.silent disabled⟩
      cases last
  · have off := off_of (.inr button) (untroubled (by rw [button]; rfl))
    have stopped := stop_eq outcome.isEmpty sound.mark
    simp only [notificationStep, button, nextCall, Call.Returns]
    refine ⟨sound.stop outcome, placed.thread, ?_, fun _ => ⟨off, ?_, idle⟩, alarm _,
      fun _ _ => quiet off, fun disabled => ?_⟩
    · exact ((List.suffix_cons _ _).trans (List.suffix_cons _ _)).trans (List.suffix_cons _ _)
    · exact congrArg DownlinkTimer.isLinked stopped
    · have silent := (placed.silent disabled).1
      exact ⟨⟨off, congrArg DownlinkTimer.isLinked stopped,
        congrArg DownlinkTimer.isRunning stopped, silent.stopMode⟩, idle⟩
  · rcases placed.stopped button with ⟨off, isLinked, -⟩
    simp only [notificationStep, button, nextCall, Call.Returns]
    refine ⟨sound.allow outcome off, placed.thread, List.nil_suffix, fun last => ?_, alarm _,
      fun _ _ => quiet off,
      fun _ => ⟨⟨off, isLinked, sound.mark isLinked, fun forbids => ?_⟩, idle⟩⟩
    · cases last
    · cases forbids_setStopMode.mp forbids
  · exact absurd button busy

/-- The alarm callback goes on; it never runs after the button handler. -/
theorem Placed.continueAlarm (placed : Placed state) {device : Device} {ahead : List Call}
    (busy : state.alarm ≠ []) (sound : Sound device) (alarm : AlarmAt device ahead)
    (quiet : OffAt state.device state.alarm → OffAt device ahead) :
    Placed { state with device := device, alarm := ahead } := by
  refine ⟨sound, placed.thread, placed.button, fun last => ?_, alarm,
    fun window lowered => quiet (placed.quiet window lowered), fun disabled => ?_⟩
  · exact absurd (placed.stopped last).2.2 busy
  · exact absurd (placed.silent disabled).2 busy

theorem Placed.alarmCall (placed : Placed state)
    (enabled : notificationEnabled state (.alarm outcome)) :
    Placed (notificationStep (.alarm outcome) state) := by
  have busy : state.alarm ≠ [] := enabled
  have sound := placed.sound
  have alarm := placed.alarm
  generalize ahead_eq : state.alarm = ahead at alarm
  cases alarm with
  | idle => exact absurd ahead_eq busy
  | forbid =>
      simp only [notificationStep, ahead_eq, nextCall, Call.Returns]
      refine placed.continueAlarm busy (sound.forbid outcome)
        (.danger (forbids_setStopMode.mpr rfl)) fun quiet => ?_
      rw [ahead_eq] at quiet
      cases quiet
  | danger forbids =>
      simp only [notificationStep, ahead_eq, nextCall, Call.Returns]
      refine placed.continueAlarm busy (sound.setDanger outcome forbids) .toggle fun quiet => ?_
      rw [ahead_eq] at quiet
      cases quiet
  | off =>
      have off := callBuzzerSetState_state outcome.succeeds .off state.device.buzzer
      simp only [notificationStep, ahead_eq, nextCall, Call.Returns]
      exact placed.continueAlarm busy (sound.setOff outcome) (.deInit off) fun _ => .deInit off
  | deInit off =>
      by_cases returns : Call.Returns state.device .buzzerDeInit
      · simp only [notificationStep, ahead_eq, nextCall, if_pos returns]
        exact placed.continueAlarm busy (sound.deInit outcome) (.allow off) fun _ => .allow off
      · simp only [notificationStep, ahead_eq, nextCall, if_neg returns]
        exact placed.continueAlarm busy sound (.deInit off) fun _ => .deInit off
  | allow off =>
      simp only [notificationStep, ahead_eq, nextCall, Call.Returns]
      exact placed.continueAlarm busy (sound.allow outcome off) .toggle fun _ => .toggle off
  | toggle =>
      simp only [notificationStep, ahead_eq, nextCall, Call.Returns]
      refine placed.continueAlarm busy (sound.toggle outcome) .start fun quiet => ?_
      rw [ahead_eq] at quiet
      cases quiet with
      | toggle off => exact .start off
  | start =>
      simp only [notificationStep, ahead_eq, nextCall, Call.Returns]
      refine placed.continueAlarm busy (sound.start outcome) .idle fun quiet => ?_
      rw [ahead_eq] at quiet
      cases quiet with
      | start off => exact .idle off

/-- Every event keeps the invariant. -/
theorem Placed.step (placed : Placed state) {event : NotificationEvent}
    (enabled : notificationEnabled state event) (untroubled : Untroubled state event) :
    Placed (notificationStep event state) := by
  cases event with
  | downlink port => exact placed.downlink port enabled
  | press => exact placed.press
  | expire => exact placed.expire enabled
  | thread outcome => exact placed.threadCall enabled untroubled
  | button outcome => exact placed.buttonCall enabled untroubled
  | alarm outcome => exact placed.alarmCall enabled
  | vote requester vote => exact placed.vote enabled vote

theorem Placed.notified (placed : Placed state) : Notified state := by
  refine ⟨fun sounds => ?_, fun disabled => (placed.silent disabled).1⟩
  have danger : state.device.buzzer.buzzerState = .danger := by
    rcases sounds with running | danger
    · rcases placed.sound.states with off | danger
      · exact absurd (placed.sound.tone off) running.tone
      · exact danger
    · exact danger
  have forbids := placed.sound.awake danger
  exact ⟨forbids, forbids.not_stop2⟩

end Steps

/-- In every untroubled run STOP2 is forbidden while the buzzer sounds, and the
button handler leaves everything off until the next downlink. -/
theorem notification_silenced {state : Notification}
    (reaches : notificationMachine.Reaches Untroubled notificationBoot state) :
    Notified state := by
  have placed : Placed state := by
    refine reaches.invariant placed_boot ?_
    intro before event placed enabled untroubled
    exact (wp_modify _ _ _).mpr (placed.step enabled untroubled)
  exact placed.notified

/-- The HAL succeeds, and other timers run. -/
def smooth : Outcome :=
  ⟨fun _ => true, false⟩

/-- A downlink, and the first alarm, which starts the buzzer. -/
def notify : List NotificationEvent :=
  .downlink accFfDownlinkPort :: List.replicate 4 (.thread smooth) ++
    .expire :: List.replicate 4 (.alarm smooth)

/-- The button after the first alarm; the second one comes when the handler has
turned the buzzer off, and turns it off again. -/
theorem button_silences :
    ∃ state : Notification, state.disabled = true ∧ Notified state := by
  have replayed : ∃ state, notificationMachine.replay Untroubled
      (notify ++ .press :: .button smooth :: .expire :: List.replicate 5 (.alarm smooth) ++
        List.replicate 3 (.button smooth)) notificationBoot = some state ∧
        state.disabled = true :=
    ⟨_, rfl, rfl⟩
  obtain ⟨state, replayed, disabled⟩ := replayed
  exact ⟨state, disabled, notification_silenced (Machine.reaches_of_replay _ replayed)⟩

/-- The third alarm comes when the button handler has turned the buzzer off and
has not stopped the timer. -/
theorem alarm_troubles :
    ∃ state, notificationMachine.Reaches (fun _ _ => True) notificationBoot state ∧
      ¬ Notified state := by
  have replayed : ∃ state, notificationMachine.replay (fun _ _ => True)
      (notify ++ .expire :: List.replicate 5 (.alarm smooth) ++
        .press :: List.replicate 2 (.button smooth) ++
        .expire :: List.replicate 4 (.alarm smooth) ++ List.replicate 2 (.button smooth))
      notificationBoot = some state ∧ state.disabled = true ∧
        state.device.buzzer.buzzerState = .danger :=
    ⟨_, rfl, rfl, rfl⟩
  obtain ⟨state, replayed, disabled, danger⟩ := replayed
  refine ⟨state, Machine.reaches_of_replay _ replayed, fun notified => ?_⟩
  have silent := notified.silent disabled
  cases danger.symm.trans silent.buzzer

end GenericNode.Freefall
