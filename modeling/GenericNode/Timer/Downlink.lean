import GenericNode.Timer.Expiry

/-!
# Downlinks

The downlink handlers of the applications create their timer again before they
start it.  The other timers are left alone unless that timer is linked before
one of them.
-/

namespace GenericNode.Timer

open GenericNode.Library
open GenericNode.Library.Prog
open GenericNode.Rtc

/-- `LmHandlerAppData_t`. -/
structure LmHandlerAppData where
  port : UInt8
  buffer : List UInt8
deriving DecidableEq, Repr

/-! ## The handlers -/

/-- The bytes of a downlink, the first one highest. -/
def rxBuffer : List UInt8 → UInt32
  | [] => 0
  | byte :: bytes => (byte.toUInt32 <<< (8 * bytes.length).toUInt32) + rxBuffer bytes

/-- `sensors_downlink_conf_check`, with the bounds of the interval and its unit
in milliseconds; zero when the downlink is refused. -/
def downlinkConfCheck (confMin confMax unit : UInt32) (appData : LmHandlerAppData) : UInt32 :=
  if appData.port = 1 ∧ appData.buffer.length ≤ 4 ∧ rxBuffer appData.buffer ≤ confMax ∧
      confMin ≤ rxBuffer appData.buffer then
    rxBuffer appData.buffer * unit
  else 0

/-- `sensors_downlink_conf_check` of `sensors_lorawan`. -/
def sensorsLorawanConfCheck : LmHandlerAppData → UInt32 :=
  downlinkConfCheck 5 8640 1000

/-- `sensors_downlink_conf_check` of `sensors_lorawan_se`. -/
def sensorsLorawanSeConfCheck : LmHandlerAppData → UInt32 :=
  downlinkConfCheck 1 8640 60000

section Handlers

variable {ι : Type} [Fintype ι] [DecidableEq ι]

/-- A timer is created, gets its period, and is started. -/
def createAndStart (timer : ι) (mode : UtilTimerMode) (period : ℕ) :
    Prog (TimerWorld ι) Unit := do
  utilTimerCreate timer 0xFFFFFFFF mode
  let _ ← utilTimerSetPeriod timer period
  let _ ← utilTimerStart timer

/-- `OnRxData`, with the check of the application. -/
def onRxData (confCheck : LmHandlerAppData → UInt32) (rxLedTimer txTimer : ι)
    (appData : LmHandlerAppData) : Prog (TimerWorld ι) Unit :=
  let rxbuffer := confCheck appData
  if rxbuffer ≠ 0 then do
    createAndStart rxLedTimer .periodic 200
    let _ ← utilTimerSetPeriod txTimer rxbuffer.toNat
  else
    createAndStart rxLedTimer .periodic 20

/-- `ACC_FreeFall_Downlink_Handler`, without the buzzer. -/
def accFreeFallDownlinkHandler (downlinkTimer : ι) (rxData : LmHandlerAppData) :
    Prog (TimerWorld ι) Unit :=
  if rxData.port = 1 then
    createAndStart downlinkTimer .oneshot 2000
  else
    return ()

/-- The timers of an application: the one that its downlink handler starts, and
`TxTimer`. -/
structure AppTimers (ι : Type) where
  own : ι
  txTimer : ι
  distinct : own ≠ txTimer

/-- The application that handles a downlink. -/
inductive DownlinkApp where
  | sensorsLorawan | sensorsLorawanSe | freefallLorawan
deriving DecidableEq, Repr

/-- The downlink handler of an application. -/
def DownlinkApp.handler (timers : AppTimers ι) (appData : LmHandlerAppData) :
    DownlinkApp → Prog (TimerWorld ι) Unit
  | .sensorsLorawan => onRxData sensorsLorawanConfCheck timers.own timers.txTimer appData
  | .sensorsLorawanSe => onRxData sensorsLorawanSeConfCheck timers.own timers.txTimer appData
  | .freefallLorawan => accFreeFallDownlinkHandler timers.own appData

/-- The downlink starts the timer of the application. -/
def DownlinkApp.Starts (appData : LmHandlerAppData) : DownlinkApp → Prop
  | .sensorsLorawan | .sensorsLorawanSe => True
  | .freefallLorawan => appData.port = 1

/-- The period that a downlink sets `TxTimer` to, if any. -/
def DownlinkApp.newPeriod (appData : LmHandlerAppData) : DownlinkApp → UInt32
  | .sensorsLorawan => sensorsLorawanConfCheck appData
  | .sensorsLorawanSe => sensorsLorawanSeConfCheck appData
  | .freefallLorawan => 0

instance (appData : LmHandlerAppData) : ∀ app : DownlinkApp, Decidable (app.Starts appData)
  | .sensorsLorawan | .sensorsLorawanSe => .isTrue trivial
  | .freefallLorawan => inferInstanceAs (Decidable (_ = _))

end Handlers

/-! ## Creating a timer again -/

section Created

variable {ι : Type} [DecidableEq ι] {world middle final : TimerWorld ι} {timers : List ι}
  {own : ι}

/-- A timer object was created. -/
structure Created (world : TimerWorld ι) (own : ι) (final : TimerWorld ι) : Prop where
  others : ∀ other, other ≠ own → final.objects other = world.objects other
  next : final.next own = none
  isRunning : (final.objects own).isRunning = false
  timerListHead : final.timerListHead = world.timerListHead
  rtc : final.rtc = world.rtc

theorem wp_utilTimerCreate (own : ι) (period : ℕ) (mode : UtilTimerMode) :
    wp (utilTimerCreate own period mode) (fun _ final => Created world own final) world := by
  rw [utilTimerCreate, wp_setObject]
  refine ⟨fun other different => update_other _ different, ?_, ?_, rfl, rfl⟩
  · rw [TimerWorld.next, update_same]
  · rw [update_same]

/-- A timer that is not linked may be created again. -/
theorem Created.linked (created : Created world own final) (linked : Linked world timers)
    (fresh : own ∉ timers) : Linked final timers := by
  have different : ∀ other ∈ timers, other ≠ own := by
    rintro other mem rfl
    exact fresh mem
  refine ⟨linked.chains.congr created.timerListHead fun other mem => ?_, fun other => ?_⟩
  · rw [TimerWorld.next, created.others other (different other mem)]
    rfl
  · by_cases here : other = own
    · subst here
      simp [created.isRunning, fresh]
    · rw [created.others other here, linked.running]

/-- So may the last timer of the list: its link is the null pointer anyway. -/
theorem Created.linkedBut (created : Created world own final) (linked : Linked world timers)
    (last : timers.getLast? = some own) : LinkedBut final timers own := by
  obtain ⟨before, rfl⟩ := List.getLast?_eq_some_iff.mp last
  have link : world.next own = none := Chain.head_eq (Chain.tail_of_mem linked.chains)
  refine ⟨linked.chains.congr created.timerListHead fun other mem => ?_, fun other different => ?_⟩
  · by_cases here : other = own
    · subst here
      rw [created.next, link]
    · rw [TimerWorld.next, created.others other here]
      rfl
  · rw [created.others other different]
    exact linked.running other

/-- The timer of an application was started by its downlink handler. -/
structure OwnStarted (world : TimerWorld ι) (timers : List ι) (own : ι) (final : TimerWorld ι) :
    Prop where
  linked : ∃ before after, before ++ after = timers.erase own ∧
    Linked final (before ++ own :: after)
  others : ∀ other, other ≠ own →
    (final.objects other).timing = (world.objects other).timing
  context : timers.erase own ≠ [] → final.rtc.rtcTimerContext = world.rtc.rtcTimerContext
  passed : world.rtc.Passed 8 final.rtc

/-- The timer is not linked. -/
theorem Created.start [Fintype ι] (created : Created world own middle)
    (linked : Linked world timers) (fresh : own ∉ timers) (period : ℕ) :
    wp (do let _ ← utilTimerSetPeriod own period; let _ ← utilTimerStart own)
      (fun _ final => OwnStarted world timers own final) middle := by
  have middle_linked := created.linked linked fresh
  rw [wp_bind]
  refine wp_mono (wp_utilTimerSetPeriod_unlinked middle_linked fresh period) ?_
  rintro _ reloaded rfl
  rw [wp_bind]
  refine wp_mono (wp_utilTimerStart (middle_linked.withReload own period) fresh) ?_
  intro _ final started
  rw [wp_pure]
  have erased : timers.erase own = timers := List.erase_of_not_mem fresh
  obtain ⟨before, after, split, final_linked⟩ := started.linked
  refine ⟨⟨before, after, ?_, final_linked⟩, fun other different => ?_, fun others => ?_, ?_⟩
  · rw [erased, split]
  · rw [started.others other different, withReload_other _ _ _ different,
      created.others other different]
  · rw [erased] at others
    rw [started.context others, withReload_rtc, created.rtc]
  · have passed := started.passed
    rw [withReload_rtc, created.rtc] at passed
    exact passed.mono (by decide)

/-- The timer is the last one of the list, and is stopped first. -/
theorem Created.restart [Fintype ι] (created : Created world own middle)
    (linked : Linked world timers) (last : timers.getLast? = some own) (period : ℕ) :
    wp (do let _ ← utilTimerSetPeriod own period; let _ ← utilTimerStart own)
      (fun _ final => OwnStarted world timers own final) middle := by
  have middle_linked := created.linkedBut linked last
  have mem : own ∈ timers := List.mem_of_getLast? last
  rw [wp_bind]
  refine wp_mono (wp_utilTimerSetPeriod_linked middle_linked mem period) ?_
  intro _ shown restarted
  obtain ⟨before, after, split, shown_linked⟩ := restarted.linked
  rw [wp_bind]
  refine wp_mono (wp_utilTimerStart_running shown_linked (by simp)) ?_
  rintro _ final ⟨-, rfl⟩
  rw [wp_pure]
  refine ⟨⟨before, after, split, shown_linked⟩, fun other different => ?_, fun others => ?_, ?_⟩
  · have settled : ¬ Promoted (middle.withReload own period) timers own other := by
      rintro ⟨⟨rest, rfl⟩, -⟩
      have distinct := List.nodup_cons.mp linked.chains.nodup
      rw [List.getLast?_cons_cons] at last
      exact distinct.1 (List.mem_of_getLast? last)
    rw [restarted.others other different settled, withReload_other _ _ _ different,
      created.others other different]
  · rw [restarted.context others, withReload_rtc, created.rtc]
  · have passed := restarted.passed
    rwa [withReload_rtc, created.rtc] at passed

theorem wp_createAndStart [Fintype ι] (linked : Linked world timers)
    (placed : own ∉ timers ∨ timers.getLast? = some own) (mode : UtilTimerMode) (period : ℕ) :
    wp (createAndStart own mode period) (fun _ final => OwnStarted world timers own final)
      world := by
  rw [createAndStart, wp_bind]
  refine wp_mono (wp_utilTimerCreate own _ mode) fun _ middle created => ?_
  rcases placed with fresh | last
  · exact created.start linked fresh period
  · exact created.restart linked last period

end Created

/-! ## What a downlink leaves alone -/

section Handled

variable {ι : Type} [DecidableEq ι]

/-- The timers of the list of the server, in their order. -/
def TimerWorld.linkedTimers [Fintype ι] (world : TimerWorld ι) : List ι :=
  walk world.next (walkFuel ι) world.timerListHead

/-- The second timer of a list that begins with the given one. -/
def second (timer : ι) : List ι → Option ι
  | first :: next :: _ => if first = timer then some next else none
  | [] | [_] => none

/-- When a timer is due, as the alarm is armed for it. -/
def TimerWorld.alarmTicks (world : TimerWorld ι) (timer : ι) : ℕ :=
  (world.rtc.rtcTimerContext.toNat + (world.objects timer).timestamp) % 2 ^ 32

/-- A timer has the same timestamp, relative to the same reference. -/
structure SameDeadline (before after : TimerWorld ι) (timer : ι) : Prop where
  timestamp : (after.objects timer).timestamp = (before.objects timer).timestamp
  context : after.rtc.rtcTimerContext = before.rtc.rtcTimerContext

/-- A downlink was handled: the list is sound, the other timers that run have
their deadlines, and `TxTimer` has its new period, if it got one. -/
structure Handled (timers : AppTimers ι) (app : DownlinkApp) (appData : LmHandlerAppData)
    (before after : TimerWorld ι) : Prop where
  formed : after.WellFormed
  running : ∀ other, other ≠ timers.own →
    ((after.objects other).isRunning = true ↔ (before.objects other).isRunning = true)
  others : ∀ other, other ≠ timers.own →
    (app.newPeriod appData ≠ 0 → other ≠ timers.txTimer) →
    (before.objects other).isRunning = true → SameDeadline before after other
  txTimer : app.newPeriod appData ≠ 0 → (before.objects timers.txTimer).isRunning = true →
    ∃ calls ≤ 16, after.alarmTicks timers.txTimer = (before.rtc.ticksAfter calls +
      max minAlarmDelay (gnseRtcConvertMs2Tick (app.newPeriod appData).toNat)) % 2 ^ 32

/-- The timer of the application is not linked or is the last one of the list,
and a restart of `TxTimer` neither wraps nor moves the timer behind it. -/
structure DownlinkFits [Fintype ι] (timers : AppTimers ι) (app : DownlinkApp)
    (appData : LmHandlerAppData) (world : TimerWorld ι) : Prop where
  placed : app.Starts appData → timers.own ∉ world.linkedTimers ∨
    world.linkedTimers.getLast? = some timers.own
  roomy : app.newPeriod appData ≠ 0 → timers.txTimer ∈ world.linkedTimers →
    world.rtc.Roomy 16
      (max minAlarmDelay (gnseRtcConvertMs2Tick (app.newPeriod appData).toNat))
  late : app.newPeriod appData ≠ 0 →
    ∀ other ∈ second timers.txTimer (world.linkedTimers.erase timers.own), ∀ calls ≤ 16,
      ¬ (world.objects other).timestamp <
        (world.rtc.elapsedAfter calls + minAlarmDelay) % 2 ^ 32

instance [Fintype ι] (timers : AppTimers ι) (app : DownlinkApp) (appData : LmHandlerAppData)
    (world : TimerWorld ι) : Decidable (DownlinkFits timers app appData world) :=
  decidable_of_iff (_ ∧ _ ∧ _)
    ⟨fun ⟨placed, roomy, late⟩ => ⟨placed, roomy, late⟩,
      fun fits => ⟨fits.placed, fits.roomy, fits.late⟩⟩

variable {world middle final : TimerWorld ι} {timers : List ι} {own tx other : ι}

omit [DecidableEq ι] in
theorem Linked.linkedTimers [Fintype ι] (linked : Linked world timers) :
    world.linkedTimers = timers :=
  Chain.walk_eq linked.chains _ linked.chains.length_lt

/-- What starting the timer of the application leaves alone. -/
theorem OwnStarted.running (started : OwnStarted world timers own final) (different : other ≠ own) :
    (final.objects other).isRunning = true ↔ (world.objects other).isRunning = true := by
  rw [isRunning_eq (started.others other different)]

theorem OwnStarted.deadline (started : OwnStarted world timers own final)
    (different : other ≠ own) (mem : other ∈ timers) : SameDeadline world final other := by
  have others : timers.erase own ≠ [] :=
    List.ne_nil_of_mem ((List.mem_erase_of_ne different).mpr mem)
  exact ⟨timestamp_eq (started.others other different), started.context others⟩

theorem OwnStarted.formed (started : OwnStarted world timers own final) : final.WellFormed := by
  obtain ⟨before, after, -, linked⟩ := started.linked
  exact ⟨_, linked⟩

/-- Behind `TxTimer`, only the timer of the application may have another place
than before. -/
theorem second_of_insert {before after rest : List ι} (split : before ++ after = timers)
    (shape : before ++ own :: after = tx :: other :: rest) (not_tx : tx ≠ own)
    (not_other : other ≠ own) : second tx timers = some other := by
  cases before with
  | nil =>
      rw [List.nil_append, List.cons.injEq] at shape
      exact absurd shape.1.symm not_tx
  | cons first before =>
      rw [List.cons_append, List.cons.injEq] at shape
      obtain ⟨rfl, shape⟩ := shape
      cases before with
      | nil =>
          rw [List.nil_append, List.cons.injEq] at shape
          exact absurd shape.1.symm not_other
      | cons next before =>
          rw [List.cons_append, List.cons.injEq] at shape
          obtain ⟨rfl, -⟩ := shape
          rw [← split]
          simp [second]

omit [DecidableEq ι] in
/-- A deadline that is counted from one of the next calls of the driver. -/
theorem alarmTicks_of_dueAfter {calls ticks : ℕ}
    (context : final.rtc.rtcTimerContext = world.rtc.rtcTimerContext)
    (timestamp : (final.objects tx).timestamp = world.rtc.elapsedAfter calls + ticks) :
    final.alarmTicks tx = (world.rtc.ticksAfter calls + ticks) % 2 ^ 32 := by
  have bound := world.rtc.rtcTimerContext.toNat_lt
  rw [TimerWorld.alarmTicks, context, timestamp, TimerRtc.elapsedAfter]
  omega

/-- What sets the period of `TxTimer`, while the timer of the application
runs. -/
structure Retuned (world : TimerWorld ι) (timers : List ι) (own tx : ι) (period : ℕ)
    (final : TimerWorld ι) : Prop where
  formed : final.WellFormed
  running : ∀ other, other ≠ own →
    ((final.objects other).isRunning = true ↔ (world.objects other).isRunning = true)
  others : ∀ other ∈ timers, other ≠ own → other ≠ tx → SameDeadline world final other
  txTimer : tx ∈ timers → ∃ calls ≤ 16, final.alarmTicks tx = (world.rtc.ticksAfter calls +
    max minAlarmDelay (gnseRtcConvertMs2Tick period)) % 2 ^ 32

/-- The timer that the restart of `TxTimer` makes the first one is left
alone. -/
theorem OwnStarted.timely (started : OwnStarted world timers own middle) (not_own : tx ≠ own)
    (mem : tx ∈ timers) {before after : List ι} (split : before ++ after = timers.erase own)
    (late : ∀ other ∈ second tx (timers.erase own), ∀ calls ≤ 16,
      ¬ (world.objects other).timestamp <
        (world.rtc.elapsedAfter calls + minAlarmDelay) % 2 ^ 32)
    (not_other : other ≠ own) (period : ℕ) :
    ¬ Promoted (middle.withReload tx period) (before ++ own :: after) tx other := by
  rintro ⟨⟨rest, shape⟩, soon⟩
  have behind : second tx (timers.erase own) = some other :=
    second_of_insert split shape not_own not_other
  have others : timers.erase own ≠ [] :=
    List.ne_nil_of_mem ((List.mem_erase_of_ne not_own).mpr mem)
  obtain ⟨calls, few, elapsed⟩ := started.passed.elapsedAfter (started.context others)
  have in_time := late other behind (calls + 1) (by linarith)
  rw [withReload_rtc, withReload_timestamp, elapsed,
    timestamp_eq (started.others other not_other)] at soon
  exact in_time soon

/-- `TxTimer` is restarted while the timer of the application runs. -/
theorem OwnStarted.retune [Fintype ι] (started : OwnStarted world timers own middle)
    (linked : Linked world timers) (not_own : tx ≠ own) (mem : tx ∈ timers) (period : ℕ)
    (roomy : world.rtc.Roomy 16 (max minAlarmDelay (gnseRtcConvertMs2Tick period)))
    (late : ∀ other ∈ second tx (timers.erase own), ∀ calls ≤ 16,
      ¬ (world.objects other).timestamp <
        (world.rtc.elapsedAfter calls + minAlarmDelay) % 2 ^ 32) :
    wp (utilTimerSetPeriod tx period) (fun _ final => Retuned world timers own tx period final)
      middle := by
  obtain ⟨before, after, split, middle_linked⟩ := started.linked
  have tx_mem : tx ∈ timers.erase own := (List.mem_erase_of_ne not_own).mpr mem
  have context := started.context (List.ne_nil_of_mem tx_mem)
  have listed : tx ∈ before ++ own :: after := by
    rw [← split, List.mem_append] at tx_mem
    rw [List.mem_append, List.mem_cons]
    exact tx_mem.imp id Or.inr
  have own_listed : own ∈ (before ++ own :: after).erase tx :=
    (List.mem_erase_of_ne not_own.symm).mpr (by simp)
  have kept := List.ne_nil_of_mem own_listed
  refine wp_mono (wp_utilTimerSetPeriod_linked (middle_linked.but tx) listed period) ?_
  intro _ final restarted
  have final_context : final.rtc.rtcTimerContext = world.rtc.rtcTimerContext := by
    rw [restarted.context kept, withReload_rtc, context]
  have timing : ∀ other, other ≠ own → other ≠ tx →
      (final.objects other).timing = (world.objects other).timing := by
    intro other not_other not_tx
    rw [restarted.others other not_tx
      (started.timely not_own mem split late not_other period),
      withReload_other _ _ _ not_tx, started.others other not_other]
  obtain ⟨front, back, restart_split, final_linked⟩ := restarted.linked
  refine ⟨restarted.wellFormed, fun other not_other => ?_, fun other _ not_other not_tx => ?_,
    fun _ => ?_⟩
  · by_cases here : other = tx
    · subst here
      rw [final_linked.running, linked.running]
      simp [mem]
    · rw [isRunning_eq (timing other not_other here)]
  · exact ⟨timestamp_eq (timing other not_other not_tx), final_context⟩
  · have room : middle.rtc.Roomy 4 (max minAlarmDelay (gnseRtcConvertMs2Tick period)) :=
      TimerRtc.Roomy.later (roomy.mono (by decide)) started.passed context
    have deadline := restarted.deadline kept _ rfl (by
      rw [withReload_reloadValue, withReload_rtc]
      exact room)
    obtain ⟨calls, few, timestamp⟩ := deadline
    obtain ⟨earlier, early, elapsed⟩ := started.passed.elapsedAfter context
    rw [withReload_rtc, withReload_reloadValue, elapsed] at timestamp
    exact ⟨earlier + calls, by linarith, alarmTicks_of_dueAfter final_context timestamp⟩

/-- A period is set while `TxTimer` does not run. -/
theorem OwnStarted.retune_idle [Fintype ι] (started : OwnStarted world timers own middle)
    (not_own : tx ≠ own) (fresh : tx ∉ timers) (period : ℕ) :
    wp (utilTimerSetPeriod tx period) (fun _ final => Retuned world timers own tx period final)
      middle := by
  obtain ⟨before, after, split, middle_linked⟩ := started.linked
  have unlisted : tx ∉ before ++ own :: after := by
    intro listed
    have listed : tx ∈ own :: (before ++ after) := by
      rwa [List.mem_cons, List.mem_append, or_left_comm, ← List.mem_cons, ← List.mem_append]
    rw [split] at listed
    rcases List.mem_cons.mp listed with here | listed
    · exact not_own here
    · exact fresh (List.mem_of_mem_erase listed)
  refine wp_mono (wp_utilTimerSetPeriod_unlinked middle_linked unlisted period) ?_
  rintro _ final rfl
  refine ⟨⟨_, middle_linked.withReload tx period⟩, fun other not_other => ?_,
    fun other mem not_other not_tx => ?_, fun mem => absurd mem fresh⟩
  · rw [withReload_isRunning]
    exact started.running not_other
  · have kept := started.deadline not_other mem
    constructor
    · rw [withReload_timestamp]
      exact kept.timestamp
    · exact kept.context

/-- The downlink starts the timer of the application. -/
theorem OwnStarted.handled {app : DownlinkApp} {appData : LmHandlerAppData}
    {app_timers : AppTimers ι} (started : OwnStarted world timers app_timers.own final)
    (linked : Linked world timers) (refused : app.newPeriod appData = 0) :
    Handled app_timers app appData world final := by
  refine ⟨started.formed, fun other different => started.running different,
    fun other different _ running => ?_, fun accepted => absurd refused accepted⟩
  exact started.deadline different ((linked.running other).mp running)

omit [DecidableEq ι] in
/-- It sets the period of `TxTimer` too. -/
theorem Retuned.handled {app : DownlinkApp} {appData : LmHandlerAppData}
    {app_timers : AppTimers ι}
    (retuned : Retuned world timers app_timers.own app_timers.txTimer
      (app.newPeriod appData).toNat final)
    (linked : Linked world timers) (accepted : app.newPeriod appData ≠ 0) :
    Handled app_timers app appData world final := by
  refine ⟨retuned.formed, retuned.running, fun other not_own not_tx running => ?_,
    fun _ running => ?_⟩
  · exact retuned.others other ((linked.running other).mp running) not_own (not_tx accepted)
  · exact retuned.txTimer ((linked.running _).mp running)

theorem wp_onRxData [Fintype ι] {app : DownlinkApp} {appData : LmHandlerAppData}
    {app_timers : AppTimers ι} {confCheck : LmHandlerAppData → UInt32}
    (newPeriod : app.newPeriod appData = confCheck appData) (starts : app.Starts appData)
    (linked : Linked world timers) (fits : DownlinkFits app_timers app appData world) :
    wp (onRxData confCheck app_timers.own app_timers.txTimer appData)
      (fun _ final => Handled app_timers app appData world final) world := by
  have placed := fits.placed starts
  have roomy := fits.roomy
  have late := fits.late
  rw [linked.linkedTimers] at placed roomy late
  have not_own : app_timers.txTimer ≠ app_timers.own := app_timers.distinct.symm
  rw [onRxData, ← newPeriod]
  by_cases accepted : app.newPeriod appData ≠ 0
  · rw [if_pos accepted, wp_bind]
    refine wp_mono (wp_createAndStart linked placed .periodic 200) fun _ middle started => ?_
    have retune : wp (utilTimerSetPeriod app_timers.txTimer (app.newPeriod appData).toNat)
        (fun _ final => Retuned world timers app_timers.own app_timers.txTimer
          (app.newPeriod appData).toNat final) middle := by
      by_cases mem : app_timers.txTimer ∈ timers
      · exact started.retune linked not_own mem _ (roomy accepted mem) (late accepted)
      · exact started.retune_idle not_own mem _
    rw [wp_bind]
    refine wp_mono retune fun _ final retuned => ?_
    rw [wp_pure]
    exact retuned.handled linked accepted
  · rw [if_neg accepted]
    refine wp_mono (wp_createAndStart linked placed .periodic 20) fun _ final started => ?_
    exact started.handled linked (not_not.mp accepted)

theorem wp_accFreeFallDownlinkHandler [Fintype ι] {appData : LmHandlerAppData}
    {app_timers : AppTimers ι} (linked : Linked world timers)
    (fits : DownlinkFits app_timers .freefallLorawan appData world) :
    wp (accFreeFallDownlinkHandler app_timers.own appData)
      (fun _ final => Handled app_timers .freefallLorawan appData world final) world := by
  rw [accFreeFallDownlinkHandler]
  by_cases starts : appData.port = 1
  · have placed := fits.placed starts
    rw [linked.linkedTimers] at placed
    rw [if_pos starts]
    refine wp_mono (wp_createAndStart linked placed .oneshot 2000) fun _ final started => ?_
    exact started.handled linked rfl
  · rw [if_neg starts, wp_pure]
    exact ⟨⟨timers, linked⟩, fun _ _ => Iff.rfl, fun _ _ _ _ => ⟨rfl, rfl⟩,
      fun accepted => absurd rfl accepted⟩

/-- A downlink that fits is handled. -/
theorem wp_handler [Fintype ι] {app_timers : AppTimers ι} {app : DownlinkApp}
    {appData : LmHandlerAppData} (linked : Linked world timers)
    (fits : DownlinkFits app_timers app appData world) :
    wp (app.handler app_timers appData)
      (fun _ final => Handled app_timers app appData world final) world := by
  cases app with
  | sensorsLorawan => exact wp_onRxData rfl trivial linked fits
  | sensorsLorawanSe => exact wp_onRxData rfl trivial linked fits
  | freefallLorawan => exact wp_accFreeFallDownlinkHandler linked fits

end Handled

end GenericNode.Timer
