import GenericNode.Library.Bytes
import GenericNode.Timer.DownlinkRuns

/-!
# The interval that a downlink sets

`sensors_downlink_conf_check` reads a big-endian number, and `OnRxData` sets
the period of `TxTimer` to it, by way of a restart.
-/

namespace GenericNode.Timer

open GenericNode.Library
open GenericNode.Library.Prog
open GenericNode.Rtc

/-! ## The number in a downlink -/

/-- Up to four bytes are read without loss. -/
theorem rxBuffer_toNat (bytes : List UInt8) (fits : bytes.length ≤ 4) :
    (rxBuffer bytes).toNat = bigEndian bytes := by
  induction bytes with
  | nil => rfl
  | cons byte bytes ih =>
      rw [List.length_cons] at fits
      have byte_lt := byte.toNat_lt
      have rest_lt := bigEndian_lt bytes
      have rest := ih (by omega)
      have shift : (8 * bytes.length).toUInt32.toNat = 8 * bytes.length := by
        rw [Nat.toUInt32_eq, UInt32.toNat_ofNat']
        omega
      have weight : 256 ^ bytes.length = 2 ^ (8 * bytes.length) := by
        rw [pow_mul]
        rfl
      have weight_le : 256 ^ bytes.length ≤ 256 ^ 3 :=
        Nat.pow_le_pow_right (by decide) (by omega)
      have whole : byte.toNat * 256 ^ bytes.length + bigEndian bytes < 2 ^ 32 := by
        calc byte.toNat * 256 ^ bytes.length + bigEndian bytes
            < 256 * 256 ^ bytes.length := by nlinarith
          _ ≤ 256 * 256 ^ 3 := Nat.mul_le_mul_left _ weight_le
          _ = 2 ^ 32 := by decide
      rw [rxBuffer, bigEndian_cons, UInt32.toNat_add, UInt32.toNat_shiftLeft, shift, rest,
        UInt8.toNat_toUInt32, Nat.mod_eq_of_lt (by omega : 8 * bytes.length < 32),
        Nat.shiftLeft_eq, ← weight]
      rw [Nat.mod_eq_of_lt (by omega : byte.toNat * 256 ^ bytes.length < 2 ^ 32),
        Nat.mod_eq_of_lt whole]

/-- The applications that are configured by a downlink. -/
inductive IntervalApp where
  | sensorsLorawan | sensorsLorawanSe
deriving DecidableEq, Repr

namespace IntervalApp

/-- `SENSORS_DUTYCYCLE_CONF_MIN_S`, `SENSORS_DUTYCYCLE_CONF_MIN_M`. -/
def confMin : IntervalApp → ℕ
  | .sensorsLorawan => 5
  | .sensorsLorawanSe => 1

/-- The milliseconds of the unit of the interval. -/
def unit : IntervalApp → ℕ
  | .sensorsLorawan => 1000
  | .sensorsLorawanSe => 60000

/-- `sensors_downlink_conf_check`. -/
def confCheck : IntervalApp → LmHandlerAppData → UInt32
  | .sensorsLorawan => sensorsLorawanConfCheck
  | .sensorsLorawanSe => sensorsLorawanSeConfCheck

/-- A downlink on the configuration port with a number in the range. -/
structure Accepts (app : IntervalApp) (appData : LmHandlerAppData) : Prop where
  port : appData.port = 1
  length : appData.buffer.length ≤ 4
  least : app.confMin ≤ bigEndian appData.buffer
  most : bigEndian appData.buffer ≤ 8640

/-- The interval of a downlink, in milliseconds. -/
def interval (app : IntervalApp) (appData : LmHandlerAppData) : ℕ :=
  bigEndian appData.buffer * app.unit

/-- The interval in ticks. -/
def ticks (app : IntervalApp) (appData : LmHandlerAppData) : ℕ :=
  gnseRtcConvertMs2Tick (app.interval appData)

variable {app : IntervalApp} {appData : LmHandlerAppData}

theorem confCheck_eq (app : IntervalApp) (appData : LmHandlerAppData) :
    app.confCheck appData =
      downlinkConfCheck (UInt32.ofNat app.confMin) 8640 (UInt32.ofNat app.unit) appData := by
  cases app <;> rfl

theorem Accepts.interval_lt (accepts : app.Accepts appData) :
    1000 ≤ app.interval appData ∧ app.interval appData ≤ 8640 * 60000 := by
  have least := accepts.least
  have most := accepts.most
  have interval : app.interval appData = bigEndian appData.buffer * app.unit := rfl
  cases app
  all_goals
    simp only [confMin] at least
    simp only [unit] at interval
    omega

/-- The interval counts at least the shortest alarm, and does not wrap. -/
theorem Accepts.ticks_eq (accepts : app.Accepts appData) :
    app.ticks appData = app.interval appData * 1024 / 1000 ∧
      max minAlarmDelay (app.ticks appData) = app.ticks appData := by
  obtain ⟨least, most⟩ := accepts.interval_lt
  have whole : app.ticks appData = app.interval appData * 1024 / 1000 := by
    rw [ticks, gnseRtcConvertMs2Tick, rtcNPredivS, Nat.shiftLeft_eq, Nat.mod_eq_of_lt (by omega)]
  refine ⟨whole, max_eq_right ?_⟩
  rw [whole, minAlarmDelay]
  omega

/-- The condition of the check. -/
theorem accepts_iff (app : IntervalApp) (appData : LmHandlerAppData) :
    (appData.port = 1 ∧ appData.buffer.length ≤ 4 ∧ rxBuffer appData.buffer ≤ 8640 ∧
      UInt32.ofNat app.confMin ≤ rxBuffer appData.buffer) ↔ app.Accepts appData := by
  have confMin : (UInt32.ofNat app.confMin).toNat = app.confMin := by
    cases app <;> rfl
  constructor
  · rintro ⟨port, length, most, least⟩
    rw [UInt32.le_iff_toNat_le, rxBuffer_toNat _ length] at most least
    rw [confMin] at least
    exact ⟨port, length, least, most⟩
  · rintro ⟨port, length, least, most⟩
    refine ⟨port, length, ?_, ?_⟩
    · rw [UInt32.le_iff_toNat_le, rxBuffer_toNat _ length]
      exact most
    · rw [UInt32.le_iff_toNat_le, rxBuffer_toNat _ length, confMin]
      exact least

/-- The value that is returned does not wrap. -/
theorem Accepts.toNat_confCheck (accepts : app.Accepts appData) :
    (app.confCheck appData).toNat = app.interval appData := by
  have most := accepts.interval_lt.2
  have unit : (UInt32.ofNat app.unit).toNat = app.unit := by
    cases app <;> rfl
  rw [confCheck_eq, downlinkConfCheck, if_pos ((accepts_iff app appData).mpr accepts),
    UInt32.toNat_mul, rxBuffer_toNat _ accepts.length, unit]
  exact Nat.mod_eq_of_lt (lt_of_le_of_lt most (by decide))

theorem confCheck_ne_zero_iff (app : IntervalApp) (appData : LmHandlerAppData) :
    app.confCheck appData ≠ 0 ↔ app.Accepts appData := by
  constructor
  · intro nonzero
    by_contra refused
    rw [confCheck_eq, downlinkConfCheck, if_neg fun fits =>
      refused ((accepts_iff app appData).mp fits)] at nonzero
    exact nonzero rfl
  · intro accepts zero
    have least := accepts.interval_lt.1
    rw [← accepts.toNat_confCheck, zero] at least
    exact absurd least (by decide)

end IntervalApp

/-! ## The start of a timer in a list -/

section Start

variable {ι : Type} [DecidableEq ι] {world final : TimerWorld ι} {timer head : ι} {rest : List ι}

/-- Setting the alarm for a timer arms it for the timer's deadline. -/
theorem wp_timerSetTimeout_armed :
    wp (timerSetTimeout timer) (fun _ final => final.timerListHead = world.timerListHead ∧
      final.rtc.alarm = some (final.alarmTicks timer)) world := by
  have started : ∀ middle : TimerWorld ι,
      wp (gnseRtcStartTimer (middle.objects timer).timestamp)
        (fun _ final => final.rtc.alarm = some (final.alarmTicks timer)) middle := by
    intro middle
    refine wp_mono (wp_gnseRtcStartTimer_alarm _) fun _ final started => ?_
    rw [started.alarm, TimerWorld.alarmTicks, started.objects, started.context, Nat.add_comm]
  refine wp_and (wp_mono wp_timerSetTimeout fun _ final set => set.timerListHead) ?_
  simp only [timerSetTimeout, wp_bind, wp_setObject, wp_gnseRtcGetTimerElapsedTime, wp_getObject,
    wp_ite]
  split_ifs
  · exact started _
  · exact started _

theorem wp_timerInsertNewHeadTimer_armed :
    wp (timerInsertNewHeadTimer timer) (fun _ final => final.timerListHead = some timer ∧
      final.rtc.alarm = some (final.alarmTicks timer)) world := by
  simp only [timerInsertNewHeadTimer, wp_bind, wp_getTimerListHead]
  cases world.timerListHead with
  | none =>
      simp only [wp_bind, wp_setObject, wp_setTimerListHead]
      exact wp_timerSetTimeout_armed
  | some first =>
      simp only [wp_bind, wp_setObject, wp_setTimerListHead]
      exact wp_timerSetTimeout_armed

/-- A timer was started in a list with a head: it counts its ticks from the
call that reads the elapsed time, or the shortest alarm, and the alarm follows
when it is the first timer. -/
structure StartedAt (world : TimerWorld ι) (ticks : ℕ) (timer : ι) (final : TimerWorld ι) :
    Prop where
  called : world.rtc.calls + 1 ≤ final.rtc.calls
  timestamp : (final.objects timer).timestamp = (ticks + world.rtc.elapsedAfter 1) % 2 ^ 32 ∨
    (ticks + world.rtc.elapsedAfter 1) % 2 ^ 32 <
        (world.rtc.elapsedAfter 2 + minAlarmDelay) % 2 ^ 32 ∧
      (final.objects timer).timestamp = (world.rtc.elapsedAfter 3 + minAlarmDelay) % 2 ^ 32
  first : final.timerListHead = some timer → final.rtc.alarm = some (final.alarmTicks timer)
  behind : final.timerListHead ≠ some timer →
    final.timerListHead = world.timerListHead ∧ final.rtc.alarm = world.rtc.alarm

theorem wp_start_at [Fintype ι] (linked : Linked world (head :: rest))
    (fresh : timer ∉ head :: rest) (ticks : ℕ) :
    wp (do
        let elapsedTime ← gnseRtcGetTimerElapsedTime
        setObject timer fun object =>
          { object with timestamp := (object.timestamp + elapsedTime) % 2 ^ 32 }
        let object ← getObject timer
        let first ← getObject head
        if object.timestamp < first.timestamp then
          timerInsertNewHeadTimer timer
        else
          timerInsertTimer timer)
      (fun _ final => StartedAt world ticks timer final)
      (world.update timer fun object => object.started ticks) := by
  rw [wp_bind, wp_gnseRtcGetTimerElapsedTime, wp_bind, wp_setObject]
  generalize middle_eq : TimerWorld.update _ timer _ = middle
  have self : (middle.objects timer).timestamp = (ticks + world.rtc.elapsedAfter 1) % 2 ^ 32 := by
    rw [← middle_eq, update_same, withRtc_objects, update_same]
    rfl
  have called : middle.rtc = world.rtc.called := by
    rw [← middle_eq]
    rfl
  have first : middle.timerListHead = world.timerListHead := by
    rw [← middle_eq]
    rfl
  have chains : middle.Chains (head :: rest) := by
    refine linked.chains.congr first fun other mem => ?_
    have different : other ≠ timer := by
      rintro rfl
      exact fresh mem
    rw [← middle_eq, TimerWorld.next, update_other _ different, withRtc_objects,
      update_other _ different]
    rfl
  simp only [wp_bind, wp_getObject, wp_ite]
  by_cases earlier : (middle.objects timer).timestamp < (middle.objects head).timestamp
  · rw [if_pos earlier]
    refine wp_mono (wp_and (wp_timerInsertNewHeadTimer chains fresh)
      wp_timerInsertNewHeadTimer_armed) ?_
    rintro _ final ⟨inserted, here, armed⟩
    obtain ⟨calls, -, calls_eq, -⟩ := inserted.passed
    have timestamp := timestamp_eq inserted.self
    rw [called, self] at timestamp
    refine ⟨?_, ?_, fun _ => armed, fun elsewhere => absurd here elsewhere⟩
    · rw [calls_eq, called]
      exact Nat.le_add_right _ _
    · rw [timestamp]
      simp only [TimerRtc.bumped, TimerRtc.elapsedAfter_called]
      split_ifs with soon
      · exact .inr ⟨soon, rfl⟩
      · exact .inl rfl
  · rw [if_neg earlier]
    refine wp_mono (wp_timerInsertTimer chains fresh) fun _ final inserted => ?_
    have same : final.timerListHead = some head := by
      rw [inserted.timerListHead, first, Chain.head_eq linked.chains, List.head?_cons]
    refine ⟨?_, ?_, fun here => ?_, fun _ => ?_⟩
    · rw [inserted.rtc, called]
      exact Nat.le_refl _
    · rw [timestamp_eq (inserted.timing timer), self]
      exact .inl rfl
    · rw [same, Option.some.injEq] at here
      subst here
      exact absurd List.mem_cons_self fresh
    · rw [inserted.timerListHead, first, inserted.rtc, called]
      exact ⟨rfl, rfl⟩

theorem wp_utilTimerStart_at [Fintype ι] {timers : List ι} (linked : Linked world timers)
    (fresh : timer ∉ timers) (others : timers ≠ []) :
    wp (utilTimerStart timer) (fun _ final =>
      StartedAt world (max minAlarmDelay (world.objects timer).reloadValue) timer final)
      world := by
  obtain ⟨head, rest, rfl⟩ := List.exists_cons_of_ne_nil others
  have stopped := linked.stopped fresh
  have ticks := alarmTicks_eq (world.objects timer).reloadValue
  have first : world.timerListHead = some head := Chain.head_eq linked.chains
  simp only [utilTimerStart, wp_bind]
  apply wp_timerExists linked.chains
  simp only [fresh, decide_false, wp_bind, wp_getObject, stopped, and_self, ↓reduceIte, ticks,
    wp_setObject, wp_getTimerListHead, update_timerListHead, first]
  have started := wp_start_at linked fresh (max minAlarmDelay (world.objects timer).reloadValue)
  simp only [wp_bind, wp_ite, wp_pure, wp_setObject, wp_getObject] at started ⊢
  exact started

/-- A timer that is created and started in a list leaves the alarm of the first
timer alone, unless it becomes the first one itself. -/
theorem wp_createAndStart_alarm [Fintype ι] {timers : List ι} (linked : Linked world timers)
    (fresh : timer ∉ timers) (others : timers ≠ []) (mode : UtilTimerMode) (period : ℕ) :
    wp (createAndStart timer mode period) (fun _ final => final.timerListHead ≠ some timer →
      final.timerListHead = world.timerListHead ∧ final.rtc.alarm = world.rtc.alarm) world := by
  rw [createAndStart, wp_bind]
  refine wp_mono (wp_utilTimerCreate timer _ mode) fun _ middle created => ?_
  have middle_linked := created.linked linked fresh
  rw [wp_bind]
  refine wp_mono (wp_utilTimerSetPeriod_unlinked middle_linked fresh period) ?_
  rintro _ reloaded rfl
  rw [wp_bind]
  refine wp_mono (wp_utilTimerStart_at (middle_linked.withReload timer period) fresh others) ?_
  intro _ final started
  rw [wp_pure]
  intro elsewhere
  obtain ⟨head, alarm⟩ := started.behind elsewhere
  constructor
  · rw [head, withReload_timerListHead, created.timerListHead]
  · rw [alarm, withReload_rtc, created.rtc]

end Start

/-! ## The restart of `TxTimer` -/

section Restart

variable {ι : Type} [DecidableEq ι] {world middle final : TimerWorld ι} {timers : List ι}
  {timer rxLed tx : ι} {ticks : ℕ}

/-- At none of the next calls of the driver does a timer of so many ticks fit
in the elapsed time. -/
def TimerRtc.Full (rtc : TimerRtc) (count ticks : ℕ) : Prop :=
  ∀ calls ≤ count, 2 ^ 32 ≤ rtc.elapsedAfter calls + ticks

instance (rtc : TimerRtc) (count ticks : ℕ) : Decidable (rtc.Full count ticks) :=
  inferInstanceAs (Decidable (∀ _ ≤ _, _))

/-- A timer is in the list of the server. -/
def TimerWorld.Lists (world : TimerWorld ι) (timer : ι) : Prop :=
  ∃ timers, Linked world timers ∧ timer ∈ timers

/-- `TxTimer` was left alone. -/
structure TxTimerKept (before after : TimerWorld ι) (txTimer : ι) : Prop where
  listed : after.Lists txTimer
  isRunning : (after.objects txTimer).isRunning = true
  reloadValue : (after.objects txTimer).reloadValue = (before.objects txTimer).reloadValue
  deadline : SameDeadline before after txTimer
  alarm : after.timerListHead = some txTimer →
    before.timerListHead = some txTimer ∧ after.rtc.alarm = before.rtc.alarm

/-- `TxTimer` was started again while other timers run. -/
structure TxTimerStarted (before after : TimerWorld ι) (txTimer : ι) (ticks : ℕ) : Prop where
  listed : after.Lists txTimer
  isRunning : (after.objects txTimer).isRunning = true
  reloadValue : (after.objects txTimer).reloadValue = ticks
  context : after.rtc.rtcTimerContext = before.rtc.rtcTimerContext
  alarm : after.timerListHead = some txTimer →
    after.rtc.alarm = some (after.alarmTicks txTimer)

/-- `TxTimer` was armed again: it is due its new period after one of the calls
of the driver, relative to the same reference. -/
structure TxTimerRearmed (before after : TimerWorld ι) (txTimer : ι) (ticks : ℕ) : Prop extends
    TxTimerStarted before after txTimer ticks where
  due : ∃ calls, before.rtc.calls + calls ≤ after.rtc.calls ∧
    (after.objects txTimer).timestamp = before.rtc.elapsedAfter calls + ticks

/-- `TxTimer` keeps its deadline when a downlink is refused. -/
theorem OwnStarted.txTimerKept (started : OwnStarted world timers rxLed final)
    (linked : Linked world timers) (different : tx ≠ rxLed) (mem : tx ∈ timers)
    (alarm : final.timerListHead ≠ some rxLed →
      final.timerListHead = world.timerListHead ∧ final.rtc.alarm = world.rtc.alarm) :
    TxTimerKept world final tx := by
  obtain ⟨before, after, split, final_linked⟩ := started.linked
  have tx_mem : tx ∈ timers.erase rxLed := (List.mem_erase_of_ne different).mpr mem
  refine ⟨⟨_, final_linked, ?_⟩, ?_, reloadValue_eq (started.others tx different),
    started.deadline different mem, fun first => ?_⟩
  · rw [← split, List.mem_append] at tx_mem
    rw [List.mem_append, List.mem_cons]
    exact tx_mem.imp id Or.inr
  · rw [started.running different]
    exact (linked.running tx).mpr mem
  · have elsewhere : final.timerListHead ≠ some rxLed := by
      rw [first]
      intro same
      exact different (Option.some.inj same)
    obtain ⟨head, same⟩ := alarm elsewhere
    exact ⟨head.symm.trans first, same⟩

omit [DecidableEq ι] in
/-- The timestamp that a start writes fits in the elapsed time. -/
theorem StartedAt.timestamp_lt (started : StartedAt world ticks timer final) :
    (final.objects timer).timestamp < 2 ^ 32 := by
  rcases started.timestamp with exactly | ⟨-, bumped⟩
  · rw [exactly]
    exact Nat.mod_lt _ (by decide)
  · rw [bumped]
    exact Nat.mod_lt _ (by decide)

omit [DecidableEq ι] in
/-- With room for it, a start counts from the call that reads the elapsed
time. -/
theorem StartedAt.due (started : StartedAt world ticks timer final)
    (young : world.rtc.elapsedAfter 1 + ticks < 2 ^ 32)
    (quick : world.rtc.elapsedAfter 2 + minAlarmDelay ≤ world.rtc.elapsedAfter 1 + ticks) :
    (final.objects timer).timestamp = world.rtc.elapsedAfter 1 + ticks := by
  rcases started.timestamp with exactly | ⟨early, -⟩
  · rw [exactly, Nat.add_comm, Nat.mod_eq_of_lt young]
  · rw [Nat.add_comm ticks, Nat.mod_eq_of_lt young,
      Nat.mod_eq_of_lt (quick.trans_lt young)] at early
    exact absurd early (not_lt.mpr quick)

/-- `UTIL_TIMER_SetPeriod` of a timer in a list with other ones. -/
theorem wp_utilTimerSetPeriod_at [Fintype ι] (linked : Linked world timers) (mem : timer ∈ timers)
    (others : timers.erase timer ≠ []) (period : ℕ) :
    wp (utilTimerSetPeriod timer period) (fun _ final => ∃ stopped,
      Stopped (world.withReload timer period) timers timer stopped ∧
      Started stopped (timers.erase timer) timer final ∧
      StartedAt stopped (max minAlarmDelay (gnseRtcConvertMs2Tick period)) timer final) world := by
  have reloaded := (linked.but timer).withReload period
  have fresh : timer ∉ timers.erase timer := linked.chains.nodup.not_mem_erase
  rw [utilTimerSetPeriod, wp_bind, wp_setObject, wp_bind]
  apply wp_timerExists reloaded.chains
  rw [wp_ite, if_pos (by simpa using mem), wp_bind]
  refine wp_mono (wp_utilTimerStop reloaded fun empty => ?_) fun _ stopped facts => ?_
  · rw [empty] at mem
    exact absurd mem List.not_mem_nil
  · have start_at := wp_utilTimerStart_at facts.linked fresh others
    rw [facts.reloadValue, withReload_reloadValue] at start_at
    exact wp_mono (wp_and (wp_utilTimerStart facts.linked fresh) start_at) fun _ final both =>
      ⟨stopped, facts, both⟩

/-- The period of `TxTimer` is set while the LED blinks. -/
theorem OwnStarted.restart [Fintype ι] (started : OwnStarted world timers rxLed middle)
    (different : tx ≠ rxLed) (mem : tx ∈ timers) (period : ℕ)
    (long : max minAlarmDelay (gnseRtcConvertMs2Tick period) = gnseRtcConvertMs2Tick period) :
    wp (utilTimerSetPeriod tx period) (fun _ final =>
      TxTimerStarted world final tx (gnseRtcConvertMs2Tick period) ∧
      (final.objects tx).timestamp < 2 ^ 32 ∧ final.rtc.calls ≤ world.rtc.calls + 16 ∧
      (world.rtc.Roomy 16 (gnseRtcConvertMs2Tick period) →
        TxTimerRearmed world final tx (gnseRtcConvertMs2Tick period))) middle := by
  obtain ⟨before, after, split, middle_linked⟩ := started.linked
  have tx_mem : tx ∈ timers.erase rxLed := (List.mem_erase_of_ne different).mpr mem
  have context := started.context (List.ne_nil_of_mem tx_mem)
  have listed : tx ∈ before ++ rxLed :: after := by
    rw [← split, List.mem_append] at tx_mem
    rw [List.mem_append, List.mem_cons]
    exact tx_mem.imp id Or.inr
  have rxLed_listed : rxLed ∈ (before ++ rxLed :: after).erase tx :=
    (List.mem_erase_of_ne different.symm).mpr (by simp)
  have others := List.ne_nil_of_mem rxLed_listed
  refine wp_mono (wp_utilTimerSetPeriod_at middle_linked listed others period) ?_
  rintro _ final ⟨stopped, halted, again, at_once⟩
  rw [long] at at_once
  have stopped_context : stopped.rtc.rtcTimerContext = world.rtc.rtcTimerContext := by
    rw [halted.context, withReload_rtc, context]
  obtain ⟨calls, few, calls_eq, elapsed⟩ :=
    (started.passed.trans halted.passed).counted stopped_context
  obtain ⟨later, later_few, later_calls, -⟩ := again.passed
  obtain ⟨front, back, -, final_linked⟩ := again.linked
  have kept : TxTimerStarted world final tx (gnseRtcConvertMs2Tick period) := by
    refine ⟨⟨_, final_linked, by simp⟩, (final_linked.running tx).mpr (by simp), ?_, ?_,
      at_once.first⟩
    · rw [again.reloadValue, halted.reloadValue, withReload_reloadValue]
    · rw [again.context others, stopped_context]
  refine ⟨kept, at_once.timestamp_lt, by linarith, fun roomy => ⟨kept, calls + 1, ?_, ?_⟩⟩
  · have called := at_once.called
    rwa [calls_eq] at called
  · obtain ⟨young, quick⟩ := roomy (calls + 1) (by linarith)
    rw [← elapsed] at young quick ⊢
    apply at_once.due young
    rwa [elapsed 2]

/-! ## The downlink -/

/-- What a downlink that sets the interval has to do. -/
structure IntervalPromised [Fintype ι] (app : IntervalApp) (rxLedTimer txTimer : ι)
    (appData : LmHandlerAppData) (world : TimerWorld ι) : Prop where
  checked : app.confCheck appData ≠ 0 ↔ app.Accepts appData
  value : app.Accepts appData → (app.confCheck appData).toNat = app.interval appData
  refused : ¬ app.Accepts appData →
    wp (onRxData app.confCheck rxLedTimer txTimer appData)
      (fun _ final => TxTimerKept world final txTimer) world
  accepted : app.Accepts appData →
    wp (onRxData app.confCheck rxLedTimer txTimer appData)
      (fun _ final => TxTimerRearmed world final txTimer (app.ticks appData)) world

/-- In a list where `TxTimer` runs and the LED does not blink, a downlink sets
the interval if there is room for it at every call of the driver that
`OnRxData` makes, and does not if there is room at none. -/
theorem onRxData_interval [Fintype ι] {app : IntervalApp} {appData : LmHandlerAppData}
    (linked : Linked world timers) (running : tx ∈ timers) (idle : rxLed ∉ timers) :
    ((app.Accepts appData → world.rtc.Roomy 16 (app.ticks appData)) →
        IntervalPromised app rxLed tx appData world) ∧
      (app.Accepts appData → world.rtc.Full 16 (app.ticks appData) →
        ¬ IntervalPromised app rxLed tx appData world) := by
  have different : tx ≠ rxLed := by
    rintro rfl
    exact idle running
  have started : ∀ period, wp (createAndStart rxLed .periodic period)
      (fun _ final => OwnStarted world timers rxLed final) world :=
    wp_createAndStart linked (.inl idle) .periodic
  have accepted : app.Accepts appData →
      wp (onRxData app.confCheck rxLed tx appData) (fun _ final =>
        TxTimerStarted world final tx (app.ticks appData) ∧
        (final.objects tx).timestamp < 2 ^ 32 ∧ final.rtc.calls ≤ world.rtc.calls + 16 ∧
        (world.rtc.Roomy 16 (app.ticks appData) →
          TxTimerRearmed world final tx (app.ticks appData))) world := by
    intro accepts
    have nonzero := (app.confCheck_ne_zero_iff appData).mpr accepts
    simp only [onRxData, if_pos nonzero, accepts.toNat_confCheck, wp_bind]
    refine wp_mono (started 200) fun _ middle facts => ?_
    have restart := facts.restart different running _ accepts.ticks_eq.2
    simp only [wp_pure] at restart ⊢
    exact restart
  constructor
  · intro roomy
    refine ⟨app.confCheck_ne_zero_iff appData, fun accepts => accepts.toNat_confCheck,
      fun refused => ?_, fun accepts => ?_⟩
    · have zero : ¬ app.confCheck appData ≠ 0 := fun nonzero =>
        refused ((app.confCheck_ne_zero_iff appData).mp nonzero)
      have alarm := wp_createAndStart_alarm linked idle (List.ne_nil_of_mem running) .periodic 20
      simp only [onRxData, if_neg zero]
      exact wp_mono (wp_and (started 20) alarm) fun _ final both =>
        both.1.txTimerKept linked different running both.2
    · exact wp_mono (accepted accepts) fun _ final facts => facts.2.2.2 (roomy accepts)
  · intro accepts full promised
    obtain ⟨_, final, -, ⟨-, timestamp_lt, few, -⟩, rearmed⟩ :=
      wp_and (accepted accepts) (promised.accepted accepts)
    obtain ⟨calls, during, due⟩ := rearmed.due
    have wraps := full calls (by linarith)
    rw [← due] at wraps
    exact absurd timestamp_lt (not_lt.mpr wraps)

end Restart

/-- The timers of the sensor applications, and two of the MAC. -/
inductive SensorTimer where
  | rxLed | txTimer | rxWindow | rejoin
deriving DecidableEq, Repr

instance : Fintype SensorTimer where
  elems := {.rxLed, .txTimer, .rxWindow, .rejoin}
  complete timer := by cases timer <;> decide

/-- An interval of one minute. -/
def minuteDownlink : LmHandlerAppData where
  port := 1
  buffer := [0, 60]

/-- `TxTimer` runs alone for ten seconds, with a reference of some age. -/
def quietLed (age : ℕ) : TimerWorld SensorTimer where
  objects
    | .txTimer => ⟨age + 10240, 10240, true, true, false, .periodic, none⟩
    | _ => ⟨0, 204, false, false, false, .periodic, none⟩
  timerListHead := some .txTimer
  rtc := ⟨age + 500, 500, some (age + 10740), false, 0, fun _ => 1, 500, 1⟩

theorem quietLed_linked (age : ℕ) : Linked (quietLed age) [.txTimer] := by
  constructor
  · exact Chain.node _ _ Chain.null
  · intro timer
    cases timer <;> simp [quietLed]

/-- A downlink in the middle of the interval is promised, and one to a
reference of nearly 2^32 ticks is not. -/
theorem quietLed_interval :
    IntervalPromised .sensorsLorawan .rxLed .txTimer minuteDownlink (quietLed 500) ∧
      ¬ IntervalPromised .sensorsLorawan .rxLed .txTimer minuteDownlink
        (quietLed (2 ^ 32 - 20020)) := by
  have accepts : IntervalApp.Accepts .sensorsLorawan minuteDownlink :=
    ⟨rfl, by decide, by decide, by decide⟩
  have roomy : (quietLed 500).rtc.Roomy 16
      (IntervalApp.ticks .sensorsLorawan minuteDownlink) := by decide
  have full : (quietLed (2 ^ 32 - 20020)).rtc.Full 16
      (IntervalApp.ticks .sensorsLorawan minuteDownlink) := by decide
  constructor
  · exact (onRxData_interval (quietLed_linked _) (by decide) (by decide)).1 fun _ => roomy
  · exact (onRxData_interval (quietLed_linked _) (by decide) (by decide)).2 accepts full

/-- The timers of the MAC run for weeks. -/
def sensorBoot : DownlinkRun SensorTimer :=
  downlinkBoot (fun timer => if timer = .txTimer then 10000 else 2097151999)
    (fun _ => .oneshot) 0 fun _ => 0

/-- The timers of that application. -/
def sensorTimers : AppTimers SensorTimer where
  own := .rxLed
  txTimer := .txTimer
  distinct := by decide

/-- No alarm comes before the reference is nearly 2^32 ticks old. -/
def oldInterval : List (DownlinkEvent SensorTimer) :=
  [.call (.start .rxWindow), .pass (2 ^ 31 - 20), .call (.start .rejoin),
    .call (.stop .rxWindow), .pass (2 ^ 31 - 20000), .call (.start .txTimer)]

/-- `TxTimer` is due in three ticks, not in a minute. -/
theorem oldInterval_soon :
    ∃ run : DownlinkRun SensorTimer,
      (downlinkMachine sensorTimers .sensorsLorawan).Reaches
        (downlinkFits sensorTimers .sensorsLorawan) sensorBoot run ∧
      Linked run.world [.txTimer, .rejoin] ∧
      ¬ IntervalPromised .sensorsLorawan .rxLed .txTimer minuteDownlink run.world := by
  have replayed : ∃ run : DownlinkRun SensorTimer, ∃ after : TimerWorld SensorTimer,
      (downlinkMachine sensorTimers .sensorsLorawan).replay
        (downlinkFits sensorTimers .sensorsLorawan) oldInterval sensorBoot = some run ∧
      run.world.linkedTimers = [.txTimer, .rejoin] ∧
      (onRxData (IntervalApp.confCheck .sensorsLorawan) .rxLed .txTimer minuteDownlink).run
        run.world = (some (), after) ∧
      (∀ calls ≤ 7, run.world.rtc.elapsedAfter calls = 2 ^ 32 - 20020) ∧
      after.rtc.calls ≤ run.world.rtc.calls + 7 ∧
      (after.objects .txTimer).timestamp = 2 ^ 32 - 20017 :=
    ⟨_, _, rfl, rfl, rfl, by decide, by decide, rfl⟩
  obtain ⟨run, after, replayed, timers, returned, elapsed, few, timestamp⟩ := replayed
  have reaches := Machine.reaches_of_replay _ replayed
  have promised : DownlinksPromised sensorTimers .sensorsLorawan run :=
    reaches.invariant (downlinksPromised_boot _ _ _ _) fun _ _ promised enabled fits =>
      promised.step enabled fits
  obtain ⟨linked_timers, linked⟩ := promised.formed
  obtain rfl : linked_timers = [.txTimer, .rejoin] := by
    rw [← linked.linkedTimers, timers]
  refine ⟨run, reaches, linked, fun interval => ?_⟩
  have accepts : IntervalApp.Accepts .sensorsLorawan minuteDownlink :=
    ⟨rfl, by decide, by decide, by decide⟩
  have rearmed := wp_result (interval.accepted accepts) returned
  obtain ⟨calls, during, due⟩ := rearmed.due
  have minute : IntervalApp.ticks .sensorsLorawan minuteDownlink = 61440 := by decide
  rw [timestamp, elapsed calls (by linarith), minute] at due
  exact absurd due (by decide)

end GenericNode.Timer
