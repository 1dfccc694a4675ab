import GenericNode.Library.Program
import GenericNode.Library.LinkedList
import GenericNode.Rtc.Ticks

/-!
# The timer server

`stm32_timer.c` over the RTC driver.  Timer objects live in memory and are
linked through their `Next` field; a list that does not end makes the loops
over it undefined.  Time passes at the calls of the driver.
-/

namespace GenericNode.Timer

open GenericNode.Library
open GenericNode.Library.Prog
open GenericNode.Rtc

/-- `UTIL_TIMER_Status_t`. -/
inductive UtilTimerStatus where
  | ok | invalidParam
deriving DecidableEq, Repr

/-- `UTIL_TIMER_Mode_t`. -/
inductive UtilTimerMode where
  | oneshot | periodic
deriving DecidableEq, Repr

/-- `UTIL_TIMER_Object_t`; the callback is known by the object. -/
structure UtilTimerObject (ι : Type) where
  timestamp : ℕ
  reloadValue : ℕ
  isPending : Bool
  isRunning : Bool
  isReloadStopped : Bool
  mode : UtilTimerMode
  next : Option ι

/-- The RTC as the timer server uses it: the ticks counted, the timer
reference, the armed alarm and its flag, and the ticks that pass at each call
of the driver; for the record, the ticks counted when the reference was set,
and the most ticks that passed before an alarm was armed. -/
structure TimerRtc where
  ticks : ℕ
  rtcTimerContext : UInt32
  alarm : Option ℕ
  alarmFlag : Bool
  calls : ℕ
  delays : ℕ → ℕ
  contextTicks : ℕ
  slowest : ℕ

/-- The timer objects, the head of the list, and the RTC. -/
structure TimerWorld (ι : Type) where
  objects : ι → UtilTimerObject ι
  timerListHead : Option ι
  rtc : TimerRtc

/-! ## The RTC driver -/

namespace TimerRtc

/-- The armed alarm is met within the next ticks. -/
def meetsAlarm (rtc : TimerRtc) (count : ℕ) : Bool :=
  match rtc.alarm with
  | some alarm => (alarm + 2 ^ 32 - (rtc.ticks + 1) % 2 ^ 32) % 2 ^ 32 < count
  | none => false

/-- Some ticks pass. -/
def pass (rtc : TimerRtc) (count : ℕ) : TimerRtc :=
  { rtc with ticks := rtc.ticks + count, alarmFlag := rtc.alarmFlag || rtc.meetsAlarm count }

/-- The ticks after the next calls of the driver. -/
def ticksAfter (rtc : TimerRtc) : ℕ → ℕ
  | 0 => rtc.ticks
  | calls + 1 => rtc.ticksAfter calls + rtc.delays (rtc.calls + calls)

/-- The elapsed time that the driver would read at one of its next calls. -/
def elapsedAfter (rtc : TimerRtc) (calls : ℕ) : ℕ :=
  (rtc.ticksAfter calls % 2 ^ 32 + 2 ^ 32 - rtc.rtcTimerContext.toNat) % 2 ^ 32

end TimerRtc

/-- `MIN_ALARM_DELAY`. -/
def minAlarmDelay : ℕ := 3

section Driver

variable {ι : Type}

/-- A world with another RTC. -/
def TimerWorld.withRtc (world : TimerWorld ι) (rtc : TimerRtc) : TimerWorld ι :=
  { world with rtc := rtc }

/-- Change the RTC. -/
def modifyRtc (change : TimerRtc → TimerRtc) : Prog (TimerWorld ι) Unit :=
  modify fun world => world.withRtc (change world.rtc)

/-- The time that passes at a call of the driver. -/
def elapse : Prog (TimerWorld ι) Unit :=
  modifyRtc fun rtc => { rtc.pass (rtc.delays rtc.calls) with calls := rtc.calls + 1 }

/-- `GetTimerTicks`: the counter, after the time that the read takes. -/
def getTimerTicks : Prog (TimerWorld ι) ℕ := do
  elapse
  gets fun world => world.rtc.ticks % 2 ^ 32

/-- `GNSE_RTC_StopTimer`. -/
def gnseRtcStopTimer : Prog (TimerWorld ι) Unit :=
  modifyRtc fun rtc => { rtc with alarm := none, alarmFlag := false }

/-- The alarm is armed for the counter value `timeout` ticks after the reference. -/
def gnseRtcStartTimer (timeout : ℕ) : Prog (TimerWorld ι) Unit := do
  gnseRtcStopTimer
  modifyRtc fun rtc => { rtc with slowest := max rtc.slowest (rtc.delays rtc.calls) }
  elapse
  modifyRtc fun rtc => { rtc with alarm := some ((timeout + rtc.rtcTimerContext.toNat) % 2 ^ 32) }

/-- `GNSE_RTC_SetTimerContext`: the reference is now. -/
def gnseRtcSetTimerContext : Prog (TimerWorld ι) ℕ := do
  let ticks ← getTimerTicks
  modifyRtc fun rtc =>
    { rtc with rtcTimerContext := UInt32.ofNat ticks, contextTicks := rtc.ticks }
  return ticks

/-- `GNSE_RTC_GetTimerContext`. -/
def gnseRtcGetTimerContext : Prog (TimerWorld ι) ℕ :=
  gets fun world => world.rtc.rtcTimerContext.toNat

/-- `GNSE_RTC_GetTimerElapsedTime`, in 32 bits. -/
def gnseRtcGetTimerElapsedTime : Prog (TimerWorld ι) ℕ := do
  let ticks ← getTimerTicks
  let context ← gnseRtcGetTimerContext
  return (ticks + 2 ^ 32 - context) % 2 ^ 32

end Driver

/-! ## The server -/

section Server

variable {ι : Type} [Fintype ι] [DecidableEq ι]

/-- Change one object. -/
def TimerWorld.update (world : TimerWorld ι) (timer : ι)
    (change : UtilTimerObject ι → UtilTimerObject ι) : TimerWorld ι :=
  { world with
    objects := Function.update world.objects timer (change (world.objects timer)) }

/-- Store to fields of an object. -/
def setObject (timer : ι) (change : UtilTimerObject ι → UtilTimerObject ι) :
    Prog (TimerWorld ι) Unit :=
  modify fun world => world.update timer change

/-- A world with another list head. -/
def TimerWorld.withHead (world : TimerWorld ι) (head : Option ι) : TimerWorld ι :=
  { world with timerListHead := head }

/-- Store the head of the list. -/
def setTimerListHead (head : Option ι) : Prog (TimerWorld ι) Unit :=
  modify fun world => world.withHead head

/-- Load a timer object. -/
def getObject (timer : ι) : Prog (TimerWorld ι) (UtilTimerObject ι) :=
  gets fun world => world.objects timer

/-- Load the head of the list. -/
def getTimerListHead : Prog (TimerWorld ι) (Option ι) :=
  gets TimerWorld.timerListHead

/-- The walks along the list visit every object at most once. -/
def walkFuel (ι : Type) [Fintype ι] : ℕ :=
  Fintype.card ι + 1

/-- One turn of `TimerExists`. -/
def timerExistsBody (timerObject : ι) (cur : Option ι) :
    Prog (TimerWorld ι) (Option ι ⊕ Bool) :=
  match cur with
  | none => return .inr false
  | some cur =>
      if cur = timerObject then return .inr true
      else do
        let object ← getObject cur
        return .inl object.next

/-- `TimerExists`: the object is in the list. -/
def timerExists (timerObject : ι) : Prog (TimerWorld ι) Bool := do
  let head ← getTimerListHead
  loop (timerExistsBody timerObject) (walkFuel ι) head

/-- `TimerSetTimeout`: no alarm is nearer than `minAlarmDelay`. -/
def timerSetTimeout (timerObject : ι) : Prog (TimerWorld ι) Unit := do
  setObject timerObject fun object => { object with isPending := true }
  let elapsed ← gnseRtcGetTimerElapsedTime
  let object ← getObject timerObject
  if object.timestamp < (elapsed + minAlarmDelay) % 2 ^ 32 then
    let elapsed ← gnseRtcGetTimerElapsedTime
    setObject timerObject fun object =>
      { object with timestamp := (elapsed + minAlarmDelay) % 2 ^ 32 }
  let object ← getObject timerObject
  gnseRtcStartTimer object.timestamp

/-- `TimerInsertNewHeadTimer`. -/
def timerInsertNewHeadTimer (timerObject : ι) : Prog (TimerWorld ι) Unit := do
  let cur ← getTimerListHead
  match cur with
  | some cur => setObject cur fun object => { object with isPending := false }
  | none => pure ()
  setObject timerObject fun object => { object with next := cur }
  setTimerListHead (some timerObject)
  timerSetTimeout timerObject

/-- One turn of the search for the place of a timer: `cur` and `next`. -/
def timerInsertTimerBody (timerObject : ι) (place : ι × Option ι) :
    Prog (TimerWorld ι) ((ι × Option ι) ⊕ Unit) := do
  let cur ← getObject place.1
  match cur.next with
  | some _ =>
      match place.2 with
      | some nextTimer =>
          let object ← getObject timerObject
          let next ← getObject nextTimer
          if object.timestamp > next.timestamp then
            return .inl (nextTimer, next.next)
          else
            setObject place.1 fun object => { object with next := some timerObject }
            setObject timerObject fun object => { object with next := some nextTimer }
            return .inr ()
      | none => undefined
  | none =>
      setObject place.1 fun object => { object with next := some timerObject }
      setObject timerObject fun object => { object with next := none }
      return .inr ()

/-- `TimerInsertTimer`: behind the timers that are earlier. -/
def timerInsertTimer (timerObject : ι) : Prog (TimerWorld ι) Unit := do
  let head ← getTimerListHead
  match head with
  | some head =>
      let first ← getObject head
      loop (timerInsertTimerBody timerObject) (walkFuel ι) (head, first.next)
  | none => undefined

/-- `UTIL_TIMER_Create`. -/
def utilTimerCreate (timerObject : ι) (periodValue : ℕ) (mode : UtilTimerMode) :
    Prog (TimerWorld ι) Unit :=
  setObject timerObject fun _ =>
    { timestamp := 0
      reloadValue := gnseRtcConvertMs2Tick periodValue
      isPending := false
      isRunning := false
      isReloadStopped := false
      mode := mode
      next := none }

/-- `UTIL_TIMER_Start` of a timer that does not run. -/
def utilTimerStart (timerObject : ι) : Prog (TimerWorld ι) UtilTimerStatus := do
  let linked ← timerExists timerObject
  let object ← getObject timerObject
  if linked = false ∧ object.isRunning = false then
    let ticks := if object.reloadValue < minAlarmDelay then minAlarmDelay else object.reloadValue
    setObject timerObject fun object =>
      { object with
        timestamp := ticks
        isPending := false
        isRunning := true
        isReloadStopped := false }
    let head ← getTimerListHead
    match head with
    | none =>
        let _ ← gnseRtcSetTimerContext
        timerInsertNewHeadTimer timerObject
    | some head =>
        let elapsedTime ← gnseRtcGetTimerElapsedTime
        setObject timerObject fun object =>
          { object with timestamp := (object.timestamp + elapsedTime) % 2 ^ 32 }
        let object ← getObject timerObject
        let first ← getObject head
        if object.timestamp < first.timestamp then
          timerInsertNewHeadTimer timerObject
        else
          timerInsertTimer timerObject
    return .ok
  else
    return .invalidParam

/-- One turn of the search for a timer to unlink: `prev` and `cur`. -/
def utilTimerStopBody (timerObject : ι) (place : ι × Option ι) :
    Prog (TimerWorld ι) ((ι × Option ι) ⊕ Unit) :=
  match place.2 with
  | some cur => do
      let object ← getObject cur
      if cur = timerObject then
        setObject place.1 fun prev => { prev with next := object.next }
        return .inr ()
      else
        return .inl (cur, object.next)
  | none => return .inr ()

/-- `UTIL_TIMER_Stop` of the head. -/
def utilTimerStopHead (head : ι) : Prog (TimerWorld ι) Unit := do
  setObject head fun object => { object with isPending := false }
  let first ← getObject head
  match first.next with
  | some next =>
      setTimerListHead (some next)
      timerSetTimeout next
  | none =>
      gnseRtcStopTimer
      setTimerListHead none

/-- `UTIL_TIMER_Stop` in a list with a head. -/
def utilTimerStopLinked (timerObject head : ι) : Prog (TimerWorld ι) Unit := do
  setObject timerObject fun object => { object with isRunning := false }
  if head = timerObject then
    utilTimerStopHead head
  else
    loop (utilTimerStopBody timerObject) (walkFuel ι) (head, some head)

/-- `UTIL_TIMER_Stop`. -/
def utilTimerStop (timerObject : ι) : Prog (TimerWorld ι) UtilTimerStatus := do
  setObject timerObject fun object => { object with isReloadStopped := true }
  let head ← getTimerListHead
  match head with
  | some head =>
      utilTimerStopLinked timerObject head
      return .ok
  | none => return .ok

/-- `UTIL_TIMER_SetPeriod`, which starts a timer in the list anew. -/
def utilTimerSetPeriod (timerObject : ι) (newPeriodValue : ℕ) :
    Prog (TimerWorld ι) UtilTimerStatus := do
  setObject timerObject fun object =>
    { object with reloadValue := gnseRtcConvertMs2Tick newPeriodValue }
  let linked ← timerExists timerObject
  if linked then
    let _ ← utilTimerStop timerObject
    utilTimerStart timerObject
  else
    return .ok

/-- `UTIL_TIMER_StartWithPeriod`. -/
def utilTimerStartWithPeriod (timerObject : ι) (periodValue : ℕ) :
    Prog (TimerWorld ι) UtilTimerStatus := do
  setObject timerObject fun object =>
    { object with reloadValue := gnseRtcConvertMs2Tick periodValue }
  let linked ← timerExists timerObject
  if linked then
    let _ ← utilTimerStop timerObject
  utilTimerStart timerObject

/-- The walk of `UTIL_TIMER_IRQ_Handler` to the new reference. -/
def utilTimerShiftBody (deltaContext : ℕ) (cur : Option ι) :
    Prog (TimerWorld ι) (Option ι ⊕ Unit) :=
  match cur with
  | some cur => do
      setObject cur fun object =>
        { object with
          timestamp :=
            if object.timestamp > deltaContext then object.timestamp - deltaContext else 0 }
      let object ← getObject cur
      return .inl object.next
  | none => return .inr ()

/-- `UTIL_TIMER_IRQ_Handler` up to its loop over the expired timers. -/
def utilTimerIrqEnter : Prog (TimerWorld ι) Unit := do
  let old ← gnseRtcGetTimerContext
  let now ← gnseRtcSetTimerContext
  let head ← getTimerListHead
  loop (utilTimerShiftBody ((now + 2 ^ 32 - old) % 2 ^ 32)) (walkFuel ι) head

/-- The condition of the loop over the expired timers. -/
def utilTimerExpired (head : ι) : Prog (TimerWorld ι) Bool := do
  let object ← getObject head
  if object.timestamp = 0 then
    return true
  else
    let elapsed ← gnseRtcGetTimerElapsedTime
    return decide (object.timestamp < elapsed)

/-- The first timer has expired: it is unlinked for its callback. -/
def utilTimerUnlink (cur : ι) : Prog (TimerWorld ι) (Option ι) := do
  let object ← getObject cur
  setTimerListHead object.next
  setObject cur fun object => { object with isPending := false, isRunning := false }
  return some cur

/-- The first timer has not expired: its alarm is set, if it is not yet. -/
def utilTimerRearm (cur : ι) : Prog (TimerWorld ι) (Option ι) := do
  let object ← getObject cur
  if object.isPending = false then
    timerSetTimeout cur
  return none

/-- One test of the loop: the timer that is unlinked for its callback, or none
when the handler has set the alarm and ends. -/
def utilTimerIrqNext : Prog (TimerWorld ι) (Option ι) := do
  let head ← getTimerListHead
  match head with
  | some cur =>
      let expired ← utilTimerExpired cur
      if expired then utilTimerUnlink cur else utilTimerRearm cur
  | none => return none

/-- What follows the callback of an expired timer. -/
def utilTimerIrqReload (cur : ι) : Prog (TimerWorld ι) Unit := do
  let object ← getObject cur
  if object.mode = .periodic ∧ object.isReloadStopped = false then
    let _ ← utilTimerStart cur

end Server

end GenericNode.Timer
