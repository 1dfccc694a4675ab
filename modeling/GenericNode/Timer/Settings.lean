import GenericNode.Timer.Sections

/-!
# The settings of a timer

The server changes the mode and the period of a timer when it is told to, and
whether a timer runs when that timer is started, stopped or expires.
-/

namespace GenericNode.Timer

open GenericNode.Library
open GenericNode.Library.Prog
open GenericNode.Rtc

section Settings

variable {ι : Type} {world : TimerWorld ι} {timer : ι}

/-- A timer without what the server changes on its own. -/
def UtilTimerObject.settings (object : UtilTimerObject ι) : UtilTimerObject ι :=
  { object with timestamp := 0, isPending := false, isReloadStopped := false, next := none }

/-- The settings of all timers. -/
def TimerWorld.settings (world : TimerWorld ι) (timer : ι) : UtilTimerObject ι :=
  (world.objects timer).settings

/-- The calls of the driver leave the timers. -/
theorem keeps_modifyRtc (change : TimerRtc → TimerRtc) :
    Keeps TimerWorld.settings (modifyRtc change : Prog (TimerWorld ι) Unit) :=
  Keeps.modify fun _ => rfl

theorem keeps_getTimerTicks :
    Keeps TimerWorld.settings (getTimerTicks : Prog (TimerWorld ι) ℕ) :=
  (keeps_modifyRtc _).bind fun _ => .gets _

theorem keeps_elapsedTime :
    Keeps TimerWorld.settings (gnseRtcGetTimerElapsedTime : Prog (TimerWorld ι) ℕ) :=
  keeps_getTimerTicks.bind fun _ => (Keeps.gets _).bind fun _ => .pure _

theorem keeps_setContext :
    Keeps TimerWorld.settings (gnseRtcSetTimerContext : Prog (TimerWorld ι) ℕ) :=
  keeps_getTimerTicks.bind fun _ => (keeps_modifyRtc _).bind fun _ => .pure _

theorem keeps_startTimer (timeout : ℕ) :
    Keeps TimerWorld.settings (gnseRtcStartTimer timeout : Prog (TimerWorld ι) Unit) :=
  (keeps_modifyRtc _).bind fun _ => (keeps_modifyRtc _).bind fun _ =>
    (keeps_modifyRtc _).bind fun _ => keeps_modifyRtc _

theorem keeps_setHead (head : Option ι) :
    Keeps TimerWorld.settings (setTimerListHead head) :=
  Keeps.modify fun _ => rfl

variable [DecidableEq ι]

theorem update_settings (timer : ι) (change : UtilTimerObject ι → UtilTimerObject ι) :
    (world.update timer change).settings =
      Function.update world.settings timer (change (world.objects timer)).settings := by
  funext other
  by_cases here : other = timer
  · subst here
    rw [TimerWorld.settings, update_same, Function.update_self]
  · rw [TimerWorld.settings, update_other _ here, Function.update_of_ne here, TimerWorld.settings]

/-- A store to the other fields. -/
theorem keeps_setObject {α : Type} {change : UtilTimerObject ι → UtilTimerObject ι}
    {rest : Prog (TimerWorld ι) α}
    (same : ∀ object, (change object).settings = object.settings)
    (keeps : Keeps TimerWorld.settings rest) :
    Keeps TimerWorld.settings (do setObject timer change; rest) := by
  have stored : Keeps TimerWorld.settings (setObject timer change) := by
    apply Keeps.modify
    intro world
    rw [update_settings, same]
    exact Function.update_eq_self timer world.settings
  exact stored.bind fun _ => keeps

theorem keeps_setTimeout (timer : ι) :
    Keeps TimerWorld.settings (timerSetTimeout timer) := by
  unfold timerSetTimeout
  refine keeps_setObject (fun _ => rfl) ?_
  apply keeps_elapsedTime.bind
  intro elapsed
  apply (Keeps.gets _).bind
  intro object
  dsimp only
  split_ifs
  · apply keeps_elapsedTime.bind
    intro elapsed
    refine keeps_setObject (fun _ => rfl) ?_
    exact (Keeps.gets _).bind fun object => keeps_startTimer _
  · exact (Keeps.gets _).bind fun object => keeps_startTimer _

theorem keeps_insertNewHead (timer : ι) :
    Keeps TimerWorld.settings (timerInsertNewHeadTimer timer) := by
  apply (Keeps.gets _).bind
  intro cur
  have rest : Keeps TimerWorld.settings (do
      setObject timer fun object => { object with next := cur }
      setTimerListHead (some timer)
      timerSetTimeout timer) := by
    refine keeps_setObject (fun _ => rfl) ?_
    exact (keeps_setHead _).bind fun _ => keeps_setTimeout timer
  cases cur with
  | none => exact rest
  | some cur => exact keeps_setObject (fun _ => rfl) rest

theorem keeps_insertTimerBody (timer : ι) (place : ι × Option ι) :
    Keeps TimerWorld.settings (timerInsertTimerBody timer place) := by
  obtain ⟨cur, next⟩ := place
  unfold timerInsertTimerBody
  apply (Keeps.gets _).bind
  intro object
  dsimp only
  cases object.next with
  | none =>
      refine keeps_setObject (fun _ => rfl) ?_
      exact keeps_setObject (fun _ => rfl) (.pure _)
  | some _ =>
      cases next with
      | none => exact .undefined
      | some next =>
          apply (Keeps.gets _).bind
          intro object
          apply (Keeps.gets _).bind
          intro following
          split_ifs
          · exact .pure _
          · refine keeps_setObject (fun _ => rfl) ?_
            exact keeps_setObject (fun _ => rfl) (.pure _)

variable [Fintype ι]

theorem keeps_insertTimer (timer : ι) :
    Keeps TimerWorld.settings (timerInsertTimer timer) := by
  apply (Keeps.gets _).bind
  intro head
  cases head with
  | none => exact .undefined
  | some head =>
      apply (Keeps.gets _).bind
      intro first
      exact Keeps.loop (keeps_insertTimerBody timer) _ _

/-! ## Switching a timer on and off -/

/-- The settings after a timer was started or has ended. -/
def TimerWorld.switched (world : TimerWorld ι) (timer : ι) (isRunning : Bool) :
    ι → UtilTimerObject ι :=
  Function.update world.settings timer { world.settings timer with isRunning }

omit [Fintype ι] in
/-- What follows on the switch keeps the settings. -/
theorem wlp_switch {change : UtilTimerObject ι → UtilTimerObject ι} {isRunning : Bool}
    {α : Type} {rest : Prog (TimerWorld ι) α}
    (switches : ∀ object, (change object).settings = { object.settings with isRunning })
    (keeps : Keeps TimerWorld.settings rest) :
    wlp (do setObject timer change; rest)
      (fun _ final => final.settings = world.switched timer isRunning) world := by
  apply wlp_bind
  apply wlp_modify
  refine wlp_mono (keeps _) fun _ final same => ?_
  rw [same, update_settings, switches]
  rfl

theorem wlp_utilTimerStartSection (timer : ι) :
    wlp (utilTimerStartSection timer)
      (fun _ final => final.settings = world.switched timer true) world := by
  rw [utilTimerStartSection]
  apply wlp_bind
  apply wlp_gets
  apply wlp_switch fun _ => rfl
  apply (Keeps.gets _).bind
  intro head
  cases head with
  | none => exact keeps_setContext.bind fun _ => keeps_insertNewHead timer
  | some head =>
      apply keeps_elapsedTime.bind
      intro elapsed
      refine keeps_setObject (fun _ => rfl) ?_
      apply (Keeps.gets _).bind
      intro object
      apply (Keeps.gets _).bind
      intro first
      split_ifs
      · exact keeps_insertNewHead timer
      · exact keeps_insertTimer timer

omit [Fintype ι] in
theorem keeps_stopBody (timer : ι) (place : ι × Option ι) :
    Keeps TimerWorld.settings (utilTimerStopBody timer place) := by
  obtain ⟨prev, cur⟩ := place
  cases cur with
  | none => exact .pure _
  | some cur =>
      apply (Keeps.gets _).bind
      intro object
      dsimp only
      split_ifs
      · exact keeps_setObject (fun _ => rfl) (.pure _)
      · exact .pure _

omit [Fintype ι] in
theorem keeps_stopHead (head : ι) : Keeps TimerWorld.settings (utilTimerStopHead head) := by
  unfold utilTimerStopHead
  refine keeps_setObject (fun _ => rfl) ?_
  apply (Keeps.gets _).bind
  intro first
  cases first.next with
  | none => exact (keeps_modifyRtc _).bind fun _ => keeps_setHead _
  | some next => exact (keeps_setHead _).bind fun _ => keeps_setTimeout next

/-- A stop in an empty list leaves the timer as it is. -/
theorem wlp_utilTimerStop (timer : ι) :
    wlp (utilTimerStop timer) (fun _ final =>
      final.settings = if world.timerListHead = none then world.settings
        else world.switched timer false) world := by
  rw [utilTimerStop]
  apply wlp_bind
  apply wlp_modify
  apply wlp_bind
  apply wlp_gets
  have shown : (world.update timer fun object =>
      { object with isReloadStopped := true }).settings = world.settings := by
    rw [update_settings]
    exact Function.update_eq_self timer world.settings
  rw [update_timerListHead]
  cases world.timerListHead with
  | none =>
      apply wlp_pure
      rw [if_pos rfl, shown]
  | some head =>
      rw [if_neg (Option.some_ne_none head)]
      apply wlp_bind
      have linked : wlp (utilTimerStopLinked timer head)
          (fun _ final => final.settings = world.switched timer false)
          (world.update timer fun object => { object with isReloadStopped := true }) := by
        have same : (world.update timer fun object =>
            { object with isReloadStopped := true }).switched timer false =
              world.switched timer false := by
          rw [TimerWorld.switched, shown]
          rfl
        rw [← same]
        apply wlp_switch fun _ => rfl
        split_ifs
        · exact keeps_stopHead head
        · exact Keeps.loop (keeps_stopBody timer) _ _
      exact wlp_mono linked fun _ final switched => wlp_pure switched

/-! ## The alarm interrupt -/

omit [Fintype ι] in
theorem keeps_shiftBody (delta : ℕ) (cur : Option ι) :
    Keeps TimerWorld.settings (utilTimerShiftBody delta cur) := by
  cases cur with
  | none => exact .pure _
  | some cur =>
      unfold utilTimerShiftBody
      refine keeps_setObject (fun _ => rfl) ?_
      exact (Keeps.gets _).bind fun object => .pure _

theorem keeps_irqEnter :
    Keeps TimerWorld.settings (utilTimerIrqEnter : Prog (TimerWorld ι) Unit) := by
  unfold utilTimerIrqEnter
  apply (Keeps.gets _).bind
  intro old
  apply keeps_setContext.bind
  intro now
  apply (Keeps.gets _).bind
  intro head
  generalize (now + 2 ^ 32 - old) % 2 ^ 32 = delta
  exact Keeps.loop (keeps_shiftBody delta) _ _

omit [DecidableEq ι] [Fintype ι] in
theorem keeps_expired (head : ι) : Keeps TimerWorld.settings (utilTimerExpired head) := by
  unfold utilTimerExpired
  apply (Keeps.gets _).bind
  intro object
  split_ifs
  · exact .pure _
  · exact keeps_elapsedTime.bind fun elapsed => .pure _

omit [Fintype ι] in
theorem wlp_utilTimerUnlink (cur : ι) :
    wlp (utilTimerUnlink cur) (fun expired final => expired = some cur ∧
      final.settings = world.switched cur false) world := by
  unfold utilTimerUnlink
  apply wlp_bind
  apply wlp_gets
  apply wlp_bind
  apply wlp_modify
  apply wlp_bind
  apply wlp_modify
  apply wlp_pure
  refine ⟨rfl, ?_⟩
  rw [update_settings]
  rfl

omit [Fintype ι] in
theorem wlp_utilTimerRearm (cur : ι) :
    wlp (utilTimerRearm cur) (fun expired final => expired = none ∧
      final.settings = world.settings) world := by
  unfold utilTimerRearm
  apply wlp_bind
  apply wlp_gets
  split_ifs
  · apply wlp_bind
    refine wlp_mono (keeps_setTimeout cur world) fun _ final same => ?_
    apply wlp_pure
    exact ⟨rfl, same⟩
  · apply wlp_pure
    exact ⟨rfl, rfl⟩

omit [Fintype ι] in
/-- The timer that expires is the first one, and has ended. -/
theorem wlp_utilTimerIrqNext :
    wlp (utilTimerIrqNext : Prog (TimerWorld ι) (Option ι)) (fun expired final =>
      final.settings = expired.elim world.settings (world.switched · false) ∧
        ∀ cur ∈ expired, world.timerListHead = some cur) world := by
  rw [utilTimerIrqNext]
  apply wlp_bind
  apply wlp_gets
  cases first : world.timerListHead with
  | none =>
      apply wlp_pure
      refine ⟨rfl, ?_⟩
      rintro cur ⟨⟩
  | some head =>
      apply wlp_bind
      refine wlp_mono (keeps_expired head world) fun expired middle same => ?_
      cases expired with
      | true =>
          rw [if_pos rfl]
          refine wlp_mono (wlp_utilTimerUnlink head) ?_
          rintro _ final ⟨rfl, switched⟩
          refine ⟨?_, fun cur mem => mem⟩
          rw [switched, TimerWorld.switched, same]
          rfl
      | false =>
          rw [if_neg Bool.false_ne_true]
          refine wlp_mono (wlp_utilTimerRearm head) ?_
          rintro _ final ⟨rfl, still⟩
          refine ⟨still.trans same, ?_⟩
          rintro cur ⟨⟩

end Settings

end GenericNode.Timer
