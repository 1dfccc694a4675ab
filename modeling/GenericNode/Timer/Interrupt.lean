import GenericNode.Timer.Alarm

/-!
# The alarm interrupt

The handler moves the timers to a new reference and unlinks those that are due,
never one that is not; it leaves with the alarm armed for the first timer.
-/

namespace GenericNode.Timer

open GenericNode.Library
open GenericNode.Library.Prog
open GenericNode.Rtc

section Interrupt

variable {ι : Type} {world middle final : TimerWorld ι} {timers rest : List ι} {timer : ι}
  {due : ι → ℕ} {serving : Bool}

/-! ## The new reference -/

/-- The object of a timer that `UTIL_TIMER_IRQ_Handler` moves to the new reference. -/
def UtilTimerObject.shifted (object : UtilTimerObject ι) (delta : ℕ) : UtilTimerObject ι :=
  { object with
    timestamp := if object.timestamp > delta then object.timestamp - delta else 0 }

theorem shifted_timestamp (object : UtilTimerObject ι) (delta : ℕ) :
    (object.shifted delta).timestamp = object.timestamp - delta := by
  rw [UtilTimerObject.shifted]
  change (if object.timestamp > delta then object.timestamp - delta else 0) = _
  split_ifs <;> omega

theorem shifted_isPending (object : UtilTimerObject ι) (delta : ℕ) :
    (object.shifted delta).isPending = object.isPending := by
  rw [UtilTimerObject.shifted]

/-- A young reference is as old as the counter shows. -/
theorem TimerRtc.Exact.delta {rtc : TimerRtc} (exact : rtc.Exact)
    (young : rtc.ticksAfter 1 < rtc.contextTicks + 2 ^ 32) :
    rtc.contextTicks + (rtc.ticksAfter 1 % 2 ^ 32 + 2 ^ 32 - rtc.rtcTimerContext.toNat) % 2 ^ 32 =
      rtc.ticksAfter 1 :=
  TimerRtc.contextTicks_add_elapsedAfter exact young

/-- The timers are moved to the new reference. -/
structure Shifted (world : TimerWorld ι) (timers : List ι) (delta : ℕ) (final : TimerWorld ι) :
    Prop where
  moved : ∀ other ∈ timers, final.objects other = (world.objects other).shifted delta
  others : ∀ other, other ∉ timers → final.objects other = world.objects other
  rtc : final.rtc = world.rtc

variable [DecidableEq ι]

theorem wp_utilTimerShift_shifted (delta : ℕ) {pointer : Option ι}
    (chain : Chain world.next pointer rest) (fuel : ℕ) (enough : rest.length < fuel) :
    wp (loop (utilTimerShiftBody delta) fuel pointer)
      (fun _ final => Shifted world rest delta final) world := by
  induction rest generalizing world pointer fuel with
  | nil =>
      have last : pointer = none := chain.head_eq
      cases fuel with
      | zero => exact absurd enough (Nat.not_lt_zero _)
      | succ fuel =>
          rw [wp_loop_succ, last]
          simp only [utilTimerShiftBody, wp_pure]
          exact ⟨fun other mem => absurd mem List.not_mem_nil, fun _ _ => rfl, rfl⟩
  | cons cur rest ih =>
      have distinct := List.nodup_cons.mp chain.nodup
      obtain ⟨rfl, tail⟩ := Chain.cons_iff.mp chain
      cases fuel with
      | zero => exact absurd enough (Nat.not_lt_zero _)
      | succ fuel =>
          rw [wp_loop_succ]
          simp only [utilTimerShiftBody, wp_bind, wp_setObject, wp_getObject, wp_pure]
          refine wp_mono (ih ?_ fuel (Nat.lt_of_succ_lt_succ enough)) fun _ final shifted => ?_
          · rw [update_same]
            apply tail.congr
            intro other _
            rw [update_next]
            exact fun _ => rfl
          · refine ⟨fun other mem => ?_, fun other missing => ?_, shifted.rtc⟩
            · rcases List.mem_cons.mp mem with rfl | later
              · rw [shifted.others other distinct.1, update_same]
                rfl
              · have different : other ≠ cur := by
                  rintro rfl
                  exact distinct.1 later
                rw [shifted.moved other later, update_other _ different]
            · rw [List.mem_cons, not_or] at missing
              rw [shifted.others other missing.2, update_other _ missing.1]

/-- The timers are at the new reference, which is the present: no deadline is
before it. -/
structure Entered (world : TimerWorld ι) (timers : List ι) (final : TimerWorld ι) : Prop where
  deadline : ∀ other ∈ timers,
    final.deadline other = max (world.rtc.ticksAfter 1) (world.deadline other)
  pending : ∀ other ∈ timers, (final.objects other).isPending = (world.objects other).isPending
  contextTicks : final.rtc.contextTicks = world.rtc.ticksAfter 1
  ticks : final.rtc.ticks = world.rtc.ticksAfter 1
  slowest : final.rtc.slowest = world.rtc.slowest

/-- The handler starts with the timers at the new reference: those that are due
have the timestamp zero, the deadlines of the others are the same. -/
theorem wp_utilTimerIrqEnter_kept [Fintype ι] (timed : Timed due world timers)
    (alarm : ∀ head ∈ timers.head?, (world.objects head).isPending = true ∧
      world.rtc.alarm = some (world.deadline head % 2 ^ 32))
    (young : timers ≠ [] → world.rtc.ticksAfter 1 < world.rtc.contextTicks + 2 ^ 32) :
    wp utilTimerIrqEnter (fun _ final => Entered world timers final ∧ Timed due final timers ∧
      ∀ head ∈ timers.head?, Watched true final head) world := by
  have exact := timed.exact
  rw [utilTimerIrqEnter, wp_bind, gnseRtcGetTimerContext, wp_gets, wp_bind]
  refine wp_mono wp_gnseRtcSetTimerContext_exact fun now middle set => ?_
  obtain ⟨rfl, set⟩ := set
  have linked : Linked middle timers := by
    apply timed.linked.congr set.timerListHead
    · intro other
      rw [TimerWorld.next, set.objects]
      rfl
    · intro other
      rw [set.objects]
  have later := world.rtc.ticks_le_ticksAfter 1
  generalize delta_eq : (world.rtc.ticksAfter 1 % 2 ^ 32 + 2 ^ 32 -
    world.rtc.rtcTimerContext.toNat) % 2 ^ 32 = delta
  rw [wp_bind, wp_getTimerListHead]
  have walk := linked.chains.length_lt
  refine wp_mono (wp_and (wp_utilTimerShift_loop delta linked.chains linked _ walk)
    (wp_utilTimerShift_shifted delta linked.chains _ walk)) ?_
  rintro _ final ⟨final_linked, shifted⟩
  have objects : ∀ other ∈ timers, final.objects other = (world.objects other).shifted delta := by
    intro other mem
    rw [shifted.moved other mem, set.objects]
  have delta_of : ∀ other ∈ timers, world.rtc.contextTicks + delta = world.rtc.ticksAfter 1 := by
    intro other mem
    rw [← delta_eq]
    exact exact.delta (young (List.ne_nil_of_mem mem))
  have deadline : ∀ other ∈ timers, final.deadline other =
      max (world.rtc.ticksAfter 1) (world.deadline other) := by
    intro other mem
    have age := delta_of other mem
    rw [TimerWorld.deadline, shifted.rtc, set.contextTicks, objects other mem, shifted_timestamp,
      TimerWorld.deadline, ← age]
    omega
  have pending : ∀ other ∈ timers,
      (final.objects other).isPending = (world.objects other).isPending := by
    intro other mem
    rw [objects other mem, shifted_isPending]
  have entered : Entered world timers final := by
    refine ⟨deadline, pending, ?_, ?_, ?_⟩
    · rw [shifted.rtc, set.contextTicks]
    · rw [shifted.rtc, set.ticks]
    · rw [shifted.rtc, set.slowest]
  refine ⟨entered,
    ⟨final_linked, ?_, fun other mem => ?_, fun other mem => ?_, fun other mem => ?_⟩,
    fun head first => ?_⟩
  · rw [shifted.rtc]
    exact set.exact
  · rw [deadline other mem]
    exact (timed.due other mem).trans (Nat.le_max_right _ _)
  · rw [objects other mem, shifted_timestamp]
    exact (Nat.sub_le _ _).trans_lt (timed.fits other mem)
  · rw [pending other (List.mem_of_mem_tail mem)]
    exact timed.waiting other mem
  · have mem : head ∈ timers := List.mem_of_head? first
    obtain ⟨is_pending, armed⟩ := alarm head first
    have final_deadline := deadline head mem
    by_cases ahead : world.rtc.ticksAfter 1 < world.deadline head
    · left
      have before : world.rtc.Armed (world.deadline head) :=
        ⟨armed, .inr (.inl (later.trans_lt ahead))⟩
      refine ⟨(pending head mem).trans is_pending, ?_⟩
      rw [final_deadline, Nat.max_eq_right ahead.le, shifted.rtc]
      exact set.armed _ (before.called (timed.near mem))
    · right
      refine ⟨rfl, .inr ?_⟩
      have age := delta_of head mem
      rw [TimerWorld.deadline, ← age, Nat.add_lt_add_iff_left] at ahead
      rw [objects head mem, shifted_timestamp]
      exact Nat.sub_eq_zero_of_le (Nat.le_of_not_lt ahead)

omit [DecidableEq ι] in
/-- Reading the time leaves the timers timed. -/
theorem Timed.called (timed : Timed due world timers) :
    Timed due (world.withRtc world.rtc.called) timers :=
  ⟨timed.linked.congr rfl (fun _ => rfl) fun _ => rfl, timed.exact.called, timed.due, timed.fits,
    timed.waiting⟩

/-- What the test of the handler for an expired timer tells: it is due, or its
deadline is ahead of the time that is read. -/
structure ExpiryTest (due : ι → ℕ) (world : TimerWorld ι) (timer : ι) (rest : List ι)
    (expired : Bool) (final : TimerWorld ι) : Prop where
  objects : final.objects = world.objects
  passed : world.rtc.Passed 1 final.rtc
  contextTicks : final.rtc.contextTicks = world.rtc.contextTicks
  slowest : final.rtc.slowest = world.rtc.slowest
  timed : Timed due final (timer :: rest)
  armed : world.rtc.Armed (world.deadline timer) → final.rtc.Armed (final.deadline timer)
  late : expired = true → due timer ≤ final.rtc.ticks
  early : expired = false → (world.objects timer).timestamp ≠ 0 ∧
    final.rtc = world.rtc.called ∧ final.rtc.ticks ≤ world.deadline timer

omit [DecidableEq ι] in
theorem wp_utilTimerExpired_kept (timed : Timed due world (timer :: rest))
    (young : world.rtc.Young world.rtc.contextTicks 1 0) :
    wp (utilTimerExpired timer) (fun expired final => ExpiryTest due world timer rest expired final)
      world := by
  have mem : timer ∈ timer :: rest := List.mem_cons_self
  have before := timed.due timer mem
  have past := timed.exact.past
  have elapsed := TimerRtc.contextTicks_add_elapsedAfter timed.exact (young 1 (Nat.le_refl _))
  rw [TimerWorld.deadline] at before
  rw [utilTimerExpired, wp_bind, wp_getObject]
  by_cases zero : (world.objects timer).timestamp = 0
  · rw [if_pos zero, wp_pure]
    refine ⟨rfl, .refl, rfl, rfl, timed, id, fun _ => ?_, fun expired => ?_⟩
    · omega
    · cases expired
  · rw [if_neg zero, wp_bind, wp_gnseRtcGetTimerElapsedTime, wp_pure]
    refine ⟨rfl, .called, rfl, rfl, timed.called, fun armed => armed.called (timed.near mem),
      fun expired => ?_, fun expired => ⟨zero, rfl, ?_⟩⟩
    · have late := of_decide_eq_true expired
      change due timer ≤ world.rtc.ticksAfter 1
      omega
    · have early := of_decide_eq_false expired
      change world.rtc.ticksAfter 1 ≤ world.rtc.contextTicks + _
      omega

/-- What a test of the handler has made of a list: there was none, the first
timer is unlinked, its alarm is armed already, or it was set. -/
inductive Tested (world : TimerWorld ι) (timers : List ι) (final : TimerWorld ι) :
    Option ι → List ι → Prop
  | empty (none_left : timers = []) (same : final = world) : Tested world timers final none []
  | unlinked (cur : ι) (rest : List ι) (split : timers = cur :: rest)
      (timestamp : ∀ other ∈ rest,
        (final.objects other).timestamp = (world.objects other).timestamp)
      (idle : ∀ head ∈ rest.head?, (final.objects head).isPending = false)
      (contextTicks : final.rtc.contextTicks = world.rtc.contextTicks)
      (ticks : world.rtc.ticks ≤ final.rtc.ticks)
      (slowest : final.rtc.slowest = world.rtc.slowest) : Tested world timers final (some cur) rest
  | armed (cur : ι) (rest : List ι) (split : timers = cur :: rest)
      (pending : (world.objects cur).isPending = true)
      (ahead : (world.objects cur).timestamp ≠ 0) (objects : final.objects = world.objects)
      (rtc : final.rtc = world.rtc.called) : Tested world timers final none timers
  | rearmed (middle : TimerWorld ι) (cur : ι) (rest : List ι) (split : timers = cur :: rest)
      (idle : (world.objects cur).isPending = false)
      (ahead : (world.objects cur).timestamp ≠ 0)
      (early : middle.rtc.ticks ≤ world.deadline cur)
      (objects : middle.objects = world.objects) (rtc : middle.rtc = world.rtc.called)
      (rearmed : Rearmed middle cur final) : Tested world timers final none timers

/-- The first timer is unlinked. -/
theorem Timed.unlinkFirst (timed : Timed due world (timer :: rest)) :
    wp (utilTimerUnlink timer) (fun expired final => expired = some timer ∧
      Timed due final rest ∧ (∀ head ∈ rest.head?, (final.objects head).isPending = false) ∧
      (∀ other ∈ rest, (final.objects other).timestamp = (world.objects other).timestamp) ∧
      final.rtc = world.rtc) world := by
  have distinct := List.nodup_cons.mp timed.linked.chains.nodup
  have linked := timed.linked.tail
  rw [utilTimerUnlink, wp_bind, wp_getObject, wp_bind, wp_setTimerListHead, wp_bind, wp_setObject,
    wp_pure]
  have same : ∀ other ∈ rest, ((world.withHead (world.objects timer).next).update timer fun object =>
      { object with isPending := false, isRunning := false }).objects other =
        world.objects other := by
    intro other mem
    have different : other ≠ timer := by
      rintro rfl
      exact distinct.1 mem
    rw [update_other _ different, withHead_objects]
  refine ⟨rfl, timed.of_timing linked (fun _ => List.mem_cons_of_mem _)
    (fun _ => List.mem_of_mem_tail) rfl (fun other mem => ?_) fun other mem => ?_,
    fun head first => ?_, fun other mem => ?_, rfl⟩
  · rw [same other mem]
  · rw [same other mem]
  · have mem : head ∈ rest := List.mem_of_head? first
    rw [same head mem]
    exact timed.waiting head mem
  · rw [same other mem]

/-- The alarm is set for the first timer, unless it is set already. -/
theorem Timed.rearm (timed : Timed due world (timer :: rest))
    (watched : (world.objects timer).isPending = true → world.rtc.Armed (world.deadline timer))
    (young : world.rtc.Young world.rtc.contextTicks 2 minAlarmDelay) :
    wp (utilTimerRearm timer) (fun expired final => expired = none ∧
      Timed due final (timer :: rest) ∧ Watched false final timer ∧
      ((world.objects timer).isPending = true ∧ final = world ∨
        (world.objects timer).isPending = false ∧ Rearmed world timer final)) world := by
  rw [utilTimerRearm, wp_bind, wp_getObject]
  cases pending : (world.objects timer).isPending with
  | false =>
      rw [if_pos rfl, wp_bind]
      refine wp_mono (timed.setTimeout young) ?_
      rintro _ final ⟨placed, armed, rearmed⟩
      rw [wp_pure]
      exact ⟨rfl, placed, armed, .inr ⟨rfl, rearmed⟩⟩
  | true =>
      rw [if_neg (by decide)]
      change wp (pure none) _ world
      rw [wp_pure]
      exact ⟨rfl, timed, .inl ⟨pending, watched pending⟩, .inl ⟨rfl, rfl⟩⟩

section Tested

variable {timers' : List ι} {expired : Option ι}

omit [DecidableEq ι] in
theorem Tested.ticks (tested : Tested world timers final expired timers') :
    world.rtc.ticks ≤ final.rtc.ticks := by
  cases tested with
  | empty none_left same => rw [same]
  | unlinked cur rest split timestamp idle contextTicks ticks slowest => exact ticks
  | armed cur rest split pending ahead objects rtc =>
      rw [rtc]
      exact Nat.le_add_right _ _
  | rearmed middle cur rest split idle ahead early objects rtc rearmed =>
      have ticks := rearmed.ticks
      rw [rtc] at ticks
      exact (Nat.le_add_right _ _).trans ticks

omit [DecidableEq ι] in
theorem Tested.slowest (tested : Tested world timers final expired timers') :
    world.rtc.slowest ≤ final.rtc.slowest := by
  cases tested with
  | empty none_left same => rw [same]
  | unlinked cur rest split timestamp idle contextTicks ticks slowest => rw [slowest]
  | armed cur rest split pending ahead objects rtc =>
      rw [rtc]
      exact Nat.le_refl _
  | rearmed middle cur rest split idle ahead early objects rtc rearmed =>
      have slowest := rearmed.slowest
      rw [rtc] at slowest
      exact slowest

omit [DecidableEq ι] in
/-- No timer was added to the list. -/
theorem Tested.members (tested : Tested world timers final expired timers') (other : ι)
    (mem : other ∈ timers') : other ∈ timers := by
  cases tested with
  | empty none_left same => cases mem
  | unlinked cur rest split =>
      rw [split]
      exact List.mem_cons_of_mem _ mem
  | armed cur rest split pending ahead objects rtc => exact mem
  | rearmed middle cur rest split idle ahead early objects rtc rearmed => exact mem

end Tested

/-- The timers after a test of the handler, which are timed and watched. -/
def KeptTested (due : ι → ℕ) (world : TimerWorld ι) (timers : List ι) (expired : Option ι)
    (final : TimerWorld ι) : Prop :=
  ∃ timers', Tested world timers final expired timers' ∧ Timed due final timers' ∧
    ∀ head ∈ timers'.head?, Watched expired.isSome final head

omit [DecidableEq ι] in
theorem KeptTested.kept {expired : Option ι} (tested : KeptTested due world timers expired final) :
    Kept expired.isSome due final := by
  rcases tested with ⟨timers', -, kept⟩
  exact ⟨timers', kept⟩

/-- The timer that is unlinked is due; when none is, the alarm is armed. -/
theorem wp_utilTimerIrqNext_kept (timed : Timed due world timers)
    (watched : ∀ head ∈ timers.head?, Watched true world head)
    (young : timers ≠ [] → world.rtc.Young world.rtc.contextTicks 3 minAlarmDelay) :
    wp utilTimerIrqNext (fun expired final => KeptTested due world timers expired final ∧
      ∀ timer ∈ expired, due timer ≤ final.rtc.ticks) world := by
  have first : world.timerListHead = timers.head? := timed.linked.chains.head_eq
  rw [utilTimerIrqNext, wp_bind, wp_getTimerListHead, first]
  cases timers with
  | nil =>
      rw [List.head?_nil, wp_pure]
      refine ⟨⟨[], .empty rfl rfl, timed, ?_⟩, ?_⟩
      · rintro head ⟨⟩
      · rintro timer ⟨⟩
  | cons cur rest =>
      have young' := young (List.cons_ne_nil _ _)
      rw [List.head?_cons, wp_bind]
      refine wp_mono (wp_utilTimerExpired_kept timed (young'.mono (by decide) (Nat.zero_le _))) ?_
      intro expired middle test
      cases expired with
      | true =>
          rw [if_pos rfl]
          refine wp_mono test.timed.unlinkFirst ?_
          rintro expired final ⟨rfl, still, idle, timestamp, rtc⟩
          refine ⟨⟨rest, .unlinked cur rest rfl (fun other mem => ?_) idle ?_ ?_ ?_, still,
            fun head first => .inr ⟨rfl, .inl (idle head first)⟩⟩, ?_⟩
          · rw [timestamp other mem, test.objects]
          · rw [rtc, test.contextTicks]
          · rw [rtc]
            rcases test.passed with ⟨calls, -, -, ticks, -⟩
            rw [ticks]
            exact world.rtc.ticks_le_ticksAfter calls
          · rw [rtc, test.slowest]
          · rintro _ ⟨⟩
            rw [rtc]
            exact test.late rfl
      | false =>
          rw [if_neg (by decide)]
          have brief : middle.rtc.Young middle.rtc.contextTicks 2 minAlarmDelay := by
            rw [test.contextTicks]
            exact young'.later test.passed
          rcases test.early rfl with ⟨ahead, called, early⟩
          refine wp_mono (test.timed.rearm (fun pending => ?_) brief) ?_
          · rw [test.objects] at pending
            rcases watched cur rfl with ⟨-, alarm⟩ | ⟨-, idle | zero⟩
            · exact test.armed alarm
            · rw [pending] at idle
              cases idle
            · exact absurd zero ahead
          · rintro expired final ⟨rfl, still, armed, done⟩
            rw [test.objects] at done
            have tested : Tested world (cur :: rest) final none (cur :: rest) := by
              rcases done with ⟨pending, rfl⟩ | ⟨idle, rearmed⟩
              · exact .armed cur rest rfl pending ahead test.objects called
              · exact .rearmed middle cur rest rfl idle ahead early test.objects called rearmed
            refine ⟨⟨cur :: rest, tested, still, ?_⟩, ?_⟩
            · rintro _ ⟨⟩
              exact armed
            · rintro timer ⟨⟩

end Interrupt

end GenericNode.Timer
