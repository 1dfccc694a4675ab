import GenericNode.Timer.Server

/-!
# The timer server on its list

Each function of the server as an operation on the list of the linked timers.
-/

namespace GenericNode.Timer

open GenericNode.Library
open GenericNode.Library.Prog
open GenericNode.Rtc

/-! ## The RTC -/

namespace TimerRtc

/-- The RTC after a call of the driver. -/
def called (rtc : TimerRtc) : TimerRtc :=
  { rtc.pass (rtc.delays rtc.calls) with calls := rtc.calls + 1 }

variable {rtc middle final : TimerRtc} {first second count bound : ℕ}

theorem ticksAfter_called (calls : ℕ) :
    rtc.called.ticksAfter calls = rtc.ticksAfter (calls + 1) := by
  induction calls with
  | zero => rfl
  | succ calls ih =>
      rw [ticksAfter, ih, ticksAfter.eq_def rtc (calls + 1 + 1)]
      simp only [called, pass, Nat.add_assoc, Nat.add_comm 1]

@[simp]
theorem elapsedAfter_called (calls : ℕ) :
    rtc.called.elapsedAfter calls = rtc.elapsedAfter (calls + 1) := by
  simp only [elapsedAfter, ticksAfter_called]
  rfl

/-- At most `count` calls of the driver were made. -/
def Passed (count : ℕ) (rtc final : TimerRtc) : Prop :=
  ∃ calls ≤ count, final.calls = rtc.calls + calls ∧ final.ticks = rtc.ticksAfter calls ∧
    final.delays = rtc.delays

theorem Passed.refl : Passed count rtc rtc :=
  ⟨0, Nat.zero_le _, rfl, rfl, rfl⟩

theorem Passed.mono (passed : Passed first rtc final) (ordered : first ≤ second) :
    Passed second rtc final := by
  obtain ⟨calls, few, rest⟩ := passed
  exact ⟨calls, few.trans ordered, rest⟩

/-- The ticks after some calls are the ticks after the first of them and the rest. -/
theorem ticksAfter_add (passed : middle.calls = rtc.calls + first)
    (ticks : middle.ticks = rtc.ticksAfter first) (delays : middle.delays = rtc.delays)
    (calls : ℕ) : middle.ticksAfter calls = rtc.ticksAfter (first + calls) := by
  induction calls with
  | zero => exact ticks
  | succ calls ih =>
      rw [ticksAfter, ih, passed, delays, ← Nat.add_assoc, ticksAfter, Nat.add_assoc]

theorem Passed.trans (passed : Passed first rtc middle) (later : Passed second middle final) :
    Passed (first + second) rtc final := by
  obtain ⟨calls, few, calls_eq, ticks_eq, delays_eq⟩ := passed
  obtain ⟨calls', few', calls_eq', ticks_eq', delays_eq'⟩ := later
  refine ⟨calls + calls', Nat.add_le_add few few', ?_, ?_, delays_eq'.trans delays_eq⟩
  · rw [calls_eq', calls_eq, Nat.add_assoc]
  · rw [ticks_eq', ticksAfter_add calls_eq ticks_eq delays_eq]

theorem Passed.called : Passed 1 rtc rtc.called :=
  ⟨1, Nat.le_refl _, rfl, rfl, rfl⟩

/-- A change of the alarm or the reference takes no time. -/
theorem Passed.of_eq (calls : final.calls = rtc.calls) (ticks : final.ticks = rtc.ticks)
    (delays : final.delays = rtc.delays) : Passed 0 rtc final :=
  ⟨0, Nat.le_refl _, calls, ticks, delays⟩

theorem ticks_le_ticksAfter (rtc : TimerRtc) (calls : ℕ) : rtc.ticks ≤ rtc.ticksAfter calls := by
  induction calls with
  | zero => exact Nat.le_refl _
  | succ calls ih => exact ih.trans (Nat.le_add_right _ _)

end TimerRtc

section Driver

variable {ι : Type} {world : TimerWorld ι}

section Fields

variable (world) (rtc : TimerRtc) (head : Option ι)

@[simp] theorem withRtc_objects : (world.withRtc rtc).objects = world.objects := rfl
@[simp] theorem withRtc_timerListHead :
    (world.withRtc rtc).timerListHead = world.timerListHead := rfl
@[simp] theorem withRtc_rtc : (world.withRtc rtc).rtc = rtc := rfl
@[simp] theorem withHead_objects : (world.withHead head).objects = world.objects := rfl
@[simp] theorem withHead_timerListHead : (world.withHead head).timerListHead = head := rfl
@[simp] theorem withHead_rtc : (world.withHead head).rtc = world.rtc := rfl

end Fields

@[simp]
theorem wp_modifyRtc (change : TimerRtc → TimerRtc) (post : Unit → TimerWorld ι → Prop) :
    wp (modifyRtc change) post world ↔ post () (world.withRtc (change world.rtc)) :=
  wp_modify ..

@[simp]
theorem wp_getTimerTicks (post : ℕ → TimerWorld ι → Prop) :
    wp getTimerTicks post world ↔
      post (world.rtc.ticksAfter 1 % 2 ^ 32) (world.withRtc world.rtc.called) := by
  simp only [getTimerTicks, elapse, wp_bind, wp_modifyRtc, wp_gets]
  rfl

@[simp]
theorem wp_gnseRtcGetTimerElapsedTime (post : ℕ → TimerWorld ι → Prop) :
    wp gnseRtcGetTimerElapsedTime post world ↔
      post (world.rtc.elapsedAfter 1) (world.withRtc world.rtc.called) := by
  simp only [gnseRtcGetTimerElapsedTime, gnseRtcGetTimerContext, wp_bind, wp_getTimerTicks,
    wp_gets, wp_pure]
  rfl

@[simp]
theorem wp_setTimerListHead (head : Option ι) (post : Unit → TimerWorld ι → Prop) :
    wp (setTimerListHead head) post world ↔ post () (world.withHead head) :=
  wp_modify ..

@[simp]
theorem wp_getObject (timer : ι) (post : UtilTimerObject ι → TimerWorld ι → Prop) :
    wp (getObject timer) post world ↔ post (world.objects timer) world :=
  wp_gets ..

@[simp]
theorem wp_getTimerListHead (post : Option ι → TimerWorld ι → Prop) :
    wp getTimerListHead post world ↔ post world.timerListHead world :=
  wp_gets ..

/-- A call of the driver leaves the timers alone. -/
structure RtcOnly (count : ℕ) (world final : TimerWorld ι) : Prop where
  objects : final.objects = world.objects
  timerListHead : final.timerListHead = world.timerListHead
  passed : world.rtc.Passed count final.rtc

theorem wp_gnseRtcSetTimerContext :
    wp gnseRtcSetTimerContext (fun _ final => RtcOnly 1 world final) world := by
  simp only [gnseRtcSetTimerContext, wp_bind, wp_getTimerTicks, wp_modifyRtc, wp_pure]
  exact ⟨rfl, rfl, 1, Nat.le_refl _, rfl, rfl, rfl⟩

theorem wp_gnseRtcStopTimer :
    wp gnseRtcStopTimer (fun _ final => RtcOnly 0 world final ∧
      final.rtc.rtcTimerContext = world.rtc.rtcTimerContext) world := by
  simp only [gnseRtcStopTimer, wp_modifyRtc]
  exact ⟨⟨rfl, rfl, .of_eq rfl rfl rfl⟩, rfl⟩

theorem wp_gnseRtcStartTimer (timeout : ℕ) :
    wp (gnseRtcStartTimer timeout) (fun _ final => RtcOnly 1 world final ∧
      final.rtc.rtcTimerContext = world.rtc.rtcTimerContext) world := by
  simp only [gnseRtcStartTimer, gnseRtcStopTimer, elapse, wp_bind, wp_modifyRtc]
  exact ⟨⟨rfl, rfl, 1, Nat.le_refl _, rfl, rfl, rfl⟩, rfl⟩

end Driver

/-! ## Objects -/

section Objects

variable {ι : Type} {world final : TimerWorld ι} {timers : List ι}

/-- The fields of an object by which its timer is judged; the links and the
pending flag are bookkeeping of the server. -/
def UtilTimerObject.timing (object : UtilTimerObject ι) : UtilTimerObject ι :=
  { object with next := none, isPending := false }

section Timing

variable {object object' : UtilTimerObject ι}

theorem timestamp_eq (same : object.timing = object'.timing) :
    object.timestamp = object'.timestamp := by
  have field := congrArg UtilTimerObject.timestamp same
  exact field

theorem reloadValue_eq (same : object.timing = object'.timing) :
    object.reloadValue = object'.reloadValue := by
  have field := congrArg UtilTimerObject.reloadValue same
  exact field

theorem isRunning_eq (same : object.timing = object'.timing) :
    object.isRunning = object'.isRunning := by
  have field := congrArg UtilTimerObject.isRunning same
  exact field

theorem timing_withTimestamp (same : object.timing = object'.timing) (timestamp : ℕ) :
    UtilTimerObject.timing { object with timestamp := timestamp } =
      UtilTimerObject.timing { object' with timestamp := timestamp } := by
  have replaced := congrArg
    (fun object : UtilTimerObject ι => { object with timestamp := timestamp }) same
  exact replaced

end Timing

/-- The field that links the timers. -/
def TimerWorld.next (world : TimerWorld ι) (timer : ι) : Option ι :=
  (world.objects timer).next

/-- The list of the server is the given one. -/
def TimerWorld.Chains (world : TimerWorld ι) (timers : List ι) : Prop :=
  Chain world.next world.timerListHead timers

/-- A world where neither the links nor the head differ has the same list. -/
theorem TimerWorld.Chains.congr (chains : world.Chains timers)
    (head : final.timerListHead = world.timerListHead)
    (links : ∀ timer ∈ timers, final.next timer = world.next timer) : final.Chains timers := by
  rw [TimerWorld.Chains, head]
  exact Chain.congr chains links

theorem TimerWorld.Chains.length_lt [Fintype ι] (chains : world.Chains timers) :
    timers.length < walkFuel ι :=
  Nat.lt_succ_of_le chains.nodup.length_le_card

variable [DecidableEq ι]

@[simp]
theorem wp_setObject (timer : ι) (change : UtilTimerObject ι → UtilTimerObject ι)
    (post : Unit → TimerWorld ι → Prop) :
    wp (setObject timer change) post world ↔ post () (world.update timer change) :=
  wp_modify ..

variable (timer other : ι) (change : UtilTimerObject ι → UtilTimerObject ι)

@[simp]
theorem update_timerListHead :
    (world.update timer change).timerListHead = world.timerListHead :=
  rfl

@[simp]
theorem update_rtc : (world.update timer change).rtc = world.rtc :=
  rfl

@[simp]
theorem update_same : (world.update timer change).objects timer = change (world.objects timer) :=
  Function.update_self ..

variable {timer other}

@[simp]
theorem update_other (different : other ≠ timer) :
    (world.update timer change).objects other = world.objects other :=
  Function.update_of_ne different ..

/-- A change of the bookkeeping fields leaves the timing of every timer. -/
theorem update_timing (same : ∀ object, (change object).timing = object.timing) (other : ι) :
    ((world.update timer change).objects other).timing = (world.objects other).timing := by
  by_cases here : other = timer
  · subst here
    rw [update_same, same]
  · rw [update_other _ here]

/-- A change of the other fields leaves the pending flags. -/
theorem update_isPending (same : ∀ object, (change object).isPending = object.isPending)
    (other : ι) :
    ((world.update timer change).objects other).isPending = (world.objects other).isPending := by
  by_cases here : other = timer
  · subst here
    rw [update_same, same]
  · rw [update_other _ here]

end Objects

/-! ## Walks along the list -/

section Walks

variable {ι : Type} [DecidableEq ι] {world final : TimerWorld ι}
  {timers before after : List ι} {timer head : ι}

/-- Searching a timer from a pointer on. -/
theorem wp_timerExists_loop {pointer : Option ι} (chain : Chain world.next pointer timers)
    (fuel : ℕ) (enough : timers.length < fuel) :
    wp (loop (timerExistsBody timer) fuel pointer)
      (fun found final => found = decide (timer ∈ timers) ∧ final = world) world := by
  induction chain generalizing fuel with
  | null =>
      cases fuel with
      | zero => exact absurd enough (Nat.not_lt_zero _)
      | succ fuel => simp [wp_loop_succ, timerExistsBody]
  | node node rest tail ih =>
      cases fuel with
      | zero => exact absurd enough (Nat.not_lt_zero _)
      | succ fuel =>
          rw [wp_loop_succ]
          by_cases found : node = timer
          · simp [timerExistsBody, found]
          · have missing : ¬ timer = node := fun same => found same.symm
            simp only [timerExistsBody, found, ↓reduceIte, wp_bind, wp_getObject, wp_pure,
              List.mem_cons, missing, false_or]
            exact ih fuel (Nat.lt_of_succ_lt_succ enough)

theorem wp_timerExists [Fintype ι] (chains : world.Chains timers)
    (post : Bool → TimerWorld ι → Prop)
    (holds : post (decide (timer ∈ timers)) world) : wp (timerExists timer) post world := by
  simp only [timerExists, wp_bind, wp_getTimerListHead]
  refine wp_mono (wp_timerExists_loop chains _ chains.length_lt) ?_
  rintro found final ⟨rfl, rfl⟩
  exact holds

/-- A timer is later than those that it was moved past, and not later than the
next one. -/
structure Placed (world : TimerWorld ι) (before : List ι) (timer : ι) (after : List ι) :
    Prop where
  passed : ∀ other ∈ before.tail, (world.objects other).timestamp < (world.objects timer).timestamp
  next : ∀ other ∈ after.head?, (world.objects timer).timestamp ≤ (world.objects other).timestamp

/-- A timer was inserted in the list; only links have changed. -/
structure Inserted (world : TimerWorld ι) (timers : List ι) (timer : ι)
    (final : TimerWorld ι) : Prop where
  chains : ∃ before after, timers = before ++ after ∧ Placed world before timer after ∧
    final.Chains (before ++ timer :: after)
  timing : ∀ other, (final.objects other).timing = (world.objects other).timing
  pending : ∀ other, (final.objects other).isPending = (world.objects other).isPending
  timerListHead : final.timerListHead = world.timerListHead
  rtc : final.rtc = world.rtc

/-- Linking a timer behind another one. -/
theorem Inserted.of_links (chains : world.Chains (before ++ head :: after))
    (fresh : timer ∉ before ++ head :: after)
    (placed : Placed world (before ++ [head]) timer after) :
    Inserted world (before ++ head :: after) timer
      ((world.update head fun object => { object with next := some timer }).update timer
        fun object => { object with next := world.next head }) := by
  have different : head ≠ timer := by
    rintro rfl
    exact fresh (List.mem_append_right _ List.mem_cons_self)
  refine ⟨⟨before ++ [head], after, by simp, placed, ?_⟩, fun other => ?_, fun other => ?_, rfl,
    rfl⟩
  · rw [List.append_assoc]
    apply Chain.insert_after chains fresh
    · intro other not_head not_timer
      simp only [TimerWorld.next, update_other _ not_timer, update_other _ not_head]
    · simp only [TimerWorld.next, update_other _ different, update_same]
    · simp only [TimerWorld.next, update_same]
  · by_cases is_timer : other = timer
    · subst is_timer
      rw [update_same, update_other _ different.symm]
      rfl
    · rw [update_other _ is_timer]
      by_cases is_head : other = head
      · subst is_head
        rw [update_same]
        rfl
      · rw [update_other _ is_head]
  · rw [update_isPending, update_isPending] <;> exact fun _ => rfl

theorem wp_timerInsertTimer_loop (chains : world.Chains (before ++ head :: after))
    (fresh : timer ∉ before ++ head :: after)
    (passed : ∀ other ∈ (before ++ [head]).tail,
      (world.objects other).timestamp < (world.objects timer).timestamp)
    (fuel : ℕ) (enough : after.length < fuel) :
    wp (loop (timerInsertTimerBody timer) fuel (head, world.next head))
      (fun _ final => Inserted world (before ++ head :: after) timer final) world := by
  induction after generalizing before head fuel with
  | nil =>
      have last : world.next head = none := Chain.head_eq (Chain.tail_of_mem chains)
      cases fuel with
      | zero => exact absurd enough (Nat.not_lt_zero _)
      | succ fuel =>
          have linked := Inserted.of_links chains fresh ⟨passed, by rintro _ ⟨⟩⟩
          rw [last] at linked
          rw [wp_loop_succ]
          rw [TimerWorld.next] at last
          simp only [timerInsertTimerBody, wp_bind, wp_getObject, last, wp_setObject, wp_pure]
          exact linked
  | cons next after ih =>
      have link : world.next head = some next := Chain.head_eq (Chain.tail_of_mem chains)
      cases fuel with
      | zero => exact absurd enough (Nat.not_lt_zero _)
      | succ fuel =>
          rw [wp_loop_succ, link]
          have link' := link
          rw [TimerWorld.next] at link'
          simp only [timerInsertTimerBody, wp_bind, wp_getObject, link']
          by_cases later :
              (world.objects timer).timestamp > (world.objects next).timestamp
          · simp only [later, ↓reduceIte, wp_pure]
            have shifted :
                before ++ head :: next :: after = (before ++ [head]) ++ next :: after := by
              simp
            rw [shifted] at chains fresh ⊢
            refine ih chains fresh ?_ fuel (Nat.lt_of_succ_lt_succ enough)
            intro other mem
            rw [List.tail_append_of_ne_nil (by simp)] at mem
            rcases List.mem_append.mp mem with earlier | is_next
            · exact passed other earlier
            · rw [List.mem_singleton.mp is_next]
              exact later
          · simp only [later, ↓reduceIte, wp_bind, wp_setObject, wp_pure]
            have linked := Inserted.of_links chains fresh ⟨passed, by
              rintro _ ⟨⟩
              exact Nat.le_of_not_lt later⟩
            rw [link] at linked
            exact linked

theorem wp_timerInsertTimer [Fintype ι] (chains : world.Chains (head :: after))
    (fresh : timer ∉ head :: after) :
    wp (timerInsertTimer timer)
      (fun _ final => Inserted world (head :: after) timer final) world := by
  have first : world.timerListHead = some head := Chain.head_eq chains
  simp only [timerInsertTimer, wp_bind, wp_getTimerListHead, first, wp_getObject]
  have enough : after.length < walkFuel ι :=
    Nat.lt_of_succ_lt (chains.length_lt)
  have walk : world.Chains ([] ++ head :: after) := chains
  exact wp_timerInsertTimer_loop walk fresh (by simp) _ enough

end Walks

/-! ## The head of the list -/

section Head

variable {ι : Type} {world final : TimerWorld ι} {timers : List ι} {timer : ι}

/-- The timestamp of a timer whose alarm is set; one that is due too soon is
moved past the minimum timeout. -/
def TimerRtc.bumped (rtc : TimerRtc) (timestamp : ℕ) : ℕ :=
  if timestamp < (rtc.elapsedAfter 1 + minAlarmDelay) % 2 ^ 32 then
    (rtc.elapsedAfter 2 + minAlarmDelay) % 2 ^ 32
  else timestamp

/-- Setting the alarm for a timer, with at most `calls` calls of the driver. -/
structure TimeoutSet (calls : ℕ) (world : TimerWorld ι) (timer : ι) (final : TimerWorld ι) :
    Prop where
  timerListHead : final.timerListHead = world.timerListHead
  links : ∀ other, final.next other = world.next other
  others : ∀ other, other ≠ timer →
    (final.objects other).timing = (world.objects other).timing
  self : (final.objects timer).timing = UtilTimerObject.timing { world.objects timer with
    timestamp := world.rtc.bumped (world.objects timer).timestamp }
  context : final.rtc.rtcTimerContext = world.rtc.rtcTimerContext
  passed : world.rtc.Passed calls final.rtc

/-- Arming the alarm comes last. -/
theorem TimeoutSet.armed {middle : TimerWorld ι} (before : TimeoutSet 2 world timer middle)
    (started : RtcOnly 1 middle final ∧
      final.rtc.rtcTimerContext = middle.rtc.rtcTimerContext) :
    TimeoutSet 3 world timer final := by
  obtain ⟨only, context⟩ := started
  refine ⟨only.timerListHead.trans before.timerListHead, fun other => ?_, fun other different => ?_,
    ?_, context.trans before.context, before.passed.trans only.passed⟩
  · rw [TimerWorld.next, only.objects]
    exact before.links other
  · rw [only.objects]
    exact before.others other different
  · rw [only.objects]
    exact before.self

variable [DecidableEq ι]

theorem wp_timerSetTimeout :
    wp (timerSetTimeout timer) (fun _ final => TimeoutSet 3 world timer final) world := by
  simp only [timerSetTimeout, wp_bind, wp_setObject, wp_gnseRtcGetTimerElapsedTime, wp_getObject,
    update_rtc, wp_ite, withRtc_objects, update_same]
  by_cases soon : (world.objects timer).timestamp <
      (world.rtc.elapsedAfter 1 + minAlarmDelay) % 2 ^ 32
  · rw [if_pos soon]
    refine wp_mono (wp_gnseRtcStartTimer _) fun _ final started => TimeoutSet.armed ?_ started
    refine ⟨rfl, fun other => ?_, fun other different => ?_, ?_, rfl, 2, Nat.le_refl _, rfl, rfl,
      rfl⟩
    · by_cases here : other = timer <;> simp [TimerWorld.next, here]
    · simp [different]
    · rw [TimerRtc.bumped, if_pos soon]
      simp [UtilTimerObject.timing]
  · rw [if_neg soon]
    refine wp_mono (wp_gnseRtcStartTimer _) fun _ final started => TimeoutSet.armed ?_ started
    refine ⟨rfl, fun other => ?_, fun other different => ?_, ?_, rfl, 1, by omega, rfl, rfl, rfl⟩
    · by_cases here : other = timer <;> simp [TimerWorld.next, here]
    · simp [different]
    · rw [TimerRtc.bumped, if_neg soon]
      simp [UtilTimerObject.timing]

/-- A timer was put before the list. -/
structure HeadInserted (world : TimerWorld ι) (timers : List ι) (timer : ι)
    (final : TimerWorld ι) : Prop where
  chains : final.Chains (timer :: timers)
  others : ∀ other, other ≠ timer →
    (final.objects other).timing = (world.objects other).timing
  self : (final.objects timer).timing = UtilTimerObject.timing { world.objects timer with
    timestamp := world.rtc.bumped (world.objects timer).timestamp }
  context : final.rtc.rtcTimerContext = world.rtc.rtcTimerContext
  passed : world.rtc.Passed 3 final.rtc

/-- A timer is linked before the list; its alarm is not set yet. -/
structure LinkedBefore (world : TimerWorld ι) (timer : ι) (middle : TimerWorld ι) : Prop where
  timerListHead : middle.timerListHead = some timer
  link : middle.next timer = world.timerListHead
  links : ∀ other, other ≠ timer → middle.next other = world.next other
  timing : ∀ other, (middle.objects other).timing = (world.objects other).timing
  rtc : middle.rtc = world.rtc

omit [DecidableEq ι] in
theorem LinkedBefore.chains {middle : TimerWorld ι} (chains : world.Chains timers)
    (fresh : timer ∉ timers) (linked : LinkedBefore world timer middle) :
    middle.Chains (timer :: timers) := by
  rw [TimerWorld.Chains, linked.timerListHead]
  apply Chain.node
  rw [linked.link]
  apply Chain.congr chains
  intro other mem
  have different : other ≠ timer := by
    rintro rfl
    exact fresh mem
  exact linked.links other different

/-- Setting the alarm comes last. -/
theorem LinkedBefore.set_timeout {middle : TimerWorld ι} (chains : world.Chains timers)
    (fresh : timer ∉ timers) (linked : LinkedBefore world timer middle) :
    wp (timerSetTimeout timer) (fun _ final => HeadInserted world timers timer final) middle := by
  refine wp_mono wp_timerSetTimeout fun _ final set => ⟨?_, fun other different => ?_, ?_, ?_, ?_⟩
  · exact (linked.chains chains fresh).congr set.timerListHead fun other _ => set.links other
  · rw [set.others other different, linked.timing]
  · rw [set.self, linked.rtc, timestamp_eq (linked.timing timer)]
    exact timing_withTimestamp (linked.timing timer) _
  · rw [set.context, linked.rtc]
  · rw [← linked.rtc]
    exact set.passed

theorem wp_timerInsertNewHeadTimer (chains : world.Chains timers) (fresh : timer ∉ timers) :
    wp (timerInsertNewHeadTimer timer)
      (fun _ final => HeadInserted world timers timer final) world := by
  simp only [timerInsertNewHeadTimer, wp_bind, wp_getTimerListHead]
  cases head : world.timerListHead with
  | none =>
      simp only [wp_bind, wp_setObject, wp_setTimerListHead]
      apply LinkedBefore.set_timeout chains fresh
      refine ⟨rfl, ?_, fun other different => ?_, fun other => ?_, rfl⟩
      · simp [TimerWorld.next, head]
      · simp [TimerWorld.next, different]
      · rw [withHead_objects, update_timing]
        exact fun _ => rfl
  | some first =>
      have not_timer : first ≠ timer := by
        rintro rfl
        apply fresh
        apply List.mem_of_head?
        rw [← Chain.head_eq chains, head]
      simp only [wp_bind, wp_setObject, wp_setTimerListHead]
      apply LinkedBefore.set_timeout chains fresh
      refine ⟨rfl, ?_, fun other different => ?_, fun other => ?_, rfl⟩
      · simp [TimerWorld.next, head]
      · by_cases here : other = first <;> simp [TimerWorld.next, different, here, not_timer]
      · rw [withHead_objects, update_timing, update_timing] <;> exact fun _ => rfl

end Head

/-! ## Start and stop -/

section Operations

variable {ι : Type} {world final : TimerWorld ι} {timers timers' : List ι} {timer : ι}

/-- The timers of the list, in this order, are those that run. -/
structure Linked (world : TimerWorld ι) (timers : List ι) : Prop where
  chains : world.Chains timers
  running : ∀ timer, (world.objects timer).isRunning = true ↔ timer ∈ timers

/-- A timer that does not run is not in the list. -/
theorem Linked.stopped (linked : Linked world timers) (fresh : timer ∉ timers) :
    (world.objects timer).isRunning = false := by
  by_contra running
  exact fresh ((linked.running timer).mp (by simpa using running))

/-- A timer more runs. -/
theorem Linked.insert (linked : Linked world timers) (chains : final.Chains timers')
    (members : ∀ other, other ∈ timers' ↔ other = timer ∨ other ∈ timers)
    (others : ∀ other, other ≠ timer →
      (final.objects other).timing = (world.objects other).timing)
    (self : (final.objects timer).isRunning = true) : Linked final timers' := by
  refine ⟨chains, fun other => ?_⟩
  rw [members]
  by_cases here : other = timer
  · subst here
    simp [self]
  · rw [isRunning_eq (others other here), linked.running]
    simp [here]

/-- A timer was started in a list it was not in. -/
structure Started (world : TimerWorld ι) (timers : List ι) (timer : ι) (final : TimerWorld ι) :
    Prop where
  linked : ∃ before after, timers = before ++ after ∧ Linked final (before ++ timer :: after)
  others : ∀ other, other ≠ timer →
    (final.objects other).timing = (world.objects other).timing
  context : timers ≠ [] → final.rtc.rtcTimerContext = world.rtc.rtcTimerContext
  passed : world.rtc.Passed 5 final.rtc
  reloadValue : (final.objects timer).reloadValue = (world.objects timer).reloadValue
  deadline : timers ≠ [] → ∀ ticks, ticks = max minAlarmDelay (world.objects timer).reloadValue →
    world.rtc.elapsedAfter 1 + ticks < 2 ^ 32 →
    world.rtc.elapsedAfter 2 + minAlarmDelay ≤ world.rtc.elapsedAfter 1 + ticks →
    (final.objects timer).timestamp = world.rtc.elapsedAfter 1 + ticks

/-- The object of a timer that `UTIL_TIMER_Start` has prepared. -/
def UtilTimerObject.started (object : UtilTimerObject ι) (timestamp : ℕ) : UtilTimerObject ι :=
  { object with
    timestamp := timestamp
    isPending := false
    isRunning := true
    isReloadStopped := false }

theorem started_timestamp (object : UtilTimerObject ι) (timestamp : ℕ) :
    (object.started timestamp).timestamp = timestamp :=
  rfl

theorem started_withTimestamp (object : UtilTimerObject ι) (timestamp timestamp' : ℕ) :
    { object.started timestamp with timestamp := timestamp' } = object.started timestamp' :=
  rfl

variable [DecidableEq ι]

/-- A start in an empty list. -/
theorem wp_start_empty (linked : Linked world []) (timer : ι) (ticks : ℕ) :
    wp (do let _ ← gnseRtcSetTimerContext; timerInsertNewHeadTimer timer)
      (fun _ final => Started world [] timer final)
      (world.update timer fun object => object.started ticks) := by
  have empty : world.timerListHead = none := Chain.head_eq linked.chains
  rw [wp_bind]
  refine wp_mono wp_gnseRtcSetTimerContext fun _ middle only => ?_
  have chains : middle.Chains [] := by
    rw [TimerWorld.Chains, only.timerListHead, update_timerListHead, empty]
    exact .null
  refine wp_mono (wp_timerInsertNewHeadTimer chains List.not_mem_nil) fun _ final inserted => ?_
  have others : ∀ other, other ≠ timer →
      (final.objects other).timing = (world.objects other).timing := by
    intro other different
    rw [inserted.others other different, only.objects, update_other _ different]
  have self : (final.objects timer).timing = UtilTimerObject.timing
      { (world.objects timer).started ticks with
        timestamp := middle.rtc.bumped (middle.objects timer).timestamp } := by
    rw [inserted.self, only.objects, update_same]
  refine ⟨⟨[], [], rfl, ?_⟩, others, by simp, ?_, ?_, by simp⟩
  · apply linked.insert inserted.chains (by simp) others
    exact isRunning_eq self
  · exact (only.passed.trans inserted.passed).mono (by decide)
  · have reload := reloadValue_eq self
    exact reload

/-- A timer counts the shortest alarm at least. -/
theorem alarmTicks_eq (ticks : ℕ) :
    (if ticks < minAlarmDelay then minAlarmDelay else ticks) = max minAlarmDelay ticks := by
  split_ifs with brief
  · exact (Nat.max_eq_left (Nat.le_of_lt brief)).symm
  · exact (Nat.max_eq_right (not_lt.mp brief)).symm

/-- A timer of which the timestamp is set gets its place in the list. -/
theorem wp_start_place [Fintype ι] {middle : TimerWorld ι} {head : ι} {rest : List ι}
    (linked : Linked world (head :: rest)) (fresh : timer ∉ head :: rest) {ticks : ℕ}
    (ticks_eq : ticks = max minAlarmDelay (world.objects timer).reloadValue)
    (middle_head : middle.timerListHead = world.timerListHead)
    (middle_others : ∀ other, other ≠ timer → middle.objects other = world.objects other)
    (middle_self : middle.objects timer =
      (world.objects timer).started ((ticks + world.rtc.elapsedAfter 1) % 2 ^ 32))
    (middle_rtc : middle.rtc = world.rtc.called) :
    wp (do
        let object ← getObject timer
        let first ← getObject head
        if object.timestamp < first.timestamp then
          timerInsertNewHeadTimer timer
        else
          timerInsertTimer timer)
      (fun _ final => Started world (head :: rest) timer final) middle := by
  have chains : middle.Chains (head :: rest) := by
    refine linked.chains.congr middle_head fun other mem => ?_
    have different : other ≠ timer := by
      rintro rfl
      exact fresh mem
    rw [TimerWorld.next, middle_others other different]
    rfl
  have started_at : ∀ {final : TimerWorld ι} {timers' : List ι} {timestamp : ℕ},
      (∃ before after, head :: rest = before ++ after ∧ timers' = before ++ timer :: after) →
      final.Chains timers' →
      (∀ other, other ≠ timer → (final.objects other).timing = (middle.objects other).timing) →
      (final.objects timer).timing = ((world.objects timer).started timestamp).timing →
      final.rtc.rtcTimerContext = world.rtc.rtcTimerContext →
      middle.rtc.Passed 4 final.rtc →
      (world.rtc.elapsedAfter 1 + ticks < 2 ^ 32 →
        world.rtc.elapsedAfter 2 + minAlarmDelay ≤ world.rtc.elapsedAfter 1 + ticks →
        timestamp = world.rtc.elapsedAfter 1 + ticks) →
      Started world (head :: rest) timer final := by
    rintro final timers' timestamp ⟨before, after, split, rfl⟩ final_chains others self context
      passed deadline
    have final_others : ∀ other, other ≠ timer →
        (final.objects other).timing = (world.objects other).timing := by
      intro other different
      rw [others other different, middle_others other different]
    have reload := reloadValue_eq self
    have final_timestamp := timestamp_eq self
    refine ⟨⟨before, after, split, ?_⟩, final_others, fun _ => context, ?_, reload, ?_⟩
    · apply linked.insert final_chains _ final_others (isRunning_eq self)
      intro other
      rw [split]
      simp only [List.mem_append, List.mem_cons]
      exact or_left_comm
    · rw [middle_rtc] at passed
      exact TimerRtc.Passed.called.trans passed
    · rintro - ticks' rfl young quick
      rw [← ticks_eq] at young quick ⊢
      exact final_timestamp.trans (deadline young quick)
  simp only [wp_bind, wp_getObject]
  by_cases earlier : (middle.objects timer).timestamp < (middle.objects head).timestamp
  · simp only [earlier, ↓reduceIte]
    refine wp_mono (wp_timerInsertNewHeadTimer chains fresh) fun _ final inserted => ?_
    have self := inserted.self
    rw [middle_self, middle_rtc, started_timestamp, started_withTimestamp] at self
    refine started_at ⟨[], head :: rest, rfl, rfl⟩ inserted.chains inserted.others self ?_
      (inserted.passed.mono (by decide)) fun young quick => ?_
    · rw [inserted.context, middle_rtc]
      rfl
    · have not_soon : ¬ (ticks + world.rtc.elapsedAfter 1) % 2 ^ 32 <
          (world.rtc.elapsedAfter 2 + minAlarmDelay) % 2 ^ 32 := by
        rw [Nat.mod_eq_of_lt (by omega), Nat.mod_eq_of_lt (by omega)]
        omega
      simp only [TimerRtc.bumped, TimerRtc.elapsedAfter_called, not_soon, ↓reduceIte]
      rw [Nat.mod_eq_of_lt (by omega), Nat.add_comm]
  · simp only [earlier, ↓reduceIte]
    refine wp_mono (wp_timerInsertTimer chains fresh) fun _ final inserted => ?_
    obtain ⟨before, after, split, -, final_chains⟩ := inserted.chains
    have self := inserted.timing timer
    rw [middle_self] at self
    refine started_at ⟨before, after, split, rfl⟩ final_chains
      (fun other _ => inserted.timing other)
      self ?_ ?_ fun young quick => ?_
    · rw [inserted.rtc, middle_rtc]
      rfl
    · rw [inserted.rtc]
      exact .refl
    · rw [Nat.mod_eq_of_lt (by omega), Nat.add_comm]

/-- A start in a list with a head. -/
theorem wp_start_list [Fintype ι] {head : ι} {rest : List ι} (linked : Linked world (head :: rest))
    (fresh : timer ∉ head :: rest) {ticks : ℕ}
    (ticks_eq : ticks = max minAlarmDelay (world.objects timer).reloadValue) :
    wp (do
        let elapsedTime ← gnseRtcGetTimerElapsedTime
        setObject timer fun object =>
          { object with timestamp := (object.timestamp + elapsedTime) % 2 ^ 32 }
        let object ← getObject timer
        let first ← getObject head
        if object.timestamp < first.timestamp then
          timerInsertNewHeadTimer timer
        else
          timerInsertTimer timer)
      (fun _ final => Started world (head :: rest) timer final)
      (world.update timer fun object => object.started ticks) := by
  rw [wp_bind, wp_gnseRtcGetTimerElapsedTime, wp_bind, wp_setObject]
  apply wp_start_place linked fresh ticks_eq
  · rfl
  · intro other different
    rw [update_other _ different, withRtc_objects, update_other _ different]
  · rw [update_same, withRtc_objects, update_same]
    rfl
  · rfl

/-- Starting a timer that does not run. -/
theorem wp_utilTimerStart [Fintype ι] (linked : Linked world timers) (fresh : timer ∉ timers) :
    wp (utilTimerStart timer) (fun _ final => Started world timers timer final) world := by
  have stopped := linked.stopped fresh
  have ticks := alarmTicks_eq (world.objects timer).reloadValue
  simp only [utilTimerStart, wp_bind]
  apply wp_timerExists linked.chains
  simp only [fresh, decide_false, wp_bind, wp_getObject, stopped, and_self, ↓reduceIte, ticks,
    wp_setObject, wp_getTimerListHead]
  cases timers with
  | nil =>
      have head : world.timerListHead = none := Chain.head_eq linked.chains
      simp only [update_timerListHead, head, wp_bind, wp_pure]
      have started := wp_start_empty linked timer
        (max minAlarmDelay (world.objects timer).reloadValue)
      rw [wp_bind] at started
      exact started
  | cons head rest =>
      have first : world.timerListHead = some head := Chain.head_eq linked.chains
      simp only [update_timerListHead, first]
      have started := wp_start_list linked fresh rfl
      simp only [wp_bind, wp_ite, wp_pure] at started ⊢
      exact started

/-- Starting a timer that runs. -/
theorem wp_utilTimerStart_running [Fintype ι] (linked : Linked world timers)
    (mem : timer ∈ timers) :
    wp (utilTimerStart timer)
      (fun status final => status = .invalidParam ∧ final = world) world := by
  simp only [utilTimerStart, wp_bind]
  apply wp_timerExists linked.chains
  simp [mem]

/-- A timer of which the alarm is moved when it becomes the first one: it is
behind `timer`, which is first, and is due before the minimum timeout. -/
def Promoted (world : TimerWorld ι) (timers : List ι) (timer other : ι) : Prop :=
  (∃ rest, timers = timer :: other :: rest) ∧
    (world.objects other).timestamp < (world.rtc.elapsedAfter 1 + minAlarmDelay) % 2 ^ 32

/-- A timer was stopped. -/
structure Stopped (world : TimerWorld ι) (timers : List ι) (timer : ι) (final : TimerWorld ι) :
    Prop where
  linked : Linked final (timers.erase timer)
  others : ∀ other, other ≠ timer → ¬ Promoted world timers timer other →
    (final.objects other).timing = (world.objects other).timing
  context : final.rtc.rtcTimerContext = world.rtc.rtcTimerContext
  passed : world.rtc.Passed 3 final.rtc
  reloadValue : (final.objects timer).reloadValue = (world.objects timer).reloadValue

/-- Unlinking a timer that has another one before it. -/
structure Unlinked (world : TimerWorld ι) (timers : List ι) (timer : ι)
    (final : TimerWorld ι) : Prop where
  chains : final.Chains (timers.erase timer)
  timing : ∀ other, (final.objects other).timing = (world.objects other).timing
  pending : ∀ other, (final.objects other).isPending = (world.objects other).isPending
  rtc : final.rtc = world.rtc

theorem wp_utilTimerStop_loop {prev : ι} {before after : List ι}
    (chains : world.Chains (before ++ prev :: after))
    (missing : timer ∉ before ++ [prev]) (fuel : ℕ) (enough : after.length < fuel) :
    wp (loop (utilTimerStopBody timer) fuel (prev, world.next prev))
      (fun _ final => Unlinked world (before ++ prev :: after) timer final) world := by
  have different : prev ≠ timer := by
    rintro rfl
    exact missing (by simp)
  induction after generalizing before prev fuel with
  | nil =>
      have last : world.next prev = none := Chain.head_eq (Chain.tail_of_mem chains)
      cases fuel with
      | zero => exact absurd enough (Nat.not_lt_zero _)
      | succ fuel =>
          rw [wp_loop_succ, last]
          simp only [utilTimerStopBody, wp_pure]
          refine ⟨?_, fun _ => rfl, fun _ => rfl, rfl⟩
          rw [List.erase_of_not_mem missing]
          exact chains
  | cons cur after ih =>
      have link : world.next prev = some cur := Chain.head_eq (Chain.tail_of_mem chains)
      cases fuel with
      | zero => exact absurd enough (Nat.not_lt_zero _)
      | succ fuel =>
          rw [wp_loop_succ, link]
          by_cases found : cur = timer
          · subst found
            simp only [utilTimerStopBody, wp_bind, wp_getObject, ↓reduceIte, wp_setObject, wp_pure]
            have split : before ++ prev :: cur :: after = (before ++ [prev]) ++ cur :: after := by
              simp
            refine ⟨?_, fun other => ?_, fun other => ?_, rfl⟩
            · rw [split, List.erase_append_right _ missing, List.erase_cons_head, List.append_assoc]
              apply Chain.remove_after chains
              · intro other not_prev
                rw [TimerWorld.next, update_other _ not_prev]
                rfl
              · rw [TimerWorld.next, update_same]
                rfl
            · rw [update_timing]
              exact fun _ => rfl
            · rw [update_isPending]
              exact fun _ => rfl
          · simp only [utilTimerStopBody, wp_bind, wp_getObject, found, ↓reduceIte, wp_pure]
            have split : before ++ prev :: cur :: after = (before ++ [prev]) ++ cur :: after := by
              simp
            rw [split] at chains ⊢
            apply ih chains _ fuel (Nat.lt_of_succ_lt_succ enough) found
            simp only [List.mem_append, List.mem_singleton, not_or] at missing ⊢
            exact ⟨missing, fun same => found same.symm⟩

/-- The list of the running timers, where one timer may be in the list without
running: its object was created again. -/
structure LinkedBut (world : TimerWorld ι) (timers : List ι) (timer : ι) : Prop where
  chains : world.Chains timers
  running : ∀ other, other ≠ timer →
    ((world.objects other).isRunning = true ↔ other ∈ timers)

omit [DecidableEq ι] in
theorem Linked.but (linked : Linked world timers) (timer : ι) : LinkedBut world timers timer :=
  ⟨linked.chains, fun other _ => linked.running other⟩

/-- A timer less runs. -/
theorem LinkedBut.erase (linked : LinkedBut world timers timer)
    (chains : final.Chains (timers.erase timer))
    (others : ∀ other, other ≠ timer →
      (final.objects other).isRunning = (world.objects other).isRunning)
    (self : (final.objects timer).isRunning = false) : Linked final (timers.erase timer) := by
  have distinct : timers.Nodup := linked.chains.nodup
  refine ⟨chains, fun other => ?_⟩
  rw [distinct.mem_erase_iff]
  by_cases here : other = timer
  · subst here
    simp [self]
  · rw [others other here, linked.running other here]
    simp [here]

/-- What `UTIL_TIMER_Stop` stores in its timer before it unlinks it. -/
structure Halted (world : TimerWorld ι) (timer : ι) (middle : TimerWorld ι) : Prop where
  timerListHead : middle.timerListHead = world.timerListHead
  next : middle.next = world.next
  others : ∀ other, other ≠ timer → middle.objects other = world.objects other
  isRunning : (middle.objects timer).isRunning = false
  reloadValue : (middle.objects timer).reloadValue = (world.objects timer).reloadValue
  rtc : middle.rtc = world.rtc

/-- Stopping the first timer of several. -/
theorem wp_stop_promote {middle : TimerWorld ι} {next : ι} {rest : List ι}
    (linked : LinkedBut world (timer :: next :: rest) timer) (halted : Halted world timer middle) :
    wp (do setTimerListHead (some next); timerSetTimeout next)
      (fun _ final => Stopped world (timer :: next :: rest) timer final) middle := by
  have distinct := List.nodup_cons.mp linked.chains.nodup
  have different : timer ≠ next := by
    rintro rfl
    exact distinct.1 List.mem_cons_self
  rw [wp_bind, wp_setTimerListHead]
  refine wp_mono wp_timerSetTimeout fun _ final set => ?_
  have self : (final.objects timer).timing = (middle.objects timer).timing := by
    rw [set.others timer different, withHead_objects]
  have others : ∀ other, other ≠ timer → other ≠ next →
      (final.objects other).timing = (world.objects other).timing := by
    intro other not_timer not_next
    rw [set.others other not_next, withHead_objects, halted.others other not_timer]
  have promoted := set.self
  rw [withHead_objects, withHead_rtc, halted.others next different.symm, halted.rtc] at promoted
  have links : ∀ other, final.next other = world.next other := by
    intro other
    rw [set.links, ← halted.next]
    rfl
  refine ⟨?_, fun other not_timer not_promoted => ?_, ?_, ?_, ?_⟩
  · apply linked.erase
    · rw [List.erase_cons_head, TimerWorld.Chains, set.timerListHead, withHead_timerListHead]
      have tail := (Chain.cons_iff.mp (Chain.cons_iff.mp linked.chains).2)
      apply Chain.node
      rw [links]
      exact tail.2.congr fun other _ => links other
    · intro other not_timer
      by_cases is_next : other = next
      · subst is_next
        have running := isRunning_eq promoted
        exact running
      · exact isRunning_eq (others other not_timer is_next)
    · rw [isRunning_eq self]
      exact halted.isRunning
  · by_cases is_next : other = next
    · subst is_next
      have timely : ¬ (world.objects other).timestamp <
          (world.rtc.elapsedAfter 1 + minAlarmDelay) % 2 ^ 32 :=
        fun soon => not_promoted ⟨⟨rest, rfl⟩, soon⟩
      rw [promoted, TimerRtc.bumped, if_neg timely]
    · exact others other not_timer is_next
  · rw [set.context, withHead_rtc, halted.rtc]
  · have passed := set.passed
    rwa [withHead_rtc, halted.rtc] at passed
  · rw [reloadValue_eq self]
    exact halted.reloadValue

/-- Without a change of the alarm of another timer, the objects decide. -/
theorem Stopped.of_timing {middle : TimerWorld ι} (linked : LinkedBut world timers timer)
    (halted : Halted world timer middle) (chains : final.Chains (timers.erase timer))
    (timing : ∀ other, (final.objects other).timing = (middle.objects other).timing)
    (context : final.rtc.rtcTimerContext = world.rtc.rtcTimerContext)
    (passed : world.rtc.Passed 3 final.rtc) : Stopped world timers timer final := by
  have others : ∀ other, other ≠ timer →
      (final.objects other).timing = (world.objects other).timing := by
    intro other different
    rw [timing, halted.others other different]
  refine ⟨?_, fun other different _ => others other different, context, passed, ?_⟩
  · apply linked.erase chains fun other different => isRunning_eq (others other different)
    rw [isRunning_eq (timing timer)]
    exact halted.isRunning
  · rw [reloadValue_eq (timing timer)]
    exact halted.reloadValue

/-- A change of the bookkeeping fields keeps the links. -/
theorem update_next (change : UtilTimerObject ι → UtilTimerObject ι)
    (same : ∀ object, (change object).next = object.next) :
    (world.update timer change).next = world.next := by
  funext other
  by_cases here : other = timer
  · subst here
    rw [TimerWorld.next, update_same, same]
    rfl
  · rw [TimerWorld.next, update_other _ here]
    rfl

/-- A further change of the stopped object. -/
theorem Halted.update {middle : TimerWorld ι} (halted : Halted world timer middle)
    (change : UtilTimerObject ι → UtilTimerObject ι)
    (next : ∀ object, (change object).next = object.next)
    (isRunning : ∀ object, (change object).isRunning = object.isRunning)
    (reloadValue : ∀ object, (change object).reloadValue = object.reloadValue) :
    Halted world timer (middle.update timer change) := by
  refine ⟨halted.timerListHead, ?_, fun other different => ?_, ?_, ?_, halted.rtc⟩
  · rw [update_next change next, halted.next]
  · rw [update_other _ different, halted.others other different]
  · rw [update_same, isRunning, halted.isRunning]
  · rw [update_same, reloadValue, halted.reloadValue]

theorem Halted.of_stop : Halted world timer
    ((world.update timer fun object => { object with isReloadStopped := true }).update timer
      fun object => { object with isRunning := false }) := by
  refine ⟨rfl, ?_, fun other different => ?_, ?_, ?_, rfl⟩
  · rw [update_next, update_next] <;> exact fun _ => rfl
  · rw [update_other _ different, update_other _ different]
  · rw [update_same]
  · rw [update_same, update_same]

/-- The head is not pending any more when the alarm is handed on. -/
theorem wp_utilTimerStopHead_next {middle : TimerWorld ι} {rest : List ι}
    {post : Unit → TimerWorld ι → Prop} (chains : world.Chains (timer :: rest))
    (halted : Halted world timer middle)
    (after : ∀ shown, Halted world timer shown →
      wp (match rest.head? with
        | some next => do setTimerListHead (some next); timerSetTimeout next
        | none => do gnseRtcStopTimer; setTimerListHead none) post shown) :
    wp (utilTimerStopHead timer) post middle := by
  generalize shown_eq :
    middle.update timer (fun object => { object with isPending := false }) = shown
  have still : Halted world timer shown := by
    rw [← shown_eq]
    apply halted.update <;> exact fun _ => rfl
  have next : (shown.objects timer).next = rest.head? := by
    have tail := (Chain.cons_iff.mp chains).2
    rw [← tail.head_eq, ← still.next]
    rfl
  rw [utilTimerStopHead, wp_bind, wp_setObject, shown_eq, wp_bind, wp_getObject, next]
  exact after shown still

/-- Stopping the first timer. -/
theorem wp_utilTimerStopHead {middle : TimerWorld ι} {rest : List ι}
    (linked : LinkedBut world (timer :: rest) timer) (halted : Halted world timer middle) :
    wp (utilTimerStopHead timer)
      (fun _ final => Stopped world (timer :: rest) timer final) middle := by
  apply wp_utilTimerStopHead_next linked.chains halted
  intro shown still
  cases rest with
  | nil =>
      simp only [List.head?_nil]
      rw [wp_bind]
      refine wp_mono wp_gnseRtcStopTimer fun _ final stopped => ?_
      obtain ⟨only, context⟩ := stopped
      rw [wp_setTimerListHead]
      apply Stopped.of_timing linked still
      · rw [List.erase_cons_head]
        exact Chain.null
      · intro other
        rw [withHead_objects, only.objects]
      · rw [withHead_rtc, context, still.rtc]
      · rw [withHead_rtc, ← still.rtc]
        exact only.passed.mono (Nat.zero_le _)
  | cons next rest => exact wp_stop_promote linked still

/-- Stopping a timer behind the first one unlinks it. -/
theorem wp_utilTimerStopLinked_behind [Fintype ι] {first : ι} {rest : List ι}
    (chains : world.Chains (first :: rest)) (behind : first ≠ timer) :
    wp (utilTimerStopLinked timer first)
      (fun _ final => ∃ middle, Halted world timer middle ∧
        Unlinked middle (first :: rest) timer final)
      (world.update timer fun object => { object with isReloadStopped := true }) := by
  rw [utilTimerStopLinked, wp_bind, wp_setObject, if_neg behind, walkFuel, wp_loop_succ]
  simp only [utilTimerStopBody, wp_bind, wp_getObject, behind, ↓reduceIte, wp_pure]
  have halted : Halted world timer _ := .of_stop
  generalize ((world.update timer fun object => { object with isReloadStopped := true }).update
    timer fun object => { object with isRunning := false }) = middle at halted ⊢
  have middle_chains : middle.Chains ([] ++ first :: rest) := by
    rw [TimerWorld.Chains, halted.timerListHead, halted.next]
    exact chains
  have missing : timer ∉ [] ++ [first] := by
    simpa using Ne.symm behind
  have enough : rest.length < Fintype.card ι := by
    have length := chains.length_lt
    simp only [walkFuel, List.length_cons] at length
    omega
  exact wp_mono (wp_utilTimerStop_loop middle_chains missing _ enough)
    fun _ final unlinked => ⟨middle, halted, unlinked⟩

/-- Stopping a timer in a list. -/
theorem wp_utilTimerStopLinked [Fintype ι] {first : ι} {rest : List ι}
    (linked : LinkedBut world (first :: rest) timer) :
    wp (utilTimerStopLinked timer first)
      (fun _ final => Stopped world (first :: rest) timer final)
      (world.update timer fun object => { object with isReloadStopped := true }) := by
  by_cases here : first = timer
  · subst here
    rw [utilTimerStopLinked, wp_bind, wp_setObject, if_pos rfl]
    exact wp_utilTimerStopHead linked .of_stop
  · refine wp_mono (wp_utilTimerStopLinked_behind linked.chains here) ?_
    rintro _ final ⟨middle, halted, unlinked⟩
    apply Stopped.of_timing linked halted unlinked.chains unlinked.timing
    · rw [unlinked.rtc, halted.rtc]
    · rw [unlinked.rtc, halted.rtc]
      exact .refl

theorem wp_utilTimerStop [Fintype ι] (linked : LinkedBut world timers timer)
    (idle : timers = [] → (world.objects timer).isRunning = false) :
    wp (utilTimerStop timer) (fun _ final => Stopped world timers timer final) world := by
  rw [utilTimerStop, wp_bind, wp_setObject, wp_bind, wp_getTimerListHead, update_timerListHead]
  cases timers with
  | nil =>
      have head : world.timerListHead = none := Chain.head_eq linked.chains
      simp only [head, wp_pure]
      refine ⟨⟨?_, fun other => ?_⟩, fun other different _ => ?_, rfl, .refl, ?_⟩
      · exact linked.chains.congr rfl fun other mem => absurd mem List.not_mem_nil
      · by_cases here : other = timer
        · subst here
          rw [update_same]
          simp [idle rfl]
        · rw [update_other _ here]
          exact linked.running other here
      · rw [update_other _ different]
      · rw [update_same]
  | cons first rest =>
      have head : world.timerListHead = some first := Chain.head_eq linked.chains
      simp only [head, wp_bind, wp_pure]
      exact wp_utilTimerStopLinked linked

end Operations

end GenericNode.Timer
