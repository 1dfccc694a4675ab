import GenericNode.Timer.Periods

/-!
# One timer of the server

What an application sees of its timer: whether it is in the list of the server
and whether it is marked as running.  The calls change these two as stated,
whatever the list holds besides, also when a call before has created the timer
again while it was linked and so lost the timers behind it.
-/

namespace GenericNode.Freefall

open GenericNode.Library
open GenericNode.Library.Prog
open GenericNode.Timer

/-- `DownlinkTimer`, as the timer server sees it: in its list, and marked as
running. -/
structure DownlinkTimer where
  isLinked : Bool
  isRunning : Bool
deriving DecidableEq, Repr

namespace DownlinkTimer

/-- `UTIL_TIMER_Create`. -/
def create (timer : DownlinkTimer) : DownlinkTimer :=
  { timer with isRunning := false }

/-- `UTIL_TIMER_Start`. -/
def start (timer : DownlinkTimer) : DownlinkTimer :=
  if timer.isLinked = false ∧ timer.isRunning = false then ⟨true, true⟩ else timer

/-- `UTIL_TIMER_Stop`; an empty list leaves the mark. -/
def stop (isEmpty : Bool) (timer : DownlinkTimer) : DownlinkTimer :=
  if isEmpty ∧ timer.isLinked = false then timer else ⟨false, false⟩

/-- `UTIL_TIMER_SetPeriod`. -/
def setPeriod (timer : DownlinkTimer) : DownlinkTimer :=
  if timer.isLinked then (timer.stop false).start else timer

/-- `UTIL_TIMER_IRQ_Handler` takes an expired timer out of its list. -/
def expire (_ : DownlinkTimer) : DownlinkTimer :=
  ⟨false, false⟩

end DownlinkTimer

section Server

variable {ι : Type} [DecidableEq ι]

/-- A timer object as it stands in a list of the server. -/
def DownlinkTimer.view (world : TimerWorld ι) (timers : List ι) (timer : ι) : DownlinkTimer :=
  ⟨decide (timer ∈ timers), (world.objects timer).isRunning⟩

/-- The server has a list, and shows a timer so. -/
def Shows (world : TimerWorld ι) (timer : ι) (shown : DownlinkTimer) : Prop :=
  ∃ timers, world.Chains timers ∧ DownlinkTimer.view world timers timer = shown

variable {world middle final : TimerWorld ι} {timers : List ι} {timer : ι}

theorem Shows.of_mem (chains : final.Chains timers) (mem : timer ∈ timers)
    (running : (final.objects timer).isRunning = true) : Shows final timer ⟨true, true⟩ := by
  refine ⟨timers, chains, ?_⟩
  rw [DownlinkTimer.view, decide_eq_true mem, running]

theorem Shows.of_not_mem (chains : final.Chains timers) (missing : timer ∉ timers)
    (stopped : (final.objects timer).isRunning = false) : Shows final timer ⟨false, false⟩ := by
  refine ⟨timers, chains, ?_⟩
  rw [DownlinkTimer.view, decide_eq_false missing, stopped]

/-- The server creates a timer; one that is linked becomes the last of the list. -/
theorem wp_utilTimerCreate_view (chains : world.Chains timers) (period : ℕ)
    (mode : UtilTimerMode) :
    wp (utilTimerCreate timer period mode) (fun _ final =>
      Shows final timer (DownlinkTimer.view world timers timer).create) world := by
  rw [utilTimerCreate, wp_setObject]
  have others : ∀ change : UtilTimerObject ι → UtilTimerObject ι, ∀ other, other ≠ timer →
      (world.update timer change).next other = world.next other := by
    intro change other different
    rw [TimerWorld.next, update_other _ different]
    rfl
  by_cases mem : timer ∈ timers
  · rcases List.append_of_mem mem with ⟨before, after, rfl⟩
    have distinct := List.nodup_append.mp chains.nodup
    refine ⟨before ++ [timer], ?_, ?_⟩
    · apply Chain.replace chains
      · intro earlier earlier_mem
        apply others
        rintro rfl
        exact distinct.2.2 earlier earlier_mem earlier List.mem_cons_self rfl
      · rw [TimerWorld.next, update_same]
        exact .null
    · rw [DownlinkTimer.view, DownlinkTimer.view, decide_eq_true mem, update_same]
      simp [DownlinkTimer.create]
  · refine ⟨timers, chains.congr rfl fun other other_mem => ?_, ?_⟩
    · apply others
      rintro rfl
      exact mem other_mem
    · rw [DownlinkTimer.view, DownlinkTimer.view, update_same]
      rfl

variable [Fintype ι]

/-- A timer that neither is linked nor runs is linked and runs. -/
theorem wp_utilTimerStart_fresh (chains : world.Chains timers) (fresh : timer ∉ timers)
    (stopped : (world.objects timer).isRunning = false) :
    wp (utilTimerStart timer) (fun _ final => Shows final timer ⟨true, true⟩) world := by
  have inserted_shows : ∀ {middle final : TimerWorld ι}, HeadInserted middle timers timer final →
      (middle.objects timer).isRunning = true → Shows final timer ⟨true, true⟩ := by
    intro middle final inserted running
    exact .of_mem inserted.chains List.mem_cons_self ((isRunning_eq inserted.self).trans running)
  rw [utilTimerStart, wp_bind]
  apply wp_timerExists chains
  rw [wp_bind, wp_getObject, if_pos ⟨decide_eq_false fresh, stopped⟩, wp_bind, wp_setObject,
    wp_bind, wp_getTimerListHead, update_timerListHead, Chain.head_eq chains]
  cases timers with
  | nil =>
      rw [List.head?_nil, wp_bind]
      refine wp_mono wp_gnseRtcSetTimerContext fun _ middle only => ?_
      have middle_chains : middle.Chains [] := by
        rw [TimerWorld.Chains, only.timerListHead, update_timerListHead, Chain.head_eq chains]
        exact .null
      rw [wp_bind]
      refine wp_mono (wp_timerInsertNewHeadTimer middle_chains fresh) fun _ final inserted => ?_
      rw [wp_pure]
      apply inserted_shows inserted
      rw [only.objects, update_same]
  | cons head rest =>
      rw [List.head?_cons, wp_bind, wp_gnseRtcGetTimerElapsedTime, wp_bind, wp_setObject,
        wp_bind, wp_getObject, wp_bind, wp_getObject]
      generalize middle_eq : TimerWorld.update _ timer _ = middle
      have running : (middle.objects timer).isRunning = true := by
        rw [← middle_eq, update_same, withRtc_objects, update_same]
      have middle_chains : middle.Chains (head :: rest) := by
        rw [← middle_eq]
        refine chains.congr rfl fun other mem => ?_
        have different : other ≠ timer := by
          rintro rfl
          exact fresh mem
        rw [TimerWorld.next, update_other _ different, withRtc_objects, update_other _ different]
        rfl
      split_ifs
      · rw [wp_bind]
        refine wp_mono (wp_timerInsertNewHeadTimer middle_chains fresh) fun _ final inserted => ?_
        rw [wp_pure]
        exact inserted_shows inserted running
      · rw [wp_bind]
        refine wp_mono (wp_timerInsertTimer middle_chains fresh) fun _ final inserted => ?_
        rw [wp_pure]
        rcases inserted.chains with ⟨before, after, -, -, final_chains⟩
        exact .of_mem final_chains (List.mem_append_right _ List.mem_cons_self)
          ((isRunning_eq (inserted.timing timer)).trans running)

/-- The server starts a timer as its view says. -/
theorem wp_utilTimerStart_view (chains : world.Chains timers) :
    wp (utilTimerStart timer) (fun _ final =>
      Shows final timer (DownlinkTimer.view world timers timer).start) world := by
  rw [DownlinkTimer.start, DownlinkTimer.view]
  by_cases idle : decide (timer ∈ timers) = false ∧ (world.objects timer).isRunning = false
  · rw [if_pos idle]
    exact wp_utilTimerStart_fresh chains (of_decide_eq_false idle.1) idle.2
  · rw [if_neg idle, utilTimerStart, wp_bind]
    apply wp_timerExists chains
    rw [wp_bind, wp_getObject, if_neg idle, wp_pure]
    exact ⟨timers, chains, rfl⟩

omit [Fintype ι] in
/-- The first timer is unlinked. -/
theorem wp_utilTimerStopHead_view {rest : List ι} (chains : world.Chains (timer :: rest))
    (halted : Halted world timer middle) :
    wp (utilTimerStopHead timer) (fun _ final => Shows final timer ⟨false, false⟩) middle := by
  have distinct := List.nodup_cons.mp chains.nodup
  have tail := (Chain.cons_iff.mp chains).2
  apply wp_utilTimerStopHead_next chains halted
  intro shown still
  cases rest with
  | nil =>
      rw [List.head?_nil, wp_bind, gnseRtcStopTimer, wp_modifyRtc, wp_setTimerListHead]
      exact .of_not_mem .null List.not_mem_nil still.isRunning
  | cons next rest =>
      rw [List.head?_cons, wp_bind, wp_setTimerListHead]
      refine wp_mono wp_timerSetTimeout fun _ final set => ?_
      have different : timer ≠ next := by
        rintro rfl
        exact distinct.1 List.mem_cons_self
      have final_chains : final.Chains (next :: rest) := by
        rw [TimerWorld.Chains, set.timerListHead, withHead_timerListHead]
        apply Chain.node
        have links : ∀ other, final.next other = world.next other := by
          intro other
          rw [set.links, ← still.next]
          rfl
        rw [links]
        exact (Chain.cons_iff.mp tail).2.congr fun other _ => links other
      apply Shows.of_not_mem final_chains distinct.1
      rw [isRunning_eq (set.others timer different), withHead_objects, still.isRunning]

/-- The server stops a timer as its view says. -/
theorem wp_utilTimerStop_view (chains : world.Chains timers) :
    wp (utilTimerStop timer) (fun _ final =>
      Shows final timer ((DownlinkTimer.view world timers timer).stop timers.isEmpty)) world := by
  rw [utilTimerStop, wp_bind, wp_setObject, wp_bind, wp_getTimerListHead, update_timerListHead,
    Chain.head_eq chains]
  cases timers with
  | nil =>
      rw [List.head?_nil, wp_pure]
      refine ⟨[], chains.congr rfl fun other mem => absurd mem List.not_mem_nil, ?_⟩
      rw [DownlinkTimer.view, update_same]
      rfl
  | cons first rest =>
      rw [List.head?_cons, wp_bind]
      change wp _ (fun _ final => wp (pure _) (fun _ final => Shows final timer ⟨false, false⟩)
        final) _
      by_cases here : first = timer
      · subst here
        rw [utilTimerStopLinked, wp_bind, wp_setObject, if_pos rfl]
        refine wp_mono (wp_utilTimerStopHead_view chains .of_stop) fun _ final shows => ?_
        rwa [wp_pure]
      · refine wp_mono (wp_utilTimerStopLinked_behind chains here) ?_
        rintro _ final ⟨middle, halted, unlinked⟩
        rw [wp_pure]
        apply Shows.of_not_mem unlinked.chains chains.nodup.not_mem_erase
        rw [isRunning_eq (unlinked.timing timer), halted.isRunning]

/-- The server moves a timer as its view says. -/
theorem wp_utilTimerSetPeriod_view (chains : world.Chains timers) (newPeriodValue : ℕ) :
    wp (utilTimerSetPeriod timer newPeriodValue) (fun _ final =>
      Shows final timer (DownlinkTimer.view world timers timer).setPeriod) world := by
  rw [utilTimerSetPeriod, wp_bind, wp_setObject, wp_bind]
  have reloaded : (world.withReload timer newPeriodValue).Chains timers :=
    chains.withReload newPeriodValue
  rw [TimerWorld.withReload] at reloaded
  apply wp_timerExists reloaded
  rw [DownlinkTimer.setPeriod]
  by_cases mem : timer ∈ timers
  · have linked : (DownlinkTimer.view world timers timer).isLinked = true := decide_eq_true mem
    rw [if_pos (decide_eq_true mem), if_pos linked, wp_bind]
    refine wp_mono (wp_utilTimerStop_view reloaded) fun _ middle shows => ?_
    rcases shows with ⟨others, middle_chains, shown⟩
    have stopped : ∀ view : DownlinkTimer, view.stop timers.isEmpty = view.stop false := by
      intro view
      cases timers with
      | nil => exact absurd mem List.not_mem_nil
      | cons first rest => rfl
    refine wp_mono (wp_utilTimerStart_view middle_chains) fun _ final shows => ?_
    rw [shown, stopped] at shows
    exact shows
  · have unlinked : (DownlinkTimer.view world timers timer).isLinked = false :=
      decide_eq_false mem
    rw [if_neg (by simpa using mem), unlinked, wp_pure]
    refine ⟨timers, reloaded, ?_⟩
    rw [DownlinkTimer.view, update_same]
    rfl

omit [Fintype ι] in
/-- The interrupt handler takes the timer out of the list that it calls back. -/
theorem wp_utilTimerIrqNext_view (chains : world.Chains timers) :
    wp utilTimerIrqNext (fun expired final => ∀ timer ∈ expired,
      Shows final timer (DownlinkTimer.view world timers timer).expire) world := by
  rw [utilTimerIrqNext, wp_bind, wp_getTimerListHead, Chain.head_eq chains]
  cases timers with
  | nil =>
      rw [List.head?_nil, wp_pure]
      intro timer mem
      cases mem
  | cons cur rest =>
      have distinct := List.nodup_cons.mp chains.nodup
      have tail := (Chain.cons_iff.mp chains).2
      rw [List.head?_cons, wp_bind]
      have unlinked : ∀ middle : TimerWorld ι, middle.objects = world.objects →
          wp (utilTimerUnlink cur) (fun expired final => ∀ timer ∈ expired,
            Shows final timer ⟨false, false⟩) middle := by
        intro middle same
        rw [utilTimerUnlink, wp_bind, wp_getObject, wp_bind, wp_setTimerListHead, wp_bind,
          wp_setObject, wp_pure, same]
        intro timer mem
        cases mem
        refine Shows.of_not_mem ?_ distinct.1 ?_
        · rw [TimerWorld.Chains, update_timerListHead, withHead_timerListHead]
          refine tail.congr fun other mem => ?_
          have different : other ≠ cur := by
            rintro rfl
            exact distinct.1 mem
          rw [TimerWorld.next, update_other _ different, withHead_objects, same]
          rfl
        · rw [update_same]
      have rearmed : ∀ middle : TimerWorld ι,
          wp (utilTimerRearm cur) (fun expired final => ∀ timer ∈ expired,
            Shows final timer ⟨false, false⟩) middle := by
        intro middle
        rw [utilTimerRearm, wp_bind, wp_getObject]
        split_ifs
        · rw [wp_bind]
          refine wp_mono wp_timerSetTimeout fun _ final _ => ?_
          rw [wp_pure]
          intro timer mem
          cases mem
        · change wp (pure none) _ middle
          rw [wp_pure]
          intro timer mem
          cases mem
      rw [utilTimerExpired, wp_bind, wp_getObject]
      split_ifs
      · rw [wp_pure, if_pos rfl]
        exact unlinked world rfl
      · rw [wp_bind, wp_gnseRtcGetTimerElapsedTime, wp_pure]
        split_ifs
        · exact unlinked _ rfl
        · exact rearmed _

end Server

end GenericNode.Freefall
