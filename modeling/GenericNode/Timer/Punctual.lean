import GenericNode.Timer.Expiry

/-!
# Timers that are not late

The list is in the order of the deadlines, but for a first timer whose alarm was
set too short before its deadline and therefore later.  No timer waits for a
deadline that is late, so that no callback is late if the alarms are armed and
served in time.
-/

namespace GenericNode.Timer

open GenericNode.Library
open GenericNode.Library.Prog
open GenericNode.Rtc

section Punctual

variable {ι : Type} {world middle final : TimerWorld ι} {timers timers' rest : List ι}
  {timer head : ι} {due base base' : ι → ℕ} {late late' : ℕ} {serving : Bool}

/-! ## The order of the deadlines -/

/-- The deadlines are in order and not late; in the interrupt handler they may
have passed. -/
structure Orderly (serving : Bool) (base : ι → ℕ) (late : ℕ) (world : TimerWorld ι)
    (timers : List ι) : Prop where
  sorted : timers.Pairwise fun first second => world.deadline first ≤ world.deadline second
  limited : ∀ timer ∈ timers, world.deadline timer ≤ base timer + late ∨
    serving = true ∧ world.deadline timer ≤ world.rtc.contextTicks

/-- The deadline of the first timer was moved to the shortest alarm. -/
structure Moved (base : ι → ℕ) (late : ℕ) (world : TimerWorld ι) (head : ι) (rest : List ι) :
    Prop where
  behind : Orderly false base late world rest
  pending : (world.objects head).isPending = true
  soon : world.deadline head ≤ world.rtc.ticks + minAlarmDelay
  limited : ∀ timer ∈ head :: rest, world.deadline head ≤ base timer + minAlarmDelay + 2 * late

/-- The deadlines are in order, or that of the first timer was moved; the alarm
interrupt is not before the deadline of the first timer. -/
structure Punctual (serving : Bool) (base : ι → ℕ) (late : ℕ) (world : TimerWorld ι)
    (timers : List ι) : Prop where
  order : Orderly serving base late world timers ∨
    ∃ head rest, timers = head :: rest ∧ Moved base late world head rest
  rung : ∀ head ∈ timers.head?, (world.objects head).isPending = true →
    world.rtc.alarmFlag = true → world.deadline head ≤ world.rtc.ticks

theorem Orderly.mono (orderly : Orderly serving base late world timers)
    (raised : ∀ timer ∈ timers, base timer + late ≤ base' timer + late') :
    Orderly serving base' late' world timers := by
  refine ⟨orderly.sorted, fun timer mem => ?_⟩
  exact (orderly.limited timer mem).imp (fun limited => limited.trans (raised timer mem)) id

/-- No limit has become smaller. -/
theorem Punctual.mono (punctual : Punctual serving base late world timers)
    (raised : ∀ timer ∈ timers, base timer ≤ base' timer) (later : late ≤ late') :
    Punctual serving base' late' world timers := by
  refine ⟨?_, punctual.rung⟩
  rcases punctual.order with orderly | ⟨head, rest, rfl, moved⟩
  · exact .inl (orderly.mono fun timer mem => Nat.add_le_add (raised timer mem) later)
  · refine .inr ⟨head, rest, rfl, ?_, moved.pending, moved.soon, fun timer mem => ?_⟩
    · exact moved.behind.mono fun timer mem =>
        Nat.add_le_add (raised timer (List.mem_cons_of_mem _ mem)) later
    · have limited := moved.limited timer mem
      have more := raised timer mem
      linarith

/-- The order is one of the deadlines alone. -/
theorem Orderly.congr (orderly : Orderly serving base late world timers)
    (deadline : ∀ timer ∈ timers, final.deadline timer = world.deadline timer)
    (contextTicks : final.rtc.contextTicks = world.rtc.contextTicks) :
    Orderly serving base late final timers := by
  constructor
  · refine orderly.sorted.imp_of_mem ?_
    intro first second mem mem' ordered
    rw [deadline first mem, deadline second mem']
    exact ordered
  · intro timer mem
    rw [deadline timer mem, contextTicks]
    exact orderly.limited timer mem

theorem Moved.congr (moved : Moved base late world head rest)
    (deadline : ∀ timer ∈ head :: rest, final.deadline timer = world.deadline timer)
    (contextTicks : final.rtc.contextTicks = world.rtc.contextTicks)
    (pending : (final.objects head).isPending = (world.objects head).isPending)
    (ticks : world.rtc.ticks ≤ final.rtc.ticks) : Moved base late final head rest := by
  have first := deadline head List.mem_cons_self
  constructor
  · exact moved.behind.congr (fun timer mem => deadline timer (List.mem_cons_of_mem _ mem))
      contextTicks
  · exact pending.trans moved.pending
  · rw [first]
    exact moved.soon.trans (Nat.add_le_add_right ticks _)
  · rw [first]
    exact moved.limited

theorem Punctual.congr (punctual : Punctual serving base late world timers)
    (objects : ∀ other ∈ timers, final.objects other = world.objects other)
    (rtc : final.rtc = world.rtc) : Punctual serving base late final timers := by
  have deadline : ∀ other ∈ timers, final.deadline other = world.deadline other := by
    intro other mem
    rw [TimerWorld.deadline, objects other mem, rtc, TimerWorld.deadline]
  have contextTicks : final.rtc.contextTicks = world.rtc.contextTicks := by rw [rtc]
  constructor
  · rcases punctual.order with orderly | ⟨head, rest, rfl, moved⟩
    · exact .inl (orderly.congr deadline contextTicks)
    · exact .inr ⟨head, rest, rfl, moved.congr deadline contextTicks
        (congrArg _ (objects head List.mem_cons_self)) (by rw [rtc])⟩
  · intro head first
    have mem := List.mem_of_head? first
    rw [objects head mem, deadline head mem, rtc]
    exact punctual.rung head first

/-- Behind the first timer the deadlines are in order. -/
theorem Punctual.behind (punctual : Punctual serving base late world (head :: rest)) :
    Orderly serving base late world rest := by
  rcases punctual.order with orderly | ⟨_, _, ⟨⟩, moved⟩
  · exact ⟨(List.pairwise_cons.mp orderly.sorted).2,
      fun timer mem => orderly.limited timer (List.mem_cons_of_mem _ mem)⟩
  · exact ⟨moved.behind.sorted, fun timer mem => (moved.behind.limited timer mem).imp id
      fun ⟨handling, _⟩ => absurd handling Bool.false_ne_true⟩

/-- A first timer without an alarm was not moved. -/
theorem Punctual.orderly (punctual : Punctual serving base late world (head :: rest))
    (idle : (world.objects head).isPending = false) :
    Orderly serving base late world (head :: rest) := by
  rcases punctual.order with orderly | ⟨_, _, ⟨⟩, moved⟩
  · exact orderly
  · rw [moved.pending] at idle
    cases idle

/-- The deadlines behind an earlier one are ahead, and not late. -/
theorem Orderly.limited_of_ahead (orderly : Orderly serving base late world (head :: rest))
    (ahead : world.rtc.contextTicks < world.deadline head) (timer : ι)
    (mem : timer ∈ head :: rest) :
    world.deadline head ≤ world.deadline timer ∧ world.deadline timer ≤ base timer + late := by
  have later : world.deadline head ≤ world.deadline timer := by
    rcases List.mem_cons.mp mem with rfl | mem
    · exact Nat.le_refl _
    · exact List.rel_of_pairwise_cons orderly.sorted mem
  refine ⟨later, (orderly.limited timer mem).resolve_right ?_⟩
  rintro ⟨-, passed⟩
  exact absurd (ahead.trans_le later) (Nat.not_lt_of_le passed)

/-! ## The alarm -/

/-- Time passes, at a call of the driver or between the calls. -/
theorem Punctual.passed (punctual : Punctual serving base late world timers)
    (timed : Timed due world timers) (watched : ∀ head ∈ timers.head?, Watched serving world head)
    (prompt : world.rtc.slowest < minAlarmDelay) {count : ℕ}
    (objects : ∀ other ∈ timers, middle.objects other = world.objects other)
    (contextTicks : middle.rtc.contextTicks = world.rtc.contextTicks)
    (ticks : middle.rtc.ticks = world.rtc.ticks + count)
    (alarmFlag : middle.rtc.alarmFlag = (world.rtc.alarmFlag || world.rtc.meetsAlarm count)) :
    Punctual serving base late middle timers := by
  have deadline : ∀ other ∈ timers, middle.deadline other = world.deadline other := by
    intro other mem
    rw [TimerWorld.deadline, objects other mem, contextTicks, TimerWorld.deadline]
  have later : world.rtc.ticks ≤ middle.rtc.ticks := by
    rw [ticks]
    exact Nat.le_add_right _ _
  constructor
  · rcases punctual.order with orderly | ⟨head, rest, rfl, moved⟩
    · exact .inl (orderly.congr deadline contextTicks)
    · exact .inr ⟨head, rest, rfl, moved.congr deadline contextTicks
        (congrArg _ (objects head List.mem_cons_self)) later⟩
  · intro head first pending
    have mem := List.mem_of_head? first
    rw [objects head mem] at pending
    rw [alarmFlag, Bool.or_eq_true, deadline head mem]
    rintro (flag | meets)
    · exact (punctual.rung head first pending flag).trans later
    · rcases watched head first with ⟨-, alarm, ahead⟩ | ⟨-, idle | zero⟩
      · rcases ahead with flag | ahead | slow
        · exact (punctual.rung head first pending flag).trans later
        · have near := timed.near mem
          rw [TimerRtc.meetsAlarm, alarm, decide_eq_true_eq] at meets
          omega
        · exact absurd prompt (Nat.not_lt_of_le slow)
      · rw [pending] at idle
        cases idle
      · have past := timed.exact.past
        rw [TimerWorld.deadline, zero]
        exact past.trans later

theorem Punctual.called (punctual : Punctual serving base late world timers)
    (timed : Timed due world timers) (watched : ∀ head ∈ timers.head?, Watched serving world head)
    (prompt : world.rtc.slowest < minAlarmDelay)
    (objects : ∀ other ∈ timers, middle.objects other = world.objects other)
    (rtc : middle.rtc = world.rtc.called) : Punctual serving base late middle timers := by
  have contextTicks : middle.rtc.contextTicks = world.rtc.contextTicks := by
    rw [rtc]
    rfl
  have ticks : middle.rtc.ticks = world.rtc.ticks + world.rtc.delays world.rtc.calls := by
    rw [rtc]
    rfl
  refine punctual.passed timed watched prompt objects contextTicks ticks ?_
  rw [rtc]
  rfl

/-- A first timer that gets its alarm is in order, or it is moved. -/
theorem Orderly.rearmed (orderly : Orderly serving base late world (head :: rest))
    (distinct : (head :: rest).Nodup) (set : Rearmed world head final)
    (limited : ∀ timer ∈ head :: rest, world.deadline timer ≤ base timer + late)
    (brief : ∀ timer ∈ head :: rest, final.rtc.ticks ≤ base timer + 2 * late)
    (serving' : Bool) : Punctual serving' base late final (head :: rest) := by
  have others : ∀ other ∈ rest, final.deadline other = world.deadline other := by
    intro other mem
    apply set.others
    rintro rfl
    exact (List.nodup_cons.mp distinct).1 mem
  have settled : Orderly false base late world (head :: rest) :=
    ⟨orderly.sorted, fun timer mem => .inl (limited timer mem)⟩
  constructor
  · rcases set.moved with same | moved
    · left
      refine ⟨?_, ?_⟩
      · refine orderly.sorted.imp_of_mem ?_
        intro first second mem mem' ordered
        have still : ∀ timer ∈ head :: rest, final.deadline timer = world.deadline timer := by
          rintro timer mem
          rcases List.mem_cons.mp mem with rfl | mem
          · exact same
          · exact others timer mem
        rw [still first mem, still second mem']
        exact ordered
      · intro timer mem
        left
        rcases List.mem_cons.mp mem with rfl | behind
        · rw [same]
          exact limited timer mem
        · rw [others timer behind]
          exact limited timer mem
    · refine .inr ⟨head, rest, rfl, ?_, set.pending, moved, fun timer mem => ?_⟩
      · have behind : Orderly false base late world rest :=
          ⟨(List.pairwise_cons.mp settled.sorted).2,
            fun timer mem => settled.limited timer (List.mem_cons_of_mem _ mem)⟩
        exact behind.congr others set.contextTicks
      · have soon := brief timer mem
        linarith
  · rintro _ ⟨⟩ - flag
    rw [set.cleared] at flag
    cases flag

/-! ## The alarm interrupt -/

/-- The interrupt comes at the deadline of the first timer, so that the deadlines
are in order at the new reference. -/
theorem Punctual.entered (punctual : Punctual false base late world timers)
    (entered : Entered world timers final) (flag : world.rtc.alarmFlag = true)
    (watched : ∀ head ∈ timers.head?, Watched false world head) :
    Punctual true base late final timers := by
  have later := world.rtc.ticks_le_ticksAfter 1
  have rung : ∀ head ∈ timers.head?, final.deadline head = world.rtc.ticksAfter 1 := by
    intro head first
    rcases watched head first with ⟨pending, -⟩ | ⟨⟨⟩, -⟩
    rw [entered.deadline head (List.mem_of_head? first)]
    exact Nat.max_eq_left ((punctual.rung head first pending flag).trans later)
  have limited : ∀ timer ∈ timers, world.deadline timer ≤ base timer + late →
      final.deadline timer ≤ base timer + late ∨
        true = true ∧ final.deadline timer ≤ final.rtc.contextTicks := by
    intro timer mem limited
    rw [entered.deadline timer mem, entered.contextTicks]
    rcases Nat.le_total (world.deadline timer) (world.rtc.ticksAfter 1) with passed | ahead
    · rw [Nat.max_eq_left passed]
      exact .inr ⟨rfl, Nat.le_refl _⟩
    · rw [Nat.max_eq_right ahead]
      exact .inl limited
  have shifted : ∀ {timers' : List ι}, (∀ timer ∈ timers', timer ∈ timers) →
      (timers'.Pairwise fun first second => world.deadline first ≤ world.deadline second) →
      timers'.Pairwise fun first second => final.deadline first ≤ final.deadline second := by
    intro timers' members sorted
    refine sorted.imp_of_mem ?_
    intro first second mem mem' ordered
    rw [entered.deadline first (members first mem), entered.deadline second (members second mem')]
    exact max_le_max (Nat.le_refl _) ordered
  constructor
  · left
    rcases punctual.order with orderly | ⟨head, rest, rfl, moved⟩
    · refine ⟨shifted (fun _ => id) orderly.sorted, fun timer mem => limited timer mem ?_⟩
      exact (orderly.limited timer mem).resolve_right fun ⟨handling, _⟩ => by cases handling
    · have first := rung head rfl
      constructor
      · refine List.pairwise_cons.mpr ⟨fun timer mem => ?_,
          shifted (fun _ => List.mem_cons_of_mem _) moved.behind.sorted⟩
        rw [first, entered.deadline timer (List.mem_cons_of_mem _ mem)]
        exact Nat.le_max_left _ _
      · intro timer mem
        rcases List.mem_cons.mp mem with rfl | behind
        · exact .inr ⟨rfl, by rw [first, entered.contextTicks]⟩
        · apply limited timer mem
          exact (moved.behind.limited timer behind).resolve_right fun ⟨handling, _⟩ => by
            cases handling
  · intro head first _ _
    rw [rung head first, entered.ticks]

/-- A test of the handler unlinks the first timer, or it ends with a first timer
that is ahead. -/
theorem Punctual.tested {expired : Option ι} (punctual : Punctual true base late world timers)
    (timed : Timed due world timers) (watched : ∀ head ∈ timers.head?, Watched true world head)
    (prompt : world.rtc.slowest < minAlarmDelay)
    (tested : Tested world timers final expired timers')
    (brief : final.rtc.ticks ≤ world.rtc.ticks + late) :
    Punctual expired.isSome base late final timers' := by
  have ahead_of : ∀ {cur}, (world.objects cur).timestamp ≠ 0 →
      world.rtc.contextTicks < world.deadline cur := by
    intro cur ahead
    exact Nat.lt_add_of_pos_right (Nat.pos_of_ne_zero ahead)
  cases tested with
  | empty none_left same =>
      refine ⟨.inl ⟨List.Pairwise.nil, ?_⟩, ?_⟩
      · rintro timer ⟨⟩
      · rintro head ⟨⟩
  | unlinked cur rest split timestamp idle contextTicks ticks slowest =>
      rw [split] at punctual
      refine ⟨.inl (punctual.behind.congr (fun other mem => ?_) contextTicks), ?_⟩
      · rw [TimerWorld.deadline, contextTicks, timestamp other mem, TimerWorld.deadline]
      · intro head first pending
        rw [idle head first] at pending
        cases pending
  | armed cur rest split pending ahead objects rtc =>
      have passed : Punctual true base late final timers := by
        refine punctual.called timed watched prompt (fun other _ => congrFun objects other) rtc
      refine ⟨?_, passed.rung⟩
      rcases passed.order with orderly | moved
      · left
        rw [split] at orderly ⊢
        have later : final.rtc.contextTicks < final.deadline cur := by
          have later := ahead_of ahead
          rw [TimerWorld.deadline, objects, rtc]
          exact later
        exact ⟨orderly.sorted, fun timer mem => .inl (orderly.limited_of_ahead later timer mem).2⟩
      · exact .inr moved
  | rearmed middle cur rest split idle ahead early objects rtc rearmed =>
      rw [split] at punctual timed ⊢
      have deadline : ∀ other, middle.deadline other = world.deadline other := by
        intro other
        rw [TimerWorld.deadline, objects, rtc]
        rfl
      have orderly := punctual.orderly idle
      have limited := orderly.limited_of_ahead (ahead_of ahead)
      have contextTicks : middle.rtc.contextTicks = world.rtc.contextTicks := by
        rw [rtc]
        rfl
      refine (orderly.congr (fun other _ => deadline other) contextTicks).rearmed
        timed.linked.chains.nodup rearmed (fun timer mem => ?_) (fun timer mem => ?_) _
      · rw [deadline]
        exact (limited timer mem).2
      · rcases limited timer mem with ⟨later, limit⟩
        have read : world.rtc.ticks ≤ middle.rtc.ticks := by
          rw [rtc]
          exact Nat.le_add_right _ _
        linarith

/-! ## Starts and stops -/

/-- A timer that gets its place in order. -/
theorem pairwise_insert {before after : List ι} {deadline : ι → ℕ}
    (sorted : (before ++ after).Pairwise fun first second => deadline first ≤ deadline second)
    (passed : ∀ other ∈ before, deadline other ≤ deadline timer)
    (next : ∀ other ∈ after.head?, deadline timer ≤ deadline other) :
    (before ++ timer :: after).Pairwise fun first second => deadline first ≤ deadline second := by
  rcases List.pairwise_append.mp sorted with ⟨earlier, later, across⟩
  refine List.pairwise_append.mpr ⟨earlier, List.pairwise_cons.mpr ⟨?_, later⟩, ?_⟩
  · cases after with
    | nil =>
        rintro other ⟨⟩
    | cons first after =>
        have first_later := next first rfl
        intro other mem
        rcases List.mem_cons.mp mem with rfl | mem
        · exact first_later
        · exact first_later.trans (List.rel_of_pairwise_cons later mem)
  · intro first mem second mem'
    rcases List.mem_cons.mp mem' with rfl | mem'
    · exact passed first mem
    · exact across first mem second mem'

theorem Orderly.insert {before after : List ι}
    (orderly : Orderly serving base late world (before ++ after))
    (passed : ∀ other ∈ before, world.deadline other ≤ world.deadline timer)
    (next : ∀ other ∈ after.head?, world.deadline timer ≤ world.deadline other)
    (limited : world.deadline timer ≤ base timer + late) :
    Orderly serving base late world (before ++ timer :: after) := by
  refine ⟨pairwise_insert orderly.sorted passed next, fun other mem => ?_⟩
  rcases List.mem_cons.mp (List.perm_middle.mem_iff.mp mem) with rfl | mem
  · exact .inl limited
  · exact orderly.limited other mem

/-- Behind a first timer that was moved, another one gets its place. -/
theorem Moved.insert {before after : List ι} (moved : Moved base late world head (before ++ after))
    (passed : ∀ other ∈ before, world.deadline other ≤ world.deadline timer)
    (next : ∀ other ∈ after.head?, world.deadline timer ≤ world.deadline other)
    (limited : world.deadline timer ≤ base timer + late)
    (prompt : world.rtc.ticks ≤ base timer + 2 * late) :
    Moved base late world head (before ++ timer :: after) := by
  refine ⟨moved.behind.insert passed next limited, moved.pending, moved.soon, fun other mem => ?_⟩
  rcases List.mem_cons.mp mem with rfl | mem
  · exact moved.limited other List.mem_cons_self
  · rcases List.mem_cons.mp (List.perm_middle.mem_iff.mp mem) with rfl | mem
    · have soon := moved.soon
      linarith
    · exact moved.limited other (List.mem_cons_of_mem _ mem)

/-- The first timer was not moved if another one is due before it, after the
shortest alarm. -/
theorem Punctual.before_head (punctual : Punctual serving base late world (head :: rest))
    (exact : world.rtc.Exact) (shortest : world.rtc.ticks + minAlarmDelay ≤ world.deadline timer)
    (earlier : world.deadline timer < world.deadline head) :
    Orderly serving base late world (head :: rest) ∧ ∀ other ∈ head :: rest,
      world.deadline head ≤ world.deadline other ∧ world.deadline other ≤ base other + late := by
  have orderly : Orderly serving base late world (head :: rest) := by
    rcases punctual.order with orderly | ⟨_, _, ⟨⟩, moved⟩
    · exact orderly
    · have soon := moved.soon
      exact absurd (shortest.trans_lt earlier) (Nat.not_lt_of_le soon)
  have ahead : world.rtc.contextTicks < world.deadline head :=
    (exact.past.trans ((Nat.le_add_right _ _).trans shortest)).trans_lt earlier
  exact ⟨orderly, orderly.limited_of_ahead ahead⟩

/-- A timer that is started becomes the first one, and gets its alarm. -/
theorem Punctual.joined_first (punctual : Punctual serving base late middle timers)
    (exact : middle.rtc.Exact) (nodup : (timer :: timers).Nodup)
    (earliest : ∀ head ∈ timers.head?,
      (middle.objects timer).timestamp < (middle.objects head).timestamp)
    (rearmed : Rearmed middle timer final) (brief : final.rtc.ticks ≤ middle.rtc.ticks + late)
    (shortest : middle.rtc.ticks + minAlarmDelay ≤ middle.deadline timer)
    (limited : middle.deadline timer ≤ base timer + late)
    (prompt : final.rtc.ticks ≤ base timer + 2 * late) :
    Punctual serving base late final (timer :: timers) := by
  cases timers with
  | nil =>
      have alone : Orderly serving base late middle [timer] := by
        refine ⟨List.pairwise_singleton _ _, ?_⟩
        intro other mem
        rw [List.mem_singleton.mp mem]
        exact .inl limited
      refine alone.rearmed nodup rearmed ?_ ?_ _
      · intro other mem
        rw [List.mem_singleton.mp mem]
        exact limited
      · intro other mem
        rw [List.mem_singleton.mp mem]
        exact prompt
  | cons head rest =>
      have earlier : middle.deadline timer < middle.deadline head :=
        Nat.add_lt_add_left (earliest head rfl) _
      rcases punctual.before_head exact shortest earlier with ⟨orderly, ahead⟩
      have all_limited : ∀ other ∈ timer :: head :: rest,
          middle.deadline other ≤ base other + late := by
        intro other mem
        rcases List.mem_cons.mp mem with rfl | mem
        · exact limited
        · exact (ahead other mem).2
      have sorted : Orderly serving base late middle (timer :: head :: rest) := by
        refine ⟨List.pairwise_cons.mpr ⟨fun other mem => ?_, orderly.sorted⟩,
          fun other mem => .inl (all_limited other mem)⟩
        exact earlier.le.trans (ahead other mem).1
      refine sorted.rearmed nodup rearmed all_limited (fun other mem => ?_) _
      rcases List.mem_cons.mp mem with rfl | mem
      · exact prompt
      · rcases ahead other mem with ⟨later, limit⟩
        linarith

/-- A timer that is started is the first one and gets its alarm, or it gets its
place in order. -/
theorem Punctual.joined (punctual : Punctual serving base late middle timers)
    (exact : middle.rtc.Exact) (distinct : timers.Nodup) (fresh : timer ∉ timers)
    (joined : Joined middle timers timer final timers')
    (brief : final.rtc.ticks ≤ middle.rtc.ticks + late)
    (shortest : middle.rtc.ticks + minAlarmDelay ≤ middle.deadline timer)
    (limited : middle.deadline timer ≤ base timer + late)
    (prompt : final.rtc.ticks ≤ base timer + 2 * late) :
    Punctual serving base late final timers' := by
  cases joined with
  | first earliest rearmed =>
      exact punctual.joined_first exact (List.nodup_cons.mpr ⟨fresh, distinct⟩) earliest rearmed
        brief shortest limited prompt
  | behind head before after split later placed rtc timestamp pending =>
      subst split
      have deadline : ∀ other, final.deadline other = middle.deadline other := by
        intro other
        rw [TimerWorld.deadline, rtc, timestamp, TimerWorld.deadline]
      have contextTicks : final.rtc.contextTicks = middle.rtc.contextTicks := by rw [rtc]
      have ordered : ∀ {first second : ι},
          (middle.objects first).timestamp ≤ (middle.objects second).timestamp →
          middle.deadline first ≤ middle.deadline second :=
        fun le => Nat.add_le_add_left le _
      have passed : ∀ other ∈ before, middle.deadline other ≤ middle.deadline timer :=
        fun other mem => ordered (placed.passed other mem).le
      have next : ∀ other ∈ after.head?, middle.deadline timer ≤ middle.deadline other :=
        fun other first => ordered (placed.next other first)
      constructor
      · rcases punctual.order with orderly | ⟨_, _, ⟨⟩, moved⟩
        · left
          have inserted : Orderly serving base late middle (head :: before ++ timer :: after) := by
            refine orderly.insert (fun other mem => ?_) next limited
            rcases List.mem_cons.mp mem with rfl | mem
            · exact ordered later
            · exact passed other mem
          exact inserted.congr (fun other _ => deadline other) contextTicks
        · rw [rtc] at prompt
          exact .inr ⟨head, before ++ timer :: after, rfl,
            (moved.insert passed next limited prompt).congr (fun other _ => deadline other)
              contextTicks (pending head) (by rw [rtc])⟩
      · rintro _ ⟨⟩
        rw [deadline, pending, rtc]
        exact punctual.rung head rfl

/-- A start, of a timer that is due after its period. -/
theorem Punctual.started (punctual : Punctual serving base late world timers)
    (timed : Timed due world timers) (watched : ∀ head ∈ timers.head?, Watched serving world head)
    (prompt : world.rtc.slowest < minAlarmDelay) (fresh : timer ∉ timers)
    (begun : Begun world timers timer middle) (joined : Joined middle timers timer final timers')
    (brief : final.rtc.ticks ≤ world.rtc.ticks + late)
    (due_after : world.rtc.ticks + max minAlarmDelay (world.objects timer).reloadValue ≤
      base timer) : Punctual serving base late final timers' := by
  have later := joined.ticks
  have read : Punctual serving base late middle timers := by
    cases timers with
    | nil =>
        refine ⟨.inl ⟨List.Pairwise.nil, ?_⟩, ?_⟩
        · rintro timer ⟨⟩
        · rintro head ⟨⟩
    | cons head rest =>
        exact punctual.called timed watched prompt begun.objects (begun.rtc (List.cons_ne_nil _ _))
  have ticks := begun.ticks
  have shortest := Nat.le_max_left minAlarmDelay (world.objects timer).reloadValue
  refine read.joined begun.exact timed.linked.chains.nodup fresh joined ?_ ?_ ?_ ?_
  · linarith
  · rw [begun.deadline]
    exact Nat.add_le_add_left shortest _
  · rw [begun.deadline]
    linarith
  · linarith

/-- After a stop no deadline is late that was not late before it, or is not later
than the stop. -/
theorem Punctual.stopped [DecidableEq ι] (punctual : Punctual serving base late world timers)
    (timed : Timed due world timers) (left : Left world timers timer final timers')
    (raised : ∀ other ∈ timers', base other ≤ base' other ∧ final.rtc.ticks ≤ base' other) :
    Punctual serving base' late final timers' := by
  cases left with
  | empty ticks slowest =>
      refine ⟨.inl ⟨List.Pairwise.nil, ?_⟩, ?_⟩
      · rintro timer ⟨⟩
      · rintro head ⟨⟩
  | next middle next rest split objects rtc rearmed =>
      subst split
      have deadline : ∀ other ∈ next :: rest, middle.deadline other = world.deadline other := by
        intro other mem
        rw [TimerWorld.deadline, objects other mem, rtc, TimerWorld.deadline]
      have behind := punctual.behind
      have past := timed.exact.past
      have ticks := rearmed.ticks
      rw [rtc] at ticks
      have distinct := (List.nodup_cons.mp timed.linked.chains.nodup).2
      have limited : ∀ other ∈ next :: rest, middle.deadline other ≤ base' other + late := by
        intro other mem
        rcases raised other mem with ⟨more, stop⟩
        rw [deadline other mem]
        rcases behind.limited other mem with limited | ⟨-, passed⟩ <;> linarith
      have contextTicks : middle.rtc.contextTicks = world.rtc.contextTicks := by rw [rtc]
      have settled : Orderly serving base' late middle (next :: rest) :=
        (behind.mono fun other mem => Nat.add_le_add_right (raised other mem).1 _).congr deadline
          contextTicks
      refine settled.rearmed distinct rearmed limited (fun other mem => ?_) _
      exact (raised other mem).2.trans (Nat.le_add_right _ _)
  | behind head rest split rtc timestamp pending =>
      subst split
      have deadline : ∀ other ∈ head :: rest.erase timer,
          final.deadline other = world.deadline other := by
        intro other mem
        rw [TimerWorld.deadline, rtc, timestamp other mem, TimerWorld.deadline]
      have contextTicks : final.rtc.contextTicks = world.rtc.contextTicks := by rw [rtc]
      have sublist : (head :: rest.erase timer).Sublist (head :: rest) :=
        List.Sublist.cons_cons head List.erase_sublist
      have fewer : Punctual serving base late final (head :: rest.erase timer) := by
        constructor
        · rcases punctual.order with orderly | ⟨_, _, ⟨⟩, moved⟩
          · have kept : Orderly serving base late world (head :: rest.erase timer) :=
              ⟨orderly.sorted.sublist sublist,
                fun other mem => orderly.limited other (sublist.subset mem)⟩
            exact .inl (kept.congr deadline contextTicks)
          · have kept : Moved base late world head (rest.erase timer) :=
              ⟨⟨moved.behind.sorted.sublist List.erase_sublist,
                  fun other mem => moved.behind.limited other (List.mem_of_mem_erase mem)⟩,
                moved.pending, moved.soon,
                fun other mem => moved.limited other (sublist.subset mem)⟩
            exact .inr ⟨head, rest.erase timer, rfl, kept.congr deadline contextTicks
              (pending head List.mem_cons_self) (by rw [rtc])⟩
        · rintro _ ⟨⟩
          rw [deadline head List.mem_cons_self, pending head List.mem_cons_self, rtc]
          exact punctual.rung head rfl
      exact fewer.mono (fun other mem => (raised other mem).1) (Nat.le_refl _)

/-- While no interrupt is pending, no deadline of the thread has passed. -/
theorem Punctual.ahead (punctual : Punctual false base late world timers)
    (watched : ∀ head ∈ timers.head?, Watched false world head)
    (quiet : world.rtc.alarmFlag = false) (prompt : world.rtc.slowest < minAlarmDelay)
    (mem : timer ∈ timers) : world.rtc.ticks < base timer + minAlarmDelay + 2 * late := by
  cases timers with
  | nil => cases mem
  | cons head rest =>
      have ahead : world.rtc.ticks < world.deadline head := by
        rcases watched head rfl with ⟨-, -, flag | ahead | slow⟩ | ⟨⟨⟩, -⟩
        · rw [quiet] at flag
          cases flag
        · exact ahead
        · exact absurd prompt (Nat.not_lt_of_le slow)
      rcases punctual.order with orderly | ⟨_, _, ⟨⟩, moved⟩
      · have later : world.deadline head ≤ world.deadline timer := by
          rcases List.mem_cons.mp mem with rfl | mem
          · exact Nat.le_refl _
          · exact List.rel_of_pairwise_cons orderly.sorted mem
        have limited := (orderly.limited timer mem).resolve_right fun ⟨handling, _⟩ => by
          cases handling
        linarith
      · exact ahead.trans_le (moved.limited timer mem)

end Punctual

end GenericNode.Timer
