import Mathlib.Data.Fintype.Card

/-!
# The software timers of the kernel

FreeRTOS is not part of this repository: its software timers are a parameter,
with what the documentation says of them.  A call that starts or stops a timer
sends a command to a queue, which the timer task of the kernel executes.
-/

namespace GenericNode.FreeRtos

/-- A software timer: its identifier, its period, its mode, and when it expires
if it is active. -/
structure SoftTimer where
  pvTimerID : ℕ
  period : ℕ
  autoReload : Bool
  expiry : Option ℕ
deriving DecidableEq, Repr

/-- A command for the timer task; a new period also says when it was sent. -/
inductive TimerCommand where
  | changePeriod (xTimer sent xNewPeriod : ℕ)
  | stop (xTimer : ℕ)
deriving DecidableEq, Repr

/-- The timer that a command is for. -/
def TimerCommand.xTimer : TimerCommand → ℕ
  | .changePeriod xTimer _ _ | .stop xTimer => xTimer

/-- What a kernel shows: the software timers by their handles, and the commands
that wait for the timer task, the oldest one first. -/
@[ext]
structure SoftTimers where
  timers : ℕ → Option SoftTimer
  commands : List TimerCommand

namespace SoftTimers

/-- A software timer is another one. -/
def withTimer (view : SoftTimers) (xTimer : ℕ) (timer : SoftTimer) : SoftTimers :=
  { view with timers := Function.update view.timers xTimer (some timer) }

/-- Other commands wait. -/
def withCommands (view : SoftTimers) (commands : List TimerCommand) : SoftTimers :=
  { view with commands }

/-- The time at which a timer expires, if it is active. -/
def expiry (view : SoftTimers) (xTimer : ℕ) : Option ℕ :=
  (view.timers xTimer).bind SoftTimer.expiry

/-- A timer is active. -/
def active (view : SoftTimers) (xTimer : ℕ) : Bool :=
  (view.expiry xTimer).isSome

/-- A timer has expired. -/
def expired (view : SoftTimers) (now xTimer : ℕ) : Bool :=
  (view.expiry xTimer).any fun expiry => decide (expiry ≤ now)

/-- A command waits for a timer. -/
def waits (view : SoftTimers) (xTimer : ℕ) : Bool :=
  view.commands.any fun command => decide (command.xTimer = xTimer)

/-- The latest command that waits for a timer. -/
def lastCommand (view : SoftTimers) (xTimer : ℕ) : Option TimerCommand :=
  view.commands.reverse.find? fun command => decide (command.xTimer = xTimer)

end SoftTimers

/-- The timers of a kernel: what it shows, the length of its queue, the calls,
and what the timer task does at a time: the command that it takes next, and a
timer that has expired. -/
structure TimerKernel where
  State : Type
  view : State → SoftTimers
  configTimerQueueLength : ℕ
  xTimerCreate : (xTimerPeriodInTicks : ℕ) → (xAutoReload : Bool) → (pvTimerID : ℕ) → State →
    ℕ × State
  vTimerSetReloadMode : (xTimer : ℕ) → (xAutoReload : Bool) → State → State
  xTimerGenericCommand : TimerCommand → State → Bool × State
  xTimerIsTimerActive : (xTimer : ℕ) → State → Bool
  pvTimerGetTimerID : (xTimer : ℕ) → State → ℕ
  processCommand : (now : ℕ) → State → State
  processExpired : (now xTimer : ℕ) → State → State

namespace TimerKernel

/-- The command queue has room. -/
def Room (kernel : TimerKernel) (state : kernel.State) : Prop :=
  (kernel.view state).commands.length < kernel.configTimerQueueLength

instance (kernel : TimerKernel) (state : kernel.State) : Decidable (kernel.Room state) :=
  Nat.decLt _ _

/-- What the documentation says: a timer is created dormant; its mode is set at
once; a command is queued, or refused when the queue is full; a new period
starts the timer for a period that counts from the call or from its execution;
a timer that expires ends, or reloads itself for one more period. -/
structure Documented (kernel : TimerKernel) : Prop where
  create : ∀ (period : ℕ) (autoReload : Bool) (pvTimerID : ℕ) (state : kernel.State),
    (kernel.view state).timers (kernel.xTimerCreate period autoReload pvTimerID state).1 = none ∧
      kernel.view (kernel.xTimerCreate period autoReload pvTimerID state).2 =
        (kernel.view state).withTimer (kernel.xTimerCreate period autoReload pvTimerID state).1
          ⟨pvTimerID, period, autoReload, none⟩
  setReloadMode : ∀ {state : kernel.State} {xTimer : ℕ} {timer : SoftTimer} (autoReload : Bool),
    (kernel.view state).timers xTimer = some timer →
      kernel.view (kernel.vTimerSetReloadMode xTimer autoReload state) =
        (kernel.view state).withTimer xTimer { timer with autoReload }
  sent : ∀ {state : kernel.State} (command : TimerCommand), kernel.Room state →
    (kernel.xTimerGenericCommand command state).1 = true ∧
      kernel.view (kernel.xTimerGenericCommand command state).2 =
        (kernel.view state).withCommands ((kernel.view state).commands ++ [command])
  full : ∀ {state : kernel.State} (command : TimerCommand), ¬ kernel.Room state →
    (kernel.xTimerGenericCommand command state).1 = false ∧
      kernel.view (kernel.xTimerGenericCommand command state).2 = kernel.view state
  isActive : ∀ {state : kernel.State} {xTimer : ℕ} {timer : SoftTimer},
    (kernel.view state).timers xTimer = some timer →
      kernel.xTimerIsTimerActive xTimer state = timer.expiry.isSome
  timerID : ∀ {state : kernel.State} {xTimer : ℕ} {timer : SoftTimer},
    (kernel.view state).timers xTimer = some timer →
      kernel.pvTimerGetTimerID xTimer state = timer.pvTimerID
  changePeriod : ∀ {state : kernel.State} {xTimer sent period now : ℕ} {timer : SoftTimer}
      {rest : List TimerCommand},
    (kernel.view state).commands = .changePeriod xTimer sent period :: rest →
      (kernel.view state).timers xTimer = some timer → sent ≤ now → period ≠ 0 →
        ∃ expiry, sent + period ≤ expiry ∧ expiry ≤ now + period ∧
          kernel.view (kernel.processCommand now state) =
            ((kernel.view state).withTimer xTimer
              { timer with period, expiry := some expiry }).withCommands rest
  stop : ∀ {state : kernel.State} {xTimer now : ℕ} {timer : SoftTimer} {rest : List TimerCommand},
    (kernel.view state).commands = .stop xTimer :: rest →
      (kernel.view state).timers xTimer = some timer →
        kernel.view (kernel.processCommand now state) =
          ((kernel.view state).withTimer xTimer { timer with expiry := none }).withCommands rest
  expire : ∀ {state : kernel.State} {xTimer now expiry : ℕ} {timer : SoftTimer},
    (kernel.view state).timers xTimer = some timer → timer.expiry = some expiry → expiry ≤ now →
      kernel.view (kernel.processExpired now xTimer state) =
        (kernel.view state).withTimer xTimer
          { timer with
            expiry := if timer.autoReload then some (expiry + timer.period) else none }

end TimerKernel

/-! ## What is shown after a change -/

namespace SoftTimers

variable {view : SoftTimers} {xTimer other now : ℕ} {timer : SoftTimer} {command : TimerCommand}
  {commands rest : List TimerCommand}

@[simp]
theorem withTimer_self : (view.withTimer xTimer timer).timers xTimer = some timer := by
  simp only [withTimer, Function.update_self]

theorem withTimer_other (different : other ≠ xTimer) :
    (view.withTimer xTimer timer).timers other = view.timers other := by
  simp only [withTimer, Function.update_of_ne different]

@[simp]
theorem withTimer_commands : (view.withTimer xTimer timer).commands = view.commands :=
  rfl

@[simp]
theorem withCommands_timers : (view.withCommands commands).timers = view.timers :=
  rfl

@[simp]
theorem withCommands_commands : (view.withCommands commands).commands = commands :=
  rfl

theorem expiry_eq (here : view.timers xTimer = some timer) : view.expiry xTimer = timer.expiry := by
  rw [expiry, here, Option.bind_some]

/-- A timer has expired. -/
theorem expired_iff : view.expired now xTimer = true ↔
    ∃ expiry, view.expiry xTimer = some expiry ∧ expiry ≤ now := by
  rw [expired]
  cases view.expiry xTimer with
  | none => simp
  | some expiry => simp

/-- The command that is sent last is the latest one of its timer. -/
theorem lastCommand_sent (same : command.xTimer = xTimer) :
    (view.withCommands (view.commands ++ [command])).lastCommand xTimer = some command := by
  rw [lastCommand, withCommands_commands, List.reverse_append, List.reverse_singleton,
    List.singleton_append, List.find?_cons_of_pos (by simpa using same)]

theorem lastCommand_sent_other (different : command.xTimer ≠ xTimer) :
    (view.withCommands (view.commands ++ [command])).lastCommand xTimer =
      view.lastCommand xTimer := by
  rw [lastCommand, withCommands_commands, List.reverse_append, List.reverse_singleton,
    List.singleton_append, List.find?_cons_of_neg (by simpa using different)]
  rfl

/-- A command that is taken was the latest one of its timer, or was not. -/
theorem lastCommand_taken (first : view.commands = command :: rest) :
    view.lastCommand xTimer = ((view.withCommands rest).lastCommand xTimer).or
      (if command.xTimer = xTimer then some command else none) := by
  rw [lastCommand, lastCommand, withCommands_commands, first, List.reverse_cons, List.find?_append,
    List.find?_singleton]
  simp only [decide_eq_true_eq]

theorem lastCommand_withTimer : (view.withTimer other timer).lastCommand xTimer =
    view.lastCommand xTimer :=
  rfl

theorem mem_of_lastCommand (last : view.lastCommand xTimer = some command) :
    command ∈ view.commands ∧ command.xTimer = xTimer := by
  constructor
  · exact List.mem_reverse.mp (List.mem_of_find?_eq_some last)
  · simpa using List.find?_some last

/-- No command waits. -/
theorem lastCommand_eq_none : view.lastCommand xTimer = none ↔ view.waits xTimer = false := by
  rw [lastCommand, List.find?_eq_none, waits, List.any_eq_false]
  simp only [List.mem_reverse]

/-- A command waits for a timer. -/
theorem waits_iff : view.waits xTimer = true ↔
    ∃ command ∈ view.commands, command.xTimer = xTimer := by
  rw [waits, List.any_eq_true]
  simp only [decide_eq_true_eq]

/-- A command that is sent waits. -/
theorem waits_sent (own : command.xTimer = xTimer) :
    (view.withCommands (view.commands ++ [command])).waits xTimer = true :=
  waits_iff.mpr ⟨command, List.mem_append_right _ (List.mem_singleton.mpr rfl), own⟩

/-- What is shown of the other timers is the same. -/
structure Beside (view : SoftTimers) (xTimer : ℕ) (final : SoftTimers) : Prop where
  timers : ∀ other, other ≠ xTimer → final.timers other = view.timers other
  commands : ∀ command ∈ final.commands, command.xTimer ≠ xTimer → command ∈ view.commands
  lastCommand : ∀ other, other ≠ xTimer → final.lastCommand other = view.lastCommand other

theorem Beside.refl : view.Beside xTimer view :=
  ⟨fun _ _ => rfl, fun _ mem _ => mem, fun _ _ => rfl⟩

theorem Beside.withTimer {middle : SoftTimers} (beside : view.Beside xTimer middle)
    (timer : SoftTimer) : view.Beside xTimer (middle.withTimer xTimer timer) := by
  refine ⟨?_, beside.commands, beside.lastCommand⟩
  intro other different
  rw [withTimer_other different, beside.timers other different]

theorem Beside.sent {middle : SoftTimers} (beside : view.Beside xTimer middle)
    (own : command.xTimer = xTimer) :
    view.Beside xTimer (middle.withCommands (middle.commands ++ [command])) := by
  constructor
  · exact beside.timers
  · intro other mem different
    rcases List.mem_append.mp mem with before | last
    · exact beside.commands other before different
    · rw [List.mem_singleton.mp last] at different
      exact absurd own different
  · intro other different
    rw [lastCommand_sent_other, beside.lastCommand other different]
    rw [own]
    exact Ne.symm different

theorem Beside.taken {middle : SoftTimers} (beside : view.Beside xTimer middle)
    (first : middle.commands = command :: rest) (own : command.xTimer = xTimer) :
    view.Beside xTimer (middle.withCommands rest) := by
  constructor
  · exact beside.timers
  · intro other mem
    apply beside.commands
    rw [first]
    exact List.mem_cons_of_mem _ mem
  · intro other different
    have taken : middle.lastCommand other = ((middle.withCommands rest).lastCommand other).or
        (if command.xTimer = other then some command else none) := lastCommand_taken first
    rw [if_neg (by rw [own]; exact Ne.symm different), Option.or_none] at taken
    rw [← taken, beside.lastCommand other different]

end SoftTimers

/-! ## Lists -/

/-- The software timers in a list, their handles being their places. -/
structure ListTimers where
  timers : List SoftTimer
  commands : List TimerCommand
deriving DecidableEq, Repr

namespace ListTimers

/-- What is shown. -/
def view (state : ListTimers) : SoftTimers where
  timers xTimer := state.timers[xTimer]?
  commands := state.commands

/-- Change a timer. -/
def modify (state : ListTimers) (xTimer : ℕ) (change : SoftTimer → SoftTimer) : ListTimers :=
  { state with timers := state.timers.modify xTimer change }

/-- Execute a command at a time. -/
def execute (now : ℕ) (state : ListTimers) : TimerCommand → ListTimers
  | .changePeriod xTimer _ period =>
      state.modify xTimer fun timer => { timer with period, expiry := some (now + period) }
  | .stop xTimer => state.modify xTimer fun timer => { timer with expiry := none }

end ListTimers

/-- The kernel of these timers; a new period counts from the execution of its
command. -/
def listTimers (configTimerQueueLength : ℕ) : TimerKernel where
  State := ListTimers
  view := ListTimers.view
  configTimerQueueLength := configTimerQueueLength
  xTimerCreate period autoReload pvTimerID state :=
    (state.timers.length,
      { state with timers := state.timers ++ [⟨pvTimerID, period, autoReload, none⟩] })
  vTimerSetReloadMode xTimer autoReload state :=
    state.modify xTimer fun timer => { timer with autoReload }
  xTimerGenericCommand command state :=
    if state.commands.length < configTimerQueueLength then
      (true, { state with commands := state.commands ++ [command] })
    else (false, state)
  xTimerIsTimerActive xTimer state := state.view.active xTimer
  pvTimerGetTimerID xTimer state := (state.timers[xTimer]?).elim 0 SoftTimer.pvTimerID
  processCommand now state :=
    match state.commands with
    | command :: rest => ListTimers.execute now { state with commands := rest } command
    | [] => state
  processExpired _ xTimer state :=
    state.modify xTimer fun timer =>
      { timer with
        expiry := if timer.autoReload then timer.expiry.map (· + timer.period) else none }

namespace ListTimers

variable {state : ListTimers} {xTimer : ℕ} {timer : SoftTimer}

theorem view_modify (here : state.view.timers xTimer = some timer)
    (change : SoftTimer → SoftTimer) :
    (state.modify xTimer change).view = state.view.withTimer xTimer (change timer) := by
  have found : state.timers[xTimer]? = some timer := here
  apply SoftTimers.ext
  · funext other
    change (state.timers.modify xTimer change)[other]? = _
    rw [List.getElem?_modify]
    by_cases same : xTimer = other
    · subst same
      rw [SoftTimers.withTimer_self, found]
      simp only [↓reduceIte, Option.map_eq_map, Option.map_some]
    · rw [SoftTimers.withTimer_other (Ne.symm same)]
      simp only [same, ↓reduceIte, id_map']
      rfl
  · rfl

/-- A new timer gets the next place. -/
theorem view_create (state : ListTimers) (timer : SoftTimer) :
    { state with timers := state.timers ++ [timer] : ListTimers }.view =
      state.view.withTimer state.timers.length timer := by
  apply SoftTimers.ext
  · funext other
    change (state.timers ++ [timer])[other]? = _
    by_cases same : other = state.timers.length
    · subst same
      rw [SoftTimers.withTimer_self, List.getElem?_concat_length]
    · rw [SoftTimers.withTimer_other same]
      change _ = state.timers[other]?
      rcases Nat.lt_or_gt_of_ne same with old | beyond
      · exact List.getElem?_append_left old
      · rw [List.getElem?_eq_none (Nat.le_of_lt beyond), List.getElem?_eq_none]
        rw [List.length_append]
        exact beyond
  · rfl

end ListTimers

theorem listTimers_documented (length : ℕ) : (listTimers length).Documented where
  create period autoReload pvTimerID state :=
    ⟨List.getElem?_eq_none (Nat.le_refl _), ListTimers.view_create state _⟩
  setReloadMode autoReload here := ListTimers.view_modify here _
  sent := by
    intro state command room
    change state.commands.length < length at room
    constructor
    · simp only [listTimers, if_pos room]
    · simp only [listTimers, if_pos room]
      rfl
  full := by
    intro state command full
    change ¬ state.commands.length < length at full
    constructor <;> simp only [listTimers, if_neg full]
  isActive := by
    intro state xTimer timer here
    exact congrArg Option.isSome (SoftTimers.expiry_eq here)
  timerID := by
    rintro ⟨timers, commands⟩ xTimer timer here
    have found : timers[xTimer]? = some timer := here
    simp only [listTimers, found, Option.elim_some]
  changePeriod := by
    rintro ⟨timers, commands⟩ xTimer sent period now timer rest first here past -
    obtain rfl : commands = .changePeriod xTimer sent period :: rest := first
    refine ⟨now + period, Nat.add_le_add_right past _, Nat.le_refl _, ?_⟩
    have same : (⟨timers, rest⟩ : ListTimers).view.timers xTimer = some timer := here
    exact ListTimers.view_modify same _
  stop := by
    rintro ⟨timers, commands⟩ xTimer now timer rest first here
    obtain rfl : commands = .stop xTimer :: rest := first
    have same : (⟨timers, rest⟩ : ListTimers).view.timers xTimer = some timer := here
    exact ListTimers.view_modify same _
  expire := by
    rintro state xTimer now expiry timer here expires -
    refine (ListTimers.view_modify here _).trans ?_
    rw [expires]
    rfl

end GenericNode.FreeRtos
