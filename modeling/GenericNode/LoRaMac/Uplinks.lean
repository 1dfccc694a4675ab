import GenericNode.LoRaMac.Downlinks

/-!
# What goes onto the air

The frames on the air are logged with their counters.  Between two steps a
device of class A is idle, or it has put its message off, or it waits for the
windows of a message that it sent.  What `ScheduleTx` does in such a phase leads
to another one, and keeps one frame for each counter.
-/

namespace GenericNode.LoRaMac

open GenericNode.Library
open GenericNode.Library.Prog
open GenericNode.SecureElement

variable {σ κ : Type} {keys : σ → KeyIdentifier → κ} {cipher : KeyedCipher κ}
  {keyOf : KeyIdentifier → κ}

/-! ## The log -/

/-- A frame as it is on the air under its counter. -/
def onAir (cipher : KeyedCipher κ) (keyOf : KeyIdentifier → κ) (entry : UInt32 × DataFrame) :
    DataFrame :=
  entry.2.secured cipher keyOf .appSKey .nwkSKey uplink entry.1

/-- The frames on the air since the counter was `start`, with their counters:
each is encrypted and signed under its counter, the counters never decrease and
leave none out, and each counter belongs to one frame. -/
structure UplinkLog (cipher : KeyedCipher κ) (keyOf : KeyIdentifier → κ) (devAddr : UInt32)
    (start last : UInt32) (air : List (List UInt8)) (log : List (UInt32 × DataFrame)) : Prop where
  air_eq : air = log.map fun entry => (onAir cipher keyOf entry).bytes
  ordered : (log.map Prod.fst).Pairwise (· ≤ ·)
  once : ∀ first ∈ log, ∀ second ∈ log, first.1 = second.1 → first.2 = second.2
  within : ∀ entry ∈ log, start < entry.1 ∧ entry.1 ≤ last
  made : ∀ entry ∈ log, entry.2.devAddr = devAddr ∧ entry.2.fCnt = low16 entry.1
  complete : ∀ fCnt, start < fCnt → fCnt ≤ last → ∃ frame, (fCnt, frame) ∈ log
  later : start ≤ last

namespace UplinkLog

variable {devAddr start last : UInt32} {air : List (List UInt8)} {log : List (UInt32 × DataFrame)}

theorem nil (start : UInt32) : UplinkLog cipher keyOf devAddr start start [] [] where
  air_eq := rfl
  ordered := List.Pairwise.nil
  once _ member := by cases member
  within _ member := by cases member
  made _ member := by cases member
  complete fCnt after most := absurd (UInt32.lt_of_lt_of_le after most) (UInt32.lt_irrefl _)
  later := UInt32.le_refl _

/-- The bytes of one more frame. -/
theorem air_append (logged : UplinkLog cipher keyOf devAddr start last air log)
    (entry : UInt32 × DataFrame) :
    air ++ [(onAir cipher keyOf entry).bytes] =
      (log ++ [entry]).map fun entry => (onAir cipher keyOf entry).bytes := by
  rw [logged.air_eq, List.map_append, List.map_singleton]

/-- One more counter that is not smaller. -/
theorem ordered_append (logged : UplinkLog cipher keyOf devAddr start last air log)
    {fCnt : UInt32} (frame : DataFrame) (not_less : last ≤ fCnt) :
    ((log ++ [(fCnt, frame)]).map Prod.fst).Pairwise (· ≤ ·) := by
  rw [List.map_append, List.map_singleton, List.pairwise_append]
  refine ⟨logged.ordered, List.pairwise_singleton _ _, ?_⟩
  intro before member fCnt' single
  rw [List.mem_singleton.mp single]
  rcases List.mem_map.mp member with ⟨entry, logged_entry, rfl⟩
  exact UInt32.le_trans (logged.within entry logged_entry).2 not_less

/-- A frame goes onto the air under the next counter. -/
theorem first (logged : UplinkLog cipher keyOf devAddr start last air log) {frame : DataFrame}
    (next : last < last + 1) (address : frame.devAddr = devAddr)
    (counter : frame.fCnt = low16 (last + 1)) :
    UplinkLog cipher keyOf devAddr start (last + 1)
      (air ++ [(onAir cipher keyOf (last + 1, frame)).bytes]) (log ++ [(last + 1, frame)]) := by
  have unused : ∀ entry ∈ log, entry.1 ≠ last + 1 := by
    intro entry member equal
    have most := (logged.within entry member).2
    rw [equal] at most
    exact UInt32.lt_irrefl _ (UInt32.lt_of_le_of_lt most next)
  constructor
  · exact logged.air_append _
  · exact logged.ordered_append frame (UInt32.le_of_lt next)
  · intro one one_member two two_member equal
    rcases List.mem_append.mp one_member with old | new
    · rcases List.mem_append.mp two_member with also | new
      · exact logged.once one old two also equal
      · rw [List.mem_singleton.mp new] at equal
        exact absurd equal (unused one old)
    · rcases List.mem_append.mp two_member with old | also
      · rw [List.mem_singleton.mp new] at equal
        exact absurd equal.symm (unused two old)
      · rw [List.mem_singleton.mp new, List.mem_singleton.mp also]
  · intro entry member
    rcases List.mem_append.mp member with old | new
    · rcases logged.within entry old with ⟨after, most⟩
      exact ⟨after, UInt32.le_trans most (UInt32.le_of_lt next)⟩
    · rw [List.mem_singleton.mp new]
      exact ⟨UInt32.lt_of_le_of_lt logged.later next, UInt32.le_refl _⟩
  · intro entry member
    rcases List.mem_append.mp member with old | new
    · exact logged.made entry old
    · rw [List.mem_singleton.mp new]
      exact ⟨address, counter⟩
  · intro fCnt after most
    by_cases old : fCnt ≤ last
    · rcases logged.complete fCnt after old with ⟨frame, member⟩
      exact ⟨frame, List.mem_append_left _ member⟩
    · have new : fCnt = last + 1 := by
        have next_nat := UInt32.lt_iff_toNat_lt.mp next
        have most_nat := UInt32.le_iff_toNat_le.mp most
        have old_nat := UInt32.lt_iff_toNat_lt.mp (UInt32.not_le.mp old)
        have bound := last.toNat_lt
        apply UInt32.toNat.inj
        rw [UInt32.toNat_add] at next_nat most_nat ⊢
        rw [UInt32.toNat_one] at next_nat most_nat ⊢
        omega
      exact ⟨frame, by simp [new]⟩
  · exact UInt32.le_trans logged.later (UInt32.le_of_lt next)

/-- The frame of the last counter goes onto the air again. -/
theorem again (logged : UplinkLog cipher keyOf devAddr start last air log) {frame : DataFrame}
    (sent : (last, frame) ∈ log) :
    UplinkLog cipher keyOf devAddr start last
      (air ++ [(onAir cipher keyOf (last, frame)).bytes]) (log ++ [(last, frame)]) := by
  have still : ∀ entry ∈ log ++ [(last, frame)], entry ∈ log := by
    intro entry member
    rcases List.mem_append.mp member with old | new
    · exact old
    · rw [List.mem_singleton.mp new]
      exact sent
  constructor
  · exact logged.air_append _
  · exact logged.ordered_append frame (UInt32.le_refl _)
  · intro one one_member two two_member equal
    exact logged.once one (still one one_member) two (still two two_member) equal
  · intro entry member
    exact logged.within entry (still entry member)
  · intro entry member
    exact logged.made entry (still entry member)
  · intro fCnt after most
    rcases logged.complete fCnt after most with ⟨frame, member⟩
    exact ⟨frame, List.mem_append_left _ member⟩
  · exact logged.later

end UplinkLog

/-! ## Phases -/

/-- What the uplinks depend on. -/
structure UplinkView where
  message : LoRaMacMessageData
  confirmed : Bool
  ackTimeoutRetries : ℕ
  ackTimeoutRetriesCounter : ℕ
  channelsNbTransCounter : ℕ
  txRunning : Bool
  txDelayed : Bool
  fCntUp : UInt32
  radio : Radio
  rxSlot : LoRaMacRxSlot
  delayTimer : Bool
  window1 : Bool
  window2 : Bool
  macDone : Bool

/-- What the uplinks depend on in a context. -/
def MacCtx.view (ctx : MacCtx σ) : UplinkView where
  message := ctx.tx.txMsg
  confirmed := ctx.tx.nodeAckRequested
  ackTimeoutRetries := ctx.tx.ackTimeoutRetries
  ackTimeoutRetriesCounter := ctx.tx.ackTimeoutRetriesCounter
  channelsNbTransCounter := ctx.tx.channelsNbTransCounter
  txRunning := ctx.tx.txRunning
  txDelayed := ctx.tx.txDelayed
  fCntUp := ctx.crypto.fCntList.fCntUp
  radio := ctx.radio
  rxSlot := ctx.rxSlot
  delayTimer := ctx.timers.txDelayedTimer
  window1 := ctx.timers.rxWindowTimer1
  window2 := ctx.timers.rxWindowTimer2
  macDone := ctx.macDone

/-- Neither the radio nor a window is busy. -/
structure UplinkView.Quiet (view : UplinkView) : Prop where
  radio : view.radio = .sleep
  window1 : view.window1 = false
  window2 : view.window2 = false

/-- How far a message is that was given to the radio: it is sent, the end of
that is to be handled, the windows are waited for, one of them is open, what it
brought is to be handled, or all is done. -/
inductive Stage (view : UplinkView) (events : RadioEvents) : Prop
  | sending (radio : view.radio = .tx) (window1 : view.window1 = false)
      (window2 : view.window2 = false) (none : events = .none) (early : view.macDone = false)
  | sent (irq : RadioIrq) (during : irq.during = .tx) (quiet : view.Quiet)
      (raised : events = RadioEvents.none.raise irq) (early : view.macDone = false)
  | waiting (radio : view.radio = .sleep) (none : events = .none) (early : view.macDone = false)
  | listening (radio : view.radio = .rx) (window1 : view.window1 = false)
      (slot : view.rxSlot = .win1 ∨ view.window2 = false) (none : events = .none)
      (early : view.macDone = false)
  | heard (irq : RadioIrq) (during : irq.during = .rx) (radio : view.radio = .sleep)
      (window1 : view.window1 = false) (slot : view.rxSlot = .win1 ∨ view.window2 = false)
      (raised : events = RadioEvents.none.raise irq) (early : view.macDone = false)
  | done (quiet : view.Quiet) (none : events = .none) (late : view.macDone = true)

namespace Stage

variable {view : UplinkView} {events : RadioEvents}

/-- What is done leaves nothing to wait for. -/
theorem quiet (stage : Stage view events) (late : view.macDone = true) : view.Quiet := by
  cases stage with
  | done quiet _ _ => exact quiet
  | _ => simp_all

/-- The radio raises an event. -/
theorem raise {irq : RadioIrq} (stage : Stage view events) (during : view.radio = irq.during) :
    Stage { view with radio := .sleep } (events.raise irq) := by
  have busy : irq.during ≠ .sleep := by
    cases irq <;> simp [RadioIrq.during]
  cases stage with
  | sending radio window1 window2 none early =>
      subst none
      exact .sent irq (during.symm.trans radio) ⟨rfl, window1, window2⟩ rfl early
  | listening radio window1 slot none early =>
      subst none
      exact .heard irq (during.symm.trans radio) rfl window1 slot rfl early
  | sent _ _ quiet _ _ => exact absurd (during.symm.trans quiet.radio) busy
  | waiting radio _ _ => exact absurd (during.symm.trans radio) busy
  | heard _ _ radio _ _ _ _ => exact absurd (during.symm.trans radio) busy
  | done quiet _ _ => exact absurd (during.symm.trans quiet.radio) busy

/-- The first window opens, or the radio does not take its parameters. -/
theorem window1 (stage : Stage view events) (running : view.window1 = true) :
    Stage { view with window1 := false, radio := .rx, rxSlot := .win1 } events ∧
      Stage { view with window1 := false, radio := .sleep } events := by
  cases stage with
  | waiting _ none early =>
      exact ⟨.listening rfl rfl (.inl rfl) none early, .waiting rfl none early⟩
  | sent _ _ quiet _ _ => exact absurd (running.symm.trans quiet.window1) (by simp)
  | done quiet _ _ => exact absurd (running.symm.trans quiet.window1) (by simp)
  | sending _ off _ _ _ => exact absurd (running.symm.trans off) (by simp)
  | listening _ off _ _ _ => exact absurd (running.symm.trans off) (by simp)
  | heard _ _ _ off _ _ _ => exact absurd (running.symm.trans off) (by simp)

/-- The time for the second window comes while the first one is open. -/
theorem window2_first (stage : Stage view events) (running : view.window2 = true)
    (first : view.rxSlot = .win1) : Stage { view with window2 := false } events := by
  cases stage with
  | waiting radio none early => exact .waiting radio none early
  | listening radio window1 _ none early => exact .listening radio window1 (.inl first) none early
  | heard irq during radio window1 _ raised early =>
      exact .heard irq during radio window1 (.inl first) raised early
  | sent _ _ quiet _ _ => exact absurd (running.symm.trans quiet.window2) (by simp)
  | done quiet _ _ => exact absurd (running.symm.trans quiet.window2) (by simp)
  | sending _ _ off _ _ => exact absurd (running.symm.trans off) (by simp)

/-- The second window opens, or the radio does not take its parameters. -/
theorem window2 (stage : Stage view events) (running : view.window2 = true)
    (ended : view.window1 = false) (other : view.rxSlot ≠ .win1) :
    Stage { view with window2 := false, radio := .rx, rxSlot := .win2 } events ∧
      Stage { view with window2 := false, radio := .sleep } events := by
  have closed : view.rxSlot = .win1 ∨ view.window2 = false → False := by
    rintro (first | off)
    · exact other first
    · exact absurd (running.symm.trans off) (by simp)
  cases stage with
  | waiting _ none early =>
      exact ⟨.listening rfl ended (.inr rfl) none early, .waiting rfl none early⟩
  | listening _ _ slot _ _ => exact absurd slot closed
  | heard _ _ _ _ slot _ _ => exact absurd slot closed
  | sent _ _ quiet _ _ => exact absurd (running.symm.trans quiet.window2) (by simp)
  | done quiet _ _ => exact absurd (running.symm.trans quiet.window2) (by simp)
  | sending _ _ off _ _ => exact absurd (running.symm.trans off) (by simp)

end Stage

/-- A message that may go onto the air: one for the next counter that was not
sent yet, or the one of the last counter, counted as sent. -/
inductive Loaded (cipher : KeyedCipher κ) (keyOf : KeyIdentifier → κ) (devAddr : UInt32)
    (log : List (UInt32 × DataFrame)) (view : UplinkView) : Prop
  | fresh {frame : DataFrame} (holds : view.message.Holds frame)
      (address : frame.devAddr = devAddr) (counter : frame.fCnt = low16 (view.fCntUp + 1))
      (unsent : view.channelsNbTransCounter = 0) (untried : view.ackTimeoutRetriesCounter = 1)
      (stopped : view.txRunning = false)
      (few : view.confirmed = true → view.ackTimeoutRetries ≤ maxAckRetries)
  | repeated {frame : DataFrame} (sent : (view.fCntUp, frame) ∈ log)
      (holds : view.message.Holds (onAir cipher keyOf (view.fCntUp, frame)))
      (unconfirmed : view.confirmed = false)
      (some : 1 ≤ view.channelsNbTransCounter) (few : view.channelsNbTransCounter < 16)
      (running : view.txRunning = true)
  | retried {frame : DataFrame} (sent : (view.fCntUp, frame) ∈ log)
      (holds : view.message.Holds (onAir cipher keyOf (view.fCntUp, frame)))
      (confirmed : view.confirmed = true) (uncounted : view.channelsNbTransCounter = 0)
      (some : 2 ≤ view.ackTimeoutRetriesCounter) (few : view.ackTimeoutRetries ≤ maxAckRetries)

/-- How often a message that was sent is counted as sent. -/
inductive Counted (view : UplinkView) : Prop
  | repeated (unconfirmed : view.confirmed = false) (some : 1 ≤ view.channelsNbTransCounter)
      (few : view.channelsNbTransCounter ≤ 16)
  | retried (confirmed : view.confirmed = true) (uncounted : view.channelsNbTransCounter = 0)
      (some : 1 ≤ view.ackTimeoutRetriesCounter) (few : view.ackTimeoutRetries ≤ maxAckRetries)

/-- What a device of class A does with its message between two steps. -/
inductive Phase (cipher : KeyedCipher κ) (keyOf : KeyIdentifier → κ) (devAddr : UInt32)
    (log : List (UInt32 × DataFrame)) (view : UplinkView) (events : RadioEvents) : Prop
  | idle (quiet : view.Quiet) (none : events = .none) (early : view.macDone = false)
      (stopped : view.txRunning = false) (prompt : view.txDelayed = false)
      (timer : view.delayTimer = false) (unsent : view.channelsNbTransCounter = 0)
  | delayed (quiet : view.Quiet) (none : events = .none) (early : view.macDone = false)
      (delayed : view.txDelayed = true) (loaded : Loaded cipher keyOf devAddr log view)
  | active {frame : DataFrame} (stage : Stage view events) (running : view.txRunning = true)
      (prompt : view.txDelayed = false) (timer : view.delayTimer = false)
      (sent : (view.fCntUp, frame) ∈ log)
      (holds : view.message.Holds (onAir cipher keyOf (view.fCntUp, frame)))
      (counted : Counted view)

/-! ## What a transmission leads to -/

section Scheduled

variable {devAddr start : UInt32} {log : List (UInt32 × DataFrame)} {ctx final : MacCtx σ}
  {frame : DataFrame}

theorem MacTx.isAgain_of_fresh {tx : MacTx} (unsent : tx.channelsNbTransCounter = 0)
    (untried : tx.ackTimeoutRetriesCounter = 1) : tx.isAgain = false := by
  rw [MacTx.isAgain, unsent, untried]
  rfl

theorem MacTx.isAgain_of_repeated {tx : MacTx} (some : 1 ≤ tx.channelsNbTransCounter) :
    tx.isAgain = true := by
  rw [MacTx.isAgain, decide_eq_true some, Bool.true_or]

theorem MacTx.isAgain_of_retried {tx : MacTx} (some : 2 ≤ tx.ackTimeoutRetriesCounter) :
    tx.isAgain = true := by
  have more : 1 < tx.ackTimeoutRetriesCounter := some
  rw [MacTx.isAgain, decide_eq_true more, Bool.or_true]

/-- A loaded message goes onto the air as the frame of its counter. -/
theorem Loaded.shown {fCnt : UInt32} {shown : DataFrame} {air : List (List UInt8)}
    (loaded : Loaded cipher keyOf devAddr log ctx.view) (holds : ctx.tx.txMsg.Holds frame)
    (logged : UplinkLog cipher keyOf devAddr start ctx.crypto.fCntList.fCntUp air log)
    (shows : Shown cipher keyOf ctx.crypto.fCntList.fCntUp frame ctx.tx.isAgain fCnt shown) :
    ∃ (plain : DataFrame) (longer : List (UInt32 × DataFrame)),
      shown = onAir cipher keyOf (fCnt, plain) ∧ (fCnt, plain) ∈ longer ∧
        UplinkLog cipher keyOf devAddr start fCnt (air ++ [shown.bytes]) longer := by
  cases loaded with
  | fresh held address counter unsent untried _ _ =>
      rw [MacTx.isAgain_of_fresh unsent untried] at shows
      cases shows with
      | first later =>
          have same := holds.unique held
          subst same
          exact ⟨frame, _, rfl, by simp, logged.first later address counter⟩
  | repeated sent held _ some _ _ =>
      rw [MacTx.isAgain_of_repeated some] at shows
      cases shows with
      | again =>
          have same := holds.unique held
          subst same
          exact ⟨_, _, rfl, List.mem_append_left _ sent, logged.again sent⟩
  | retried sent held _ _ some _ =>
      rw [MacTx.isAgain_of_retried some] at shows
      cases shows with
      | again =>
          have same := holds.unique held
          subst same
          exact ⟨_, _, rfl, List.mem_append_left _ sent, logged.again sent⟩

/-- What is loaded stays so while it is serialised and put off. -/
theorem Loaded.put_off {txMsg : LoRaMacMessageData} {view : UplinkView} (txDelayed delayTimer : Bool)
    (loaded : Loaded cipher keyOf devAddr log view) (before : view.message.Holds frame)
    (holds : txMsg.Holds frame) :
    Loaded cipher keyOf devAddr log
      { view with message := txMsg, txDelayed := txDelayed, delayTimer := delayTimer } := by
  cases loaded with
  | fresh held address counter unsent untried stopped few =>
      rw [before.unique held] at holds
      exact .fresh holds address counter unsent untried stopped few
  | repeated sent held unconfirmed some few running =>
      rw [before.unique held] at holds
      exact .repeated sent holds unconfirmed some few running
  | retried sent held confirmed uncounted some few =>
      rw [before.unique held] at holds
      exact .retried sent holds confirmed uncounted some few

/-- What is loaded is counted when it is sent. -/
theorem Loaded.counted {view sent : UplinkView} (loaded : Loaded cipher keyOf devAddr log view)
    (confirmed : sent.confirmed = view.confirmed)
    (retries : sent.ackTimeoutRetries = view.ackTimeoutRetries)
    (retried : sent.ackTimeoutRetriesCounter = view.ackTimeoutRetriesCounter)
    (repeated : sent.channelsNbTransCounter = if view.confirmed then view.channelsNbTransCounter
      else (view.channelsNbTransCounter + 1) % 2 ^ 8) : Counted sent := by
  cases loaded with
  | fresh _ _ _ unsent untried _ few =>
      rw [unsent] at repeated
      cases service : view.confirmed with
      | true =>
          rw [service, if_pos rfl] at repeated
          exact .retried (confirmed.trans service) repeated (by rw [retried, untried])
            (by rw [retries]; exact few service)
      | false =>
          rw [service, if_neg (by simp)] at repeated
          exact .repeated (confirmed.trans service) (by rw [repeated]; decide)
            (by rw [repeated]; decide)
  | repeated _ _ unconfirmed some few _ =>
      rw [unconfirmed, if_neg (by simp)] at repeated
      exact .repeated (confirmed.trans unconfirmed) (by omega) (by omega)
  | retried _ _ service uncounted some few =>
      rw [service, if_pos rfl, uncounted] at repeated
      exact .retried (confirmed.trans service) repeated (by omega) (by rw [retries]; exact few)

/-- What a transmission that is not refused leads to. -/
theorem Scheduled.phase
    (done : Scheduled cipher keys ctx frame .ok final) (keyed : keys ctx.crypto.se = keyOf)
    (quiet : ctx.view.Quiet) (early : ctx.macDone = false) (prompt : ctx.tx.txDelayed = false)
    (timer : ctx.timers.txDelayedTimer = false)
    (loaded : Loaded cipher keyOf devAddr log ctx.view) (holds : ctx.tx.txMsg.Holds frame)
    (logged : UplinkLog cipher keyOf devAddr start ctx.crypto.fCntList.fCntUp ctx.tx.air log) :
    ∃ longer, UplinkLog cipher keyOf devAddr start final.crypto.fCntList.fCntUp final.tx.air longer ∧
      Phase cipher keyOf devAddr longer final.view .none := by
  cases done with
  | refused _ _ _ bad _ _ => exact absurd rfl bad
  | delayed txMsg areas msg_holds =>
      refine ⟨log, logged, .delayed ⟨quiet.radio, quiet.window1, quiet.window2⟩ rfl early rfl ?_⟩
      exact loaded.put_off true true holds msg_holds
  | forgotten txMsg areas msg_holds =>
      have still := loaded.put_off ctx.tx.txDelayed ctx.timers.txDelayedTimer holds msg_holds
      refine ⟨log, logged, ?_⟩
      cases still with
      | fresh _ _ _ unsent _ stopped _ =>
          exact .idle ⟨quiet.radio, quiet.window1, quiet.window2⟩ rfl early stopped prompt timer
            unsent
      | repeated sent held unconfirmed some few running =>
          exact .active (.waiting quiet.radio rfl early) running prompt timer sent held
            (.repeated unconfirmed some few.le)
      | retried sent held confirmed uncounted some few =>
          cases running : ctx.tx.txRunning with
          | true =>
              exact .active (.waiting quiet.radio rfl early) running prompt timer sent held
                (.retried confirmed uncounted (le_trans (by decide) some) few)
          | false =>
              exact .idle ⟨quiet.radio, quiet.window1, quiet.window2⟩ rfl early running prompt timer
                uncounted
  | sent fCnt shown crypto txMsg shows secured =>
      rw [keyed] at shows
      rcases loaded.shown holds logged shows with ⟨plain, longer, shown_eq, sent, more⟩
      have counter : crypto.fCntList.fCntUp = fCnt := by rw [secured.fCntList]
      subst counter
      refine ⟨longer, more, ?_⟩
      exact .active (.sending rfl quiet.window1 quiet.window2 rfl early) rfl prompt timer sent
        (shown_eq ▸ secured.holds)
        (loaded.counted rfl rfl rfl rfl)

/-- What a transmission leaves. -/
structure Unscheduled (ctx final : MacCtx σ) : Prop where
  mcpsReq : final.tx.mcpsReq = ctx.tx.mcpsReq
  mcpsRequest : final.tx.mcpsRequest = ctx.tx.mcpsRequest
  nodeAckRequested : final.tx.nodeAckRequested = ctx.tx.nodeAckRequested
  rxAbort : final.rxAbort = ctx.rxAbort
  rxSlot : final.rxSlot = ctx.rxSlot

theorem Scheduled.unscheduled {status : LoRaMacStatus}
    (done : Scheduled cipher keys ctx frame status final) : Unscheduled ctx final := by
  cases done <;> exact ⟨rfl, rfl, rfl, rfl, rfl⟩

end Scheduled

end GenericNode.LoRaMac
