import GenericNode.Library.Program

/-!
# Machines driven by events

A machine is a program that reacts to the events its environment may produce.
Runs are restricted by a condition on each step, so that one theory serves
both the runs of the machine and the runs that keep to an assumption.
-/

namespace GenericNode.Library

universe u v

/-- The events an environment may produce, and the reaction to each. -/
structure Machine (σ : Type u) (ε : Type v) where
  enabled : σ → ε → Prop
  step : ε → Prog.{u, 0} σ Unit

namespace Machine

open Prog

variable {σ : Type u} {ε : Type v}

/-- The states between events, in the runs whose steps all meet `condition`. -/
inductive Reaches (machine : Machine σ ε) (condition : σ → ε → Prop) (start : σ) :
    σ → Prop
  | start : Reaches machine condition start start
  | step {before after : σ} (event : ε)
      (reached : Reaches machine condition start before)
      (enabled : machine.enabled before event)
      (meets : condition before event)
      (returned : (machine.step event).run before = (some (), after)) :
      Reaches machine condition start after

variable {machine : Machine σ ε} {condition weaker : σ → ε → Prop} {start state : σ}

/-- What one step preserves, a run preserves. -/
theorem Reaches.invariant {inv : σ → Prop} (holds : inv start)
    (keeps : ∀ before event, inv before → machine.enabled before event →
      condition before event → wp (machine.step event) (fun _ after => inv after) before)
    (reached : machine.Reaches condition start state) : inv state := by
  induction reached with
  | start => exact holds
  | step event _ enabled meets returned ih =>
      exact wp_result (keeps _ event ih enabled meets) returned

/-- What one step preserves when it returns, a run preserves. -/
theorem Reaches.invariant_of_wlp {inv : σ → Prop} (holds : inv start)
    (keeps : ∀ before event, inv before → machine.enabled before event →
      condition before event → wlp (machine.step event) (fun _ after => inv after) before)
    (reached : machine.Reaches condition start state) : inv state := by
  induction reached with
  | start => exact holds
  | step event _ enabled meets returned ih =>
      exact keeps _ event ih enabled meets _ _ returned

/-- A run that keeps to a condition keeps to every weaker one. -/
theorem Reaches.mono (implies : ∀ before event, condition before event → weaker before event)
    (reached : machine.Reaches condition start state) :
    machine.Reaches weaker start state := by
  induction reached with
  | start => exact .start
  | step event _ enabled meets returned ih =>
      exact .step event ih enabled (implies _ _ meets) returned

/-! ## Replaying a run -/

section Replay

variable (machine) (condition)
variable [∀ before event, Decidable (machine.enabled before event)]
variable [∀ before event, Decidable (condition before event)]

/-- The state after a list of events, if each is enabled, meets the condition
and is handled without a fault. -/
def replay : List ε → σ → Option σ
  | [], state => some state
  | event :: events, state =>
      if machine.enabled state event ∧ condition state event then
        match (machine.step event).run state with
        | (some (), next) => replay events next
        | (none, _) => none
      else
        none

variable {machine} {condition}

theorem Reaches.replay (events : List ε) {next : σ}
    (reached : machine.Reaches condition start state)
    (replayed : machine.replay condition events state = some next) :
    machine.Reaches condition start next := by
  induction events generalizing state with
  | nil =>
      cases replayed
      exact reached
  | cons event events ih =>
      rw [Machine.replay] at replayed
      split at replayed
      · rename_i allowed
        split at replayed
        · rename_i after returned
          exact ih (.step event reached allowed.1 allowed.2 returned) replayed
        · cases replayed
      · cases replayed

/-- A replayed list of events is a run. -/
theorem reaches_of_replay (events : List ε) {next : σ}
    (replayed : machine.replay condition events start = some next) :
    machine.Reaches condition start next :=
  Reaches.start.replay events replayed

end Replay

end Machine

end GenericNode.Library
