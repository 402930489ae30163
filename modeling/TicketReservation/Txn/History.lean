/-
  Runs with their steps.

  `History` is a run together with a record of each step of a call: whose step
  it was, and the committed stores before and after it.
-/
import TicketReservation.Txn.Concurrent

namespace Txn

variable {C D W L ε ρ : Type}

/-- One step of a call. -/
structure StepRecord (D : Type) where
  call : ℕ
  pre : D
  post : D

/-- What is recorded of an action. -/
def Action.record (a : Action C) (pre post : D) : List (StepRecord D) :=
  match a with
  | .step i => [⟨i, pre, post⟩]
  | _ => []

/-- A run with its steps, oldest first. -/
inductive History [Store D W] [DecidableEq L] (prog : C → Prog D W L ε ρ) :
    Config C D W L ε ρ → List (StepRecord D) → Config C D W L ε ρ → Prop
  | refl (cfg) : History prog cfg [] cfg
  | tail {cfg cfg' cfg'' : Config C D W L ε ρ} {steps} (a : Action C) :
      History prog cfg steps cfg' → cfg'.act prog a = some cfg'' →
      History prog cfg (steps ++ a.record cfg'.db cfg''.db) cfg''

section
variable [Store D W] [DecidableEq L] {prog : C → Prog D W L ε ρ} {cfg cfg' : Config C D W L ε ρ}
  {steps : List (StepRecord D)}

theorem History.run (h : History prog cfg steps cfg') : Run prog cfg cfg' := by
  induction h with
  | refl => exact .refl _
  | tail a _ hact ih => exact .tail a ih trivial hact

/-- Every run has a history. -/
theorem Run.history (r : Run prog cfg cfg') : ∃ steps, History prog cfg steps cfg' := by
  induction r with
  | refl => exact ⟨[], .refl _⟩
  | tail a _ _ hact ih =>
    obtain ⟨steps, h⟩ := ih
    exact ⟨_, h.tail a hact⟩

end

end Txn
