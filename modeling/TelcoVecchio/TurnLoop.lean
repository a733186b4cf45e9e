import Mathlib.Data.Nat.Basic

/-!
Loops as turns on a state. A turn goes on with a next state or leaves with a
result; a loop need not end, so it is run for a number of turns. The rules
are the total one, from an invariant and a measure that every further turn
decreases, and its opposite for a loop that is never left.
-/

namespace TurnLoop

universe u v

inductive Turn (State : Type u) (Result : Type v) where
  | again (state : State)
  | leave (result : Result)

variable {State : Type u} {Result : Type v}

def run (turn : State → Turn State Result) : Nat → State → Turn State Result
  | 0, state => .again state
  | turns + 1, state =>
      match turn state with
      | .again next => run turn turns next
      | .leave result => .leave result

variable {turn : State → Turn State Result}

def Leaves (turn : State → Turn State Result) (state : State) (result : Result) : Prop :=
  ∃ turns, run turn turns state = .leave result

theorem run_again {state next : State} (goes : turn state = .again next) (turns : Nat) :
    run turn (turns + 1) state = run turn turns next := by
  simp only [run, goes]

theorem run_leave {state : State} {result : Result} (left : turn state = .leave result)
    (turns : Nat) : run turn (turns + 1) state = .leave result := by
  simp only [run, left]

theorem run_then {state middle : State} {turns : Nat}
    (there : run turn turns state = .again middle) (more : Nat) :
    run turn (turns + more) state = run turn more middle := by
  induction turns generalizing state with
  | zero =>
      cases there
      rw [Nat.zero_add]
  | succ turns ih =>
      rw [Nat.succ_add]
      cases here : turn state with
      | again next =>
          rw [run_again here] at there ⊢
          exact ih there
      | leave result =>
          rw [run_leave here] at there
          cases there

/-- The total rule: the loop is left within one turn more than its measure,
from a state that keeps the invariant. -/
theorem run_total (invariant : State → Prop) (measure : State → Nat)
    (kept : ∀ state next, invariant state → turn state = .again next →
      invariant next ∧ measure next < measure state)
    {state : State} (start : invariant state) {turns : Nat} (enough : measure state < turns) :
    ∃ last result, invariant last ∧ turn last = .leave result ∧
      run turn turns state = .leave result := by
  induction turns generalizing state with
  | zero => omega
  | succ turns ih =>
      cases here : turn state with
      | leave result => exact ⟨state, result, start, here, run_leave here turns⟩
      | again next =>
          have later := kept state next start here
          rw [run_again here]
          exact ih later.1 (by omega)

/-- The rule for a loop whose end is not known: whoever leaves it does so from
a state that keeps the invariant. -/
theorem run_partial (invariant : State → Prop)
    (kept : ∀ state next, invariant state → turn state = .again next → invariant next)
    {state : State} (start : invariant state) {result : Result}
    (left : Leaves turn state result) :
    ∃ last, invariant last ∧ turn last = .leave result := by
  rcases left with ⟨turns, left⟩
  induction turns generalizing state with
  | zero => cases left
  | succ turns ih =>
      cases here : turn state with
      | leave found =>
          rw [run_leave here] at left
          exact ⟨state, start, here.trans left⟩
      | again next =>
          rw [run_again here] at left
          exact ih (kept state next start here) left

/-- A loop whose every state goes on is never left. -/
theorem run_forever (invariant : State → Prop)
    (kept : ∀ state, invariant state → ∃ next, turn state = .again next ∧ invariant next)
    {state : State} (start : invariant state) (result : Result) : ¬ Leaves turn state result := by
  rintro ⟨turns, left⟩
  induction turns generalizing state with
  | zero => cases left
  | succ turns ih =>
      rcases kept state start with ⟨next, here, later⟩
      rw [run_again here] at left
      exact ih later left

end TurnLoop
