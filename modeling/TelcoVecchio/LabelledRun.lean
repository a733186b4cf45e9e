import Mathlib.Algebra.GroupWithZero.Nat
import Mathlib.Data.List.Basic

/-!
Finite runs of a labelled step relation. A property of every reachable state
is proved from one preservation lemma for a single step; a guard on the steps
of a run is part of the relation, so conditional invariants use the same rule.
-/

namespace LabelledRun

universe u v
variable {State : Type u} {Label : Type v}

inductive Run (step : State → Label → State → Prop) : State → List Label → State → Prop where
  | refl (state) : Run step state [] state
  | next {before middle after label rest} (first : step before label middle) :
      Run step middle rest after → Run step before (label :: rest) after

def guarded (guard : State → Label → Prop) (step : State → Label → State → Prop) :
    State → Label → State → Prop :=
  fun before label after => guard before label ∧ step before label after

variable {step : State → Label → State → Prop}

theorem run_invariant (invariant : State → Prop)
    (kept : ∀ before label after, step before label after → invariant before → invariant after)
    {before after : State} {labels : List Label} (run : Run step before labels after)
    (start : invariant before) : invariant after := by
  induction run with
  | refl => exact start
  | next first _ ih => exact ih (kept _ _ _ first start)

/-- The same rule when only some labels keep the property. -/
theorem run_invariant_of_labels (allowed : Label → Prop) (invariant : State → Prop)
    (kept : ∀ before label after, allowed label → step before label after →
      invariant before → invariant after)
    {before after : State} {labels : List Label} (run : Run step before labels after)
    (all : ∀ label ∈ labels, allowed label) (start : invariant before) : invariant after := by
  induction run with
  | refl => exact start
  | next first _ ih =>
      exact ih (fun label member => all label (List.mem_cons_of_mem _ member))
        (kept _ _ _ (all _ List.mem_cons_self) first start)

theorem run_append {before middle after : State} {left right : List Label}
    (first : Run step before left middle) (second : Run step middle right after) :
    Run step before (left ++ right) after := by
  induction first with
  | refl => exact second
  | next head _ ih => exact Run.next head (ih second)

theorem run_mono {weaker : State → Label → State → Prop}
    (weaken : ∀ before label after, step before label after → weaker before label after)
    {before after : State} {labels : List Label} (run : Run step before labels after) :
    Run weaker before labels after := by
  induction run with
  | refl => exact Run.refl _
  | next first _ ih => exact Run.next (weaken _ _ _ first) ih

end LabelledRun
