import TelcoVecchio.LabelledRun

/-!
Forward simulations between labelled step relations. A step of the lower
system is answered by moves of the upper one that it spells, from one related
state to another, so what every upper run keeps, every lower run keeps.
`Follows` is the stricter kind where the upper system is handed its move and
has to take it.
-/

namespace Simulation

open LabelledRun

universe u v w x
variable {Low : Type u} {Act : Type v} {High : Type w} {Move : Type x}
variable {low : Low → Act → Low → Prop} {high : High → Move → High → Prop}
  {related : Low → High → Prop} {spelled : Low → Act → List Move → Prop}

inductive Traced (low : Low → Act → Low → Prop) (spelled : Low → Act → List Move → Prop) :
    Low → List Act → List Move → Low → Prop where
  | refl (state) : Traced low spelled state [] [] state
  | next {before middle after act acts moves later} (first : low before act middle)
      (spells : spelled before act moves) (rest : Traced low spelled middle acts later after) :
      Traced low spelled before (act :: acts) (moves ++ later) after

def Simulates (low : Low → Act → Low → Prop) (high : High → Move → High → Prop)
    (spelled : Low → Act → List Move → Prop) (related : Low → High → Prop) : Prop :=
  ∀ before act after upper, related before upper → low before act after →
    ∃ moves reached, spelled before act moves ∧ Run high upper moves reached ∧
      related after reached

theorem run_simulated (simulates : Simulates low high spelled related) {before after : Low}
    {acts : List Act} (run : Run low before acts after) {upper : High}
    (start : related before upper) :
    ∃ moves reached, Traced low spelled before acts moves after ∧
      Run high upper moves reached ∧ related after reached := by
  induction run generalizing upper with
  | refl state => exact ⟨[], upper, .refl state, .refl upper, start⟩
  | next first _ ih =>
      rcases simulates _ _ _ upper start first with ⟨moves, middle, spells, taken, kept⟩
      rcases ih kept with ⟨later, reached, traced, rest, finish⟩
      exact ⟨moves ++ later, reached, .next first spells traced, run_append taken rest, finish⟩

/-- What holds of all reachable upper states holds of the lower ones related to them. -/
theorem invariant_carried (simulates : Simulates low high spelled related) {start : Low}
    {upper : High} (startRelated : related start upper) (upperInvariant : High → Prop)
    (invariant : Low → Prop)
    (holds : ∀ moves reached, Run high upper moves reached → upperInvariant reached)
    (carried : ∀ state reached, related state reached → upperInvariant reached → invariant state)
    {acts : List Act} {after : Low} (run : Run low start acts after) : invariant after := by
  rcases run_simulated simulates run startRelated with ⟨moves, reached, _, taken, finish⟩
  exact carried after reached finish (holds moves reached taken)

def Follows (low : Low → Act → Low → Prop) (high : High → Move → High → Prop)
    (corresponds : Act → Move → Prop) (related : Low → High → Prop) : Prop :=
  ∀ before act after upper move, related before upper → corresponds act move →
    low before act after → ∃ reached, high upper move reached ∧ related after reached

theorem run_followed {corresponds : Act → Move → Prop}
    (follows : Follows low high corresponds related) {before after : Low} {acts : List Act}
    (run : Run low before acts after) {upper : High} (start : related before upper)
    {moves : List Move} (labels : List.Forall₂ corresponds acts moves) :
    ∃ reached, Run high upper moves reached ∧ related after reached := by
  induction run generalizing upper moves with
  | refl =>
      cases labels
      exact ⟨upper, .refl upper, start⟩
  | next first _ ih =>
      cases labels with
      | cons same rest =>
          rcases follows _ _ _ upper _ start same first with ⟨middle, taken, kept⟩
          rcases ih kept rest with ⟨reached, later, finish⟩
          exact ⟨reached, .next taken later, finish⟩

end Simulation
