import TelcoVecchio.Service

/-!
The table seen as a relation between users and applications: every entry
stands for a pair of configured names, and no pair stands twice.
-/

namespace TelcoVecchio.TunnelPairs

open Common Request Service

structure PairsDistinct (daemon : Daemon) : Prop where
  distinct : ∀ first second left right, daemon.context.tunnels.lookup first = some left →
    daemon.context.tunnels.lookup second = some right → first ≠ second →
    left.user ≠ right.user ∨ left.application ≠ right.application
  named : ∀ key tunnel, daemon.context.tunnels.lookup key = some tunnel →
    (∃ user ∈ daemon.context.configuration.users, user.name = tunnel.user) ∧
    ∃ application ∈ daemon.context.configuration.applications,
      application.name = tunnel.application

theorem start_pairs_distinct (configuration : Configuration) (status : Status) :
    PairsDistinct (Daemon.start configuration status) := by
  constructor <;> simp [Daemon.start, Context.new]

theorem shrinks_pairs_distinct {before after : Daemon} (shrinks : Shrinks before after)
    (pairs : PairsDistinct before) : PairsDistinct after where
  distinct := fun first second left right heldLeft heldRight =>
    pairs.distinct first second left right (shrinks.held first left heldLeft)
      (shrinks.held second right heldRight)
  named := by
    intro key tunnel held
    rw [shrinks.configuration]
    exact pairs.named key tunnel (shrinks.held key tunnel held)

/-- The admission check compares the new pair with every entry, and what the
insertion replaces is one of them. -/
theorem insertion_pairs_distinct {env : Env} {before after : Daemon} {user : User}
    {application : Application} {applicationStr : String} (pairs : PairsDistinct before)
    (member : user ∈ before.context.configuration.users)
    (admitted : Admitted before.context user applicationStr application)
    (configuration : after.context.configuration = before.context.configuration)
    (lookups : ∀ key, after.context.tunnels.lookup key =
      if key = nextReference before.context.tunnels then
        some (newTunnel env user application before)
      else before.context.tunnels.lookup key) : PairsDistinct after := by
  have differs : ∀ key tunnel, before.context.tunnels.lookup key = some tunnel →
      tunnel.user ≠ user.name ∨ tunnel.application ≠ application.name := by
    intro key tunnel held
    by_cases sameUser : tunnel.user = user.name
    · exact Or.inr (admitted.notOpen key tunnel held sameUser)
    · exact Or.inl sameUser
  constructor
  · intro first second left right heldLeft heldRight apart
    rw [lookups] at heldLeft heldRight
    -- new and new, new and old, old and new, old and old
    split at heldLeft <;> split at heldRight
    · next isFirst isSecond => exact absurd (isFirst.trans isSecond.symm) apart
    · cases heldLeft
      exact (differs second right heldRight).imp Ne.symm Ne.symm
    · cases heldRight
      exact differs first left heldLeft
    · exact pairs.distinct first second left right heldLeft heldRight apart
  · intro key tunnel held
    rw [configuration]
    rw [lookups] at held
    split at held
    · cases held
      exact ⟨⟨user, member, rfl⟩, application, List.mem_of_find?_eq_some admitted.resolved, rfl⟩
    · exact pairs.named key tunnel held

theorem step_pairs_distinct {before after : Daemon} {event : Event}
    (step : Step before event after) (pairs : PairsDistinct before) : PairsDistinct after := by
  rcases step_table_change step with shrinks | ⟨env, change⟩
  · exact shrinks_pairs_distinct shrinks pairs
  · cases change with
    | removals shrinks => exact shrinks_pairs_distinct shrinks pairs
    | insertion user application applicationStr member admitted configuration lookups =>
        exact insertion_pairs_distinct pairs member admitted configuration lookups

/-- In every reachable state two entries differ in user or in application, and
every entry carries configured names. -/
theorem one_tunnel_per_pair (configuration : Configuration) (status : Status)
    (events : List Event) (daemon : Daemon)
    (run : Reaches configuration status events daemon) :
    (∀ first second left right, daemon.context.tunnels.lookup first = some left →
      daemon.context.tunnels.lookup second = some right → first ≠ second →
      left.user ≠ right.user ∨ left.application ≠ right.application) ∧
    ∀ key tunnel, daemon.context.tunnels.lookup key = some tunnel →
      (∃ user ∈ configuration.users, user.name = tunnel.user) ∧
      ∃ application ∈ configuration.applications, application.name = tunnel.application := by
  have pairs := LabelledRun.run_invariant PairsDistinct
    (fun _ _ _ step pairs => step_pairs_distinct step pairs) run
    (start_pairs_distinct configuration status)
  refine ⟨pairs.distinct, ?_⟩
  have named := pairs.named
  rwa [reaches_configuration run] at named

theorem two_open_pairs : ∃ left right, twoOpen.context.tunnels.lookup 0 = some left ∧
    twoOpen.context.tunnels.lookup 1 = some right ∧
    (left.user ≠ right.user ∨ left.application ≠ right.application) := by
  have left : twoOpen.context.tunnels.lookup 0 =
      some ⟨"Alice", "camera", ⟨0⟩, 0⟩ := by decide +kernel
  have right : twoOpen.context.tunnels.lookup 1 =
      some ⟨"Bob", "camera", ⟨1⟩, 0⟩ := by decide +kernel
  have pairs := (one_tunnel_per_pair house readyStatus _ twoOpen two_open_reached).1
  exact ⟨_, _, left, right, pairs 0 1 _ _ left right (by decide)⟩

end TelcoVecchio.TunnelPairs
