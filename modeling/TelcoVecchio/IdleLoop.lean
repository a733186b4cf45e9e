import TelcoVecchio.LoopRefinement
import TelcoVecchio.ExpiryCleaning

/-!
The main loop left alone. Nothing arrives, so every wait times out and every
turn cleans up; the pings, the kills and the notifications go as they may. After
as many turns as the tunnel timeout takes nothing is left open.
-/

namespace TelcoVecchio.IdleLoop

open Common Status Request Service MainLoop ProcessOwnership LoopRefinement

def Idle : WaitEnd → Prop
  | .timedOut _ _ _ => True
  | .received _ _ _ | .failed _ => False

def Past (loop : Loop) : Prop :=
  ∀ key tunnel, loop.daemon.context.tunnels.lookup key = some tunnel →
    tunnel.creationDate ≤ loop.clock

def Held (loop : Loop) : Prop :=
  ∀ process ∈ live loop.daemon.log, ∃ key tunnel,
    loop.daemon.context.tunnels.lookup key = some tunnel ∧ tunnel.process = process

theorem idle_takes {loop : Loop} (past : Past loop)
    (internetPing : Nat → IpAddr → Except SurgeError Unit) (order : Order TunnelEntry)
    (calls : CleanUpCalls) (encode : ExpiryCleaning.NumbersEncode calls
      (loop.wakesAt (.timedOut internetPing order calls)) loop.daemon) :
    Takes loop (.timedOut internetPing order calls) := by
  refine (ExpiryCleaning.routines_returned_iff internetPing _ order calls loop.daemon).mpr
    ((ExpiryCleaning.passing_iff calls _ loop.daemon).mpr ⟨?_, encode⟩)
  intro key tunnel held
  exact (past key tunnel held).trans (Nat.le_add_right _ _)

section Turns
variable (escaped : Char → Bool)

theorem turn_clock {before after : Loop} {wait : WaitEnd}
    (taken : Turn escaped before wait after) : after.clock = before.wakesAt wait := by
  rcases taken with ⟨_, rfl⟩
  cases wait <;> rfl

theorem turn_tunnels {before after : Loop} {wait : WaitEnd}
    (taken : Turn escaped before wait after) (key : UInt32) (tunnel : Tunnel)
    (held : after.daemon.context.tunnels.lookup key = some tunnel) :
    before.daemon.context.tunnels.lookup key = some tunnel ∨
      tunnel.creationDate = after.clock := by
  rcases taken with ⟨takes, rfl⟩
  cases wait with
  | failed delay => exact Or.inl held
  | timedOut internetPing order calls =>
      have kept := (clean_up_lookup _ order calls _ takes key tunnel).mp held
      left
      split at kept <;> exact kept.1
  | received delay env sms =>
      change (answer escaped env sms before.daemon).context.tunnels.lookup key = _ at held
      rw [answer_context] at held
      cases handled_table_change (handle_request_handled env sms.sender sms.msg before.daemon) with
      | removals shrinks => exact Or.inl (shrinks.held key tunnel held)
      | insertion user application applicationStr _ _ _ lookups =>
          rw [lookups] at held
          split at held
          · cases held
            exact Or.inr takes.2.1
          · exact Or.inl held

theorem turn_past {before after : Loop} {wait : WaitEnd}
    (taken : Turn escaped before wait after) (past : Past before) : Past after := by
  intro key tunnel held
  have later : before.clock ≤ after.clock := by
    rw [turn_clock escaped taken]
    cases wait <;> exact Nat.le_add_right _ _
  rcases turn_tunnels escaped taken key tunnel held with older | new
  · exact (past key tunnel older).trans later
  · exact new.le

/-- The cleaning of an idle turn opens nothing and leaves only young tunnels. -/
theorem idle_turn {configuration : Configuration} {before after : Loop} {wait : WaitEnd}
    (same : before.daemon.context.configuration = configuration) (idle : Idle wait)
    (taken : Turn escaped before wait after) :
    after.clock = before.clock + refreshPeriod configuration ∧
      ∀ key tunnel, after.daemon.context.tunnels.lookup key = some tunnel →
        before.daemon.context.tunnels.lookup key = some tunnel ∧
          after.clock ≤ tunnel.creationDate + tunnelLimit configuration := by
  cases wait with
  | received => exact idle.elim
  | failed => exact idle.elim
  | timedOut internetPing order calls =>
      constructor
      · rw [turn_clock escaped taken, Loop.wakesAt, same]
      · rcases taken with ⟨takes, rfl⟩
        intro key tunnel held
        rcases (clean_up_lookup _ order calls _ takes key tunnel).mp held with
          ⟨older, age, measured, within⟩
        have limit : age ≤ tunnelLimit configuration := by
          rw [← same]
          split at within <;> exact within
        simp only [durationSince, Option.ite_none_right_eq_some, Option.some.injEq] at measured
        constructor
        · split at older <;> exact older
        · change before.wakesAt (.timedOut internetPing order calls) ≤ _
          omega

theorem idle_run {configuration : Configuration} {before after : Loop} {waits : List WaitEnd}
    (run : LabelledRun.Run (Turn escaped) before waits after)
    (idle : ∀ wait ∈ waits, Idle wait)
    (same : before.daemon.context.configuration = configuration) :
    after.clock = before.clock + waits.length * refreshPeriod configuration ∧
      ∀ key tunnel, after.daemon.context.tunnels.lookup key = some tunnel →
        before.daemon.context.tunnels.lookup key = some tunnel ∧
          (waits ≠ [] → after.clock ≤ tunnel.creationDate + tunnelLimit configuration) := by
  induction run with
  | refl loop => exact ⟨by simp, fun key tunnel held => ⟨held, fun some => absurd rfl some⟩⟩
  | next first rest ih =>
      rcases idle_turn escaped same (idle _ List.mem_cons_self) first with ⟨clock, young⟩
      rcases ih (fun wait member => idle wait (List.mem_cons_of_mem _ member))
        ((turn_configuration escaped first).trans same) with ⟨lastClock, lastYoung⟩
      constructor
      · rw [lastClock, clock, List.length_cons, Nat.succ_mul]
        omega
      · intro key tunnel held
        rcases lastYoung key tunnel held with ⟨middle, late⟩
        refine ⟨(young key tunnel middle).1, fun _ => ?_⟩
        -- the last turn is the first one, or among the rest
        cases rest with
        | refl => exact (young key tunnel held).2
        | next second others => exact late (List.cons_ne_nil _ _)

theorem loop_held (configuration : Configuration) (status : Status) (clock : Nat)
    (waits : List WaitEnd) (loop : Loop)
    (run : LabelledRun.Run (Turn escaped) (Loop.start configuration status clock) waits loop) :
    Held loop := by
  refine Simulation.invariant_carried (loop_simulates escaped)
    (start_serves configuration status clock) Owned Held
    (fun _ _ reached => reaches_owned reached) ?_ run
  intro loop daemon serves owned process member
  rw [serves_live serves] at member
  rw [serves.context]
  exact owned.owner process member

/-- After any run, idle turns that take longer than the tunnel timeout leave no
tunnel open and no ssh process alive. -/
theorem idle_closes_all (configuration : Configuration) (status : Status) (clock : Nat)
    (waits : List WaitEnd) (loop : Loop)
    (run : LabelledRun.Run (Turn escaped) (Loop.start configuration status clock) waits loop)
    (idleWaits : List WaitEnd) (idle : ∀ wait ∈ idleWaits, Idle wait) (after : Loop)
    (later : LabelledRun.Run (Turn escaped) loop idleWaits after)
    (long : tunnelLimit configuration < idleWaits.length * refreshPeriod configuration) :
    (∀ key, after.daemon.context.tunnels.lookup key = none) ∧ live after.daemon.log = [] := by
  have known := LabelledRun.run_invariant
    (fun loop : Loop => loop.daemon.context.configuration = configuration ∧ Past loop)
    (fun _ _ _ taken kept =>
      ⟨(turn_configuration escaped taken).trans kept.1, turn_past escaped taken kept.2⟩) run
    ⟨rfl, fun _ _ held => by cases held⟩
  rcases idle_run escaped later idle known.1 with ⟨end_, young⟩
  have some : idleWaits ≠ [] := by
    rintro rfl
    simp at long
  have closed : ∀ key, after.daemon.context.tunnels.lookup key = none := by
    intro key
    cases held : after.daemon.context.tunnels.lookup key with
    | none => rfl
    | some tunnel =>
        -- opened before the idle turns, and still young after them
        rcases young key tunnel held with ⟨older, late⟩
        have opened := known.2 key tunnel older
        have limit := late some
        omega
  -- a live process would have a tunnel
  refine ⟨closed, List.eq_nil_iff_forall_not_mem.mpr fun process member => ?_⟩
  rcases loop_held escaped configuration status clock _ after
    (LabelledRun.run_append run later) process member with ⟨key, tunnel, held, _⟩
  rw [closed key] at held
  cases held

end Turns

def resting : WaitEnd := .timedOut (fun _ _ => .ok ()) (.stored _) ExpiryCleaning.fineCalls

theorem resting_taken (loop : Loop) (past : Past loop)
    (same : loop.daemon.context.configuration = hurried) : Turn (fun _ => false) loop resting
    (turn (fun _ => false) loop resting) := by
  refine ⟨idle_takes past (fun _ _ => .ok ()) (.stored _) ExpiryCleaning.fineCalls ?_, rfl⟩
  intro key tunnel _ _ _ user found
  have encode : ∀ user ∈ hurried.users,
      (SmsUtils.encodePhoneNumber user.phoneNumber).isSome = true := by decide
  rw [same] at found
  exact encode user (List.mem_of_find?_eq_some found)

theorem resting_turn : Turn (fun _ => false) (afterFailures 0) resting
    (turn (fun _ => false) (afterFailures 0) resting) := by
  have begun : Past (Loop.start hurried readyStatus 0) := fun _ _ held => by cases held
  exact resting_taken _ (turn_past (fun _ => false) opening_turn begun)
    (turn_configuration (fun _ => false) opening_turn)

theorem opened_closed_by_resting :
    (turn (fun _ => false) (afterFailures 0) resting).daemon.context.tunnels.lookup 0 = none ∧
      live (turn (fun _ => false) (afterFailures 0) resting).daemon.log = [] := by
  rcases idle_closes_all (fun _ => false) hurried readyStatus 0 [opening] (afterFailures 0)
    (.next opening_turn (.refl _)) [resting] (fun wait member => by
      rw [List.mem_singleton.mp member]
      trivial) _ (.next resting_turn (.refl _)) (by decide) with ⟨closed, dead⟩
  exact ⟨closed 0, dead⟩

end TelcoVecchio.IdleLoop
