import TelcoVecchio.Simulation
import TelcoVecchio.MainLoop
import TelcoVecchio.TunnelPairs
import TelcoVecchio.ProcessOwnership

/-!
The main loop, with its clock, its replies and its reboots, against the daemon
of requests and cleanings. What a call does depends on the context and on the
number of spawns so far, not on the rest of the log, so each turn of the loop
is at most one event and every run of the loop is a run of events at the same
table. The safety of the table and of the ssh processes carries over.
-/

namespace TelcoVecchio.LoopRefinement

open Common Status SshUtils Request SmsUtils Service MainLoop TunnelPairs ProcessOwnership

structure Alike (left leftAfter right rightAfter : Daemon) : Prop where
  context : leftAfter.context = rightAfter.context
  effects : ∃ effects, leftAfter.log = left.log ++ effects ∧ rightAfter.log = right.log ++ effects

section Calls
variable {left right : Daemon}

theorem alike_trans {leftMiddle leftAfter rightMiddle rightAfter : Daemon}
    (first : Alike left leftMiddle right rightMiddle)
    (second : Alike leftMiddle leftAfter rightMiddle rightAfter) :
    Alike left leftAfter right rightAfter := by
  rcases first.effects with ⟨early, leftEarly, rightEarly⟩
  rcases second.effects with ⟨late, leftLate, rightLate⟩
  refine ⟨second.context, early ++ late, ?_, ?_⟩
  · rw [leftLate, leftEarly, List.append_assoc]
  · rw [rightLate, rightEarly, List.append_assoc]

variable (same : left.context = right.context)
include same

theorem alike_refl : Alike left left right right := ⟨same, [], by simp, by simp⟩

theorem alike_record (effects : List Effect) :
    Alike left (left.record effects) right (right.record effects) :=
  ⟨same, effects, rfl, rfl⟩

theorem alike_remove (reference : UInt32) (used : Tunnel → List Effect) :
    Alike left (left.remove reference used) right (right.remove reference used) := by
  cases held : right.context.tunnels.lookup reference with
  | none =>
      simp only [Daemon.remove, same, held]
      exact alike_refl same
  | some tunnel =>
      simp only [Daemon.remove, same, held]
      exact ⟨rfl, _, rfl, rfl⟩

theorem alike_insert (reference : UInt32) (tunnel : Tunnel) :
    Alike left (left.insert reference tunnel) right (right.insert reference tunnel) := by
  simp only [Daemon.insert, same]
  exact ⟨rfl, _, rfl, rfl⟩

omit same in
theorem close_alike (kill : Child → Except IoError Unit) (references : List UInt32)
    {left right : Daemon} (same : left.context = right.context) :
    (closeTunnels kill references left).1 = (closeTunnels kill references right).1 ∧
      Alike left (closeTunnels kill references left).2 right
        (closeTunnels kill references right).2 := by
  induction references generalizing left right with
  | nil => exact ⟨rfl, alike_refl same⟩
  | cons reference rest ih =>
      have removed := alike_remove same reference (killEffect kill)
      cases held : right.context.tunnels.lookup reference with
      | none =>
          simp only [closeTunnels, same, held]
          exact ⟨trivial, alike_refl same⟩
      | some tunnel =>
          simp only [closeTunnels, same, held]
          cases kill tunnel.process with
          | error error => exact ⟨rfl, removed⟩
          | ok _ =>
              have later := ih removed.context
              exact ⟨later.1, alike_trans removed later.2⟩

omit same in
theorem remove_tunnels_alike (references : List UInt32) {left right : Daemon}
    (same : left.context = right.context) :
    Alike left (removeTunnels references left) right (removeTunnels references right) := by
  induction references generalizing left right with
  | nil => exact alike_refl same
  | cons reference rest ih =>
      have removed := alike_remove same reference fun _ => []
      exact alike_trans removed (ih removed.context)

theorem clean_up_alike (now : Nat) (order : Order TunnelEntry)
    (calls : CleanUpCalls) :
    (cleanUpExpiredTunnels now order calls left).1 =
        (cleanUpExpiredTunnels now order calls right).1 ∧
      Alike left (cleanUpExpiredTunnels now order calls left).2 right
        (cleanUpExpiredTunnels now order calls right).2 := by
  simp only [cleanUpExpiredTunnels, same]
  have recorded := alike_record same
    (visitTunnels calls now right.context.configuration
      (order.arrange right.context.tunnels.entries)).2
  split
  · exact ⟨rfl, recorded⟩
  · exact ⟨rfl, alike_trans recorded (remove_tunnels_alike _ recorded.context)⟩

variable (spawns : nextChild left.log = nextChild right.log)
include spawns

theorem establish_alike (env : Env) (user : User) (application : Application) :
    (establishTunnel env user application left).1 =
        (establishTunnel env user application right).1 ∧
      Alike left (establishTunnel env user application left).2 right
        (establishTunnel env user application right).2 := by
  -- the name of the new process is all that the log decides
  simp only [establishTunnel, spawns, same]
  split
  · exact ⟨rfl, alike_record same _⟩
  · exact ⟨rfl, alike_record same _⟩
  · exact ⟨rfl, alike_record same _⟩
  · split
    · exact ⟨rfl, alike_record same _⟩
    · have recorded := fun effects => alike_record same effects
      exact ⟨rfl, alike_trans (recorded _) (alike_insert (recorded _).context _ _)⟩

/-- A request does the same to the same context after as many spawns. -/
theorem handle_request_alike (env : Env) (sender request : String) :
    (handleRequest env sender request left).1 = (handleRequest env sender request right).1 ∧
      Alike left (handleRequest env sender request left).2 right
        (handleRequest env sender request right).2 := by
  simp only [handleRequest, same]
  split
  · exact ⟨rfl, alike_refl same⟩
  · split
    · exact ⟨rfl, alike_refl same⟩
    · simp only [runCommand]
      split
      · simp only [openTunnel, same]
        split
        · exact ⟨rfl, alike_refl same⟩
        · split
          · exact ⟨rfl, alike_refl same⟩
          · exact establish_alike same spawns env _ _
      split
      · simp only [closeTunnel, same]
        split
        · exact ⟨rfl, alike_refl same⟩
        · next references _ =>
            have closed := close_alike env.kill references same
            exact ⟨by rw [closed.1], closed.2⟩
      split
      · simp only [resolveStatus, same]
        split
        · exact ⟨rfl, rfl, [], by simp, by simp⟩
        all_goals exact ⟨rfl, alike_refl same⟩
      split
      · exact ⟨rfl, alike_record same _⟩
      split
      · exact ⟨rfl, alike_record same _⟩
      · exact ⟨rfl, alike_refl same⟩

end Calls

def turnEvents (loop : Loop) (wait : WaitEnd) : List Event :=
  match wait with
  | .timedOut _ order calls => [.cleanUp (loop.wakesAt wait) order calls]
  | .received _ env sms => [.request env sms.sender sms.msg]
  | .failed _ => []

/-- The loop has the daemon's table and its ssh processes, and did what the
daemon did in that order, with replies and reboots in between. -/
structure Serves (loop : Loop) (daemon : Daemon) : Prop where
  context : loop.daemon.context = daemon.context
  ledger : loop.daemon.log.flatMap Effect.ledger = daemon.log.flatMap Effect.ledger
  done : daemon.log.Sublist loop.daemon.log

theorem next_child_of_ledger (left right : List Effect)
    (same : left.flatMap Effect.ledger = right.flatMap Effect.ledger) :
    nextChild left = nextChild right := by
  simp only [nextChild, ← ledger_openings, same]

/-- The loop's daemon acts alike and then writes a reply, or reboots and then
acts alike: the added effects leave no trace in the ledger. -/
theorem serves_of_alike {loop : Loop} {daemon : Daemon} (serves : Serves loop daemon)
    {middle next after : Daemon} {loopAfter : Loop} (front back : List Effect)
    (quiet : ∀ effect ∈ front ++ back, effect.ledger = [])
    (started : middle = loop.daemon.record front)
    (alike : Alike middle next daemon after)
    (finished : loopAfter.daemon = next.record back) : Serves loopAfter after := by
  have silent : ∀ effects : List Effect, (∀ effect ∈ effects, effect.ledger = []) →
      effects.flatMap Effect.ledger = [] := fun effects => List.flatMap_eq_nil_iff.mpr
  rcases alike.effects with ⟨effects, loopLog, daemonLog⟩
  have quietFront := silent front fun effect member => quiet effect (List.mem_append_left _ member)
  have quietBack := silent back fun effect member => quiet effect (List.mem_append_right _ member)
  subst middle
  constructor
  · rw [finished]
    exact alike.context
  · rw [finished, record_log, loopLog, daemonLog, record_log]
    simp only [List.flatMap_append, quietFront, quietBack, serves.ledger, List.append_nil]
  · rw [finished, record_log, loopLog, daemonLog, record_log]
    have kept := (serves.done.trans (List.sublist_append_left _ front)).append
      (List.Sublist.refl effects)
    exact kept.trans (List.sublist_append_left _ back)

section Turns
variable (escaped : Char → Bool)

theorem timed_out_serves {loop : Loop} {daemon : Daemon} (serves : Serves loop daemon)
    (internetPing : Nat → IpAddr → Except SurgeError Unit) (order : Order TunnelEntry)
    (calls : CleanUpCalls)
    (takes : Takes loop (.timedOut internetPing order calls)) :
    Step daemon (.cleanUp (loop.wakesAt (.timedOut internetPing order calls)) order calls)
        (cleanUpExpiredTunnels (loop.wakesAt (.timedOut internetPing order calls)) order calls
          daemon).2 ∧
      Serves (turn escaped loop (.timedOut internetPing order calls))
        (cleanUpExpiredTunnels (loop.wakesAt (.timedOut internetPing order calls)) order calls
          daemon).2 := by
  -- the loop may have asked for a reboot before it cleans up
  let connected := isConnectedToInternet internetPing
    loop.daemon.context.configuration.emailConfig.internetHost
  let front : List Effect := if connected then [] else [.rebooted]
  have started : (if connected then loop.daemon else loop.daemon.record [.rebooted]) =
      loop.daemon.record front := by
    cases online : connected <;> simp [front, online, Daemon.record]
  have same : (loop.daemon.record front).context = daemon.context := serves.context
  have alike := clean_up_alike same (loop.wakesAt (.timedOut internetPing order calls)) order calls
  have quiet : ∀ effect ∈ front ++ [], effect.ledger = [] := by
    cases online : connected <;> simp [front, online, Effect.ledger]
  constructor
  · refine ⟨?_, rfl⟩
    simp only [Takes, periodicRoutines] at takes
    change Returned (cleanUpExpiredTunnels _ order calls
      (if connected then loop.daemon else loop.daemon.record [.rebooted])).1 at takes
    rw [started, alike.1] at takes
    exact takes
  · refine serves_of_alike serves front [] quiet rfl alike.2 ?_
    simp only [turn, periodicRoutines]
    change (cleanUpExpiredTunnels _ order calls
      (if connected then loop.daemon else loop.daemon.record [.rebooted])).2 = _
    rw [started]
    simp [Daemon.record]

theorem received_serves {loop : Loop} {daemon : Daemon} (serves : Serves loop daemon)
    (delay : Nat) (env : Env) (sms : IncomingSms) (takes : Takes loop (.received delay env sms)) :
    Step daemon (.request env sms.sender sms.msg)
        (handleRequest env sms.sender sms.msg daemon).2 ∧
      Serves (turn escaped loop (.received delay env sms))
        (handleRequest env sms.sender sms.msg daemon).2 := by
  have alike := handle_request_alike serves.context
    (next_child_of_ledger _ _ serves.ledger) env sms.sender sms.msg
  constructor
  · refine ⟨?_, rfl⟩
    have returned := takes.2.2
    rw [alike.1] at returned
    exact returned
  · -- the loop may send a reply once the request is through
    have started : loop.daemon = loop.daemon.record [] := by simp [Daemon.record]
    cases reply : replyText escaped (handleRequest env sms.sender sms.msg loop.daemon).1 with
    | none =>
        refine serves_of_alike serves [] [] (by simp) started alike.2 ?_
        simp [turn, answer, reply, Daemon.record]
    | some message =>
        refine serves_of_alike serves [] [.smsSent sms.sender message] (by simp [Effect.ledger])
          started alike.2 ?_
        simp [turn, answer, reply]

theorem loop_simulates :
    Simulation.Simulates (Turn escaped) Step (fun loop wait events => events = turnEvents loop wait)
      Serves := by
  rintro loop wait _ daemon serves ⟨takes, rfl⟩
  cases wait with
  | timedOut internetPing order calls =>
      have served := timed_out_serves escaped serves internetPing order calls takes
      exact ⟨_, _, rfl, .next served.1 (.refl _), served.2⟩
  | received delay env sms =>
      have served := received_serves escaped serves delay env sms takes
      exact ⟨_, _, rfl, .next served.1 (.refl _), served.2⟩
  | failed delay => exact ⟨[], daemon, rfl, .refl daemon, serves.context, serves.ledger, serves.done⟩

theorem start_serves (configuration : Configuration) (status : Status) (clock : Nat) :
    Serves (Loop.start configuration status clock) (Daemon.start configuration status) :=
  ⟨rfl, rfl, List.Sublist.refl _⟩

/-- Every run of returning turns of the main loop is a run of their events, in
their order and at their times, that ends with the same table and processes. -/
theorem loop_run_refines (configuration : Configuration) (status : Status) (clock : Nat)
    (waits : List WaitEnd) (loop : Loop)
    (run : LabelledRun.Run (Turn escaped) (Loop.start configuration status clock) waits loop) :
    ∃ events daemon,
      Simulation.Traced (Turn escaped) (fun loop wait events => events = turnEvents loop wait)
        (Loop.start configuration status clock) waits events loop ∧
      Reaches configuration status events daemon ∧ Serves loop daemon :=
  Simulation.run_simulated (loop_simulates escaped) run (start_serves configuration status clock)

theorem serves_live {loop : Loop} {daemon : Daemon} (serves : Serves loop daemon) :
    live loop.daemon.log = live daemon.log := by
  simp only [live, serves.ledger]

structure Sound (configuration : Configuration) (loop : Loop) : Prop where
  configured : loop.daemon.context.configuration = configuration
  pairs : PairsDistinct loop.daemon
  owned : ∀ process ∈ live loop.daemon.log, ∃! key, ∃ tunnel,
    loop.daemon.context.tunnels.lookup key = some tunnel ∧ tunnel.process = process
  limited : ∀ max, configuration.sshConfig.tunnelMaxNumber = some max →
    tunnelCount loop.daemon.context.tunnels ≤ max.toNat ∧
      (live loop.daemon.log).length ≤ max.toNat

theorem sound_of_serves {configuration : Configuration} {loop : Loop} {daemon : Daemon}
    (serves : Serves loop daemon) (same : daemon.context.configuration = configuration)
    (pairs : PairsDistinct daemon) (owned : Owned daemon) (within : WithinLimit daemon) :
    Sound configuration loop := by
  constructor
  · rw [serves.context, same]
  · constructor
    · rw [serves.context]
      exact pairs.distinct
    · rw [serves.context]
      exact pairs.named
  · rw [serves_live serves, serves.context]
    intro process member
    rcases owned.owner process member with ⟨key, tunnel, held, rfl⟩
    refine ⟨key, ⟨tunnel, held, rfl⟩, ?_⟩
    rintro other ⟨second, heldSecond, sameProcess⟩
    exact owned.single other key second tunnel heldSecond held sameProcess
  · rw [serves_live serves, serves.context]
    intro max limit
    have few := within max (same ▸ limit)
    exact ⟨few, (live_le_count owned).trans few⟩

/-- Whatever arrives and whenever, each wait starts with at most one tunnel for
a pair of configured names, with every live ssh process in exactly one entry,
and within the limit. -/
theorem loop_sound (configuration : Configuration) (status : Status) (clock : Nat)
    (waits : List WaitEnd) (loop : Loop)
    (run : LabelledRun.Run (Turn escaped) (Loop.start configuration status clock) waits loop) :
    Sound configuration loop := by
  refine Simulation.invariant_carried (loop_simulates escaped)
    (start_serves configuration status clock)
    (fun daemon => daemon.context.configuration = configuration ∧ PairsDistinct daemon ∧
      Owned daemon ∧ WithinLimit daemon)
    (Sound configuration) ?_ ?_ run
  · intro events daemon reached
    have pairs := LabelledRun.run_invariant PairsDistinct
      (fun _ _ _ step pairs => step_pairs_distinct step pairs) reached
      (start_pairs_distinct configuration status)
    exact ⟨reaches_configuration reached, pairs, reaches_owned reached,
      reaches_within_limit reached⟩
  · rintro loop daemon serves ⟨same, pairs, owned, within⟩
    exact sound_of_serves serves same pairs owned within

end Turns

theorem opening_and_failure : LabelledRun.Run (Turn fun _ => false)
    (Loop.start hurried readyStatus 0) [opening, .failed 1900000000] (afterFailures 1) :=
  .next opening_turn (.next (failure_turn 0) (.refl _))

theorem opening_and_failure_refined :
    ∃ events daemon,
      Simulation.Traced (Turn fun _ => false)
        (fun loop wait events => events = turnEvents loop wait)
        (Loop.start hurried readyStatus 0) [opening, .failed 1900000000] events
        (afterFailures 1) ∧
      Reaches hurried readyStatus events daemon ∧ Serves (afterFailures 1) daemon :=
  loop_run_refines (fun _ => false) hurried readyStatus 0 _ _ opening_and_failure

theorem opening_and_failure_sound : Sound hurried (afterFailures 1) :=
  loop_sound (fun _ => false) hurried readyStatus 0 _ _ opening_and_failure

end TelcoVecchio.LoopRefinement
