import TelcoVecchio.Service

/-!
What a failed request leaves behind. Every command commits after its fallible
steps except `close`, which removes an entry before it kills the process: a
failed request changes the state exactly when a `close` meets a kill that fails.
-/

namespace TelcoVecchio.FailedRequests

open Common Request Service

/-- After an error the table and the status are as before, and no process
spawned on the way is alive. -/
def FailureLeaves (env : Env) (sender request : String) (daemon : Daemon) : Prop :=
  ∀ error after, handleRequest env sender request daemon = (.err error, after) →
    (∀ key, after.context.tunnels.lookup key = daemon.context.tunnels.lookup key) ∧
    after.context.status = daemon.context.status ∧
    ∃ later, after.log = daemon.log ++ later ∧
      ∀ process, Effect.spawned process ∈ later → process ∉ live after.log

def KillsSucceed (env : Env) (sender request : String) (daemon : Daemon) : Prop :=
  ∀ user command args, senderUser daemon.context.configuration sender = some user →
    RustText.splitWhitespace request = command :: args → commandWord command = "close" →
    ∀ key tunnel, daemon.context.tunnels.lookup key = some tunnel → Named user args key tunnel →
      killSucceeds env.kill tunnel.process = true

theorem close_removes_first (kill : Child → Except IoError Unit) (reference : UInt32)
    (rest : List UInt32) (daemon : Daemon) (tunnel : Tunnel)
    (held : daemon.context.tunnels.lookup reference = some tunnel) :
    (closeTunnels kill (reference :: rest) daemon).2.context.tunnels.lookup reference = none := by
  have removed : (daemon.remove reference (killEffect kill)).context.tunnels.lookup reference =
      none := by
    rw [remove_lookup, if_pos rfl]
  simp only [closeTunnels, held]
  split
  · exact removed
  · have shrinks := close_shrinks kill rest (daemon.remove reference (killEffect kill))
    cases after : (closeTunnels kill rest
        (daemon.remove reference (killEffect kill))).2.context.tunnels.lookup reference with
    | none => rfl
    | some other =>
        have before := shrinks.held reference other after
        rw [removed] at before
        cases before

theorem failing_kill_changes {env : Env} {sender request : String} {daemon : Daemon} {user : User}
    {command : String} {args : List String} {key : UInt32} {tunnel : Tunnel}
    (allowed : senderUser daemon.context.configuration sender = some user)
    (words : RustText.splitWhitespace request = command :: args)
    (isClose : commandWord command = "close")
    (held : daemon.context.tunnels.lookup key = some tunnel) (named : Named user args key tunnel)
    (failing : killSucceeds env.kill tunnel.process = false) :
    ∃ error after reference, handleRequest env sender request daemon = (.err error, after) ∧
      after.context.tunnels.lookup reference ≠ daemon.context.tunnels.lookup reference := by
  rcases close_references_of_named env.tunnelOrder _ user args key tunnel held named with
    ⟨references, listed⟩
  have member := (close_references_named _ _ user args references listed key tunnel held).mpr named
  have result : handleRequest env sender request daemon =
      ((closeTunnels env.kill references daemon).1.bind fun _ => .ok (closeMessage references),
        (closeTunnels env.kill references daemon).2) := by
    simp only [handle_close env sender request daemon user command args allowed words isClose,
      closeTunnel, listed]
  rcases close_references_cases _ _ _ _ _ listed with ⟨distinct, present⟩ | ⟨other, rfl, absent⟩
  · have ending := close_first_error env.kill references daemon distinct present
    cases first : firstKillError env.kill daemon.context.tunnels references with
    | none =>
        have killed := (first_kill_error_none_iff _ _ _).mp first key member tunnel held
        rw [failing] at killed
        cases killed
    | some error =>
        rw [first] at ending
        cases references with
        | nil => cases member
        | cons head rest =>
            -- the first entry is removed before any kill is tried
            obtain ⟨headTunnel, heldHead⟩ := present head List.mem_cons_self
            refine ⟨.ioError error, _, head, by rw [result, ending]; rfl, ?_⟩
            rw [close_removes_first env.kill head rest daemon headTunnel heldHead, heldHead]
            exact (Option.some_ne_none headTunnel).symm
  · rw [List.mem_singleton.mp member, absent] at held
    cases held

theorem handled_failure_leaves {env : Env} {sender request : String} {before after : Daemon}
    {error : Error} (kills : KillsSucceed env sender request before)
    (handled : Handled env sender request before (.err error) after) :
    (∀ key, after.context.tunnels.lookup key = before.context.tunnels.lookup key) ∧
    after.context.status = before.context.status ∧
    ∃ later, after.log = before.log ++ later ∧
      ∀ process, Effect.spawned process ∈ later → process ∉ live after.log := by
  have unspawned : ∃ later, before.log = before.log ++ later ∧
      ∀ process, Effect.spawned process ∈ later → process ∉ live before.log :=
    ⟨[], by simp, by simp⟩
  have dropped (middle : List Effect) (quiet : ∀ process, Effect.spawned process ∉ middle) :
      ∀ process, Effect.spawned process ∈
          .spawned (nextChild before.log) :: middle ++ [.dropped (nextChild before.log)] →
        ∀ front, process ∉ live (front ++ [.dropped (nextChild before.log)]) := by
    intro process member front alive
    rw [live_dropped] at alive
    have same : process = nextChild before.log := by simpa [quiet process] using member
    simp [same] at alive
  generalize failed : Outcome.err error = outcome at handled
  cases handled with
  | notAllowed | rejected | statusEnded => exact ⟨fun _ => rfl, rfl, unspawned⟩
  | setupEnded user application applicationStr outcome effects _ _ _ ended =>
      refine ⟨fun _ => rfl, rfl, effects, rfl, ?_⟩
      rcases ended with rfl | rfl | ⟨stuck, _⟩
      · simp
      · intro process member
        have gone := dropped [] (by simp) process (by simpa using member)
          (before.log ++ [.setupCalled application.hostIp application.port,
            .spawned (nextChild before.log)])
        simpa using gone
      · rw [stuck] at failed
        cases failed
  | emailFailed user application applicationStr url =>
      refine ⟨fun _ => rfl, rfl, _, rfl, ?_⟩
      intro process member
      have gone := dropped [urlMail user application url] (by simp [urlMail]) process
        (by simpa [urlMail] using member)
        (before.log ++ [.setupCalled application.hostIp application.port,
          .spawned (nextChild before.log), urlMail user application url])
      simpa using gone
  | opened => cases failed
  | closed user command args references allowed words isClose listed =>
      rcases close_references_cases _ _ _ _ _ listed with ⟨distinct, present⟩ | ⟨other, rfl, absent⟩
      · -- all kills succeed, so there is no error
        have quiet : firstKillError env.kill before.context.tunnels references = none := by
          rw [first_kill_error_none_iff]
          intro reference member tunnel held
          have named := (close_references_named _ _ user args references listed reference tunnel
            held).mp member
          exact kills user command args allowed words isClose reference tunnel held named
        have done : (closeTunnels env.kill references before).1 = .ok () := by
          rw [close_first_error env.kill references before distinct present, quiet]
        rw [done] at failed
        cases failed
      · have unchanged : (closeTunnels env.kill [other] before).2 = before := by
          simp [closeTunnels, absent]
        rw [unchanged]
        exact ⟨fun _ => rfl, rfl, unspawned⟩
  | statusResolved => cases failed
  | scheduled => cases failed

/-- A failed request leaves the state as it was if and only if no `close` it
makes meets a failing kill. -/
theorem failure_leaves_iff_kills_succeed (env : Env) (sender request : String) (daemon : Daemon) :
    FailureLeaves env sender request daemon ↔ KillsSucceed env sender request daemon := by
  constructor
  · intro leaves user command args allowed words isClose key tunnel held named
    cases failing : killSucceeds env.kill tunnel.process with
    | true => rfl
    | false =>
        obtain ⟨error, after, reference, failed, changed⟩ :=
          failing_kill_changes allowed words isClose held named failing
        exact absurd ((leaves error after failed).1 reference) changed
  · intro kills error after failed
    have handled := handle_request_handled env sender request daemon
    rw [failed] at handled
    exact handled_failure_leaves kills handled

theorem failed_close_removes : ¬ ∀ configuration status events daemon,
    Reaches configuration status events daemon →
    ∀ env sender request, FailureLeaves env sender request daemon := by
  intro leaves
  have failed : (handleRequest { fineEnv 0 with kill := fun _ => .error ⟨"kill"⟩ }
      alice.phoneNumber "close 0" oneOpen).1 = .err (.ioError ⟨"kill"⟩) := by decide +kernel
  have same := (leaves house readyStatus [aliceOpens] oneOpen
    (.next alice_opens_step (.refl _)) _ _ _ _ _ (Prod.ext failed rfl)).1 0
  exact absurd same (by decide +kernel)

end TelcoVecchio.FailedRequests
