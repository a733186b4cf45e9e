import TelcoVecchio.ProcessOwnership

/-!
What a `close` closes. The references are collected first and removed one by
one; the tunnels they stand for are those the user asked for, each with a
process of its own.
-/

namespace TelcoVecchio.TunnelClosing

open Common Request Service ProcessOwnership

def killCount (process : Child) (effects : List Effect) : Nat :=
  effects.countP fun effect =>
    match effect with
    | .killed killed _ => killed == process
    | _ => false

def Asked (user : User) (args : List String) (daemon : Daemon) (reference : UInt32)
    (tunnel : Tunnel) : Prop :=
  daemon.context.tunnels.lookup reference = some tunnel ∧ Named user args reference tunnel

structure ClosesOnly (user : User) (args : List String) (before after : Daemon) : Prop where
  shrinks : Shrinks before after
  status : after.context.status = before.context.status
  others : ∀ reference tunnel, before.context.tunnels.lookup reference = some tunnel →
    ¬ Named user args reference tunnel → after.context.tunnels.lookup reference = some tunnel

/-- A `close` that finds nothing to close fails and leaves everything as it
was. One whose kills succeed removes and kills the tunnels asked for, each
once. In any case the others stay. -/
structure ClosesExactly (kill : Child → Except IoError Unit) (user : User) (args : List String)
    (before : Daemon) (outcome : Outcome String) (after : Daemon) : Prop where
  configuration : after.context.configuration = before.context.configuration
  status : after.context.status = before.context.status
  others : ∀ reference tunnel, before.context.tunnels.lookup reference = some tunnel →
    ¬ Named user args reference tunnel → after.context.tunnels.lookup reference = some tunnel
  unused : ∀ reference, before.context.tunnels.lookup reference = none →
    after.context.tunnels.lookup reference = none
  nothingAsked : (∀ reference tunnel, ¬ Asked user args before reference tunnel) →
    (∃ error, outcome = .err error) ∧ after = before
  allClosed : (∃ reference tunnel, Asked user args before reference tunnel) →
    (∀ reference tunnel, Asked user args before reference tunnel →
      killSucceeds kill tunnel.process = true) →
    (∃ message, outcome = .ok message) ∧
    (∀ reference tunnel, Asked user args before reference tunnel →
      after.context.tunnels.lookup reference = none) ∧
    ∃ later, after.log = before.log ++ later ∧
      (∀ reference tunnel, Asked user args before reference tunnel →
        killCount tunnel.process later = 1) ∧
      ∀ process, (∀ reference tunnel, Asked user args before reference tunnel →
        tunnel.process ≠ process) → killCount process later = 0

def processes (tunnels : Tunnels) (references : List UInt32) : List Child :=
  references.filterMap fun reference => (tunnels.lookup reference).map Tunnel.process

def killAndDrop (process : Child) : List Effect := [.killed process true, .dropped process]

theorem kill_count_processes (process : Child) (closed : List Child) :
    killCount process (closed.flatMap killAndDrop) = closed.count process := by
  induction closed with
  | nil => rfl
  | cons first rest ih =>
      have front : killCount process (killAndDrop first) = if first == process then 1 else 0 := by
        simp [killCount, killAndDrop, List.countP_cons]
      rw [List.flatMap_cons, killCount, List.countP_append, List.count_cons]
      rw [killCount] at front ih
      rw [front, ih, Nat.add_comm]

section Closing
variable (kill : Child → Except IoError Unit)

theorem close_goes_on {reference : UInt32} {tunnel : Tunnel} {daemon : Daemon}
    (held : daemon.context.tunnels.lookup reference = some tunnel)
    (success : killSucceeds kill tunnel.process = true) (rest : List UInt32) :
    closeTunnels kill (reference :: rest) daemon =
        closeTunnels kill rest (daemon.remove reference (killEffect kill)) ∧
      (daemon.remove reference (killEffect kill)).log =
        daemon.log ++ killAndDrop tunnel.process := by
  constructor
  · cases killed : kill tunnel.process with
    | error error => simp [killSucceeds, killed] at success
    | ok _ => simp only [closeTunnels, held, killed]
  · simp [Daemon.remove, held, killEffect, success, killAndDrop]

theorem close_all (references : List UInt32) (daemon : Daemon) (distinct : references.Nodup)
    (present : ∀ reference ∈ references, ∃ tunnel,
      daemon.context.tunnels.lookup reference = some tunnel)
    (succeed : ∀ reference ∈ references, ∀ tunnel,
      daemon.context.tunnels.lookup reference = some tunnel →
        killSucceeds kill tunnel.process = true) :
    (closeTunnels kill references daemon).1 = .ok () ∧
    (∀ reference ∈ references,
      (closeTunnels kill references daemon).2.context.tunnels.lookup reference = none) ∧
    (closeTunnels kill references daemon).2.log = daemon.log ++
      (processes daemon.context.tunnels references).flatMap killAndDrop := by
  induction references generalizing daemon with
  | nil => exact ⟨rfl, nofun, by simp [closeTunnels, processes]⟩
  | cons reference rest ih =>
      rcases present reference List.mem_cons_self with ⟨tunnel, held⟩
      rcases List.nodup_cons.mp distinct with ⟨notLater, restDistinct⟩
      rcases close_goes_on kill held (succeed reference List.mem_cons_self tunnel held) rest with
        ⟨goesOn, log⟩
      have kept := remove_keeps notLater daemon (killEffect kill)
      have later := ih (daemon.remove reference (killEffect kill)) restDistinct
        (fun other member => by
          rw [kept other member]
          exact present other (List.mem_cons_of_mem _ member))
        (fun other member tunnel found => by
          rw [kept other member] at found
          exact succeed other (List.mem_cons_of_mem _ member) tunnel found)
      have gone : (daemon.remove reference (killEffect kill)).context.tunnels.lookup reference =
          none := by
        rw [remove_lookup, if_pos rfl]
      have same : processes (daemon.remove reference (killEffect kill)).context.tunnels rest =
          processes daemon.context.tunnels rest := by
        apply List.filterMap_congr
        intro other member
        rw [kept other member]
      have listed : processes daemon.context.tunnels (reference :: rest) =
          tunnel.process :: processes daemon.context.tunnels rest := by
        simp [processes, held]
      rw [goesOn]
      refine ⟨later.1, ?_, ?_⟩
      · intro other member
        rcases List.mem_cons.mp member with rfl | inRest
        · rw [(close_frame kill rest _).2 other notLater, gone]
        · exact later.2.1 other inRest
      · rw [later.2.2, log, same, listed, List.flatMap_cons, List.append_assoc]

end Closing

section Requests
variable {env : Env} {user : User} {args : List String} {daemon : Daemon}

theorem close_nothing
    (nothing : ∀ reference tunnel, ¬ Asked user args daemon reference tunnel) :
    (∃ error, (closeTunnel env user args daemon).1 = .err error) ∧
      (closeTunnel env user args daemon).2 = daemon := by
  cases listed : closeReferences env.tunnelOrder daemon.context.tunnels user args with
  | error error =>
      have refused : closeTunnel env user args daemon = (.err error, daemon) := by
        simp only [closeTunnel, listed]
      rw [refused]
      exact ⟨⟨error, rfl⟩, rfl⟩
  | ok references =>
      rcases close_references_cases _ _ _ _ _ listed with ⟨_, present⟩ | ⟨reference, rfl, absent⟩
      · exfalso
        rcases List.exists_mem_of_ne_nil _ (close_references_nonempty _ _ _ _ _ listed) with
          ⟨reference, member⟩
        rcases present reference member with ⟨tunnel, held⟩
        exact nothing reference tunnel
          ⟨held, (close_references_named _ _ _ _ _ listed reference tunnel held).mp member⟩
      · have refused : closeTunnel env user args daemon =
            (.err (.invalidRequestError ("Unknown tunnel reference: " ++ toString reference)),
              daemon) := by
          simp only [closeTunnel, listed, closeTunnels, absent, Outcome.bind]
        rw [refused]
        exact ⟨⟨_, rfl⟩, rfl⟩

theorem asked_iff {references : List UInt32}
    (listed : closeReferences env.tunnelOrder daemon.context.tunnels user args = .ok references)
    (reference : UInt32) (tunnel : Tunnel) :
    Asked user args daemon reference tunnel ↔
      reference ∈ references ∧ daemon.context.tunnels.lookup reference = some tunnel := by
  constructor
  · rintro ⟨held, named⟩
    exact ⟨(close_references_named _ _ _ _ _ listed reference tunnel held).mpr named, held⟩
  · rintro ⟨member, held⟩
    exact ⟨held, (close_references_named _ _ _ _ _ listed reference tunnel held).mp member⟩

theorem processes_nodup (owned : Owned daemon) {references : List UInt32}
    (distinct : references.Nodup) : (processes daemon.context.tunnels references).Nodup := by
  apply distinct.filterMap
  intro first second process inFirst inSecond
  rcases Option.map_eq_some_iff.mp inFirst with ⟨left, heldLeft, rfl⟩
  rcases Option.map_eq_some_iff.mp inSecond with ⟨right, heldRight, same⟩
  exact owned.single first second left right heldLeft heldRight same.symm

theorem close_asked (owned : Owned daemon)
    (asked : ∃ reference tunnel, Asked user args daemon reference tunnel)
    (succeed : ∀ reference tunnel, Asked user args daemon reference tunnel →
      killSucceeds env.kill tunnel.process = true) :
    (∃ message, (closeTunnel env user args daemon).1 = .ok message) ∧
    (∀ reference tunnel, Asked user args daemon reference tunnel →
      (closeTunnel env user args daemon).2.context.tunnels.lookup reference = none) ∧
    ∃ later, (closeTunnel env user args daemon).2.log = daemon.log ++ later ∧
      (∀ reference tunnel, Asked user args daemon reference tunnel →
        killCount tunnel.process later = 1) ∧
      ∀ process, (∀ reference tunnel, Asked user args daemon reference tunnel →
        tunnel.process ≠ process) → killCount process later = 0 := by
  rcases asked with ⟨someReference, someTunnel, someHeld, someNamed⟩
  rcases close_references_of_named env.tunnelOrder _ user args _ _ someHeld someNamed with
    ⟨references, listed⟩
  have asked := asked_iff listed
  rcases close_references_cases _ _ _ _ _ listed with ⟨distinct, present⟩ | ⟨reference, rfl, absent⟩
  · rcases close_all env.kill references daemon distinct present
      (fun reference member tunnel held =>
        succeed reference tunnel ((asked reference tunnel).mpr ⟨member, held⟩)) with
      ⟨done, gone, log⟩
    have closed : closeTunnel env user args daemon =
        (.ok (closeMessage references), (closeTunnels env.kill references daemon).2) := by
      simp only [closeTunnel, listed, done, Outcome.bind]
    have once := processes_nodup owned distinct
    have inProcesses (process : Child) :
        process ∈ processes daemon.context.tunnels references ↔
          ∃ reference tunnel, Asked user args daemon reference tunnel ∧
            tunnel.process = process := by
      simp only [processes, List.mem_filterMap, Option.map_eq_some_iff, asked]
      constructor
      · rintro ⟨reference, member, tunnel, held, same⟩
        exact ⟨reference, tunnel, ⟨member, held⟩, same⟩
      · rintro ⟨reference, tunnel, ⟨member, held⟩, same⟩
        exact ⟨reference, member, tunnel, held, same⟩
    rw [closed]
    refine ⟨⟨_, rfl⟩, ?_, _, log, ?_, ?_⟩
    · intro reference tunnel named
      exact gone reference ((asked reference tunnel).mp named).1
    · intro reference tunnel named
      rw [kill_count_processes]
      exact List.count_eq_one_of_mem once ((inProcesses _).mpr ⟨reference, tunnel, named, rfl⟩)
    · intro process other
      rw [kill_count_processes, List.count_eq_zero]
      intro member
      rcases (inProcesses process).mp member with ⟨reference, tunnel, named, same⟩
      exact other reference tunnel named same
  · have member := ((asked someReference someTunnel).mp ⟨someHeld, someNamed⟩).1
    rw [List.mem_singleton.mp member, absent] at someHeld
    cases someHeld

theorem closes_only {references : List UInt32}
    (named : closeReferences env.tunnelOrder daemon.context.tunnels user args = .ok references) :
    ClosesOnly user args daemon (closeTunnels env.kill references daemon).2 := by
  rcases close_frame env.kill references daemon with ⟨status, frame⟩
  refine ⟨close_shrinks env.kill references daemon, status, ?_⟩
  intro reference tunnel held other
  have apart : reference ∉ references := fun member =>
    other ((close_references_named _ _ _ _ _ named reference tunnel held).mp member)
  rw [frame reference apart, held]

theorem close_others (env : Env) (user : User) (args : List String) (daemon : Daemon) :
    ClosesOnly user args daemon (closeTunnel env user args daemon).2 := by
  cases listed : closeReferences env.tunnelOrder daemon.context.tunnels user args with
  | error error =>
      simp only [closeTunnel, listed]
      exact ⟨shrinks_refl daemon, rfl, fun _ _ held _ => held⟩
  | ok references =>
      simp only [closeTunnel, listed]
      exact closes_only listed

end Requests

/-- In every reachable state, a `close` by an allowed user closes exactly the
tunnels that it asks for. -/
theorem close_exact (configuration : Configuration) (status : Status) (events : List Event)
    (daemon : Daemon) (run : Reaches configuration status events daemon)
    (env : Env) (sender request : String) (user : User) (command : String) (args : List String)
    (allowed : senderUser daemon.context.configuration sender = some user)
    (words : RustText.splitWhitespace request = command :: args)
    (isClose : commandWord command = "close") :
    ClosesExactly env.kill user args daemon (handleRequest env sender request daemon).1
      (handleRequest env sender request daemon).2 := by
  rw [handle_close env sender request daemon user command args allowed words isClose]
  rcases close_others env user args daemon with ⟨shrinks, sameStatus, others⟩
  refine ⟨shrinks.configuration, sameStatus, others, ?_, close_nothing,
    close_asked (reaches_owned run)⟩
  intro reference free
  cases found : (closeTunnel env user args daemon).2.context.tunnels.lookup reference with
  | none => rfl
  | some tunnel =>
      have before := shrinks.held reference tunnel found
      rw [free] at before
      cases before

theorem alice_closes_first :
    ClosesExactly (fineEnv 0).kill alice ["0"] twoOpen
      (handleRequest (fineEnv 0) alice.phoneNumber "close 0" twoOpen).1
      (handleRequest (fineEnv 0) alice.phoneNumber "close 0" twoOpen).2 :=
  close_exact house readyStatus _ twoOpen two_open_reached (fineEnv 0) alice.phoneNumber "close 0"
    alice "close" ["0"] (by decide +kernel) (by decide +kernel) (by decide)

end TelcoVecchio.TunnelClosing
