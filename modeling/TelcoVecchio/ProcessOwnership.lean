import TelcoVecchio.Service

/-!
Who holds the ssh processes. Every process that was spawned and has not ended
belongs to one entry of the tunnel table, whatever way the events end, so the
limit on the table is a limit on the processes.
-/

namespace TelcoVecchio.ProcessOwnership

open Common Request Service

/-- The ownership part of the invariant. Handles are numbered by their spawns,
which keeps the next one apart from everything known so far. -/
structure Owned (daemon : Daemon) : Prop where
  liveSpawned : ∀ process ∈ live daemon.log, process.pid < (nextChild daemon.log).pid
  heldSpawned : ∀ key tunnel, daemon.context.tunnels.lookup key = some tunnel →
    tunnel.process.pid < (nextChild daemon.log).pid
  liveOnce : (live daemon.log).Nodup
  owner : ∀ process ∈ live daemon.log, ∃ key tunnel,
    daemon.context.tunnels.lookup key = some tunnel ∧ tunnel.process = process
  single : ∀ first second left right, daemon.context.tunnels.lookup first = some left →
    daemon.context.tunnels.lookup second = some right → left.process = right.process →
    first = second

theorem start_owned (configuration : Configuration) (status : Status) :
    Owned (Daemon.start configuration status) := by
  constructor <;> simp [Daemon.start, Context.new]

theorem next_child_mono (log later : List Effect) :
    (nextChild log).pid ≤ (nextChild (log ++ later)).pid := by
  simp [nextChild, List.countP_append]

theorem owned_of_shrinks {before after : Daemon} (owned : Owned before)
    (spawns : (nextChild before.log).pid ≤ (nextChild after.log).pid)
    (ended : (live after.log).Sublist (live before.log)) (shrinks : Shrinks before after)
    (kept : ∀ key tunnel, before.context.tunnels.lookup key = some tunnel →
      tunnel.process ∈ live after.log → after.context.tunnels.lookup key = some tunnel) :
    Owned after where
  liveSpawned := fun process member =>
    (owned.liveSpawned process (ended.subset member)).trans_le spawns
  heldSpawned := fun key tunnel held =>
    (owned.heldSpawned key tunnel (shrinks.held key tunnel held)).trans_le spawns
  liveOnce := owned.liveOnce.sublist ended
  owner := by
    intro process member
    obtain ⟨key, tunnel, held, rfl⟩ := owned.owner process (ended.subset member)
    exact ⟨key, tunnel, kept key tunnel held member, rfl⟩
  single := fun first second left right heldLeft heldRight =>
    owned.single first second left right (shrinks.held first left heldLeft)
      (shrinks.held second right heldRight)

theorem record_owned {daemon : Daemon} (owned : Owned daemon) (effects : List Effect)
    (quiet : ∀ effect ∈ effects, isSpawn effect = false) : Owned (daemon.record effects) :=
  owned_of_shrinks owned (next_child_mono _ _) (live_sublist _ _ quiet)
    (shrinks_of_context rfl rfl) (fun _ _ held _ => held)

theorem remove_owned {daemon : Daemon} (owned : Owned daemon) (reference : UInt32)
    (used : Tunnel → List Effect)
    (quiet : ∀ tunnel, ∀ effect ∈ used tunnel, isSpawn effect = false) :
    Owned (daemon.remove reference used) := by
  cases found : daemon.context.tunnels.lookup reference with
  | none => simpa [Daemon.remove, found] using owned
  | some removed =>
      have log : (daemon.remove reference used).log =
          (daemon.log ++ used removed) ++ [.dropped removed.process] := by
        simp [Daemon.remove, found]
      have survivors : live (daemon.remove reference used).log =
          (live (daemon.log ++ used removed)).filter (· ≠ removed.process) := by
        rw [log, live_dropped]
      apply owned_of_shrinks owned
      · rw [log, List.append_assoc]
        exact next_child_mono _ _
      · rw [survivors]
        exact List.filter_sublist.trans (live_sublist _ _ (quiet removed))
      · exact remove_shrinks daemon reference used
      · intro key tunnel held alive
        rw [remove_lookup]
        split
        · next same =>
            -- the removed tunnel's process is dropped
            rw [same, found] at held
            cases held
            simp [survivors] at alive
        · exact held

theorem close_owned {daemon : Daemon} (owned : Owned daemon)
    (kill : Child → Except IoError Unit) (references : List UInt32) :
    Owned (closeTunnels kill references daemon).2 := by
  induction references generalizing daemon with
  | nil => exact owned
  | cons reference rest ih =>
      have removed : Owned (daemon.remove reference (killEffect kill)) :=
        remove_owned owned reference (killEffect kill) (by simp [killEffect, isSpawn])
      simp only [closeTunnels]
      split
      · exact owned
      · split
        · exact removed
        · exact ih removed

theorem remove_tunnels_owned {daemon : Daemon} (owned : Owned daemon) (references : List UInt32) :
    Owned (removeTunnels references daemon) := by
  induction references generalizing daemon with
  | nil => exact owned
  | cons reference rest ih =>
      exact ih (remove_owned owned reference (fun _ => []) (by simp))

theorem visit_quiet (calls : CleanUpCalls) (now : Nat)
    (configuration : Configuration) (entries : List TunnelEntry) :
    ∀ effect ∈ (visitTunnels calls now configuration entries).2, isSpawn effect = false := by
  intro effect listed
  obtain ⟨entry, _, rfl | notified⟩ := visit_effect calls now configuration entries effect listed
  · rfl
  · obtain ⟨user, _, rfl⟩ := expiry_notification_sent configuration entry effect notified
    rfl

theorem clean_up_owned {daemon : Daemon} (owned : Owned daemon) (now : Nat)
    (order : Order TunnelEntry) (calls : CleanUpCalls) :
    Owned (cleanUpExpiredTunnels now order calls daemon).2 := by
  have recorded := record_owned owned _ (visit_quiet calls now daemon.context.configuration
    (order.arrange daemon.context.tunnels.entries))
  simp only [cleanUpExpiredTunnels]
  split
  · exact recorded
  · exact remove_tunnels_owned recorded _

theorem live_spawned_dropped {daemon : Daemon} (owned : Owned daemon) (first middle : List Effect)
    (quietFirst : ∀ effect ∈ first, isSpawn effect = false)
    (quietMiddle : ∀ effect ∈ middle, isSpawn effect = false) :
    (live (daemon.log ++ (first ++ .spawned (nextChild daemon.log) :: middle ++
      [.dropped (nextChild daemon.log)]))).Sublist (live daemon.log) := by
  have shape : daemon.log ++ (first ++ .spawned (nextChild daemon.log) :: middle ++
      [.dropped (nextChild daemon.log)]) = (((daemon.log ++ first) ++
        [.spawned (nextChild daemon.log)]) ++ middle) ++ [.dropped (nextChild daemon.log)] := by
    simp
  have fresh : ∀ process ∈ live (daemon.log ++ first), process ≠ nextChild daemon.log := by
    intro process member same
    have older := owned.liveSpawned process ((live_sublist _ _ quietFirst).subset member)
    rw [same] at older
    exact lt_irrefl _ older
  rw [shape, live_dropped]
  -- the filter of the drop takes away exactly what the spawn added
  have spawned := live_sublist (daemon.log ++ first ++ [.spawned (nextChild daemon.log)]) middle
    quietMiddle
  rw [live_spawned] at spawned
  have rest : ((nextChild daemon.log :: live (daemon.log ++ first)).filter
      (· ≠ nextChild daemon.log)) = live (daemon.log ++ first) := by
    rw [List.filter_cons_of_neg (by simp)]
    exact List.filter_eq_self.mpr fun process member => by simpa using fresh process member
  have cut := spawned.filter (· ≠ nextChild daemon.log)
  rw [rest] at cut
  exact cut.trans (live_sublist _ _ quietFirst)

theorem spawned_dropped_owned {daemon : Daemon} (owned : Owned daemon) (first middle : List Effect)
    (quietFirst : ∀ effect ∈ first, isSpawn effect = false)
    (quietMiddle : ∀ effect ∈ middle, isSpawn effect = false) :
    Owned (daemon.record (first ++ .spawned (nextChild daemon.log) :: middle ++
      [.dropped (nextChild daemon.log)])) :=
  owned_of_shrinks owned (next_child_mono _ _)
    (live_spawned_dropped owned first middle quietFirst quietMiddle)
    (shrinks_of_context rfl rfl) (fun _ _ held _ => held)

/-- The log of a completed `open`: the new process is spawned, and a tunnel
found under the reference is dropped for it. -/
theorem with_tunnel_log (env : Env) (user : User) (application : Application) (url : String)
    (daemon : Daemon) :
    ∃ later, (withTunnel env user application url daemon).log = daemon.log ++
        ([.setupCalled application.hostIp application.port, .spawned (nextChild daemon.log),
          urlMail user application (url ++ application.endPoint)] ++ later) ∧
      ((daemon.context.tunnels.lookup (nextReference daemon.context.tunnels) = none ∧ later = []) ∨
        ∃ replaced, daemon.context.tunnels.lookup (nextReference daemon.context.tunnels) =
          some replaced ∧ later = [.dropped replaced.process]) := by
  cases found : daemon.context.tunnels.lookup (nextReference daemon.context.tunnels) with
  | none => exact ⟨[], by simp [withTunnel, Daemon.insert, found], Or.inl ⟨rfl, rfl⟩⟩
  | some replaced =>
      exact ⟨[.dropped replaced.process], by simp [withTunnel, Daemon.insert, found],
        Or.inr ⟨replaced, rfl, rfl⟩⟩

theorem with_tunnel_live (env : Env) (user : User) (application : Application) (url : String)
    (daemon : Daemon) :
    (live (withTunnel env user application url daemon).log).Sublist
      (nextChild daemon.log :: live daemon.log) := by
  obtain ⟨later, log, found⟩ := with_tunnel_log env user application url daemon
  have quiet : ∀ effect ∈ urlMail user application (url ++ application.endPoint) :: later,
      isSpawn effect = false := by
    rcases found with ⟨_, rfl⟩ | ⟨replaced, _, rfl⟩ <;> simp [urlMail, isSpawn]
  have shape : (withTunnel env user application url daemon).log =
      ((daemon.log ++ [.setupCalled application.hostIp application.port]) ++
        [.spawned (nextChild daemon.log)]) ++
          (urlMail user application (url ++ application.endPoint) :: later) := by
    rw [log]
    simp
  have setup : (live (daemon.log ++ [.setupCalled application.hostIp application.port])).Sublist
      (live daemon.log) := live_sublist _ _ (by simp [isSpawn])
  have spawned := live_sublist (daemon.log ++
    [.setupCalled application.hostIp application.port] ++ [.spawned (nextChild daemon.log)])
    (urlMail user application (url ++ application.endPoint) :: later) quiet
  rw [live_spawned] at spawned
  rw [shape]
  exact spawned.trans (setup.cons_cons _)

theorem with_tunnel_replaced (env : Env) (user : User) (application : Application) (url : String)
    (daemon : Daemon) (tunnel : Tunnel)
    (held : daemon.context.tunnels.lookup (nextReference daemon.context.tunnels) = some tunnel) :
    tunnel.process ∉ live (withTunnel env user application url daemon).log := by
  obtain ⟨later, log, ⟨absent, _⟩ | ⟨replaced, present, rfl⟩⟩ :=
    with_tunnel_log env user application url daemon
  · rw [held] at absent
    cases absent
  · rw [held] at present
    cases present
    rw [log, ← List.append_assoc, live_dropped]
    simp

theorem opened_owned {daemon : Daemon} (owned : Owned daemon) (env : Env) (user : User)
    (application : Application) (url : String) :
    Owned (withTunnel env user application url daemon) := by
  have lookups := with_tunnel_lookup env user application url daemon
  have spawns : (nextChild daemon.log).pid <
      (nextChild (withTunnel env user application url daemon).log).pid := by
    obtain ⟨later, log, _⟩ := with_tunnel_log env user application url daemon
    rw [log]
    simp only [nextChild, List.countP_append, List.countP_cons, isSpawn, urlMail]
    simp
  have alive := with_tunnel_live env user application url daemon
  have fresh : ∀ key tunnel, daemon.context.tunnels.lookup key = some tunnel →
      tunnel.process ≠ nextChild daemon.log := by
    intro key tunnel held same
    have older := owned.heldSpawned key tunnel held
    rw [same] at older
    exact lt_irrefl _ older
  refine ⟨?_, ?_, ?_, ?_, ?_⟩
  · intro process member
    rcases List.mem_cons.mp (alive.subset member) with rfl | older
    · exact spawns
    · exact (owned.liveSpawned process older).trans spawns
  · intro key tunnel held
    rw [lookups] at held
    split at held
    · cases held
      exact spawns
    · exact (owned.heldSpawned key tunnel held).trans spawns
  -- the new handle is numbered past all live ones
  · have once : (nextChild daemon.log :: live daemon.log).Nodup :=
      List.nodup_cons.mpr ⟨fun member => lt_irrefl _ (owned.liveSpawned _ member), owned.liveOnce⟩
    exact once.sublist alive
  · intro process member
    rcases List.mem_cons.mp (alive.subset member) with rfl | older
    · exact ⟨nextReference daemon.context.tunnels, newTunnel env user application daemon,
        by rw [lookups, if_pos rfl], rfl⟩
    · obtain ⟨key, tunnel, held, rfl⟩ := owned.owner process older
      -- an owner under the new reference was replaced, hence dropped and not live
      have other : key ≠ nextReference daemon.context.tunnels := by
        rintro rfl
        exact with_tunnel_replaced env user application url daemon tunnel held member
      exact ⟨key, tunnel, by rw [lookups, if_neg other, held], rfl⟩
  · intro first second left right heldLeft heldRight same
    rw [lookups] at heldLeft heldRight
    split at heldLeft <;> split at heldRight
    · next isFirst isSecond => exact isFirst.trans isSecond.symm
    · cases heldLeft
      exact absurd same.symm (fresh second right heldRight)
    · cases heldRight
      exact absurd same (fresh first left heldLeft)
    · exact owned.single first second left right heldLeft heldRight same

theorem handled_owned {env : Env} {sender request : String} {before after : Daemon}
    {outcome : Outcome String} (owned : Owned before)
    (handled : Handled env sender request before outcome after) (returned : Returned outcome) :
    Owned after := by
  cases handled with
  | notAllowed | rejected => exact owned
  | setupEnded user application applicationStr outcome effects _ _ _ ended =>
      rcases ended with rfl | rfl | ⟨rfl, _⟩
      · exact record_owned owned _ (by simp [isSpawn])
      · exact spawned_dropped_owned owned [.setupCalled _ _] [] (by simp [isSpawn]) (by simp)
      · exact returned.elim
  | emailFailed user application _ url =>
      exact spawned_dropped_owned owned [.setupCalled _ _] [urlMail user application url]
        (by simp [isSpawn]) (by simp [urlMail, isSpawn])
  | opened user application _ url => exact opened_owned owned env user application url
  | closed _ _ _ references => exact close_owned owned env.kill references
  | statusResolved =>
      exact owned_of_shrinks owned le_rfl (List.Sublist.refl _) (shrinks_of_context rfl rfl)
        (fun _ _ held _ => held)
  | statusEnded => exact owned
  | scheduled user message effects _ choice =>
      rcases choice with ⟨_, rfl⟩ | ⟨_, rfl⟩ <;> exact record_owned owned _ (by simp [isSpawn])

theorem step_owned {before after : Daemon} {event : Event} (step : Step before event after)
    (owned : Owned before) : Owned after := by
  obtain ⟨returned, rfl⟩ := step
  cases event with
  | request env sender request =>
      exact handled_owned owned (handle_request_handled env sender request before) returned
  | cleanUp now order calls => exact clean_up_owned owned now order calls
  | processExit process => exact record_owned owned _ (by simp [isSpawn])

theorem reaches_owned {configuration : Configuration} {status : Status} {events : List Event}
    {daemon : Daemon} (run : Reaches configuration status events daemon) : Owned daemon :=
  LabelledRun.run_invariant Owned (fun _ _ _ step owned => step_owned step owned) run
    (start_owned configuration status)

theorem count_le_keys (tunnels : Tunnels) (keys : List UInt32)
    (listed : ∀ key tunnel, tunnels.lookup key = some tunnel → key ∈ keys) :
    tunnelCount tunnels ≤ keys.length := by
  have subset : tunnels.keys ⊆ keys := by
    intro key member
    obtain ⟨tunnel, held⟩ := Option.isSome_iff_exists.mp (AList.lookup_isSome.mpr member)
    exact listed key tunnel held
  simpa [tunnelCount, AList.keys, List.keys] using
    (List.subperm_of_subset tunnels.keys_nodup subset).length_le

theorem keys_length (tunnels : Tunnels) : tunnels.keys.length = tunnelCount tunnels := by
  simp [tunnelCount, AList.keys, List.keys]

def WithinLimit (daemon : Daemon) : Prop :=
  ∀ max, daemon.context.configuration.sshConfig.tunnelMaxNumber = some max →
    tunnelCount daemon.context.tunnels ≤ max.toNat

theorem shrinks_within_limit {before after : Daemon} (shrinks : Shrinks before after)
    (within : WithinLimit before) : WithinLimit after := by
  intro max limited
  rw [shrinks.configuration] at limited
  have fewer := count_le_keys after.context.tunnels before.context.tunnels.keys
    fun key tunnel held => AList.lookup_isSome.mp (by simp [shrinks.held key tunnel held])
  rw [keys_length] at fewer
  exact fewer.trans (within max limited)

theorem step_within_limit {before after : Daemon} {event : Event}
    (step : Step before event after) (within : WithinLimit before) : WithinLimit after := by
  rcases step_table_change step with shrinks | ⟨env, change⟩
  · exact shrinks_within_limit shrinks within
  · cases change with
    | removals shrinks => exact shrinks_within_limit shrinks within
    | insertion user application applicationStr _ admitted configuration lookups =>
        intro max limited
        rw [configuration] at limited
        have room := admitted.belowLimit max limited
        have one := count_le_keys after.context.tunnels
          (nextReference before.context.tunnels :: before.context.tunnels.keys) <| by
            intro key tunnel held
            rw [lookups] at held
            split at held
            · next same => exact same ▸ List.mem_cons_self
            · exact List.mem_cons_of_mem _ (AList.lookup_isSome.mp (by simp [held]))
        rw [List.length_cons, keys_length] at one
        omega

theorem reaches_within_limit {configuration : Configuration} {status : Status}
    {events : List Event} {daemon : Daemon} (run : Reaches configuration status events daemon) :
    WithinLimit daemon :=
  LabelledRun.run_invariant WithinLimit (fun _ _ _ step within => step_within_limit step within)
    run (fun _ _ => Nat.zero_le _)

theorem live_le_count {daemon : Daemon} (owned : Owned daemon) :
    (live daemon.log).length ≤ tunnelCount daemon.context.tunnels := by
  have subset : live daemon.log ⊆
      daemon.context.tunnels.entries.map fun entry => entry.2.process := by
    intro process member
    obtain ⟨key, tunnel, held, rfl⟩ := owned.owner process member
    exact List.mem_map_of_mem (f := fun entry : TunnelEntry => entry.2.process)
      (AList.mem_lookup_iff.mp held)
  simpa [tunnelCount] using (List.subperm_of_subset owned.liveOnce subset).length_le

def Appends (spawns : Nat) (before after : Daemon) : Prop :=
  ∃ later, after.log = before.log ++ later ∧ later.countP isSpawn ≤ spawns

theorem appends_refl (spawns : Nat) (daemon : Daemon) : Appends spawns daemon daemon :=
  ⟨[], by simp, by simp⟩

theorem appends_of_adds {before after : Daemon}
    (adds : Adds (fun effect => isSpawn effect = false) before after) : Appends 0 before after := by
  obtain ⟨later, log, quiet⟩ := adds
  refine ⟨later, log, (List.countP_eq_zero.mpr fun effect listed => ?_).le⟩
  simp [quiet effect listed]

theorem record_appends (spawns : Nat) (daemon : Daemon) (effects : List Effect)
    (few : effects.countP isSpawn ≤ spawns) : Appends spawns daemon (daemon.record effects) :=
  ⟨effects, rfl, few⟩

theorem close_appends (kill : Child → Except IoError Unit) (references : List UInt32)
    (daemon : Daemon) : Appends 0 daemon (closeTunnels kill references daemon).2 :=
  appends_of_adds (close_adds (fun _ => rfl) (fun _ _ => rfl) kill references daemon)

theorem clean_up_appends (now : Nat) (order : Order TunnelEntry)
    (calls : CleanUpCalls) (daemon : Daemon) :
    Appends 0 daemon (cleanUpExpiredTunnels now order calls daemon).2 := by
  apply appends_of_adds
  apply clean_up_adds now order calls daemon (fun _ => rfl) (fun _ _ => rfl)
  intro key tunnel _ effect listed
  obtain ⟨user, _, rfl⟩ := expiry_notification_sent _ _ effect listed
  rfl

/-- Only an admitted `open` spawns, and it spawns once. -/
theorem handled_appends {env : Env} {sender request : String} {before after : Daemon}
    {outcome : Outcome String} (handled : Handled env sender request before outcome after) :
    Appends 0 before after ∨ (Appends 1 before after ∧ ∃ user applicationStr application,
      Admitted before.context user applicationStr application) := by
  cases handled with
  | notAllowed | rejected | statusEnded => exact Or.inl (appends_refl 0 before)
  | setupEnded user application applicationStr outcome effects _ admitted _ ended =>
      refine Or.inr ⟨record_appends 1 before effects ?_, user, applicationStr, application, admitted⟩
      rcases ended with rfl | rfl | ⟨_, rfl⟩
      · exact Nat.zero_le 1
      · exact Nat.le_refl 1
      · exact Nat.le_refl 1
  | emailFailed user application applicationStr url error _ admitted =>
      exact Or.inr ⟨record_appends 1 before _ (Nat.le_refl 1),
        user, applicationStr, application, admitted⟩
  | opened user application applicationStr url _ admitted =>
      obtain ⟨later, log, found⟩ := with_tunnel_log env user application url before
      refine Or.inr ⟨⟨_, log, ?_⟩, user, applicationStr, application, admitted⟩
      rcases found with ⟨_, rfl⟩ | ⟨replaced, _, rfl⟩
      · exact Nat.le_refl 1
      · exact Nat.le_refl 1
  | closed _ _ _ references => exact Or.inl (close_appends env.kill references before)
  | statusResolved => exact Or.inl ⟨[], by simp, by simp⟩
  | scheduled user message effects _ choice =>
      refine Or.inl (record_appends 0 before effects ?_)
      rcases choice with ⟨_, rfl⟩ | ⟨_, rfl⟩ <;> simp [isSpawn]

theorem serve_appends (before : Daemon) (event : Event) :
    Appends 0 before (serve before event) ∨ (Appends 1 before (serve before event) ∧
      ∃ user applicationStr application,
        Admitted before.context user applicationStr application) := by
  cases event with
  | request env sender request =>
      exact handled_appends (handle_request_handled env sender request before)
  | cleanUp now order calls => exact Or.inl (clean_up_appends now order calls before)
  | processExit process => exact Or.inl (record_appends 0 before _ (by simp [isSpawn]))

/-- At no moment of the history up to now were more processes live than allowed. -/
def PeakWithin (max : Nat) (daemon : Daemon) : Prop :=
  ∀ moment, moment <+: daemon.log → (live moment).length ≤ max

theorem moment_live_le {spawns : Nat} {before after : Daemon}
    (appends : Appends spawns before after) (moment : List Effect)
    (reached : moment <+: after.log) :
    moment <+: before.log ∨ (live moment).length ≤ (live before.log).length + spawns := by
  obtain ⟨later, log, few⟩ := appends
  rw [log] at reached
  -- a moment lies in the old history or inside the new step
  rcases List.prefix_or_prefix_of_prefix reached (List.prefix_append before.log later) with
    earlier | ⟨part, rfl⟩
  · exact Or.inl earlier
  · have isPart := (List.prefix_append_right_inj before.log).mp reached
    have grown := live_length_le before.log part
    have fewer := isPart.sublist.countP_le (p := isSpawn)
    exact Or.inr (by omega)

theorem serve_peak {before : Daemon} {limit : UInt32} (event : Event) (owned : Owned before)
    (within : WithinLimit before) (peak : PeakWithin limit.toNat before)
    (limited : before.context.configuration.sshConfig.tunnelMaxNumber = some limit) :
    PeakWithin limit.toNat (serve before event) := by
  have held := live_le_count owned
  have room := within limit limited
  intro moment reached
  rcases serve_appends before event with quiet | ⟨spawning, _, _, _, admitted⟩
  · rcases moment_live_le quiet moment reached with earlier | few
    · exact peak moment earlier
    · omega
  · have below := admitted.belowLimit limit limited
    rcases moment_live_le spawning moment reached with earlier | few
    · exact peak moment earlier
    · omega

theorem reaches_peak {configuration : Configuration} {status : Status} {events : List Event}
    {daemon : Daemon} (run : Reaches configuration status events daemon) {limit : UInt32}
    (limited : configuration.sshConfig.tunnelMaxNumber = some limit) :
    PeakWithin limit.toNat daemon := by
  have invariant := LabelledRun.run_invariant
    (fun daemon => daemon.context.configuration = configuration ∧ Owned daemon ∧
      WithinLimit daemon ∧ PeakWithin limit.toNat daemon)
    (fun before event after step ⟨same, owned, within, peak⟩ =>
      ⟨(step_configuration step).trans same, step_owned step owned, step_within_limit step within,
        step.2 ▸ serve_peak event owned within peak (same ▸ limited)⟩) run
    ⟨rfl, start_owned configuration status, fun _ _ => Nat.zero_le _, by
      intro moment reached
      simp [List.prefix_nil.mp reached]⟩
  exact invariant.2.2.2

/-- In every reachable state a live process belongs to exactly one entry, and
the limit bounds the table, the live processes, and the processes live at any
moment of the event that comes next. -/
theorem processes_owned_within_limit (configuration : Configuration) (status : Status)
    (events : List Event) (daemon : Daemon)
    (run : Reaches configuration status events daemon) :
    (∀ process ∈ live daemon.log, ∃! key, ∃ tunnel,
      daemon.context.tunnels.lookup key = some tunnel ∧ tunnel.process = process) ∧
    ∀ max, configuration.sshConfig.tunnelMaxNumber = some max →
      tunnelCount daemon.context.tunnels ≤ max.toNat ∧
      (live daemon.log).length ≤ max.toNat ∧
      ∀ event moment, moment <+: (serve daemon event).log → (live moment).length ≤ max.toNat := by
  have owned := reaches_owned run
  have same := reaches_configuration run
  refine ⟨?_, ?_⟩
  · intro process member
    obtain ⟨key, tunnel, held, rfl⟩ := owned.owner process member
    refine ⟨key, ⟨tunnel, held, rfl⟩, ?_⟩
    rintro other ⟨second, heldSecond, sameProcess⟩
    exact owned.single other key second tunnel heldSecond held sameProcess
  · intro max limited
    have within := reaches_within_limit run
    have limitedNow : daemon.context.configuration.sshConfig.tunnelMaxNumber = some max :=
      same ▸ limited
    refine ⟨within max limitedNow, (live_le_count owned).trans (within max limitedNow), ?_⟩
    intro event
    exact serve_peak event owned within (reaches_peak run limited) limitedNow

theorem two_open_owned_within_limit :
    (∀ process ∈ live twoOpen.log, ∃! key, ∃ tunnel,
      twoOpen.context.tunnels.lookup key = some tunnel ∧ tunnel.process = process) ∧
    (live twoOpen.log).length ≤ 2 := by
  obtain ⟨owned, limited⟩ :=
    processes_owned_within_limit house readyStatus _ twoOpen two_open_reached
  exact ⟨owned, (limited 2 rfl).2.1⟩

end TelcoVecchio.ProcessOwnership
