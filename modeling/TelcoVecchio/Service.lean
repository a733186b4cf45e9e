import TelcoVecchio.LabelledRun
import TelcoVecchio.Request

/-!
The daemon between two waits: requests, cleanings and the spontaneous ends of
ssh processes, in any order. A request or a cleaning that returns leads to the
next state, with a value or with an error; after a panic the daemon is gone,
and a call that never returns leads nowhere.
-/

namespace TelcoVecchio.Service

open Common Status SshUtils Request

inductive Event where
  | request (env : Env) (sender request : String)
  | cleanUp (now : Nat) (order : Order TunnelEntry) (calls : CleanUpCalls)
  | processExit (process : Child)

def Returned {Value : Type} : Outcome Value → Prop
  | .ok _ | .err _ => True
  | .panic | .stuck => False

def serve (daemon : Daemon) : Event → Daemon
  | .request env sender request => (handleRequest env sender request daemon).2
  | .cleanUp now order calls => (cleanUpExpiredTunnels now order calls daemon).2
  | .processExit process => daemon.record [.exited process]

def Returns (daemon : Daemon) : Event → Prop
  | .request env sender request => Returned (handleRequest env sender request daemon).1
  | .cleanUp now order calls => Returned (cleanUpExpiredTunnels now order calls daemon).1
  | .processExit _ => True

def Step (before : Daemon) (event : Event) (after : Daemon) : Prop :=
  Returns before event ∧ serve before event = after

/-- Runs of any events from the empty table of `Context::new`. -/
def Reaches (configuration : Configuration) (status : Status) (events : List Event)
    (daemon : Daemon) : Prop :=
  LabelledRun.Run Step (Daemon.start configuration status) events daemon

theorem remove_lookup (daemon : Daemon) (reference key : UInt32) (used : Tunnel → List Effect) :
    (daemon.remove reference used).context.tunnels.lookup key =
      if key = reference then none else daemon.context.tunnels.lookup key := by
  cases held : daemon.context.tunnels.lookup reference with
  | none =>
      by_cases same : key = reference
      · subst key
        simp [Daemon.remove, held]
      · simp [Daemon.remove, held, same]
  | some tunnel =>
      by_cases same : key = reference
      · subst key
        simp [Daemon.remove, held]
      · simp [Daemon.remove, held, same]

theorem remove_keeps {reference : UInt32} {references : List UInt32} (apart : reference ∉ references)
    (daemon : Daemon) (used : Tunnel → List Effect) :
    ∀ other ∈ references, (daemon.remove reference used).context.tunnels.lookup other =
      daemon.context.tunnels.lookup other := by
  intro other member
  have differs : other ≠ reference := fun same => apart (same ▸ member)
  rw [remove_lookup, if_neg differs]

@[simp] theorem remove_configuration (daemon : Daemon) (reference : UInt32)
    (used : Tunnel → List Effect) :
    (daemon.remove reference used).context.configuration = daemon.context.configuration := by
  unfold Daemon.remove
  split <;> rfl

@[simp] theorem remove_status (daemon : Daemon) (reference : UInt32)
    (used : Tunnel → List Effect) :
    (daemon.remove reference used).context.status = daemon.context.status := by
  unfold Daemon.remove
  split <;> rfl

theorem insert_lookup (daemon : Daemon) (reference key : UInt32) (tunnel : Tunnel) :
    (daemon.insert reference tunnel).context.tunnels.lookup key =
      if key = reference then some tunnel else daemon.context.tunnels.lookup key := by
  by_cases same : key = reference
  · subst key
    simp [Daemon.insert]
  · simp [Daemon.insert, same]

structure Shrinks (before after : Daemon) : Prop where
  configuration : after.context.configuration = before.context.configuration
  held : ∀ key tunnel, after.context.tunnels.lookup key = some tunnel →
    before.context.tunnels.lookup key = some tunnel

theorem shrinks_refl (daemon : Daemon) : Shrinks daemon daemon := ⟨rfl, fun _ _ held => held⟩

theorem shrinks_trans {first second third : Daemon} (left : Shrinks first second)
    (right : Shrinks second third) : Shrinks first third :=
  ⟨right.configuration.trans left.configuration,
    fun key tunnel held => left.held key tunnel (right.held key tunnel held)⟩

theorem shrinks_of_context {before after : Daemon}
    (configuration : after.context.configuration = before.context.configuration)
    (tunnels : after.context.tunnels = before.context.tunnels) : Shrinks before after :=
  ⟨configuration, fun key tunnel held => by rwa [tunnels] at held⟩

theorem remove_shrinks (daemon : Daemon) (reference : UInt32) (used : Tunnel → List Effect) :
    Shrinks daemon (daemon.remove reference used) := by
  refine ⟨remove_configuration daemon reference used, ?_⟩
  intro key tunnel held
  rw [remove_lookup] at held
  split at held
  · cases held
  · exact held

theorem close_shrinks (kill : Child → Except IoError Unit) (references : List UInt32)
    (daemon : Daemon) : Shrinks daemon (closeTunnels kill references daemon).2 := by
  induction references generalizing daemon with
  | nil => exact shrinks_refl daemon
  | cons reference rest ih =>
      simp only [closeTunnels]
      split
      · exact shrinks_refl daemon
      · split
        · exact remove_shrinks daemon reference (killEffect kill)
        · exact shrinks_trans (remove_shrinks daemon reference (killEffect kill)) (ih _)

theorem close_frame (kill : Child → Except IoError Unit) (references : List UInt32)
    (daemon : Daemon) :
    (closeTunnels kill references daemon).2.context.status = daemon.context.status ∧
      ∀ key, key ∉ references →
        (closeTunnels kill references daemon).2.context.tunnels.lookup key =
          daemon.context.tunnels.lookup key := by
  induction references generalizing daemon with
  | nil => exact ⟨rfl, fun _ _ => rfl⟩
  | cons reference rest ih =>
      have removed : ∀ key, key ∉ reference :: rest →
          (daemon.remove reference (killEffect kill)).context.tunnels.lookup key =
            daemon.context.tunnels.lookup key := by
        intro key other
        rw [remove_lookup, if_neg (List.ne_of_not_mem_cons other)]
      simp only [closeTunnels]
      split
      · exact ⟨rfl, fun _ _ => rfl⟩
      · split
        · exact ⟨remove_status daemon reference (killEffect kill), removed⟩
        · obtain ⟨status, frame⟩ := ih (daemon.remove reference (killEffect kill))
          refine ⟨status.trans (remove_status daemon reference (killEffect kill)), ?_⟩
          intro key other
          rw [frame key (List.not_mem_of_not_mem_cons other), removed key other]

/-- The tunnels that a `close` by the user asks for: the one under the given
reference, or without a reference all that were opened under the user's name. -/
def Named (user : User) (args : List String) (reference : UInt32) (tunnel : Tunnel) : Prop :=
  match args with
  | text :: _ => RustText.parseU32 text = some reference
  | [] => tunnel.user = user.name

theorem own_references_iff (order : Order TunnelEntry) (tunnels : Tunnels) (name : String)
    (reference : UInt32) :
    reference ∈ ownReferences order tunnels name ↔
      ∃ tunnel, tunnels.lookup reference = some tunnel ∧ tunnel.user = name := by
  simp only [ownReferences, List.mem_filterMap, Option.ite_none_right_eq_some,
    Option.some.injEq, beq_iff_eq]
  constructor
  · rintro ⟨⟨key, tunnel⟩, listed, owner, rfl⟩
    exact ⟨tunnel, (lookup_mem_arranged order tunnels key tunnel).mp listed, owner⟩
  · rintro ⟨tunnel, held, owner⟩
    exact ⟨⟨reference, tunnel⟩, (lookup_mem_arranged order tunnels reference tunnel).mpr held,
      owner, rfl⟩

theorem close_references_named (order : Order TunnelEntry) (tunnels : Tunnels) (user : User)
    (args : List String) (references : List UInt32)
    (named : closeReferences order tunnels user args = .ok references) (reference : UInt32)
    (tunnel : Tunnel) (held : tunnels.lookup reference = some tunnel) :
    reference ∈ references ↔ Named user args reference tunnel := by
  cases args with
  | nil =>
      simp only [closeReferences] at named
      split at named
      case isTrue => cases named
      case isFalse =>
        simp only [Except.ok.injEq] at named
        subst references
        rw [own_references_iff, held]
        simp [Named]
  | cons text rest =>
      cases parsed : RustText.parseU32 text with
      | none => simp [closeReferences, parsed] at named
      | some number =>
          simp only [closeReferences, parsed, Except.ok.injEq] at named
          subst references
          simp [Named, parsed, eq_comm]

theorem close_references_of_named (order : Order TunnelEntry) (tunnels : Tunnels) (user : User)
    (args : List String) (reference : UInt32) (tunnel : Tunnel)
    (held : tunnels.lookup reference = some tunnel) (named : Named user args reference tunnel) :
    ∃ references, closeReferences order tunnels user args = .ok references := by
  cases args with
  | nil =>
      have member :=
        (own_references_iff order tunnels user.name reference).mpr ⟨tunnel, held, named⟩
      refine ⟨ownReferences order tunnels user.name, ?_⟩
      simp [closeReferences, List.ne_nil_of_mem member]
  | cons text rest =>
      have parsed : RustText.parseU32 text = some reference := named
      exact ⟨[reference], by simp [closeReferences, parsed]⟩

theorem close_references_nonempty (order : Order TunnelEntry) (tunnels : Tunnels) (user : User)
    (args : List String) (references : List UInt32)
    (named : closeReferences order tunnels user args = .ok references) : references ≠ [] := by
  cases args with
  | nil =>
      simp only [closeReferences] at named
      split at named
      case isTrue => cases named
      case isFalse some =>
        cases named
        simpa using some
  | cons text rest =>
      simp only [closeReferences] at named
      split at named
      · cases named
      · cases named
        exact List.cons_ne_nil _ _

theorem handle_close (env : Env) (sender request : String) (daemon : Daemon) (user : User)
    (command : String) (args : List String)
    (allowed : senderUser daemon.context.configuration sender = some user)
    (words : RustText.splitWhitespace request = command :: args)
    (isClose : commandWord command = "close") :
    handleRequest env sender request daemon = closeTunnel env user args daemon := by
  have notOpen : commandWord command ≠ "open" := by
    rw [isClose]
    decide
  simp only [handleRequest, allowed, words, runCommand, if_neg notOpen, if_pos isClose]

theorem arranged_keys_nodup (order : Order TunnelEntry) (tunnels : Tunnels) :
    ((order.arrange tunnels.entries).map Sigma.fst).Nodup :=
  ((order.perm tunnels.entries).map Sigma.fst).nodup_iff.mpr tunnels.nodupKeys

theorem own_references_nodup (order : Order TunnelEntry) (tunnels : Tunnels) (name : String) :
    (ownReferences order tunnels name).Nodup := by
  have restricted : ownReferences order tunnels name =
      ((order.arrange tunnels.entries).filter fun entry => entry.2.user == name).map Sigma.fst := by
    rw [ownReferences, ← List.filterMap_eq_map, List.filterMap_filter]
    rfl
  rw [restricted]
  exact (arranged_keys_nodup order tunnels).sublist (List.filter_sublist.map Sigma.fst)

/-- A `close` works on distinct open tunnels, or on the one reference given,
which is not open. -/
theorem close_references_cases (order : Order TunnelEntry) (tunnels : Tunnels) (user : User)
    (args : List String) (references : List UInt32)
    (named : closeReferences order tunnels user args = .ok references) :
    (references.Nodup ∧ ∀ reference ∈ references, ∃ tunnel,
      tunnels.lookup reference = some tunnel) ∨
    ∃ reference, references = [reference] ∧ tunnels.lookup reference = none := by
  cases args with
  | nil =>
      simp only [closeReferences] at named
      split at named
      case isTrue => cases named
      case isFalse =>
        simp only [Except.ok.injEq] at named
        subst references
        refine Or.inl ⟨own_references_nodup order tunnels user.name, ?_⟩
        intro reference member
        obtain ⟨tunnel, held, _⟩ := (own_references_iff _ _ _ _).mp member
        exact ⟨tunnel, held⟩
  | cons text rest =>
      cases parsed : RustText.parseU32 text with
      | none => simp [closeReferences, parsed] at named
      | some number =>
          simp only [closeReferences, parsed, Except.ok.injEq] at named
          subst references
          cases held : tunnels.lookup number with
          | none => exact Or.inr ⟨number, rfl, held⟩
          | some tunnel => exact Or.inl ⟨List.nodup_singleton number, by simp [held]⟩

def firstKillError (kill : Child → Except IoError Unit) (tunnels : Tunnels)
    (references : List UInt32) : Option IoError :=
  references.findSome? fun reference => (tunnels.lookup reference).bind fun tunnel =>
    match kill tunnel.process with
    | .error error => some error
    | .ok _ => none

theorem first_kill_error_none_iff (kill : Child → Except IoError Unit) (tunnels : Tunnels)
    (references : List UInt32) :
    firstKillError kill tunnels references = none ↔
      ∀ reference ∈ references, ∀ tunnel, tunnels.lookup reference = some tunnel →
        killSucceeds kill tunnel.process = true := by
  rw [firstKillError, List.findSome?_eq_none_iff]
  apply forall₂_congr
  intro reference _
  cases held : tunnels.lookup reference with
  | none => simp
  | some tunnel => cases killed : kill tunnel.process <;> simp [killSucceeds, killed]

theorem first_kill_error_congr (kill : Child → Except IoError Unit) (left right : Tunnels)
    (references : List UInt32)
    (same : ∀ reference ∈ references, left.lookup reference = right.lookup reference) :
    firstKillError kill left references = firstKillError kill right references := by
  induction references with
  | nil => rfl
  | cons reference rest ih =>
      have later := ih fun other member => same other (List.mem_cons_of_mem _ member)
      simp only [firstKillError] at later
      simp only [firstKillError, List.findSome?_cons, same reference List.mem_cons_self, later]

theorem close_first_error (kill : Child → Except IoError Unit) (references : List UInt32)
    (daemon : Daemon) (distinct : references.Nodup)
    (present : ∀ reference ∈ references, ∃ tunnel,
      daemon.context.tunnels.lookup reference = some tunnel) :
    (closeTunnels kill references daemon).1 =
      match firstKillError kill daemon.context.tunnels references with
      | some error => .err (.ioError error)
      | none => .ok () := by
  induction references generalizing daemon with
  | nil => rfl
  | cons reference rest ih =>
      obtain ⟨tunnel, held⟩ := present reference List.mem_cons_self
      obtain ⟨notLater, restDistinct⟩ := List.nodup_cons.mp distinct
      have kept := remove_keeps notLater daemon (killEffect kill)
      have later : firstKillError kill (daemon.remove reference (killEffect kill)).context.tunnels
          rest = firstKillError kill daemon.context.tunnels rest :=
        first_kill_error_congr kill _ _ rest kept
      cases killed : kill tunnel.process with
      | error error => simp [closeTunnels, firstKillError, held, killed]
      | ok _ =>
          have next := ih (daemon.remove reference (killEffect kill)) restDistinct
            fun other member => by
              rw [kept other member]
              exact present other (List.mem_cons_of_mem _ member)
          rw [later] at next
          simp only [closeTunnels, held, killed, next]
          simp [firstKillError, held, killed]

theorem remove_tunnels_lookup (references : List UInt32) (daemon : Daemon) (key : UInt32) :
    (removeTunnels references daemon).context.tunnels.lookup key =
      if key ∈ references then none else daemon.context.tunnels.lookup key := by
  induction references generalizing daemon with
  | nil => simp [removeTunnels]
  | cons reference rest ih =>
      have next : removeTunnels (reference :: rest) daemon =
          removeTunnels rest (daemon.remove reference fun _ => []) := rfl
      rw [next, ih, remove_lookup]
      by_cases same : key = reference
      · simp [same]
      · simp [same]

theorem remove_tunnels_shrinks (references : List UInt32) (daemon : Daemon) :
    Shrinks daemon (removeTunnels references daemon) := by
  induction references generalizing daemon with
  | nil => exact shrinks_refl daemon
  | cons reference rest ih =>
      exact shrinks_trans (remove_shrinks daemon reference fun _ => []) (ih _)

theorem clean_up_shrinks (now : Nat) (order : Order TunnelEntry)
    (calls : CleanUpCalls) (daemon : Daemon) :
    Shrinks daemon (cleanUpExpiredTunnels now order calls daemon).2 := by
  let visited := visitTunnels calls now daemon.context.configuration
    (order.arrange daemon.context.tunnels.entries)
  have recorded : Shrinks daemon (daemon.record visited.2) := shrinks_of_context rfl rfl
  simp only [cleanUpExpiredTunnels]
  split
  case h_1 => exact recorded
  case h_2 references _ => exact shrinks_trans recorded (remove_tunnels_shrinks references _)

theorem remove_tunnels_status (references : List UInt32) (daemon : Daemon) :
    (removeTunnels references daemon).context.status = daemon.context.status := by
  induction references generalizing daemon with
  | nil => rfl
  | cons reference rest ih => exact (ih _).trans (remove_status daemon reference _)

theorem clean_up_status (now : Nat) (order : Order TunnelEntry)
    (calls : CleanUpCalls) (daemon : Daemon) :
    (cleanUpExpiredTunnels now order calls daemon).2.context.status = daemon.context.status := by
  simp only [cleanUpExpiredTunnels]
  split
  · rfl
  · exact remove_tunnels_status _ _

def Adds (kind : Effect → Prop) (before after : Daemon) : Prop :=
  ∃ later, after.log = before.log ++ later ∧ ∀ effect ∈ later, kind effect

section Adds
variable {kind : Effect → Prop}

theorem adds_refl (daemon : Daemon) : Adds kind daemon daemon := ⟨[], by simp, by simp⟩

theorem adds_trans {first second third : Daemon} (left : Adds kind first second)
    (right : Adds kind second third) : Adds kind first third := by
  obtain ⟨earlier, firstLog, firstKind⟩ := left
  obtain ⟨later, secondLog, secondKind⟩ := right
  refine ⟨earlier ++ later, by rw [secondLog, firstLog, List.append_assoc], ?_⟩
  intro effect listed
  rcases List.mem_append.mp listed with inEarlier | inLater
  · exact firstKind effect inEarlier
  · exact secondKind effect inLater

theorem adds_mono {weaker : Effect → Prop} {before after : Daemon}
    (weaken : ∀ effect, kind effect → weaker effect) (adds : Adds kind before after) :
    Adds weaker before after := by
  rcases adds with ⟨later, log, all⟩
  exact ⟨later, log, fun effect listed => weaken effect (all effect listed)⟩

theorem record_adds (daemon : Daemon) (effects : List Effect)
    (ofKind : ∀ effect ∈ effects, kind effect) : Adds kind daemon (daemon.record effects) :=
  ⟨effects, rfl, ofKind⟩

variable (drops : ∀ process, kind (.dropped process))
include drops

theorem remove_adds (daemon : Daemon) (reference : UInt32) (used : Tunnel → List Effect)
    (usage : ∀ tunnel, ∀ effect ∈ used tunnel, kind effect) :
    Adds kind daemon (daemon.remove reference used) := by
  unfold Daemon.remove
  split
  · exact adds_refl daemon
  · next tunnel _ =>
      refine ⟨_, rfl, ?_⟩
      intro effect listed
      rcases List.mem_append.mp listed with inUsage | last
      · exact usage tunnel effect inUsage
      · rw [List.mem_singleton.mp last]
        exact drops _

theorem insert_adds (daemon : Daemon) (reference : UInt32) (tunnel : Tunnel) :
    Adds kind daemon (daemon.insert reference tunnel) := by
  refine ⟨_, rfl, ?_⟩
  intro effect listed
  split at listed
  · cases listed
  · rw [List.mem_singleton.mp listed]
    exact drops _

theorem close_adds (kills : ∀ process succeeded, kind (.killed process succeeded))
    (kill : Child → Except IoError Unit) (references : List UInt32) (daemon : Daemon) :
    Adds kind daemon (closeTunnels kill references daemon).2 := by
  induction references generalizing daemon with
  | nil => exact adds_refl daemon
  | cons reference rest ih =>
      have removed := remove_adds drops daemon reference (killEffect kill)
        (by simp [killEffect, kills])
      simp only [closeTunnels]
      split
      · exact adds_refl daemon
      · split
        · exact removed
        · exact adds_trans removed (ih _)

theorem remove_tunnels_adds (references : List UInt32) (daemon : Daemon) :
    Adds kind daemon (removeTunnels references daemon) := by
  induction references generalizing daemon with
  | nil => exact adds_refl daemon
  | cons reference rest ih =>
      exact adds_trans (remove_adds drops daemon reference (fun _ => []) (by simp)) (ih _)

end Adds

/-- The visiting loop kills processes of visited entries and notifies of them. -/
theorem visit_effect (calls : CleanUpCalls) (now : Nat)
    (configuration : Configuration) (entries : List TunnelEntry) (effect : Effect)
    (listed : effect ∈ (visitTunnels calls now configuration entries).2) :
    ∃ entry ∈ entries,
      effect = .killed entry.2.process (killSucceeds calls.kill entry.2.process) ∨
        effect ∈ expiryNotification configuration entry := by
  induction entries with
  | nil => cases listed
  | cons entry rest ih =>
      have later : effect ∈ (visitTunnels calls now configuration rest).2 →
          ∃ visited ∈ entry :: rest,
            effect = .killed visited.2.process (killSucceeds calls.kill visited.2.process) ∨
              effect ∈ expiryNotification configuration visited := by
        intro listed
        obtain ⟨visited, member, found⟩ := ih listed
        exact ⟨visited, List.mem_cons_of_mem entry member, found⟩
      simp only [visitTunnels] at listed
      split at listed
      · cases listed
      · split at listed
        · split at listed
          · exact ⟨entry, List.mem_cons_self, List.mem_cons.mp listed⟩
          · rcases List.mem_append.mp listed with here | inRest
            · exact ⟨entry, List.mem_cons_self, List.mem_cons.mp here⟩
            · exact later inRest
        · exact later listed

theorem clean_up_adds {kind : Effect → Prop} (now : Nat) (order : Order TunnelEntry)
    (calls : CleanUpCalls) (daemon : Daemon)
    (drops : ∀ process, kind (.dropped process))
    (kills : ∀ process succeeded, kind (.killed process succeeded))
    (notifications : ∀ key tunnel, daemon.context.tunnels.lookup key = some tunnel →
      ∀ effect ∈ expiryNotification daemon.context.configuration ⟨key, tunnel⟩, kind effect) :
    Adds kind daemon (cleanUpExpiredTunnels now order calls daemon).2 := by
  let visited := visitTunnels calls now daemon.context.configuration
    (order.arrange daemon.context.tunnels.entries)
  have recorded : Adds kind daemon (daemon.record visited.2) := by
    apply record_adds
    intro effect listed
    obtain ⟨entry, member, killed | notified⟩ := visit_effect calls now _ _ effect listed
    · rw [killed]
      exact kills _ _
    · exact notifications entry.1 entry.2
        ((lookup_mem_arranged order _ entry.1 entry.2).mp member) effect notified
  simp only [cleanUpExpiredTunnels]
  split
  · exact recorded
  · exact adds_trans recorded (remove_tunnels_adds drops _ _)

theorem expiry_notification_sent (configuration : Configuration) (entry : TunnelEntry)
    (effect : Effect) (listed : effect ∈ expiryNotification configuration entry) :
    ∃ user, configuration.users.find? (fun user => user.name == entry.2.user) = some user ∧
      effect = .smsSent user.phoneNumber
        ("Expired tunnel " ++ toString entry.1 ++ " has been closed") := by
  unfold expiryNotification at listed
  split at listed
  · next user found => exact ⟨user, found, List.mem_singleton.mp listed⟩
  · cases listed

theorem visit_cons_some {calls : CleanUpCalls} {now : Nat} {configuration : Configuration}
    {entry : TunnelEntry} {rest : List TunnelEntry} {references : List UInt32}
    (visited : (visitTunnels calls now configuration (entry :: rest)).1 = some references) :
    ∃ age, durationSince now entry.2.creationDate = some age ∧
      ((fromSecs configuration.sshConfig.tunnelTimeoutSec < age ∧
          ∃ later, (visitTunnels calls now configuration rest).1 = some later ∧
            references = entry.1 :: later) ∨
        (age ≤ fromSecs configuration.sshConfig.tunnelTimeoutSec ∧
          (visitTunnels calls now configuration rest).1 = some references)) := by
  cases measured : durationSince now entry.2.creationDate with
  | none => simp [visitTunnels, measured] at visited
  | some age =>
      refine ⟨age, rfl, ?_⟩
      simp only [visitTunnels, measured] at visited
      split at visited
      case isTrue expired =>
        split at visited
        · cases visited
        · obtain ⟨later, tail, rfl⟩ := Option.map_eq_some_iff.mp visited
          exact Or.inl ⟨expired, later, tail, rfl⟩
      case isFalse young => exact Or.inr ⟨Nat.le_of_not_lt young, visited⟩

theorem visited_reference_expired (calls : CleanUpCalls) (now : Nat)
    (configuration : Configuration) (entries : List TunnelEntry) (references : List UInt32)
    (visited : (visitTunnels calls now configuration entries).1 = some references)
    (key : UInt32) (member : key ∈ references) :
    ∃ tunnel age, (⟨key, tunnel⟩ : TunnelEntry) ∈ entries ∧
      durationSince now tunnel.creationDate = some age ∧
      fromSecs configuration.sshConfig.tunnelTimeoutSec < age := by
  induction entries generalizing references with
  | nil =>
      simp only [visitTunnels, Option.some.injEq] at visited
      subst references
      cases member
  | cons entry rest ih =>
      have later : ∀ handed, (visitTunnels calls now configuration rest).1 = some handed →
          key ∈ handed → ∃ tunnel age, (⟨key, tunnel⟩ : TunnelEntry) ∈ entry :: rest ∧
            durationSince now tunnel.creationDate = some age ∧
            fromSecs configuration.sshConfig.tunnelTimeoutSec < age := by
        intro handed tail inTail
        obtain ⟨tunnel, age, listed, facts⟩ := ih handed tail inTail
        exact ⟨tunnel, age, List.mem_cons_of_mem entry listed, facts⟩
      obtain ⟨age, measured, ⟨expired, handed, tail, rfl⟩ | ⟨_, tail⟩⟩ := visit_cons_some visited
      · rcases List.mem_cons.mp member with rfl | inTail
        · exact ⟨entry.2, age, List.mem_cons_self, measured, expired⟩
        · exact later handed tail inTail
      · exact later references tail member

theorem expired_reference_visited (calls : CleanUpCalls) (now : Nat)
    (configuration : Configuration) (entries : List TunnelEntry) (references : List UInt32)
    (visited : (visitTunnels calls now configuration entries).1 = some references)
    (entry : TunnelEntry) (listed : entry ∈ entries) :
    ∃ age, durationSince now entry.2.creationDate = some age ∧
      (fromSecs configuration.sshConfig.tunnelTimeoutSec < age → entry.1 ∈ references) := by
  induction entries generalizing references with
  | nil => cases listed
  | cons first rest ih =>
      obtain ⟨age, measured, ⟨_, handed, tail, rfl⟩ | ⟨young, tail⟩⟩ := visit_cons_some visited
      · rcases List.mem_cons.mp listed with rfl | inRest
        · exact ⟨age, measured, fun _ => List.mem_cons_self⟩
        · obtain ⟨age, found, older⟩ := ih handed tail inRest
          exact ⟨age, found, fun expired => List.mem_cons_of_mem _ (older expired)⟩
      · rcases List.mem_cons.mp listed with rfl | inRest
        · exact ⟨age, measured, fun older => absurd young (Nat.not_le_of_lt older)⟩
        · exact ih references tail inRest

/-- A returning clean-up keeps exactly the tunnels within the limit. -/
theorem clean_up_lookup (now : Nat) (order : Order TunnelEntry)
    (calls : CleanUpCalls) (daemon : Daemon)
    (returned : Returned (cleanUpExpiredTunnels now order calls daemon).1)
    (key : UInt32) (tunnel : Tunnel) :
    (cleanUpExpiredTunnels now order calls daemon).2.context.tunnels.lookup key = some tunnel ↔
      daemon.context.tunnels.lookup key = some tunnel ∧
        ∃ age, durationSince now tunnel.creationDate = some age ∧
          age ≤ fromSecs daemon.context.configuration.sshConfig.tunnelTimeoutSec := by
  revert returned
  simp only [cleanUpExpiredTunnels]
  split
  case h_1 => exact fun absurd => absurd.elim
  case h_2 references visited =>
    intro _
    rw [remove_tunnels_lookup, record_context]
    constructor
    · intro kept
      split at kept
      case isTrue => cases kept
      case isFalse absent =>
        refine ⟨kept, ?_⟩
        have listed := (lookup_mem_arranged order daemon.context.tunnels key tunnel).mpr kept
        obtain ⟨age, measured, handed⟩ :=
          expired_reference_visited calls now _ _ references visited _ listed
        exact ⟨age, measured, Nat.le_of_not_lt fun older => absent (handed older)⟩
    · rintro ⟨held, age, measured, young⟩
      have absent : key ∉ references := by
        intro member
        obtain ⟨other, otherAge, listed, otherMeasured, older⟩ :=
          visited_reference_expired calls now _ _ references visited key member
        have same := (lookup_mem_arranged order daemon.context.tunnels key other).mp listed
        rw [held] at same
        cases same
        rw [measured] at otherMeasured
        cases otherMeasured
        omega
      rw [if_neg absent]
      exact held

theorem with_tunnel_lookup (env : Env) (user : User) (application : Application) (url : String)
    (daemon : Daemon) (key : UInt32) :
    (withTunnel env user application url daemon).context.tunnels.lookup key =
      if key = nextReference daemon.context.tunnels then
        some (newTunnel env user application daemon)
      else daemon.context.tunnels.lookup key :=
  insert_lookup _ _ key _

/-- An event changes the table by removals only, or it is an admitted `open`
that inserts its tunnel under the count of the table. -/
inductive TableChange (env : Env) (before after : Daemon) : Prop where
  | removals (shrinks : Shrinks before after)
  | insertion (user : User) (application : Application) (applicationStr : String)
      (member : user ∈ before.context.configuration.users)
      (admitted : Admitted before.context user applicationStr application)
      (configuration : after.context.configuration = before.context.configuration)
      (lookups : ∀ key, after.context.tunnels.lookup key =
        if key = nextReference before.context.tunnels then
          some (newTunnel env user application before)
        else before.context.tunnels.lookup key)

theorem handled_table_change {env : Env} {sender request : String} {before after : Daemon}
    {outcome : Outcome String} (handled : Handled env sender request before outcome after) :
    TableChange env before after := by
  cases handled with
  | notAllowed => exact TableChange.removals (shrinks_refl before)
  | rejected => exact TableChange.removals (shrinks_refl before)
  | setupEnded => exact TableChange.removals (shrinks_of_context rfl rfl)
  | emailFailed => exact TableChange.removals (shrinks_of_context rfl rfl)
  | opened user application applicationStr url completes admitted =>
      exact TableChange.insertion user application applicationStr
        (sender_user_member _ _ _ completes.allowed).1 admitted rfl
        (with_tunnel_lookup _ _ _ _ _)
  | closed => exact TableChange.removals (close_shrinks _ _ _)
  | statusResolved => exact TableChange.removals (shrinks_of_context rfl rfl)
  | statusEnded => exact TableChange.removals (shrinks_refl before)
  | scheduled => exact TableChange.removals (shrinks_of_context rfl rfl)

theorem step_table_change {before after : Daemon} {event : Event}
    (step : Step before event after) :
    Shrinks before after ∨ ∃ env, TableChange env before after := by
  obtain ⟨_, rfl⟩ := step
  cases event with
  | request env sender request =>
      exact Or.inr ⟨env, handled_table_change (handle_request_handled env sender request before)⟩
  | cleanUp now order calls => exact Or.inl (clean_up_shrinks now order calls before)
  | processExit process => exact Or.inl (shrinks_of_context rfl rfl)

theorem step_configuration {before after : Daemon} {event : Event}
    (step : Step before event after) :
    after.context.configuration = before.context.configuration := by
  rcases step_table_change step with shrinks | ⟨env, change⟩
  · exact shrinks.configuration
  · cases change with
    | removals shrinks => exact shrinks.configuration
    | insertion _ _ _ _ _ configuration => exact configuration

theorem reaches_configuration {configuration : Configuration} {status : Status}
    {events : List Event} {daemon : Daemon} (run : Reaches configuration status events daemon) :
    daemon.context.configuration = configuration :=
  LabelledRun.run_invariant (fun daemon => daemon.context.configuration = configuration)
    (fun _ _ _ step same => (step_configuration step).trans same) run rfl

/-! Two users and one application on a reachable service. -/

def alice : User := ⟨"Alice", "+33600000001", "alice@example.org"⟩

def bob : User := ⟨"Bob", "+33600000002", "bob@example.org"⟩

def camera : Application := ⟨"camera", ⟨[192, 168, 1, 2]⟩, 80, "/view"⟩

def house : Configuration :=
  { users := [alice, bob], applications := [camera]
    emailConfig := ⟨"smtp.example.org", ⟨[8, 8, 8, 8]⟩⟩
    sshConfig := ⟨"tunnel.example.org", 3600, 60, some 2⟩ }

def readyStatus : Status := ⟨.ready, .reachable, .reachable, AList.singleton "camera" .reachable⟩

def silentProbe : StatusProbe :=
  { parseJson := fun _ => none
    simState := .waitFailed ⟨""⟩
    systemInfo := .waitFailed ⟨""⟩
    internetPing := fun _ _ => .ok ()
    emailDomain := ⟨fun _ => .ok [], fun _ => .ok ()⟩
    sshDomain := ⟨fun _ => .ok [], fun _ => .ok ()⟩
    applicationPing := fun _ _ => .ok () }

def readyProbe : StatusProbe :=
  { parseJson := fun _ => some (.object [("pin1_status", .string "verified"),
      ("lte", .object [("service_status", .string "available")])])
    simState := .exited true []
    systemInfo := .exited true []
    internetPing := fun _ _ => .ok ()
    emailDomain := ⟨fun _ => .ok [⟨[8, 8, 8, 8]⟩], fun _ => .ok ()⟩
    sshDomain := ⟨fun _ => .ok [⟨[8, 8, 4, 4]⟩], fun _ => .ok ()⟩
    applicationPing := fun _ _ => .ok () }

def url : String := "https://example.org"

def forwardingProcess : SshProcess :=
  { stdout := [.ok (RustText.utf8Bytes ("Forwarding  ".toList ++ (url.toList ++ ['\n'])))]
    stderr := .silent }

def fineEnv (now : Nat) : Env :=
  { now, tunnelOrder := .stored _, statusOrder := .stored _, kill := fun _ => .ok ()
    status := silentProbe, ssh := .ok forwardingProcess, email := .exited true }

theorem forwarding_process_url : awaitUrl forwardingProcess = .ok url := by
  have read := first_read_url url.toList (by decide) (by decide) []
  rw [String.ofList_toList] at read
  exact await_url_of_read forwardingProcess url read

theorem fine_open (now : Nat) (sender : String) (user : User) (daemon : Daemon)
    (allowed : senderUser daemon.context.configuration sender = some user)
    (admitted : admitOpen (.stored _) daemon.context user "camera" = .ok camera) :
    handleRequest (fineEnv now) sender "open camera" daemon =
      (.ok (openMessage (nextReference daemon.context.tunnels)),
        withTunnel (fineEnv now) user camera url daemon) :=
  completes_opens ⟨allowed, ⟨"open", [], by decide, by decide⟩, admitted,
    ⟨forwardingProcess, rfl, forwarding_process_url⟩, rfl⟩

theorem fine_open_step (now : Nat) (sender : String) (user : User) (daemon : Daemon)
    (allowed : senderUser daemon.context.configuration sender = some user)
    (admitted : admitOpen (.stored _) daemon.context user "camera" = .ok camera) :
    Step daemon (.request (fineEnv now) sender "open camera")
      (withTunnel (fineEnv now) user camera url daemon) := by
  have opened := fine_open now sender user daemon allowed admitted
  exact ⟨by simp only [Returns, opened, Returned], by simp only [serve, opened]⟩

def oneOpen : Daemon :=
  withTunnel (fineEnv 0) alice camera url (Daemon.start house readyStatus)

def twoOpen : Daemon := withTunnel (fineEnv 0) bob camera url oneOpen

def aliceOpens : Event := .request (fineEnv 0) alice.phoneNumber "open camera"

def bobOpens : Event := .request (fineEnv 0) bob.phoneNumber "open camera"

def closeFirst : Event := .request (fineEnv 0) alice.phoneNumber "close 0"

theorem alice_opens_step : Step (Daemon.start house readyStatus) aliceOpens oneOpen :=
  fine_open_step 0 alice.phoneNumber alice _ (by decide) (by decide +kernel)

theorem bob_opens_step : Step oneOpen bobOpens twoOpen :=
  fine_open_step 0 bob.phoneNumber bob _ (by decide) (by decide +kernel)

theorem two_open_reached : Reaches house readyStatus [aliceOpens, bobOpens] twoOpen :=
  .next alice_opens_step (.next bob_opens_step (.refl _))

theorem close_first_step : Step twoOpen closeFirst (serve twoOpen closeFirst) := by
  have closed : (handleRequest (fineEnv 0) alice.phoneNumber "close 0" twoOpen).1 =
      .ok "Tunnel has been closed" := by decide +kernel
  exact ⟨by simp only [closeFirst, Returns, closed, Returned], rfl⟩

end TelcoVecchio.Service
