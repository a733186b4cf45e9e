import TelcoVecchio.MainLoop
import TelcoVecchio.HexText

/-!
What one cleaning does to the table and to the outside. The visiting loop panics
at the first creation date that is later than the reading it compares with, and
at the first notification to a number that cannot be encoded; otherwise it stops
the processes of exactly the expired tunnels and the removing loop drops exactly
these.
-/

namespace TelcoVecchio.ExpiryCleaning

open Common Status Request Service MainLoop

def isExpired (now : Nat) (configuration : Configuration) (entry : TunnelEntry) : Bool :=
  fromSecs configuration.sshConfig.tunnelTimeoutSec < now - entry.2.creationDate

def expiryEffects (kill : Child → Except IoError Unit) (configuration : Configuration)
    (entry : TunnelEntry) : List Effect :=
  .killed entry.2.process (killSucceeds kill entry.2.process) ::
    expiryNotification configuration entry

theorem duration_since_none_iff (later earlier : Nat) :
    durationSince later earlier = none ↔ later < earlier := by
  simp [durationSince]

theorem duration_since_of_le (later earlier : Nat) (ordered : earlier ≤ later) :
    durationSince later earlier = some (later - earlier) := if_pos ordered

/-- The visit of an entry goes on to the next. -/
def Passes (calls : CleanUpCalls) (now : Nat) (configuration : Configuration)
    (entry : TunnelEntry) : Prop :=
  entry.2.creationDate ≤ now ∧ (isExpired now configuration entry = true →
    notificationPanics calls configuration entry = false)

/-- One entry that does not pass is enough to end the loop, wherever it is visited. -/
theorem visit_panics_iff (calls : CleanUpCalls) (now : Nat) (configuration : Configuration)
    (entries : List TunnelEntry) :
    (visitTunnels calls now configuration entries).1 = none ↔
      ∃ entry ∈ entries, ¬ Passes calls now configuration entry := by
  induction entries with
  | nil => simp [visitTunnels]
  | cons entry rest ih =>
      rw [List.exists_mem_cons_iff, ← ih]
      by_cases ahead : now < entry.2.creationDate
      · have unmeasured := (duration_since_none_iff now entry.2.creationDate).mpr ahead
        simp [visitTunnels, unmeasured, Passes, ahead]
      · have past := Nat.le_of_not_lt ahead
        have measured := duration_since_of_le now entry.2.creationDate past
        simp only [visitTunnels, measured, Passes, isExpired, decide_eq_true_eq, past, true_and]
        split
        case isTrue expired =>
          cases notificationPanics calls configuration entry <;> simp [expired]
        case isFalse young => simp [young]

theorem visit_expired (calls : CleanUpCalls) (now : Nat) (configuration : Configuration)
    (entries : List TunnelEntry)
    (passing : ∀ entry ∈ entries, Passes calls now configuration entry) :
    visitTunnels calls now configuration entries =
      (some ((entries.filter (isExpired now configuration)).map Sigma.fst),
        (entries.filter (isExpired now configuration)).flatMap
          (expiryEffects calls.kill configuration)) := by
  induction entries with
  | nil => rfl
  | cons entry rest ih =>
      obtain ⟨past, notified⟩ := passing entry List.mem_cons_self
      have measured := duration_since_of_le now entry.2.creationDate past
      have later := ih fun other listed => passing other (List.mem_cons_of_mem entry listed)
      simp only [visitTunnels, measured, later]
      by_cases expired : isExpired now configuration entry = true
      · have older := of_decide_eq_true expired
        simp [List.filter_cons_of_pos expired, older, expiryEffects, notified expired]
      · have young : ¬ fromSecs configuration.sshConfig.tunnelTimeoutSec <
            now - entry.2.creationDate := fun older => expired (decide_eq_true older)
        simp [List.filter_cons_of_neg expired, young]

theorem remove_tunnels_effects (entries : List TunnelEntry) (daemon : Daemon)
    (distinct : (entries.map Sigma.fst).Nodup)
    (present : ∀ entry ∈ entries, daemon.context.tunnels.lookup entry.1 = some entry.2) :
    (removeTunnels (entries.map Sigma.fst) daemon).log =
      daemon.log ++ entries.map fun entry => .dropped entry.2.process := by
  induction entries generalizing daemon with
  | nil => simp [removeTunnels]
  | cons entry rest ih =>
      obtain ⟨notLater, restDistinct⟩ := List.nodup_cons.mp distinct
      have held := present entry List.mem_cons_self
      have kept : ∀ other ∈ rest, (daemon.remove entry.1 fun _ => []).context.tunnels.lookup
          other.1 = some other.2 := by
        intro other listed
        rw [remove_keeps notLater daemon _ other.1 (List.mem_map_of_mem listed)]
        exact present other (List.mem_cons_of_mem entry listed)
      have removed : (daemon.remove entry.1 fun _ => []).log =
          daemon.log ++ [.dropped entry.2.process] := by
        simp [Daemon.remove, held]
      have effects := ih (daemon.remove entry.1 fun _ => []) restDistinct kept
      have next : removeTunnels ((entry :: rest).map Sigma.fst) daemon =
          removeTunnels (rest.map Sigma.fst) (daemon.remove entry.1 fun _ => []) := rfl
      rw [next, effects, removed]
      simp

def expiredEntries (now : Nat) (daemon : Daemon) : List TunnelEntry :=
  daemon.context.tunnels.entries.filter (isExpired now daemon.context.configuration)

def visitedEntries (now : Nat) (order : Order TunnelEntry) (daemon : Daemon) : List TunnelEntry :=
  (order.arrange daemon.context.tunnels.entries).filter
    (isExpired now daemon.context.configuration)

theorem visited_entries_perm (now : Nat) (order : Order TunnelEntry) (daemon : Daemon) :
    (visitedEntries now order daemon).Perm (expiredEntries now daemon) :=
  (order.perm daemon.context.tunnels.entries).filter _

theorem visited_entries_distinct (now : Nat) (order : Order TunnelEntry) (daemon : Daemon) :
    ((visitedEntries now order daemon).map Sigma.fst).Nodup :=
  (arranged_keys_nodup order daemon.context.tunnels).sublist (List.filter_sublist.map Sigma.fst)

def Dated (now : Nat) (daemon : Daemon) : Prop :=
  ∀ key tunnel, daemon.context.tunnels.lookup key = some tunnel → tunnel.creationDate ≤ now

/-- `iter().find(|u| u.name == tunnel.user)`. -/
def configuredUser (configuration : Configuration) (name : String) : Option User :=
  configuration.users.find? fun user => user.name == name

/-- Every expired tunnel whose notification gets the port open is notified at a
number that `encode_phone_number` comes back on. -/
def NumbersEncode (calls : CleanUpCalls) (now : Nat) (daemon : Daemon) : Prop :=
  ∀ key tunnel, daemon.context.tunnels.lookup key = some tunnel →
    fromSecs daemon.context.configuration.sshConfig.tunnelTimeoutSec <
      now - tunnel.creationDate →
    calls.openPort key = .ok () →
    ∀ user, configuredUser daemon.context.configuration tunnel.user = some user →
      (SmsUtils.encodePhoneNumber user.phoneNumber).isSome = true

theorem notification_panics_iff (calls : CleanUpCalls) (configuration : Configuration)
    (entry : TunnelEntry) :
    notificationPanics calls configuration entry = true ↔
      ∃ user, configuredUser configuration entry.2.user = some user ∧
        calls.openPort entry.1 = .ok () ∧
        SmsUtils.encodePhoneNumber user.phoneNumber = none := by
  have short : ("Expired tunnel " ++ toString entry.1 ++ " has been closed").utf8ByteSize ≤ 140 := by
    have number := HexText.number_byte_size entry.1
    have fixed : "Expired tunnel ".utf8ByteSize = 15 ∧ " has been closed".utf8ByteSize = 16 := by
      decide
    rw [String.utf8ByteSize_append, String.utf8ByteSize_append, fixed.1, fixed.2]
    omega
  rw [notificationPanics, ← configuredUser]
  cases configuredUser configuration entry.2.user with
  | none => simp
  | some user => simp [send_sms_panics_iff, -String.utf8ByteSize_append, short]

def Passing (calls : CleanUpCalls) (now : Nat) (daemon : Daemon) : Prop :=
  ∀ key tunnel, daemon.context.tunnels.lookup key = some tunnel →
    Passes calls now daemon.context.configuration ⟨key, tunnel⟩

theorem passing_iff (calls : CleanUpCalls) (now : Nat) (daemon : Daemon) :
    Passing calls now daemon ↔ Dated now daemon ∧ NumbersEncode calls now daemon := by
  constructor
  · intro passing
    refine ⟨fun key tunnel held => (passing key tunnel held).1, ?_⟩
    intro key tunnel held older opened user found
    by_contra unencoded
    have panics := (notification_panics_iff calls daemon.context.configuration ⟨key, tunnel⟩).mpr
      ⟨user, found, opened, by simpa using unencoded⟩
    rw [(passing key tunnel held).2 (decide_eq_true older)] at panics
    cases panics
  · rintro ⟨dated, encode⟩ key tunnel held
    refine ⟨dated key tunnel held, fun expired => ?_⟩
    rw [← Bool.not_eq_true, notification_panics_iff]
    rintro ⟨user, found, opened, unencoded⟩
    have encoded := encode key tunnel held (of_decide_eq_true expired) opened user found
    rw [unencoded] at encoded
    cases encoded

theorem arranged_passing {calls : CleanUpCalls} {now : Nat} (order : Order TunnelEntry)
    {daemon : Daemon} (passing : Passing calls now daemon) :
    ∀ entry ∈ order.arrange daemon.context.tunnels.entries,
      Passes calls now daemon.context.configuration entry := by
  rintro ⟨key, tunnel⟩ listed
  exact passing key tunnel ((lookup_mem_arranged order daemon.context.tunnels key tunnel).mp listed)

/-- The whole cleaning as one list of effects: the visits, then the drops. -/
theorem clean_up_effects (now : Nat) (order : Order TunnelEntry) (calls : CleanUpCalls)
    (daemon : Daemon) (passing : Passing calls now daemon) :
    (cleanUpExpiredTunnels now order calls daemon).1 = .ok () ∧
      (cleanUpExpiredTunnels now order calls daemon).2.log = daemon.log ++
        ((visitedEntries now order daemon).flatMap
            (expiryEffects calls.kill daemon.context.configuration) ++
          (visitedEntries now order daemon).map fun entry => .dropped entry.2.process) := by
  have visited := visit_expired calls now daemon.context.configuration
    (order.arrange daemon.context.tunnels.entries) (arranged_passing order passing)
  have present : ∀ entry ∈ visitedEntries now order daemon,
      daemon.context.tunnels.lookup entry.1 = some entry.2 := by
    rintro ⟨key, tunnel⟩ listed
    exact (lookup_mem_arranged order daemon.context.tunnels key tunnel).mp
      (List.mem_of_mem_filter listed)
  have effects := remove_tunnels_effects (visitedEntries now order daemon)
    (daemon.record ((visitedEntries now order daemon).flatMap
      (expiryEffects calls.kill daemon.context.configuration)))
    (visited_entries_distinct now order daemon) present
  simp only [cleanUpExpiredTunnels, visited]
  constructor
  · trivial
  · rw [← List.append_assoc]
    exact effects

theorem clean_up_panics (now : Nat) (order : Order TunnelEntry) (calls : CleanUpCalls)
    (daemon : Daemon) (stopped : ¬ Passing calls now daemon) :
    (cleanUpExpiredTunnels now order calls daemon).1 = .panic ∧
      (cleanUpExpiredTunnels now order calls daemon).2.context = daemon.context := by
  simp only [Passing, not_forall] at stopped
  obtain ⟨key, tunnel, held, blocked⟩ := stopped
  have listed := (lookup_mem_arranged order daemon.context.tunnels key tunnel).mpr held
  have gaveUp := (visit_panics_iff calls now daemon.context.configuration _).mpr
    ⟨⟨key, tunnel⟩, listed, blocked⟩
  simp [cleanUpExpiredTunnels, gaveUp]

theorem clean_up_returned_iff (now : Nat) (order : Order TunnelEntry) (calls : CleanUpCalls)
    (daemon : Daemon) :
    Returned (cleanUpExpiredTunnels now order calls daemon).1 ↔ Passing calls now daemon := by
  constructor
  · intro returned
    by_contra stopped
    rw [(clean_up_panics now order calls daemon stopped).1] at returned
    exact returned
  · intro passing
    rw [(clean_up_effects now order calls daemon passing).1]
    trivial

theorem routines_returned_iff (internetPing : Nat → IpAddr → Except SurgeError Unit) (now : Nat)
    (order : Order TunnelEntry) (calls : CleanUpCalls) (daemon : Daemon) :
    Returned (periodicRoutines internetPing now order calls daemon).1 ↔
      Passing calls now daemon := by
  rw [periodicRoutines, clean_up_returned_iff]
  split <;> rfl

/-! Cleaning under any clock. -/

/-- The cleaning comes back, and keeps the tunnels dated after its reading. -/
def SafeCleaning (now : Nat) (order : Order TunnelEntry) (calls : CleanUpCalls)
    (daemon : Daemon) : Prop :=
  Returned (cleanUpExpiredTunnels now order calls daemon).1 ∧
    ∀ key tunnel, daemon.context.tunnels.lookup key = some tunnel → now < tunnel.creationDate →
      (cleanUpExpiredTunnels now order calls daemon).2.context.tunnels.lookup key = some tunnel

theorem safe_cleaning_iff_passing (now : Nat) (order : Order TunnelEntry) (calls : CleanUpCalls)
    (daemon : Daemon) : SafeCleaning now order calls daemon ↔ Passing calls now daemon := by
  rw [SafeCleaning, clean_up_returned_iff, and_iff_left_iff_imp]
  intro passing key tunnel held ahead
  exact absurd (passing key tunnel held).1 (Nat.not_le_of_lt ahead)

theorem step_creation_date {before after : Daemon} {event : Event}
    (step : Step before event after) (key : UInt32) (tunnel : Tunnel)
    (held : after.context.tunnels.lookup key = some tunnel) :
    before.context.tunnels.lookup key = some tunnel ∨
      ∃ env sender request, event = .request env sender request ∧
        tunnel.creationDate = env.now := by
  obtain ⟨_, rfl⟩ := step
  cases event with
  | request env sender request =>
      cases handled_table_change (handle_request_handled env sender request before) with
      | removals shrinks => exact Or.inl (shrinks.held key tunnel held)
      | insertion user application applicationStr member admitted configuration lookups =>
          simp only [serve, lookups] at held
          split at held
          · cases held
            exact Or.inr ⟨env, sender, request, rfl, rfl⟩
          · exact Or.inl held
  | cleanUp now order calls =>
      exact Or.inl ((clean_up_shrinks now order calls before).held _ _ held)
  | processExit process => exact Or.inl held

theorem run_creation_date {before after : Daemon} {events : List Event}
    (run : LabelledRun.Run Step before events after) (key : UInt32) (tunnel : Tunnel)
    (held : after.context.tunnels.lookup key = some tunnel) :
    before.context.tunnels.lookup key = some tunnel ∨
      ∃ env sender request, Event.request env sender request ∈ events ∧
        tunnel.creationDate = env.now := by
  induction run with
  | refl => exact Or.inl held
  | next first _ ih =>
      rcases ih held with earlier | ⟨env, sender, request, listed, dated⟩
      · rcases step_creation_date first key tunnel earlier with older | opened
        · exact Or.inl older
        · obtain ⟨env, sender, request, rfl, dated⟩ := opened
          exact Or.inr ⟨env, sender, request, List.mem_cons_self, dated⟩
      · exact Or.inr ⟨env, sender, request, List.mem_cons_of_mem _ listed, dated⟩

/-- In a reached state every tunnel is dated by the clock of its `open`, and a
cleaning is safe exactly if no tunnel still in the table was opened under a
clock that was ahead of the cleaning's, and no expired one is notified at a
number that cannot be encoded. -/
theorem reached_cleaning_safe_iff {configuration : Configuration} {status : Status}
    {events : List Event} {daemon : Daemon} (run : Reaches configuration status events daemon)
    (now : Nat) (order : Order TunnelEntry) (calls : CleanUpCalls) :
    (∀ key tunnel, daemon.context.tunnels.lookup key = some tunnel →
      ∃ env sender request, Event.request env sender request ∈ events ∧
        tunnel.creationDate = env.now) ∧
    (SafeCleaning now order calls daemon ↔
      (∀ key tunnel, daemon.context.tunnels.lookup key = some tunnel →
        tunnel.creationDate ≤ now) ∧ NumbersEncode calls now daemon) := by
  refine ⟨?_, (safe_cleaning_iff_passing now order calls daemon).trans
    (passing_iff calls now daemon)⟩
  intro key tunnel held
  rcases run_creation_date run key tunnel held with atStart | opened
  · cases atStart
  · exact opened

def openedAtTen : Daemon :=
  withTunnel (fineEnv 10) alice camera url (Daemon.start house readyStatus)

def opensAtTen : Event := .request (fineEnv 10) alice.phoneNumber "open camera"

def fineCalls : CleanUpCalls := ⟨fun _ => .ok (), fun _ => .ok ()⟩

theorem opened_at_ten_reached : Reaches house readyStatus [opensAtTen] openedAtTen :=
  .next (fine_open_step 10 alice.phoneNumber alice _ (by decide) (by decide +kernel)) (.refl _)

theorem reached_cleaning_safe_after_ten : SafeCleaning 20 (.stored _) fineCalls openedAtTen :=
  (reached_cleaning_safe_iff opened_at_ten_reached 20 (.stored _) fineCalls).2.mpr (by
    constructor
    · intro key tunnel held
      rcases run_creation_date opened_at_ten_reached key tunnel held with atStart | opened
      · cases atStart
      · obtain ⟨env, sender, request, listed, dated⟩ := opened
        simp only [List.mem_singleton, opensAtTen, Event.request.injEq] at listed
        rw [dated, listed.1]
        decide
    · intro key tunnel _ expired
      -- no tunnel is past an hour twenty nanoseconds after the origin
      have young : ¬ fromSecs openedAtTen.context.configuration.sshConfig.tunnelTimeoutSec < 20 := by
        decide
      omega)

theorem cleaning_panics_on_clock_set_back :
    ∃ events daemon, Reaches house readyStatus events daemon ∧
      (cleanUpExpiredTunnels 5 (.stored _) fineCalls daemon).1 = .panic ∧
      ¬ SafeCleaning 5 (.stored _) fineCalls daemon := by
  have panics : (cleanUpExpiredTunnels 5 (.stored _) fineCalls openedAtTen).1 = .panic := rfl
  refine ⟨[opensAtTen], openedAtTen, opened_at_ten_reached, panics, ?_⟩
  rintro ⟨returned, _⟩
  rw [panics] at returned
  exact returned

/-! Cleaning under a clock that was not set back. -/

def killRequest : Effect → Option Child
  | .killed process _ => some process
  | _ => none

def touchedProcess : Effect → Option Child
  | .spawned process | .killed process _ | .dropped process | .exited process => some process
  | _ => none

def notice : Effect → Option (String × String)
  | .smsSent recipient message => some (recipient, message)
  | _ => none

/-- `addressee` gives for each name a configured user of that name, if there is one. -/
def Addresses (configuration : Configuration) (addressee : String → Option User) : Prop :=
  ∀ name, (∀ user, addressee name = some user → user ∈ configuration.users ∧ user.name = name) ∧
    (addressee name = none → ∀ user ∈ configuration.users, user.name ≠ name)

/-- What a cleaning at `now` has to do: keep the young entries as they are, ask
each expired tunnel's process once to end and touch no other, and tell each
expired tunnel's user, if configured, once. -/
structure CleansExactly (now : Nat) (before after : Daemon) (effects : List Effect) : Prop where
  log : after.log = before.log ++ effects
  kept : ∀ key tunnel, after.context.tunnels.lookup key = some tunnel ↔
    before.context.tunnels.lookup key = some tunnel ∧
      now - tunnel.creationDate ≤
        fromSecs before.context.configuration.sshConfig.tunnelTimeoutSec
  killed : (effects.filterMap killRequest).Perm
    ((expiredEntries now before).map fun entry => entry.2.process)
  touched : ∀ effect ∈ effects, ∀ process, touchedProcess effect = some process →
    ∃ entry ∈ expiredEntries now before, entry.2.process = process
  notified : ∃ addressee, Addresses before.context.configuration addressee ∧
    (effects.filterMap notice).Perm ((expiredEntries now before).filterMap fun entry =>
      (addressee entry.2.user).map fun user =>
        (user.phoneNumber, "Expired tunnel " ++ toString entry.1 ++ " has been closed"))
  configuration : after.context.configuration = before.context.configuration
  status : after.context.status = before.context.status

theorem notification_kills_none (configuration : Configuration) (entry : TunnelEntry) :
    (expiryNotification configuration entry).filterMap killRequest = [] := by
  unfold expiryNotification
  split <;> rfl

theorem expiry_effects_kill (kill : Child → Except IoError Unit) (configuration : Configuration)
    (entries : List TunnelEntry) :
    (entries.flatMap (expiryEffects kill configuration)).filterMap killRequest =
      entries.map fun entry => entry.2.process := by
  induction entries with
  | nil => rfl
  | cons entry rest ih =>
      rw [List.flatMap_cons, List.filterMap_append, ih, expiryEffects, List.filterMap_cons,
        notification_kills_none]
      rfl

theorem configured_user_addresses (configuration : Configuration) :
    Addresses configuration (configuredUser configuration) := by
  intro name
  constructor
  · intro user found
    exact ⟨List.mem_of_find?_eq_some found, by simpa using List.find?_some found⟩
  · intro missing user member same
    have other := List.find?_eq_none.mp missing user member
    simp [same] at other

theorem expiry_effects_notices (kill : Child → Except IoError Unit)
    (configuration : Configuration) (entries : List TunnelEntry) :
    (entries.flatMap (expiryEffects kill configuration)).filterMap notice =
      entries.filterMap fun entry => (configuredUser configuration entry.2.user).map fun user =>
        (user.phoneNumber, "Expired tunnel " ++ toString entry.1 ++ " has been closed") := by
  induction entries with
  | nil => rfl
  | cons entry rest ih =>
      rw [List.flatMap_cons, List.filterMap_append, ih, List.filterMap_cons, expiryEffects,
        List.filterMap_cons, expiryNotification, ← configuredUser]
      cases configuredUser configuration entry.2.user with
      | none => rfl
      | some user => rfl

theorem expiry_effect_touches (kill : Child → Except IoError Unit)
    (configuration : Configuration) (entry : TunnelEntry) (effect : Effect)
    (listed : effect ∈ expiryEffects kill configuration entry) (process : Child)
    (touched : touchedProcess effect = some process) : entry.2.process = process := by
  rcases List.mem_cons.mp listed with rfl | notified
  · exact Option.some.inj touched
  · obtain ⟨user, _, rfl⟩ := expiry_notification_sent configuration entry effect notified
    cases touched

theorem drops_are_silent (entries : List TunnelEntry) :
    (entries.map fun entry => Effect.dropped entry.2.process).filterMap killRequest = [] ∧
      (entries.map fun entry => Effect.dropped entry.2.process).filterMap notice = [] := by
  constructor <;> simp [List.filterMap_map, Function.comp_def, killRequest, notice]

theorem clean_up_exact (now : Nat) (order : Order TunnelEntry) (calls : CleanUpCalls)
    (daemon : Daemon) (passing : Passing calls now daemon) :
    ∃ effects, CleansExactly now daemon (cleanUpExpiredTunnels now order calls daemon).2
      effects := by
  rcases clean_up_effects now order calls daemon passing with ⟨completed, log⟩
  have perm := visited_entries_perm now order daemon
  obtain ⟨noKill, noNotice⟩ := drops_are_silent (visitedEntries now order daemon)
  refine ⟨(visitedEntries now order daemon).flatMap
    (expiryEffects calls.kill daemon.context.configuration) ++
      (visitedEntries now order daemon).map (fun entry => .dropped entry.2.process), ?_⟩
  constructor
  case log => exact log
  case kept =>
    intro key tunnel
    rw [clean_up_lookup now order calls daemon (by rw [completed]; trivial)]
    apply and_congr_right
    intro held
    simp [duration_since_of_le now tunnel.creationDate (passing key tunnel held).1]
  case killed =>
    rw [List.filterMap_append, expiry_effects_kill, noKill, List.append_nil]
    exact perm.map _
  case touched =>
    intro effect listed process touched
    rcases List.mem_append.mp listed with visited | dropped
    · obtain ⟨entry, member, among⟩ := List.mem_flatMap.mp visited
      exact ⟨entry, perm.mem_iff.mp member,
        expiry_effect_touches calls.kill _ entry effect among process touched⟩
    · obtain ⟨entry, member, rfl⟩ := List.mem_map.mp dropped
      exact ⟨entry, perm.mem_iff.mp member, Option.some.inj touched⟩
  case notified =>
    refine ⟨configuredUser daemon.context.configuration,
      configured_user_addresses daemon.context.configuration, ?_⟩
    rw [List.filterMap_append, expiry_effects_notices, noNotice, List.append_nil]
    exact perm.filterMap _
  case configuration => exact (clean_up_shrinks now order calls daemon).configuration
  case status => exact clean_up_status now order calls daemon

/-- Under a reading no earlier than any creation date, whatever the order of the
map and whichever kills and notifications fail, a cleaning removes exactly the
expired tunnels if and only if the numbers it gets to write to can be encoded. -/
theorem clean_up_removes_exactly_expired_iff (now : Nat) (order : Order TunnelEntry)
    (calls : CleanUpCalls) (daemon : Daemon)
    (dated : ∀ key tunnel, daemon.context.tunnels.lookup key = some tunnel →
      tunnel.creationDate ≤ now) :
    ((cleanUpExpiredTunnels now order calls daemon).1 = .ok () ∧
      ∃ effects, CleansExactly now daemon (cleanUpExpiredTunnels now order calls daemon).2
        effects) ↔ NumbersEncode calls now daemon := by
  have passing := passing_iff calls now daemon
  rw [← and_iff_right (b := NumbersEncode calls now daemon) dated, ← Dated, ← passing]
  constructor
  · rintro ⟨completed, _⟩
    rw [← clean_up_returned_iff now order calls daemon, completed]
    trivial
  · intro passes
    exact ⟨(clean_up_effects now order calls daemon passes).1,
      clean_up_exact now order calls daemon passes⟩

theorem two_open_dated : Dated 4000000000000 twoOpen := by
  intro key tunnel held
  rcases run_creation_date two_open_reached key tunnel held with atStart | opened
  · cases atStart
  · obtain ⟨env, sender, request, listed, dated⟩ := opened
    simp only [List.mem_cons, aliceOpens, bobOpens, Event.request.injEq,
      List.not_mem_nil, or_false] at listed
    rcases listed with ⟨rfl, _⟩ | ⟨rfl, _⟩
    · rw [dated]; decide
    · rw [dated]; decide

theorem two_open_encode (calls : CleanUpCalls) : NumbersEncode calls 4000000000000 twoOpen := by
  intro key tunnel _ _ _ user found
  have encode : ∀ user ∈ house.users,
      (SmsUtils.encodePhoneNumber user.phoneNumber).isSome = true := by decide
  exact encode user (List.mem_of_find?_eq_some found)

def failingKills : CleanUpCalls := ⟨fun _ => .error ⟨"gone"⟩, fun _ => .ok ()⟩

theorem clean_up_two_expired :
    ∃ effects, CleansExactly 4000000000000 twoOpen
      (cleanUpExpiredTunnels 4000000000000 (.stored _) failingKills twoOpen).2 effects :=
  ((clean_up_removes_exactly_expired_iff 4000000000000 (.stored _) failingKills twoOpen
    two_open_dated).mpr (two_open_encode failingKills)).2

def longNumbered : Configuration :=
  { house with users := [⟨"Bob", "+3360000000022", "bob.two@example.org"⟩, bob] }

def longNumberedOpen : Daemon :=
  withTunnel (fineEnv 0) bob camera url (Daemon.start longNumbered readyStatus)

theorem long_number_stops_cleaning :
    ∃ events daemon, Reaches longNumbered readyStatus events daemon ∧
      Dated 4000000000000 daemon ∧
      (cleanUpExpiredTunnels 4000000000000 (.stored _) fineCalls daemon).1 = .panic ∧
      ¬ ∃ effects, CleansExactly 4000000000000 daemon
        (cleanUpExpiredTunnels 4000000000000 (.stored _) fineCalls daemon).2 effects := by
  have opens := fine_open_step 0 bob.phoneNumber bob (Daemon.start longNumbered readyStatus)
    (by decide) (by decide +kernel)
  have run : Reaches longNumbered readyStatus _ longNumberedOpen := .next opens (.refl _)
  have held : longNumberedOpen.context.tunnels.lookup 0 =
      some ⟨"Bob", "camera", ⟨0⟩, 0⟩ := rfl
  have kept : (cleanUpExpiredTunnels 4000000000000 (.stored _) fineCalls
      longNumberedOpen).2.context.tunnels.lookup 0 = some ⟨"Bob", "camera", ⟨0⟩, 0⟩ := by
    decide +kernel
  refine ⟨_, longNumberedOpen, run, ?_, by decide +kernel, ?_⟩
  · intro key tunnel found
    rcases run_creation_date run key tunnel found with atStart | opened
    · cases atStart
    · obtain ⟨env, sender, request, listed, dated⟩ := opened
      cases List.mem_singleton.mp listed
      rw [dated]
      decide
  · rintro ⟨effects, exact⟩
    -- the tunnel is older than the limit of an hour and still there
    have young := ((exact.kept 0 _).mp kept).2
    exact absurd young (by decide)

end TelcoVecchio.ExpiryCleaning
