import TelcoVecchio.ExpiryCleaning
import TelcoVecchio.ModemAnswers

/-!
Notifications that are sent long after the request they belong to: the expiry of
a tunnel and the end of a reboot. A station is the daemon, when it runs, and the
register of the init listener, over any number of starts. Next to them stands
what the notifications are owed to: the phone that opened each tunnel and the
phone that asked last for a reboot not yet reported.
-/

namespace TelcoVecchio.DeferredNotices

open Common Status Request Service ExpiryCleaning Replies Init

structure Station where
  daemon : Option Daemon
  register : Option String
  openers : UInt32 → Option String
  rebooter : Option String

def Station.fresh : Station := ⟨none, none, fun _ => none, none⟩

inductive Move where
  | serve (event : Event)
  | start (env : StartEnv)

def added (before after : Daemon) : List Effect := after.log.drop before.log.length

theorem added_of_log {before after : Daemon} {later : List Effect}
    (log : after.log = before.log ++ later) : added before after = later := by
  rw [added, log, List.drop_left]

def leftRegister : List Effect → Option String → Option String
  | [], register => register
  | .initListenerRegistered name :: rest, _ => leftRegister rest (some name)
  | _ :: rest, register => leftRegister rest register

/-- A tunnel found under a reference that did not hold it belongs to the sender. -/
def openersAfter (openers : UInt32 → Option String) (sender : String) (before after : Daemon)
    (reference : UInt32) : Option String :=
  if (after.context.tunnels.lookup reference).isSome ∧
      after.context.tunnels.lookup reference ≠ before.context.tunnels.lookup reference then
    some sender
  else openers reference

def rebooterAfter (rebooter : Option String) (sender : String) (outcome : Outcome String)
    (effects : List Effect) : Option String :=
  if outcome = .ok "Rebooting..." ∧ .rebootScheduled ∈ effects then some sender else rebooter

def Station.serve (station : Station) (daemon : Daemon) (event : Event) (left : Option Daemon) :
    Station :=
  let after := Service.serve daemon event
  let effects := added daemon after
  match event with
  | .request env sender request =>
      { daemon := left
        register := leftRegister effects station.register
        openers := openersAfter station.openers sender daemon after
        rebooter := rebooterAfter station.rebooter sender
          (handleRequest env sender request daemon).1 effects }
  | .cleanUp _ _ _ | .processExit _ =>
      { station with daemon := left, register := leftRegister effects station.register }

section Runs
variable (initConfig : InitConfig) (configuration : Configuration)

def begin (env : StartEnv) (register : Option String) : Started :=
  init (.ok (initConfig, configuration)) env register

/-- A start that gets past `sms_utils::init` settles what a reboot is owed. -/
def Station.start (station : Station) (env : StartEnv) : Station :=
  let started := begin initConfig configuration env station.register
  { daemon :=
      match started.result with
      | .ok context => some { context, log := [] }
      | .err _ | .panic | .stuck => none
    register := started.register
    openers := station.openers
    rebooter :=
      if (passedSmsInit initConfig configuration env).isSome then none else station.rebooter }

/-- A panic ends the daemon, and one that waits forever serves nothing more. A
start takes the place of a daemon that still runs. -/
inductive Step : Station → Move → Station → Prop
  | served (station daemon event) (running : station.daemon = some daemon)
      (returns : Returns daemon event) :
      Step station (.serve event)
        (station.serve daemon event (some (Service.serve daemon event)))
  | ended (station daemon event) (running : station.daemon = some daemon)
      (ends : ¬ Returns daemon event) :
      Step station (.serve event) (station.serve daemon event none)
  | started (station env) :
      Step station (.start env) (station.start initConfig configuration env)

/-- What the next move may send by itself, the responses of the main loop apart:
while serving, only expiries, each to the phone that opened the tunnel; at a
start, the end of the reboot that is owed, if any, once messages can be sent. -/
def Addressed (station : Station) : Move → Prop
  | .serve event => ∀ daemon, station.daemon = some daemon → ∀ recipient message,
      .smsSent recipient message ∈ added daemon (Service.serve daemon event) →
        ∃ reference tunnel, daemon.context.tunnels.lookup reference = some tunnel ∧
          station.openers reference = some recipient ∧
          message = "Expired tunnel " ++ toString reference ++ " has been closed"
  | .start env =>
      (begin initConfig configuration env station.register).effects.filterMap notice =
        match passedSmsInit initConfig configuration env with
        | some status =>
            station.rebooter.toList.map fun phone => (phone, startUpText env.statusOrder status)
        | none => []

def NoticesAddressed (guard : Station → Move → Prop) : Prop :=
  ∀ moves station,
    LabelledRun.Run (LabelledRun.guarded guard (Step initConfig configuration)) Station.fresh
      moves station →
    ∀ move, Addressed initConfig configuration station move

/-- An `open` or `reboot` comes from the first user bearing the name of its sender. -/
def FirstOfName (_ : Station) : Move → Prop
  | .serve (.request _ sender request) =>
      requestWord request = some "open" ∨ requestWord request = some "reboot" →
        ∀ user, senderUser configuration sender = some user →
          (configuredUser configuration user.name).map User.phoneNumber = some sender
  | _ => True

end Runs

def silent : Effect → Bool
  | .smsSent _ _ | .initListenerRegistered _ | .rebootScheduled => false
  | _ => true

theorem left_register_unchanged (effects : List Effect) (register : Option String)
    (unregistered : ∀ effect ∈ effects, ∀ name, effect ≠ .initListenerRegistered name) :
    leftRegister effects register = register := by
  induction effects with
  | nil => rfl
  | cons effect rest ih =>
      have later := ih fun other listed => unregistered other (List.mem_cons_of_mem effect listed)
      cases effect with
      | initListenerRegistered name => exact absurd rfl (unregistered _ List.mem_cons_self name)
      | _ => exact later

theorem handled_remembers {env : Env} {sender request : String} {before after : Daemon}
    {outcome : Outcome String} (handled : Handled env sender request before outcome after) :
    Adds (fun effect => silent effect = true) before after ∨
      (outcome = .ok "Rebooting..." ∧ requestWord request = some "reboot" ∧ ∃ user,
        senderUser before.context.configuration sender = some user ∧
        after.log = before.log ++ [.initListenerRegistered user.name, .rebootScheduled]) := by
  cases handled with
  | notAllowed | rejected | statusEnded => exact Or.inl (adds_refl before)
  | statusResolved => exact Or.inl ⟨[], by simp, by simp⟩
  | setupEnded user application applicationStr outcome effects _ _ _ ended =>
      refine Or.inl (record_adds before effects ?_)
      rcases ended with rfl | rfl | ⟨_, rfl⟩ <;> simp [silent]
  | emailFailed => exact Or.inl (record_adds before _ (by simp [silent, urlMail]))
  | opened user application applicationStr url =>
      exact Or.inl (adds_trans (record_adds before _ (by simp [silent, urlMail]))
        (insert_adds (fun _ => rfl) _ _ _))
  | closed _ _ _ references =>
      exact Or.inl (close_adds (fun _ => rfl) (fun _ _ => rfl) env.kill references before)
  | scheduled user message effects allowed choice words =>
      rcases choice with ⟨rfl, rfl⟩ | ⟨rfl, rfl⟩
      · obtain ⟨command, args, split, isReboot⟩ := words
        have word : requestWord request = some "reboot" := by
          simp [requestWord, split, isReboot (by simp)]
        exact Or.inr ⟨rfl, word, user, allowed, rfl⟩
      · exact Or.inl (record_adds before _ (by simp [silent]))

theorem handled_new_tunnel {env : Env} {sender request : String} {before after : Daemon}
    {outcome : Outcome String} (handled : Handled env sender request before outcome after)
    (reference : UInt32) (tunnel : Tunnel)
    (held : after.context.tunnels.lookup reference = some tunnel) :
    before.context.tunnels.lookup reference = some tunnel ∨
      (requestWord request = some "open" ∧ ∃ user,
        senderUser before.context.configuration sender = some user ∧ tunnel.user = user.name) := by
  cases handled with
  | opened user application applicationStr url completes =>
      rw [with_tunnel_lookup] at held
      split at held
      · cases held
        obtain ⟨command, rest, split, isOpen⟩ := completes.words
        exact Or.inr ⟨by simp [requestWord, split, isOpen], user, completes.allowed, rfl⟩
      · exact Or.inl held
  | closed _ _ _ references =>
      exact Or.inl ((close_shrinks env.kill references before).held reference tunnel held)
  | _ => exact Or.inl held

/-- What the guarded moves keep: looking a name up again leads to the phone that
the tunnel or the register is owed to. -/
structure Kept (configuration : Configuration) (station : Station) : Prop where
  configured : ∀ daemon, station.daemon = some daemon →
    daemon.context.configuration = configuration
  opened : ∀ daemon, station.daemon = some daemon → ∀ reference tunnel,
    daemon.context.tunnels.lookup reference = some tunnel →
      station.openers reference =
        (configuredUser configuration tunnel.user).map User.phoneNumber
  listener : (lookupInitListener configuration station.register).map User.phoneNumber =
    station.rebooter

theorem fresh_kept (configuration : Configuration) : Kept configuration Station.fresh := by
  refine ⟨?_, ?_, rfl⟩
  · intro daemon running
    cases running
  · intro daemon running
    cases running

section Kept
variable {configuration : Configuration} {station : Station}

section Requests
variable (kept : Kept configuration station) (daemon : Daemon)
  (running : station.daemon = some daemon) (env : Env) (sender request : String)
  (first : FirstOfName configuration station (.serve (.request env sender request)))
include kept running

theorem request_configuration :
    (handleRequest env sender request daemon).2.context.configuration = configuration := by
  rw [← kept.configured daemon running]
  cases handled_table_change (handle_request_handled env sender request daemon) with
  | removals shrinks => exact shrinks.configuration
  | insertion _ _ _ _ _ same => exact same

include first

theorem request_opened (reference : UInt32) (tunnel : Tunnel)
    (held : (handleRequest env sender request daemon).2.context.tunnels.lookup reference =
      some tunnel) :
    openersAfter station.openers sender daemon (handleRequest env sender request daemon).2
        reference = (configuredUser configuration tunnel.user).map User.phoneNumber := by
  by_cases unchanged : (handleRequest env sender request daemon).2.context.tunnels.lookup
      reference = daemon.context.tunnels.lookup reference
  · rw [openersAfter, if_neg (by simp [unchanged])]
    exact kept.opened daemon running reference tunnel (unchanged ▸ held)
  · rw [openersAfter, if_pos ⟨by simp [held], unchanged⟩]
    rcases handled_new_tunnel (handle_request_handled env sender request daemon) reference tunnel
      held with older | ⟨word, user, allowed, name⟩
    · exact absurd (held.trans older.symm) unchanged
    · rw [kept.configured daemon running] at allowed
      rw [name]
      exact (first (Or.inl word) user allowed).symm

theorem request_listener :
    (lookupInitListener configuration (leftRegister
      (added daemon (handleRequest env sender request daemon).2) station.register)).map
        User.phoneNumber =
      rebooterAfter station.rebooter sender (handleRequest env sender request daemon).1
        (added daemon (handleRequest env sender request daemon).2) := by
  rcases handled_remembers (handle_request_handled env sender request daemon) with
    ⟨later, log, quiet⟩ | ⟨said, word, user, allowed, log⟩
  · rw [added_of_log log, left_register_unchanged, rebooterAfter, if_neg]
    · exact kept.listener
    · rintro ⟨_, listed⟩
      cases quiet _ listed
    · rintro effect listed name rfl
      cases quiet _ listed
  · rw [kept.configured daemon running] at allowed
    rw [added_of_log log, rebooterAfter, if_pos ⟨said, by simp⟩]
    exact first (Or.inr word) user allowed

theorem request_kept (left : Option Daemon)
    (survives : ∀ after, left = some after → after = (handleRequest env sender request daemon).2) :
    Kept configuration (station.serve daemon (.request env sender request) left) := by
  refine ⟨?_, ?_, request_listener kept daemon running env sender request first⟩
  · intro after isLeft
    rw [survives after isLeft]
    exact request_configuration kept daemon running env sender request
  · intro after isLeft reference tunnel held
    rw [survives after isLeft] at held
    exact request_opened kept daemon running env sender request first reference tunnel held

end Requests

theorem unattended_kept (kept : Kept configuration station) (daemon after : Daemon)
    (running : station.daemon = some daemon) (shrinks : Shrinks daemon after)
    (adds : Adds (fun effect => ∀ name, effect ≠ .initListenerRegistered name) daemon after)
    (left : Option Daemon) (survives : ∀ other, left = some other → other = after) :
    Kept configuration
      { station with
        daemon := left
        register := leftRegister (added daemon after) station.register } := by
  obtain ⟨later, log, unregistered⟩ := adds
  refine ⟨?_, ?_, ?_⟩
  · rintro other rfl
    rw [survives other rfl, shrinks.configuration]
    exact kept.configured daemon running
  · rintro other rfl reference tunnel held
    rw [survives other rfl] at held
    exact kept.opened daemon running reference tunnel (shrinks.held reference tunnel held)
  · rw [added_of_log log, left_register_unchanged later _ unregistered]
    exact kept.listener

theorem serve_kept (kept : Kept configuration station) (daemon : Daemon)
    (running : station.daemon = some daemon) (event : Event)
    (first : FirstOfName configuration station (.serve event)) (left : Option Daemon)
    (survives : ∀ after, left = some after → after = Service.serve daemon event) :
    Kept configuration (station.serve daemon event left) := by
  cases event with
  | request env sender request =>
      exact request_kept kept daemon running env sender request first left survives
  | cleanUp now order calls =>
      refine unattended_kept kept daemon _ running (clean_up_shrinks now order calls daemon) ?_ left
        survives
      apply clean_up_adds now order calls daemon
      · rintro process name impossible
        cases impossible
      · rintro process succeeded name impossible
        cases impossible
      · intro key tunnel _ effect listed name
        obtain ⟨user, _, rfl⟩ := expiry_notification_sent _ _ effect listed
        rintro impossible
        cases impossible
  | processExit process =>
      exact unattended_kept kept daemon (daemon.record [.exited process]) running
        (shrinks_of_context rfl rfl) (record_adds daemon _ (by simp)) left survives

theorem start_kept (kept : Kept configuration station) (initConfig : InitConfig) (env : StartEnv) :
    Kept configuration (station.start initConfig configuration env) := by
  have fromContext : ∀ daemon, (station.start initConfig configuration env).daemon = some daemon →
      ∃ status, daemon.context = Context.new configuration status := by
    intro daemon running
    simp only [Station.start] at running
    cases result : (begin initConfig configuration env station.register).result with
    | ok context =>
        rw [result] at running
        cases running
        obtain ⟨status, _, begun⟩ :=
          init_context initConfig configuration env station.register context result
        exact ⟨status, begun⟩
    | err _ | panic | stuck =>
        rw [result] at running
        cases running
  refine ⟨?_, ?_, ?_⟩
  · intro daemon running
    obtain ⟨status, context⟩ := fromContext daemon running
    rw [context]
    rfl
  · intro daemon running reference tunnel held
    obtain ⟨status, context⟩ := fromContext daemon running
    rw [context] at held
    simp [Context.new] at held
  · cases passed : passedSmsInit initConfig configuration env with
    | some status =>
        simp [Station.start, begin, init_passed _ _ _ _ status passed, passed, lookupInitListener]
    | none =>
        simp only [Station.start, begin, passed,
          (init_not_passed initConfig configuration env station.register passed).1]
        exact kept.listener

theorem step_kept {initConfig : InitConfig} {after : Station} {move : Move}
    (kept : Kept configuration station) (first : FirstOfName configuration station move)
    (step : Step initConfig configuration station move after) : Kept configuration after := by
  cases step with
  | served daemon event running =>
      exact serve_kept kept daemon running event first _ fun _ left => (Option.some.inj left).symm
  | ended daemon event running =>
      exact serve_kept kept daemon running event first _ fun _ left => nomatch left
  | started env => exact start_kept kept initConfig env

/-- The notifications of a cleaning, even of one that panics on the way. -/
theorem clean_up_addressed (kept : Kept configuration station) (daemon : Daemon)
    (running : station.daemon = some daemon) (now : Nat) (order : Order TunnelEntry)
    (calls : CleanUpCalls) (recipient message : String)
    (listed : .smsSent recipient message ∈
      added daemon (cleanUpExpiredTunnels now order calls daemon).2) :
    ∃ reference tunnel, daemon.context.tunnels.lookup reference = some tunnel ∧
      station.openers reference = some recipient ∧
      message = "Expired tunnel " ++ toString reference ++ " has been closed" := by
  let kind : Effect → Prop := fun effect => effect = .smsSent recipient message →
    ∃ reference tunnel, daemon.context.tunnels.lookup reference = some tunnel ∧
      station.openers reference = some recipient ∧
      message = "Expired tunnel " ++ toString reference ++ " has been closed"
  have adds : Adds kind daemon (cleanUpExpiredTunnels now order calls daemon).2 := by
    apply clean_up_adds now order calls daemon
    · rintro process impossible
      cases impossible
    · rintro process succeeded impossible
      cases impossible
    · intro reference tunnel held effect notified sent
      obtain ⟨user, found, rfl⟩ := expiry_notification_sent _ _ effect notified
      cases sent
      refine ⟨reference, tunnel, held, ?_, rfl⟩
      rw [kept.opened daemon running reference tunnel held,
        ← kept.configured daemon running, configuredUser, found]
      rfl
  obtain ⟨later, log, ofKind⟩ := adds
  rw [added_of_log log] at listed
  exact ofKind _ listed rfl

theorem start_addressed (kept : Kept configuration station) (initConfig : InitConfig)
    (env : StartEnv) : Addressed initConfig configuration station (.start env) := by
  simp only [Addressed, begin]
  cases passed : passedSmsInit initConfig configuration env with
  | none =>
      rw [(init_not_passed initConfig configuration env station.register passed).2]
      rfl
  | some status =>
      rw [init_passed _ _ _ _ status passed, ← kept.listener]
      cases lookupInitListener configuration station.register with
      | none => rfl
      | some user => rfl

theorem move_addressed (kept : Kept configuration station) (initConfig : InitConfig)
    (move : Move) : Addressed initConfig configuration station move := by
  cases move with
  | start env => exact start_addressed kept initConfig env
  | serve event =>
      intro daemon running recipient message listed
      cases event with
      | cleanUp now order calls =>
          exact clean_up_addressed kept daemon running now order calls recipient message listed
      | processExit process =>
          change _ ∈ added daemon (daemon.record [.exited process]) at listed
          rw [added_of_log rfl] at listed
          simp at listed
      | request env sender request =>
          change _ ∈ added daemon (handleRequest env sender request daemon).2 at listed
          rcases handled_remembers (handle_request_handled env sender request daemon) with
            ⟨later, log, quiet⟩ | ⟨_, _, user, _, log⟩
          · rw [added_of_log log] at listed
            cases quiet _ listed
          · rw [added_of_log log] at listed
            simp at listed

end Kept

theorem notices_addressed (initConfig : InitConfig) (configuration : Configuration) :
    NoticesAddressed initConfig configuration (FirstOfName configuration) := by
  intro moves station run move
  have kept := LabelledRun.run_invariant (Kept configuration)
    (fun _ _ _ step kept => step_kept kept step.1 step.2) run (fresh_kept configuration)
  exact move_addressed kept initConfig move

/-! A start on a modem with LTE coverage and a reboot that a user asks for. -/

def coverage : ModemAnswers.ModemAnswer :=
  ⟨"\x7b\"pin1_status\":\"verified\"\x7d",
    "\x7b\"lte\":\x7b\"service_status\":\"available\"\x7d\x7d"⟩

def readCoverage (text : String) : Option JsonValue :=
  if text = coverage.simState then some (.object [("pin1_status", .string "verified")])
  else if text = coverage.systemInfo then
    some (.object [("lte", .object [("service_status", .string "available")])])
  else none

def fineStart : StartEnv :=
  { probes := fun _ => ModemAnswers.answering readCoverage coverage silentProbe
    verifySimPin := .exited true []
    smsInit := .ok ()
    statusOrder := .stored _
    openPort := .ok () }

theorem fine_device_status (configuration : Configuration) (rest : StatusProbe)
    (reached : isConnectedToInternet rest.internetPing configuration.emailConfig.internetHost =
      true) :
    getDeviceStatus (ModemAnswers.answering readCoverage coverage rest) configuration =
      .ok .ready := by
  have simState : readCoverage coverage.simState =
      some (.object [("pin1_status", .string "verified")]) := by simp [readCoverage]
  have systemInfo : readCoverage coverage.systemInfo =
      some (.object [("lte", .object [("service_status", .string "available")])]) := by
    simp [readCoverage, coverage]
  simp only [getDeviceStatus, isSimLocked, isConnectedToLte, ModemAnswers.answering,
    ModemAnswers.query_text, simState, systemInfo]
  simp [reached, JsonValue.index, JsonValue.getString, Outcome.bind]

theorem fine_status_resolved (configuration : Configuration) : ∃ status,
    getStatus (fineStart.probes 0) configuration = .ok status ∧ status.deviceStatus = .ready := by
  have ready : getDeviceStatus (fineStart.probes 0) configuration = .ok .ready :=
    fine_device_status configuration silentProbe rfl
  exact ⟨_, by rw [getStatus, ready, Outcome.bind], rfl⟩

theorem fine_start_passes (configuration : Configuration) : ∃ status,
    passedSmsInit ⟨0⟩ configuration fineStart = some status := by
  obtain ⟨status, resolved, ready⟩ := fine_status_resolved configuration
  exact ⟨status, passed_of_ready ⟨0⟩ configuration fineStart status resolved ready rfl⟩

section Rebooting
variable (configuration : Configuration) (status : Status) (user : User)

def reboots : Event := .request (fineEnv 0) user.phoneNumber "reboot"

def rebooting : Station :=
  (Station.fresh.start ⟨0⟩ configuration fineStart).serve (Daemon.start configuration status)
    (reboots user) (some (serve (Daemon.start configuration status) (reboots user)))

variable (allowed : senderUser configuration user.phoneNumber = some user)
include allowed

theorem reboot_handled :
    handleRequest (fineEnv 0) user.phoneNumber "reboot" (Daemon.start configuration status) =
      (.ok "Rebooting...", (Daemon.start configuration status).record
        [.initListenerRegistered user.name, .rebootScheduled]) := by
  have known : senderUser (Daemon.start configuration status).context.configuration
      user.phoneNumber = some user := allowed
  have words : RustText.splitWhitespace "reboot" = ["reboot"] := by decide
  have word : commandWord "reboot" = "reboot" := by decide
  simp only [handleRequest, known, words, runCommand, word, String.reduceEq, if_false, if_true,
    reboot]

theorem rebooting_reached (guard : Station → Move → Prop)
    (startAllowed : guard Station.fresh (.start fineStart))
    (rebootAllowed : ∀ station, guard station (.serve (reboots user)))
    (passed : passedSmsInit ⟨0⟩ configuration fineStart = some status) :
    LabelledRun.Run (LabelledRun.guarded guard (Step ⟨0⟩ configuration)) Station.fresh
      [.start fineStart, .serve (reboots user)] (rebooting configuration status user) := by
  have started : (Station.fresh.start ⟨0⟩ configuration fineStart).daemon =
      some (Daemon.start configuration status) := by
    simp [Station.start, begin, init_passed _ _ _ _ status passed, Daemon.start, Station.fresh,
      lookupInitListener, startUpNoticePanics]
  have returns : Returns (Daemon.start configuration status) (reboots user) := by
    simp only [reboots, Returns, reboot_handled configuration status user allowed, Returned]
  exact .next ⟨startAllowed, .started _ fineStart⟩
    (.next ⟨rebootAllowed _, .served _ _ _ started returns⟩ (.refl _))

theorem rebooting_owed :
    (rebooting configuration status user).register = some user.name ∧
      (rebooting configuration status user).rebooter = some user.phoneNumber := by
  simp only [rebooting, reboots, Station.serve, serve,
    reboot_handled configuration status user allowed, added_of_log (record_log _ _)]
  exact ⟨rfl, rfl⟩

end Rebooting

theorem alice_notified : ∃ status,
    (begin ⟨0⟩ house fineStart (some alice.name)).effects.filterMap notice =
      [(alice.phoneNumber, startUpText fineStart.statusOrder status)] := by
  obtain ⟨status, passed⟩ := fine_start_passes house
  refine ⟨status, ?_⟩
  have run := rebooting_reached house status alice rfl (FirstOfName house) trivial
    (fun _ _ user sent => by cases sent; rfl) passed
  have told := notices_addressed ⟨0⟩ house _ _ run (.start fineStart)
  rw [Addressed, (rebooting_owed house status alice rfl).1,
    (rebooting_owed house status alice rfl).2] at told
  rw [told, passed]
  rfl

def namesake : User := ⟨"Bob", "+33600000003", "other.bob@example.org"⟩

def namesakes : Configuration := { house with users := [bob, namesake] }

theorem namesake_not_notified : ¬ ∀ initConfig configuration,
    (configuration.users.map User.phoneNumber).Nodup →
      NoticesAddressed initConfig configuration fun _ _ => True := by
  intro addressed
  obtain ⟨status, passed⟩ := fine_start_passes namesakes
  have run := rebooting_reached namesakes status namesake rfl (fun _ _ => True) trivial
    (fun _ => trivial) passed
  have told := addressed ⟨0⟩ namesakes (by decide) _ _ run (.start fineStart)
  have found : lookupInitListener namesakes (some namesake.name) = some bob := rfl
  simp only [Addressed, begin, init_passed _ _ _ _ status passed, passed,
    (rebooting_owed namesakes status namesake rfl).1,
    (rebooting_owed namesakes status namesake rfl).2, found] at told
  simp [startUpNotice, notice, bob, namesake] at told

end TelcoVecchio.DeferredNotices
