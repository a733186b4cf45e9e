import Mathlib.Data.List.AList
import TelcoVecchio.RustText
import TelcoVecchio.HandleLedger
import TelcoVecchio.PhoneText

/-!
The data of `daemon/src/common.rs`, `user.rs`, `application.rs` and the types
of `status.rs`. A `HashMap` is an association list with unique keys; its
iteration order is chosen anew by the environment at every traversal. A
`tokio::process::Child` is the number of its spawn, and what happens to the
ssh processes is recorded, in order, next to the context.
-/

namespace TelcoVecchio.Common

/-- `std::io::Error`, known by what its `Debug` prints. -/
structure IoError where
  debug : String
  deriving DecidableEq

/-- `surge_ping::SurgeError`, known by what its `Debug` prints. -/
structure SurgeError where
  debug : String
  deriving DecidableEq

inductive Error where
  | ioError (value : IoError)
  | smsInitError
  | smsReadingError
  | smsSendingError
  | systemCommandExecutionError
  | sshTunnelUrlParsingError
  | sshTunnelUrlSetupTimeout
  | sshTunnelServiceError (code : String)
  | configurationParsingError (debug : String)
  | qmiResponseParsingError (message : String)
  | senderNotAllowed (sender : String)
  | invalidRequestError (message : String)
  | domainNameResolutionError
  | pingError (value : SurgeError)
  | invalidStatus (message : String)
  deriving DecidableEq

/-- `#[derive(Debug)]` of `Error`. -/
def Error.debug (escaped : Char → Bool) : Error → String
  | .ioError value => "IoError(" ++ value.debug ++ ")"
  | .smsInitError => "SmsInitError"
  | .smsReadingError => "SmsReadingError"
  | .smsSendingError => "SmsSendingError"
  | .systemCommandExecutionError => "SystemCommandExecutionError"
  | .sshTunnelUrlParsingError => "SshTunnelUrlParsingError"
  | .sshTunnelUrlSetupTimeout => "SshTunnelUrlSetupTimeout"
  | .sshTunnelServiceError code =>
      "SshTunnelServiceError(" ++ RustText.debugText escaped code ++ ")"
  | .configurationParsingError debug => "ConfigurationParsingError(" ++ debug ++ ")"
  | .qmiResponseParsingError message =>
      "QmiResponseParsingError(" ++ RustText.debugText escaped message ++ ")"
  | .senderNotAllowed sender => "SenderNotAllowed(" ++ RustText.debugText escaped sender ++ ")"
  | .invalidRequestError message =>
      "InvalidRequestError(" ++ RustText.debugText escaped message ++ ")"
  | .domainNameResolutionError => "DomainNameResolutionError"
  | .pingError value => "PingError(" ++ value.debug ++ ")"
  | .invalidStatus message => "InvalidStatus(" ++ RustText.debugText escaped message ++ ")"

inductive Outcome (Value : Type) where
  | ok (value : Value)
  | err (error : Error)
  | panic
  | stuck
  deriving DecidableEq

/-- The `?` operator. -/
def Outcome.bind {Value Next : Type} (outcome : Outcome Value) (next : Value → Outcome Next) :
    Outcome Next :=
  match outcome with
  | .ok value => next value
  | .err error => .err error
  | .panic => .panic
  | .stuck => .stuck

def Outcome.ofExcept {Value : Type} : Except Error Value → Outcome Value
  | .ok value => .ok value
  | .error error => .err error

structure IpAddr where
  octets : List UInt8
  deriving DecidableEq

structure User where
  name : String
  phoneNumber : String
  email : String
  deriving DecidableEq

structure Application where
  name : String
  hostIp : IpAddr
  port : Int
  endPoint : String
  deriving DecidableEq

structure EmailConfig where
  serverDomain : String
  internetHost : IpAddr
  deriving DecidableEq

structure SshConfig where
  serviceHost : String
  tunnelTimeoutSec : UInt64
  tunnelRefreshPeriodSec : UInt64
  tunnelMaxNumber : Option UInt32
  deriving DecidableEq

structure Configuration where
  users : List User
  applications : List Application
  emailConfig : EmailConfig
  sshConfig : SshConfig
  deriving DecidableEq

inductive ServiceStatus where
  | reachable | unreachable
  deriving DecidableEq

inductive DeviceStatus where
  | simLocked | lteNotConnected | internetUnreachable | ready
  deriving DecidableEq

structure Status where
  deviceStatus : DeviceStatus
  emailServiceStatus : ServiceStatus
  sshTunnelServiceStatus : ServiceStatus
  applicationsStatus : AList fun _ : String => ServiceStatus

/-- `Duration::from_secs`, in nanoseconds. -/
def fromSecs (seconds : UInt64) : Nat := seconds.toNat * 1000000000

/-- `SystemTime::duration_since`, on nanoseconds from a fixed origin before
every reading: no duration when `earlier` is later. -/
def durationSince (later earlier : Nat) : Option Nat :=
  if earlier ≤ later then some (later - earlier) else none

structure Child where
  pid : Nat
  deriving DecidableEq

structure Tunnel where
  user : String
  application : String
  process : Child
  creationDate : Nat
  deriving DecidableEq

abbrev Tunnels := AList fun _ : UInt32 => Tunnel
abbrev TunnelEntry := Sigma fun _ : UInt32 => Tunnel

structure Context where
  configuration : Configuration
  status : Status
  tunnels : Tunnels

def Context.new (configuration : Configuration) (status : Status) : Context :=
  { configuration, status, tunnels := ∅ }

def Context.updateStatus (context : Context) (status : Status) : Context := { context with status }

/-- `HashMap::len` of the tunnel table. -/
def tunnelCount (tunnels : Tunnels) : Nat := tunnels.entries.length

/-- The order in which a `HashMap` is traversed. -/
structure Order (Item : Type) where
  arrange : List Item → List Item
  perm : ∀ items, (arrange items).Perm items

def Order.stored (Item : Type) : Order Item := ⟨id, fun items => List.Perm.refl items⟩

inductive Effect where
  | setupCalled (hostIp : IpAddr) (port : Int)
  | spawned (process : Child)
  | killed (process : Child) (succeeded : Bool)
  | dropped (process : Child)
  | exited (process : Child)
  | emailed (recipient title message : String)
  | smsSent (recipient message : String)
  | initListenerRegistered (name : String)
  | rebootScheduled
  | poweroffScheduled
  | rebooted
  deriving DecidableEq

/-- Dropping a `Child` configured with `kill_on_drop` ends its process, and so
does a kill that succeeded. -/
def Effect.ledger : Effect → List (HandleLedger.Entry Child)
  | .spawned process => [.opened process]
  | .killed process true => [.closed process]
  | .dropped process => [.closed process]
  | .exited process => [.closed process]
  | _ => []

/-- The ssh processes that were spawned and have not ended. -/
def live (log : List Effect) : List Child := HandleLedger.live (log.flatMap Effect.ledger)

def isSpawn : Effect → Bool
  | .spawned _ => true
  | _ => false

def nextChild (log : List Effect) : Child := ⟨log.countP isSpawn⟩

structure Daemon where
  context : Context
  log : List Effect

def Daemon.start (configuration : Configuration) (status : Status) : Daemon :=
  { context := Context.new configuration status, log := [] }

def Daemon.record (daemon : Daemon) (effects : List Effect) : Daemon :=
  { daemon with log := daemon.log ++ effects }

@[simp] theorem record_context (daemon : Daemon) (effects : List Effect) :
    (daemon.record effects).context = daemon.context := rfl

@[simp] theorem record_log (daemon : Daemon) (effects : List Effect) :
    (daemon.record effects).log = daemon.log ++ effects := rfl

@[simp] theorem live_nil : live [] = [] := rfl

theorem live_append (log later : List Effect) :
    live (log ++ later) =
      HandleLedger.live (log.flatMap Effect.ledger ++ later.flatMap Effect.ledger) := by
  simp [live]

theorem live_sublist (log later : List Effect)
    (noSpawn : ∀ effect ∈ later, isSpawn effect = false) :
    (live (log ++ later)).Sublist (live log) := by
  rw [live_append]
  apply HandleLedger.live_sublist
  intro entry member
  obtain ⟨effect, listed, inLedger⟩ := List.mem_flatMap.mp member
  have quiet := noSpawn effect listed
  cases effect with
  | spawned process => simp [isSpawn] at quiet
  | killed process succeeded =>
      -- a kill that failed leaves no trace in the ledger
      cases succeeded <;> simp [Effect.ledger] at inLedger
      subst entry
      rfl
  | dropped process | exited process =>
      simp only [Effect.ledger, List.mem_singleton] at inLedger
      subst entry
      rfl
  | _ => simp [Effect.ledger] at inLedger

theorem ledger_openings (effects : List Effect) :
    (effects.flatMap Effect.ledger).countP HandleLedger.isOpening = effects.countP isSpawn := by
  induction effects with
  | nil => rfl
  | cons effect rest ih =>
      rw [List.flatMap_cons, List.countP_append, ih, List.countP_cons, Nat.add_comm]
      cases effect with
      | killed process succeeded => cases succeeded <;> rfl
      | _ => rfl

theorem live_length_le (log later : List Effect) :
    (live (log ++ later)).length ≤ (live log).length + later.countP isSpawn := by
  rw [live_append, ← ledger_openings]
  exact HandleLedger.live_length_le _ _

theorem live_spawned (log : List Effect) (process : Child) :
    live (log ++ [.spawned process]) = process :: live log := by
  rw [live_append]
  exact HandleLedger.live_opened _ process

theorem live_dropped (log : List Effect) (process : Child) :
    live (log ++ [.dropped process]) = (live log).filter (· ≠ process) := by
  rw [live_append]
  exact HandleLedger.live_closed _ process

/-- `HashMap::remove` with the drop of the removed tunnel at the end of its
scope; `used` is what is done with the tunnel before. -/
def Daemon.remove (daemon : Daemon) (reference : UInt32) (used : Tunnel → List Effect) : Daemon :=
  match daemon.context.tunnels.lookup reference with
  | none => daemon
  | some tunnel =>
      { context := { daemon.context with tunnels := daemon.context.tunnels.erase reference }
        log := daemon.log ++ (used tunnel ++ [.dropped tunnel.process]) }

/-- `HashMap::insert`: a replaced tunnel is dropped. -/
def Daemon.insert (daemon : Daemon) (reference : UInt32) (tunnel : Tunnel) : Daemon :=
  { context := { daemon.context with tunnels := daemon.context.tunnels.insert reference tunnel }
    log := daemon.log ++
      match daemon.context.tunnels.lookup reference with
      | none => []
      | some replaced => [.dropped replaced.process] }

/-- `send_sms` checks the length, opens the port and encodes the number. From
there on it ends in an error at worst, and errors of a notification are only
logged. -/
def sendSmsPanics (openPort : Except IoError Unit) (recipient message : String) : Bool :=
  match openPort with
  | .error _ => false
  | .ok _ =>
      decide (message.utf8ByteSize ≤ 140) && (SmsUtils.encodePhoneNumber recipient).isNone

theorem send_sms_panics_iff (openPort : Except IoError Unit) (recipient message : String) :
    sendSmsPanics openPort recipient message = true ↔
      message.utf8ByteSize ≤ 140 ∧ openPort = .ok () ∧
        SmsUtils.encodePhoneNumber recipient = none := by
  cases openPort with
  | error error => simp [sendSmsPanics]
  | ok _ => simp [sendSmsPanics]

/-- How the calls of one cleaning end: the kills, and the opening of the serial
port for the notification of each tunnel. -/
structure CleanUpCalls where
  kill : Child → Except IoError Unit
  openPort : UInt32 → Except IoError Unit

section CleanUp
variable (calls : CleanUpCalls) (now : Nat) (configuration : Configuration)

/-- The `send_sms` of one expired tunnel. -/
def expiryNotification (entry : TunnelEntry) : List Effect :=
  match configuration.users.find? fun user => user.name == entry.2.user with
  | some user =>
      [.smsSent user.phoneNumber ("Expired tunnel " ++ toString entry.1 ++ " has been closed")]
  | none => []

def notificationPanics (entry : TunnelEntry) : Bool :=
  match configuration.users.find? fun user => user.name == entry.2.user with
  | some user =>
      sendSmsPanics (calls.openPort entry.1) user.phoneNumber
        ("Expired tunnel " ++ toString entry.1 ++ " has been closed")
  | none => false

/-- `Result::is_ok` of a kill. -/
def killSucceeds (kill : Child → Except IoError Unit) (process : Child) : Bool :=
  match kill process with
  | .ok _ => true
  | .error _ => false

/-- The first loop of `clean_up_expired_tunnels` over the traversed entries: the
references to remove, `none` where it panics, with the effects on the way. -/
def visitTunnels : List TunnelEntry → Option (List UInt32) × List Effect
  | [] => (some [], [])
  | entry :: rest =>
      match durationSince now entry.2.creationDate with
      -- `duration_since(..).unwrap()`
      | none => (none, [])
      | some age =>
          if fromSecs configuration.sshConfig.tunnelTimeoutSec < age then
            let expiry := .killed entry.2.process (killSucceeds calls.kill entry.2.process) ::
              expiryNotification configuration entry
            if notificationPanics calls configuration entry then (none, expiry)
            else
              -- listed for removal whether or not its kill succeeds
              ((visitTunnels rest).1.map (entry.1 :: ·), expiry ++ (visitTunnels rest).2)
          else visitTunnels rest

end CleanUp

/-- The second loop of `clean_up_expired_tunnels`. -/
def removeTunnels (references : List UInt32) (daemon : Daemon) : Daemon :=
  references.foldl (fun daemon reference => daemon.remove reference fun _ => []) daemon

def cleanUpExpiredTunnels (now : Nat) (order : Order TunnelEntry)
    (calls : CleanUpCalls) (daemon : Daemon) : Outcome Unit × Daemon :=
  let visited := visitTunnels calls now daemon.context.configuration
    (order.arrange daemon.context.tunnels.entries)
  match visited.1 with
  | none => (.panic, daemon.record visited.2)
  | some references => (.ok (), removeTunnels references (daemon.record visited.2))

end TelcoVecchio.Common
