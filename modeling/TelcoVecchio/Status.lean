import TelcoVecchio.Common

/-!
`daemon/src/status.rs`: the QMI queries, the pings and the text of a status.
A probe holds what the outside answers during one `get_status` call. The
`tinyjson` crate is the probe's parser; indexing a JSON value panics when it
is not an object or has no such key, and only `get` reports another type.
-/

namespace TelcoVecchio.Status

open Common

inductive JsonValue where
  | number
  | boolean (value : Bool)
  | string (value : String)
  | null
  | array (items : List JsonValue)
  | object (fields : List (String × JsonValue))

/-- `json[key]`, `none` where it panics. -/
def JsonValue.index (json : JsonValue) (key : String) : Option JsonValue :=
  match json with
  | .object fields => (fields.find? fun field => field.1 == key).map Prod.snd
  | _ => none

/-- `json.get::<String>()`. -/
def JsonValue.getString : JsonValue → Option String
  | .string value => some value
  | _ => none

inductive QmiRun where
  | spawnFailed (error : IoError)
  | waitFailed (error : IoError)
  | exited (success : Bool) (stdout : List UInt8)

structure DomainProbe where
  lookupHost : String → Except IoError (List IpAddr)
  ping : IpAddr → Except SurgeError Unit

/-- The numbered pings are the attempts on the internet host and the pings of
the applications in configuration order. -/
structure StatusProbe where
  parseJson : String → Option JsonValue
  simState : QmiRun
  systemInfo : QmiRun
  internetPing : Nat → IpAddr → Except SurgeError Unit
  emailDomain : DomainProbe
  sshDomain : DomainProbe
  applicationPing : Nat → IpAddr → Except SurgeError Unit

def qmiCommand : QmiRun → Except Error String
  | .spawnFailed error => .error (.ioError error)
  | .waitFailed error => .error (.ioError error)
  | .exited false _ => .error .systemCommandExecutionError
  | .exited true stdout =>
      match RustText.fromUtf8 stdout with
      | some message => .ok message
      | none => .error .systemCommandExecutionError

def isConnectedToLte (probe : StatusProbe) : Outcome Bool :=
  (Outcome.ofExcept (qmiCommand probe.systemInfo)).bind fun systemInfo =>
    match probe.parseJson systemInfo with
    | none =>
        .err (.qmiResponseParsingError "cannot parse --get-system-info response into json")
    | some json =>
        match (json.index "lte").bind fun lte => lte.index "service_status" with
        | none => .panic
        | some value =>
            match value.getString with
            | none =>
                .err (.qmiResponseParsingError "cannot read lte service status from system info")
            | some serviceStatus => .ok (serviceStatus == "available")

def isSimLocked (probe : StatusProbe) : Outcome Bool :=
  (Outcome.ofExcept (qmiCommand probe.simState)).bind fun simState =>
    match probe.parseJson simState with
    | none =>
        .err (.qmiResponseParsingError "cannot parse --uim-get-sim-state response into json")
    | some json =>
        match json.index "pin1_status" with
        | none => .panic
        | some value =>
            match value.getString with
            | none => .err (.qmiResponseParsingError "cannot read pin1_status from sim state info")
            | some pinStatus =>
                if pinStatus == "disabled" then .ok false
                else if pinStatus == "verified" then .ok false
                else if pinStatus == "not_verified" then .ok true
                else .err (.qmiResponseParsingError ("unsupported sim status: " ++ pinStatus))

def pingSucceeds : Except SurgeError Unit → Bool
  | .ok _ => true
  | .error _ => false

/-- The ping loop with `tries` attempts left, attempt numbers counting up. -/
def retryPing (ping : Nat → Except SurgeError Unit) : Nat → Nat → Bool
  | 0, _ => false
  | tries + 1, attempt => pingSucceeds (ping attempt) || retryPing ping tries (attempt + 1)

/-- `is_connected_to_internet` gives up after the fourth failing ping. -/
def isConnectedToInternet (ping : Nat → IpAddr → Except SurgeError Unit) (address : IpAddr) :
    Bool :=
  retryPing (fun attempt => ping attempt address) 4 0

def pingDomain (probe : DomainProbe) (domain : String) : Except Error Unit :=
  match probe.lookupHost domain with
  | .error error => .error (.ioError error)
  | .ok [] => .error .domainNameResolutionError
  | .ok (ip :: _) =>
      match probe.ping ip with
      | .error error => .error (.pingError error)
      | .ok _ => .ok ()

def domainStatus (probe : DomainProbe) (domain : String) : ServiceStatus :=
  match pingDomain probe domain with
  | .ok _ => .reachable
  | .error _ => .unreachable

def getDeviceStatus (probe : StatusProbe) (configuration : Configuration) :
    Outcome DeviceStatus :=
  (isSimLocked probe).bind fun locked =>
    if locked then .ok .simLocked
    else (isConnectedToLte probe).bind fun connected =>
      if !connected then .ok .lteNotConnected
      else if !isConnectedToInternet probe.internetPing configuration.emailConfig.internetHost then
        .ok .internetUnreachable
      else .ok .ready

def pingStatus (ping : Except SurgeError Unit) : ServiceStatus :=
  if pingSucceeds ping then .reachable else .unreachable

/-- The loop over the configured applications: a later application of the same
name overwrites the entry of an earlier one. -/
def pingApplications (ping : Nat → IpAddr → Except SurgeError Unit) :
    Nat → List Application → (AList fun _ : String => ServiceStatus) →
      AList fun _ : String => ServiceStatus
  | _, [], statuses => statuses
  | index, application :: rest, statuses =>
      pingApplications ping (index + 1) rest
        (statuses.insert application.name (pingStatus (ping index application.hostIp)))

def getStatus (probe : StatusProbe) (configuration : Configuration) : Outcome Status :=
  (getDeviceStatus probe configuration).bind fun deviceStatus =>
    let services :=
      if deviceStatus = .ready then
        (domainStatus probe.emailDomain configuration.emailConfig.serverDomain,
          domainStatus probe.sshDomain configuration.sshConfig.serviceHost)
      else (.unreachable, .unreachable)
    .ok {
      deviceStatus
      emailServiceStatus := services.1
      sshTunnelServiceStatus := services.2
      applicationsStatus :=
        pingApplications probe.applicationPing 0 configuration.applications ∅ }

/-- `Display for DeviceStatus`. -/
def displayDevice : DeviceStatus → String
  | .simLocked => "SIM Card Locked"
  | .lteNotConnected => "Cannot connect to LTE network"
  | .internetUnreachable => "Cannot connect to Internet"
  | .ready => "Ready"

/-- `Display for ServiceStatus`. -/
def displayService : ServiceStatus → String
  | .reachable => "OK"
  | .unreachable => "KO"

/-- The peeking loop of `Display for Status`: a separator before every entry
but the first. -/
def displayApplications : List (Sigma fun _ : String => ServiceStatus) → String
  | [] => ""
  | [entry] => entry.1 ++ ": " ++ displayService entry.2
  | entry :: next :: rest =>
      entry.1 ++ ": " ++ displayService entry.2 ++ " - " ++ displayApplications (next :: rest)

/-- `Display for Status`. -/
def display (order : Order (Sigma fun _ : String => ServiceStatus)) (status : Status) : String :=
  "Device: " ++ displayDevice status.deviceStatus ++ "\n" ++
    ("Services: Email: " ++ displayService status.emailServiceStatus ++ " - Ssh Tunnel: " ++
      displayService status.sshTunnelServiceStatus ++ "\n") ++
    "Apps: " ++ displayApplications (order.arrange status.applicationsStatus.entries)

end TelcoVecchio.Status
