import TelcoVecchio.Status
import TelcoVecchio.SshUtils

/-!
`daemon/src/request.rs`: one received request against the context. The
environment holds every answer the outside gives during the call; what the
call does outside is appended to the daemon's log. `Handled` lists what a
call can do, guards included, and the later modules reason from it alone.
-/

namespace TelcoVecchio.Request

open Common Status SshUtils

/-- One run of the mail binary in `email_utils.rs`, by the step that ends it. -/
inductive EmailRun where
  | spawnFailed (error : IoError)
  | writeFailed (error : IoError)
  | waitFailed (error : IoError)
  | stderrFailed (error : IoError)
  | exited (success : Bool)
  | timedOut

def sendEmail : EmailRun → Except Error Unit
  | .spawnFailed error => .error (.ioError error)
  | .writeFailed error => .error (.ioError error)
  | .waitFailed error => .error (.ioError error)
  | .stderrFailed error => .error (.ioError error)
  | .exited true => .ok ()
  | .exited false => .error .systemCommandExecutionError
  | .timedOut => .error .systemCommandExecutionError

structure Env where
  now : Nat
  tunnelOrder : Order TunnelEntry
  statusOrder : Order (Sigma fun _ : String => ServiceStatus)
  kill : Child → Except IoError Unit
  status : StatusProbe
  ssh : SshAttempt
  email : EmailRun

def senderUser (configuration : Configuration) (sender : String) : Option User :=
  configuration.users.find? fun user => user.phoneNumber == sender

def commandWord (command : String) : String :=
  String.ofList (RustText.toLowercase command.toList)

def requestWord (request : String) : Option String :=
  (RustText.splitWhitespace request).head?.map commandWord

/-- `max_by` on the creation dates: among equals the last one traversed. -/
def latestTunnel : List TunnelEntry → Option Tunnel
  | [] => none
  | first :: rest =>
      some (rest.foldl (fun best entry =>
        if entry.2.creationDate < best.creationDate then best else entry.2) first.2)

def latestOpener (entries : List TunnelEntry) : String :=
  match latestTunnel entries with
  | some tunnel => " - last tunnel open by " ++ tunnel.user
  | none => ""

def limitReached (context : Context) : Bool :=
  match context.configuration.sshConfig.tunnelMaxNumber with
  | some max => decide (max.toNat ≤ tunnelCount context.tunnels)
  | none => false

/-- The checks of an `open` up to the ssh set-up. -/
def admitOpen (order : Order TunnelEntry) (context : Context) (user : User)
    (applicationStr : String) : Except Error Application :=
  if context.status.deviceStatus ≠ .ready then
    .error (.invalidStatus ("Device is not ready - current state is " ++
      displayDevice context.status.deviceStatus))
  else if context.status.emailServiceStatus ≠ .reachable then
    .error (.invalidStatus "Email service is not reachable")
  else if context.status.sshTunnelServiceStatus ≠ .reachable then
    .error (.invalidStatus "SSH tunnel service is not reachable")
  else
    match context.configuration.applications.find? fun app => app.name == applicationStr with
    | none => .error (.invalidRequestError ("Unknown application: " ++ applicationStr))
    | some application =>
        if (context.status.applicationsStatus.lookup applicationStr).getD .unreachable ≠
            .reachable then
          -- the text names the device status where the application would be expected
          .error (.invalidStatus ("Application " ++ displayDevice context.status.deviceStatus ++
            " is not reachable"))
        else if limitReached context then
          .error (.invalidStatus ("The maximum tunnel number allowed is reached" ++
            latestOpener (order.arrange context.tunnels.entries)))
        else
          match (order.arrange context.tunnels.entries).find? fun entry =>
              entry.2.user == user.name && entry.2.application == application.name with
          | some entry =>
              .error (.invalidRequestError ("A tunnel is already open for this application: " ++
                toString entry.1))
          | none => .ok application

def openMessage (reference : UInt32) : String :=
  "Tunnel has been setup, reference is: " ++ toString reference ++
    "\nAccess url has been send to you by mail"

def urlMail (user : User) (application : Application) (url : String) : Effect :=
  .emailed user.email "Tunnel URL" ("Hello " ++ user.name ++ " !\nHere is the url to access to " ++
    application.name ++ ":\n\n" ++ url ++ "\n\nHave a nice day!")

/-- `context.tunnels.len() as u32` -/
def nextReference (tunnels : Tunnels) : UInt32 := UInt32.ofNat (tunnelCount tunnels)

def establishTunnel (env : Env) (user : User) (application : Application) (daemon : Daemon) :
    Outcome String × Daemon :=
  match setupSshTunnel env.ssh application.hostIp application.port (nextChild daemon.log) with
  | (.err error, effects) => (.err error, daemon.record effects)
  | (.panic, effects) => (.panic, daemon.record effects)
  | (.stuck, effects) => (.stuck, daemon.record effects)
  | (.ok (tunnelUrl, tunnelProcess), effects) =>
      let mail := urlMail user application (tunnelUrl ++ application.endPoint)
      -- the process is still a local of the request here, dropped with an early return
      match sendEmail env.email with
      | .error error => (.err error, daemon.record (effects ++ [mail, .dropped tunnelProcess]))
      | .ok _ =>
          -- the size of the table before the insertion
          let processId := nextReference daemon.context.tunnels
          (.ok (openMessage processId),
            (daemon.record (effects ++ [mail])).insert processId
              { user := user.name, application := application.name, process := tunnelProcess,
                creationDate := env.now })

def openTunnel (env : Env) (user : User) (request : String) (args : List String)
    (daemon : Daemon) : Outcome String × Daemon :=
  match args with
  | [] => (.err (.invalidRequestError ("No application specified: " ++ request)), daemon)
  | applicationStr :: _ =>
      match admitOpen env.tunnelOrder daemon.context user applicationStr with
      | .error error => (.err error, daemon)
      | .ok application => establishTunnel env user application daemon

def ownReferences (order : Order TunnelEntry) (tunnels : Tunnels) (name : String) : List UInt32 :=
  (order.arrange tunnels.entries).filterMap fun entry =>
    if entry.2.user == name then some entry.1 else none

def closeReferences (order : Order TunnelEntry) (tunnels : Tunnels) (user : User)
    (args : List String) : Except Error (List UInt32) :=
  match args with
  | text :: _ =>
      match RustText.parseU32 text with
      | none => .error (.invalidRequestError ("Invalid tunnel reference: " ++ text))
      | some reference => .ok [reference]
  | [] =>
      let references := ownReferences order tunnels user.name
      if references.isEmpty then .error (.invalidRequestError "No open tunnel")
      else .ok references

def killEffect (kill : Child → Except IoError Unit) (tunnel : Tunnel) : List Effect :=
  [.killed tunnel.process (killSucceeds kill tunnel.process)]

/-- The closing loop: an entry is removed before its process is killed. -/
def closeTunnels (kill : Child → Except IoError Unit) :
    List UInt32 → Daemon → Outcome Unit × Daemon
  | [], daemon => (.ok (), daemon)
  | reference :: rest, daemon =>
      match daemon.context.tunnels.lookup reference with
      | none =>
          (.err (.invalidRequestError ("Unknown tunnel reference: " ++ toString reference)), daemon)
      | some tunnel =>
          match kill tunnel.process with
          -- the rest of the references is left alone, this entry is gone
          | .error error => (.err (.ioError error), daemon.remove reference (killEffect kill))
          | .ok _ => closeTunnels kill rest (daemon.remove reference (killEffect kill))

def closeMessage (references : List UInt32) : String :=
  if 1 < references.length then "Tunnels have been closed" else "Tunnel has been closed"

def closeTunnel (env : Env) (user : User) (args : List String) (daemon : Daemon) :
    Outcome String × Daemon :=
  match closeReferences env.tunnelOrder daemon.context.tunnels user args with
  | .error error => (.err error, daemon)
  | .ok references =>
      let closing := closeTunnels env.kill references daemon
      (closing.1.bind fun _ => .ok (closeMessage references), closing.2)

def resolveStatus (env : Env) (daemon : Daemon) : Outcome String × Daemon :=
  match getStatus env.status daemon.context.configuration with
  | .ok status =>
      -- the context changes only once the whole query is through
      (.ok (display env.statusOrder status),
        { daemon with context := daemon.context.updateStatus status })
  | .err error => (.err error, daemon)
  | .panic => (.panic, daemon)
  | .stuck => (.stuck, daemon)

def reboot (user : User) (daemon : Daemon) : Outcome String × Daemon :=
  (.ok "Rebooting...", daemon.record [.initListenerRegistered user.name, .rebootScheduled])

def shutdown (daemon : Daemon) : Outcome String × Daemon :=
  (.ok "Shutting down...", daemon.record [.poweroffScheduled])

/-- The `match` on the lower-cased command word. -/
def runCommand (env : Env) (user : User) (request command : String) (args : List String)
    (daemon : Daemon) : Outcome String × Daemon :=
  if commandWord command = "open" then openTunnel env user request args daemon
  else if commandWord command = "close" then closeTunnel env user args daemon
  else if commandWord command = "status" then resolveStatus env daemon
  else if commandWord command = "reboot" then reboot user daemon
  else if commandWord command = "shutdown" then shutdown daemon
  else (.err (.invalidRequestError ("Unknown command: " ++ command)), daemon)

def handleRequest (env : Env) (sender request : String) (daemon : Daemon) :
    Outcome String × Daemon :=
  match senderUser daemon.context.configuration sender with
  | none => (.err (.senderNotAllowed sender), daemon)
  | some user =>
      match RustText.splitWhitespace request with
      | [] =>
          (.err (.invalidRequestError ("Cannot read command from request: " ++ request)), daemon)
      | command :: args => runCommand env user request command args daemon

theorem sender_user_member (configuration : Configuration) (sender : String) (user : User)
    (found : senderUser configuration sender = some user) :
    user ∈ configuration.users ∧ user.phoneNumber = sender := by
  have hit := List.find?_some found
  exact ⟨List.mem_of_find?_eq_some found, by simpa using hit⟩

/-- What an admitted `open` has been checked for. -/
structure Admitted (context : Context) (user : User) (applicationStr : String)
    (application : Application) : Prop where
  ready : context.status.deviceStatus = .ready
  emailReachable : context.status.emailServiceStatus = .reachable
  sshReachable : context.status.sshTunnelServiceStatus = .reachable
  resolved : context.configuration.applications.find? (fun app => app.name == applicationStr) =
    some application
  applicationReachable : context.status.applicationsStatus.lookup applicationStr = some .reachable
  belowLimit : ∀ max, context.configuration.sshConfig.tunnelMaxNumber = some max →
    tunnelCount context.tunnels < max.toNat
  notOpen : ∀ reference tunnel, context.tunnels.lookup reference = some tunnel →
    tunnel.user = user.name → tunnel.application ≠ application.name

theorem limit_not_reached (context : Context) (below : limitReached context = false) (max : UInt32)
    (limited : context.configuration.sshConfig.tunnelMaxNumber = some max) :
    tunnelCount context.tunnels < max.toNat := by
  simpa [limitReached, limited] using below

theorem lookup_mem_arranged (order : Order TunnelEntry) (tunnels : Tunnels) (reference : UInt32)
    (tunnel : Tunnel) :
    (⟨reference, tunnel⟩ : TunnelEntry) ∈ order.arrange tunnels.entries ↔
      tunnels.lookup reference = some tunnel := by
  rw [(order.perm tunnels.entries).mem_iff]
  exact AList.mem_lookup_iff.symm

theorem admit_open_admitted (order : Order TunnelEntry) (context : Context) (user : User)
    (applicationStr : String) (application : Application)
    (admitted : admitOpen order context user applicationStr = .ok application) :
    Admitted context user applicationStr application := by
  simp only [admitOpen, ne_eq, ite_not] at admitted
  split at admitted
  case isFalse => cases admitted
  case isTrue ready =>
    split at admitted
    case isFalse => cases admitted
    case isTrue email =>
      split at admitted
      case isFalse => cases admitted
      case isTrue ssh =>
        split at admitted
        case h_1 => cases admitted
        case h_2 found resolved =>
          split at admitted
          case isFalse => cases admitted
          case isTrue reachable =>
            split at admitted
            case isTrue => cases admitted
            case isFalse below =>
              split at admitted
              case h_1 => cases admitted
              case h_2 noneOpen =>
                simp only [Except.ok.injEq] at admitted
                subst application
                -- left: the reachability entry, the limit and the open pairs
                refine ⟨ready, email, ssh, resolved, ?_, ?_, ?_⟩
                · cases known : context.status.applicationsStatus.lookup applicationStr with
                  | none => simp [known] at reachable
                  | some status => simpa [known] using reachable
                · intro max limited
                  exact limit_not_reached context (by simpa using below) max limited
                · intro reference tunnel held sameUser sameApplication
                  have member := (lookup_mem_arranged order context.tunnels reference tunnel).mpr held
                  have missed := List.find?_eq_none.mp noneOpen _ member
                  simp [sameUser, sameApplication] at missed

/-- The tunnel that an `open` records. -/
def newTunnel (env : Env) (user : User) (application : Application) (daemon : Daemon) : Tunnel :=
  { user := user.name, application := application.name, process := nextChild daemon.log,
    creationDate := env.now }

/-- The inputs under which a request goes all the way to the insertion of a tunnel:
an admitted `open` whose ssh process gives a url and whose mail is sent. -/
structure Completes (env : Env) (sender request : String) (daemon : Daemon) (user : User)
    (application : Application) (applicationStr url : String) : Prop where
  allowed : senderUser daemon.context.configuration sender = some user
  words : ∃ command rest, RustText.splitWhitespace request = command :: applicationStr :: rest ∧
    commandWord command = "open"
  admitted : admitOpen env.tunnelOrder daemon.context user applicationStr = .ok application
  connected : ∃ process, env.ssh = .ok process ∧ awaitUrl process = .ok url
  mailed : sendEmail env.email = .ok ()

/-- The daemon after a completed `open`. -/
def withTunnel (env : Env) (user : User) (application : Application) (url : String)
    (daemon : Daemon) : Daemon :=
  (daemon.record [.setupCalled application.hostIp application.port,
    .spawned (nextChild daemon.log),
    urlMail user application (url ++ application.endPoint)]).insert
      (nextReference daemon.context.tunnels) (newTunnel env user application daemon)

/-- Everything `handle_request` can do to a daemon. -/
inductive Handled (env : Env) (sender request : String) (daemon : Daemon) :
    Outcome String → Daemon → Prop where
  | notAllowed (unknown : senderUser daemon.context.configuration sender = none) :
      Handled env sender request daemon (.err (.senderNotAllowed sender)) daemon
  | rejected (user : User) (error : Error)
      (allowed : senderUser daemon.context.configuration sender = some user) :
      Handled env sender request daemon (.err error) daemon
  | setupEnded (user : User) (application : Application)
      (applicationStr : String) (outcome : Outcome String) (effects : List Effect)
      (allowed : senderUser daemon.context.configuration sender = some user)
      (admitted : Admitted daemon.context user applicationStr application)
      (notReady : ∀ text, outcome ≠ .ok text)
      (ended : effects = [.setupCalled application.hostIp application.port] ∨
        effects = [.setupCalled application.hostIp application.port,
          .spawned (nextChild daemon.log), .dropped (nextChild daemon.log)] ∨
        (outcome = .stuck ∧ effects = [.setupCalled application.hostIp application.port,
          .spawned (nextChild daemon.log)])) :
      Handled env sender request daemon outcome (daemon.record effects)
  | emailFailed (user : User) (application : Application) (applicationStr url : String)
      (error : Error)
      (allowed : senderUser daemon.context.configuration sender = some user)
      (admitted : Admitted daemon.context user applicationStr application) :
      Handled env sender request daemon (.err error)
        (daemon.record [.setupCalled application.hostIp application.port,
          .spawned (nextChild daemon.log), urlMail user application url,
          .dropped (nextChild daemon.log)])
  | opened (user : User) (application : Application) (applicationStr url : String)
      (completes : Completes env sender request daemon user application applicationStr url)
      (admitted : Admitted daemon.context user applicationStr application) :
      Handled env sender request daemon (.ok (openMessage (nextReference daemon.context.tunnels)))
        (withTunnel env user application url daemon)
  | closed (user : User) (command : String) (args : List String) (references : List UInt32)
      (allowed : senderUser daemon.context.configuration sender = some user)
      (words : RustText.splitWhitespace request = command :: args)
      (isClose : commandWord command = "close")
      (named : closeReferences env.tunnelOrder daemon.context.tunnels user args = .ok references) :
      Handled env sender request daemon
        ((closeTunnels env.kill references daemon).1.bind fun _ => .ok (closeMessage references))
        (closeTunnels env.kill references daemon).2
  | statusResolved (user : User) (status : Status)
      (allowed : senderUser daemon.context.configuration sender = some user)
      (resolved : getStatus env.status daemon.context.configuration = .ok status) :
      Handled env sender request daemon (.ok (display env.statusOrder status))
        { daemon with context := daemon.context.updateStatus status }
  | statusEnded (user : User) (outcome : Outcome String)
      (allowed : senderUser daemon.context.configuration sender = some user)
      (ended : outcome = .panic ∨ outcome = .stuck) :
      Handled env sender request daemon outcome daemon
  | scheduled (user : User) (message : String) (effects : List Effect)
      (allowed : senderUser daemon.context.configuration sender = some user)
      (choice : (message = "Rebooting..." ∧
          effects = [.initListenerRegistered user.name, .rebootScheduled]) ∨
        (message = "Shutting down..." ∧ effects = [.poweroffScheduled]))
      (words : ∃ command args, RustText.splitWhitespace request = command :: args ∧
        (.rebootScheduled ∈ effects → commandWord command = "reboot")) :
      Handled env sender request daemon (.ok message) (daemon.record effects)

section Inversion
variable (env : Env) (sender request : String) (daemon : Daemon) (user : User)
  (allowed : senderUser daemon.context.configuration sender = some user)
include allowed

theorem open_handled (command : String) (args : List String)
    (words : RustText.splitWhitespace request = command :: args)
    (isOpen : commandWord command = "open") :
    Handled env sender request daemon (openTunnel env user request args daemon).1
      (openTunnel env user request args daemon).2 := by
  cases args with
  | nil => exact Handled.rejected user _ allowed
  | cons applicationStr rest =>
      simp only [openTunnel]
      cases admission : admitOpen env.tunnelOrder daemon.context user applicationStr with
      | error error => exact Handled.rejected user error allowed
      | ok application =>
          have admitted := admit_open_admitted env.tunnelOrder daemon.context user applicationStr
            application admission
          cases attempt : env.ssh with
          | error error =>
              simp only [establishTunnel, setupSshTunnel, attempt]
              exact Handled.setupEnded user application applicationStr _ _ allowed admitted
                (by simp) (Or.inl rfl)
          | ok process =>
              cases awaited : awaitUrl process with
              | err error =>
                  simp only [establishTunnel, setupSshTunnel, attempt, awaited]
                  exact Handled.setupEnded user application applicationStr _ _ allowed admitted
                    (by simp) (Or.inr (Or.inl rfl))
              | panic =>
                  simp only [establishTunnel, setupSshTunnel, attempt, awaited]
                  exact Handled.setupEnded user application applicationStr _ _ allowed admitted
                    (by simp) (Or.inr (Or.inl rfl))
              | stuck =>
                  simp only [establishTunnel, setupSshTunnel, attempt, awaited]
                  exact Handled.setupEnded user application applicationStr _ _ allowed admitted
                    (by simp) (Or.inr (Or.inr ⟨rfl, rfl⟩))
              | ok url =>
                  cases sent : sendEmail env.email with
                  | error error =>
                      simp only [establishTunnel, setupSshTunnel, attempt, awaited, sent]
                      exact Handled.emailFailed user application applicationStr
                        (url ++ application.endPoint) error allowed admitted
                  | ok _ =>
                      simp only [establishTunnel, setupSshTunnel, attempt, awaited, sent]
                      exact Handled.opened user application applicationStr url
                        ⟨allowed, ⟨command, rest, words, isOpen⟩, admission,
                          ⟨process, attempt, awaited⟩, sent⟩ admitted

theorem close_handled (command : String) (args : List String)
    (words : RustText.splitWhitespace request = command :: args)
    (isClose : commandWord command = "close") :
    Handled env sender request daemon (closeTunnel env user args daemon).1
      (closeTunnel env user args daemon).2 := by
  simp only [closeTunnel]
  cases named : closeReferences env.tunnelOrder daemon.context.tunnels user args with
  | error error => exact Handled.rejected user error allowed
  | ok references => exact Handled.closed user command args references allowed words isClose named

theorem status_handled :
    Handled env sender request daemon (resolveStatus env daemon).1
      (resolveStatus env daemon).2 := by
  simp only [resolveStatus]
  cases resolved : getStatus env.status daemon.context.configuration with
  | ok status => exact Handled.statusResolved user status allowed resolved
  | err error => exact Handled.rejected user error allowed
  | panic => exact Handled.statusEnded user _ allowed (Or.inl rfl)
  | stuck => exact Handled.statusEnded user _ allowed (Or.inr rfl)

end Inversion

theorem handle_request_handled (env : Env) (sender request : String) (daemon : Daemon) :
    Handled env sender request daemon (handleRequest env sender request daemon).1
      (handleRequest env sender request daemon).2 := by
  simp only [handleRequest]
  cases allowed : senderUser daemon.context.configuration sender with
  | none => exact Handled.notAllowed allowed
  | some user =>
      cases words : RustText.splitWhitespace request with
      | nil => exact Handled.rejected user _ allowed
      | cons command args =>
          simp only [runCommand]
          split
          case isTrue isOpen =>
            exact open_handled env sender request daemon user allowed command args words isOpen
          split
          case isTrue isClose =>
            exact close_handled env sender request daemon user allowed command args words isClose
          split
          · exact status_handled env sender request daemon user allowed
          split
          case isTrue isReboot =>
            exact Handled.scheduled user _ _ allowed (Or.inl ⟨rfl, rfl⟩)
              ⟨command, args, words, fun _ => isReboot⟩
          split
          · exact Handled.scheduled user _ _ allowed (Or.inr ⟨rfl, rfl⟩)
              ⟨command, args, words, by simp⟩
          · exact Handled.rejected user _ allowed

/-- The converse of the `opened` case: those inputs always insert the tunnel. -/
theorem completes_opens {env : Env} {sender request : String} {daemon : Daemon} {user : User}
    {application : Application} {applicationStr url : String}
    (completes : Completes env sender request daemon user application applicationStr url) :
    handleRequest env sender request daemon =
      (.ok (openMessage (nextReference daemon.context.tunnels)),
        withTunnel env user application url daemon) := by
  obtain ⟨allowed, ⟨command, rest, words, isOpen⟩, admitted, ⟨process, attempt, awaited⟩, sent⟩ :=
    completes
  simp only [handleRequest, allowed, words, runCommand, isOpen, ↓reduceIte, openTunnel, admitted,
    establishTunnel, setupSshTunnel, attempt, awaited, sent]
  rfl

/-! The errors of the steps that reach outside are technical ones: none of
them refuses the sender, the request or the status. -/

def refusal : Error → Bool
  | .senderNotAllowed _ => true
  | _ => false

def technical : Error → Bool
  | .senderNotAllowed _ | .invalidRequestError _ | .invalidStatus _ => false
  | _ => true

theorem technical_not_refusal (error : Error) (isTechnical : technical error = true) :
    refusal error = false := by
  cases error <;> simp_all [technical, refusal]

theorem admit_open_not_refusal (order : Order TunnelEntry) (context : Context) (user : User)
    (applicationStr : String) (error : Error)
    (refused : admitOpen order context user applicationStr = .error error) :
    refusal error = false := by
  simp only [admitOpen] at refused
  repeat' split at refused
  all_goals
    cases refused
    try rfl

theorem read_url_technical (output : List UInt8) (reads : List (Except IoError (List UInt8)))
    (error : Error) (failed : readUrl output reads = .error error) : technical error = true := by
  induction reads generalizing output with
  | nil =>
      cases failed
      rfl
  | cons read rest ih =>
      cases read with
      | error _ =>
          cases failed
          rfl
      | ok chunk =>
          simp only [readUrl] at failed
          split at failed
          · cases failed
            rfl
          · split at failed
            · cases failed
            · split at failed
              · cases failed
                rfl
              · exact ih _ failed

theorem await_url_technical (process : SshProcess) (error : Error)
    (failed : awaitUrl process = .err error) : technical error = true := by
  cases read : readUrl [] process.stdout with
  | ok url => simp [awaitUrl, read] at failed
  | error reported =>
      have same : reported = error := by
        simp only [awaitUrl, read, reportStderr] at failed
        repeat' split at failed
        all_goals
          cases failed
          try rfl
      exact same ▸ read_url_technical [] process.stdout reported read

theorem send_email_technical (run : EmailRun) (error : Error)
    (failed : sendEmail run = .error error) : technical error = true := by
  cases run with
  | exited success =>
      cases success
      all_goals
        cases failed
        try rfl
  | _ =>
      cases failed
      rfl

theorem establish_technical (env : Env) (user : User) (application : Application)
    (daemon : Daemon) (error : Error)
    (failed : (establishTunnel env user application daemon).1 = .err error) :
    technical error = true := by
  cases attempt : env.ssh with
  | error _ =>
      simp only [establishTunnel, setupSshTunnel, attempt] at failed
      cases failed
      rfl
  | ok process =>
      cases awaited : awaitUrl process with
      | err reported =>
          simp only [establishTunnel, setupSshTunnel, attempt, awaited] at failed
          cases failed
          exact await_url_technical process _ awaited
      | panic | stuck =>
          simp only [establishTunnel, setupSshTunnel, attempt, awaited] at failed
          cases failed
      | ok url =>
          simp only [establishTunnel, setupSshTunnel, attempt, awaited] at failed
          cases sent : sendEmail env.email with
          | ok _ => simp [sent] at failed
          | error reported =>
              simp only [sent] at failed
              cases failed
              exact send_email_technical env.email _ sent

theorem close_tunnels_not_refusal (kill : Child → Except IoError Unit) (references : List UInt32)
    (daemon : Daemon) (error : Error)
    (failed : (closeTunnels kill references daemon).1 = .err error) : refusal error = false := by
  induction references generalizing daemon with
  | nil => cases failed
  | cons reference rest ih =>
      simp only [closeTunnels] at failed
      split at failed
      · cases failed
        rfl
      · split at failed
        · cases failed
          rfl
        · exact ih _ failed

theorem qmi_technical (run : QmiRun) (error : Error)
    (failed : qmiCommand run = .error error) : technical error = true := by
  simp only [qmiCommand] at failed
  repeat' split at failed
  all_goals
    cases failed
    try rfl

theorem bind_technical {Value Next : Type} {first : Outcome Value} {next : Value → Outcome Next}
    (early : ∀ error, first = .err error → technical error = true)
    (late : ∀ value error, next value = .err error → technical error = true) :
    ∀ error, first.bind next = .err error → technical error = true := by
  intro error stopped
  cases first with
  | ok value => exact late value error stopped
  | err reported =>
      simp only [Outcome.bind, Outcome.err.injEq] at stopped
      exact early error (congrArg _ stopped)
  | panic | stuck => cases stopped

theorem query_technical (run : QmiRun) : ∀ error,
    Outcome.ofExcept (qmiCommand run) = .err error → technical error = true := by
  intro error stopped
  cases result : qmiCommand run with
  | ok _ => simp [Outcome.ofExcept, result] at stopped
  | error reported =>
      simp only [Outcome.ofExcept, result, Outcome.err.injEq] at stopped
      exact stopped ▸ qmi_technical run reported result

theorem get_status_technical (probe : StatusProbe) (configuration : Configuration) : ∀ error,
    getStatus probe configuration = .err error → technical error = true := by
  have locked : ∀ error, isSimLocked probe = .err error → technical error = true := by
    refine bind_technical (query_technical probe.simState) ?_
    intro message error stopped
    repeat' split at stopped
    all_goals
      cases stopped
      try rfl
  have connected : ∀ error, isConnectedToLte probe = .err error → technical error = true := by
    refine bind_technical (query_technical probe.systemInfo) ?_
    intro message error stopped
    repeat' split at stopped
    all_goals
      cases stopped
      try rfl
  refine bind_technical (bind_technical locked ?_) (fun _ _ stopped => by cases stopped)
  intro isLocked error stopped
  split at stopped
  · cases stopped
  · refine bind_technical connected ?_ error stopped
    intro isConnected error stopped
    repeat' split at stopped
    all_goals cases stopped

theorem allowed_not_refused (env : Env) (sender request : String) (daemon : Daemon) (user : User)
    (allowed : senderUser daemon.context.configuration sender = some user) (error : Error)
    (failed : (handleRequest env sender request daemon).1 = .err error) :
    refusal error = false := by
  simp only [handleRequest, allowed] at failed
  split at failed
  · cases failed
    rfl
  · next command args _ =>
      simp only [runCommand] at failed
      split at failed
      · simp only [openTunnel] at failed
        split at failed
        · cases failed
          rfl
        · split at failed
          · next reported refused =>
              cases failed
              exact admit_open_not_refusal _ _ _ _ _ refused
          · exact technical_not_refusal error (establish_technical env user _ daemon error failed)
      · split at failed
        · simp only [closeTunnel] at failed
          split at failed
          · next reported refused =>
              cases failed
              simp only [closeReferences] at refused
              repeat' split at refused
              all_goals
                cases refused
                try rfl
          · next references _ =>
              cases closing : (closeTunnels env.kill references daemon).1 with
              | err reported =>
                  rw [closing] at failed
                  cases failed
                  exact close_tunnels_not_refusal _ _ _ _ closing
              | ok _ | panic | stuck =>
                  rw [closing] at failed
                  cases failed
        · split at failed
          · simp only [resolveStatus] at failed
            split at failed
            · cases failed
            · next reported resolved =>
                cases failed
                exact technical_not_refusal _ (get_status_technical _ _ _ resolved)
            · cases failed
            · cases failed
          · repeat' split at failed
            all_goals
              cases failed
              try rfl

end TelcoVecchio.Request
