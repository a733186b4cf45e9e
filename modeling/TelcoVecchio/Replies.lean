import TelcoVecchio.MainLoop

/-!
Whether the texts that go back to a user pass the checks of `send_sms`. A
response is a fixed text around what it quotes: the request, a word of it, a
name of the configuration, or the debug text of a technical error. The fixed
parts always pass, so each response passes exactly when its quote fits.
-/

namespace TelcoVecchio.Replies

open Common Status SshUtils Request SmsUtils Service MainLoop

/-- The checks of `send_sms` on a message. -/
def Accepts (gsm7 : Gsm7) (message : String) : Prop :=
  message.utf8ByteSize ≤ 140 ∧ ∃ octets, gsm7.write message = .ok octets

/-- A call that comes back has a response, which `send_sms` accepts. -/
def Answered (gsm7 : Gsm7) (escaped : Char → Bool) (outcome : Outcome String) : Prop :=
  Returned outcome → ∃ reply, replyText escaped outcome = some reply ∧ Accepts gsm7 reply

def startUpText (order : Order (Sigma fun _ : String => ServiceStatus)) (status : Status) :
    String :=
  "Telco-Vecchio is up.\n" ++ display order status

/-- `encode_message` takes the text. -/
def Plain (text : String) : Prop := ∀ char ∈ text.toList, writable char = true

structure Quote where
  around : Nat
  parts : List String
  deriving DecidableEq

def Quote.nothing : Quote := ⟨0, []⟩

def Quote.Fits (quote : Quote) : Prop :=
  quote.around + (quote.parts.map String.utf8ByteSize).sum ≤ 140 ∧ ∀ part ∈ quote.parts, Plain part

section Quotes
variable (escaped : Char → Bool)

def technicalQuote (error : Error) : Quote := ⟨19, [error.debug escaped]⟩

def limitQuote (entries : List TunnelEntry) : Quote :=
  match latestTunnel entries with
  | some tunnel => ⟨101, [tunnel.user]⟩
  | none => .nothing

/-- Of the refusals of an `open`, an unknown application is quoted. -/
def admissionQuote (order : Order TunnelEntry) (context : Context) (applicationStr : String) :
    Quote :=
  if context.status.deviceStatus ≠ .ready then .nothing
  else if context.status.emailServiceStatus ≠ .reachable then .nothing
  else if context.status.sshTunnelServiceStatus ≠ .reachable then .nothing
  else
    match context.configuration.applications.find? fun app => app.name == applicationStr with
    | none => ⟨54, [applicationStr]⟩
    | some _ =>
        if (context.status.applicationsStatus.lookup applicationStr).getD .unreachable ≠
            .reachable then .nothing
        else if limitReached context then limitQuote (order.arrange context.tunnels.entries)
        else .nothing

def setupQuote (env : Env) : Quote :=
  match env.ssh with
  | .error error => technicalQuote escaped (.ioError error)
  | .ok process =>
      match awaitUrl process with
      | .err error => technicalQuote escaped error
      | .panic | .stuck => .nothing
      | .ok _ =>
          match sendEmail env.email with
          | .error error => technicalQuote escaped error
          | .ok _ => .nothing

def openQuote (env : Env) (user : User) (request : String) (args : List String)
    (context : Context) : Quote :=
  match args with
  | [] => ⟨59, [request]⟩
  | applicationStr :: _ =>
      match admitOpen env.tunnelOrder context user applicationStr with
      | .error _ => admissionQuote env.tunnelOrder context applicationStr
      | .ok _ => setupQuote escaped env

def closeQuote (env : Env) (user : User) (args : List String) (context : Context) : Quote :=
  match closeReferences env.tunnelOrder context.tunnels user args with
  | .error _ =>
      match args with
      | text :: _ => ⟨59, [text]⟩
      | [] => .nothing
  | .ok references =>
      match firstKillError env.kill context.tunnels references with
      | some error => technicalQuote escaped (.ioError error)
      | none => .nothing

/-- A status quotes the application names; each stands with `: OK` or `: KO`,
and three bytes separate them. -/
def statusQuote (front : Nat) (status : Status) : Quote :=
  let names := status.applicationsStatus.keys
  ⟨front + 52 + (displayDevice status.deviceStatus).utf8ByteSize + (7 * names.length - 3), names⟩

def requestQuote (env : Env) (user : User) (request : String) (context : Context) : Quote :=
  match RustText.splitWhitespace request with
  | [] => ⟨67, [request]⟩
  | command :: args =>
      if commandWord command = "open" then openQuote escaped env user request args context
      else if commandWord command = "close" then closeQuote escaped env user args context
      else if commandWord command = "status" then
        match getStatus env.status context.configuration with
        | .ok status => statusQuote 0 status
        | .err error => technicalQuote escaped error
        | .panic | .stuck => .nothing
      else if commandWord command = "reboot" then .nothing
      else if commandWord command = "shutdown" then .nothing
      else ⟨50, [command]⟩

end Quotes

/-- With an encodable number, a message is submitted exactly when it is accepted. -/
theorem submits_iff_accepts (gsm7 : Gsm7) (sms : OutgoingSms) (number : List Char)
    (encoded : encodePhoneNumber sms.recipient = some number) :
    (∃ commands, submitCommands gsm7 sms = .ok commands) ↔ Accepts gsm7 sms.msg := by
  by_cases long : 140 < sms.msg.utf8ByteSize
  · simp [submitCommands, Accepts, long]
  · cases written : gsm7.write sms.msg with
    | error _ => simp [submitCommands, Accepts, long, encoded, encodeMessage, written]
    | ok _ =>
        simp [submitCommands, Accepts, long, encoded, encodeMessage, written]
        omega

@[simp] theorem nothing_fits : Quote.nothing.Fits := by
  constructor <;> simp [Quote.nothing]

theorem plain_of_bytes (text : String)
    (bytes : (text.toByteArray.data.toList.all fun byte =>
      decide (byte.toNat < 128) && Gsm0338.asciiMember byte.toNat) = true) : Plain text :=
  fun char member => writable_of_alphabet (Gsm0338.ascii_text_in_alphabet text bytes char member)

theorem plain_append (left right : String) : Plain (left ++ right) ↔ Plain left ∧ Plain right := by
  simp [Plain, or_imp, forall_and]

theorem number_in_alphabet (number : UInt32) :
    ∀ char ∈ (toString number).toList, Gsm0338.inAlphabet char = true := by
  intro char member
  rw [HexText.number_text] at member
  have decimal : char.isDigit = true :=
    Nat.isDigit_of_mem_toDigits (by decide) (by decide) member
  have bounds : 48 ≤ char.toNat ∧ char.toNat ≤ 57 := by
    simpa [Char.isDigit, UInt32.le_iff_toNat_le] using decimal
  have table : ∀ code < 58, 48 ≤ code → Gsm0338.inAlphabet (Char.ofNat code) = true := by
    decide +kernel
  have known := table char.toNat (by omega) bounds.1
  rwa [Char.ofNat_toNat] at known

theorem number_plain (number : UInt32) : Plain (toString number) :=
  fun char member => writable_of_alphabet (number_in_alphabet number char member)

theorem invalid_front_plain : Plain "The message you sent is invalid, " := plain_of_bytes _ rfl

theorem unprocessed_front_plain : Plain "Your request cannot be processed, " := plain_of_bytes _ rfl

theorem service_text (service : ServiceStatus) :
    (displayService service).utf8ByteSize = 2 ∧ Plain (displayService service) := by
  cases service <;> exact ⟨by decide, plain_of_bytes _ rfl⟩

theorem device_text (device : DeviceStatus) :
    (displayDevice device).utf8ByteSize ≤ 29 ∧ Plain (displayDevice device) := by
  cases device <;> exact ⟨by decide, plain_of_bytes _ rfl⟩

theorem applications_text (entries : List (Sigma fun _ : String => ServiceStatus)) :
    (displayApplications entries).utf8ByteSize =
        (7 * entries.length - 3) + ((entries.map Sigma.fst).map String.utf8ByteSize).sum ∧
      (Plain (displayApplications entries) ↔ ∀ name ∈ entries.map Sigma.fst, Plain name) := by
  have colon : Plain ": " := plain_of_bytes _ rfl
  have dash : Plain " - " := plain_of_bytes _ rfl
  have colonSize : ": ".utf8ByteSize = 2 := rfl
  have dashSize : " - ".utf8ByteSize = 3 := rfl
  match entries with
  | [] => exact ⟨by decide, by simp [displayApplications, Plain]⟩
  | [entry] =>
      obtain ⟨size, plain⟩ := service_text entry.2
      constructor
      · simp only [displayApplications, String.utf8ByteSize_append, size, colonSize,
          List.length_singleton, List.map_cons, List.map_nil, List.sum_singleton]
        omega
      · simp [displayApplications, plain_append, plain, colon]
  | entry :: next :: rest =>
      obtain ⟨size, plain⟩ := service_text entry.2
      obtain ⟨laterSize, laterPlain⟩ := applications_text (next :: rest)
      constructor
      · simp only [displayApplications, String.utf8ByteSize_append, size, colonSize, dashSize,
          laterSize, List.length_cons, List.map_cons, List.sum_cons]
        omega
      · simp only [displayApplications, plain_append, plain, colon, dash, laterPlain, List.map_cons,
          List.forall_mem_cons, and_true]

section Accepted
variable {gsm7 : Gsm7} (documented : gsm7.Documented)
include documented

theorem accepts_iff_fits (message : String) (quote : Quote)
    (size : message.utf8ByteSize = quote.around + (quote.parts.map String.utf8ByteSize).sum)
    (chars : Plain message ↔ ∀ part ∈ quote.parts, Plain part) :
    Accepts gsm7 message ↔ quote.Fits := by
  rw [Accepts, gsm7_write_isOk gsm7 documented, size, Quote.Fits, ← chars, Plain]

theorem fixed_accepted (message : String) (short : message.utf8ByteSize ≤ 140)
    (plain : Plain message) : Accepts gsm7 message :=
  ⟨short, (gsm7_write_isOk gsm7 documented message).mpr plain⟩

theorem front_accepted_iff (front text : String) (plain : Plain front) :
    Accepts gsm7 (front ++ text) ↔ (Quote.mk front.utf8ByteSize [text]).Fits := by
  apply accepts_iff_fits documented
  · simp [String.utf8ByteSize_append]
  · simp [plain_append, plain]

theorem numbered_accepted (front back : String) (number : UInt32)
    (short : front.utf8ByteSize + back.utf8ByteSize ≤ 130) (plainFront : Plain front)
    (plainBack : Plain back) : Accepts gsm7 (front ++ toString number ++ back) := by
  have size := HexText.number_byte_size number
  apply fixed_accepted documented
  · rw [String.utf8ByteSize_append, String.utf8ByteSize_append]
    omega
  · exact (plain_append _ _).mpr
      ⟨(plain_append _ _).mpr ⟨plainFront, number_plain number⟩, plainBack⟩

section Answers
variable (escaped : Char → Bool)

omit documented in
theorem answered_ok (message : String) :
    Answered gsm7 escaped (.ok message) ↔ Accepts gsm7 message := by
  simp [Answered, Returned, replyText]

omit documented in
theorem answered_never (outcome : Outcome String) (gone : ¬ Returned outcome) :
    Answered gsm7 escaped outcome ↔ Quote.nothing.Fits :=
  ⟨fun _ => nothing_fits, fun _ returned => absurd returned gone⟩

theorem answered_invalid_iff (front text : String) (around : Nat) (plain : Plain front)
    (width : ("The message you sent is invalid, " ++ front).utf8ByteSize = around) :
    Answered gsm7 escaped (.err (.invalidRequestError (front ++ text))) ↔
      (Quote.mk around [text]).Fits := by
  have whole : Plain ("The message you sent is invalid, " ++ front) :=
    (plain_append _ _).mpr ⟨invalid_front_plain, plain⟩
  rw [← width, ← front_accepted_iff documented _ text whole, String.append_assoc]
  simp [Answered, Returned, replyText]

theorem answered_invalid_fixed (text : String) (plain : Plain text)
    (short : ("The message you sent is invalid, " ++ text).utf8ByteSize ≤ 140) :
    Answered gsm7 escaped (.err (.invalidRequestError text)) := fun _ =>
  ⟨_, rfl, fixed_accepted documented _ short ((plain_append _ _).mpr ⟨invalid_front_plain, plain⟩)⟩

theorem answered_invalid_number (front : String) (number : UInt32) (plain : Plain front)
    (short : ("The message you sent is invalid, " ++ front).utf8ByteSize ≤ 130) :
    Answered gsm7 escaped (.err (.invalidRequestError (front ++ toString number))) := by
  have accepted := numbered_accepted documented ("The message you sent is invalid, " ++ front) ""
    number short ((plain_append _ _).mpr ⟨invalid_front_plain, plain⟩)
    (plain_of_bytes _ rfl)
  rw [String.append_empty, String.append_assoc] at accepted
  exact fun _ => ⟨_, rfl, accepted⟩

theorem answered_status_fixed (text : String) (plain : Plain text)
    (short : ("Your request cannot be processed, " ++ text).utf8ByteSize ≤ 140) :
    Answered gsm7 escaped (.err (.invalidStatus text)) := fun _ =>
  ⟨_, rfl, fixed_accepted documented _ short
    ((plain_append _ _).mpr ⟨unprocessed_front_plain, plain⟩)⟩

theorem answered_status_iff (front text : String) (around : Nat) (plain : Plain front)
    (width : ("Your request cannot be processed, " ++ front).utf8ByteSize = around) :
    Answered gsm7 escaped (.err (.invalidStatus (front ++ text))) ↔
      (Quote.mk around [text]).Fits := by
  have whole : Plain ("Your request cannot be processed, " ++ front) :=
    (plain_append _ _).mpr ⟨unprocessed_front_plain, plain⟩
  rw [← width, ← front_accepted_iff documented _ text whole, String.append_assoc]
  simp [Answered, Returned, replyText]

theorem answered_technical_iff (error : Error) (kind : technical error = true) :
    Answered gsm7 escaped (.err error) ↔ (technicalQuote escaped error).Fits := by
  have front := front_accepted_iff documented "An error occurred, " (error.debug escaped)
    (plain_of_bytes _ rfl)
  have width : "An error occurred, ".utf8ByteSize = 19 := rfl
  rw [technicalQuote, ← width, ← front]
  cases error
  case senderNotAllowed | invalidRequestError | invalidStatus => cases kind
  all_goals simp [Answered, Returned, replyText]

omit documented in
theorem always_fits {fact : Prop} (holds : fact) : fact ↔ Quote.nothing.Fits :=
  ⟨fun _ => nothing_fits, fun _ => holds⟩

theorem device_not_ready_answered (device : DeviceStatus) :
    Answered gsm7 escaped (.err (.invalidStatus
      ("Device is not ready - current state is " ++ displayDevice device))) := by
  have front : Plain "Device is not ready - current state is " := plain_of_bytes _ rfl
  obtain ⟨short, text⟩ := device_text device
  have size : ("Your request cannot be processed, " ++
      "Device is not ready - current state is ").utf8ByteSize = 73 := rfl
  apply answered_status_fixed documented escaped _ ((plain_append _ _).mpr ⟨front, text⟩)
  rw [← String.append_assoc, String.utf8ByteSize_append, size]
  omega

theorem limit_answered_iff (entries : List TunnelEntry) :
    Answered gsm7 escaped (.err (.invalidStatus
      ("The maximum tunnel number allowed is reached" ++ latestOpener entries))) ↔
      (limitQuote entries).Fits := by
  have reached : Plain "The maximum tunnel number allowed is reached" := plain_of_bytes _ rfl
  cases latest : latestTunnel entries with
  | none =>
      simp only [limitQuote, latestOpener, latest, String.append_empty]
      exact always_fits (answered_status_fixed documented escaped _ reached (by decide))
  | some tunnel =>
      have opener : Plain " - last tunnel open by " := plain_of_bytes _ rfl
      simp only [limitQuote, latestOpener, latest, ← String.append_assoc]
      exact answered_status_iff documented escaped _ tunnel.user 101
        ((plain_append _ _).mpr ⟨reached, opener⟩) rfl

theorem admission_answered_iff (order : Order TunnelEntry) (context : Context) (user : User)
    (applicationStr : String) (error : Error)
    (refused : admitOpen order context user applicationStr = .error error) :
    Answered gsm7 escaped (.err error) ↔ (admissionQuote order context applicationStr).Fits := by
  simp only [admitOpen] at refused
  simp only [admissionQuote]
  split at refused
  case isTrue notReady =>
    cases refused
    rw [if_pos notReady]
    exact always_fits (device_not_ready_answered documented escaped _)
  case isFalse ready =>
    rw [if_neg ready]
    split at refused
    case isTrue unreachable =>
      cases refused
      rw [if_pos unreachable]
      exact always_fits (answered_status_fixed documented escaped _
        (plain_of_bytes _ rfl) (by decide))
    case isFalse emailReachable =>
      rw [if_neg emailReachable]
      split at refused
      case isTrue unreachable =>
        cases refused
        rw [if_pos unreachable]
        exact always_fits (answered_status_fixed documented escaped _
          (plain_of_bytes _ rfl) (by decide))
      case isFalse sshReachable =>
        rw [if_neg sshReachable]
        cases resolved : context.configuration.applications.find?
            fun app => app.name == applicationStr with
        | none =>
          simp only [resolved] at refused ⊢
          cases refused
          exact answered_invalid_iff documented escaped "Unknown application: " applicationStr 54
            (plain_of_bytes _ rfl) rfl
        | some application =>
          simp only [resolved] at refused ⊢
          split at refused
          case isTrue unreachable =>
            cases refused
            rw [if_pos unreachable]
            have device : context.status.deviceStatus = .ready := by simpa using ready
            rw [device]
            exact always_fits (answered_status_fixed documented escaped _
              (plain_of_bytes _ rfl) (by decide))
          case isFalse reachable =>
            rw [if_neg reachable]
            split at refused
            case isTrue reached =>
              cases refused
              rw [if_pos reached]
              exact limit_answered_iff documented escaped _
            case isFalse below =>
              rw [if_neg below]
              split at refused
              case h_1 entry _ =>
                cases refused
                exact always_fits (answered_invalid_number documented escaped
                  "A tunnel is already open for this application: " entry.1
                  (plain_of_bytes _ rfl) (by decide))
              case h_2 => cases refused

theorem setup_answered_iff (env : Env) (user : User) (application : Application) (daemon : Daemon) :
    Answered gsm7 escaped (establishTunnel env user application daemon).1 ↔
      (setupQuote escaped env).Fits := by
  have front : Plain "Tunnel has been setup, reference is: " := plain_of_bytes _ rfl
  have back : Plain "\nAccess url has been send to you by mail" := plain_of_bytes _ rfl
  cases attempt : env.ssh with
  | error error =>
      simp only [establishTunnel, setupSshTunnel, setupQuote, attempt]
      exact answered_technical_iff documented escaped _ rfl
  | ok process =>
      cases awaited : awaitUrl process with
      | err error =>
          simp only [establishTunnel, setupSshTunnel, setupQuote, attempt, awaited]
          exact answered_technical_iff documented escaped error
            (await_url_technical process error awaited)
      | panic | stuck =>
          simp only [establishTunnel, setupSshTunnel, setupQuote, attempt, awaited]
          exact answered_never escaped _ id
      | ok url =>
          cases sent : sendEmail env.email with
          | error error =>
              simp only [establishTunnel, setupSshTunnel, setupQuote, attempt, awaited, sent]
              exact answered_technical_iff documented escaped error
                (send_email_technical env.email error sent)
          | ok _ =>
              simp only [establishTunnel, setupSshTunnel, setupQuote, attempt, awaited, sent,
                answered_ok]
              exact always_fits (numbered_accepted documented _ _ _ (by decide) front back)

theorem open_answered_iff (env : Env) (user : User) (request : String) (args : List String)
    (daemon : Daemon) :
    Answered gsm7 escaped (openTunnel env user request args daemon).1 ↔
      (openQuote escaped env user request args daemon.context).Fits := by
  cases args with
  | nil =>
      exact answered_invalid_iff documented escaped "No application specified: " request 59
        (plain_of_bytes _ rfl) rfl
  | cons applicationStr rest =>
      simp only [openTunnel, openQuote]
      cases admission : admitOpen env.tunnelOrder daemon.context user applicationStr with
      | error error =>
          exact admission_answered_iff documented escaped _ _ user applicationStr error admission
      | ok application => exact setup_answered_iff documented escaped env user application daemon

theorem close_answered_iff (env : Env) (user : User) (args : List String) (daemon : Daemon) :
    Answered gsm7 escaped (closeTunnel env user args daemon).1 ↔
      (closeQuote escaped env user args daemon.context).Fits := by
  have one : Plain "Tunnel has been closed" := plain_of_bytes _ rfl
  have many : Plain "Tunnels have been closed" := plain_of_bytes _ rfl
  unfold closeTunnel closeQuote
  cases named : closeReferences env.tunnelOrder daemon.context.tunnels user args with
  | error error =>
      cases args with
      | nil =>
          simp only [closeReferences] at named
          split at named
          · cases named
            exact always_fits (answered_invalid_fixed documented escaped _
              (plain_of_bytes _ rfl) (by decide))
          · cases named
      | cons text rest =>
          simp only [closeReferences] at named
          split at named
          · cases named
            exact answered_invalid_iff documented escaped "Invalid tunnel reference: " text 59
              (plain_of_bytes _ rfl) (by decide)
          · cases named
  | ok references =>
      dsimp only
      rcases close_references_cases _ _ _ _ _ named with ⟨distinct, present⟩ | ⟨other, rfl, absent⟩
      · rw [close_first_error env.kill references daemon distinct present]
        cases firstKillError env.kill daemon.context.tunnels references with
        | some error => exact answered_technical_iff documented escaped _ rfl
        | none =>
            refine (answered_ok escaped _).trans (always_fits ?_)
            simp only [closeMessage]
            split
            · exact fixed_accepted documented _ (by decide) many
            · exact fixed_accepted documented _ (by decide) one
      · have unknown : firstKillError env.kill daemon.context.tunnels [other] = none := by
          simp [firstKillError, absent]
        simp only [closeTunnels, absent, unknown]
        exact always_fits (answered_invalid_number documented escaped "Unknown tunnel reference: "
          other (plain_of_bytes _ rfl) (by decide))

omit documented in
theorem display_text (order : Order (Sigma fun _ : String => ServiceStatus)) (status : Status) :
    (display order status).utf8ByteSize = (statusQuote 0 status).around +
        ((statusQuote 0 status).parts.map String.utf8ByteSize).sum ∧
      (Plain (display order status) ↔ ∀ part ∈ (statusQuote 0 status).parts, Plain part) := by
  have labels : Plain "Device: " ∧ Plain "\n" ∧ Plain "Services: Email: " ∧
      Plain " - Ssh Tunnel: " ∧ Plain "Apps: " := by
    refine ⟨?_, ?_, ?_, ?_, ?_⟩ <;> exact plain_of_bytes _ rfl
  have widths : "Device: ".utf8ByteSize = 8 ∧ "\n".utf8ByteSize = 1 ∧
      "Services: Email: ".utf8ByteSize = 17 ∧ " - Ssh Tunnel: ".utf8ByteSize = 15 ∧
      "Apps: ".utf8ByteSize = 6 := by decide
  obtain ⟨emailSize, emailPlain⟩ := service_text status.emailServiceStatus
  obtain ⟨sshSize, sshPlain⟩ := service_text status.sshTunnelServiceStatus
  obtain ⟨_, devicePlain⟩ := device_text status.deviceStatus
  have arranged := (order.perm status.applicationsStatus.entries).map Sigma.fst
  obtain ⟨size, plain⟩ := applications_text (order.arrange status.applicationsStatus.entries)
  rw [(arranged.map String.utf8ByteSize).sum_nat,
    (order.perm status.applicationsStatus.entries).length_eq] at size
  have names : status.applicationsStatus.keys =
      status.applicationsStatus.entries.map Sigma.fst := rfl
  constructor
  · simp only [display, String.utf8ByteSize_append, widths, emailSize, sshSize, size, statusQuote,
      names, List.length_map]
    omega
  · simp only [display, plain_append, labels, emailPlain, sshPlain, devicePlain, plain, statusQuote,
      names, arranged.mem_iff, true_and, and_true]

theorem status_accepted_iff (order : Order (Sigma fun _ : String => ServiceStatus))
    (status : Status) : Accepts gsm7 (display order status) ↔ (statusQuote 0 status).Fits :=
  accepts_iff_fits documented _ _ (display_text order status).1 (display_text order status).2

theorem fronted_accepted_iff (front text : String) (width : Nat) (quote : Quote)
    (measured : front.utf8ByteSize = width) (plain : Plain front)
    (size : text.utf8ByteSize = quote.around + (quote.parts.map String.utf8ByteSize).sum)
    (chars : Plain text ↔ ∀ part ∈ quote.parts, Plain part) :
    Accepts gsm7 (front ++ text) ↔ (Quote.mk (width + quote.around) quote.parts).Fits := by
  apply accepts_iff_fits documented
  · rw [String.utf8ByteSize_append, measured, size, Nat.add_assoc]
  · rw [plain_append, chars]
    exact and_iff_right plain

theorem start_up_accepted_iff (order : Order (Sigma fun _ : String => ServiceStatus))
    (status : Status) : Accepts gsm7 (startUpText order status) ↔ (statusQuote 21 status).Fits := by
  obtain ⟨size, chars⟩ := display_text order status
  have quote : statusQuote 21 status =
      ⟨21 + (statusQuote 0 status).around, (statusQuote 0 status).parts⟩ := by
    simp only [statusQuote, Quote.mk.injEq, and_true]
    omega
  rw [quote]
  exact fronted_accepted_iff documented "Telco-Vecchio is up.\n" (display order status) 21 _
    rfl (plain_of_bytes _ rfl) size chars

theorem request_answered_iff (env : Env) (sender request : String) (daemon : Daemon) (user : User)
    (allowed : senderUser daemon.context.configuration sender = some user) :
    Answered gsm7 escaped (handleRequest env sender request daemon).1 ↔
      (requestQuote escaped env user request daemon.context).Fits := by
  simp only [handleRequest, allowed, requestQuote]
  cases words : RustText.splitWhitespace request with
  | nil =>
      exact answered_invalid_iff documented escaped "Cannot read command from request: " request 67
        (plain_of_bytes _ rfl) rfl
  | cons command args =>
      simp only [runCommand]
      split
      · exact open_answered_iff documented escaped env user request args daemon
      split
      · exact close_answered_iff documented escaped env user args daemon
      split
      · simp only [resolveStatus]
        cases resolved : getStatus env.status daemon.context.configuration with
        | ok status =>
            exact (answered_ok escaped _).trans (status_accepted_iff documented _ status)
        | err error =>
            exact answered_technical_iff documented escaped error
              (get_status_technical _ _ error resolved)
        | panic | stuck => exact answered_never escaped _ id
      split
      · exact (answered_ok escaped _).trans (always_fits (fixed_accepted documented _ (by decide)
          (plain_of_bytes _ rfl)))
      split
      · exact (answered_ok escaped _).trans (always_fits (fixed_accepted documented _ (by decide)
          (plain_of_bytes _ rfl)))
      · exact answered_invalid_iff documented escaped "Unknown command: " command 50
          (plain_of_bytes _ rfl) rfl

end Answers

end Accepted

/-- Every response to an allowed user, and the start-up notification, is
accepted by `send_sms` if and only if what it quotes fits. -/
theorem replies_accepted_iff (gsm7 : Gsm7) (documented : gsm7.Documented)
    (escaped : Char → Bool) :
    (∀ env sender request daemon user,
      senderUser daemon.context.configuration sender = some user →
      (Answered gsm7 escaped (handleRequest env sender request daemon).1 ↔
        (requestQuote escaped env user request daemon.context).Fits)) ∧
    ∀ order status, Accepts gsm7 (startUpText order status) ↔ (statusQuote 21 status).Fits :=
  ⟨fun env sender request daemon user allowed =>
      request_answered_iff documented escaped env sender request daemon user allowed,
    start_up_accepted_iff documented⟩

theorem unknown_application_answered : Answered Gsm7.standard (fun _ => false)
    (handleRequest (fineEnv 0) alice.phoneNumber "open garage" oneOpen).1 := by
  have quote : requestQuote (fun _ => false) (fineEnv 0) alice "open garage" oneOpen.context =
      ⟨54, ["garage"]⟩ := by decide +kernel
  have accepted := (replies_accepted_iff Gsm7.standard standard_documented fun _ => false).1
    (fineEnv 0) alice.phoneNumber "open garage" oneOpen alice (by decide)
  rw [quote] at accepted
  refine accepted.mpr ⟨by decide, ?_⟩
  simpa using plain_of_bytes "garage" rfl

/-! Six applications with names of eight letters. -/

def crowded : Configuration :=
  { house with applications :=
      ["entrance", "workshop", "basement", "verandah", "driveway", "backyard"].map fun name =>
        { camera with name } }

theorem crowded_status_dropped : ¬ ∀ gsm7 escaped configuration status events daemon,
    Gsm7.Documented gsm7 → Reaches configuration status events daemon →
    ∀ env sender request user, senderUser daemon.context.configuration sender = some user →
      Answered gsm7 escaped (handleRequest env sender request daemon).1 := by
  intro answered
  have reply := answered Gsm7.standard (fun _ => false) crowded readyStatus [] _
    standard_documented (.refl _) { fineEnv 0 with status := readyProbe } alice.phoneNumber
    "status" alice (by decide)
  have fits := (request_answered_iff standard_documented (fun _ => false) _ _ _ _ alice
    (by decide)).mp reply
  have long : requestQuote (fun _ => false) { fineEnv 0 with status := readyProbe } alice "status"
      (Daemon.start crowded readyStatus).context = ⟨96, ["backyard", "driveway", "verandah",
        "basement", "workshop", "entrance"]⟩ := by decide +kernel
  rw [long] at fits
  exact absurd fits.1 (by decide)

end TelcoVecchio.Replies
