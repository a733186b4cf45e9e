import TelcoVecchio.CapturedOnce
import TelcoVecchio.LoopRefinement

/-!
The whole daemon: the main loop on the serial line. The loop waits for an SMS,
takes its turn with what the wait came to, and sends what the turn has to send
before it waits again, while the modem writes when it likes. What the daemon
does on request is then due to notifications of the modem, each of which is
good for one request at most, however the reads cut the line.
-/

namespace TelcoVecchio.DaemonOnLine

open Common Status SshUtils SmsUtils Request Service MainLoop SerialLine CapturedOnce

def askedBy : Effect → Option String
  | .spawned _ => some "open"
  | .rebootScheduled => some "reboot"
  | .poweroffScheduled => some "shutdown"
  | _ => none

def caused (word : String) (effect : Effect) : Bool := askedBy effect == some word

/-- The log is extended, with so many effects at most of each command. -/
def Causes (most : String → Nat) (before after : Daemon) : Prop :=
  ∃ later, after.log = before.log ++ later ∧ ∀ word, later.countP (caused word) ≤ most word

def once (command word : String) : Nat := if command = word then 1 else 0

theorem causes_refl (most : String → Nat) (daemon : Daemon) : Causes most daemon daemon :=
  ⟨[], by simp, by simp⟩

theorem causes_record (most : String → Nat) (daemon : Daemon) (effects : List Effect)
    (few : ∀ word, effects.countP (caused word) ≤ most word) :
    Causes most daemon (daemon.record effects) :=
  ⟨effects, rfl, few⟩

theorem causes_then {most : String → Nat} {before middle after : Daemon}
    (first : Causes most before middle)
    (unasked : Adds (fun effect => askedBy effect = none) middle after) :
    Causes most before after := by
  rcases first with ⟨effects, log, few⟩
  rcases unasked with ⟨later, laterLog, none⟩
  refine ⟨effects ++ later, by rw [laterLog, log, List.append_assoc], fun word => ?_⟩
  have silent : later.countP (caused word) = 0 := by
    rw [List.countP_eq_zero]
    intro effect listed
    simp [caused, none effect listed]
  rw [List.countP_append, silent]
  exact few word

theorem causes_of_adds {most : String → Nat} {before after : Daemon}
    (unasked : Adds (fun effect => askedBy effect = none) before after) :
    Causes most before after :=
  causes_then (causes_refl most before) unasked

theorem establish_causes (env : Env) (user : User) (application : Application)
    (daemon : Daemon) :
    Causes (once "open") daemon (establishTunnel env user application daemon).2 := by
  have one : ∀ effects : List Effect, (∀ effect ∈ effects, askedBy effect = none) →
      ∀ word, (.setupCalled application.hostIp application.port ::
        .spawned (nextChild daemon.log) :: effects).countP (caused word) ≤ once "open" word := by
    intro effects none word
    have silent : effects.countP (caused word) = 0 := by
      rw [List.countP_eq_zero]
      intro effect listed
      simp [caused, none effect listed]
    simp [List.countP_cons, silent, caused, askedBy, once]
  cases attempt : env.ssh with
  | error error =>
      simp only [establishTunnel, setupSshTunnel, attempt]
      exact causes_record _ _ _ (by simp [caused, askedBy])
  | ok process =>
      cases awaited : awaitUrl process with
      | err error =>
          simp only [establishTunnel, setupSshTunnel, attempt, awaited]
          exact causes_record _ _ _ (one _ (by simp [askedBy]))
      | panic =>
          simp only [establishTunnel, setupSshTunnel, attempt, awaited]
          exact causes_record _ _ _ (one _ (by simp [askedBy]))
      | stuck =>
          simp only [establishTunnel, setupSshTunnel, attempt, awaited]
          exact causes_record _ _ _ (one _ (by simp))
      | ok url =>
          cases sent : sendEmail env.email with
          | error error =>
              simp only [establishTunnel, setupSshTunnel, attempt, awaited, sent]
              exact causes_record _ _ _ (one _ (by simp [askedBy, urlMail]))
          | ok _ =>
              simp only [establishTunnel, setupSshTunnel, attempt, awaited, sent]
              exact causes_then (causes_record _ _ _ (one _ (by simp [askedBy, urlMail])))
                (insert_adds (fun _ => rfl) _ _ _)

theorem open_causes (env : Env) (user : User) (request : String) (args : List String)
    (daemon : Daemon) :
    Causes (once "open") daemon (openTunnel env user request args daemon).2 := by
  cases args with
  | nil => exact causes_refl _ daemon
  | cons applicationStr rest =>
      simp only [openTunnel]
      split
      · exact causes_refl _ daemon
      · exact establish_causes env user _ daemon

theorem close_causes (most : String → Nat) (env : Env) (user : User) (args : List String)
    (daemon : Daemon) : Causes most daemon (closeTunnel env user args daemon).2 := by
  simp only [closeTunnel]
  split
  · exact causes_refl _ daemon
  · exact causes_of_adds (close_adds (fun _ => rfl) (fun _ _ => rfl) _ _ _)

theorem status_causes (most : String → Nat) (env : Env) (daemon : Daemon) :
    Causes most daemon (resolveStatus env daemon).2 := by
  simp only [resolveStatus]
  split
  · exact ⟨[], by simp, by simp⟩
  · exact causes_refl _ daemon
  · exact causes_refl _ daemon
  · exact causes_refl _ daemon

def asks (configuration : Configuration) (word : String) (sms : IncomingSms) : Bool :=
  (senderUser configuration sms.sender).isSome && requestWord sms.msg == some word

/-- A request does at most once what its command asks for, and nothing else. -/
theorem handle_request_causes (env : Env) (sms : IncomingSms) (daemon : Daemon) :
    Causes (fun word => [sms].countP (asks daemon.context.configuration word)) daemon
      (handleRequest env sms.sender sms.msg daemon).2 := by
  simp only [handleRequest]
  cases allowed : senderUser daemon.context.configuration sms.sender with
  | none => exact causes_refl _ daemon
  | some user =>
      cases words : RustText.splitWhitespace sms.msg with
      | nil => exact causes_refl _ daemon
      | cons command args =>
          have counted : (fun word => [sms].countP (asks daemon.context.configuration word)) =
              once (commandWord command) := by
            funext word
            simp [asks, allowed, requestWord, words, once, List.countP_cons]
          rw [counted]
          simp only [runCommand]
          split
          · next isOpen =>
              rw [isOpen]
              exact open_causes env user sms.msg args daemon
          split
          · exact close_causes _ env user args daemon
          split
          · exact status_causes _ env daemon
          split
          · next isReboot =>
              rw [isReboot]
              exact causes_record _ _ _ (by simp [List.countP_cons, caused, askedBy, once])
          split
          · next isShutdown =>
              rw [isShutdown]
              exact causes_record _ _ _ (by simp [List.countP_cons, caused, askedBy, once])
          · exact causes_refl _ daemon

def received : WaitEnd → List IncomingSms
  | .received _ _ sms => [sms]
  | .timedOut _ _ _ => []
  | .failed _ => []

theorem turn_causes (escaped : Char → Bool) {before after : Loop} {wait : WaitEnd}
    (taken : Turn escaped before wait after) :
    Causes (fun word =>
      (received wait).countP (asks before.daemon.context.configuration word))
      before.daemon after.daemon := by
  rcases taken with ⟨_, rfl⟩
  cases wait with
  | failed delay => exact causes_refl _ before.daemon
  | received delay env sms =>
      have handled := handle_request_causes env sms before.daemon
      simp only [turn, answer]
      split
      · exact causes_then handled (record_adds _ _ (by simp [askedBy]))
      · exact handled
  | timedOut internetPing order calls =>
      -- the routines reboot the machine by themselves, but schedule nothing
      have cleaned : ∀ daemon : Daemon, Adds (fun effect => askedBy effect = none) daemon
          (cleanUpExpiredTunnels (before.wakesAt (.timedOut internetPing order calls)) order calls
            daemon).2 := by
        intro daemon
        apply clean_up_adds _ order calls daemon (fun _ => rfl) (fun _ _ => rfl)
        intro key tunnel _ effect listed
        rcases expiry_notification_sent _ _ effect listed with ⟨user, _, rfl⟩
        rfl
      simp only [turn, periodicRoutines]
      split
      · exact causes_of_adds (cleaned _)
      · apply causes_of_adds
        exact adds_trans (record_adds _ [.rebooted] (by simp [askedBy])) (cleaned _)

/-- `outbox` is what the turn that was taken last has still to send, `handled`
are the messages that the turns were taken with. -/
structure System where
  line : Line
  loop : Loop
  outbox : List OutgoingSms
  handled : List IncomingSms

def System.start (configuration : Configuration) (status : Status) (clock : Nat) : System where
  line := Line.start
  loop := Loop.start configuration status clock
  outbox := []
  handled := []

inductive Move where
  | notify (notification : Notification)
  | answer (bytes : List UInt8)
  | listen
  | send
  | read (count : Nat) (delay : Nat) (env : Env)
  | timeOut (internetPing : Nat → IpAddr → Except SurgeError Unit) (order : Order TunnelEntry)
      (calls : CleanUpCalls)
  | breakOff (delay : Nat)

section Moves
variable (gsm7 : Gsm7) (escaped : Char → Bool)

/-- What a read brings the wait to, if it ends it. -/
def waitEnd (chunk : List UInt8) (delay : Nat) (env : Env) : Option WaitEnd :=
  match waitRead (.ok chunk) with
  | .again => none
  | .failed => some (.failed delay)
  | .captured pdu =>
      match readPdu gsm7 pdu with
      | .ok sms => some (.received delay env sms)
      | .err _ => some (.failed delay)
      -- the task is gone, and the line with it
      | .panic | .stuck => none

def outgoing : Effect → Option OutgoingSms
  | .smsSent recipient message => some ⟨recipient, message⟩
  | _ => none

def toSend (before after : Loop) : List OutgoingSms :=
  (after.daemon.log.drop before.daemon.log.length).filterMap outgoing

def System.chunk (system : System) (count : Nat) : List UInt8 :=
  pendingBytes (system.line.taken count)

def System.turned (system : System) (line : Line) (loop : Loop) (wait : WaitEnd) : System where
  line := line
  loop := loop
  outbox := toSend system.loop loop
  handled := system.handled ++ received wait

inductive Step (system : System) : Move → System → Prop where
  | notified (line : Line) (notification : Notification)
      (written : SerialLine.Step gsm7 system.line (.notify notification) line) :
      Step system (.notify notification) { system with line }
  | answered (line : Line) (bytes : List UInt8)
      (written : SerialLine.Step gsm7 system.line (.answer bytes) line) :
      Step system (.answer bytes) { system with line }
  | listened (line : Line) (sent : system.outbox = [])
      (begun : SerialLine.Step gsm7 system.line .waitSms line) :
      Step system .listen { system with line }
  | sent (line : Line) (sms : OutgoingSms) (rest : List OutgoingSms)
      (next : system.outbox = sms :: rest)
      (begun : SerialLine.Step gsm7 system.line (.sendSms sms) line) :
      Step system .send { system with line, outbox := rest }
  /-- A read of `send_sms`, or one that the wait goes on after. -/
  | readOn (line : Line) (count delay : Nat) (env : Env)
      (taken : SerialLine.Step gsm7 system.line (.read count) line)
      (goesOn : system.line.mode = .waiting →
        waitEnd gsm7 (system.chunk count) delay env = none) :
      Step system (.read count delay env) { system with line }
  | readUp (line : Line) (loop : Loop) (count delay : Nat) (env : Env) (wait : WaitEnd)
      (waiting : system.line.mode = .waiting)
      (taken : SerialLine.Step gsm7 system.line (.read count) line)
      (ends : waitEnd gsm7 (system.chunk count) delay env = some wait)
      (turns : Turn escaped system.loop wait loop) :
      Step system (.read count delay env) (system.turned line loop wait)
  | timedOut (line : Line) (loop : Loop)
      (internetPing : Nat → IpAddr → Except SurgeError Unit) (order : Order TunnelEntry)
      (calls : CleanUpCalls) (waiting : system.line.mode = .waiting)
      (cancelled : SerialLine.Step gsm7 system.line .cancel line)
      (turns : Turn escaped system.loop (.timedOut internetPing order calls) loop) :
      Step system (.timeOut internetPing order calls)
        (system.turned line loop (.timedOut internetPing order calls))
  /-- The port fails, for `wait_sms` an error like any other. -/
  | waitFailed (line : Line) (loop : Loop) (delay : Nat) (waiting : system.line.mode = .waiting)
      (cancelled : SerialLine.Step gsm7 system.line .cancel line)
      (turns : Turn escaped system.loop (.failed delay) loop) :
      Step system (.breakOff delay) (system.turned line loop (.failed delay))
  /-- `send_sms` is given up on an error or at its timeout. -/
  | sendFailed (line : Line) (delay : Nat) (elsewhere : system.line.mode ≠ .waiting)
      (cancelled : SerialLine.Step gsm7 system.line .cancel line) :
      Step system (.breakOff delay) { system with line }

def decoded (pdu : String) : Option IncomingSms :=
  match readPdu gsm7 pdu with
  | .ok sms => some sms
  | .err _ | .panic | .stuck => none

inductive Spells : Move → Label → Prop where
  | notify (notification) : Spells (.notify notification) (.notify notification)
  | answer (bytes) : Spells (.answer bytes) (.answer bytes)
  | listen : Spells .listen .waitSms
  | send (sms) : Spells .send (.sendSms sms)
  | read (count delay env) : Spells (.read count delay env) (.read count)
  | timeOut (internetPing order calls) : Spells (.timeOut internetPing order calls) .cancel
  | breakOff (delay) : Spells (.breakOff delay) .cancel

def OnLine (guard : Line → Label → Prop) (system : System) (move : Move) : Prop :=
  ∀ label, Spells move label → guard system.line label

variable {gsm7 escaped}

theorem line_simulated (guard : Line → Label → Prop) :
    Simulation.Simulates (LabelledRun.guarded (OnLine guard) (Step gsm7 escaped))
      (LabelledRun.guarded guard (SerialLine.Step gsm7))
      (fun _ move labels => ∃ label, labels = [label] ∧ Spells move label)
      (fun system line => system.line = line) := by
  rintro before move after _ rfl ⟨allowed, step⟩
  have one : ∀ label line, Spells move label → SerialLine.Step gsm7 before.line label line →
      after.line = line → ∃ labels reached, (∃ label, labels = [label] ∧ Spells move label) ∧
        LabelledRun.Run (LabelledRun.guarded guard (SerialLine.Step gsm7)) before.line labels
          reached ∧ after.line = reached := by
    intro label line spells moved same
    refine ⟨[label], line, ⟨label, rfl, spells⟩, ?_, same⟩
    exact .next ⟨allowed label spells, moved⟩ (.refl _)
  cases step with
  | notified line notification written => exact one _ line (.notify notification) written rfl
  | answered line bytes written => exact one _ line (.answer bytes) written rfl
  | listened line sent begun => exact one _ line .listen begun rfl
  | sent line sms rest next begun => exact one _ line (.send sms) begun rfl
  | readOn line count delay env taken goesOn => exact one _ line (.read count delay env) taken rfl
  | readUp line loop count delay env wait waiting taken ends turns =>
      exact one _ line (.read count delay env) taken rfl
  | timedOut line loop internetPing order calls waiting cancelled turns =>
      exact one _ line (.timeOut internetPing order calls) cancelled rfl
  | waitFailed line loop delay waiting cancelled turns =>
      exact one _ line (.breakOff delay) cancelled rfl
  | sendFailed line delay elsewhere cancelled => exact one _ line (.breakOff delay) cancelled rfl

/-- An invariant of the line is one of the system. -/
theorem line_carried {guard : Line → Label → Prop} {invariant : Line → Prop}
    (kept : ∀ before label after, LabelledRun.guarded guard (SerialLine.Step gsm7) before label
      after → invariant before → invariant after) (start : invariant Line.start)
    {configuration : Configuration} {status : Status} {clock : Nat} {moves : List Move}
    {system : System}
    (run : LabelledRun.Run (LabelledRun.guarded (OnLine guard) (Step gsm7 escaped))
      (System.start configuration status clock) moves system) : invariant system.line := by
  refine Simulation.invariant_carried (line_simulated guard) rfl invariant
    (fun system => invariant system.line) ?_ ?_ run
  · intro labels line reached
    exact LabelledRun.run_invariant invariant kept reached start
  · rintro system _ rfl held
    exact held

theorem line_captured {before after : Line} {label : Label}
    (step : SerialLine.Step gsm7 before label after) (unread : ∀ count, label ≠ .read count) :
    after.captured = before.captured := by
  cases label with
  | read count => exact absurd rfl (unread count)
  | notify notification =>
      cases step
      rfl
  | answer bytes =>
      cases step
      rfl
  | waitSms =>
      simp only [SerialLine.Step, stepLine] at step
      split at step
      · cases step
        rfl
      · cases step
  | sendSms sms =>
      simp only [SerialLine.Step, stepLine] at step
      split at step
      · split at step
        · cases step
          rfl
        · cases step
          rfl
        · cases step
          rfl
      · cases step
  | cancel =>
      simp only [SerialLine.Step, stepLine] at step
      split at step
      · cases step
      · cases step
        rfl

theorem read_decoded {before after : Line} {count : Nat} (delay : Nat) (env : Env)
    (step : SerialLine.Step gsm7 before (.read count) after) (waiting : before.mode = .waiting) :
    after.captured.filterMap (decoded gsm7) = before.captured.filterMap (decoded gsm7) ++
      ((waitEnd gsm7 (pendingBytes (before.taken count)) delay env).toList.flatMap received) := by
  rw [read_step gsm7 before after count step]
  cases found : waitRead (.ok (pendingBytes (before.taken count))) with
  | again =>
      rw [on_read_no_capture gsm7 _ _ (by simp [found])]
      simp [waitEnd, found]
  | failed =>
      rw [on_read_no_capture gsm7 _ _ (by simp [found])]
      simp [waitEnd, found, received]
  | captured pdu =>
      rw [on_read_capture gsm7 { before with pending := before.left count } _ pdu waiting found,
        List.filterMap_append]
      cases decodes : readPdu gsm7 pdu with
      | ok sms => simp [waitEnd, found, decoded, decodes, received]
      | err error => simp [waitEnd, found, decoded, decodes, received]
      | panic => simp [waitEnd, found, decoded, decodes]
      | stuck => simp [waitEnd, found, decoded, decodes]

/-- The turns were taken with the requests in the captured lines, and what was
done on request is covered by them. -/
structure Accounted (gsm7 : Gsm7) (configuration : Configuration) (system : System) : Prop where
  handled : system.line.captured.filterMap (decoded gsm7) = system.handled
  configured : system.loop.daemon.context.configuration = configuration
  covered : ∀ word, system.loop.daemon.log.countP (caused word) ≤
    system.handled.countP (asks configuration word)

theorem line_accounted {configuration : Configuration} {system : System}
    (accounted : Accounted gsm7 configuration system) {line : Line}
    (same : line.captured.filterMap (decoded gsm7) =
      system.line.captured.filterMap (decoded gsm7)) (outbox : List OutgoingSms) :
    Accounted gsm7 configuration { system with line, outbox } where
  handled := same.trans accounted.handled
  configured := accounted.configured
  covered := accounted.covered

theorem turned_accounted {configuration : Configuration} {system : System}
    (accounted : Accounted gsm7 configuration system) {line : Line} {loop : Loop} {wait : WaitEnd}
    (more : line.captured.filterMap (decoded gsm7) =
      system.line.captured.filterMap (decoded gsm7) ++ received wait)
    (turns : Turn escaped system.loop wait loop) :
    Accounted gsm7 configuration (system.turned line loop wait) where
  handled := by
    rw [System.turned, more, accounted.handled]
  configured := (turn_configuration escaped turns).trans accounted.configured
  covered := by
    intro word
    rcases turn_causes escaped turns with ⟨later, log, few⟩
    rw [accounted.configured] at few
    simp only [System.turned]
    rw [log, List.countP_append, List.countP_append]
    exact Nat.add_le_add (accounted.covered word) (few word)

theorem step_accounted {configuration : Configuration} {before after : System} {move : Move}
    (step : Step gsm7 escaped before move after) (accounted : Accounted gsm7 configuration before) :
    Accounted gsm7 configuration after := by
  have unheard : ∀ {label line}, SerialLine.Step gsm7 before.line label line →
      (∀ count, label ≠ .read count) → line.captured.filterMap (decoded gsm7) =
        before.line.captured.filterMap (decoded gsm7) :=
    fun moved unread => congrArg _ (line_captured moved unread)
  cases step with
  | notified line notification written =>
      exact line_accounted accounted (unheard written (by simp)) before.outbox
  | answered line bytes written =>
      exact line_accounted accounted (unheard written (by simp)) before.outbox
  | listened line sent begun =>
      exact line_accounted accounted (unheard begun (by simp)) before.outbox
  | sent line sms rest next begun =>
      exact line_accounted accounted (unheard begun (by simp)) rest
  | readOn line count delay env taken goesOn =>
      refine line_accounted accounted ?_ before.outbox
      by_cases waiting : before.line.mode = .waiting
      · have goes := goesOn waiting
        simp only [System.chunk] at goes
        rw [read_decoded delay env taken waiting, goes]
        simp
      · rw [read_step gsm7 before.line line count taken]
        exact congrArg _ (on_read_elsewhere gsm7 { before.line with pending := _ } _ waiting)
  | readUp line loop count delay env wait waiting taken ends turns =>
      refine turned_accounted accounted ?_ turns
      simp only [System.chunk] at ends
      rw [read_decoded delay env taken waiting, ends]
      simp
  | timedOut line loop internetPing order calls waiting cancelled turns =>
      refine turned_accounted accounted ?_ turns
      rw [unheard cancelled (by simp), received, List.append_nil]
  | waitFailed line loop delay waiting cancelled turns =>
      refine turned_accounted accounted ?_ turns
      rw [unheard cancelled (by simp), received, List.append_nil]
  | sendFailed line delay elsewhere cancelled =>
      exact line_accounted accounted (unheard cancelled (by simp)) before.outbox

theorem run_accounted {guard : System → Move → Prop} {configuration : Configuration}
    {status : Status} {clock : Nat} {moves : List Move} {system : System}
    (run : LabelledRun.Run (LabelledRun.guarded guard (Step gsm7 escaped))
      (System.start configuration status clock) moves system) :
    Accounted gsm7 configuration system :=
  LabelledRun.run_invariant (Accounted gsm7 configuration)
    (fun _ _ _ step accounted => step_accounted step.2 accounted) run
    ⟨rfl, rfl, fun _ => Nat.le_refl 0⟩

end Moves

theorem handled_sublist {gsm7 : Gsm7} {escaped : Char → Bool} {configuration : Configuration}
    {status : Status} {clock : Nat} {moves : List Move} {system : System}
    (run : LabelledRun.Run (LabelledRun.guarded (OnLine UntaggedAnswers) (Step gsm7 escaped))
      (System.start configuration status clock) moves system) :
    system.handled.Sublist (system.line.emitted.filterMap (decoded gsm7)) := by
  rcases line_carried (step_traced gsm7) ⟨[], 0, start_traced⟩ run with ⟨sent, seen, traced⟩
  rw [← (run_accounted run).handled]
  exact (traced_sublist traced).filterMap (decoded gsm7)

/-- As long as no echo or answer holds `+CMT:` or breaks off inside of it, and
the turns return: the requests that are handled are requests of notifications of
the modem, in their order and each at most once, and there are no more ssh
processes spawned, reboots and shutdowns scheduled than notifications in which a
configured user asks for that. -/
theorem requests_announced (gsm7 : Gsm7) (escaped : Char → Bool) (configuration : Configuration)
    (status : Status) (clock : Nat) (moves : List Move) (system : System)
    (run : LabelledRun.Run (LabelledRun.guarded (OnLine UntaggedAnswers) (Step gsm7 escaped))
      (System.start configuration status clock) moves system) :
    system.handled.Sublist (system.line.emitted.filterMap (decoded gsm7)) ∧
      ∀ word, system.loop.daemon.log.countP (caused word) ≤
        (system.line.emitted.filterMap (decoded gsm7)).countP (asks configuration word) := by
  have among := handled_sublist run
  exact ⟨among, fun word => ((run_accounted run).covered word).trans among.countP_le⟩

/-- The message `open camera` from Alice. -/
def cameraNotification : Notification :=
  .ofOctets [' ', ',', '3', '6']
    (deliverOctets ++ [0x0B, 0x6F, 0x78, 0xD9, 0x0D, 0x1A, 0x87, 0xDB, 0x65, 0x79, 0x18])
    (by decide) (by simp)

def cameraRequest : IncomingSms := ⟨alice.phoneNumber, "open camera"⟩

theorem camera_read : readPdu Gsm7.standard (String.ofList cameraNotification.pdu) =
    .ok cameraRequest := by
  decide +kernel

def cameraLength : Nat := cameraNotification.bytes.length

theorem camera_ends_wait : waitEnd Gsm7.standard
    (pendingBytes ((announced cameraNotification).taken cameraLength)) 0 (fineEnv 0) =
      some opening := by
  have bytes : pendingBytes ((announced cameraNotification).taken cameraLength) =
      RustText.utf8Bytes ([] ++ cameraNotification.text ++ []) := by
    rw [cameraLength, announced_taken]
    simp [pendingBytes, FramedStream.streamBytes, FramedStream.Piece.bytes, Notification.bytes]
  have captured := whole_captured cameraNotification [] []
    (fun tagged => absurd (List.infix_nil.mp tagged) (List.cons_ne_nil _ _))
  simp only [waitEnd, bytes, captured, camera_read]
  rfl

theorem camera_run {guard : Line → Label → Prop}
    (notify : ∀ line, guard line (.notify cameraNotification))
    (listen : ∀ line, guard line .waitSms)
    (read : guard (announced cameraNotification) (.read cameraLength)) :
    ∃ moves system,
      LabelledRun.Run (LabelledRun.guarded (OnLine guard) (Step Gsm7.standard fun _ => false))
        (System.start hurried readyStatus 0) moves system ∧ system.handled = [cameraRequest] := by
  let heard : System := ⟨announced cameraNotification, Loop.start hurried readyStatus 0, [], []⟩
  have taken := step_read Gsm7.standard (announced cameraNotification) cameraLength
    (by decide +kernel) (by decide +kernel) (by decide +kernel)
  have handled : Step Gsm7.standard (fun _ => false) heard (.read cameraLength 0 (fineEnv 0)) _ :=
    .readUp _ _ cameraLength 0 (fineEnv 0) _ rfl taken camera_ends_wait opening_turn
  refine ⟨_, _, .next ⟨?_, .notified _ cameraNotification rfl⟩
    (.next ⟨?_, .listened _ rfl rfl⟩ (.next ⟨?_, handled⟩ (.refl _))), rfl⟩
  · rintro _ ⟨⟩
    exact notify _
  · rintro _ ⟨⟩
    exact listen _
  · rintro _ ⟨⟩
    exact read

theorem camera_opened : ∃ moves system,
    LabelledRun.Run
      (LabelledRun.guarded (OnLine UntaggedAnswers) (Step Gsm7.standard fun _ => false))
      (System.start hurried readyStatus 0) moves system ∧
    system.handled = [cameraRequest] ∧
    system.handled.Sublist (system.line.emitted.filterMap (decoded Gsm7.standard)) ∧
    ∀ word, system.loop.daemon.log.countP (caused word) ≤
      (system.line.emitted.filterMap (decoded Gsm7.standard)).countP (asks hurried word) := by
  have free : UntaggedAnswers (announced cameraNotification) (.read cameraLength) := trivial
  rcases camera_run (fun _ => trivial) (fun _ => trivial) free with ⟨moves, system, run, handled⟩
  exact ⟨moves, system, run, handled,
    requests_announced Gsm7.standard _ hurried readyStatus 0 moves system run⟩

end TelcoVecchio.DaemonOnLine
