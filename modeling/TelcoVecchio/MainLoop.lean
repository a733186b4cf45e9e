import TelcoVecchio.Service
import TelcoVecchio.SmsUtils

/-!
The loop of `run` in `daemon/src/main.rs` on an explicit clock. A wait ends by
the refresh timeout, which runs the periodic routines, or before it by a result
of `wait_sms`, which does not and starts the timer again. Expired tunnels are
removed by the periodic routines only.
-/

namespace TelcoVecchio.MainLoop

open Common Status Request SmsUtils Service

section Turns
variable (escaped : Char → Bool)

/-- The response that `run` makes out of the result of `handle_request`. -/
def replyText : Outcome String → Option String
  | .ok message => some message
  | .err (.senderNotAllowed _) => none
  | .err (.invalidRequestError message) => some ("The message you sent is invalid, " ++ message)
  | .err (.invalidStatus message) => some ("Your request cannot be processed, " ++ message)
  | .err error => some ("An error occurred, " ++ error.debug escaped)
  | .panic | .stuck => none

/-- A received message: the request is handled and the response sent back. A
failing `send_sms` is logged only. -/
def answer (env : Env) (sms : IncomingSms) (daemon : Daemon) : Daemon :=
  let handled := handleRequest env sms.sender sms.msg daemon
  match replyText escaped handled.1 with
  | some message => handled.2.record [.smsSent sms.sender message]
  | none => handled.2

/-- The routines of a wait that timed out: the internet ping, with a reboot
when it fails, and the cleaning. -/
def periodicRoutines (internetPing : Nat → IpAddr → Except SurgeError Unit) (now : Nat)
    (order : Order TunnelEntry) (calls : CleanUpCalls) (daemon : Daemon) :
    Outcome Unit × Daemon :=
  cleanUpExpiredTunnels now order calls <|
    if isConnectedToInternet internetPing daemon.context.configuration.emailConfig.internetHost then
      daemon
    else daemon.record [.rebooted]

inductive WaitEnd where
  | timedOut (internetPing : Nat → IpAddr → Except SurgeError Unit) (order : Order TunnelEntry)
      (calls : CleanUpCalls)
  | received (delay : Nat) (env : Env) (sms : IncomingSms)
  | failed (delay : Nat)

/-- The daemon at the start of a wait, with the time, and the time at which the
periodic routines last ran. -/
structure Loop where
  daemon : Daemon
  clock : Nat
  lastCleaning : Nat

def Loop.start (configuration : Configuration) (status : Status) (clock : Nat) : Loop :=
  { daemon := Daemon.start configuration status, clock, lastCleaning := clock }

def refreshPeriod (configuration : Configuration) : Nat :=
  fromSecs configuration.sshConfig.tunnelRefreshPeriodSec

def tunnelLimit (configuration : Configuration) : Nat :=
  fromSecs configuration.sshConfig.tunnelTimeoutSec

def Loop.wakesAt (loop : Loop) : WaitEnd → Nat
  | .timedOut _ _ _ => loop.clock + refreshPeriod loop.daemon.context.configuration
  | .received delay _ _ => loop.clock + delay
  | .failed delay => loop.clock + delay

def turn (loop : Loop) (wait : WaitEnd) : Loop :=
  let now := loop.wakesAt wait
  match wait with
  | .timedOut internetPing order calls =>
      -- the only branch that cleans
      { daemon := (periodicRoutines internetPing now order calls loop.daemon).2, clock := now,
        lastCleaning := now }
  | .received _ env sms =>
      { loop with daemon := answer escaped env sms loop.daemon, clock := now }
  | .failed _ => { loop with clock := now }

/-- A result of `wait_sms` comes before the timeout, requests and routines take
no time, and each turn returns. -/
def Takes (loop : Loop) (wait : WaitEnd) : Prop :=
  match wait with
  | .timedOut internetPing order calls =>
      Returned (periodicRoutines internetPing (loop.wakesAt wait) order calls loop.daemon).1
  | .received delay env sms =>
      delay ≤ refreshPeriod loop.daemon.context.configuration ∧
        env.now = loop.wakesAt wait ∧
        Returned (handleRequest env sms.sender sms.msg loop.daemon).1
  | .failed delay => delay ≤ refreshPeriod loop.daemon.context.configuration

def Turn (before : Loop) (wait : WaitEnd) (after : Loop) : Prop :=
  Takes before wait ∧ turn escaped before wait = after

theorem answer_context (env : Env) (sms : IncomingSms) (daemon : Daemon) :
    (answer escaped env sms daemon).context =
      (handleRequest env sms.sender sms.msg daemon).2.context := by
  simp only [answer]
  split <;> rfl

theorem turn_configuration {before after : Loop} {wait : WaitEnd}
    (taken : Turn escaped before wait after) :
    after.daemon.context.configuration = before.daemon.context.configuration := by
  obtain ⟨_, rfl⟩ := taken
  cases wait with
  | timedOut internetPing order calls =>
      refine (clean_up_shrinks _ order calls _).configuration.trans ?_
      split <;> rfl
  | received delay env sms =>
      change (answer escaped env sms before.daemon).context.configuration = _
      rw [answer_context]
      cases handled_table_change (handle_request_handled env sms.sender sms.msg before.daemon) with
      | removals shrinks => exact shrinks.configuration
      | insertion _ _ _ _ _ configuration => exact configuration
  | failed delay => rfl

def ExpiryBounded (configuration : Configuration) (status : Status)
    (guard : Loop → WaitEnd → Prop) : Prop :=
  ∀ (start : Nat) (waits : List WaitEnd) (loop : Loop),
    LabelledRun.Run (LabelledRun.guarded guard (Turn escaped))
      (Loop.start configuration status start) waits loop →
    ∀ key tunnel, loop.daemon.context.tunnels.lookup key = some tunnel →
      loop.clock ≤ tunnel.creationDate + (tunnelLimit configuration + refreshPeriod configuration)

/-- A wait that ends early while some tunnel is past the limit ends within a
refresh period of the last cleaning. -/
def CleaningNotOverdue (loop : Loop) (wait : WaitEnd) : Prop :=
  match wait with
  | .timedOut _ _ _ => True
  | .received _ _ _ | .failed _ =>
      (∃ key tunnel, loop.daemon.context.tunnels.lookup key = some tunnel ∧
        tunnel.creationDate + tunnelLimit loop.daemon.context.configuration < loop.wakesAt wait) →
      loop.wakesAt wait ≤ loop.lastCleaning + refreshPeriod loop.daemon.context.configuration

/-- What the guarded turns keep. A tunnel open at the last cleaning was within
the limit then. -/
structure Timely (configuration : Configuration) (loop : Loop) : Prop where
  same : loop.daemon.context.configuration = configuration
  cleaned : loop.lastCleaning ≤ loop.clock
  keptYoung : ∀ key tunnel, loop.daemon.context.tunnels.lookup key = some tunnel →
    loop.lastCleaning ≤ tunnel.creationDate + tunnelLimit configuration
  bounded : ∀ key tunnel, loop.daemon.context.tunnels.lookup key = some tunnel →
    loop.clock ≤ tunnel.creationDate + (tunnelLimit configuration + refreshPeriod configuration)

theorem timed_out_timely {configuration : Configuration} {before : Loop}
    (timely : Timely configuration before)
    (internetPing : Nat → IpAddr → Except SurgeError Unit) (order : Order TunnelEntry)
    (calls : CleanUpCalls)
    (takes : Takes before (.timedOut internetPing order calls)) :
    Timely configuration (turn escaped before (.timedOut internetPing order calls)) := by
  have taken : Turn escaped before (.timedOut internetPing order calls)
      (turn escaped before (.timedOut internetPing order calls)) := ⟨takes, rfl⟩
  have same := turn_configuration escaped taken
  have young : ∀ key tunnel, (turn escaped before
      (.timedOut internetPing order calls)).daemon.context.tunnels.lookup key = some tunnel →
      before.wakesAt (.timedOut internetPing order calls) ≤
        tunnel.creationDate + tunnelLimit configuration := by
    intro key tunnel held
    obtain ⟨_, age, measured, within⟩ := (clean_up_lookup _ order calls _ takes key tunnel).mp held
    have limit : age ≤ tunnelLimit configuration := by
      rw [← timely.same]
      split at within <;> exact within
    simp only [durationSince, Option.ite_none_right_eq_some, Option.some.injEq] at measured
    omega
  refine ⟨same.trans timely.same, le_rfl, young, ?_⟩
  intro key tunnel held
  exact (young key tunnel held).trans (by omega)

theorem early_timely {configuration : Configuration} {before : Loop} {wait : WaitEnd}
    (timely : Timely configuration before) (after : Loop)
    (same : after.daemon.context.configuration = configuration)
    (clock : after.clock = before.wakesAt wait) (later : before.clock ≤ after.clock)
    (lastCleaning : after.lastCleaning = before.lastCleaning)
    (tunnels : ∀ key tunnel, after.daemon.context.tunnels.lookup key = some tunnel →
      before.daemon.context.tunnels.lookup key = some tunnel ∨ tunnel.creationDate = after.clock)
    (onTime : (∃ key tunnel, before.daemon.context.tunnels.lookup key = some tunnel ∧
      tunnel.creationDate + tunnelLimit configuration < before.wakesAt wait) →
      before.wakesAt wait ≤ before.lastCleaning + refreshPeriod configuration) :
    Timely configuration after := by
  have cleaned := timely.cleaned
  refine ⟨same, by omega, ?_, ?_⟩
  · intro key tunnel held
    rcases tunnels key tunnel held with older | new
    · have young := timely.keptYoung key tunnel older
      omega
    · omega
  · intro key tunnel held
    rcases tunnels key tunnel held with older | new
    · by_cases expired : tunnel.creationDate + tunnelLimit configuration < before.wakesAt wait
      -- young at the last cleaning, and that is at most one period ago
      · have young := timely.keptYoung key tunnel older
        have soon := onTime ⟨key, tunnel, older, expired⟩
        omega
      · omega
    · omega

theorem turn_timely {configuration : Configuration} {before after : Loop} {wait : WaitEnd}
    (timely : Timely configuration before) (onTime : CleaningNotOverdue before wait)
    (taken : Turn escaped before wait after) : Timely configuration after := by
  have same := (turn_configuration escaped taken).trans timely.same
  obtain ⟨takes, rfl⟩ := taken
  cases wait with
  | timedOut internetPing order calls =>
      exact timed_out_timely escaped timely internetPing order calls takes
  | received delay env sms =>
      simp only [CleaningNotOverdue, timely.same] at onTime
      refine early_timely timely _ same rfl (Nat.le_add_right _ _) rfl ?_ onTime
      intro key tunnel held
      change (answer escaped env sms before.daemon).context.tunnels.lookup key = _ at held
      rw [answer_context] at held
      cases handled_table_change (handle_request_handled env sms.sender sms.msg before.daemon) with
      | removals shrinks => exact Or.inl (shrinks.held key tunnel held)
      | insertion user application applicationStr _ _ _ lookups =>
          rw [lookups] at held
          split at held
          · cases held
            exact Or.inr takes.2.1
          · exact Or.inl held
  | failed delay =>
      simp only [CleaningNotOverdue, timely.same] at onTime
      exact early_timely timely _ same rfl (Nat.le_add_right _ _) rfl
        (fun _ _ held => Or.inl held) onTime

theorem expiry_bounded (configuration : Configuration) (status : Status) :
    ExpiryBounded escaped configuration status CleaningNotOverdue := by
  intro start waits loop run
  have timely := LabelledRun.run_invariant (Timely configuration)
    (fun _ _ _ step timely => turn_timely escaped timely step.1 step.2) run
    ⟨rfl, le_rfl, by simp [Loop.start, Daemon.start, Context.new],
      by simp [Loop.start, Daemon.start, Context.new]⟩
  exact timely.bounded

end Turns

/-! A limit of one second and a refresh period of two. -/

def hurried : Configuration := { house with sshConfig := ⟨"tunnel.example.org", 1, 2, some 2⟩ }

def opening : WaitEnd := .received 0 (fineEnv 0) ⟨alice.phoneNumber, "open camera"⟩

/-- The loop after the `open` and a number of failed waits of 1.9 seconds. -/
def afterFailures (count : Nat) : Loop :=
  { daemon := answer (fun _ => false) (fineEnv 0) ⟨alice.phoneNumber, "open camera"⟩
      (Daemon.start hurried readyStatus)
    clock := count * 1900000000, lastCleaning := 0 }

theorem opening_handled :
    handleRequest (fineEnv 0) alice.phoneNumber "open camera" (Daemon.start hurried readyStatus) =
      (.ok (openMessage 0),
        withTunnel (fineEnv 0) alice camera url (Daemon.start hurried readyStatus)) :=
  fine_open 0 alice.phoneNumber alice _ (by decide) (by decide +kernel)

theorem after_failures_configuration (count : Nat) :
    (afterFailures count).daemon.context.configuration = hurried := by
  rw [afterFailures, answer_context, opening_handled]
  rfl

theorem after_failures_tunnel (count : Nat) :
    (afterFailures count).daemon.context.tunnels.lookup 0 =
      some ⟨"Alice", "camera", ⟨0⟩, 0⟩ := by
  rw [afterFailures, answer_context, opening_handled]
  decide +kernel

theorem opening_turn : Turn (fun _ => false) (Loop.start hurried readyStatus 0) opening
    (afterFailures 0) := by
  refine ⟨⟨Nat.zero_le _, rfl, ?_⟩, rfl⟩
  change Returned (handleRequest (fineEnv 0) alice.phoneNumber "open camera"
    (Daemon.start hurried readyStatus)).1
  rw [opening_handled]
  trivial

theorem failure_turn (count : Nat) : Turn (fun _ => false) (afterFailures count)
    (.failed 1900000000) (afterFailures (count + 1)) := by
  refine ⟨?_, ?_⟩
  · simp only [Takes, after_failures_configuration]
    decide
  · simp [turn, Loop.wakesAt, afterFailures, Nat.succ_mul]

theorem one_failure_bounded : ∃ tunnel,
    (afterFailures 1).daemon.context.tunnels.lookup 0 = some tunnel ∧
    (afterFailures 1).clock ≤
      tunnel.creationDate + (tunnelLimit hurried + refreshPeriod hurried) := by
  have run : LabelledRun.Run (LabelledRun.guarded CleaningNotOverdue (Turn fun _ => false))
      (Loop.start hurried readyStatus 0) [opening, .failed 1900000000] (afterFailures 1) := by
    refine .next ⟨fun _ => Nat.zero_le _, opening_turn⟩
      (.next ⟨fun _ => ?_, failure_turn 0⟩ (.refl _))
    simp only [Loop.wakesAt, after_failures_configuration]
    decide
  exact ⟨_, after_failures_tunnel 1, expiry_bounded (fun _ => false) hurried readyStatus 0 _ _ run
    0 _ (after_failures_tunnel 1)⟩

theorem failures_overrun : ¬ ∀ escaped configuration status,
    ExpiryBounded escaped configuration status fun _ _ => True := by
  intro bounded
  have run : LabelledRun.Run (LabelledRun.guarded (fun _ _ => True) (Turn fun _ => false))
      (Loop.start hurried readyStatus 0) [opening, .failed 1900000000, .failed 1900000000]
      (afterFailures 2) :=
    .next ⟨trivial, opening_turn⟩
      (.next ⟨trivial, failure_turn 0⟩ (.next ⟨trivial, failure_turn 1⟩ (.refl _)))
  have young := bounded (fun _ => false) hurried readyStatus 0 _ _ run 0 _ (after_failures_tunnel 2)
  exact absurd young (by decide)

end TelcoVecchio.MainLoop
