import TelcoVecchio.Replies

/-!
`daemon/src/init.rs`: the wait for a reliable status at the start of the daemon
and the notification of the registered init listener. The register is a file
that outlives the daemon; here it is its content, if it exists. The rest of the
environment holds what the outside answers during one start.
-/

namespace TelcoVecchio.Init

open Common Status Request Service Replies

structure InitConfig where
  initStatusRefreshMaxRetry : UInt32
  deriving DecidableEq

/-- The numbered probes are the `get_status` calls of the start, in order.
`openPort` is what the notification meets. -/
structure StartEnv where
  probes : Nat → StatusProbe
  verifySimPin : QmiRun
  smsInit : Except Error Unit
  statusOrder : Order (Sigma fun _ : String => ServiceStatus)
  openPort : Except IoError Unit

section Settling
variable (configuration : Configuration) (env : StartEnv)

/-- The loop that waits for a reliable status, with `sleep_loop_counter` retries
and `sim_unlock_performed`; `call` counts the status queries. -/
def settleStatus (sleepLoopCounter : Nat) (simUnlockPerformed : Bool) (call : Nat)
    (status : Status) : Outcome Status :=
  match status.deviceStatus with
  | .simLocked =>
      if simUnlockPerformed then .ok status
      else
        (Outcome.ofExcept (qmiCommand env.verifySimPin)).bind fun _ =>
          (getStatus (env.probes call) configuration).bind
            (settleStatus sleepLoopCounter true (call + 1))
  | .lteNotConnected | .internetUnreachable =>
      if sleepLoopCounter = 0 then .ok status
      else
        (getStatus (env.probes call) configuration).bind
          (settleStatus (sleepLoopCounter - 1) simUnlockPerformed (call + 1))
  | .ready => .ok status
termination_by sleepLoopCounter + (!simUnlockPerformed).toNat
decreasing_by
  · simp_all
  · simp only [Nat.add_lt_add_iff_right]
    omega

def firstStatus (initConfig : InitConfig) : Outcome Status :=
  (getStatus (env.probes 0) configuration).bind
    (settleStatus configuration env initConfig.initStatusRefreshMaxRetry.toNat false 1)

end Settling

def smsPossible (status : Status) : Bool :=
  decide (status.deviceStatus ≠ .simLocked ∧ status.deviceStatus ≠ .lteNotConnected)

/-- `lookup_init_listener`: the first user of the registered name. -/
def lookupInitListener (configuration : Configuration) (register : Option String) : Option User :=
  register.bind fun content => configuration.users.find? fun user => user.name == content

def startUpNotice (env : StartEnv) (status : Status) : Option User → List Effect
  | some initListener =>
      [.smsSent initListener.phoneNumber (startUpText env.statusOrder status)]
  | none => []

def startUpNoticePanics (env : StartEnv) (status : Status) : Option User → Bool
  | some initListener =>
      sendSmsPanics env.openPort initListener.phoneNumber (startUpText env.statusOrder status)
  | none => false

/-- What a call of `init` returns, what it leaves of the register and what it
sends. -/
structure Started where
  result : Outcome Context
  register : Option String
  effects : List Effect

def init (configFile : Except Error (InitConfig × Configuration)) (env : StartEnv)
    (register : Option String) : Started :=
  match configFile with
  | .error error => ⟨.err error, register, []⟩
  | .ok (initConfig, configuration) =>
      match firstStatus configuration env initConfig with
      | .err error => ⟨.err error, register, []⟩
      | .panic => ⟨.panic, register, []⟩
      | .stuck => ⟨.stuck, register, []⟩
      | .ok status =>
          if smsPossible status then
            match env.smsInit with
            | .error error => ⟨.err error, register, []⟩
            -- the lookup removes the register whether or not it names a user
            | .ok _ =>
                let initListener := lookupInitListener configuration register
                ⟨if startUpNoticePanics env status initListener then .panic
                  else .ok (Context.new configuration status),
                  none, startUpNotice env status initListener⟩
          else ⟨.ok (Context.new configuration status), register, []⟩

/-- The notification, if there is one to send, is to a number that
`encode_phone_number` comes back on. -/
def NoticeReturns (env : StartEnv) (status : Status) (initListener : Option User) : Prop :=
  ∀ user, initListener = some user →
    (startUpText env.statusOrder status).utf8ByteSize ≤ 140 → env.openPort = .ok () →
    (SmsUtils.encodePhoneNumber user.phoneNumber).isSome = true

theorem notice_returns_iff (env : StartEnv) (status : Status) (initListener : Option User) :
    startUpNoticePanics env status initListener = false ↔
      NoticeReturns env status initListener := by
  cases initListener with
  | none => simp [startUpNoticePanics, NoticeReturns]
  | some user =>
      rw [← Bool.not_eq_true, startUpNoticePanics, send_sms_panics_iff]
      simp [NoticeReturns, Option.isSome_iff_ne_none]

def passedSmsInit (initConfig : InitConfig) (configuration : Configuration) (env : StartEnv) :
    Option Status :=
  match firstStatus configuration env initConfig, env.smsInit with
  | .ok status, .ok _ => if smsPossible status then some status else none
  | _, _ => none

section Starts
variable (initConfig : InitConfig) (configuration : Configuration) (env : StartEnv)
  (register : Option String)

theorem init_passed (status : Status)
    (passed : passedSmsInit initConfig configuration env = some status) :
    init (.ok (initConfig, configuration)) env register =
      ⟨if startUpNoticePanics env status (lookupInitListener configuration register) then .panic
        else .ok (Context.new configuration status), none,
        startUpNotice env status (lookupInitListener configuration register)⟩ := by
  simp only [passedSmsInit] at passed
  cases settled : firstStatus configuration env initConfig with
  | ok settledStatus =>
      cases opened : env.smsInit with
      | ok _ =>
          simp only [settled, opened, Option.ite_none_right_eq_some, Option.some.injEq] at passed
          obtain ⟨possible, rfl⟩ := passed
          simp only [init, settled, opened, possible, if_true]
      | error error => simp [settled, opened] at passed
  | err error => simp [settled] at passed
  | panic => simp [settled] at passed
  | stuck => simp [settled] at passed

/-- A start that ends before the lookup leaves the register alone. -/
theorem init_not_passed (missed : passedSmsInit initConfig configuration env = none) :
    (init (.ok (initConfig, configuration)) env register).register = register ∧
      (init (.ok (initConfig, configuration)) env register).effects = [] := by
  simp only [passedSmsInit] at missed
  simp only [init]
  cases settled : firstStatus configuration env initConfig with
  | ok status =>
      by_cases possible : smsPossible status = true
      · cases opened : env.smsInit with
        | ok _ => simp [settled, opened, possible] at missed
        | error error => simp [possible]
      · simp [possible]
  | err error => exact ⟨rfl, rfl⟩
  | panic => exact ⟨rfl, rfl⟩
  | stuck => exact ⟨rfl, rfl⟩

theorem settled_of_ready (status : Status)
    (resolved : getStatus (env.probes 0) configuration = .ok status)
    (ready : status.deviceStatus = .ready) :
    firstStatus configuration env initConfig = .ok status := by
  rw [firstStatus, resolved, Outcome.bind, settleStatus, ready]

theorem passed_of_ready (status : Status)
    (resolved : getStatus (env.probes 0) configuration = .ok status)
    (ready : status.deviceStatus = .ready) (opened : env.smsInit = .ok ()) :
    passedSmsInit initConfig configuration env = some status := by
  have settled := settled_of_ready initConfig configuration env status resolved ready
  simp [passedSmsInit, settled, opened, smsPossible, ready]

theorem settle_status_set_up (outcome : Except Error Unit) (sleepLoopCounter : Nat)
    (simUnlockPerformed : Bool) (call : Nat) (status : Status) :
    settleStatus configuration { env with smsInit := outcome } sleepLoopCounter
        simUnlockPerformed call status =
      settleStatus configuration env sleepLoopCounter simUnlockPerformed call status := by
  induction sleepLoopCounter, simUnlockPerformed, call, status using settleStatus.induct with
  | case1 _ _ status settled | case3 _ _ status settled | case5 _ _ status settled =>
      rw [settleStatus, settleStatus, settled]
      rfl
  | case7 _ _ _ status ready =>
      rw [settleStatus, settleStatus, ready]
  | case2 counter performed call status locked unlock ih =>
      rw [settleStatus, settleStatus, locked]
      simp only [unlock]
      rw [funext ih]
  | case4 counter performed call status waiting left ih
  | case6 counter performed call status waiting left ih =>
      rw [settleStatus, settleStatus, waiting]
      simp only [left, if_false]
      rw [funext ih]

theorem first_status_set_up (outcome : Except Error Unit) :
    firstStatus configuration { env with smsInit := outcome } initConfig =
      firstStatus configuration env initConfig := by
  rw [firstStatus, firstStatus, funext (settle_status_set_up configuration env outcome _ _ _)]

theorem init_context (context : Context)
    (started : (init (.ok (initConfig, configuration)) env register).result = .ok context) :
    ∃ status, firstStatus configuration env initConfig = .ok status ∧
      context = Context.new configuration status := by
  simp only [init] at started
  cases settled : firstStatus configuration env initConfig with
  | ok status =>
      refine ⟨status, rfl, ?_⟩
      simp only [settled] at started
      split at started
      · split at started
        · cases started
        · simp only at started
          split at started
          · cases started
          · exact (Outcome.ok.inj started).symm
      · exact (Outcome.ok.inj started).symm
  | err error => simp [settled] at started
  | panic => simp [settled] at started
  | stuck => simp [settled] at started

end Starts

end TelcoVecchio.Init
