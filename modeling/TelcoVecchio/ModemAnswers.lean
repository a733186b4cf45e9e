import TelcoVecchio.Init

/-!
Which answers of the modem are reported. The conversion to an error covers text
that does not parse and a value of another type; the keys on the way are indexed,
and an answer without them ends the daemon in a panic.
-/

namespace TelcoVecchio.ModemAnswers

open Common Status Request Service Init

/-- What the qmi binary prints, with a successful exit, when it is asked for the
state of the sim card and for the system info. -/
structure ModemAnswer where
  simState : String
  systemInfo : String

def printed (text : String) : QmiRun := .exited true (RustText.utf8Bytes text.toList)

def answering (parse : String → Option JsonValue) (answer : ModemAnswer) (rest : StatusProbe) :
    StatusProbe :=
  { rest with
    parseJson := parse
    simState := printed answer.simState
    systemInfo := printed answer.systemInfo }

def valueAt : List String → JsonValue → Option JsonValue
  | [], json => some json
  | key :: rest, json => (json.index key).bind (valueAt rest)

def pinStatusPath : List String := ["pin1_status"]

def serviceStatusPath : List String := ["lte", "service_status"]

section Answers
variable (parse : String → Option JsonValue)

def expectedString (path : List String) (text : String) : Option String :=
  (parse text).bind fun json => (valueAt path json).bind JsonValue.getString

def Reported (path : List String) (text : String) (outcome : Outcome Bool) : Prop :=
  Returned outcome ∧ (expectedString parse path text = none →
    ∃ message, outcome = .err (.qmiResponseParsingError message))

def HasKeys (path : List String) (text : String) : Prop :=
  ∀ json, parse text = some json → (valueAt path json).isSome = true

/-- No answer of the modem ends the daemon, in the loop of `init` or later. The
answers are numbered by the status queries of a start; each can also meet a
`status` command. -/
structure NeverFatal (answers : Nat → ModemAnswer) : Prop where
  simLocked : ∀ query rest, Reported parse pinStatusPath (answers query).simState
    (isSimLocked (answering parse (answers query) rest))
  connectedToLte : ∀ query rest, Reported parse serviceStatusPath (answers query).systemInfo
    (isConnectedToLte (answering parse (answers query) rest))
  deviceStatus : ∀ query rest configuration,
    Returned (getDeviceStatus (answering parse (answers query) rest) configuration)
  status : ∀ query rest configuration,
    Returned (getStatus (answering parse (answers query) rest) configuration)
  command : ∀ query (env : Env) sender request daemon, requestWord request = some "status" →
    Returned (handleRequest { env with status := answering parse (answers query) env.status }
      sender request daemon).1
  start : ∀ initConfig configuration (env : StartEnv),
    Returned (firstStatus configuration { env with
      probes := fun query => answering parse (answers query) (env.probes query) } initConfig)

def readString (path : List String) (text unparsed unread : String)
    (next : String → Outcome Bool) : Outcome Bool :=
  match parse text with
  | none => .err (.qmiResponseParsingError unparsed)
  | some json =>
      match valueAt path json with
      | none => .panic
      | some value =>
          match value.getString with
          | none => .err (.qmiResponseParsingError unread)
          | some content => next content

theorem read_string_reported_iff (path : List String) (text unparsed unread : String)
    (next : String → Outcome Bool) (returns : ∀ content, Returned (next content)) :
    Reported parse path text (readString parse path text unparsed unread next) ↔
      HasKeys parse path text := by
  simp only [readString]
  cases parsed : parse text with
  | none => simp [Reported, HasKeys, parsed, Returned]
  | some json =>
      cases found : valueAt path json with
      -- indexing panics before `get` is asked
      | none => simp [Reported, HasKeys, parsed, found, Returned]
      | some value =>
          have keys : HasKeys parse path text := by simp [HasKeys, parsed, found]
          refine iff_of_true ?_ keys
          cases held : value.getString with
          | none => simp [Reported, found, held, Returned]
          | some content =>
              simp [Reported, expectedString, parsed, found, held, returns content]

theorem query_text {Value : Type} (text : String) (next : String → Outcome Value) :
    (Outcome.ofExcept (qmiCommand (printed text))).bind next = next text := by
  simp only [printed, qmiCommand, RustText.from_utf8_bytes, String.ofList_toList,
    Outcome.ofExcept, Outcome.bind]

variable (answer : ModemAnswer) (rest : StatusProbe)

theorem is_sim_locked_reported_iff :
    Reported parse pinStatusPath answer.simState (isSimLocked (answering parse answer rest)) ↔
      HasKeys parse pinStatusPath answer.simState := by
  have path (json : JsonValue) : json.index "pin1_status" = valueAt pinStatusPath json := by
    simp [pinStatusPath, valueAt]
  simp only [isSimLocked, answering, query_text, path]
  apply read_string_reported_iff
  intro pinStatus
  repeat' split
  all_goals trivial

theorem is_connected_to_lte_reported_iff :
    Reported parse serviceStatusPath answer.systemInfo
      (isConnectedToLte (answering parse answer rest)) ↔
      HasKeys parse serviceStatusPath answer.systemInfo := by
  have path (json : JsonValue) : ((json.index "lte").bind fun lte => lte.index "service_status") =
      valueAt serviceStatusPath json := by
    simp [serviceStatusPath, valueAt]
  simp only [isConnectedToLte, answering, query_text, path]
  apply read_string_reported_iff
  intro serviceStatus
  trivial

end Answers

theorem bind_returned {Value Next : Type} {first : Outcome Value} {next : Value → Outcome Next}
    (returned : Returned first) (later : ∀ value, Returned (next value)) :
    Returned (first.bind next) := by
  cases first with
  | ok value => exact later value
  | err error => trivial
  | panic => exact returned
  | stuck => exact returned

theorem of_except_returned {Value : Type} (result : Except Error Value) :
    Returned (Outcome.ofExcept result) := by
  cases result <;> trivial

theorem get_device_status_returned (probe : StatusProbe) (configuration : Configuration)
    (simLocked : Returned (isSimLocked probe))
    (connectedToLte : Returned (isConnectedToLte probe)) :
    Returned (getDeviceStatus probe configuration) := by
  refine bind_returned simLocked fun locked => ?_
  split
  · trivial
  · refine bind_returned connectedToLte fun connected => ?_
    repeat' split
    all_goals trivial

theorem get_status_returned (probe : StatusProbe) (configuration : Configuration)
    (deviceStatus : Returned (getDeviceStatus probe configuration)) :
    Returned (getStatus probe configuration) :=
  bind_returned deviceStatus fun _ => trivial

theorem status_command_returned (env : Env) (sender request : String) (daemon : Daemon)
    (isStatus : requestWord request = some "status")
    (status : Returned (getStatus env.status daemon.context.configuration)) :
    Returned (handleRequest env sender request daemon).1 := by
  simp only [handleRequest]
  cases senderUser daemon.context.configuration sender with
  | none => trivial
  | some user =>
      cases words : RustText.splitWhitespace request with
      | nil => trivial
      | cons command args =>
          have word : commandWord command = "status" := by
            simpa [requestWord, words] using isStatus
          simp only [runCommand, word, String.reduceEq, if_false, if_true, resolveStatus]
          cases resolved : getStatus env.status daemon.context.configuration with
          | ok _ | err _ => trivial
          | panic | stuck =>
              rw [resolved] at status
              exact status

section Starts
variable (configuration : Configuration) (env : StartEnv)
  (all : ∀ call, Returned (getStatus (env.probes call) configuration))
include all

theorem settle_status_returned (sleepLoopCounter : Nat) (simUnlockPerformed : Bool) (call : Nat)
    (status : Status) :
    Returned (settleStatus configuration env sleepLoopCounter simUnlockPerformed call status) := by
  induction sleepLoopCounter, simUnlockPerformed, call, status using settleStatus.induct with
  | case1 _ _ status locked | case3 _ _ status locked | case5 _ _ status locked
  | case7 _ _ _ status locked =>
      rw [settleStatus, locked]
      trivial
  | case2 counter performed call status locked unlock ih =>
      rw [settleStatus, locked]
      simp only [unlock]
      exact bind_returned (of_except_returned _) fun _ => bind_returned (all call) ih
  | case4 counter performed call status waiting left ih
  | case6 counter performed call status waiting left ih =>
      rw [settleStatus, waiting]
      simp only [left, if_false]
      exact bind_returned (all call) ih

theorem first_status_returned (initConfig : InitConfig) :
    Returned (firstStatus configuration env initConfig) :=
  bind_returned (all 0) (settle_status_returned configuration env all _ _ _)

end Starts

/-- The answers of the modem are reported exactly when each that parses has the
keys that are indexed. -/
theorem never_fatal_iff_keyed (parse : String → Option JsonValue) (answers : Nat → ModemAnswer) :
    NeverFatal parse answers ↔ ∀ query,
      HasKeys parse pinStatusPath (answers query).simState ∧
        HasKeys parse serviceStatusPath (answers query).systemInfo := by
  constructor
  · intro never query
    exact ⟨(is_sim_locked_reported_iff parse _ silentProbe).mp (never.simLocked query _),
      (is_connected_to_lte_reported_iff parse _ silentProbe).mp (never.connectedToLte query _)⟩
  · intro keyed
    have simLocked (query : Nat) (rest : StatusProbe) :=
      (is_sim_locked_reported_iff parse (answers query) rest).mpr (keyed query).1
    have connectedToLte (query : Nat) (rest : StatusProbe) :=
      (is_connected_to_lte_reported_iff parse (answers query) rest).mpr (keyed query).2
    have deviceStatus (query : Nat) (rest : StatusProbe) (configuration : Configuration) :=
      get_device_status_returned _ configuration (simLocked query rest).1
        (connectedToLte query rest).1
    have status (query : Nat) (rest : StatusProbe) (configuration : Configuration) :=
      get_status_returned _ configuration (deviceStatus query rest configuration)
    refine ⟨simLocked, connectedToLte, deviceStatus, status, ?_, ?_⟩
    · intro query env sender request daemon isStatus
      exact status_command_returned _ sender request daemon isStatus (status query env.status _)
    · intro initConfig configuration env
      apply first_status_returned configuration
      intro query
      exact status query (env.probes query) configuration

/-! An unlocked sim card outside the LTE coverage. -/

def noCoverage : ModemAnswer := ⟨"\x7b\"pin1_status\":\"verified\"\x7d", "\x7b\x7d"⟩

def readNoCoverage (text : String) : Option JsonValue :=
  if text = noCoverage.simState then some (.object [("pin1_status", .string "verified")])
  else if text = noCoverage.systemInfo then some (.object [])
  else none

theorem no_coverage_fatal : ¬ ∀ parse answers, NeverFatal parse answers := by
  intro never
  have reported := (never readNoCoverage fun _ => noCoverage).connectedToLte 0 silentProbe
  have keyed := (is_connected_to_lte_reported_iff readNoCoverage noCoverage silentProbe).mp reported
  have parsed : readNoCoverage noCoverage.systemInfo = some (.object []) := by
    simp [readNoCoverage, noCoverage]
  have indexed := keyed _ parsed
  simp [serviceStatusPath, valueAt, JsonValue.index] at indexed

end TelcoVecchio.ModemAnswers
