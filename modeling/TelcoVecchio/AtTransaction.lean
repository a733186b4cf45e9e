import TelcoVecchio.TurnLoop
import TelcoVecchio.SmsUtils

/-!
`at_transaction` of `daemon/src/sms_utils.rs` on any serial port, and
`send_sms` over it. The echo of a command is skipped by its length, without a
look at the bytes, in a loop that only data and errors bring to an end.
-/

namespace TelcoVecchio.AtTransaction

open Common SmsUtils TurnLoop

/-- What writing to a port and reading from it do; a read is given the length
of its buffer, and is `none` as long as it waits. -/
structure SerialPort (Device : Type) where
  write : Device → List UInt8 → Except IoError Device
  read : Device → Nat → Option (Except IoError (List UInt8) × Device)

section Transaction
variable {Device : Type} (port : SerialPort Device)

def echoTurn (state : Nat × Device) : Turn (Nat × Device) (Except IoError Unit × Device) :=
  match port.read state.2 state.1 with
  | none => .again state
  | some (chunk, after) =>
      match (AtStage.echo state.1).read chunk with
      | .next (.echo left) => .again (left, after)
      | .next .answer => .leave (.ok (), after)
      | .done response => .leave (response.map fun _ => (), after)

def readAnswer (device : Device) : Option (Except IoError String × Device) :=
  (port.read device AtStage.answer.bufferSize).bind fun read =>
    match AtStage.answer.read read.1 with
    | .next _ => none
    | .done response => some (response, read.2)

/-- `at_transaction`, `none` while it waits after that many turns of its loop. -/
def atTransaction (turns : Nat) (command : List UInt8) (device : Device) :
    Option (Except IoError String × Device) :=
  if command.isEmpty then readAnswer port device
  else
    match port.write device command with
    | .error error => some (.error error, device)
    | .ok written =>
        match run (echoTurn port) turns (command.length, written) with
        | .again _ => none
        | .leave (.error error, after) => some (.error error, after)
        | .leave (.ok _, after) => readAnswer port after

/-- `at_transaction(..).map_err(..)?` and the look at the response behind it. -/
def expectResponse (turns : Nat) (failure : Error) (expected command : String) (device : Device) :
    Option (Except Error Device) :=
  (atTransaction port turns (RustText.utf8Bytes command.toList) device).map fun answered =>
    match answered.1 with
    | .error _ => .error failure
    | .ok response =>
        if RustText.contains response.toList expected.toList then .ok answered.2
        else .error failure

/-- `sms_utils::init`, which sets no time limit. -/
def initSms (turns : Nat) (opened : Except IoError Device) : Option (Except Error Unit) :=
  match opened with
  | .error _ => some (.error .smsInitError)
  | .ok device =>
      match expectResponse port turns .smsInitError "OK" "AT+CMGF=0\r" device with
      | none => none
      | some (.error error) => some (.error error)
      | some (.ok ready) =>
          (expectResponse port turns .smsInitError "OK" "AT+CNMI=2,2\r" ready).map
            (Except.map fun _ => ())

/-- The body of `send_sms`. -/
def submitSms (gsm7 : Gsm7) (turns : Nat) (opened : Except IoError Device) (sms : OutgoingSms) :
    Option (Outcome Unit) :=
  if 140 < sms.msg.utf8ByteSize then some (.err .smsSendingError)
  else
    match opened with
    | .error _ => some (.err .smsSendingError)
    | .ok device =>
        match submitCommands gsm7 sms with
        | .ok (command, pdu) =>
            match expectResponse port turns .smsSendingError ">" command device with
            | none => none
            | some (.error error) => some (.err error)
            | some (.ok prompted) =>
                (expectResponse port turns .smsSendingError "OK" pdu prompted).map fun answered =>
                  Outcome.ofExcept (answered.map fun _ => ())
        | .err error => some (.err error)
        | .panic => some .panic
        | .stuck => none

/-- `send_sms`: whoever still waits when the time is up has failed. -/
def sendSms (gsm7 : Gsm7) (turns : Nat) (opened : Except IoError Device) (sms : OutgoingSms) :
    Outcome Unit :=
  (submitSms port gsm7 turns opened sms).getD (.err .smsSendingError)

/-- Whatever the modem does, `send_sms` panics on the number or not at all. -/
theorem submit_panics_iff (gsm7 : Gsm7) (turns : Nat) (opened : Except IoError Device)
    (sms : OutgoingSms) :
    submitSms port gsm7 turns opened sms = some .panic ↔
      sendSmsPanics (opened.map fun _ => ()) sms.recipient sms.msg = true := by
  by_cases long : 140 < sms.msg.utf8ByteSize
  · cases opened <;> simp [submitSms, sendSmsPanics, long, Except.map]
  · cases opened with
    | error error => simp [submitSms, sendSmsPanics, long, Except.map]
    | ok device =>
        simp only [submitSms, submitCommands, sendSmsPanics, long, Except.map, ↓reduceIte]
        cases encodePhoneNumber sms.recipient with
        | none => simp [Nat.le_of_not_lt long]
        | some number =>
            refine iff_of_false ?_ (by simp)
            cases encodeMessage gsm7 sms.msg with
            | error error => simp
            | ok message =>
                simp only
                split
                · simp
                · simp
                · rename_i prompted _
                  cases expectResponse port turns .smsSendingError "OK" _ prompted with
                  | none => simp
                  | some answered => cases answered <;> simp [Outcome.ofExcept]

end Transaction

/-! The port as the results of its reads, whatever they are. -/

def chunkLength : Except IoError (List UInt8) → Nat
  | .ok bytes => bytes.length
  | .error _ => 0

def received (results : Nat → Except IoError (List UInt8)) : Nat → Nat
  | 0 => 0
  | count + 1 => received results count + chunkLength (results count)

/-- The results of successive reads into what is left of a buffer of that
size. -/
structure EchoReads (size : Nat) where
  result : Nat → Except IoError (List UInt8)
  fits : ∀ count, received result count < size →
    received result (count + 1) ≤ size

/-- A device that is the number of its reads so far. -/
def scripted (results : Nat → Except IoError (List UInt8)) : SerialPort Nat where
  write := fun device _ => .ok device
  read := fun device _ => some (results device, device + 1)

def Flowing (results : Nat → Except IoError (List UInt8)) (count : Nat) : Prop :=
  ∀ earlier < count, ∃ bytes, results earlier = .ok bytes ∧ bytes ≠ []

def Unfailing (results : Nat → Except IoError (List UInt8)) (count : Nat) : Prop :=
  ∀ earlier < count, ∃ bytes, results earlier = .ok bytes

section Echo
variable (command : List UInt8) (reads : EchoReads command.length)

def EchoEnds (result : Except IoError Unit) (count : Nat) : Prop :=
  Leaves (echoTurn (scripted reads.result)) (command.length, 0) (result, count)

structure EchoSkipped : Prop where
  ends : ∃ result count, EchoEnds command reads result count
  whole : ∀ count, Flowing reads.result count → command.length ≤ received reads.result count →
    ∃ used ≤ count, EchoEnds command reads (.ok ()) used ∧
      received reads.result used = command.length
  cutOff : ∀ count, Flowing reads.result count → received reads.result count < command.length →
    ((∃ error, reads.result count = .error error) ∨ reads.result count = .ok []) →
    ∃ error used, EchoEnds command reads (.error error) used

end Echo

section Turns
variable {Device : Type} {port : SerialPort Device} {left : Nat} {device after : Device}

theorem echo_turn_error {error : IoError}
    (failed : port.read device left = some (.error error, after)) :
    echoTurn port (left, device) = .leave (.error error, after) := by
  simp only [echoTurn, failed, AtStage.read]
  rfl

theorem echo_turn_data {bytes : List UInt8}
    (data : port.read device left = some (.ok bytes, after)) :
    echoTurn port (left, device) =
      if left - bytes.length = 0 then .leave (.ok (), after)
      else .again (left - bytes.length, after) := by
  by_cases all : left - bytes.length = 0
  · simp only [echoTurn, data, AtStage.read, all, ↓reduceIte]
  · simp only [echoTurn, data, AtStage.read, all, ↓reduceIte]

end Turns

theorem received_mono (results : Nat → Except IoError (List UInt8)) {few many : Nat}
    (fewer : few ≤ many) : received results few ≤ received results many := by
  induction many with
  | zero =>
      rw [Nat.le_zero.mp fewer]
  | succ many ih =>
      by_cases same : few = many + 1
      · rw [same]
      · exact (ih (by omega)).trans (Nat.le_add_right _ _)

theorem flowing_received (results : Nat → Except IoError (List UInt8)) (count : Nat)
    (flowing : Flowing results count) : count ≤ received results count := by
  induction count with
  | zero => exact Nat.zero_le _
  | succ count ih =>
      have before := ih fun earlier first => flowing earlier (by omega)
      rcases flowing count (by omega) with ⟨bytes, read, some⟩
      have more := List.length_pos_of_ne_nil some
      simp only [received, read, chunkLength]
      omega

theorem flowing_unfailing {results : Nat → Except IoError (List UInt8)} {count : Nat}
    (flowing : Flowing results count) : Unfailing results count := by
  intro earlier first
  rcases flowing earlier first with ⟨bytes, read, _⟩
  exact ⟨bytes, read⟩

section Runs
variable {command : List UInt8} {reads : EchoReads command.length}

theorem scripted_read {count left : Nat} {chunk : Except IoError (List UInt8)}
    (result : reads.result count = chunk) :
    (scripted reads.result).read count left = some (chunk, count + 1) := by
  simp only [scripted, result]

theorem echo_goes_on (count : Nat) (unfailing : Unfailing reads.result count)
    (short : received reads.result count < command.length) :
    run (echoTurn (scripted reads.result)) count (command.length, 0) =
      .again (command.length - received reads.result count, count) := by
  induction count with
  | zero => rfl
  | succ count ih =>
      have grows : received reads.result count ≤ received reads.result (count + 1) :=
        received_mono _ (Nat.le_succ count)
      have before := ih (fun earlier first => unfailing earlier (by omega)) (by omega)
      rcases unfailing count (by omega) with ⟨bytes, read⟩
      have total : received reads.result (count + 1) =
          received reads.result count + bytes.length := by simp only [received, read, chunkLength]
      have rest : ¬ command.length - received reads.result count - bytes.length = 0 := by omega
      have left : command.length - received reads.result count - bytes.length =
          command.length - received reads.result (count + 1) := by omega
      have turned : echoTurn (scripted reads.result)
          (command.length - received reads.result count, count) =
          .again (command.length - received reads.result (count + 1), count + 1) := by
        rw [echo_turn_data (scripted_read read), if_neg rest, left]
      rw [run_then before 1, run_again turned]
      rfl

theorem echo_fails (count : Nat) (unfailing : Unfailing reads.result count)
    (short : received reads.result count < command.length) {error : IoError}
    (failed : reads.result count = .error error) :
    EchoEnds command reads (.error error) (count + 1) := by
  refine ⟨count + 1, ?_⟩
  rw [run_then (echo_goes_on count unfailing short) 1,
    run_leave (echo_turn_error (scripted_read failed))]

theorem echo_completes (nonempty : command ≠ []) (count : Nat)
    (unfailing : Unfailing reads.result count)
    (enough : command.length ≤ received reads.result count) :
    ∃ used ≤ count, EchoEnds command reads (.ok ()) used ∧
      received reads.result used = command.length := by
  induction count with
  | zero =>
      have positive := List.length_pos_of_ne_nil nonempty
      simp only [received] at enough
      omega
  | succ count ih =>
      have earlier : Unfailing reads.result count := fun first before => unfailing first (by omega)
      by_cases before : command.length ≤ received reads.result count
      · rcases ih earlier before with ⟨used, few, ended⟩
        exact ⟨used, by omega, ended⟩
      · rcases unfailing count (by omega) with ⟨bytes, read⟩
        have whole := reads.fits count (by omega)
        have total : received reads.result (count + 1) =
            received reads.result count + bytes.length := by
          simp only [received, read, chunkLength]
        have none : command.length - received reads.result count - bytes.length = 0 := by omega
        refine ⟨count + 1, Nat.le_refl _, ⟨count + 1, ?_⟩, by omega⟩
        rw [run_then (echo_goes_on count earlier (by omega)) 1,
          run_leave (by rw [echo_turn_data (scripted_read read), if_pos none])]

variable (reads) in
def Skipping (state : Nat × Nat) : Prop :=
  Unfailing reads.result state.2 ∧ received reads.result state.2 < command.length ∧
    state.1 = command.length - received reads.result state.2

theorem skipping_start (nonempty : command ≠ []) : Skipping reads (command.length, 0) :=
  ⟨nofun, List.length_pos_of_ne_nil nonempty, rfl⟩

theorem skipping_data {left count : Nat} {bytes : List UInt8}
    (skipping : Skipping reads (left, count))
    (read : reads.result count = .ok bytes) (more : ¬ left - bytes.length = 0) :
    Skipping reads (left - bytes.length, count + 1) := by
  rcases skipping with ⟨unfailing, short, rest⟩
  dsimp only at unfailing short rest
  have total : received reads.result (count + 1) =
      received reads.result count + bytes.length := by simp only [received, read, chunkLength]
  refine ⟨?_, by dsimp only; omega, by dsimp only; omega⟩
  intro earlier first
  by_cases last : earlier = count
  · exact ⟨bytes, last ▸ read⟩
  · exact unfailing earlier (by dsimp only at first; omega)

theorem echo_failed (nonempty : command ≠ []) {error : IoError} {used : Nat}
    (ended : EchoEnds command reads (.error error) used) :
    ∃ count, Unfailing reads.result count ∧ received reads.result count < command.length ∧
      reads.result count = .error error := by
  rcases run_partial (Skipping reads)
    (by
      rintro ⟨left, count⟩ next skipping turned
      cases result : reads.result count with
      | error failure =>
          rw [echo_turn_error (scripted_read result)] at turned
          cases turned
      | ok bytes =>
          rw [echo_turn_data (scripted_read result)] at turned
          split at turned
          · cases turned
          · next more =>
              cases turned
              exact skipping_data skipping result more)
    (skipping_start nonempty) ended with ⟨⟨left, count⟩, ⟨unfailing, short, _⟩, turned⟩
  refine ⟨count, unfailing, short, ?_⟩
  cases result : reads.result count with
  | error failure =>
      rw [echo_turn_error (scripted_read result)] at turned
      cases turned
      rfl
  | ok bytes =>
      rw [echo_turn_data (scripted_read result)] at turned
      split at turned <;> cases turned

theorem skipping_goes_on {left count : Nat} (skipping : Skipping reads (left, count))
    (unfailing : ∀ count, Unfailing reads.result count)
    (short : ∀ count, received reads.result count < command.length) :
    ∃ next, echoTurn (scripted reads.result) (left, count) = .again next ∧
      Skipping reads next := by
  rcases unfailing (count + 1) count (Nat.lt_succ_self count) with ⟨bytes, read⟩
  have total : received reads.result (count + 1) =
      received reads.result count + bytes.length := by simp only [received, read, chunkLength]
  have within := short (count + 1)
  have rest := skipping.2.2
  have more : ¬ left - bytes.length = 0 := by
    dsimp only at rest
    omega
  refine ⟨_, ?_, skipping_data skipping read more⟩
  rw [echo_turn_data (scripted_read read), if_neg more]

theorem echo_never_ends (nonempty : command ≠ [])
    (unfailing : ∀ count, Unfailing reads.result count)
    (short : ∀ count, received reads.result count < command.length)
    (result : Except IoError Unit) (used : Nat) : ¬ EchoEnds command reads result used :=
  run_forever (Skipping reads)
    (fun _ skipping => skipping_goes_on skipping unfailing short)
    (skipping_start nonempty) (result, used)

end Runs

def HungUp (results : Nat → Except IoError (List UInt8)) (count : Nat) : Prop :=
  ∀ later ≥ count, results later = .ok []

section HangUps
variable {results : Nat → Except IoError (List UInt8)} {count : Nat}
  (hungUp : HungUp results count)
include hungUp

theorem hung_up_unfailing (unfailing : Unfailing results count) (many : Nat) :
    Unfailing results many := by
  intro earlier _
  by_cases before : earlier < count
  · exact unfailing earlier before
  · exact ⟨[], hungUp earlier (Nat.le_of_not_lt before)⟩

theorem hung_up_received (many : Nat) : received results many ≤ received results count := by
  induction many with
  | zero => exact received_mono results (Nat.zero_le count)
  | succ many ih =>
      by_cases before : many < count
      · exact received_mono results before
      · have nothing := hungUp many (Nat.le_of_not_lt before)
        simpa only [received, nothing, chunkLength, List.length_nil, Nat.add_zero] using ih

end HangUps

theorem flowing_or_cut (results : Nat → Except IoError (List UInt8)) (count : Nat) :
    Flowing results count ∨ ∃ first, Flowing results first ∧
      ((∃ error, results first = .error error) ∨ results first = .ok []) := by
  induction count with
  | zero => exact Or.inl nofun
  | succ count ih =>
      rcases ih with flowing | cut
      · cases result : results count with
        | error error => exact Or.inr ⟨count, flowing, Or.inl ⟨error, result⟩⟩
        | ok bytes =>
            by_cases empty : bytes = []
            · exact Or.inr ⟨count, flowing, Or.inr (empty ▸ result)⟩
            · refine Or.inl fun earlier first => ?_
              by_cases last : earlier = count
              · exact ⟨bytes, last ▸ result, empty⟩
              · exact flowing earlier (by omega)
      · exact Or.inr cut

def HangUpsFail {size : Nat} (reads : EchoReads size) : Prop :=
  ∀ count, Flowing reads.result count → received reads.result count < size →
    reads.result count = .ok [] →
    ∃ later, Unfailing reads.result later ∧ received reads.result later < size ∧
      ∃ error, reads.result later = .error error

theorem echo_ends (command : List UInt8) (nonempty : command ≠ [])
    (reads : EchoReads command.length) (failing : HangUpsFail reads) :
    ∃ result count, EchoEnds command reads result count := by
  rcases flowing_or_cut reads.result command.length with flowing | ⟨first, flowing, cut⟩
  · have enough := flowing_received reads.result command.length flowing
    rcases echo_completes nonempty _ (flowing_unfailing flowing) enough with ⟨used, _, ended, _⟩
    exact ⟨.ok (), used, ended⟩
  · by_cases enough : command.length ≤ received reads.result first
    · rcases echo_completes nonempty _ (flowing_unfailing flowing) enough with ⟨used, _, ended, _⟩
      exact ⟨.ok (), used, ended⟩
    · have short := Nat.lt_of_not_le enough
      rcases cut with ⟨error, failed⟩ | hangUp
      · exact ⟨_, _, echo_fails first (flowing_unfailing flowing) short failed⟩
      · rcases failing first flowing short hangUp with ⟨later, unfailing, within, error, failed⟩
        exact ⟨_, _, echo_fails later unfailing within failed⟩

theorem echo_skipped_iff (command : List UInt8) (nonempty : command ≠ [])
    (reads : EchoReads command.length) :
    EchoSkipped command reads ↔ HangUpsFail reads := by
  constructor
  · intro skipped count flowing short hangUp
    rcases skipped.cutOff count flowing short (Or.inr hangUp) with ⟨error, used, ended⟩
    rcases echo_failed nonempty ended with ⟨later, unfailing, within, failed⟩
    exact ⟨later, unfailing, within, error, failed⟩
  · intro failing
    refine ⟨echo_ends command nonempty reads failing, ?_, ?_⟩
    · intro count flowing enough
      exact echo_completes nonempty count (flowing_unfailing flowing) enough
    · rintro count flowing short (⟨error, failed⟩ | hangUp)
      · exact ⟨error, _, echo_fails count (flowing_unfailing flowing) short failed⟩
      · rcases failing count flowing short hangUp with ⟨later, unfailing, within, error, failed⟩
        exact ⟨error, _, echo_fails later unfailing within failed⟩

/-- A modem that goes away within the echo of the first command keeps `init`
waiting for ever. -/
theorem init_waits_for_ever
    (reads : EchoReads (RustText.utf8Bytes "AT+CMGF=0\r".toList).length) (count : Nat)
    (unfailing : Unfailing reads.result count)
    (short : received reads.result count < (RustText.utf8Bytes "AT+CMGF=0\r".toList).length)
    (hungUp : HungUp reads.result count) (turns : Nat) :
    initSms (scripted reads.result) turns (.ok 0) = none := by
  have within : received reads.result turns <
      (RustText.utf8Bytes "AT+CMGF=0\r".toList).length :=
    (hung_up_received hungUp turns).trans_lt short
  have waits := echo_goes_on turns (hung_up_unfailing hungUp unfailing turns) within
  have pending : atTransaction (scripted reads.result) turns
      (RustText.utf8Bytes "AT+CMGF=0\r".toList) 0 = none := by
    have some : (RustText.utf8Bytes "AT+CMGF=0\r".toList).isEmpty = false := rfl
    have written : (scripted reads.result).write 0 (RustText.utf8Bytes "AT+CMGF=0\r".toList) =
        .ok 0 := rfl
    simp only [atTransaction, some, Bool.false_eq_true, ↓reduceIte, written, waits]
  simp only [initSms, expectResponse, pending, Option.map_none]

def endOfFile (size : Nat) : EchoReads size where
  result := fun _ => .ok []
  fits := fun _ short => short.le

theorem hang_up_not_skipped : ¬ ∀ (command : List UInt8) (reads : EchoReads command.length),
    command ≠ [] → EchoSkipped command reads := by
  intro skipped
  have some : RustText.utf8Bytes "AT+CMGF=0\r".toList ≠ [] := nofun
  have nothing : HungUp (endOfFile 10).result 0 := fun _ _ => rfl
  rcases (skipped (RustText.utf8Bytes "AT+CMGF=0\r".toList) (endOfFile 10) some).ends with
    ⟨result, used, ended⟩
  refine echo_never_ends some (hung_up_unfailing nothing nofun) ?_ result used ended
  intro count
  exact (hung_up_received nothing count).trans_lt (by decide)

def byteByByte (size : Nat) : EchoReads size where
  result := fun _ => .ok [0]
  fits := fun _ short => short

theorem byte_by_byte_skipped :
    EchoSkipped (RustText.utf8Bytes "AT+CMGF=0\r".toList) (byteByByte 10) :=
  (echo_skipped_iff (RustText.utf8Bytes "AT+CMGF=0\r".toList) nofun (byteByByte 10)).mpr
    fun _ _ _ hangUp => nomatch hangUp

end TelcoVecchio.AtTransaction
