import TelcoVecchio.SendingResult
import TelcoVecchio.DeferredNotices

/-!
`sms_utils::init` at a modem that echoes its two commands and answers each with
a result. Both results are judged on one read, and what the first read leaves of
its answer pushes the echo of the second command back into the second read. The
set-up fails, and with it the start of the daemon, although the modem accepts
both commands, as soon as a cut falls in front of an `OK`.
-/

namespace TelcoVecchio.ModemSetup

open Common SmsUtils AtTransaction SendingResult Init Service DeferredNotices

/-- A modem with its results to `AT+CMGF` and `AT+CNMI`. -/
structure SetupModem where
  framing : Framing
  mode : FinalResult
  indication : FinalResult

def SetupModem.result (modem : SetupModem) (command : Nat) : FinalResult :=
  if command = 1 then modem.mode else modem.indication

def SetupModem.answer (modem : SetupModem) (command : Nat) : List UInt8 :=
  RustText.utf8Bytes ((modem.result command).text modem.framing)

def modeCommand : String := "AT+CMGF=0\r"

def indicationCommand : String := "AT+CNMI=2,2\r"

/-- Where an accepted result ends its `OK`. -/
def okEnd (framing : Framing) (reference : Option Nat) : Nat :=
  (referenceLine framing reference).length + framing.header.length + 2

/-- Both results are `OK`, and each stands whole in the read that is judged. -/
def SetUp (modem : SetupModem) (cutting : Cutting) : Prop :=
  ∃ first second, modem.mode = .ok first ∧ modem.indication = .ok second ∧
    okEnd modem.framing first ≤ answerRead cutting 1 10 ∧
    ((modem.mode.text modem.framing).length - answerRead cutting 1 10) +
      okEnd modem.framing second ≤ answerRead cutting 2 12

theorem ok_taken_iff (front : List Char) (unlike : Unlike front) (framing : Framing)
    (reference : Option Nat) (count : Nat) :
    RustText.contains ((front ++ (FinalResult.ok reference).text framing).take count)
        "OK".toList = true ↔ front.length + okEnd framing reference ≤ count := by
  have whole : front ++ (FinalResult.ok reference).text framing =
      (front ++ referenceLine framing reference ++ framing.header) ++
        (['O'] ++ 'K' :: framing.trailer) := by
    simp [FinalResult.text, Framing.line]
  have fresh : 'K' ∉ (front ++ referenceLine framing reference ++ framing.header) ++ ['O'] := by
    have before := unlike_append (unlike_append unlike (unlike_reference framing reference))
      (unlike_ends framing).1
    intro member
    rcases List.mem_append.mp member with inFront | last
    · exact (before 'K' inFront).2 rfl
    · simp at last
  have found := RustText.contains_taken_iff _ ['O'] framing.trailer 'K' fresh count
  have text : "OK".toList = ['O'] ++ ['K'] := rfl
  rw [whole, text, found]
  simp only [okEnd, List.length_append, List.length_singleton]
  omega

theorem unlike_not_taken (text : List Char) (unlike : Unlike text) (count : Nat) :
    RustText.contains (text.take count) "OK".toList = false := by
  cases found : RustText.contains (text.take count) "OK".toList with
  | false => rfl
  | true =>
      have within := (RustText.contains_iff _ _).mp found
      have last : 'K' ∈ "OK".toList := by decide
      exact absurd rfl (unlike 'K' (List.mem_of_mem_take (within.subset last))).2

theorem left_unlike (framing : Framing) (reference : Option Nat) (count : Nat)
    (reached : okEnd framing reference ≤ count) :
    Unlike (((FinalResult.ok reference).text framing).drop count) := by
  have whole : (FinalResult.ok reference).text framing =
      (referenceLine framing reference ++ framing.header ++ "OK".toList) ++ framing.trailer := by
    simp [FinalResult.text, Framing.line]
  have length : (referenceLine framing reference ++ framing.header ++ "OK".toList).length =
      okEnd framing reference := by
    simp only [okEnd, List.length_append]
    rfl
  rw [whole, List.drop_append, List.drop_eq_nil_of_le (by rwa [length]), List.nil_append]
  exact fun char member => (unlike_ends framing).2 char (List.mem_of_mem_drop member)

section Setup
variable (modem : SetupModem) (cutting : Cutting)

/-- What stands in front of the second command's answer when the first read has
taken some of its own. -/
def leftOver (count : Nat) : List Char :=
  (modem.mode.text modem.framing).drop count

def secondReply (count : Nat) : List Char :=
  (leftOver modem count ++ indicationCommand.toList).drop 12 ++
    modem.indication.text modem.framing

theorem indication_unlike : Unlike indicationCommand.toList := unlike_literal _ rfl

theorem command_length : indicationCommand.toList.length = 12 := rfl

theorem second_behind (ready : ModemLine) (commands : ready.commands = 1) (count : Nat)
    (unread : ready.unread = RustText.utf8Bytes (leftOver modem count)) :
    (answering modem.answer ready (RustText.utf8Bytes indicationCommand.toList)).unread =
      RustText.utf8Bytes (secondReply modem count) := by
  have ascii : ∀ char ∈ leftOver modem count ++ (indicationCommand.toList ++
      modem.indication.text modem.framing), char.toNat < 128 := by
    intro char member
    rcases List.mem_append.mp member with left | behind
    · exact final_ascii modem.framing modem.mode char (List.mem_of_mem_drop left)
    · rcases List.mem_append.mp behind with echo | answer
      · exact (indication_unlike char echo).1
      · exact final_ascii modem.framing modem.indication char answer
  have answer : modem.answer (ready.commands + 1) =
      RustText.utf8Bytes (modem.indication.text modem.framing) := by
    rw [commands]
    rfl
  have whole : secondReply modem count = (leftOver modem count ++ (indicationCommand.toList ++
      modem.indication.text modem.framing)).drop 12 := by
    have twelve : 12 ≤ (leftOver modem count ++ indicationCommand.toList).length := by
      rw [List.length_append, command_length]
      omega
    rw [secondReply, ← List.append_assoc, List.drop_append_of_le_length twelve]
  rw [whole, ← RustText.utf8_bytes_drop _ ascii, RustText.utf8_bytes_append,
    RustText.utf8_bytes_append, ← unread, ← answer]
  rfl

theorem init_sms_result : ∃ enough, ∀ turns ≥ enough,
    initSms (modemPort cutting modem.answer) turns (.ok idleLine) = some
      (if RustText.contains ((modem.mode.text modem.framing).take (answerRead cutting 1 10))
          "OK".toList ∧ RustText.contains ((secondReply modem (answerRead cutting 1 10)).take
            (answerRead cutting 2 12)) "OK".toList
        then .ok () else .error .smsInitError) := by
  have modeBytes : (RustText.utf8Bytes modeCommand.toList).length = 10 := rfl
  have indicationBytes : (RustText.utf8Bytes indicationCommand.toList).length = 12 := rfl
  have behind : (answering modem.answer idleLine (RustText.utf8Bytes modeCommand.toList)).unread =
      RustText.utf8Bytes (modem.mode.text modem.framing) :=
    List.drop_left
  rcases modem_response cutting modem.answer idleLine modeCommand (modem.mode.text modem.framing)
    (by rw [modeBytes]; decide) behind (final_ascii modem.framing modem.mode)
    (final_nonempty modem.framing modem.mode) with ⟨ready, unread, commands, modeResponse⟩
  have numbered : idleLine.commands + 1 = 1 := rfl
  rw [numbered, modeBytes] at unread modeResponse
  rw [numbered] at commands
  -- what the first read left stands in front of the second echo
  have ascii : ∀ char ∈ secondReply modem (answerRead cutting 1 10), char.toNat < 128 := by
    intro char member
    rcases List.mem_append.mp member with front | answer
    · rcases List.mem_append.mp (List.mem_of_mem_drop front) with left | echo
      · exact final_ascii modem.framing modem.mode char (List.mem_of_mem_drop left)
      · exact (indication_unlike char echo).1
    · exact final_ascii modem.framing modem.indication char answer
  have nonempty : secondReply modem (answerRead cutting 1 10) ≠ [] :=
    List.append_ne_nil_of_right_ne_nil _ (final_nonempty modem.framing modem.indication)
  rcases modem_response cutting modem.answer ready indicationCommand _
    (by rw [indicationBytes]; decide) (second_behind modem ready commands _ unread) ascii nonempty with
    ⟨set, _, _, indicationResponse⟩
  rw [commands, indicationBytes] at indicationResponse
  refine ⟨23, fun turns time => ?_⟩
  have first := modeResponse turns (by omega) .smsInitError "OK"
  have second := indicationResponse turns (by omega) .smsInitError "OK"
  have modeText : modeCommand = "AT+CMGF=0\r" := rfl
  have indicationText : indicationCommand = "AT+CNMI=2,2\r" := rfl
  rw [modeText] at first
  rw [indicationText] at second
  simp only [initSms, first]
  by_cases taken : RustText.contains ((modem.mode.text modem.framing).take
      (answerRead cutting 1 10)) "OK".toList = true
  · rw [if_pos taken]
    simp only [second, Option.map_some, taken, true_and]
    split <;> rfl
  · rw [if_neg taken]
    exact congrArg some (if_neg fun both => taken both.1).symm

theorem mode_taken_iff (first : Option Nat) (mode : modem.mode = .ok first) (count : Nat) :
    RustText.contains ((modem.mode.text modem.framing).take count) "OK".toList = true ↔
      okEnd modem.framing first ≤ count := by
  have nothing : Unlike [] := fun char member => by cases member
  have found := ok_taken_iff [] nothing modem.framing first count
  rw [List.nil_append, List.length_nil, Nat.zero_add] at found
  rw [mode, found]

theorem front_unlike (first : Option Nat) (mode : modem.mode = .ok first) (count : Nat)
    (reached : okEnd modem.framing first ≤ count) :
    Unlike ((leftOver modem count ++ indicationCommand.toList).drop 12) := by
  have left : Unlike (leftOver modem count) := by
    rw [leftOver, mode]
    exact left_unlike modem.framing first count reached
  exact fun char member =>
    unlike_append left indication_unlike char (List.mem_of_mem_drop member)

theorem indication_taken_iff (first : Option Nat) (mode : modem.mode = .ok first)
    (second : Option Nat) (indication : modem.indication = .ok second) (count : Nat)
    (reached : okEnd modem.framing first ≤ count) (taken : Nat) :
    RustText.contains ((secondReply modem count).take taken) "OK".toList = true ↔
      ((modem.mode.text modem.framing).length - count) + okEnd modem.framing second ≤ taken := by
  have width : ((leftOver modem count ++ indicationCommand.toList).drop 12).length =
      (modem.mode.text modem.framing).length - count := by
    rw [List.length_drop, List.length_append, command_length, leftOver, List.length_drop]
    omega
  rw [secondReply, indication, ok_taken_iff _ (front_unlike modem first mode count reached), width]

def SetUpEnds (outcome : Except Error Unit) : Prop :=
  ∃ enough, ∀ turns ≥ enough,
    initSms (modemPort cutting modem.answer) turns (.ok idleLine) = some outcome

/-- The set-up has a result in the end, and it is success if and only if the
modem accepts both commands and no cut falls in front of an `OK`. -/
theorem init_sms_set_up_iff : ∃ outcome,
    SetUpEnds modem cutting outcome ∧ (outcome = .ok () ↔ SetUp modem cutting) := by
  refine ⟨_, init_sms_result modem cutting, ?_⟩
  constructor
  · intro ready
    split at ready
    case isFalse => cases ready
    case isTrue taken =>
      cases mode : modem.mode with
      | error | cmsError =>
          have refused : modem.mode.accepted = false := by rw [mode]; rfl
          rw [unlike_not_taken _ (refused_unlike modem.framing modem.mode refused)] at taken
          cases taken.1
      | ok first =>
          have reached := (mode_taken_iff modem first mode _).mp taken.1
          cases indication : modem.indication with
          | error | cmsError =>
              have refused : modem.indication.accepted = false := by rw [indication]; rfl
              have unlike := unlike_append (front_unlike modem first mode _ reached)
                (refused_unlike modem.framing modem.indication refused)
              rw [secondReply, unlike_not_taken _ unlike] at taken
              cases taken.2
          | ok second =>
              have whole := (indication_taken_iff modem first mode second indication _ reached
                _).mp taken.2
              exact ⟨first, second, mode, indication, reached, whole⟩
  · rintro ⟨first, second, mode, indication, reached, whole⟩
    exact if_pos ⟨(mode_taken_iff modem first mode _).mpr reached,
      (indication_taken_iff modem first mode second indication _ reached _).mpr whole⟩

/-- A start whose status is settled comes up, with this result of the set-up, if
and only if the set-up is skipped, or succeeds as above and the notification that
may follow it does not panic. -/
theorem start_comes_up_iff (initConfig : InitConfig) (configuration : Configuration)
    (env : StartEnv) (register : Option String) (status : Status)
    (settled : firstStatus configuration env initConfig = .ok status) : ∃ outcome,
    SetUpEnds modem cutting outcome ∧
      ((∃ context, (init (.ok (initConfig, configuration)) { env with smsInit := outcome }
          register).result = .ok context) ↔
        smsPossible status = false ∨
          (SetUp modem cutting ∧
            NoticeReturns env status (lookupInitListener configuration register))) := by
  rcases init_sms_set_up_iff modem cutting with ⟨outcome, ends, success⟩
  refine ⟨outcome, ends, ?_⟩
  have awaited := first_status_set_up initConfig configuration env outcome
  rw [settled] at awaited
  rw [← success, ← notice_returns_iff]
  simp only [init, awaited]
  cases possible : smsPossible status with
  | false => simp
  | true =>
      cases outcome with
      | error error => simp
      | ok _ =>
          have same : startUpNoticePanics { env with smsInit := .ok () } status
              (lookupInitListener configuration register) =
            startUpNoticePanics env status (lookupInitListener configuration register) := rfl
          simp only [same]
          cases startUpNoticePanics env status (lookupInitListener configuration register) <;> simp

end Setup

theorem covered_start_comes_up : ∃ outcome,
    SetUpEnds ⟨crLf, .ok none, .ok none⟩ wholeAnswers outcome ∧
      ∃ context, (init (.ok (⟨0⟩, house)) { fineStart with smsInit := outcome }
        (some alice.name)).result = .ok context := by
  obtain ⟨status, resolved, ready⟩ := fine_status_resolved house
  obtain ⟨outcome, ends, comesUp⟩ := start_comes_up_iff ⟨crLf, .ok none, .ok none⟩ wholeAnswers
    ⟨0⟩ house fineStart (some alice.name) status
    (settled_of_ready ⟨0⟩ house fineStart status resolved ready)
  refine ⟨outcome, ends, comesUp.mpr (.inr ⟨?_, ?_⟩)⟩
  · exact ⟨none, none, rfl, rfl, by decide, by decide⟩
  · intro user found _ _
    have told : user = alice := (Option.some.inj found).symm
    rw [told]
    decide

/-- Read line by line, an accepted set-up fails on the empty line in front of `OK`. -/
example : SetUp ⟨crLf, .ok none, .ok none⟩ wholeAnswers ∧
    ¬ SetUp ⟨crLf, .ok none, .ok none⟩ ⟨fun _ _ => 2, fun _ _ => by decide⟩ := by
  constructor
  · exact ⟨none, none, rfl, rfl, by decide, by decide⟩
  · rintro ⟨first, second, ⟨rfl⟩, ⟨rfl⟩, reached, _⟩
    exact absurd reached (by decide)

end TelcoVecchio.ModemSetup
