import TelcoVecchio.AtTransaction
import TelcoVecchio.SentPdu

/-!
`send_sms` at a modem that echoes every command and then answers it. The
answers are judged on the one read behind each echo, so the result depends on
where the bytes are cut into reads.
-/

namespace TelcoVecchio.SendingResult

open Common SmsUtils TurnLoop AtTransaction SentPdu

/-- The bytes nobody has read, the number of commands so far, and how many
bytes were read since the last one. -/
structure ModemLine where
  unread : List UInt8
  commands : Nat
  offset : Nat

/-- How many bytes the read gives that starts so far behind a command, unless
its buffer or the line has fewer; never none. -/
structure Cutting where
  length : Nat → Nat → Nat
  positive : ∀ command offset, 0 < length command offset

def ModemLine.chunk (cutting : Cutting) (line : ModemLine) (size : Nat) : List UInt8 :=
  line.unread.take (min (cutting.length line.commands line.offset) size)

def ModemLine.after (line : ModemLine) (count : Nat) : ModemLine :=
  { line with unread := line.unread.drop count, offset := line.offset + count }

/-- Commands are numbered from 1. A read of an empty line waits. -/
def modemPort (cutting : Cutting) (answer : Nat → List UInt8) : SerialPort ModemLine where
  write := fun line command => .ok
    { unread := line.unread ++ (command ++ answer (line.commands + 1))
      commands := line.commands + 1
      offset := 0 }
  read := fun line size =>
    if line.unread.isEmpty then none
    else some (.ok (line.chunk cutting size), line.after (line.chunk cutting size).length)

/-- The prompt: `>`, and a space unless the modem leaves it out. -/
structure Prompt where
  lead : List Char
  plain : ∀ char ∈ lead, char.toNat < 128 ∧ char ≠ '>'
  space : Bool

def Prompt.text (prompt : Prompt) : List Char :=
  prompt.lead ++ '>' :: (if prompt.space then [' '] else [])

structure Framing where
  header : List Char
  trailer : List Char
  ends : ∀ char ∈ header ++ trailer, char = '\r' ∨ char = '\n'

def Framing.line (framing : Framing) (text : String) : List Char :=
  framing.header ++ text.toList ++ framing.trailer

inductive FinalResult where
  | ok (reference : Option Nat)
  | error
  | cmsError (code : Nat)

def FinalResult.accepted : FinalResult → Bool
  | .ok _ => true
  | _ => false

/-- The `+CMGS:` line of an accepted message, if the modem sends one. -/
def referenceLine (framing : Framing) : Option Nat → List Char
  | none => []
  | some reference => framing.line ("+CMGS: " ++ toString reference)

def FinalResult.text (framing : Framing) : FinalResult → List Char
  | .ok reference => referenceLine framing reference ++ framing.line "OK"
  | .error => framing.line "ERROR"
  | .cmsError code => framing.line ("+CMS ERROR: " ++ toString code)

structure Modem where
  prompt : Prompt
  framing : Framing
  final : FinalResult

/-- The prompt to `AT+CMGS`, the final result to the PDU. -/
def Modem.answer (modem : Modem) (command : Nat) : List UInt8 :=
  RustText.utf8Bytes (if command = 1 then modem.prompt.text else modem.final.text modem.framing)

def idleLine : ModemLine := ⟨[], 0, 0⟩

/-- From some time limit on, `send_sms` has one result, which is success if and
only if the modem accepted the message. -/
def Reports (gsm7 : Gsm7) (sms : OutgoingSms) (modem : Modem) (cutting : Cutting) : Prop :=
  ∃ outcome, (∃ enough, ∀ turns ≥ enough,
      sendSms (modemPort cutting modem.answer) gsm7 turns (.ok idleLine) sms = outcome) ∧
    (outcome = .ok () ↔ modem.final.accepted = true)

def answerRead (cutting : Cutting) (number length : Nat) : Nat :=
  min (cutting.length number length) 128

/-- The read behind the echo of `AT+CMGS` goes past the `>`, and the one that
starts at the length of the PDU goes past the `OK`, with what the first one
left of the prompt still in front. -/
structure Uncut (modem : Modem) (cutting : Cutting) (reference : Option Nat)
    (command pdu : List UInt8) : Prop where
  prompt : modem.prompt.lead.length < answerRead cutting 1 command.length
  result : modem.prompt.text.length - answerRead cutting 1 command.length +
      (referenceLine modem.framing reference).length + modem.framing.header.length + 1 <
    answerRead cutting 2 pdu.length

section Transaction
variable (cutting : Cutting) (answer : Nat → List UInt8)

theorem modem_read (line : ModemLine) (size : Nat) (some : line.unread ≠ []) :
    (modemPort cutting answer).read line size =
      .some (.ok (line.chunk cutting size), line.after (line.chunk cutting size).length) := by
  have waiting : line.unread.isEmpty = false := by simpa using some
  simp only [modemPort, waiting, Bool.false_eq_true, ↓reduceIte]

theorem chunk_length (line : ModemLine) (size : Nat) (some : line.unread ≠ []) (room : 0 < size) :
    0 < (line.chunk cutting size).length ∧ (line.chunk cutting size).length ≤ size := by
  have positive := cutting.positive line.commands line.offset
  have length := List.length_pos_of_ne_nil some
  simp only [ModemLine.chunk, List.length_take]
  omega

theorem after_after (line : ModemLine) (first second : Nat) :
    (line.after first).after second = line.after (first + second) := by
  simp only [ModemLine.after, List.drop_drop, Nat.add_assoc]

def Echoing (line : ModemLine) (length : Nat) (state : Nat × ModemLine) : Prop :=
  0 < state.1 ∧ ∃ gone, gone + state.1 = length ∧ state.2 = line.after gone

theorem echoing_unread {line : ModemLine} {length : Nat} {state : Nat × ModemLine}
    (echoing : Echoing line length state) (enough : length ≤ line.unread.length) :
    state.2.unread ≠ [] := by
  rcases echoing with ⟨more, gone, total, there⟩
  intro none
  have missing := congrArg List.length none
  rw [there] at missing
  simp only [ModemLine.after, List.length_drop, List.length_nil] at missing
  omega

theorem echoing_turn {line : ModemLine} {length : Nat} {state : Nat × ModemLine}
    (echoing : Echoing line length state) (enough : length ≤ line.unread.length) :
    echoTurn (modemPort cutting answer) state = .leave (.ok (), line.after length) ∨
      ∃ next, echoTurn (modemPort cutting answer) state = .again next ∧
        Echoing line length next ∧ next.1 < state.1 := by
  have some := echoing_unread echoing enough
  rcases state with ⟨left, device⟩
  rcases echoing with ⟨more, gone, total, there⟩
  dsimp only at more total there some
  rcases chunk_length cutting device left some more with ⟨positive, fits⟩
  have turned := echo_turn_data (modem_read cutting answer device left some)
  by_cases all : left - (device.chunk cutting left).length = 0
  · have last : gone + (device.chunk cutting left).length = length := by omega
    rw [if_pos all, there, after_after, ← there, last] at turned
    exact Or.inl turned
  · rw [if_neg all] at turned
    refine Or.inr ⟨_, turned, ⟨Nat.pos_of_ne_zero all, gone + (device.chunk cutting left).length,
      by dsimp only; omega, ?_⟩, by dsimp only; omega⟩
    dsimp only
    conv_lhs => rw [there, after_after, ← there]

theorem modem_echo (line : ModemLine) (length : Nat) (some : 0 < length)
    (enough : length ≤ line.unread.length) {turns : Nat} (time : length < turns) :
    run (echoTurn (modemPort cutting answer)) turns (length, line) =
      .leave (.ok (), line.after length) := by
  have start : Echoing line length (length, line) := ⟨some, 0, Nat.zero_add length, rfl⟩
  have kept : ∀ state next, Echoing line length state →
      echoTurn (modemPort cutting answer) state = .again next →
      Echoing line length next ∧ next.1 < state.1 := by
    intro state next echoing turned
    rcases echoing_turn cutting answer echoing enough with left | ⟨later, again, kept⟩
    · rw [left] at turned
      cases turned
    · rw [again] at turned
      cases turned
      exact kept
  rcases run_total (Echoing line length) Prod.fst kept start time with
    ⟨last, result, echoing, left, ended⟩
  rcases echoing_turn cutting answer echoing enough with all | ⟨next, again, _⟩
  · rw [all] at left
    cases left
    exact ended
  · rw [again] at left
    cases left

def answering (answer : Nat → List UInt8) (line : ModemLine) (command : List UInt8) : ModemLine :=
  ({ unread := line.unread ++ (command ++ answer (line.commands + 1))
     commands := line.commands + 1
     offset := 0 } : ModemLine).after command.length

theorem modem_transaction (line : ModemLine) (command : List UInt8) (some : 0 < command.length)
    {turns : Nat} (time : command.length < turns) :
    atTransaction (modemPort cutting answer) turns command line =
      readAnswer (modemPort cutting answer) (answering answer line command) := by
  have written : (modemPort cutting answer).write line command = .ok
      { unread := line.unread ++ (command ++ answer (line.commands + 1))
        commands := line.commands + 1
        offset := 0 } := rfl
  have nonempty : command.isEmpty = false := by
    cases command with
    | nil => exact absurd some (Nat.lt_irrefl 0)
    | cons head tail => rfl
  have skipped := modem_echo cutting answer
    ⟨line.unread ++ (command ++ answer (line.commands + 1)), line.commands + 1, 0⟩ command.length
    some (by simp only [List.length_append]; omega) time
  simp only [atTransaction, nonempty, Bool.false_eq_true, ↓reduceIte, written, skipped]
  rfl

theorem drop_taken {Item : Type} (items : List Item) (count : Nat) :
    items.drop (items.take count).length = items.drop count := by
  by_cases few : count ≤ items.length
  · rw [List.length_take_of_le few]
  · rw [List.take_of_length_le (Nat.le_of_not_le few), List.drop_length,
      List.drop_eq_nil_of_le (Nat.le_of_not_le few)]

theorem modem_response (line : ModemLine) (command : String) (reply : List Char)
    (some : 0 < (RustText.utf8Bytes command.toList).length)
    (behind : (answering answer line (RustText.utf8Bytes command.toList)).unread =
      RustText.utf8Bytes reply)
    (ascii : ∀ char ∈ reply, char.toNat < 128) (answered : reply ≠ []) :
    ∃ after : ModemLine,
      after.unread = RustText.utf8Bytes (reply.drop (answerRead cutting (line.commands + 1)
        (RustText.utf8Bytes command.toList).length)) ∧
      after.commands = line.commands + 1 ∧
      ∀ turns > (RustText.utf8Bytes command.toList).length, ∀ failure expected,
        expectResponse (modemPort cutting answer) turns failure expected command line =
          .some (if RustText.contains (reply.take (answerRead cutting (line.commands + 1)
              (RustText.utf8Bytes command.toList).length)) expected.toList
            then .ok after else .error failure) := by
  have unread : (answering answer line (RustText.utf8Bytes command.toList)).unread ≠ [] := by
    rw [behind, RustText.utf8_bytes_ascii reply ascii]
    simpa using answered
  have reads := modem_read cutting answer _
    AtStage.answer.bufferSize unread
  generalize counted : answerRead cutting (line.commands + 1)
    (RustText.utf8Bytes command.toList).length = count
  have place : (answering answer line (RustText.utf8Bytes command.toList)).commands =
      line.commands + 1 ∧ (answering answer line (RustText.utf8Bytes command.toList)).offset =
        (RustText.utf8Bytes command.toList).length := ⟨rfl, Nat.zero_add _⟩
  have chunk : (answering answer line (RustText.utf8Bytes command.toList)).chunk cutting
      AtStage.answer.bufferSize = RustText.utf8Bytes (reply.take count) := by
    rw [ModemLine.chunk, place.1, place.2, behind, ← RustText.utf8_bytes_take reply ascii,
      ← counted]
    rfl
  refine ⟨(answering answer line (RustText.utf8Bytes command.toList)).after
    (RustText.utf8Bytes (reply.take count)).length, ?_, place.1, ?_⟩
  · rw [← RustText.utf8_bytes_take reply ascii, ModemLine.after]
    dsimp only
    rw [behind, drop_taken, RustText.utf8_bytes_drop reply ascii]
  · intro turns time failure expected
    simp only [expectResponse, modem_transaction cutting answer line _ some time, readAnswer,
      reads, chunk, Option.bind_some, AtStage.read, RustText.from_utf8_bytes, Option.map_some,
      String.toList_ofList]

end Transaction

/-- ASCII, without the last letter of `OK`. -/
def Unlike (text : List Char) : Prop := ∀ char ∈ text, char.toNat < 128 ∧ char ≠ 'K'

theorem unlike_append {left right : List Char} (first : Unlike left) (second : Unlike right) :
    Unlike (left ++ right) := by
  intro char member
  rcases List.mem_append.mp member with inLeft | inRight
  · exact first char inLeft
  · exact second char inRight

theorem unlike_ends (framing : Framing) : Unlike framing.header ∧ Unlike framing.trailer := by
  have table : ∀ char, char = '\r' ∨ char = '\n' → char.toNat < 128 ∧ char ≠ 'K' := by
    rintro char (rfl | rfl) <;> exact ⟨by decide, by decide⟩
  exact ⟨fun char member => table char (framing.ends char (List.mem_append_left _ member)),
    fun char member => table char (framing.ends char (List.mem_append_right _ member))⟩

theorem unlike_number (number : Nat) : Unlike (toString number).toList := by
  intro char member
  rw [Nat.toString_eq_ofList_toDigits, String.toList_ofList] at member
  have decimal := Nat.isDigit_of_mem_toDigits (by decide) (by decide) member
  have bounds : 48 ≤ char.toNat ∧ char.toNat ≤ 57 := by
    simpa [Char.isDigit, UInt32.le_iff_toNat_le] using decimal
  refine ⟨by omega, ?_⟩
  rintro rfl
  exact absurd bounds.2 (by decide)

theorem unlike_literal (text : String)
    (checked : (text.toList.all fun char => decide (char.toNat < 128) && char != 'K') = true) :
    Unlike text.toList := by
  intro char member
  have known := List.all_eq_true.mp checked char member
  simpa using known

theorem unlike_line (framing : Framing) (text : String) (unlike : Unlike text.toList) :
    Unlike (framing.line text) :=
  unlike_append (unlike_append (unlike_ends framing).1 unlike) (unlike_ends framing).2

theorem unlike_reference (framing : Framing) (reference : Option Nat) :
    Unlike (referenceLine framing reference) := by
  cases reference with
  | none => exact nofun
  | some number =>
      apply unlike_line
      rw [String.toList_append]
      exact unlike_append (unlike_literal _ rfl) (unlike_number number)

theorem refused_unlike (framing : Framing) (final : FinalResult)
    (refused : final.accepted = false) : Unlike (final.text framing) := by
  cases final with
  | ok reference => cases refused
  | error => exact unlike_line framing "ERROR" (unlike_literal _ rfl)
  | cmsError code =>
      apply unlike_line
      rw [String.toList_append]
      exact unlike_append (unlike_literal _ rfl) (unlike_number code)

theorem final_ascii (framing : Framing) (final : FinalResult) :
    ∀ char ∈ final.text framing, char.toNat < 128 := by
  cases final with
  | ok reference =>
      intro char member
      simp only [FinalResult.text, Framing.line, List.mem_append] at member
      rcases member with inReference | (inHeader | inOk) | inTrailer
      · exact (unlike_reference framing reference char inReference).1
      · exact ((unlike_ends framing).1 char inHeader).1
      · have known : "OK".toList.all (fun char => decide (char.toNat < 128)) = true := rfl
        exact of_decide_eq_true (List.all_eq_true.mp known char inOk)
      · exact ((unlike_ends framing).2 char inTrailer).1
  | error => exact fun char member => (refused_unlike framing .error rfl char member).1
  | cmsError code =>
      exact fun char member => (refused_unlike framing (.cmsError code) rfl char member).1

theorem final_nonempty (framing : Framing) (final : FinalResult) : final.text framing ≠ [] := by
  have line (text : String) (some : text.toList ≠ []) : framing.line text ≠ [] := by
    simp [Framing.line, some]
  cases final with
  | ok reference => simp [FinalResult.text, line "OK" nofun]
  | error => exact line "ERROR" nofun
  | cmsError code =>
      apply line
      rw [String.toList_append]
      simp

theorem prompt_ascii (prompt : Prompt) : ∀ char ∈ prompt.text, char.toNat < 128 := by
  intro char member
  simp only [Prompt.text, List.mem_append, List.mem_cons] at member
  rcases member with inLead | rfl | inSpace
  · exact (prompt.plain char inLead).1
  · decide
  · cases spaced : prompt.space with
    | true =>
        simp only [spaced, ↓reduceIte, List.mem_singleton] at inSpace
        subst char
        decide
    | false => simp [spaced] at inSpace

theorem prompt_taken_iff (prompt : Prompt) (count : Nat) :
    RustText.contains (prompt.text.take count) ">".toList = true ↔ prompt.lead.length < count :=
  RustText.contains_taken_iff prompt.lead [] _ '>'
    (by
      rw [List.append_nil]
      exact fun member => (prompt.plain '>' member).2 rfl) count

theorem prompt_left (prompt : Prompt) (count : Nat) (reached : prompt.lead.length < count) :
    (prompt.text.drop count).length ≤ 1 := by
  have length : prompt.text.length ≤ prompt.lead.length + 2 := by
    cases spaced : prompt.space <;> simp [Prompt.text, spaced]
  rw [List.length_drop]
  omega

/-- What stands behind the echo of the PDU: its last bytes, pushed back by what
was left of the prompt, and the final result. -/
def finalReply (modem : Modem) (left : Nat) : List Char :=
  List.replicate left SmsSubmit.endMarker ++ modem.final.text modem.framing

theorem unlike_markers (count : Nat) : Unlike (List.replicate count SmsSubmit.endMarker) := by
  intro char member
  rw [List.eq_of_mem_replicate member]
  exact ⟨by decide, by decide⟩

theorem accepted_taken_iff (modem : Modem) (left : Nat) (reference : Option Nat)
    (accepted : modem.final = .ok reference) (count : Nat) :
    RustText.contains ((finalReply modem left).take count) "OK".toList = true ↔
      left + (referenceLine modem.framing reference).length + modem.framing.header.length + 1 <
        count := by
  have whole : finalReply modem left =
      (List.replicate left SmsSubmit.endMarker ++ referenceLine modem.framing reference ++
        modem.framing.header) ++ (['O'] ++ 'K' :: modem.framing.trailer) := by
    simp [finalReply, accepted, FinalResult.text, Framing.line]
  have fresh : 'K' ∉ (List.replicate left SmsSubmit.endMarker ++
      referenceLine modem.framing reference ++ modem.framing.header) ++ ['O'] := by
    have front := unlike_append (unlike_append (unlike_markers left)
      (unlike_reference modem.framing reference)) (unlike_ends modem.framing).1
    intro member
    rcases List.mem_append.mp member with inFront | last
    · exact (front 'K' inFront).2 rfl
    · simp at last
  have found := RustText.contains_taken_iff _ ['O'] modem.framing.trailer 'K' fresh count
  rw [whole]
  simpa [Nat.add_assoc] using found

theorem refused_taken (modem : Modem) (left : Nat) (refused : modem.final.accepted = false)
    (count : Nat) :
    RustText.contains ((finalReply modem left).take count) "OK".toList = false := by
  have unlike := unlike_append (unlike_markers left)
    (refused_unlike modem.framing modem.final refused)
  cases found : RustText.contains ((finalReply modem left).take count) "OK".toList with
  | false => rfl
  | true =>
      have within := (RustText.contains_iff _ _).mp found
      have last : 'K' ∈ "OK".toList := by decide
      exact absurd rfl (unlike 'K' (List.mem_of_mem_take (within.subset last))).2

theorem pushed_back {Item : Type} (left front behind : List Item) (last : Item)
    (few : left.length ≤ 1) :
    (left ++ (front ++ [last] ++ behind)).drop (front ++ [last]).length =
      List.replicate left.length last ++ behind := by
  match left, few with
  | [], _ =>
      rw [List.nil_append, List.drop_left]
      rfl
  | [item], _ =>
      have moved : [item] ++ (front ++ [last] ++ behind) = (item :: front) ++ (last :: behind) := by
        simp
      have length : (front ++ [last]).length = (item :: front).length := by simp
      rw [moved, length, List.drop_left]
      rfl

theorem reply_ascii (modem : Modem) (left : Nat) :
    ∀ char ∈ finalReply modem left, char.toNat < 128 := by
  intro char member
  rcases List.mem_append.mp member with inMarkers | inFinal
  · exact (unlike_markers left char inMarkers).1
  · exact final_ascii modem.framing modem.final char inFinal

theorem reply_nonempty (modem : Modem) (left : Nat) : finalReply modem left ≠ [] :=
  List.append_ne_nil_of_right_ne_nil _ (final_nonempty modem.framing modem.final)

section Sending
variable {gsm7 : Gsm7} {sms : OutgoingSms} {command pdu : String}
  (sent : submitCommands gsm7 sms = .ok (command, pdu)) (modem : Modem) (cutting : Cutting)
include sent

theorem command_bytes : 0 < (RustText.utf8Bytes command.toList).length := by
  rw [submit_commands_command sent, String.append_assoc, String.toList_append,
    RustText.utf8_bytes_append, List.length_append]
  have front : (RustText.utf8Bytes "AT+CMGS=".toList).length = 8 := rfl
  omega

theorem pdu_bytes : ∃ front, RustText.utf8Bytes pdu.toList =
    front ++ RustText.utf8Bytes [SmsSubmit.endMarker] := by
  rcases submit_commands_built sent with ⟨number, octets, built⟩
  refine ⟨RustText.utf8Bytes ("0011000B91".toList ++ number ++
    (RustText.toUppercase (HexText.encode [0, 0, 1, UInt8.ofNat sms.msg.utf8ByteSize]) ++
      RustText.toUppercase (HexText.encode octets))), ?_⟩
  rw [built.built, submit_pdu_layout, ← RustText.utf8_bytes_append]
  simp only [List.append_assoc]

/-- What is left of the prompt pushes the end of the echo into the answer. -/
theorem final_behind (prompted : ModemLine) (first : prompted.commands = 1) (count : Nat)
    (reached : modem.prompt.lead.length < count)
    (unread : prompted.unread = RustText.utf8Bytes (modem.prompt.text.drop count)) :
    (answering modem.answer prompted (RustText.utf8Bytes pdu.toList)).unread =
      RustText.utf8Bytes (finalReply modem (modem.prompt.text.length - count)) := by
  rcases pdu_bytes sent with ⟨front, pduBytes⟩
  have marker (left : Nat) (few : left ≤ 1) :
      RustText.utf8Bytes (List.replicate left SmsSubmit.endMarker) = List.replicate left 0x1A := by
    have table : ∀ left ≤ 1, RustText.utf8Bytes (List.replicate left SmsSubmit.endMarker) =
        List.replicate left 0x1A := by decide
    exact table left few
  have answer : modem.answer (prompted.commands + 1) =
      RustText.utf8Bytes (modem.final.text modem.framing) := by
    rw [first]
    rfl
  have ascii : ∀ char ∈ modem.prompt.text.drop count, char.toNat < 128 := fun char member =>
    prompt_ascii modem.prompt char (List.mem_of_mem_drop member)
  have few := prompt_left modem.prompt count reached
  have length : (RustText.utf8Bytes (modem.prompt.text.drop count)).length =
      modem.prompt.text.length - count := by
    rw [RustText.utf8_bytes_ascii _ ascii, List.length_map, List.length_drop]
  have left := pushed_back (RustText.utf8Bytes (modem.prompt.text.drop count)) front
    (RustText.utf8Bytes (modem.final.text modem.framing)) 0x1A (by rwa [length, ← List.length_drop])
  rw [finalReply, RustText.utf8_bytes_append, marker _ (by rwa [← List.length_drop]), ← length,
    ← left, ← unread, ← answer]
  have bytes : front ++ [0x1A] = RustText.utf8Bytes pdu.toList := by
    rw [pduBytes]
    rfl
  rw [bytes]
  rfl

/-- What `send_sms` comes to when the time limit leaves room for every cutting. -/
theorem send_sms_result : ∃ enough, ∀ turns ≥ enough,
    sendSms (modemPort cutting modem.answer) gsm7 turns (.ok idleLine) sms =
      if modem.prompt.lead.length < answerRead cutting 1
          (RustText.utf8Bytes command.toList).length then
        if RustText.contains ((finalReply modem (modem.prompt.text.length - answerRead cutting 1
            (RustText.utf8Bytes command.toList).length)).take (answerRead cutting 2
              (RustText.utf8Bytes pdu.toList).length)) "OK".toList then .ok ()
        else .err .smsSendingError
      else .err .smsSendingError := by
  rcases submit_commands_built sent with ⟨number, octets, built⟩
  have short : ¬ 140 < sms.msg.utf8ByteSize := Nat.not_lt.mpr built.short
  have prompting : (answering modem.answer idleLine (RustText.utf8Bytes command.toList)).unread =
      RustText.utf8Bytes modem.prompt.text :=
    List.drop_left
  have promptSome : modem.prompt.text ≠ [] := by simp [Prompt.text]
  rcases modem_response cutting modem.answer idleLine command modem.prompt.text
    (command_bytes sent) prompting (prompt_ascii modem.prompt) promptSome with
    ⟨prompted, unread, first, promptResponse⟩
  have numbered : idleLine.commands + 1 = 1 := rfl
  rw [numbered] at unread first promptResponse
  by_cases reached : modem.prompt.lead.length <
      answerRead cutting 1 (RustText.utf8Bytes command.toList).length
  · have behind := final_behind sent modem prompted first _ reached unread
    have pduSome : 0 < (RustText.utf8Bytes pdu.toList).length := by
      rcases pdu_bytes sent with ⟨front, bytes⟩
      rw [bytes, List.length_append]
      exact Nat.lt_of_lt_of_le (by decide) (Nat.le_add_left _ _)
    rcases modem_response cutting modem.answer prompted pdu _ pduSome behind
      (reply_ascii modem _) (reply_nonempty modem _) with ⟨answered, _, _, finalResponse⟩
    rw [first] at finalResponse
    refine ⟨(RustText.utf8Bytes command.toList).length + (RustText.utf8Bytes pdu.toList).length + 1,
      ?_⟩
    intro turns time
    have prompts := promptResponse turns (by omega) .smsSendingError ">"
    have finals := finalResponse turns (by omega) .smsSendingError "OK"
    rw [if_pos ((prompt_taken_iff modem.prompt _).mpr reached)] at prompts
    rw [if_pos reached]
    simp only [sendSms, submitSms, short, ↓reduceIte, sent, prompts, finals, Option.map_some,
      Option.getD_some]
    split <;> rfl
  · refine ⟨(RustText.utf8Bytes command.toList).length + 1, ?_⟩
    intro turns time
    have prompts := promptResponse turns (by omega) .smsSendingError ">"
    rw [if_neg fun found => reached ((prompt_taken_iff modem.prompt _).mp found)] at prompts
    rw [if_neg reached]
    simp only [sendSms, submitSms, short, ↓reduceIte, sent, prompts, Option.getD_some]

/-- `send_sms` reports what the modem answered if and only if no cut falls
between an echo and the part of the answer that decides. -/
theorem send_sms_reports_iff :
    Reports gsm7 sms modem cutting ↔ ∀ reference, modem.final = .ok reference →
      Uncut modem cutting reference (RustText.utf8Bytes command.toList)
        (RustText.utf8Bytes pdu.toList) := by
  rcases send_sms_result sent modem cutting with ⟨enough, results⟩
  constructor
  · rintro ⟨outcome, ⟨later, reported⟩, right⟩ reference accepted
    have success : outcome = .ok () := right.mpr (by rw [accepted]; rfl)
    have result := results (max enough later) (Nat.le_max_left _ _)
    rw [reported (max enough later) (Nat.le_max_right _ _), success] at result
    split at result
    case isFalse => cases result
    case isTrue reached =>
      split at result
      case isFalse => cases result
      case isTrue found =>
        exact ⟨reached, (accepted_taken_iff modem _ reference accepted _).mp found⟩
  · intro uncut
    refine ⟨_, ⟨enough, results⟩, ?_⟩
    cases final : modem.final with
    | ok reference =>
        have whole := uncut reference final
        have found := (accepted_taken_iff modem _ reference final _).mpr whole.result
        rw [if_pos whole.prompt, if_pos found]
        exact iff_of_true rfl rfl
    | error | cmsError =>
        have refused : modem.final.accepted = false := by rw [final]; rfl
        rw [refused_taken modem _ refused]
        refine iff_of_false ?_ nofun
        split <;> exact nofun

end Sending

def crLf : Framing where
  header := ['\r', '\n']
  trailer := ['\r', '\n']
  ends := by simp

def accepting : Modem where
  prompt := ⟨['\r', '\n'], by simp, true⟩
  framing := crLf
  final := .ok (some 1)

def wholeAnswers : Cutting := ⟨fun _ _ => 128, fun _ _ => by decide⟩

/-- The `+CMGS:` line of the final result comes in a read of its own. -/
def lineByLine : Cutting where
  length := fun command offset => if command = 2 ∧ offset = 43 then 12 else 128
  positive := by
    intro command offset
    split <;> decide

theorem whole_answers_reported :
    Reports Gsm7.standard ⟨"+33600000001", "closed"⟩ accepting wholeAnswers :=
  (send_sms_reports_iff closed_commands accepting wholeAnswers).mpr <| by
    rintro reference ⟨⟩
    exact ⟨by decide, by decide⟩

theorem late_ok_not_reported : ¬ ∀ gsm7 sms command pdu modem cutting,
    submitCommands gsm7 sms = .ok (command, pdu) → Reports gsm7 sms modem cutting := by
  intro reports
  have reported := reports Gsm7.standard _ _ _ accepting lineByLine closed_commands
  have uncut := (send_sms_reports_iff closed_commands accepting lineByLine).mp reported (some 1) rfl
  exact absurd uncut.result (by decide)

end TelcoVecchio.SendingResult
