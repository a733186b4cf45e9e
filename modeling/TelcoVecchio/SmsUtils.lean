import TelcoVecchio.Common
import TelcoVecchio.HexText
import TelcoVecchio.Gsm0338
import TelcoVecchio.CapturePattern

/-!
`daemon/src/sms_utils.rs`: messages in PDU form, the PDU that `send_sms` submits,
what `wait_sms` takes out of a captured PDU, and the reads of an AT transaction.
Byte strings are lists of octets; the texts that are sliced or truncated by byte
offsets are lists of characters.
-/

namespace TelcoVecchio.SmsUtils

open Common

structure IncomingSms where
  sender : String
  msg : String
  deriving DecidableEq

structure OutgoingSms where
  recipient : String
  msg : String
  deriving DecidableEq

/-- The `gsm7` crate: `Gsm7Writer` fed with a text and closed, and
`Gsm7Reader` collected into a text. -/
structure Gsm7 where
  write : String → Except IoError (List UInt8)
  read : List UInt8 → Except IoError (List Char)

/-- The characters the writer takes: those of the alphabet, and the escape, which
is none of them. -/
def writable (char : Char) : Bool := Gsm0338.inAlphabet char || char == '\x1b'

/-- The documented behaviour of the crate. What is written for an escape is left
open, and so is a fill bit that makes no septet. The reader yields one character
for every complete septet or escape pair. -/
structure Gsm7.Documented (gsm7 : Gsm7) : Prop where
  writes : ∀ text units, Gsm0338.encodeText text.toList = some units →
    ∃ octets, gsm7.write text = .ok octets ∧ SeptetPacking.Packs units octets
  accepts : ∀ text, (∀ char ∈ text.toList, writable char = true) →
    ∃ octets, gsm7.write text = .ok octets
  refuses : ∀ text, (∃ char ∈ text.toList, writable char = false) →
    ∃ error, gsm7.write text = .error error
  reads : ∀ octets text, Gsm0338.decodeSeptets (SeptetPacking.unpack octets) = some text →
    gsm7.read octets = .ok text

/-- The tables as they stand, with zero fill and the escape septet for a bare escape. -/
def Gsm7.standard : Gsm7 where
  write := fun text =>
    match Gsm0338.encodeText text.toList with
    | some units => .ok (SeptetPacking.pack units)
    | none =>
        if text.toList.all writable then
          .ok (SeptetPacking.pack (text.toList.flatMap fun char =>
            (Gsm0338.encodeChar char).getD [Gsm0338.escape]))
        else .error ⟨"Kind(InvalidData)"⟩
  read := fun octets =>
    match Gsm0338.decodeSeptets (SeptetPacking.unpack octets) with
    | some text => .ok text
    | none => .error ⟨"Kind(InvalidData)"⟩

def invalidData : IoError := ⟨"Kind(InvalidData)"⟩

def encodeMessage (gsm7 : Gsm7) (message : String) : Except IoError (List Char) :=
  match gsm7.write message with
  | .error error => .error error
  | .ok octets => .ok (RustText.toUppercase (HexText.encode octets))

/-- `decode_message`. The septet count is used as a byte offset by `truncate`. -/
def decodeMessage (gsm7 : Gsm7) (encoded : List Char) (sizeSeptet : Nat) : Outcome String :=
  match HexText.decode (RustText.toLowercase encoded) with
  | none => .err (.ioError invalidData)
  | some octets =>
      match gsm7.read octets with
      | .error error => .err (.ioError error)
      | .ok text =>
          match RustText.truncateBytes text sizeSeptet with
          | none => .panic
          | some kept => .ok (String.ofList kept)

/-- `<[u8; 1]>::from_hex` -/
def fromHexOctet (text : List Char) : Option UInt8 :=
  match HexText.decode text with
  | some [octet] => some octet
  | _ => none

/-- `wait_sms` after the capture, with its slices and its unwrap. -/
def readPdu (gsm7 : Gsm7) (pdu : String) : Outcome IncomingSms :=
  -- the layout of a PDU with a 7-octet service centre and 11 or 12 digits
  match RustText.byteSlice pdu.toList 22 34 with
  | none => .panic
  | some numberEncoded =>
      match (RustText.byteSlice pdu.toList 52 54).bind fromHexOctet with
      | none => .panic
      | some messageSizeSeptets =>
          match RustText.byteSliceFrom pdu.toList 54 with
          | none => .panic
          | some messageEncoded =>
              match decodePhoneNumber numberEncoded with
              | none => .panic
              | some number =>
                  match decodeMessage gsm7 messageEncoded messageSizeSeptets.toNat with
                  | .ok message => .ok { sender := number, msg := message }
                  | .err _ => .err .smsReadingError
                  | .panic => .panic
                  | .stuck => .stuck

/-- `\+CMT:.*\r\n(.+)\r\n` -/
def cmtPattern : List CapturePattern.Item :=
  CapturePattern.literal "+CMT:".toList ++
    [.many 0 false CapturePattern.notLineFeed, CapturePattern.exactly '\r',
      CapturePattern.exactly '\n', .many 1 true CapturePattern.notLineFeed,
      CapturePattern.exactly '\r', CapturePattern.exactly '\n']

def captureCmt (response : String) : Option String :=
  (CapturePattern.search cmtPattern response.toList).bind fun captures =>
    captures.head?.map String.ofList

/-- Where an AT transaction stands: skipping the echo of its command, with
that many bytes to come, or waiting for the answer. -/
inductive AtStage where
  | echo (left : Nat)
  | answer
  deriving DecidableEq

def AtStage.start (command : List UInt8) : AtStage :=
  if command.isEmpty then .answer else .echo command.length

def AtStage.bufferSize : AtStage → Nat
  | .echo left => left
  | .answer => 128

inductive AtStep where
  | next (stage : AtStage)
  | done (response : Except IoError String)

/-- One `serial_port.read` of `at_transaction`. -/
def AtStage.read (stage : AtStage) (chunk : Except IoError (List UInt8)) : AtStep :=
  match chunk with
  | .error error => .done (.error error)
  | .ok bytes =>
      match stage with
      | .echo left =>
          -- the buffer is cut by what came, whatever the bytes are
          if left - bytes.length = 0 then .next .answer else .next (.echo (left - bytes.length))
      | .answer =>
          match RustText.fromUtf8 bytes with
          | some response => .done (.ok response)
          | none => .done (.error invalidData)

inductive WaitStep where
  | again
  | failed
  | captured (pdu : String)
  deriving DecidableEq

/-- One turn of the loop of `wait_sms`: a transaction without a command, whose
response is matched on its own. -/
def waitRead (chunk : Except IoError (List UInt8)) : WaitStep :=
  match AtStage.answer.read chunk with
  | .next _ => .again
  | .done (.error _) => .failed
  | .done (.ok response) =>
      if response.isEmpty then .again
      else match captureCmt response with
        | some pdu => .captured pdu
        | none => .again

/-- `wait_sms` over the results of its reads. -/
def waitSms (gsm7 : Gsm7) : List (Except IoError (List UInt8)) → Outcome IncomingSms
  | [] => .stuck
  | chunk :: rest =>
      match waitRead chunk with
      | .again => waitSms gsm7 rest
      | .failed => .err .smsReadingError
      | .captured pdu => readPdu gsm7 pdu

def smsValidityPeriod : Nat := 1

/-- `{:02X?}` of a `u8`. -/
def hexOctet (value : Nat) : String :=
  String.ofList (RustText.toUppercase (HexText.encode [UInt8.ofNat value]))

/-- The PDU of `send_sms`, with the end marker. -/
def submitPdu (encodedNumber encodedMessage : List Char) (msg : String) : String :=
  "0011000B91" ++ String.ofList encodedNumber ++ "0000" ++ hexOctet smsValidityPeriod ++
    hexOctet msg.utf8ByteSize ++ String.ofList encodedMessage ++ "\x1a"

/-- The two commands of `send_sms`, after its own checks. -/
def submitCommands (gsm7 : Gsm7) (sms : OutgoingSms) : Outcome (String × String) :=
  if 140 < sms.msg.utf8ByteSize then .err .smsSendingError
  else match encodePhoneNumber sms.recipient with
    | none => .panic
    | some encodedNumber =>
        match encodeMessage gsm7 sms.msg with
        | .error _ => .err .smsSendingError
        | .ok encodedMessage =>
            let pdu := submitPdu encodedNumber encodedMessage sms.msg
            .ok ("AT+CMGS=" ++ toString ((pdu.utf8ByteSize - 2) / 2) ++ "\r", pdu)

theorem standard_documented : Gsm7.standard.Documented where
  writes := fun text units written => ⟨_, by simp only [Gsm7.standard, written], rfl, rfl⟩
  accepts := fun text taken => by
    simp only [Gsm7.standard, List.all_eq_true.mpr taken, if_true]
    cases Gsm0338.encodeText text.toList with
    | some units => exact ⟨_, rfl⟩
    | none => exact ⟨_, rfl⟩
  refuses := fun text ⟨char, member, strange⟩ => by
    have refused : text.toList.all writable = false :=
      List.all_eq_false.mpr ⟨char, member, by simp [strange]⟩
    have unspelled : Gsm0338.encodeText text.toList = none := by
      rw [← Option.not_isSome_iff_eq_none, Gsm0338.encode_text_isSome]
      intro alphabet
      simp [writable, alphabet char member] at strange
    simp only [Gsm7.standard, unspelled, refused]
    exact ⟨_, rfl⟩
  reads := fun octets text read => by simp only [Gsm7.standard, read]

theorem gsm7_write_isOk (gsm7 : Gsm7) (documented : gsm7.Documented) (text : String) :
    (∃ octets, gsm7.write text = .ok octets) ↔ ∀ char ∈ text.toList, writable char = true := by
  refine ⟨?_, documented.accepts text⟩
  rintro ⟨octets, written⟩ char member
  by_contra strange
  obtain ⟨error, refused⟩ := documented.refuses text ⟨char, member, by simpa using strange⟩
  rw [written] at refused
  cases refused

theorem writable_of_alphabet {char : Char} (member : Gsm0338.inAlphabet char = true) :
    writable char = true := by
  simp [writable, member]

theorem from_hex_octet_iff (text : List Char) :
    (fromHexOctet text).isSome = true ↔ text.length = 2 ∧ text.all HexText.isDigit = true := by
  have readable := HexText.decode_some_iff text
  cases decoded : HexText.decode text with
  | none =>
      simp only [decoded, Option.isSome_none, Bool.false_eq_true, false_iff, not_and] at readable
      simp only [fromHexOctet, decoded, Option.isSome_none, Bool.false_eq_true, false_iff, not_and]
      intro two
      exact readable (by omega)
  | some octets =>
      have digits : text.all HexText.isDigit = true := (readable.mp (by simp [decoded])).2
      have length := HexText.decode_length text octets decoded
      match octets with
      | [] => simp [fromHexOctet, decoded, length]
      | [_] => simp [fromHexOctet, decoded, length, digits]
      | _ :: _ :: _ => simp [fromHexOctet, decoded, length]

end TelcoVecchio.SmsUtils
