import TelcoVecchio.SentPdu
import TelcoVecchio.PhoneNumbers

/-!
The length that `send_sms` announces with `AT+CMGS`. It is computed from the
length of the text, which also holds the octet of the service centre and the
end marker; the modem counts the octets between them.
-/

namespace TelcoVecchio.AnnouncedLength

open Common SmsUtils PhoneNumbers SentPdu

structure SubmitOctets where
  firstOctet : UInt8
  reference : UInt8
  addressLength : UInt8
  addressType : UInt8
  address : List UInt8
  protocol : UInt8
  coding : UInt8
  validity : UInt8
  userDataLength : UInt8
  userData : List UInt8

def SubmitOctets.octets (submit : SubmitOctets) : List UInt8 :=
  [submit.firstOctet, submit.reference, submit.addressLength, submit.addressType] ++
    submit.address ++
    [submit.protocol, submit.coding, submit.validity, submit.userDataLength] ++
    submit.userData

/-- A PDU of capital digits in pairs and the end marker, which spells an empty
service centre field of one octet and then the octets that are announced. -/
structure Announced (octets : List UInt8) (command pdu : String) : Prop where
  spelled : ∃ digits, pdu.toList = digits ++ [SmsSubmit.endMarker] ∧ digits.length % 2 = 0 ∧
    (∀ digit ∈ digits, digit ∈ "0123456789ABCDEF".toList) ∧
    HexText.decode digits = some (0 :: octets)
  command : command = "AT+CMGS=" ++ toString octets.length ++ "\r"

/-- What `send_sms` puts into the fields. -/
structure Filled (gsm7 : Gsm7) (sms : OutgoingSms) (submit : SubmitOctets) : Prop where
  fixed : submit.firstOctet = 0x11 ∧ submit.reference = 0 ∧ submit.addressLength = 11 ∧
    submit.addressType = 0x91 ∧ submit.protocol = 0 ∧ submit.coding = 0
  address : encodePhoneNumber sms.recipient =
    some (RustText.toUppercase (HexText.encode submit.address))
  validity : submit.validity.toNat = smsValidityPeriod
  userDataLength : submit.userDataLength.toNat = sms.msg.utf8ByteSize
  userData : gsm7.write sms.msg = .ok submit.userData

theorem announced_of_text {octets : List UInt8} {command pdu : String}
    (text : pdu.toList = RustText.toUppercase (HexText.encode (0 :: octets)) ++
      [SmsSubmit.endMarker])
    (written : command = "AT+CMGS=" ++ toString ((pdu.utf8ByteSize - 2) / 2) ++ "\r") :
    Announced octets command pdu := by
  have even : (RustText.toUppercase (HexText.encode (0 :: octets))).length =
      2 * (octets.length + 1) := by
    rw [RustText.toUppercase, List.length_map, HexText.encode_length, List.length_cons]
  have size : pdu.utf8ByteSize = 2 * (octets.length + 1) + 1 := by
    rw [RustText.utf8_byte_size_eq, text, RustText.byte_length_append,
      HexText.digits_byte_length _ (HexText.encode_upper_digits _), even]
    rfl
  refine ⟨⟨_, text, by omega, HexText.encode_upper_capitals _, HexText.decode_encode_upper _⟩, ?_⟩
  have counted : (2 * (octets.length + 1) + 1 - 2) / 2 = octets.length := by omega
  rw [written, size, counted]

theorem number_octets {digits number : List Char}
    (decimal : ∀ digit ∈ digits, digit.isDigit = true)
    (written : encodePhoneNumber (internationalNumber digits) = some number) :
    ∃ address, RustText.toUppercase (HexText.encode address) = number := by
  rw [encode_digits decimal] at written
  have even : (padded digits).length % 2 = 0 := (swap_pairs_some_iff _).mp (by rw [written]; rfl)
  rw [swap_pairs_even _ even, Option.some.injEq] at written
  subst number
  apply HexText.encode_upper_onto
  · rwa [SmsDeliver.swapped_length]
  · intro char member
    have inPadded := (SmsDeliver.swapped_perm _).subset member
    rcases List.mem_append.mp inPadded with inDigits | filler
    · exact HexText.decimal_capital char (decimal char inDigits)
    · rw [List.eq_of_mem_replicate filler]
      decide

/-- The PDU is announced with the number of its octets, whatever the number and
the message. -/
theorem submit_announced (gsm7 : Gsm7) (digits : List Char) (msg command pdu : String)
    (decimal : ∀ digit ∈ digits, digit.isDigit = true)
    (sent : submitCommands gsm7 ⟨internationalNumber digits, msg⟩ = .ok (command, pdu)) :
    ∃ submit, Filled gsm7 ⟨internationalNumber digits, msg⟩ submit ∧
      Announced submit.octets command pdu := by
  rcases submit_commands_built sent with ⟨number, userData, built⟩
  rcases number_octets decimal built.encodedNumber with ⟨address, spelled⟩
  have short : msg.utf8ByteSize ≤ 140 := built.short
  have size : (UInt8.ofNat msg.utf8ByteSize).toNat = msg.utf8ByteSize := by
    rw [UInt8.toNat_ofNat']
    omega
  let submit : SubmitOctets :=
    { firstOctet := 0x11, reference := 0, addressLength := 11, addressType := 0x91, address
      protocol := 0, coding := 0, validity := 1, userDataLength := UInt8.ofNat msg.utf8ByteSize
      userData }
  refine ⟨submit, ⟨⟨rfl, rfl, rfl, rfl, rfl, rfl⟩, ?_, rfl, size, built.written⟩, ?_⟩
  · rw [spelled]
    exact built.encodedNumber
  · apply announced_of_text _ (submit_commands_command sent)
    have front : "0011000B91".toList =
        RustText.toUppercase (HexText.encode [0, 0x11, 0, 11, 0x91]) := by decide
    have whole : 0 :: submit.octets = [0, 0x11, 0, 11, 0x91] ++ (address ++
        ([0, 0, 1, UInt8.ofNat msg.utf8ByteSize] ++ userData)) := by
      simp [submit, SubmitOctets.octets]
    rw [built.built, submit_pdu_layout, front, whole, HexText.encode_upper_append,
      HexText.encode_upper_append, HexText.encode_upper_append, spelled]
    simp only [List.append_assoc]

theorem closed_announced : ∃ submit,
    Filled Gsm7.standard ⟨internationalNumber "33600000001".toList, "closed"⟩ submit ∧
      Announced submit.octets "AT+CMGS=20\r"
        "0011000B913306000000F10000010663F67B5E2603\x1a" :=
  submit_announced Gsm7.standard "33600000001".toList "closed" _ _ (List.all_eq_true.mp rfl)
    closed_commands

end TelcoVecchio.AnnouncedLength
