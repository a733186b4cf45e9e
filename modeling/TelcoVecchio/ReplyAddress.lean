import TelcoVecchio.SenderAuthentication
import TelcoVecchio.SentPdu

/-!
From the originating address of a received PDU to the destination address of
the reply. The number passes through `decode_phone_number` and
`encode_phone_number` unharmed, but the count in front of it is always eleven.
-/

namespace TelcoVecchio.ReplyAddress

open Common SmsUtils SentPdu SenderAuthentication PhoneNumbers

def RepliesTo (pdu : String) (digits : List Char) : Prop :=
  ∃ first address rest, SmsSubmit.readDestination pdu.toList = some (first, address, rest) ∧
    SmsSubmit.Spells address digits

section Received
variable (expected : ExpectedPdu)

theorem received_sender {gsm7 : Gsm7} {sms : IncomingSms}
    (received : readPdu gsm7 expected.text = .ok sms) :
    sms.sender = String.ofList ('+' :: expected.digits) := by
  obtain ⟨window, sliced, sender⟩ := read_pdu_sender received
  obtain ⟨address, rest, digits, again, read, _, spelled, cut, kept⟩ :=
    seven_octet_centre_spells expected
  rw [expected_originator expected] at read
  cases read
  rw [expected_digits expected] at spelled
  cases spelled
  rw [sliced] at cut
  cases cut
  rw [sender, kept]

theorem expected_originating_number : SmsDeliver.originatingNumber expected.text =
    some (String.ofList ('+' :: expected.digits)) :=
  (originating_number_iff _ _).mpr
    ⟨_, _, expected_originator expected, rfl, expected_digits expected⟩

theorem encode_received_number :
    encodePhoneNumber (String.ofList ('+' :: expected.digits)) = some expected.number := by
  have size := expected.size
  have even : (padded expected.digits).length % 2 = 0 :=
    (padded_even_iff expected.digits).mpr (by omega)
  have written := encode_digits expected.decimal
  rw [swap_pairs_even _ even] at written
  exact written

theorem reply_destination {gsm7 : Gsm7} {msg command pdu : String}
    (sent : submitCommands gsm7 ⟨String.ofList ('+' :: expected.digits), msg⟩ =
      .ok (command, pdu)) :
    ∃ rest, SmsSubmit.readDestination pdu.toList =
      some (0x11, ⟨11, SmsDeliver.international, expected.number⟩, rest) := by
  obtain ⟨number, octets, built⟩ := submit_commands_built sent
  have same : number = expected.number := by
    have encoded := built.encodedNumber
    rw [encode_received_number] at encoded
    exact (Option.some.inj encoded).symm
  rw [built.built, same]
  exact ⟨_, submit_pdu_destination expected.number octets msg (expected_number_length expected)⟩

/-- For every PDU of the expected layout and every reply to its sender, the
destination is the originating number if and only if this has eleven digits. -/
theorem replies_to_originator_iff (gsm7 : Gsm7) (sms : IncomingSms)
    (received : readPdu gsm7 expected.text = .ok sms) (msg command pdu : String)
    (sent : submitCommands gsm7 ⟨sms.sender, msg⟩ = .ok (command, pdu)) :
    SmsDeliver.originatingNumber expected.text = some (String.ofList ('+' :: expected.digits)) ∧
      (RepliesTo pdu expected.digits ↔ expected.digits.length = 11) := by
  refine ⟨expected_originating_number expected, ?_⟩
  rw [received_sender expected received] at sent
  obtain ⟨behind, destination⟩ := reply_destination expected sent
  constructor
  · rintro ⟨first, address, rest, read, spells⟩
    rw [destination] at read
    cases read
    exact spells.count.symm
  · intro eleven
    refine ⟨0x11, _, behind, destination, ?_⟩
    constructor
    case count => exact eleven.symm
    case kind => rfl
    case semiOctets => simp [ExpectedPdu.number, eleven]
    case read =>
      have digits := expected_digits expected
      rwa [eleven] at digits

end Received

theorem status_reply_to_originator :
    RepliesTo "0011000B913306000000F10000010663F67B5E2603\x1a" "33600000001".toList := by
  have received : readPdu Gsm7.standard expectedStatus.text = .ok ⟨"+33600000001", "status"⟩ := by
    decide +kernel
  exact (replies_to_originator_iff expectedStatus Gsm7.standard _ received "closed" "AT+CMGS=20\r"
    _ (by decide +kernel)).2.mpr rfl

/-- `status` from a number of twelve digits. -/
def twelveDigitStatus : ExpectedPdu :=
  { centre := "911496050066F1".toList, first := "04".toList, count := "0C".toList
    digits := "491600000001".toList, rest := "00004210111213140006737A985E9F03".toList
    firstOctet := 4, centreDigits := rfl, centreWidth := rfl, firstRead := deliver_octet_read
    counted := rfl, decimal := List.all_eq_true.mp rfl, size := Or.inr rfl }

theorem twelve_digits_not_replied_to : ¬ ∀ (expected : ExpectedPdu) gsm7 sms msg command pdu,
    Gsm7.Documented gsm7 → readPdu gsm7 expected.text = .ok sms →
    submitCommands gsm7 ⟨sms.sender, msg⟩ = .ok (command, pdu) →
    RepliesTo pdu expected.digits := by
  intro replies
  have received : readPdu Gsm7.standard twelveDigitStatus.text =
      .ok ⟨"+491600000001", "status"⟩ := by
    decide +kernel
  have sent : submitCommands Gsm7.standard ⟨"+491600000001", "closed"⟩ =
      .ok ("AT+CMGS=20\r", "0011000B919461000000100000010663F67B5E2603\x1a") := by
    decide +kernel
  have replied := replies twelveDigitStatus Gsm7.standard _ "closed" _ _ standard_documented
    received sent
  have eleven := (replies_to_originator_iff twelveDigitStatus Gsm7.standard _ received "closed" _ _
    sent).2.mp replied
  exact absurd eleven (by decide)

end TelcoVecchio.ReplyAddress
