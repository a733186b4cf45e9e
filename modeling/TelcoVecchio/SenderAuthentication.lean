import TelcoVecchio.Service
import TelcoVecchio.PhoneNumbers

/-!
From the received PDU to the sender check. `wait_sms` cuts the number out at
fixed offsets, so the number it checks is the originating one only when the
characters there spell the digits of the address that the PDU carries.
-/

namespace TelcoVecchio.SenderAuthentication

open Common Request Service SmsUtils PhoneNumbers

def Authenticates (pdu : String) (sms : IncomingSms) : Prop :=
  ∀ env daemon, handleRequest env sms.sender sms.msg daemon ≠
      (.err (.senderNotAllowed sms.sender), daemon) →
    ∃ user ∈ daemon.context.configuration.users,
      SmsDeliver.originatingNumber pdu = some user.phoneNumber

/-- The address is international, and characters 22 to 34 are its digits,
swapped in pairs, with nothing but filler besides. -/
def FixedFieldSpells (pdu : String) : Prop :=
  ∃ address rest digits window, SmsDeliver.readOriginator pdu.toList = some (address, rest) ∧
    address.kind = SmsDeliver.international ∧ address.digits = some digits ∧
    RustText.byteSlice pdu.toList 22 34 = some window ∧
    (SmsDeliver.swapped window).filter (· != 'F') = digits

theorem read_pdu_sender {gsm7 : Gsm7} {pdu : String} {sms : IncomingSms}
    (received : readPdu gsm7 pdu = .ok sms) :
    ∃ window, RustText.byteSlice pdu.toList 22 34 = some window ∧
      sms.sender = String.ofList ('+' :: (SmsDeliver.swapped window).filter (· != 'F')) := by
  simp only [readPdu] at received
  split at received
  case h_1 => cases received
  case h_2 window sliced =>
    split at received
    case h_1 => cases received
    case h_2 =>
      split at received
      case h_1 => cases received
      case h_2 =>
        split at received
        case h_1 => cases received
        case h_2 number decoded =>
          simp only [decodePhoneNumber, Option.map_eq_some_iff] at decoded
          obtain ⟨padded, swap, rfl⟩ := decoded
          split at received
          case h_1 =>
            cases received
            exact ⟨window, sliced, by rw [swap_pairs_swapped window padded swap]⟩
          case h_2 | h_3 | h_4 => cases received

theorem originating_number_iff (pdu : String) (digits : List Char) :
    SmsDeliver.originatingNumber pdu = some (String.ofList ('+' :: digits)) ↔
      ∃ address rest, SmsDeliver.readOriginator pdu.toList = some (address, rest) ∧
        address.kind = SmsDeliver.international ∧ address.digits = some digits := by
  cases read : SmsDeliver.readOriginator pdu.toList with
  | none => simp [SmsDeliver.originatingNumber, read]
  | some field =>
      obtain ⟨address, rest⟩ := field
      cases spelled : address.digits with
      | none => simp [SmsDeliver.originatingNumber, read, spelled]
      | some found =>
          simp [SmsDeliver.originatingNumber, read, spelled, and_comm, String.ofList_inj]

def gatekeeper (number : String) : Daemon :=
  Daemon.start { house with users := [⟨"Alice", number, "alice@example.org"⟩] } readyStatus

/-- A received message authenticates its sender if and only if the fixed field
spells the originating number. -/
theorem authenticates_iff (gsm7 : Gsm7) (pdu : String) (sms : IncomingSms)
    (received : readPdu gsm7 pdu = .ok sms) :
    Authenticates pdu sms ↔ FixedFieldSpells pdu := by
  obtain ⟨window, sliced, sender⟩ := read_pdu_sender received
  constructor
  · intro authenticates
    have allowed : senderUser (gatekeeper sms.sender).context.configuration sms.sender =
        some ⟨"Alice", sms.sender, "alice@example.org"⟩ := by
      simp [senderUser, gatekeeper, Daemon.start, Context.new]
    have past : handleRequest (fineEnv 0) sms.sender sms.msg (gatekeeper sms.sender) ≠
        (.err (.senderNotAllowed sms.sender), gatekeeper sms.sender) := by
      intro refused
      have kind := allowed_not_refused (fineEnv 0) sms.sender sms.msg (gatekeeper sms.sender) _
        allowed (.senderNotAllowed sms.sender) (by rw [refused])
      cases kind
    obtain ⟨user, member, number⟩ := authenticates _ _ past
    have same : user.phoneNumber = sms.sender := by
      simp only [gatekeeper, Daemon.start, Context.new, List.mem_singleton] at member
      rw [member]
    rw [same, sender] at number
    obtain ⟨address, rest, read, kind, digits⟩ := (originating_number_iff pdu _).mp number
    exact ⟨address, rest, _, window, read, kind, digits, sliced, rfl⟩
  · rintro ⟨address, rest, digits, field, read, kind, spelled, cut, rfl⟩ env daemon past
    rw [sliced] at cut
    cases cut
    cases allowed : senderUser daemon.context.configuration sms.sender with
    | none => exact absurd (by simp [handleRequest, allowed]) past
    | some user =>
        obtain ⟨member, same⟩ := sender_user_member _ _ user allowed
        refine ⟨user, member, ?_⟩
        rw [same, sender]
        exact (originating_number_iff pdu _).mpr ⟨address, rest, read, kind, spelled⟩

/-- The layout the offsets were made for: a service centre field of seven
octets and an international number of eleven or twelve digits. -/
structure ExpectedPdu where
  centre : List Char
  first : List Char
  count : List Char
  digits : List Char
  rest : List Char
  firstOctet : Nat
  centreDigits : centre.all HexText.isDigit = true
  centreWidth : centre.length = 14
  firstRead : SmsDeliver.readOctet first = some (firstOctet, [])
  counted : SmsDeliver.readOctet count = some (digits.length, [])
  decimal : ∀ digit ∈ digits, digit.isDigit = true
  size : digits.length = 11 ∨ digits.length = 12

def ExpectedPdu.number (expected : ExpectedPdu) : List Char :=
  SmsDeliver.swapped (expected.digits ++ List.replicate (12 - expected.digits.length) 'F')

def ExpectedPdu.text (expected : ExpectedPdu) : String :=
  String.ofList ("07".toList ++ (expected.centre ++ (expected.first ++ (expected.count ++
    ("91".toList ++ (expected.number ++ expected.rest))))))

section Expected
variable (expected : ExpectedPdu)

theorem expected_text : expected.text.toList =
    "07".toList ++ (expected.centre ++ (expected.first ++ (expected.count ++
      ("91".toList ++ (expected.number ++ expected.rest))))) := String.toList_ofList

theorem expected_number_length : expected.number.length = 12 := by
  have size := expected.size
  rw [ExpectedPdu.number, SmsDeliver.swapped_length, List.length_append, List.length_replicate]
  omega

theorem expected_number_digits : expected.number.all HexText.isDigit = true := by
  rw [List.all_eq_true]
  intro char member
  rcases List.mem_append.mp ((SmsDeliver.swapped_perm _).subset member) with digit | filler
  · exact HexText.decimal_is_digit char (expected.decimal char digit)
  · rw [List.eq_of_mem_replicate filler]
    decide

theorem expected_originator : SmsDeliver.readOriginator expected.text.toList =
    some (⟨expected.digits.length, SmsDeliver.international, expected.number⟩, expected.rest) := by
  have measured (following : List Char) :
      SmsDeliver.readOctet ("07".toList ++ (expected.centre ++ following)) =
        some (7, expected.centre ++ following) := rfl
  have size := expected.size
  rw [expected_text, SmsDeliver.read_originator_of (measured _) expected.centreWidth
    (SmsDeliver.read_octet_append expected.firstRead _)]
  refine SmsDeliver.read_address_of (SmsDeliver.read_octet_append expected.counted _) rfl ?_
  rw [expected_number_length]
  omega

theorem expected_digits : SmsDeliver.Address.digits
    ⟨expected.digits.length, SmsDeliver.international, expected.number⟩ =
      some expected.digits :=
  SmsDeliver.digits_of_swapped expected.digits _ _ expected.decimal

theorem expected_window :
    RustText.byteSlice expected.text.toList 22 34 = some expected.number := by
  let front := "07".toList ++ (expected.centre ++ (expected.first ++ (expected.count ++
    "91".toList)))
  obtain ⟨firstWidth, firstDigits⟩ := SmsDeliver.octet_text expected.firstRead
  obtain ⟨countWidth, countDigits⟩ := SmsDeliver.octet_text expected.counted
  have width : RustText.byteLength front = 22 := by
    rw [HexText.digits_byte_length]
    · simp [front, expected.centreWidth, firstWidth, countWidth]
    · simp only [front, List.all_append, expected.centreDigits, firstDigits, countDigits]
      decide
  refine (RustText.byte_slice_iff _ _ 22 34 (by decide)).mpr ⟨front, expected.rest, ?_, width, ?_⟩
  · rw [expected_text]
    simp [front]
  · rw [width, HexText.digits_byte_length _ (expected_number_digits expected),
      expected_number_length]

theorem seven_octet_centre_spells : FixedFieldSpells expected.text := by
  refine ⟨_, expected.rest, expected.digits, _, expected_originator expected, rfl,
    expected_digits expected, expected_window expected, ?_⟩
  have kept : ∀ digit ∈ expected.digits, (digit != 'F') = true :=
    fun digit member => decimal_differs (expected.decimal digit member) rfl
  rw [ExpectedPdu.number, SmsDeliver.swapped_swapped, List.filter_append,
    List.filter_eq_self.mpr kept, List.filter_replicate_of_neg (by decide), List.append_nil]

end Expected

/-- `status` from Alice's number, with the given type of address. -/
def statusPdu (kind : String) : String :=
  "07913396050066F1040B" ++ kind ++ "3306000000F1000042101112131400" ++ "06737A985E9F03"

theorem status_pdu_received (kind : String) (known : kind = "91" ∨ kind = "81") :
    readPdu Gsm7.standard (statusPdu kind) = .ok ⟨"+33600000001", "status"⟩ := by
  rcases known with rfl | rfl <;> decide +kernel

theorem deliver_octet_read : SmsDeliver.readOctet "04".toList = some (4, []) := rfl

def expectedStatus : ExpectedPdu :=
  { centre := "913396050066F1".toList, first := "04".toList, count := "0B".toList
    digits := "33600000001".toList, rest := "00004210111213140006737A985E9F03".toList
    firstOctet := 4, centreDigits := rfl, centreWidth := rfl, firstRead := deliver_octet_read
    counted := rfl, decimal := List.all_eq_true.mp rfl, size := Or.inl rfl }

theorem international_status_authenticates :
    Authenticates (statusPdu "91") ⟨"+33600000001", "status"⟩ := by
  apply (authenticates_iff Gsm7.standard _ _ (status_pdu_received "91" (Or.inl rfl))).mpr
  have layout : statusPdu "91" = expectedStatus.text := by decide
  rw [layout]
  exact seven_octet_centre_spells expectedStatus

theorem national_number_admitted : ¬ ∀ gsm7 pdu sms, readPdu gsm7 pdu = .ok sms →
    Authenticates pdu sms := by
  intro authentic
  have authenticates := authentic Gsm7.standard (statusPdu "81") _
    (status_pdu_received "81" (Or.inr rfl))
  have national : SmsDeliver.originatingNumber (statusPdu "81") = none := by decide +kernel
  have past : handleRequest (fineEnv 0) "+33600000001" "status" oneOpen ≠
      (.err (.senderNotAllowed "+33600000001"), oneOpen) := by
    intro refused
    have kind := allowed_not_refused (fineEnv 0) "+33600000001" "status" oneOpen alice (by decide)
      (.senderNotAllowed "+33600000001") (by rw [refused])
    cases kind
  obtain ⟨user, _, number⟩ := authenticates _ _ past
  rw [national] at number
  cases number

end TelcoVecchio.SenderAuthentication
