import TelcoVecchio.SenderAuthentication

/-!
Where `wait_sms` looks for the fields of an SMS-DELIVER. Its offsets are those
of one length of the service centre field and one width of the number; moving
one field by the other's difference brings the text back in place, but then the
number is cut or mixed with what stands before it.
-/

namespace TelcoVecchio.DeliverFields

open Common SmsUtils SmsDeliver SenderAuthentication PhoneNumbers

/-- The sender, the septet count and the text that `wait_sms` takes out of a
PDU and goes on with, `none` where one of them panics. -/
def passedFields (pdu : String) : Option (String × Nat × List Char) :=
  match RustText.byteSlice pdu.toList 22 34, (RustText.byteSlice pdu.toList 52 54).bind fromHexOctet,
      RustText.byteSliceFrom pdu.toList 54 with
  | some numberEncoded, some messageSizeSeptets, some messageEncoded =>
      (decodePhoneNumber numberEncoded).map fun number =>
        (number, messageSizeSeptets.toNat, messageEncoded)
  | _, _, _ => none

theorem read_pdu_passes (gsm7 : Gsm7) (pdu : String) :
    readPdu gsm7 pdu =
      match passedFields pdu with
      | none => .panic
      | some (number, size, encoded) =>
          match decodeMessage gsm7 encoded size with
          | .ok message => .ok { sender := number, msg := message }
          | .err _ => .err .smsReadingError
          | .panic => .panic
          | .stuck => .stuck := by
  unfold readPdu passedFields
  cases RustText.byteSlice pdu.toList 22 34 with
  | none => rfl
  | some numberEncoded =>
      cases (RustText.byteSlice pdu.toList 52 54).bind fromHexOctet with
      | none => rfl
      | some size =>
          cases RustText.byteSliceFrom pdu.toList 54 with
          | none => rfl
          | some encoded =>
              cases decoded : decodePhoneNumber numberEncoded with
              | none => simp [decoded]
              | some number =>
                  cases read : decodeMessage gsm7 encoded size.toNat with
                  | ok _ | err _ | panic | stuck => simp [decoded, read]

def FindsFields (deliver : Deliver) : Prop :=
  passedFields (String.ofList deliver.text) =
    some (String.ofList ('+' :: deliver.digits), deliver.count.toNat, deliver.data)

section Written
variable (deliver : Deliver)

theorem number_without_filler :
    (swapped deliver.number).filter (· != 'F') = deliver.digits := by
  have kept : ∀ digit ∈ deliver.digits, (digit != 'F') = true :=
    fun digit member => decimal_differs (deliver.decimal digit member) rfl
  rw [Deliver.number, swapped_swapped, List.filter_append, List.filter_eq_self.mpr kept]
  split
  · rw [List.filter_cons_of_neg (by decide), List.filter_nil, List.append_nil]
  · rw [List.filter_nil, List.append_nil]

theorem decode_written_number :
    decodePhoneNumber deliver.number = some (String.ofList ('+' :: deliver.digits)) := by
  have even : deliver.number.length % 2 = 0 := by
    rw [number_length]
    omega
  rw [decodePhoneNumber, swap_pairs_even _ even, Option.map_some, number_without_filler]

theorem finds_fields_of_expected (centre : deliver.centre.length = 7)
    (digits : deliver.digits.length = 11 ∨ deliver.digits.length = 12) :
    FindsFields deliver := by
  have front : deliver.front.length = 22 := by
    rw [front_length, centre]
  have number : deliver.number.length = 12 := by
    rw [number_length]
    omega
  let before := deliver.front ++ (deliver.number ++
    RustText.toUppercase (HexText.encode (deliver.protocol :: 0 :: deliver.timeStamp)))
  let counted := RustText.toUppercase (HexText.encode [deliver.count])
  have beforeLength : before.length = 52 := by
    simp only [before, List.length_append, front, number, upper_length, List.length_cons,
      deliver.timeStampOctets]
  have countedLength : counted.length = 2 := upper_length [deliver.count]
  have allDigits := text_digits deliver
  have numberLayout : deliver.text = deliver.front ++ deliver.number ++
      (deliver.header ++ deliver.data) := by
    simp [Deliver.text]
  have countLayout : deliver.text = before ++ counted ++ deliver.data := by
    simp [Deliver.text, Deliver.header, before, counted]
  have numberCut : RustText.byteSlice deliver.text 22 34 = some deliver.number := by
    rw [numberLayout] at allDigits ⊢
    exact HexText.digits_byte_slice _ _ _ allDigits 22 34 front (by omega)
  have countCut : RustText.byteSlice deliver.text 52 54 = some counted := by
    rw [countLayout] at allDigits ⊢
    exact HexText.digits_byte_slice _ _ _ allDigits 52 54 beforeLength (by omega)
  have dataCut : RustText.byteSliceFrom deliver.text 54 = some deliver.data := by
    refine (RustText.byte_slice_from_iff _ _ _).mpr ⟨before ++ counted, countLayout, ?_⟩
    rw [countLayout, List.all_append, Bool.and_eq_true] at allDigits
    rw [HexText.digits_byte_length _ allDigits.1, List.length_append]
    omega
  have countRead : fromHexOctet counted = some deliver.count := by
    rw [fromHexOctet, HexText.decode_encode_upper]
  rw [FindsFields, passedFields, String.toList_ofList, numberCut, countCut, dataCut]
  simp only [Option.bind_some, countRead, decode_written_number, Option.map_some]

/-- The text is found only if the two lengths in front of it make up for each
other, and the number only if nothing but its digits is in the window. -/
theorem lengths_of_finds (finds : FindsFields deliver) :
    deliver.centre.length + (deliver.digits.length + 1) / 2 = 13 ∧
      (((deliver.text.take 34).drop 22).filter (· != 'F')).length = deliver.digits.length := by
  have allDigits := text_digits deliver
  rw [FindsFields, passedFields, String.toList_ofList] at finds
  split at finds
  case h_2 => cases finds
  case h_1 numberEncoded size encoded numberCut countCut dataCut =>
    obtain ⟨windowTaken, _⟩ := HexText.digits_of_byte_slice _ _ allDigits 22 34 (by decide) numberCut
    obtain ⟨dataTaken, inside⟩ := HexText.digits_of_byte_slice_from _ _ allDigits 54 dataCut
    simp only [decodePhoneNumber, Option.map_map, Option.map_eq_some_iff, Function.comp_apply,
      Prod.mk.injEq] at finds
    obtain ⟨padded, swap, number, _, data⟩ := finds
    rw [swap_pairs_swapped _ padded swap] at number
    have digits := congrArg String.toList number
    rw [String.toList_ofList, String.toList_ofList, List.cons.injEq] at digits
    constructor
    · have total : deliver.text.length = deliver.front.length + (deliver.number.length +
          (deliver.header.length + deliver.data.length)) := by
        simp only [Deliver.text, List.length_append]
      have rest := congrArg List.length dataTaken
      rw [List.length_drop, data, total, front_length, number_length, header_length] at rest
      rw [total, front_length, number_length, header_length] at inside
      omega
    · rw [← windowTaken, ← digits.2]
      exact (((swapped_perm numberEncoded).filter _).length_eq).symm

/-- A longer service centre field pushes the type of address into the window,
in front of all the digits of the number. -/
theorem type_in_window (long : 7 < deliver.centre.length)
    (offset : deliver.centre.length + (deliver.digits.length + 1) / 2 = 13) :
    deliver.digits.length < (((deliver.text.take 34).drop 22).filter (· != 'F')).length := by
  let before := RustText.toUppercase (HexText.encode
    (UInt8.ofNat deliver.centre.length :: deliver.centre ++
      [deliver.first, UInt8.ofNat deliver.digits.length]))
  have beforeLength : 22 ≤ before.length := by
    simp only [before, upper_length, List.length_append, List.length_cons]
    omega
  have reached : 34 = (deliver.front ++ deliver.number).length := by
    rw [List.length_append, front_length, number_length]
    omega
  have window : (deliver.text.take 34).drop 22 =
      before.drop 22 ++ ("91".toList ++ deliver.number) := by
    rw [Deliver.text, ← List.append_assoc, reached, List.take_left, Deliver.front,
      List.append_assoc, List.drop_append_of_le_length beforeLength]
  have kind : ("91".toList.filter (· != 'F')).length = 2 := rfl
  have number : (deliver.number.filter (· != 'F')).length = deliver.digits.length := by
    rw [← ((swapped_perm deliver.number).filter _).length_eq, number_without_filler]
  simp only [window, List.filter_append, List.length_append, kind, number]
  omega

/-- Whatever the lengths, `wait_sms` finds the fields if and only if the
service centre field has seven octets and the number eleven or twelve digits. -/
theorem finds_fields_iff :
    FindsFields deliver ↔
      deliver.centre.length = 7 ∧ (deliver.digits.length = 11 ∨ deliver.digits.length = 12) := by
  constructor
  · intro finds
    obtain ⟨offset, window⟩ := lengths_of_finds deliver finds
    have notLong : ¬ 7 < deliver.centre.length := by
      intro long
      have more := type_in_window deliver long offset
      omega
    -- a shorter field leaves more than twelve digits for a window of twelve
    have notShort : ¬ deliver.centre.length < 7 := by
      intro short
      have atMost := List.length_filter_le (· != 'F') ((deliver.text.take 34).drop 22)
      rw [window, List.length_drop, List.length_take] at atMost
      omega
    omega
  · rintro ⟨centre, digits⟩
    exact finds_fields_of_expected deliver centre digits

end Written

def danish : Deliver :=
  { centre := [0x91, 0x54, 0x60, 0x05, 0x00, 0x66, 0xF1], first := 4, digits := "4520000001".toList
    protocol := 0, timeStamp := [0x42, 0x10, 0x11, 0x12, 0x13, 0x14, 0x00], count := 0
    userData := [], centreOctet := of_decide_eq_true rfl, messageType := rfl, noHeader := rfl
    digitsOctet := of_decide_eq_true rfl, decimal := List.all_eq_true.mp rfl
    timeStampOctets := rfl, packed := rfl }

theorem danish_fields_not_found : ¬ ∀ deliver, FindsFields deliver := by
  intro finds
  have lengths := (finds_fields_iff danish).mp (finds danish)
  exact absurd lengths (by decide)

end TelcoVecchio.DeliverFields
