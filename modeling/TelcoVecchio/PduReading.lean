import TelcoVecchio.SmsUtils

/-!
What `wait_sms` does after the capture never panics on exactly the PDUs whose
fixed fields are there, whose septet count is two hexadecimal digits, and whose
text, once decoded, can be cut at that count taken as a byte offset.
-/

namespace TelcoVecchio.PduReading

open Common SmsUtils

/-- The reading ends with a message or with the error of `wait_sms`. -/
def Settles (gsm7 : Gsm7) (pdu : String) : Prop :=
  (∃ sms, readPdu gsm7 pdu = .ok sms) ∨ readPdu gsm7 pdu = .err .smsReadingError

structure Readable (gsm7 : Gsm7) (pdu : String) : Prop where
  boundaries : ∀ offset ∈ [22, 34, 52, 54], RustText.isCharBoundary pdu.toList offset = true
  pairs : ∀ number, RustText.byteSlice pdu.toList 22 34 = some number → number.length % 2 = 0
  count : ∀ digits, RustText.byteSlice pdu.toList 52 54 = some digits →
    digits.length = 2 ∧ digits.all HexText.isDigit = true
  text : ∀ encoded digits size octets text, RustText.byteSliceFrom pdu.toList 54 = some encoded →
    RustText.byteSlice pdu.toList 52 54 = some digits → fromHexOctet digits = some size →
    HexText.decode (RustText.toLowercase encoded) = some octets → gsm7.read octets = .ok text →
    RustText.byteLength text ≤ size.toNat ∨ RustText.isCharBoundary text size.toNat = true

theorem decode_message_cases (gsm7 : Gsm7) (encoded : List Char) (size : Nat) :
    (∃ message, decodeMessage gsm7 encoded size = .ok message) ∨
    (∃ error, decodeMessage gsm7 encoded size = .err error) ∨
    decodeMessage gsm7 encoded size = .panic := by
  simp only [decodeMessage]
  split
  · exact Or.inr (Or.inl ⟨_, rfl⟩)
  · split
    · exact Or.inr (Or.inl ⟨_, rfl⟩)
    · split
      · exact Or.inr (Or.inr rfl)
      · exact Or.inl ⟨_, rfl⟩

theorem decode_message_panics_iff (gsm7 : Gsm7) (encoded : List Char) (size : Nat) :
    decodeMessage gsm7 encoded size = .panic ↔
      ∃ octets text, HexText.decode (RustText.toLowercase encoded) = some octets ∧
        gsm7.read octets = .ok text ∧ size < RustText.byteLength text ∧
        RustText.isCharBoundary text size = false := by
  cases decoded : HexText.decode (RustText.toLowercase encoded) with
  | none => simp [decodeMessage, decoded]
  | some octets =>
      cases read : gsm7.read octets with
      | error error => simp [decodeMessage, decoded, read]
      | ok text =>
          simp only [Option.some.injEq, exists_and_left, exists_eq_left', read, Except.ok.injEq,
            ← RustText.truncate_panics_iff]
          cases cut : RustText.truncateBytes text size with
          | none => simp [decodeMessage, decoded, read, cut]
          | some kept => simp [decodeMessage, decoded, read, cut]

section Fields
variable (gsm7 : Gsm7) (pdu : String)

theorem settles_of_fields {number digits encoded : List Char} {size : UInt8}
    (numberField : RustText.byteSlice pdu.toList 22 34 = some number)
    (countField : RustText.byteSlice pdu.toList 52 54 = some digits)
    (counted : fromHexOctet digits = some size)
    (textField : RustText.byteSliceFrom pdu.toList 54 = some encoded) :
    Settles gsm7 pdu ↔ number.length % 2 = 0 ∧ decodeMessage gsm7 encoded size.toNat ≠ .panic := by
  have paired := swap_pairs_some_iff number
  cases swap : swapPairs number with
  | none =>
      rw [swap] at paired
      have odd : number.length % 2 ≠ 0 := by simpa using paired
      simp [Settles, readPdu, numberField, countField, counted, textField, decodePhoneNumber, swap,
        odd]
  | some padded =>
      rw [swap] at paired
      have even : number.length % 2 = 0 := by simpa using paired
      rcases decode_message_cases gsm7 encoded size.toNat with
        ⟨message, result⟩ | ⟨error, result⟩ | result
      all_goals
        simp [Settles, readPdu, numberField, countField, counted, textField, decodePhoneNumber,
          swap, even, result]

theorem fields_of_settles (settles : Settles gsm7 pdu) :
    ∃ number digits size encoded, RustText.byteSlice pdu.toList 22 34 = some number ∧
      RustText.byteSlice pdu.toList 52 54 = some digits ∧ fromHexOctet digits = some size ∧
      RustText.byteSliceFrom pdu.toList 54 = some encoded := by
  cases numberField : RustText.byteSlice pdu.toList 22 34 with
  | none => simp [Settles, readPdu, numberField] at settles
  | some number =>
      cases countField : RustText.byteSlice pdu.toList 52 54 with
      | none => simp [Settles, readPdu, numberField, countField] at settles
      | some digits =>
          cases counted : fromHexOctet digits with
          | none => simp [Settles, readPdu, numberField, countField, counted] at settles
          | some size =>
              cases textField : RustText.byteSliceFrom pdu.toList 54 with
              | none => simp [Settles, readPdu, numberField, countField, counted, textField]
                  at settles
              | some encoded => exact ⟨number, digits, size, encoded, rfl, rfl, counted, rfl⟩

end Fields

/-- Reading a PDU never panics if and only if the PDU is readable. -/
theorem settles_iff_readable (gsm7 : Gsm7) (pdu : String) :
    Settles gsm7 pdu ↔ Readable gsm7 pdu := by
  have numberCut := RustText.byte_slice_isSome_iff pdu.toList 22 34 (by decide)
  have countCut := RustText.byte_slice_isSome_iff pdu.toList 52 54 (by decide)
  constructor
  · intro settles
    obtain ⟨number, digits, size, encoded, numberField, countField, counted, textField⟩ :=
      fields_of_settles gsm7 pdu settles
    obtain ⟨even, quiet⟩ :=
      (settles_of_fields gsm7 pdu numberField countField counted textField).mp settles
    refine ⟨?_, ?_, ?_, ?_⟩
    · have first := numberCut.mp (by simp [numberField])
      have second := countCut.mp (by simp [countField])
      simp [first, second]
    · intro found cut
      rw [numberField] at cut
      cases cut
      exact even
    · intro found cut
      rw [countField] at cut
      cases cut
      exact (from_hex_octet_iff digits).mp (by simp [counted])
    · intro found foundDigits foundSize octets text cut cutCount read decoded written
      rw [textField] at cut
      rw [countField] at cutCount
      cases cut
      cases cutCount
      rw [counted] at read
      cases read
      -- a longer text without a boundary there is where `truncate` panics
      by_contra unsafeCut
      obtain ⟨long, inside⟩ := not_or.mp unsafeCut
      exact quiet ((decode_message_panics_iff gsm7 encoded size.toNat).mpr
        ⟨octets, text, decoded, written, by omega, by simpa using inside⟩)
  · intro readable
    have at22 := readable.boundaries 22 (by decide)
    have at34 := readable.boundaries 34 (by decide)
    have at52 := readable.boundaries 52 (by decide)
    have at54 := readable.boundaries 54 (by decide)
    obtain ⟨number, numberField⟩ := Option.isSome_iff_exists.mp (numberCut.mpr ⟨at22, at34⟩)
    obtain ⟨digits, countField⟩ := Option.isSome_iff_exists.mp (countCut.mpr ⟨at52, at54⟩)
    obtain ⟨size, counted⟩ := Option.isSome_iff_exists.mp
      ((from_hex_octet_iff digits).mpr (readable.count digits countField))
    obtain ⟨encoded, textField⟩ : ∃ encoded,
        RustText.byteSliceFrom pdu.toList 54 = some encoded := by
      obtain ⟨left, right, whole, width⟩ := (RustText.char_boundary_iff _ _).mp at54
      exact ⟨right, (RustText.byte_slice_from_iff _ _ _).mpr ⟨left, whole, width⟩⟩
    refine (settles_of_fields gsm7 pdu numberField countField counted textField).mpr
      ⟨readable.pairs number numberField, ?_⟩
    intro panics
    obtain ⟨octets, text, decoded, read, long, inside⟩ :=
      (decode_message_panics_iff gsm7 encoded size.toNat).mp panics
    rcases readable.text encoded digits size octets text textField countField counted decoded read
      with short | boundary
    · omega
    · rw [inside] at boundary
      cases boundary

def accentPdu : String :=
  "07913396050066F1040B913306000000F1000042101112131400" ++ "0105"

theorem accent_panics : ¬ ∀ gsm7 response pdu, Gsm7.Documented gsm7 →
    captureCmt response = some pdu → Settles gsm7 pdu := by
  intro settled
  have settles := settled Gsm7.standard ("+CMT: ,23\r\n" ++ accentPdu ++ "\r\n") accentPdu
    standard_documented (by decide +kernel)
  have panics : readPdu Gsm7.standard accentPdu = .panic := by decide +kernel
  simp [Settles, panics] at settles

end TelcoVecchio.PduReading
