import TelcoVecchio.SmsDeliver
import TelcoVecchio.Gsm0338

/-!
The fields of an SMS-SUBMIT in hexadecimal, up to the end marker of the
command: the service centre field, the first octet, the message reference, the
destination address, and behind it the protocol, the coding, the validity
period, the length of the user data and the user data.
-/

namespace SmsSubmit

open SmsDeliver

structure UserData where
  protocol : Nat
  coding : Nat
  validity : List Char
  count : Nat
  octets : List UInt8

structure Submit where
  destination : Address
  userData : UserData

def endMarker : Char := '\x1a'

/-- Octets of the validity period, which the first octet announces: none, the
relative form, or one of the two long forms. -/
def validityWidth (first : Nat) : Nat :=
  match first / 8 % 4 with
  | 0 => 0
  | 2 => 1
  | _ => 7

def readUserData (first : Nat) (text : List Char) : Option UserData := do
  let (protocol, afterProtocol) ← readOctet text
  let (coding, afterCoding) ← readOctet afterProtocol
  let (validity, afterValidity) ← readText (2 * validityWidth first) afterCoding
  let (count, hex) ← readOctet afterValidity
  let octets ← HexText.decode (hex.takeWhile (· != endMarker))
  return { protocol, coding, validity, count, octets }

def readDestination (pdu : List Char) : Option (Nat × Address × List Char) := do
  let (centre, afterLength) ← readOctet pdu
  let (_, afterCentre) ← readText (2 * centre) afterLength
  let (first, afterFirst) ← readOctet afterCentre
  let (_, afterReference) ← readOctet afterFirst
  let (destination, rest) ← readAddress afterReference
  return (first, destination, rest)

def readSubmit (pdu : List Char) : Option Submit := do
  let (first, destination, rest) ← readDestination pdu
  let userData ← readUserData first rest
  return { destination, userData }

/-- An address says a number: its count is the number of digits, its type is
international, and its semi-octets are the digits with a filler after an odd
last one and nowhere else. -/
structure Spells (address : Address) (digits : List Char) : Prop where
  count : address.count = digits.length
  kind : address.kind = international
  semiOctets : address.semiOctets =
    swapped (digits ++ if digits.length % 2 = 1 then ['F'] else [])
  read : address.digits = some digits

/-- The count is the number of septets packed in at most 140 octets, and that
many septets, unpacked, are the text. -/
structure Carries (userData : UserData) (text : List Char) : Prop where
  count : ∃ units, Gsm0338.encodeText text = some units ∧
    SeptetPacking.Packs units userData.octets ∧ userData.count = units.length
  size : userData.octets.length ≤ 140
  read : Gsm0338.decodeSeptets ((SeptetPacking.unpack userData.octets).take userData.count) =
    some text

theorem user_data_before_marker (octets : List UInt8) :
    (RustText.toUppercase (HexText.encode octets) ++ [endMarker]).takeWhile (· != endMarker) =
      RustText.toUppercase (HexText.encode octets) := by
  have inner : ∀ char ∈ RustText.toUppercase (HexText.encode octets),
      (char != endMarker) = true := by
    intro char member
    have digit := List.all_eq_true.mp (HexText.encode_upper_digits octets) char member
    by_contra marker
    have same : char = endMarker := by simpa using marker
    subst char
    exact absurd digit (by decide)
  rw [List.takeWhile_append_of_pos inner]
  simp

theorem read_user_data_of (protocol coding validity count : UInt8) (octets : List UInt8) :
    readUserData 0x11 (RustText.toUppercase (HexText.encode [protocol, coding, validity, count]) ++
      (RustText.toUppercase (HexText.encode octets) ++ [endMarker])) =
      some { protocol := protocol.toNat, coding := coding.toNat
             validity := RustText.toUppercase (HexText.encode [validity])
             count := count.toNat, octets } := by
  have apart : RustText.toUppercase (HexText.encode [protocol, coding, validity, count]) =
      RustText.toUppercase (HexText.encode [protocol]) ++
        (RustText.toUppercase (HexText.encode [coding]) ++
          (RustText.toUppercase (HexText.encode [validity]) ++
            RustText.toUppercase (HexText.encode [count]))) := by
    simp [RustText.toUppercase, HexText.encode]
  have width : 2 * validityWidth 0x11 =
      (RustText.toUppercase (HexText.encode [validity])).length := by
    rw [RustText.toUppercase, List.length_map, HexText.encode_length]
    rfl
  rw [apart]
  simp only [List.append_assoc, readUserData, read_octet_encoded, width, read_text_append,
    Option.bind_eq_bind, Option.bind_some, user_data_before_marker, HexText.decode_encode_upper]
  rfl

theorem carries_of_encoded (userData : UserData) (text : List Char) (units : List Nat)
    (written : Gsm0338.encodeText text = some units)
    (packed : SeptetPacking.Packs units userData.octets)
    (counted : userData.count = units.length) (fits : units.length ≤ 160) :
    Carries userData text := by
  refine ⟨⟨units, written, packed, counted⟩, ?_, ?_⟩
  · rw [packed.1, SeptetPacking.pack_length]
    omega
  · have small := (Gsm0338.encode_text_septets text units written).2
    rw [packed.2, counted, SeptetPacking.unpack_pack units small, List.take_left]
    have read := Gsm0338.decode_encode_append text units [] written
    simpa [Gsm0338.decodeSeptets] using read

end SmsSubmit
