import Mathlib.Data.List.Basic

/-!
The phone numbers of a PDU, the part of `daemon/src/sms_utils.rs` that
`common.rs` rests on through `send_sms`. A number of more than twelve digits is
not padded, and an odd one then ends the task.
-/

namespace TelcoVecchio.SmsUtils

/-- Swapping the characters of each chunk of two; `chunk[1]` panics on a last
chunk of one. -/
def swapPairs : List Char → Option (List Char)
  | [] => some []
  | [_] => none
  | first :: second :: rest => (swapPairs rest).map fun swapped => second :: first :: swapped

/-- `encode_phone_number`, `none` where it panics. -/
def encodePhoneNumber (phoneNumber : String) : Option (List Char) :=
  let stripped := phoneNumber.toList.filter (· != '+')
  swapPairs (stripped ++ List.replicate (12 - stripped.length) 'F')

/-- `decode_phone_number`, `none` where it panics. -/
def decodePhoneNumber (encoded : List Char) : Option String :=
  (swapPairs encoded).map fun padded => String.ofList ('+' :: padded.filter (· != 'F'))

theorem swap_pairs_some_iff : ∀ text : List Char,
    (swapPairs text).isSome = true ↔ text.length % 2 = 0
  | [] => by simp [swapPairs]
  | [_] => by simp [swapPairs]
  | first :: second :: rest => by
      have ih := swap_pairs_some_iff rest
      have parity : (rest.length + 1 + 1) % 2 = rest.length % 2 := by omega
      simp only [swapPairs, Option.isSome_map, ih, List.length_cons, parity]

end TelcoVecchio.SmsUtils
