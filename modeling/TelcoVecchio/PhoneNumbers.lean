import TelcoVecchio.SmsUtils
import TelcoVecchio.SmsDeliver

/-!
The phone numbers of `daemon/src/sms_utils.rs`: written as semi-octets, padded
to twelve, and read back. The padding evens out the shorter numbers only.
-/

namespace TelcoVecchio.PhoneNumbers

open Common SmsUtils

def internationalNumber (digits : List Char) : String := String.ofList ('+' :: digits)

/-- `{:F<12}` -/
def padded (digits : List Char) : List Char :=
  digits ++ List.replicate (12 - digits.length) 'F'

def PairsSwapped (text encoded : List Char) : Prop :=
  ∀ pair, encoded[2 * pair]? = text[2 * pair + 1]? ∧ encoded[2 * pair + 1]? = text[2 * pair]?

/-- The number is written in swapped pairs of its digits, filled up with `F`,
and read back as it was. -/
def RoundTrips (digits : List Char) : Prop :=
  ∃ encoded fill, encodePhoneNumber (internationalNumber digits) = some encoded ∧
    encoded.length % 2 = 0 ∧
    PairsSwapped (digits ++ List.replicate fill 'F') encoded ∧
    decodePhoneNumber encoded = some (internationalNumber digits)

theorem swap_pairs_swapped : ∀ text padded : List Char, swapPairs text = some padded →
    padded = SmsDeliver.swapped text
  | [], padded, swap => by
      cases swap
      rfl
  | [_], _, swap => by cases swap
  | first :: second :: rest, padded, swap => by
      simp only [swapPairs, Option.map_eq_some_iff] at swap
      obtain ⟨later, inner, rfl⟩ := swap
      rw [swap_pairs_swapped rest later inner, SmsDeliver.swapped]

theorem swap_pairs_even (text : List Char) (even : text.length % 2 = 0) :
    swapPairs text = some (SmsDeliver.swapped text) := by
  cases swap : swapPairs text with
  | none =>
      have some := (swap_pairs_some_iff text).mpr even
      rw [swap] at some
      cases some
  | some padded => rw [swap_pairs_swapped text padded swap]

theorem swapped_pairs : ∀ text : List Char, text.length % 2 = 0 →
    PairsSwapped text (SmsDeliver.swapped text)
  | [], _ => fun _ => ⟨rfl, rfl⟩
  | [_], odd => by simp at odd
  | first :: second :: rest, even => by
      have later := swapped_pairs rest (by simp only [List.length_cons] at even; omega)
      intro pair
      cases pair with
      | zero => exact ⟨rfl, rfl⟩
      | succ pair =>
          have known := later pair
          simpa [SmsDeliver.swapped, Nat.mul_add, Nat.add_assoc] using known

theorem padded_even_iff (digits : List Char) :
    (padded digits).length % 2 = 0 ↔ digits.length ≤ 12 ∨ digits.length % 2 = 0 := by
  rw [padded, List.length_append, List.length_replicate]
  omega

theorem decimal_differs {digit other : Char} (decimal : digit.isDigit = true)
    (notDigit : other.isDigit = false) : (digit != other) = true := by
  by_contra equal
  have same : digit = other := by simpa using equal
  rw [same, notDigit] at decimal
  cases decimal

section Digits
variable {digits : List Char} (decimal : ∀ digit ∈ digits, digit.isDigit = true)
include decimal

theorem encode_digits :
    encodePhoneNumber (internationalNumber digits) = swapPairs (padded digits) := by
  have kept : ∀ digit ∈ digits, (digit != '+') = true :=
    fun digit member => decimal_differs (decimal digit member) rfl
  have stripped : (internationalNumber digits).toList.filter (· != '+') = digits := by
    rw [internationalNumber, String.toList_ofList, List.filter_cons_of_neg (by decide),
      List.filter_eq_self.mpr kept]
  rw [encodePhoneNumber, stripped]
  rfl

theorem without_filler (fill : Nat) :
    (digits ++ List.replicate fill 'F').filter (· != 'F') = digits := by
  have kept : ∀ digit ∈ digits, (digit != 'F') = true :=
    fun digit member => decimal_differs (decimal digit member) rfl
  rw [List.filter_append, List.filter_eq_self.mpr kept]
  simp

/-- A number makes the round trip if and only if the padding leaves no lone
digit at its end. -/
theorem phone_number_round_trips_iff :
    RoundTrips digits ↔ digits.length ≤ 12 ∨ digits.length % 2 = 0 := by
  rw [← padded_even_iff digits]
  constructor
  · rintro ⟨encoded, _, written, _⟩
    rw [encode_digits decimal] at written
    exact (swap_pairs_some_iff _).mp (by rw [written]; rfl)
  · intro even
    have evenEncoded : (SmsDeliver.swapped (padded digits)).length % 2 = 0 := by
      rwa [SmsDeliver.swapped_length]
    refine ⟨SmsDeliver.swapped (padded digits), 12 - digits.length, ?_, evenEncoded,
      swapped_pairs _ even, ?_⟩
    · rw [encode_digits decimal, swap_pairs_even _ even]
    · rw [decodePhoneNumber, swap_pairs_even _ evenEncoded, SmsDeliver.swapped_swapped, padded,
        Option.map_some, without_filler decimal]
      rfl

end Digits

theorem french_number_round_trips : RoundTrips "33600000001".toList := by
  have decimal : ∀ digit ∈ "33600000001".toList, digit.isDigit = true :=
    List.all_eq_true.mp rfl
  exact (phone_number_round_trips_iff decimal).mpr (by decide)

theorem thirteen_digits_panic : ¬ ∀ digits : List Char, digits ≠ [] →
    (∀ digit ∈ digits, digit.isDigit = true) → RoundTrips digits := by
  intro roundTrips
  have decimal : ∀ digit ∈ "4915112345678".toList, digit.isDigit = true :=
    List.all_eq_true.mp rfl
  have even := (phone_number_round_trips_iff decimal).mp (roundTrips _ nofun decimal)
  exact absurd even (by decide)

end TelcoVecchio.PhoneNumbers
