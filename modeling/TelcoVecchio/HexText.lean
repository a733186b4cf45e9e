import TelcoVecchio.RustText

/-!
Hexadecimal texts: two digits an octet, high nibble first. Writing uses the
lower-case digits; reading accepts both cases and refuses an odd number of
digits or any other character.
-/

namespace HexText

def digitValue (char : Char) : Option Nat :=
  let code := char.toNat
  if 48 ≤ code && code ≤ 57 then some (code - 48)
  else if 65 ≤ code && code ≤ 70 then some (code - 55)
  else if 97 ≤ code && code ≤ 102 then some (code - 87)
  else none

def isDigit (char : Char) : Bool := (digitValue char).isSome

def lowerDigit (value : Nat) : Char :=
  if value < 10 then Char.ofNat (48 + value) else Char.ofNat (87 + value)

def encode (octets : List UInt8) : List Char :=
  octets.flatMap fun octet => [lowerDigit (octet.toNat / 16), lowerDigit (octet.toNat % 16)]

def decode : List Char → Option (List UInt8)
  | [] => some []
  | [_] => none
  | high :: low :: rest =>
      match digitValue high, digitValue low, decode rest with
      | some upper, some lower, some octets => some (UInt8.ofNat (16 * upper + lower) :: octets)
      | _, _, _ => none

theorem lower_digit_value (value : Nat) (small : value < 16) :
    digitValue (lowerDigit value) = some value := by
  have table : ∀ value < 16, digitValue (lowerDigit value) = some value := by decide
  exact table value small

theorem lower_digit_upper_lower (value : Nat) (small : value < 16) :
    (lowerDigit value).toUpper.toLower = lowerDigit value := by
  have table : ∀ value < 16, (lowerDigit value).toUpper.toLower = lowerDigit value := by decide
  exact table value small

@[simp] theorem encode_nil : encode [] = [] := rfl

@[simp] theorem encode_cons (octet : UInt8) (rest : List UInt8) :
    encode (octet :: rest) =
      lowerDigit (octet.toNat / 16) :: lowerDigit (octet.toNat % 16) :: encode rest := rfl

theorem encode_length (octets : List UInt8) : (encode octets).length = 2 * octets.length := by
  induction octets with
  | nil => rfl
  | cons octet rest ih =>
      simp only [encode_cons, List.length_cons, ih]
      omega

theorem decode_encode (octets : List UInt8) : decode (encode octets) = some octets := by
  induction octets with
  | nil => rfl
  | cons octet rest ih =>
      have bound : octet.toNat < 256 := octet.toNat_lt
      have whole : 16 * (octet.toNat / 16) + octet.toNat % 16 = octet.toNat := by omega
      simp only [encode_cons, decode, ih, lower_digit_value (octet.toNat / 16) (by omega),
        lower_digit_value (octet.toNat % 16) (by omega), whole, UInt8.ofNat_toNat]

theorem encode_upper_lower (octets : List UInt8) :
    RustText.toLowercase (RustText.toUppercase (encode octets)) = encode octets := by
  induction octets with
  | nil => rfl
  | cons octet rest ih =>
      have bound : octet.toNat < 256 := octet.toNat_lt
      simp only [RustText.toLowercase, RustText.toUppercase] at ih
      simp only [RustText.toLowercase, RustText.toUppercase, encode_cons, List.map_cons, ih,
        lower_digit_upper_lower (octet.toNat / 16) (by omega),
        lower_digit_upper_lower (octet.toNat % 16) (by omega)]

theorem upper_digit (value : Nat) (small : value < 16) :
    isDigit (lowerDigit value).toUpper = true := by
  have table : ∀ value < 16, isDigit (lowerDigit value).toUpper = true := by decide
  exact table value small

theorem upper_digit_value (value : Nat) (small : value < 16) :
    digitValue (lowerDigit value).toUpper = some value := by
  have table : ∀ value < 16, digitValue (lowerDigit value).toUpper = some value := by decide
  exact table value small

theorem decode_encode_upper (octets : List UInt8) :
    decode (RustText.toUppercase (encode octets)) = some octets := by
  induction octets with
  | nil => rfl
  | cons octet rest ih =>
      have bound : octet.toNat < 256 := octet.toNat_lt
      have whole : 16 * (octet.toNat / 16) + octet.toNat % 16 = octet.toNat := by omega
      simp only [RustText.toUppercase] at ih
      simp only [RustText.toUppercase, encode_cons, List.map_cons, decode, ih,
        upper_digit_value (octet.toNat / 16) (by omega),
        upper_digit_value (octet.toNat % 16) (by omega), whole, UInt8.ofNat_toNat]

theorem encode_upper_append (left right : List UInt8) :
    RustText.toUppercase (encode (left ++ right)) =
      RustText.toUppercase (encode left) ++ RustText.toUppercase (encode right) := by
  simp [RustText.toUppercase, encode]

theorem upper_digit_iff (char : Char) :
    char ∈ "0123456789ABCDEF".toList ↔ ∃ value < 16, (lowerDigit value).toUpper = char := by
  have written : "0123456789ABCDEF".toList =
      (List.range 16).map fun value => (lowerDigit value).toUpper := by decide
  rw [written]
  simp

theorem encode_upper_capitals (octets : List UInt8) :
    ∀ char ∈ RustText.toUppercase (encode octets), char ∈ "0123456789ABCDEF".toList := by
  induction octets with
  | nil => exact nofun
  | cons octet rest ih =>
      have bound : octet.toNat < 256 := octet.toNat_lt
      intro char member
      simp only [RustText.toUppercase, encode_cons, List.map_cons, List.mem_cons] at member
      rcases member with rfl | rfl | inRest
      · exact (upper_digit_iff _).mpr ⟨octet.toNat / 16, by omega, rfl⟩
      · exact (upper_digit_iff _).mpr ⟨octet.toNat % 16, by omega, rfl⟩
      · exact ih char inRest

theorem encode_upper_onto : ∀ text : List Char, text.length % 2 = 0 →
    (∀ char ∈ text, char ∈ "0123456789ABCDEF".toList) →
    ∃ octets, RustText.toUppercase (encode octets) = text
  | [], _, _ => ⟨[], rfl⟩
  | [_], odd, _ => by simp at odd
  | high :: low :: rest, even, capitals => by
      rcases (upper_digit_iff high).mp (capitals high List.mem_cons_self) with
        ⟨upper, upperSmall, upperDigit⟩
      rcases (upper_digit_iff low).mp (capitals low (by simp)) with
        ⟨lower, lowerSmall, lowerDigit⟩
      rcases encode_upper_onto rest (by simp only [List.length_cons] at even; omega)
        (fun char member => capitals char (by simp [member])) with ⟨octets, written⟩
      have whole : (UInt8.ofNat (16 * upper + lower)).toNat = 16 * upper + lower := by
        rw [UInt8.toNat_ofNat']
        omega
      have first : (16 * upper + lower) / 16 = upper := by omega
      have second : (16 * upper + lower) % 16 = lower := by omega
      refine ⟨UInt8.ofNat (16 * upper + lower) :: octets, ?_⟩
      rw [encode_cons, whole, first, second, ← written]
      simp only [RustText.toUppercase, List.map_cons, upperDigit, lowerDigit]

theorem encode_upper_digits (octets : List UInt8) :
    (RustText.toUppercase (encode octets)).all isDigit = true := by
  induction octets with
  | nil => rfl
  | cons octet rest ih =>
      have bound : octet.toNat < 256 := octet.toNat_lt
      simp only [RustText.toUppercase] at ih
      simp only [RustText.toUppercase, encode_cons, List.map_cons, List.all_cons, ih,
        upper_digit (octet.toNat / 16) (by omega), upper_digit (octet.toNat % 16) (by omega),
        Bool.and_self]

theorem encode_upper_nonempty (octets : List UInt8) (nonempty : octets ≠ []) :
    RustText.toUppercase (encode octets) ≠ [] := by
  intro none
  have width := congrArg List.length none
  rw [RustText.toUppercase, List.length_map, encode_length, List.length_nil] at width
  exact nonempty (List.length_eq_zero_iff.mp (by omega))

theorem decode_length : ∀ (text : List Char) (octets : List UInt8),
    decode text = some octets → text.length = 2 * octets.length
  | [], octets, read => by
      simp only [decode, Option.some.injEq] at read
      subst octets
      rfl
  | [_], _, read => by simp [decode] at read
  | high :: low :: rest, octets, read => by
      cases upper : digitValue high with
      | none => simp [decode, upper] at read
      | some _ =>
          cases lower : digitValue low with
          | none => simp [decode, upper, lower] at read
          | some _ =>
              cases tail : decode rest with
              | none => simp [decode, upper, lower, tail] at read
              | some later =>
                  have ih := decode_length rest later tail
                  simp only [decode, upper, lower, tail, Option.some.injEq] at read
                  subst octets
                  simp only [List.length_cons, ih]
                  omega

theorem decode_some_iff : ∀ text : List Char,
    (decode text).isSome = true ↔ text.length % 2 = 0 ∧ text.all isDigit = true
  | [] => by simp [decode]
  | [lone] => by simp [decode]
  | high :: low :: rest => by
      have ih := decode_some_iff rest
      have parity : (rest.length + 1 + 1) % 2 = rest.length % 2 := by omega
      simp only [decode, List.length_cons, List.all_cons, Bool.and_eq_true, parity]
      cases upper : digitValue high with
      | none => simp [isDigit, upper]
      | some _ =>
          cases lower : digitValue low with
          | none => simp [isDigit, lower]
          | some _ =>
              rw [show isDigit high = true by simp [isDigit, upper],
                show isDigit low = true by simp [isDigit, lower]]
              cases tail : decode rest with
              | none => simpa [tail] using ih
              | some _ => simpa [tail] using ih

theorem decimal_capital (char : Char) (decimal : char.isDigit = true) :
    char ∈ "0123456789ABCDEF".toList := by
  have bounds : 48 ≤ char.toNat ∧ char.toNat ≤ 57 := by
    simpa [Char.isDigit, UInt32.le_iff_toNat_le] using decimal
  have table : ∀ code < 58, 48 ≤ code → Char.ofNat code ∈ "0123456789ABCDEF".toList := by decide
  have known := table char.toNat (by omega) bounds.1
  rwa [Char.ofNat_toNat] at known

theorem decimal_is_digit (char : Char) (decimal : char.isDigit = true) : isDigit char = true := by
  have bounds : 48 ≤ char.toNat ∧ char.toNat ≤ 57 := by
    simpa [Char.isDigit, UInt32.le_iff_toNat_le] using decimal
  simp [isDigit, digitValue, bounds]

theorem digit_width (char : Char) (digit : isDigit char = true) : char.utf8Size = 1 := by
  have ascii : char.toNat < 128 := by
    simp only [isDigit, digitValue] at digit
    repeat' split at digit
    all_goals simp_all
    all_goals omega
  simp only [Char.utf8Size]
  rw [if_pos]
  exact UInt32.le_iff_toNat_le.mpr (by change char.toNat ≤ 127; omega)

theorem digits_byte_length (text : List Char) (digits : text.all isDigit = true) :
    RustText.byteLength text = text.length := by
  induction text with
  | nil => rfl
  | cons head tail ih =>
      simp only [List.all_cons, Bool.and_eq_true] at digits
      rw [RustText.byte_length_cons, digit_width head digits.1, ih digits.2, List.length_cons]
      omega

theorem digits_byte_slice (left middle right : List Char)
    (digits : (left ++ middle ++ right).all isDigit = true) (first last : Nat)
    (start : left.length = first) (stop : left.length + middle.length = last) :
    RustText.byteSlice (left ++ middle ++ right) first last = some middle := by
  simp only [List.all_append, Bool.and_eq_true] at digits
  refine (RustText.byte_slice_iff _ _ _ _ (by omega)).mpr ⟨left, right, rfl, ?_, ?_⟩
  · rw [digits_byte_length left digits.1.1, start]
  · rw [digits_byte_length left digits.1.1, digits_byte_length middle digits.1.2, stop]

theorem number_text (number : UInt32) :
    (toString number).toList = Nat.toDigits 10 number.toNat := by
  change (toString number.toNat).toList = _
  rw [Nat.toString_eq_ofList_toDigits, String.toList_ofList]

theorem number_byte_size (number : UInt32) : (toString number).utf8ByteSize ≤ 10 := by
  rw [RustText.utf8_byte_size_eq, number_text, digits_byte_length]
  · have bound : number.toNat < 10 ^ 10 := lt_trans number.toNat_lt (by decide)
    exact (Nat.length_toDigits_le_iff (by decide) (by decide)).mpr bound
  · refine List.all_eq_true.mpr fun char member => decimal_is_digit char ?_
    exact Nat.isDigit_of_mem_toDigits (by decide) (by decide) member

theorem digits_of_byte_slice (text middle : List Char) (digits : text.all isDigit = true)
    (first last : Nat) (ordered : first ≤ last)
    (cut : RustText.byteSlice text first last = some middle) :
    middle = (text.take last).drop first ∧ last ≤ text.length := by
  obtain ⟨left, right, rfl, start, stop⟩ := (RustText.byte_slice_iff _ _ _ _ ordered).mp cut
  simp only [List.all_append, Bool.and_eq_true] at digits
  rw [digits_byte_length left digits.1.1] at start stop
  rw [digits_byte_length middle digits.1.2] at stop
  constructor
  · rw [← stop, ← List.length_append, List.take_left, ← start, List.drop_left]
  · simp only [List.length_append]
    omega

theorem digits_of_byte_slice_from (text right : List Char) (digits : text.all isDigit = true)
    (first : Nat) (cut : RustText.byteSliceFrom text first = some right) :
    right = text.drop first ∧ first ≤ text.length := by
  obtain ⟨left, rfl, start⟩ := (RustText.byte_slice_from_iff _ _ _).mp cut
  simp only [List.all_append, Bool.and_eq_true] at digits
  rw [digits_byte_length left digits.1] at start
  rw [← start, List.drop_left]
  simp

end HexText
