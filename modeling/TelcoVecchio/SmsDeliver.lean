import TelcoVecchio.HexText

/-!
The front of an SMS-DELIVER in hexadecimal: the service centre field, whose
length is the first octet, the first octet of the message, and the originating
address with its count of semi-octets, its type, and its swapped digits.
-/

namespace SmsDeliver

def readOctet : List Char → Option (Nat × List Char)
  | high :: low :: rest =>
      match HexText.digitValue high, HexText.digitValue low with
      | some upper, some lower => some (16 * upper + lower, rest)
      | _, _ => none
  | _ => none

def readText (width : Nat) (text : List Char) : Option (List Char × List Char) :=
  if width ≤ text.length then some (text.take width, text.drop width) else none

structure Address where
  count : Nat
  kind : Nat
  semiOctets : List Char
  deriving DecidableEq

def readAddress (text : List Char) : Option (Address × List Char) := do
  let (count, afterCount) ← readOctet text
  let (kind, afterKind) ← readOctet afterCount
  let (semiOctets, rest) ← readText (2 * ((count + 1) / 2)) afterKind
  return (⟨count, kind, semiOctets⟩, rest)

def readOriginator (pdu : List Char) : Option (Address × List Char) := do
  let (centre, afterLength) ← readOctet pdu
  let (_, afterCentre) ← readText (2 * centre) afterLength
  let (_, afterFirst) ← readOctet afterCentre
  readAddress afterFirst

def swapped : List Char → List Char
  | [] => []
  | [lone] => [lone]
  | first :: second :: rest => second :: first :: swapped rest

def addressDigit (char : Char) : Option Char :=
  (HexText.digitValue char).bind fun value => "0123456789*#abc".toList[value]?

def Address.digits (address : Address) : Option (List Char) :=
  ((swapped address.semiOctets).take address.count).mapM addressDigit

def international : Nat := 0x91

def originatingNumber (pdu : String) : Option String := do
  let (address, _) ← readOriginator pdu.toList
  let digits ← address.digits
  if address.kind = international then some (String.ofList ('+' :: digits)) else none

theorem swapped_swapped : ∀ text : List Char, swapped (swapped text) = text
  | [] => rfl
  | [_] => rfl
  | first :: second :: rest => by simp [swapped, swapped_swapped rest]

theorem swapped_perm : ∀ text : List Char, (swapped text).Perm text
  | [] => List.Perm.refl _
  | [_] => List.Perm.refl _
  | first :: second :: rest =>
      (List.Perm.swap first second _).trans (((swapped_perm rest).cons second).cons first)

theorem swapped_length (text : List Char) : (swapped text).length = text.length :=
  (swapped_perm text).length_eq

theorem read_text_append (front rest : List Char) :
    readText front.length (front ++ rest) = some (front, rest) := by
  simp [readText]

theorem decimal_digit (digit : Char) (decimal : digit.isDigit = true) :
    addressDigit digit = some digit := by
  have bounds : 48 ≤ digit.toNat ∧ digit.toNat ≤ 57 := by
    simpa [Char.isDigit, UInt32.le_iff_toNat_le] using decimal
  have table : ∀ code < 58, 48 ≤ code → addressDigit (Char.ofNat code) = some (Char.ofNat code) := by
    decide
  have known := table digit.toNat (by omega) bounds.1
  rwa [Char.ofNat_toNat] at known

theorem decimal_digits (digits : List Char) (decimal : ∀ digit ∈ digits, digit.isDigit = true) :
    digits.mapM addressDigit = some digits := by
  induction digits with
  | nil => rfl
  | cons digit rest ih =>
      have later := ih fun other member => decimal other (List.mem_cons_of_mem _ member)
      simp [List.mapM_cons, decimal_digit digit (decimal digit List.mem_cons_self), later]

theorem read_octet_append {text rest : List Char} {value : Nat}
    (read : readOctet text = some (value, rest)) (more : List Char) :
    readOctet (text ++ more) = some (value, rest ++ more) := by
  match text with
  | [] | [_] => simp [readOctet] at read
  | high :: low :: tail =>
      simp only [readOctet] at read
      split at read
      case h_2 => cases read
      case h_1 upper lower highDigit lowDigit =>
        simp only [Option.some.injEq, Prod.mk.injEq] at read
        obtain ⟨rfl, rfl⟩ := read
        simp [readOctet, highDigit, lowDigit]

theorem read_octet_encoded (octet : UInt8) (rest : List Char) :
    readOctet (RustText.toUppercase (HexText.encode [octet]) ++ rest) =
      some (octet.toNat, rest) := by
  have bound : octet.toNat < 256 := octet.toNat_lt
  have high := HexText.upper_digit_value (octet.toNat / 16) (by omega)
  have low := HexText.upper_digit_value (octet.toNat % 16) (by omega)
  have whole : 16 * (octet.toNat / 16) + octet.toNat % 16 = octet.toNat := by omega
  simp [RustText.toUppercase, readOctet, high, low, whole]

theorem octet_text {text : List Char} {value : Nat} (read : readOctet text = some (value, [])) :
    text.length = 2 ∧ text.all HexText.isDigit = true := by
  match text with
  | [] | [_] => simp [readOctet] at read
  | high :: low :: tail =>
      simp only [readOctet] at read
      split at read
      case h_2 => cases read
      case h_1 upper lower highDigit lowDigit =>
        simp only [Option.some.injEq, Prod.mk.injEq] at read
        obtain ⟨_, rfl⟩ := read
        simp [HexText.isDigit, highDigit, lowDigit]

theorem read_address_of {text afterCount semiOctets rest : List Char} {count kind : Nat}
    (counted : readOctet text = some (count, afterCount))
    (typed : readOctet afterCount = some (kind, semiOctets ++ rest))
    (whole : semiOctets.length = 2 * ((count + 1) / 2)) :
    readAddress text = some (⟨count, kind, semiOctets⟩, rest) := by
  have field := read_text_append semiOctets rest
  rw [whole] at field
  simp [readAddress, counted, typed, field]

theorem read_originator_of {pdu centreField afterCentre afterFirst : List Char}
    {centre first : Nat}
    (measured : readOctet pdu = some (centre, centreField ++ afterCentre))
    (whole : centreField.length = 2 * centre)
    (typed : readOctet afterCentre = some (first, afterFirst)) :
    readOriginator pdu = readAddress afterFirst := by
  have field := read_text_append centreField afterCentre
  rw [whole] at field
  simp [readOriginator, measured, field, typed]

theorem digits_of_swapped (digits fill : List Char) (kind : Nat)
    (decimal : ∀ digit ∈ digits, digit.isDigit = true) :
    Address.digits ⟨digits.length, kind, swapped (digits ++ fill)⟩ = some digits := by
  rw [Address.digits, swapped_swapped, List.take_left, decimal_digits digits decimal]

/-- The fields of an SMS-DELIVER from an international number, without a
user-data header and with a text in the default alphabet. The service centre
field and the number have any length that their octets can give. -/
structure Deliver where
  centre : List UInt8
  first : UInt8
  digits : List Char
  protocol : UInt8
  timeStamp : List UInt8
  count : UInt8
  userData : List UInt8
  centreOctet : centre.length < 256
  messageType : first.toNat % 4 = 0
  noHeader : first.toNat / 64 % 2 = 0
  digitsOctet : digits.length < 256
  decimal : ∀ digit ∈ digits, digit.isDigit = true
  timeStampOctets : timeStamp.length = 7
  packed : userData.length = (7 * count.toNat + 7) / 8

def Deliver.front (deliver : Deliver) : List Char :=
  RustText.toUppercase (HexText.encode (UInt8.ofNat deliver.centre.length :: deliver.centre ++
    [deliver.first, UInt8.ofNat deliver.digits.length])) ++ "91".toList

def Deliver.number (deliver : Deliver) : List Char :=
  swapped (deliver.digits ++ if deliver.digits.length % 2 = 1 then ['F'] else [])

def Deliver.header (deliver : Deliver) : List Char :=
  RustText.toUppercase (HexText.encode (deliver.protocol :: 0 :: deliver.timeStamp)) ++
    RustText.toUppercase (HexText.encode [deliver.count])

def Deliver.data (deliver : Deliver) : List Char :=
  RustText.toUppercase (HexText.encode deliver.userData)

def Deliver.text (deliver : Deliver) : List Char :=
  deliver.front ++ (deliver.number ++ (deliver.header ++ deliver.data))

section Written
variable (deliver : Deliver)

theorem upper_length (octets : List UInt8) :
    (RustText.toUppercase (HexText.encode octets)).length = 2 * octets.length := by
  rw [RustText.toUppercase, List.length_map, HexText.encode_length]

theorem front_length : deliver.front.length = 2 * deliver.centre.length + 8 := by
  simp only [Deliver.front, List.length_append, upper_length, List.length_cons, List.length_nil]
  have kind : "91".toList.length = 2 := rfl
  omega

theorem number_length : deliver.number.length = 2 * ((deliver.digits.length + 1) / 2) := by
  rw [Deliver.number, swapped_length, List.length_append]
  split
  · simp only [List.length_singleton]
    omega
  · simp only [List.length_nil]
    omega

theorem header_length : deliver.header.length = 20 := by
  simp only [Deliver.header, List.length_append, upper_length, List.length_cons,
    deliver.timeStampOctets, List.length_nil]

theorem number_digits : deliver.number.all HexText.isDigit = true := by
  rw [List.all_eq_true]
  intro char member
  rcases List.mem_append.mp ((swapped_perm _).subset member) with digit | filler
  · exact HexText.decimal_is_digit char (deliver.decimal char digit)
  · split at filler
    · rw [List.mem_singleton.mp filler]
      decide
    · cases filler

theorem text_digits : deliver.text.all HexText.isDigit = true := by
  have kind : "91".toList.all HexText.isDigit = true := rfl
  simp only [Deliver.text, Deliver.front, Deliver.header, Deliver.data, List.all_append,
    HexText.encode_upper_digits, number_digits, kind, Bool.and_self]

theorem written_number : originatingNumber (String.ofList deliver.text) =
    some (String.ofList ('+' :: deliver.digits)) := by
  have measured (rest : List Char) := read_octet_encoded (UInt8.ofNat deliver.centre.length) rest
  have typed (rest : List Char) := read_octet_encoded deliver.first rest
  have counted (rest : List Char) := read_octet_encoded (UInt8.ofNat deliver.digits.length) rest
  have centreOctet : (UInt8.ofNat deliver.centre.length).toNat = deliver.centre.length := by
    rw [UInt8.toNat_ofNat']
    exact Nat.mod_eq_of_lt deliver.centreOctet
  have digitsOctet : (UInt8.ofNat deliver.digits.length).toNat = deliver.digits.length := by
    rw [UInt8.toNat_ofNat']
    exact Nat.mod_eq_of_lt deliver.digitsOctet
  have kind (rest : List Char) : readOctet ("91".toList ++ rest) = some (international, rest) := rfl
  have layout : deliver.text =
      RustText.toUppercase (HexText.encode [UInt8.ofNat deliver.centre.length]) ++
        (RustText.toUppercase (HexText.encode deliver.centre) ++
          (RustText.toUppercase (HexText.encode [deliver.first]) ++
            (RustText.toUppercase (HexText.encode [UInt8.ofNat deliver.digits.length]) ++
              ("91".toList ++ (deliver.number ++ (deliver.header ++ deliver.data)))))) := by
    simp [Deliver.text, Deliver.front, RustText.toUppercase, HexText.encode]
  rw [centreOctet] at measured
  rw [digitsOctet] at counted
  have read : readOriginator deliver.text = some
      (⟨deliver.digits.length, international, deliver.number⟩, deliver.header ++ deliver.data) := by
    rw [layout, read_originator_of (measured _) (upper_length deliver.centre) (typed _)]
    exact read_address_of (counted _) (kind _) (number_length deliver)
  have spelled : Address.digits ⟨deliver.digits.length, international, deliver.number⟩ =
      some deliver.digits :=
    digits_of_swapped deliver.digits _ _ deliver.decimal
  simp [originatingNumber, read, spelled]

end Written

end SmsDeliver
