import Mathlib.Data.List.Infix
import Mathlib.Data.Nat.Digits.Defs

/-!
The part of Rust's `str` and `String` that a program working on received
text relies on: byte offsets into UTF-8, whitespace splitting, decimal
parsing and `{:?}` quoting. Texts are lists of characters here; an offset
counts UTF-8 bytes, so an offset inside a character is not a boundary and
the operation that needs one fails, as the Rust operation panics.
-/

namespace RustText

/-- `str::len` of the characters. -/
def byteLength (text : List Char) : Nat := (text.map Char.utf8Size).sum

@[simp] theorem byte_length_nil : byteLength [] = 0 := rfl

@[simp] theorem byte_length_cons (head : Char) (tail : List Char) :
    byteLength (head :: tail) = head.utf8Size + byteLength tail := by
  simp [byteLength]

@[simp] theorem byte_length_append (left right : List Char) :
    byteLength (left ++ right) = byteLength left + byteLength right := by
  simp [byteLength]

theorem utf8_byte_size_eq (text : String) : text.utf8ByteSize = byteLength text.toList := by
  obtain ⟨chars, rfl⟩ := text.exists_eq_ofList
  induction chars with
  | nil => rfl
  | cons head tail ih =>
      have split : String.ofList (head :: tail) =
          String.singleton head ++ String.ofList tail := by
        apply String.toList_injective
        simp
      rw [split, String.utf8ByteSize_append, ih, String.utf8ByteSize_singleton]
      simp

/-- `str::split_at` at a byte offset: `none` when the offset is past the end
or inside a character. -/
def splitAtByte : Nat → List Char → Option (List Char × List Char)
  | 0, text => some ([], text)
  | _ + 1, [] => none
  | offset + 1, head :: tail =>
      if head.utf8Size ≤ offset + 1 then
        (splitAtByte (offset + 1 - head.utf8Size) tail).map fun parts =>
          (head :: parts.1, parts.2)
      else none

theorem split_at_byte_iff (offset : Nat) (text left right : List Char) :
    splitAtByte offset text = some (left, right) ↔
      text = left ++ right ∧ byteLength left = offset := by
  induction text generalizing offset left right with
  | nil =>
      cases offset with
      | zero => cases left <;> simp [splitAtByte, eq_comm]
      | succ offset => cases left <;> simp [splitAtByte]
  | cons head tail ih =>
      have positive := Char.utf8Size_pos head
      cases offset with
      | zero =>
          cases left with
          | nil => simp [splitAtByte, eq_comm]
          | cons first rest =>
              have firstPositive := Char.utf8Size_pos first
              simp only [splitAtByte, Option.some.injEq, Prod.mk.injEq, byte_length_cons]
              constructor
              · rintro ⟨absurd, _⟩
                cases absurd
              · rintro ⟨_, zero⟩
                omega
      | succ offset =>
          cases left with
          | nil =>
              simp only [splitAtByte, byte_length_nil]
              constructor
              · intro found
                split at found
                · simp at found
                · cases found
              · rintro ⟨_, zero⟩
                omega
          | cons first rest =>
              by_cases fits : head.utf8Size ≤ offset + 1
              · simp only [splitAtByte, fits, ↓reduceIte, Option.map_eq_some_iff, Prod.exists,
                  Prod.mk.injEq, List.cons.injEq, List.cons_append, byte_length_cons]
                constructor
                · rintro ⟨before, after, found, ⟨rfl, rfl⟩, rfl⟩
                  obtain ⟨joined, measured⟩ := (ih _ _ _).mp found
                  exact ⟨⟨rfl, joined⟩, by omega⟩
                · rintro ⟨⟨rfl, joined⟩, measured⟩
                  exact ⟨rest, right, (ih _ _ _).mpr ⟨joined, by omega⟩, ⟨rfl, rfl⟩, rfl⟩
              · simp only [splitAtByte, fits, ↓reduceIte, List.cons.injEq, List.cons_append,
                  byte_length_cons]
                constructor
                · intro impossible
                  cases impossible
                · rintro ⟨⟨rfl, _⟩, measured⟩
                  omega

theorem split_at_byte_append (left right : List Char) :
    splitAtByte (byteLength left) (left ++ right) = some (left, right) :=
  (split_at_byte_iff _ _ _ _).mpr ⟨rfl, rfl⟩

def isCharBoundary (text : List Char) (offset : Nat) : Bool := (splitAtByte offset text).isSome

theorem char_boundary_iff (text : List Char) (offset : Nat) :
    isCharBoundary text offset = true ↔
      ∃ left right, text = left ++ right ∧ byteLength left = offset := by
  simp only [isCharBoundary, Option.isSome_iff_exists, Prod.exists, split_at_byte_iff]

/-- `&text[first..last]`, `none` where the slice panics. -/
def byteSlice (text : List Char) (first last : Nat) : Option (List Char) :=
  match splitAtByte first text with
  | none => none
  | some (_, rest) =>
      if first ≤ last then (splitAtByte (last - first) rest).map Prod.fst else none

/-- `&text[first..]`, `none` where the slice panics. -/
def byteSliceFrom (text : List Char) (first : Nat) : Option (List Char) :=
  (splitAtByte first text).map Prod.snd

theorem byte_slice_iff (text middle : List Char) (first last : Nat) (ordered : first ≤ last) :
    byteSlice text first last = some middle ↔
      ∃ left right, text = left ++ middle ++ right ∧ byteLength left = first ∧
        byteLength left + byteLength middle = last := by
  constructor
  · intro found
    cases cut : splitAtByte first text with
    | none => simp [byteSlice, cut] at found
    | some parts =>
        obtain ⟨left, rest⟩ := parts
        obtain ⟨rfl, rfl⟩ := (split_at_byte_iff _ _ _ _).mp cut
        simp only [byteSlice, cut, ordered, ↓reduceIte, Option.map_eq_some_iff, Prod.exists,
          exists_and_right, exists_eq_right] at found
        obtain ⟨right, inner⟩ := found
        obtain ⟨rfl, measured⟩ := (split_at_byte_iff _ _ _ _).mp inner
        exact ⟨left, right, by simp, rfl, by omega⟩
  · rintro ⟨left, right, rfl, rfl, rfl⟩
    simp [byteSlice, List.append_assoc, split_at_byte_append]

theorem byte_slice_from_iff (text right : List Char) (first : Nat) :
    byteSliceFrom text first = some right ↔
      ∃ left, text = left ++ right ∧ byteLength left = first := by
  simp [byteSliceFrom, Option.map_eq_some_iff, split_at_byte_iff]

theorem split_at_byte_after (left rest : List Char) (offset : Nat) :
    splitAtByte (byteLength left + offset) (left ++ rest) =
      (splitAtByte offset rest).map fun parts => (left ++ parts.1, parts.2) := by
  induction left with
  | nil => simp
  | cons head tail ih =>
      have positive := Char.utf8Size_pos head
      obtain ⟨below, total⟩ : ∃ below, byteLength (head :: tail) + offset = below + 1 :=
        ⟨byteLength (head :: tail) + offset - 1, by rw [byte_length_cons]; omega⟩
      have reached : head.utf8Size ≤ below + 1 := by
        rw [byte_length_cons] at total
        omega
      have remaining : below + 1 - head.utf8Size = byteLength tail + offset := by
        rw [byte_length_cons] at total
        omega
      rw [total, List.cons_append, splitAtByte, if_pos reached, remaining, ih, Option.map_map]
      rfl

theorem byte_slice_isSome_iff (text : List Char) (first last : Nat) (ordered : first ≤ last) :
    (byteSlice text first last).isSome = true ↔
      isCharBoundary text first = true ∧ isCharBoundary text last = true := by
  cases cut : splitAtByte first text with
  | none => simp [byteSlice, isCharBoundary, cut]
  | some parts =>
      obtain ⟨left, rest⟩ := parts
      obtain ⟨rfl, rfl⟩ := (split_at_byte_iff _ _ _ _).mp cut
      obtain ⟨width, rfl⟩ := Nat.exists_eq_add_of_le ordered
      simp [byteSlice, isCharBoundary, cut, split_at_byte_after]

/-- `String::truncate`: nothing happens at or past the end; `none` where the
assertion on the character boundary panics. -/
def truncateBytes (text : List Char) (size : Nat) : Option (List Char) :=
  if size ≤ byteLength text then (splitAtByte size text).map Prod.fst else some text

theorem truncate_panics_iff (text : List Char) (size : Nat) :
    truncateBytes text size = none ↔
      size < byteLength text ∧ isCharBoundary text size = false := by
  by_cases inside : size ≤ byteLength text
  · simp only [truncateBytes, inside, ↓reduceIte, Option.map_eq_none_iff, isCharBoundary,
      Option.isSome_eq_false_iff, Option.isNone_iff_eq_none]
    constructor
    · intro cut
      refine ⟨?_, cut⟩
      by_contra past
      have exact : size = byteLength text := by omega
      have whole := split_at_byte_append text []
      rw [List.append_nil, ← exact, cut] at whole
      cases whole
    · exact And.right
  · simp only [truncateBytes, inside, ↓reduceIte, reduceCtorEq, false_iff, not_and]
    intro below
    omega

theorem truncate_some_iff (text kept : List Char) (size : Nat) :
    truncateBytes text size = some kept ↔
      (∃ rest, text = kept ++ rest ∧ byteLength kept = size) ∨
        (byteLength text < size ∧ kept = text) := by
  by_cases inside : size ≤ byteLength text
  · simp only [truncateBytes, inside, ↓reduceIte, Option.map_eq_some_iff, Prod.exists,
      exists_and_right, exists_eq_right, split_at_byte_iff]
    constructor
    · exact Or.inl
    · rintro (found | ⟨past, _⟩)
      · exact found
      · omega
  · simp only [truncateBytes, inside, ↓reduceIte, Option.some.injEq]
    constructor
    · intro same
      exact Or.inr ⟨by omega, same.symm⟩
    · rintro (⟨rest, rfl, rfl⟩ | ⟨_, same⟩)
      · simp at inside
      · exact same.symm

/-- `str::as_bytes`. -/
def utf8Bytes (text : List Char) : List UInt8 := text.flatMap String.utf8EncodeChar

@[simp] theorem utf8_bytes_append (left right : List Char) :
    utf8Bytes (left ++ right) = utf8Bytes left ++ utf8Bytes right := by
  simp [utf8Bytes]

theorem utf8_bytes_length (text : List Char) : (utf8Bytes text).length = byteLength text := by
  induction text with
  | nil => rfl
  | cons head tail ih =>
      rw [byte_length_cons, ← ih]
      simp [utf8Bytes]

theorem utf8_bytes_nul (count : Nat) :
    utf8Bytes (List.replicate count '\x00') = List.replicate count 0 := by
  induction count with
  | zero => rfl
  | succ count ih =>
      have head : String.utf8EncodeChar '\x00' = [0] := by decide
      rw [List.replicate_succ, List.replicate_succ, ← ih]
      simp [utf8Bytes, head]

def fromUtf8 (bytes : List UInt8) : Option String := String.fromUTF8? bytes.toByteArray

theorem from_utf8_bytes (text : List Char) :
    fromUtf8 (utf8Bytes text) = some (String.ofList text) := by
  have encoded : (utf8Bytes text).toByteArray = (String.ofList text).toByteArray := by
    rw [String.toByteArray_ofList]
    rfl
  rw [fromUtf8, encoded, String.fromUTF8?, dif_pos (String.ofList text).isValidUTF8]
  rfl

theorem text_bytes (text : String) : text.toByteArray.data.toList = utf8Bytes text.toList := by
  have whole : text.toByteArray = (utf8Bytes text.toList).toByteArray := by
    conv_lhs => rw [← String.ofList_toList (s := text), String.toByteArray_ofList]
    rfl
  rw [whole, List.toList_data_toByteArray]

theorem from_utf8_some (bytes : List UInt8) (text : String) (read : fromUtf8 bytes = some text) :
    bytes = utf8Bytes text.toList := by
  rw [fromUtf8, String.fromUTF8?] at read
  split at read
  · next valid =>
      simp only [Option.some.injEq] at read
      have decoded : text.toByteArray = bytes.toByteArray := by
        rw [← read]
        rfl
      have lists := congrArg (fun array => array.data.toList) decoded
      simpa [text_bytes, List.toList_data_toByteArray] using lists.symm
  · cases read

theorem ascii_encoding (char : Char)
    (ascii : ∀ byte ∈ String.utf8EncodeChar char, byte.toNat < 128) :
    char.toNat < 128 ∧ String.utf8EncodeChar char = [UInt8.ofNat char.toNat] := by
  have value : char.val.toNat = char.toNat := rfl
  by_cases low : char.toNat ≤ 127
  · exact ⟨by omega, by simp [String.utf8EncodeChar, value, low]⟩
  · exfalso
    simp only [String.utf8EncodeChar, value, low, ↓reduceIte] at ascii
    split at ascii
    · have lead := ascii _ List.mem_cons_self
      rw [UInt8.toNat_ofNat'] at lead
      omega
    · split at ascii
      · have lead := ascii _ List.mem_cons_self
        rw [UInt8.toNat_ofNat'] at lead
        omega
      · have lead := ascii _ List.mem_cons_self
        rw [UInt8.toNat_ofNat'] at lead
        omega

theorem utf8_bytes_ascii (text : List Char) (ascii : ∀ char ∈ text, char.toNat < 128) :
    utf8Bytes text = text.map fun char => UInt8.ofNat char.toNat := by
  induction text with
  | nil => rfl
  | cons head tail ih =>
      have value : head.val.toNat = head.toNat := rfl
      have low : head.toNat ≤ 127 := Nat.le_of_lt_succ (ascii head List.mem_cons_self)
      have single : String.utf8EncodeChar head = [UInt8.ofNat head.toNat] := by
        simp [String.utf8EncodeChar, value, low]
      have later := ih fun char member => ascii char (List.mem_cons_of_mem head member)
      simp only [utf8Bytes] at later
      simp only [utf8Bytes, List.flatMap_cons, single, later, List.map_cons, List.singleton_append]

theorem utf8_bytes_take (text : List Char) (ascii : ∀ char ∈ text, char.toNat < 128)
    (count : Nat) : (utf8Bytes text).take count = utf8Bytes (text.take count) := by
  rw [utf8_bytes_ascii text ascii, utf8_bytes_ascii (text.take count), List.map_take]
  exact fun char member => ascii char (List.mem_of_mem_take member)

theorem utf8_bytes_drop (text : List Char) (ascii : ∀ char ∈ text, char.toNat < 128)
    (count : Nat) : (utf8Bytes text).drop count = utf8Bytes (text.drop count) := by
  rw [utf8_bytes_ascii text ascii, utf8_bytes_ascii (text.drop count), List.map_drop]
  exact fun char member => ascii char (List.mem_of_mem_drop member)

theorem ascii_text (text : String) (good : Nat → Bool)
    (bytes : (text.toByteArray.data.toList.all fun byte =>
      decide (byte.toNat < 128) && good byte.toNat) = true) :
    ∀ char ∈ text.toList, char.toNat < 128 ∧ good char.toNat = true := by
  rw [text_bytes] at bytes
  intro char member
  have known : ∀ byte ∈ String.utf8EncodeChar char, byte.toNat < 128 ∧ good byte.toNat = true := by
    intro byte inside
    have listed : byte ∈ utf8Bytes text.toList := List.mem_flatMap.mpr ⟨char, member, inside⟩
    simpa using List.all_eq_true.mp bytes byte listed
  obtain ⟨low, single⟩ := ascii_encoding char fun byte inside => (known byte inside).1
  have value : (UInt8.ofNat char.toNat).toNat = char.toNat := by
    rw [UInt8.toNat_ofNat']
    omega
  have held := (known (UInt8.ofNat char.toNat) (by simp [single])).2
  exact ⟨low, by rwa [value] at held⟩

theorem ascii_byte_member (text : List Char) (char : Char) (ascii : char.toNat < 128)
    (member : UInt8.ofNat char.toNat ∈ utf8Bytes text) : char ∈ text := by
  obtain ⟨other, inside, byte⟩ := List.mem_flatMap.mp member
  have value : other.val.toNat = other.toNat := rfl
  have small : (UInt8.ofNat char.toNat).toNat = char.toNat := by
    rw [UInt8.toNat_ofNat']
    omega
  by_cases low : other.toNat ≤ 127
  · have single : String.utf8EncodeChar other = [UInt8.ofNat other.toNat] := by
      simp [String.utf8EncodeChar, value, low]
    rw [single, List.mem_singleton] at byte
    have codes := congrArg UInt8.toNat byte
    rw [small, UInt8.toNat_ofNat'] at codes
    have same : other = char := Char.toNat_inj.mp (by omega)
    exact same ▸ inside
  · -- a longer encoding has no byte below 128
    exfalso
    have high : 128 ≤ (UInt8.ofNat char.toNat).toNat := by
      simp only [String.utf8EncodeChar, value, low, ↓reduceIte] at byte
      split at byte
      · simp only [List.mem_cons, List.not_mem_nil, or_false] at byte
        rcases byte with same | same <;> rw [same, UInt8.toNat_ofNat'] <;> omega
      · split at byte
        · simp only [List.mem_cons, List.not_mem_nil, or_false] at byte
          rcases byte with same | same | same <;> rw [same, UInt8.toNat_ofNat'] <;> omega
        · simp only [List.mem_cons, List.not_mem_nil, or_false] at byte
          rcases byte with same | same | same | same <;> rw [same, UInt8.toNat_ofNat'] <;> omega
    omega

theorem decode_first (char : Char) (rest : List UInt8) :
    (String.utf8EncodeChar char ++ rest).toByteArray.utf8DecodeChar? 0 = some char := by
  rw [List.toByteArray_append]
  exact ByteArray.utf8DecodeChar?_utf8EncodeChar_append

theorem utf8_bytes_prefix (left text : List Char) (more : List UInt8)
    (same : utf8Bytes left ++ more = utf8Bytes text) :
    ∃ right, text = left ++ right ∧ more = utf8Bytes right := by
  induction left generalizing text with
  | nil => exact ⟨text, rfl, same⟩
  | cons head tail ih =>
      cases text with
      | nil =>
          have width := congrArg List.length same
          have positive := Char.utf8Size_pos head
          rw [List.length_append, utf8_bytes_length, byte_length_cons] at width
          simp only [utf8Bytes, List.flatMap_nil, List.length_nil] at width
          omega
      | cons first others =>
          have left' : utf8Bytes (head :: tail) ++ more =
              String.utf8EncodeChar head ++ (utf8Bytes tail ++ more) := by
            simp [utf8Bytes]
          have right' : utf8Bytes (first :: others) =
              String.utf8EncodeChar first ++ utf8Bytes others := by
            simp [utf8Bytes]
          rw [left', right'] at same
          have decoded := decode_first head (utf8Bytes tail ++ more)
          rw [same, decode_first first] at decoded
          cases decoded
          obtain ⟨right, split, rest⟩ := ih others (List.append_cancel_left same)
          exact ⟨right, by rw [split, List.cons_append], rest⟩

theorem encoding_last (char : Char) (front : List UInt8) (last : UInt8)
    (encoded : String.utf8EncodeChar char = front ++ [last]) (low : last.toNat < 128) :
    front = [] := by
  have value : char.val.toNat = char.toNat := rfl
  by_cases single : char.toNat ≤ 127
  · have width := congrArg List.length encoded
    simp only [String.utf8EncodeChar, value, single, ↓reduceIte, List.length_append,
      List.length_singleton] at width
    exact List.length_eq_zero_iff.mp (by omega)
  · exfalso
    have ends := congrArg List.getLast? encoded
    have lastByte : (front ++ [last]).getLast? = some last := by simp
    simp only [String.utf8EncodeChar, value, single, ↓reduceIte, lastByte] at ends
    have continuation : ∃ bits, last = UInt8.ofNat (bits % 64 + 128) := by
      split at ends
      · exact ⟨_, (Option.some.inj ends).symm⟩
      · split at ends
        · exact ⟨_, (Option.some.inj ends).symm⟩
        · exact ⟨_, (Option.some.inj ends).symm⟩
    obtain ⟨bits, rfl⟩ := continuation
    rw [UInt8.toNat_ofNat'] at low
    omega

theorem utf8_bytes_zeros (count : Nat) (bytes : List UInt8) (text : List Char)
    (same : bytes ++ List.replicate count 0 = utf8Bytes text) :
    ∃ front, bytes = utf8Bytes front := by
  induction count generalizing text with
  | zero => exact ⟨text, by simpa using same⟩
  | succ count ih =>
      rw [List.replicate_succ', ← List.append_assoc] at same
      rcases List.eq_nil_or_concat text with rfl | ⟨init, last, rfl⟩
      · simp [utf8Bytes] at same
      · rw [List.concat_eq_append, utf8_bytes_append] at same
        have lastBytes : utf8Bytes [last] = String.utf8EncodeChar last := by simp [utf8Bytes]
        have nonempty : String.utf8EncodeChar last ≠ [] := by
          intro none
          have width := congrArg List.length none
          have positive := Char.utf8Size_pos last
          rw [String.length_utf8EncodeChar, List.length_nil] at width
          omega
        obtain ⟨front, byte, encoded⟩ : ∃ front byte,
            String.utf8EncodeChar last = front ++ [byte] :=
          ⟨_, _, (List.dropLast_concat_getLast nonempty).symm⟩
        rw [lastBytes, encoded, ← List.append_assoc] at same
        obtain ⟨earlier, final⟩ := List.append_inj' same rfl
        have zero : byte = 0 := (List.cons.inj final).1.symm
        subst byte
        have alone := encoding_last last front 0 encoded (by decide)
        subst front
        rw [List.append_nil] at earlier
        exact ih init earlier

theorem from_utf8_zeros (bytes : List UInt8) (count : Nat) :
    fromUtf8 (bytes ++ List.replicate count 0) =
      (fromUtf8 bytes).map fun text =>
        String.ofList (text.toList ++ List.replicate count '\x00') := by
  cases read : fromUtf8 bytes with
  | some text =>
      rw [from_utf8_some bytes text read, ← utf8_bytes_nul, ← utf8_bytes_append, from_utf8_bytes]
      rfl
  | none =>
      cases padded : fromUtf8 (bytes ++ List.replicate count 0) with
      | none => rfl
      | some text =>
          obtain ⟨front, same⟩ := utf8_bytes_zeros count bytes text.toList
            (from_utf8_some _ text padded)
          rw [same, from_utf8_bytes] at read
          cases read

def isAscii (byte : UInt8) : Bool := byte.toNat < 128

def asciiText (bytes : List UInt8) : List Char := bytes.map fun byte => Char.ofNat byte.toNat

theorem ascii_text_bytes (bytes : List UInt8) (ascii : bytes.all isAscii = true) :
    utf8Bytes (asciiText bytes) = bytes := by
  induction bytes with
  | nil => rfl
  | cons byte rest ih =>
      simp only [List.all_cons, Bool.and_eq_true] at ascii
      have low : byte.toNat < 128 := of_decide_eq_true ascii.1
      have table : ∀ code < 128, (Char.ofNat code).toNat = code := by decide
      have code := table byte.toNat low
      have encoded : String.utf8EncodeChar (Char.ofNat byte.toNat) = [byte] := by
        have value : (Char.ofNat byte.toNat).val.toNat = byte.toNat := code
        have small : byte.toNat ≤ 127 := by omega
        simp [String.utf8EncodeChar, value, small]
      have later := ih ascii.2
      simp only [utf8Bytes, asciiText, List.map_cons, List.flatMap_cons, encoded] at later ⊢
      rw [later]
      rfl

theorem from_utf8_ascii (bytes : List UInt8) (ascii : bytes.all isAscii = true) :
    fromUtf8 bytes = some (String.ofList (asciiText bytes)) := by
  have read := from_utf8_bytes (asciiText bytes)
  rwa [ascii_text_bytes bytes ascii] at read

theorem first_high_byte (bytes : List UInt8) (mixed : bytes.all isAscii = false) :
    ∃ front last rest, bytes = front ++ last :: rest ∧ front.all isAscii = true ∧
      isAscii last = false := by
  induction bytes with
  | nil => cases mixed
  | cons byte tail ih =>
      by_cases low : isAscii byte = true
      · rw [List.all_cons, low, Bool.true_and] at mixed
        obtain ⟨front, last, rest, rfl, ascii, high⟩ := ih mixed
        exact ⟨byte :: front, last, rest, rfl, by simp [low, ascii], high⟩
      · exact ⟨[], byte, tail, rfl, rfl, by simpa using low⟩

/-- ASCII bytes and then one byte that is not ASCII are no text. -/
theorem from_utf8_cut (bytes : List UInt8) (last : UInt8) (ascii : bytes.all isAscii = true)
    (high : isAscii last = false) : fromUtf8 (bytes ++ [last]) = none := by
  cases read : fromUtf8 (bytes ++ [last]) with
  | none => rfl
  | some text =>
      exfalso
      have same := from_utf8_some _ text read
      rw [← ascii_text_bytes bytes ascii] at same
      obtain ⟨right, _, single⟩ := utf8_bytes_prefix _ _ _ same
      cases right with
      | nil => simp [utf8Bytes] at single
      | cons char others =>
          have width := congrArg List.length single
          rw [utf8_bytes_length, byte_length_cons, List.length_singleton] at width
          have size := Char.utf8Size_pos char
          have bound := UInt32.le_iff_toNat_le.mp (Char.utf8Size_eq_one_iff.mp
            (show char.utf8Size = 1 by omega))
          have limit : (127 : UInt32).toNat = 127 := rfl
          have only := String.utf8EncodeChar_eq_singleton (c := char) (by omega)
          simp only [utf8Bytes, List.flatMap_cons, only, List.singleton_append,
            List.cons.injEq] at single
          have byte : last.toNat = char.val.toNat := by
            rw [single.1, UInt32.toNat_toUInt8]
            omega
          have low := of_decide_eq_false high
          omega

/-- `char::is_whitespace`, the Unicode property White_Space. -/
def isWhitespace (char : Char) : Bool :=
  let code := char.toNat
  (9 ≤ code && code ≤ 13) || code == 32 || code == 133 || code == 160 || code == 5760 ||
    (8192 ≤ code && code ≤ 8202) || code == 8232 || code == 8233 || code == 8239 ||
    code == 8287 || code == 12288

/-- The words of a text, `word` being the reversed word under construction. -/
def wordsFrom (word : List Char) : List Char → List (List Char)
  | [] => if word.isEmpty then [] else [word.reverse]
  | head :: tail =>
      if isWhitespace head then
        if word.isEmpty then wordsFrom [] tail else word.reverse :: wordsFrom [] tail
      else wordsFrom (head :: word) tail

def splitWhitespace (text : String) : List String :=
  (wordsFrom [] text.toList).map String.ofList

/-- `str::to_lowercase` on ASCII letters. Characters outside ASCII are left
alone: none of them lowercases to a text made of `a`-`f` or of the letters of
an ASCII command word, so comparisons with those give the same answer. -/
def toLowercase (text : List Char) : List Char := text.map Char.toLower

/-- `str::to_uppercase` on ASCII letters. -/
def toUppercase (text : List Char) : List Char := text.map Char.toUpper

def contains (text pattern : List Char) : Bool :=
  text.tails.any fun rest => pattern.isPrefixOf rest

theorem contains_iff (text pattern : List Char) :
    contains text pattern = true ↔ pattern <:+: text := by
  simp only [contains, List.any_eq_true, List.isPrefixOf_iff_prefix, List.mem_tails]
  constructor
  · rintro ⟨rest, inside, starts⟩
    exact starts.isInfix.trans inside.isInfix
  · intro within
    rcases List.infix_iff_prefix_suffix.mp within with ⟨rest, starts, inside⟩
    exact ⟨rest, inside, starts⟩

theorem contains_taken_iff (front start back : List Char) (last : Char)
    (fresh : last ∉ front ++ start) (count : Nat) :
    contains ((front ++ (start ++ last :: back)).take count) (start ++ [last]) = true ↔
      front.length + start.length < count := by
  rw [contains_iff, ← List.append_assoc, ← List.length_append]
  constructor
  · intro found
    by_contra few
    have member : last ∈ ((front ++ start) ++ last :: back).take count :=
      found.subset (List.mem_append_right start List.mem_cons_self)
    rw [List.take_append_of_le_length (Nat.le_of_not_lt few)] at member
    exact fresh (List.mem_of_mem_take member)
  · intro reached
    have whole : ((front ++ start) ++ last :: back).take count =
        front ++ (start ++ [last]) ++ back.take (count - (front ++ start).length - 1) := by
      rcases Nat.exists_eq_add_of_lt reached with ⟨more, rfl⟩
      rw [Nat.add_assoc, List.take_length_add_append]
      simp [List.take_succ_cons]
    rw [whole]
    exact List.infix_append _ _ _

/-- `str::parse::<u32>`: an optional `+`, then at least one decimal digit, and
a value that fits. -/
def parseU32 (text : String) : Option UInt32 :=
  let digits := match text.toList with
    | '+' :: rest => rest
    | chars => chars
  if digits.isEmpty || !digits.all Char.isDigit then none
  else
    let value := digits.foldl (fun value digit => 10 * value + (digit.toNat - 48)) 0
    if value < 2 ^ 32 then some (UInt32.ofNat value) else none

/-- One character of a `{:?}`-quoted string. `escaped` stands for the Unicode
tables that mark a character as unprintable or combining. -/
def debugChar (escaped : Char → Bool) (char : Char) : List Char :=
  if char = '"' then ['\\', '"']
  else if char = '\\' then ['\\', '\\']
  else if char = '\n' then ['\\', 'n']
  else if char = '\r' then ['\\', 'r']
  else if char = '\t' then ['\\', 't']
  else if char.toNat = 0 then ['\\', '0']
  else if char.toNat < 32 || char.toNat == 127 || (128 ≤ char.toNat && escaped char) then
    ['\\', 'u', Char.ofNat 123] ++ Nat.toDigits 16 char.toNat ++ [Char.ofNat 125]
  else [char]

/-- `{:?}` of a string. -/
def debugText (escaped : Char → Bool) (text : String) : String :=
  String.ofList ('"' :: text.toList.flatMap (debugChar escaped) ++ ['"'])

end RustText
