import Mathlib.Data.List.Basic
import Mathlib.Algebra.Group.Nat.Defs

/-!
Packing of 7-bit units into octets, least significant bit first, the last
octet filled with zero bits. Unpacking takes every complete unit that the
octets hold, so seven spare bits come back as one more unit, the zero one.
-/

namespace SeptetPacking

def toBits : Nat → Nat → List Bool
  | 0, _ => []
  | width + 1, value => (value % 2 == 1) :: toBits width (value / 2)

def ofBits : List Bool → Nat
  | [] => 0
  | bit :: rest => bit.toNat + 2 * ofBits rest

@[simp] theorem to_bits_length (width value : Nat) : (toBits width value).length = width := by
  induction width generalizing value with
  | zero => rfl
  | succ width ih => simp [toBits, ih]

theorem of_bits_to_bits (width value : Nat) : ofBits (toBits width value) = value % 2 ^ width := by
  induction width generalizing value with
  | zero => simp [toBits, ofBits, Nat.mod_one]
  | succ width ih =>
      have bit : (value % 2 == 1).toNat = value % 2 := by
        rcases Nat.mod_two_eq_zero_or_one value with parity | parity <;> simp [parity]
      rw [toBits, ofBits, ih, bit, Nat.pow_succ, Nat.mul_comm (2 ^ width) 2, Nat.mod_mul]

theorem to_bits_of_bits (bits : List Bool) : toBits bits.length (ofBits bits) = bits := by
  induction bits with
  | nil => rfl
  | cons bit rest ih =>
      have low : (bit.toNat + 2 * ofBits rest) % 2 = bit.toNat := by
        cases bit <;> simp
      have high : (bit.toNat + 2 * ofBits rest) / 2 = ofBits rest := by
        cases bit <;> simp only [Bool.toNat_false, Bool.toNat_true] <;> omega
      rw [List.length_cons, ofBits, toBits, low, high, ih]
      cases bit <;> rfl

theorem of_bits_lt (bits : List Bool) : ofBits bits < 2 ^ bits.length := by
  induction bits with
  | nil => exact Nat.one_pos
  | cons bit rest ih =>
      have atMost := Bool.toNat_le bit
      rw [ofBits, List.length_cons, Nat.pow_succ]
      omega

section Chunks
variable {Item Source : Type}

/-- The first `count` groups of `width` items. -/
def chunks (width : Nat) : Nat → List Item → List (List Item)
  | 0, _ => []
  | count + 1, items => items.take width :: chunks width count (items.drop width)

theorem chunks_flatten (width count : Nat) (items : List Item)
    (exact : items.length = width * count) : (chunks width count items).flatten = items := by
  induction count generalizing items with
  | zero => simpa [chunks] using (List.length_eq_zero_iff.mp (by simpa using exact)).symm
  | succ count ih =>
      have remaining : (items.drop width).length = width * count := by
        rw [List.length_drop, exact, Nat.mul_succ]
        omega
      rw [chunks, List.flatten_cons, ih _ remaining, List.take_append_drop]

theorem chunks_length_eq (width count : Nat) (items : List Item)
    (enough : width * count ≤ items.length) (chunk : List Item)
    (member : chunk ∈ chunks width count items) : chunk.length = width := by
  induction count generalizing items with
  | zero => simp [chunks] at member
  | succ count ih =>
      rw [Nat.mul_succ] at enough
      rcases List.mem_cons.mp member with rfl | later
      · rw [List.length_take]
        omega
      · exact ih (items.drop width) (by rw [List.length_drop]; omega) later

@[simp] theorem chunks_length (width count : Nat) (items : List Item) :
    (chunks width count items).length = count := by
  induction count generalizing items with
  | zero => rfl
  | succ count ih => simp [chunks, ih]

theorem chunks_flat_map (width : Nat) (render : Source → List Item)
    (uniform : ∀ source, (render source).length = width) (sources : List Source)
    (extra : Nat) (rest : List Item) :
    chunks width (sources.length + extra) (sources.flatMap render ++ rest) =
      sources.map render ++ chunks width extra rest := by
  induction sources with
  | nil => simp
  | cons source sources ih =>
      have next : (source :: sources).length + extra = (sources.length + extra) + 1 := by
        simp only [List.length_cons]
        omega
      have taken : ((source :: sources).flatMap render ++ rest).take width = render source := by
        rw [List.flatMap_cons, List.append_assoc, ← uniform source, List.take_left]
      have dropped : ((source :: sources).flatMap render ++ rest).drop width =
          sources.flatMap render ++ rest := by
        rw [List.flatMap_cons, List.append_assoc, ← uniform source, List.drop_left]
      rw [next, chunks, taken, dropped, ih, List.map_cons, List.cons_append]

end Chunks

def padding (septets : Nat) : Nat := (8 - 7 * septets % 8) % 8

def bitsOf (septets : List Nat) : List Bool :=
  septets.flatMap (toBits 7) ++ List.replicate (padding septets.length) false

def pack (septets : List Nat) : List UInt8 :=
  (chunks 8 ((bitsOf septets).length / 8) (bitsOf septets)).map fun bits => UInt8.ofNat (ofBits bits)

def unpack (octets : List UInt8) : List Nat :=
  let bits := octets.flatMap fun octet => toBits 8 octet.toNat
  (chunks 7 (bits.length / 7) bits).map ofBits

/-- As many octets as the septets take, holding what zero fill holds. A bit that
is left over behind the last complete septet is free. -/
def Packs (septets : List Nat) (octets : List UInt8) : Prop :=
  octets.length = (pack septets).length ∧ unpack octets = unpack (pack septets)

@[simp] theorem flat_map_to_bits_length (septets : List Nat) :
    (septets.flatMap (toBits 7)).length = 7 * septets.length := by
  induction septets with
  | nil => rfl
  | cons septet rest ih =>
      simp only [List.flatMap_cons, List.length_append, to_bits_length, ih, List.length_cons]
      omega

theorem bits_of_length (septets : List Nat) :
    (bitsOf septets).length = 7 * septets.length + padding septets.length := by
  rw [bitsOf, List.length_append, flat_map_to_bits_length, List.length_replicate]

theorem bits_of_octets (septets : List Nat) : (bitsOf septets).length % 8 = 0 := by
  rw [bits_of_length, padding]
  omega

theorem pack_length (septets : List Nat) :
    (pack septets).length = (7 * septets.length + 7) / 8 := by
  simp only [pack, List.length_map, chunks_length, bits_of_length, padding]
  omega

theorem octets_of_pack (septets : List Nat) :
    (pack septets).flatMap (fun octet => toBits 8 octet.toNat) = bitsOf septets := by
  have whole : (bitsOf septets).length = 8 * ((bitsOf septets).length / 8) := by
    have aligned := bits_of_octets septets
    omega
  have restored : ∀ bits ∈ chunks 8 ((bitsOf septets).length / 8) (bitsOf septets),
      toBits 8 (UInt8.ofNat (ofBits bits)).toNat = bits := by
    intro bits member
    have width := chunks_length_eq 8 _ _ (Nat.le_of_eq whole.symm) bits member
    have small := of_bits_lt bits
    rw [width] at small
    have value : (UInt8.ofNat (ofBits bits)).toNat = ofBits bits := by
      rw [UInt8.toNat_ofNat']
      exact Nat.mod_eq_of_lt small
    rw [value, ← width]
    exact to_bits_of_bits bits
  rw [pack, List.flatMap_map, List.flatMap_congr restored, List.flatMap_id']
  exact chunks_flatten 8 _ _ whole

/-- Unpacking gives the units back, and the zero unit after them exactly when
seven filler bits were needed. -/
theorem unpack_pack (septets : List Nat) (small : ∀ septet ∈ septets, septet < 128) :
    unpack (pack septets) = septets ++ (if septets.length % 8 = 7 then [0] else []) := by
  have extraUnits : (bitsOf septets).length / 7 =
      septets.length + padding septets.length / 7 := by
    rw [bits_of_length]
    omega
  have restored : septets.map (fun septet => ofBits (toBits 7 septet)) = septets := by
    rw [List.map_congr_left (g := id), List.map_id]
    intro septet member
    rw [of_bits_to_bits]
    exact Nat.mod_eq_of_lt (small septet member)
  rw [unpack, octets_of_pack]
  simp only [extraUnits]
  rw [bitsOf, chunks_flat_map 7 (toBits 7) (to_bits_length 7) septets, List.map_append,
    List.map_map]
  have filler : (chunks 7 (padding septets.length / 7)
      (List.replicate (padding septets.length) false)).map ofBits =
      if septets.length % 8 = 7 then [0] else [] := by
    by_cases full : septets.length % 8 = 7
    · have seven : padding septets.length = 7 := by
        rw [padding]
        omega
      simp [full, seven, chunks, ofBits]
    · have fewer : padding septets.length < 7 := by
        rw [padding]
        omega
      simp [full, Nat.div_eq_of_lt fewer, chunks]
  rw [filler]
  exact congrArg (· ++ _) restored

end SeptetPacking
