import TelcoVecchio.SmsUtils

/-!
A message written by `encode_message` and read back by `decode_message`. The
reader returns the text and, after a septet count of seven modulo eight, one
more `@` from the filler; `truncate` then counts bytes where the caller counts
septets, so the trip ends where it began only when the two counts allow it.
-/

namespace TelcoVecchio.MessageRoundTrip

open Common SmsUtils

def RoundTrips (gsm7 : Gsm7) (text : String) : Prop :=
  ∃ encoded, encodeMessage gsm7 text = .ok encoded ∧
    decodeMessage gsm7 encoded (Gsm0338.septetCount text.toList) = .ok text

def CountsAgree (text : String) : Prop :=
  text.utf8ByteSize = Gsm0338.septetCount text.toList ∨
    (text.utf8ByteSize < Gsm0338.septetCount text.toList ∧
      Gsm0338.septetCount text.toList % 8 ≠ 7)

/-- What `decode_message` reads back before it truncates. -/
def readBack (text : List Char) : List Char :=
  text ++ if Gsm0338.septetCount text % 8 = 7 then ['@'] else []

theorem decode_packed_octets (gsm7 : Gsm7) (documented : gsm7.Documented) (text : List Char)
    (units : List Nat) (spelled : Gsm0338.encodeText text = some units) (octets : List UInt8)
    (packs : SeptetPacking.Packs units octets) (size : Nat) :
    decodeMessage gsm7 (RustText.toUppercase (HexText.encode octets)) size =
      match RustText.truncateBytes (readBack text) size with
      | none => .panic
      | some kept => .ok (String.ofList kept) := by
  have unpacked := Gsm0338.decode_packed text units spelled
  rw [← packs.2] at unpacked
  have read := documented.reads octets _ unpacked
  simp only [decodeMessage, HexText.encode_upper_lower, HexText.decode_encode, read]
  rfl

theorem decode_encoded (gsm7 : Gsm7) (documented : gsm7.Documented) (text : String)
    (alphabet : ∀ char ∈ text.toList, Gsm0338.inAlphabet char = true) (size : Nat) :
    ∃ encoded, encodeMessage gsm7 text = .ok encoded ∧
      decodeMessage gsm7 encoded size =
        match RustText.truncateBytes (readBack text.toList) size with
        | none => .panic
        | some kept => .ok (String.ofList kept) := by
  obtain ⟨units, written⟩ := Option.isSome_iff_exists.mp
    ((Gsm0338.encode_text_isSome text.toList).mpr alphabet)
  obtain ⟨octets, packed, packs⟩ := documented.writes text units written
  exact ⟨RustText.toUppercase (HexText.encode octets), by simp only [encodeMessage, packed],
    decode_packed_octets gsm7 documented text.toList units written octets packs size⟩

/-- Cutting what is read back at the septet count leaves the text exactly when
the counts agree. -/
theorem truncate_read_back_iff (text : List Char) (septets : Nat)
    (counted : Gsm0338.septetCount text = septets) :
    RustText.truncateBytes (readBack text) septets = some text ↔
      RustText.byteLength text = septets ∨
        (RustText.byteLength text < septets ∧ septets % 8 ≠ 7) := by
  rw [RustText.truncate_some_iff, readBack, counted]
  have at' : RustText.byteLength ['@'] = 1 := by decide
  constructor
  · rintro (⟨rest, _, width⟩ | ⟨short, same⟩)
    · exact Or.inl width
    -- kept whole: the filler's `@` must not be there
    · by_cases filler : septets % 8 = 7
      · simp [filler] at same
      · simp only [filler, ↓reduceIte, List.append_nil] at short
        exact Or.inr ⟨short, filler⟩
  · rintro (width | ⟨short, filler⟩)
    · exact Or.inl ⟨_, rfl, width⟩
    · simp [filler, short]

/-- For every text of the alphabet, of any length, the round trip succeeds if
and only if the counts agree. -/
theorem round_trips_iff (gsm7 : Gsm7) (documented : gsm7.Documented) (text : String)
    (alphabet : ∀ char ∈ text.toList, Gsm0338.inAlphabet char = true) :
    RoundTrips gsm7 text ↔ CountsAgree text := by
  obtain ⟨encoded, written, decoded⟩ := decode_encoded gsm7 documented text alphabet
    (Gsm0338.septetCount text.toList)
  rw [CountsAgree, RustText.utf8_byte_size_eq, ← truncate_read_back_iff text.toList _ rfl]
  constructor
  · rintro ⟨found, again, trip⟩
    rw [written] at again
    cases again
    rw [decoded] at trip
    split at trip
    case h_1 => cases trip
    case h_2 kept cut =>
      cases trip
      rw [cut, String.toList_ofList]
  · intro cut
    refine ⟨encoded, written, ?_⟩
    rw [decoded, cut]
    simp only [String.ofList_toList]

theorem status_round_trips : RoundTrips Gsm7.standard "status" :=
  (round_trips_iff Gsm7.standard standard_documented "status"
    (List.all_eq_true.mp (by decide))).mpr (Or.inl (by decide))

theorem accent_does_not_round_trip : ¬ ∀ gsm7 text, Gsm7.Documented gsm7 →
    (∀ char ∈ text.toList, Gsm0338.inAlphabet char = true) →
    Gsm0338.septetCount text.toList ≤ 160 → RoundTrips gsm7 text := by
  intro trips
  have alphabet : ∀ char ∈ "é".toList, Gsm0338.inAlphabet char = true :=
    List.all_eq_true.mp (by decide)
  have trip := trips Gsm7.standard "é" standard_documented alphabet (by decide)
  have counts := (round_trips_iff Gsm7.standard standard_documented "é" alphabet).mp trip
  exact absurd counts (by unfold CountsAgree; decide)

end TelcoVecchio.MessageRoundTrip
