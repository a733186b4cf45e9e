import TelcoVecchio.RustText
import TelcoVecchio.SeptetPacking

/-!
The GSM 03.38 character tables. A default character is one septet; an
extension character is the escape septet followed by its code. The tables are
read in both directions, and a text that can be written is read back whatever
follows it.
-/

namespace Gsm0338

def escape : Nat := 27

/-- The default alphabet by septet; position 27 is the escape, not a character. -/
def defaultAlphabet : List (Option Char) :=
  ['@', '£', '$', '¥', 'è', 'é', 'ù', 'ì', 'ò', 'Ç', '\n', 'Ø', 'ø', '\r', 'Å', 'å', 'Δ', '_',
    'Φ', 'Γ', 'Λ', 'Ω', 'Π', 'Ψ', 'Σ', 'Θ', 'Ξ'].map some ++ none ::
  ['Æ', 'æ', 'ß', 'É', ' ', '!', '"', '#', '¤', '%', '&', '\x27', '(', ')', '*', '+', ',', '-',
    '.', '/', '0', '1', '2', '3', '4', '5', '6', '7', '8', '9', ':', ';', '<', '=', '>', '?',
    '¡', 'A', 'B', 'C', 'D', 'E', 'F', 'G', 'H', 'I', 'J', 'K', 'L', 'M', 'N', 'O', 'P', 'Q',
    'R', 'S', 'T', 'U', 'V', 'W', 'X', 'Y', 'Z', 'Ä', 'Ö', 'Ñ', 'Ü', '§', '¿', 'a', 'b', 'c',
    'd', 'e', 'f', 'g', 'h', 'i', 'j', 'k', 'l', 'm', 'n', 'o', 'p', 'q', 'r', 's', 't', 'u',
    'v', 'w', 'x', 'y', 'z', 'ä', 'ö', 'ñ', 'ü', 'à'].map some

def extension : List (Nat × Char) :=
  [(10, '\x0c'), (20, '^'), (40, '\x7b'), (41, '\x7d'), (47, '\\'), (60, '['), (61, '~'),
    (62, ']'), (64, '|'), (101, '€')]

def encodeChar (char : Char) : Option (List Nat) :=
  match defaultAlphabet.findIdx? (· == some char) with
  | some septet => some [septet]
  | none => (extension.find? (·.2 == char)).map fun entry => [escape, entry.1]

def encodeText : List Char → Option (List Nat)
  | [] => some []
  | head :: tail =>
      match encodeChar head, encodeText tail with
      | some units, some rest => some (units ++ rest)
      | _, _ => none

def inAlphabet (char : Char) : Bool := (encodeChar char).isSome

def septetCount (text : List Char) : Nat :=
  (text.map fun char => ((encodeChar char).getD []).length).sum

def defaultChar (septet : Nat) : Option Char := (defaultAlphabet[septet]?).join

def extensionChar (code : Nat) : Option Char := (extension.find? (·.1 == code)).map Prod.snd

/-- One character for each septet or escape pair. A trailing escape and an
unassigned code have no character. -/
def decodeSeptets : List Nat → Option (List Char)
  | [] => some []
  | [lone] => if lone = escape then none else (defaultChar lone).map ([·])
  | septet :: next :: rest =>
      if septet = escape then
        match extensionChar next, decodeSeptets rest with
        | some char, some tail => some (char :: tail)
        | _, _ => none
      else
        match defaultChar septet, decodeSeptets (next :: rest) with
        | some char, some tail => some (char :: tail)
        | _, _ => none

theorem default_alphabet_length : defaultAlphabet.length = 128 := by
  decide +kernel

theorem extension_codes_unique :
    ∀ entry ∈ extension, extensionChar entry.1 = some entry.2 ∧ entry.1 < 128 := by decide

theorem encode_char_cases (char : Char) (units : List Nat)
    (written : encodeChar char = some units) :
    (∃ septet, units = [septet] ∧ defaultChar septet = some char ∧ septet ≠ escape ∧
        septet < 128) ∨
      (∃ code, units = [escape, code] ∧ extensionChar code = some char ∧ code < 128) := by
  cases found : defaultAlphabet.findIdx? (· == some char) with
  | some septet =>
      simp only [encodeChar, found, Option.some.injEq] at written
      obtain ⟨inside, hit, _⟩ := List.findIdx?_eq_some_iff_getElem.mp found
      have present : defaultAlphabet[septet]? = some (some char) := by
        rw [List.getElem?_eq_getElem inside, beq_iff_eq.mp hit]
      refine Or.inl ⟨septet, written.symm, by simp [defaultChar, present], ?_, ?_⟩
      · rintro rfl
        have gap : defaultAlphabet[escape]? = some none := by decide
        rw [gap] at present
        cases present
      · exact default_alphabet_length ▸ inside
  | none =>
      simp only [encodeChar, found, Option.map_eq_some_iff] at written
      obtain ⟨entry, listed, rfl⟩ := written
      have hit := List.find?_some listed
      have same : entry.2 = char := by simpa using hit
      have unique := extension_codes_unique entry (List.mem_of_find?_eq_some listed)
      exact Or.inr ⟨entry.1, rfl, same ▸ unique.1, unique.2⟩

theorem decode_default (septet : Nat) (char : Char) (rest : List Nat)
    (assigned : defaultChar septet = some char) (plain : septet ≠ escape) :
    decodeSeptets (septet :: rest) = (decodeSeptets rest).map (char :: ·) := by
  cases rest with
  | nil => simp [decodeSeptets, plain, assigned]
  | cons next rest =>
      simp only [decodeSeptets, plain, ↓reduceIte, assigned]
      cases decodeSeptets (next :: rest) <;> rfl

theorem decode_extension (code : Nat) (char : Char) (rest : List Nat)
    (assigned : extensionChar code = some char) :
    decodeSeptets (escape :: code :: rest) = (decodeSeptets rest).map (char :: ·) := by
  simp only [decodeSeptets, ↓reduceIte, assigned]
  cases decodeSeptets rest <;> rfl

/-- Reading undoes writing, whatever septets follow the text. -/
theorem decode_encode_append (text : List Char) (units rest : List Nat)
    (written : encodeText text = some units) :
    decodeSeptets (units ++ rest) = (decodeSeptets rest).map (text ++ ·) := by
  induction text generalizing units with
  | nil =>
      simp only [encodeText, Option.some.injEq] at written
      subst units
      simp only [List.nil_append]
      exact Option.map_id'.symm
  | cons head tail ih =>
      cases first : encodeChar head with
      | none => simp [encodeText, first] at written
      | some headUnits =>
          cases later : encodeText tail with
          | none => simp [encodeText, first, later] at written
          | some tailUnits =>
              simp only [encodeText, first, later, Option.some.injEq] at written
              subst units
              have tailRead := ih tailUnits later
              rcases encode_char_cases head headUnits first with
                ⟨septet, rfl, assigned, plain, _⟩ | ⟨code, rfl, assigned, _⟩
              · rw [List.append_assoc, List.singleton_append, decode_default _ _ _ assigned plain,
                  tailRead, Option.map_map]
                rfl
              · rw [List.append_assoc, List.cons_append, List.singleton_append,
                  decode_extension _ _ _ assigned, tailRead, Option.map_map]
                rfl

theorem encode_text_septets (text : List Char) (units : List Nat)
    (written : encodeText text = some units) :
    units.length = septetCount text ∧ ∀ septet ∈ units, septet < 128 := by
  induction text generalizing units with
  | nil =>
      simp only [encodeText, Option.some.injEq] at written
      subst units
      simp [septetCount]
  | cons head tail ih =>
      cases first : encodeChar head with
      | none => simp [encodeText, first] at written
      | some headUnits =>
          cases later : encodeText tail with
          | none => simp [encodeText, first, later] at written
          | some tailUnits =>
              simp only [encodeText, first, later, Option.some.injEq] at written
              subst units
              obtain ⟨counted, bounded⟩ := ih tailUnits later
              constructor
              · rw [List.length_append, counted]
                simp [septetCount, first]
              · intro septet member
                rcases List.mem_append.mp member with inHead | inTail
                · rcases encode_char_cases head headUnits first with
                    ⟨only, rfl, _, _, small⟩ | ⟨code, rfl, _, small⟩
                  · rw [List.mem_singleton.mp inHead]
                    exact small
                  · rcases List.mem_cons.mp inHead with rfl | second
                    · decide
                    · rw [List.mem_singleton.mp second]
                      exact small
                · exact bounded septet inTail

theorem encode_text_isSome (text : List Char) :
    (encodeText text).isSome = true ↔ ∀ char ∈ text, inAlphabet char = true := by
  induction text with
  | nil => simp [encodeText]
  | cons head tail ih =>
      rw [List.forall_mem_cons, ← ih]
      cases first : encodeChar head with
      | none => simp [encodeText, inAlphabet, first]
      | some units =>
          cases later : encodeText tail <;> simp [encodeText, inAlphabet, first, later]

/-- Packing a text into octets and unpacking every complete septet reads the
text back, followed by `@` when seven filler bits made one more septet. -/
theorem decode_packed (text : List Char) (units : List Nat)
    (written : encodeText text = some units) :
    decodeSeptets (SeptetPacking.unpack (SeptetPacking.pack units)) =
      some (text ++ if septetCount text % 8 = 7 then ['@'] else []) := by
  obtain ⟨counted, small⟩ := encode_text_septets text units written
  rw [SeptetPacking.unpack_pack units small, decode_encode_append text units _ written, counted]
  by_cases full : septetCount text % 8 = 7
  · have filler : decodeSeptets [0] = some ['@'] := by decide
    simp [full, filler]
  · simp [full, decodeSeptets]

/-- The printable ASCII characters of the alphabet, and the line feed. The
backquote and the control characters are not in it. -/
def asciiMember (code : Nat) : Bool := (32 ≤ code && code ≤ 126 && code != 96) || code == 10

theorem in_alphabet_of_mem (char : Char)
    (listed : char ∈ defaultAlphabet.filterMap id ++ extension.map Prod.snd) :
    inAlphabet char = true := by
  cases found : defaultAlphabet.findIdx? (· == some char) with
  | some septet => simp [inAlphabet, encodeChar, found]
  | none =>
      have absent := List.findIdx?_eq_none_iff.mp found
      rcases List.mem_append.mp listed with default | extended
      · obtain ⟨entry, member, same⟩ := List.mem_filterMap.mp default
        have other := absent entry member
        simp only [id_eq] at same
        simp [same] at other
      · obtain ⟨entry, member, same⟩ := List.mem_map.mp extended
        have hit : (extension.find? (·.2 == char)).isSome = true :=
          List.find?_isSome.mpr ⟨entry, member, by simp [same]⟩
        simpa [inAlphabet, encodeChar, found] using hit

theorem ascii_in_alphabet (char : Char) (low : char.toNat < 128)
    (member : asciiMember char.toNat = true) : inAlphabet char = true := by
  -- compared as numbers, which the kernel does faster than characters
  have table : ∀ code < 128, asciiMember code = true →
      code ∈ (defaultAlphabet.filterMap id ++ extension.map Prod.snd).map Char.toNat := by
    decide +kernel
  obtain ⟨other, listed, same⟩ := List.mem_map.mp (table char.toNat low member)
  rw [Char.toNat_inj.mp same] at listed
  exact in_alphabet_of_mem char listed

theorem ascii_text_in_alphabet (text : String)
    (bytes : (text.toByteArray.data.toList.all fun byte =>
      decide (byte.toNat < 128) && asciiMember byte.toNat) = true) :
    ∀ char ∈ text.toList, inAlphabet char = true := by
  intro char member
  obtain ⟨low, ascii⟩ := RustText.ascii_text text asciiMember bytes char member
  exact ascii_in_alphabet char low ascii

end Gsm0338
