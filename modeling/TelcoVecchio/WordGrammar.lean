import TelcoVecchio.RustText

/-!
What `split_whitespace` and `parse::<u32>` read, as grammars. A text is a row
of words when blanks stand around them and at least one between any two; a
numeral is an optional plus sign and decimal digits, leading zeros allowed.
-/

namespace WordGrammar

open RustText

def Blank (text : List Char) : Prop := ∀ char ∈ text, isWhitespace char = true

structure Word (word : List Char) : Prop where
  nonempty : word ≠ []
  solid : ∀ char ∈ word, isWhitespace char = false

/-- The text does not continue the word in front of it. -/
def Breaks (text : List Char) : Prop := ∀ char ∈ text.head?, isWhitespace char = true

inductive Spaced : List (List Char) → List Char → Prop where
  | blank (text : List Char) (blank : Blank text) : Spaced [] text
  | word (front word text : List Char) (words : List (List Char)) (blank : Blank front)
      (isWord : Word word) (breaks : Breaks text) (rest : Spaced words text) :
      Spaced (word :: words) (front ++ (word ++ text))

theorem words_from_blank (front text : List Char) (blank : Blank front) :
    wordsFrom [] (front ++ text) = wordsFrom [] text := by
  induction front with
  | nil => rfl
  | cons head tail ih =>
      have later := ih fun char member => blank char (List.mem_cons_of_mem head member)
      simp [wordsFrom, blank head List.mem_cons_self, later]

theorem words_from_solid (seen word text : List Char)
    (solid : ∀ char ∈ word, isWhitespace char = false) :
    wordsFrom seen (word ++ text) = wordsFrom (word.reverse ++ seen) text := by
  induction word generalizing seen with
  | nil => rfl
  | cons head tail ih =>
      have later := ih (head :: seen) fun char member => solid char (List.mem_cons_of_mem head member)
      simp [wordsFrom, solid head List.mem_cons_self, later]

theorem words_from_break (seen text : List Char) (begun : seen ≠ []) (breaks : Breaks text) :
    wordsFrom seen text = seen.reverse :: wordsFrom [] text := by
  have some : seen.isEmpty = false := by simpa using begun
  cases text with
  | nil => simp [wordsFrom, some]
  | cons head tail =>
      have blank : isWhitespace head = true := breaks head rfl
      simp [wordsFrom, blank, some]

theorem spaced_words {words : List (List Char)} {text : List Char} (spaced : Spaced words text) :
    wordsFrom [] text = words := by
  induction spaced with
  | blank text blank =>
      have read := words_from_blank text [] blank
      rw [List.append_nil] at read
      exact read
  | word front word text words blank isWord breaks _ ih =>
      have begun : word.reverse ++ [] ≠ [] := by simpa using isWord.nonempty
      rw [words_from_blank front _ blank, words_from_solid [] word text isWord.solid,
        words_from_break _ text begun breaks, ih]
      simp

theorem spaced_exists (text : List Char) : ∃ words, Spaced words text := by
  induction width : text.length using Nat.strongRecOn generalizing text with
  | ind size ih =>
      let front := text.takeWhile isWhitespace
      let behind := text.dropWhile isWhitespace
      have split : text = front ++ behind := (List.takeWhile_append_dropWhile).symm
      have blank : Blank front := fun char member => List.all_eq_true.mp List.all_takeWhile char member
      -- past the white space there is nothing, or a word that goes as far as it can
      cases first : behind with
      | nil =>
          rw [split, first, List.append_nil]
          exact ⟨[], .blank front blank⟩
      | cons head tail =>
          let isSolid := fun char => !isWhitespace char
          let word := behind.takeWhile isSolid
          let rest := behind.dropWhile isSolid
          have solidHead : isSolid head = true := by
            have stopped := List.head?_dropWhile_not isWhitespace text
            simp only [behind] at first
            simpa [first, isSolid] using stopped
          have isWord : Word word := by
            constructor
            · simp [word, first, solidHead]
            · intro char member
              have passed : isSolid char = true :=
                List.all_eq_true.mp List.all_takeWhile char member
              simpa [isSolid] using passed
          have breaks : Breaks rest := by
            intro char member
            have stopped := List.head?_dropWhile_not isSolid behind
            simp only [rest] at member
            simpa [Option.mem_def.mp member, isSolid] using stopped
          have again : behind = word ++ rest := (List.takeWhile_append_dropWhile).symm
          have shorter : rest.length < size := by
            have positive := List.length_pos_of_ne_nil isWord.nonempty
            have total := congrArg List.length split
            rw [again] at total
            simp only [List.length_append] at total
            omega
          rcases ih rest.length shorter rest rfl with ⟨words, spaced⟩
          rw [split, again]
          exact ⟨word :: words, .word front word rest words blank isWord breaks spaced⟩

theorem split_whitespace_iff (text : String) (words : List String) :
    splitWhitespace text = words ↔ Spaced (words.map String.toList) text.toList := by
  have texts : ∀ words : List (List Char), (words.map String.ofList).map String.toList = words := by
    intro words
    simp [Function.comp_def]
  constructor
  · rintro rfl
    rcases spaced_exists text.toList with ⟨found, spaced⟩
    rw [splitWhitespace, spaced_words spaced, texts]
    exact spaced
  · intro spaced
    rw [splitWhitespace, spaced_words spaced]
    simp [Function.comp_def]

theorem spaced_cons (word text : List Char) (words : List (List Char)) (isWord : Word word)
    (rest : Spaced words text) : Spaced (word :: words) (word ++ ' ' :: text) := by
  have blank : isWhitespace ' ' = true := rfl
  have pushed : Spaced words (' ' :: text) := by
    cases rest with
    | blank text quiet =>
        exact .blank _ fun char member => by
          rcases List.mem_cons.mp member with rfl | later
          · exact blank
          · exact quiet char later
    | word front word text words quiet isWord breaks rest =>
        have longer : Blank (' ' :: front) := fun char member => by
          rcases List.mem_cons.mp member with rfl | later
          · exact blank
          · exact quiet char later
        exact .word (' ' :: front) word text words longer isWord breaks rest
  have apart : Breaks (' ' :: text) := by
    intro char member
    cases member
    exact blank
  exact .word [] word (' ' :: text) words (by simp [Blank]) isWord apart pushed

theorem spaced_single (word : List Char) (isWord : Word word) : Spaced [word] word := by
  have single : Spaced [word] ([] ++ (word ++ [])) :=
    .word [] word [] [] (by simp [Blank]) isWord (by simp [Breaks]) (.blank [] (by simp [Blank]))
  simpa using single

def Numeral (value : Nat) (text : List Char) : Prop :=
  ∃ sign digits, text = sign ++ digits ∧ (sign = [] ∨ sign = ['+']) ∧ digits ≠ [] ∧
    (∀ digit ∈ digits, digit.isDigit = true) ∧ Nat.ofDigitChars 10 digits 0 = value

theorem parse_digits (digits : List Char) (number : UInt32) :
    (if digits.isEmpty || !digits.all Char.isDigit then none
      else
        let value := digits.foldl (fun value digit => 10 * value + (digit.toNat - 48)) 0
        if value < 2 ^ 32 then some (UInt32.ofNat value) else none) = some number ↔
      digits ≠ [] ∧ (∀ digit ∈ digits, digit.isDigit = true) ∧
        Nat.ofDigitChars 10 digits 0 = number.toNat := by
  have read : digits.foldl (fun value digit => 10 * value + (digit.toNat - 48)) 0 =
      Nat.ofDigitChars 10 digits 0 := rfl
  have bound := number.toNat_lt
  by_cases legal : digits ≠ [] ∧ ∀ digit ∈ digits, digit.isDigit = true
  · have guard : (digits.isEmpty || !digits.all Char.isDigit) = false := by
      simpa using legal
    simp only [guard, Bool.false_eq_true, ↓reduceIte, read]
    constructor
    · intro found
      split at found
      · next fits =>
          rw [← Option.some.inj found, UInt32.toNat_ofNat_of_lt' fits]
          exact ⟨legal.1, legal.2, rfl⟩
      · cases found
    · rintro ⟨_, _, value⟩
      rw [value, if_pos bound, UInt32.ofNat_toNat]
  · have guard : (digits.isEmpty || !digits.all Char.isDigit) = true := by
      by_contra closed
      exact legal (by simpa using closed)
    simp only [guard, ↓reduceIte, reduceCtorEq, false_iff]
    rintro ⟨some, decimal, _⟩
    exact legal ⟨some, decimal⟩

theorem parse_u32_iff (text : String) (number : UInt32) :
    parseU32 text = some number ↔ Numeral number.toNat text.toList := by
  have plus : Char.isDigit '+' = false := rfl
  rw [parseU32]
  split
  · next rest signed =>
      rw [parse_digits, signed]
      constructor
      · intro read
        exact ⟨['+'], rest, rfl, Or.inr rfl, read⟩
      · rintro ⟨sign, digits, same, rfl | rfl, read⟩
        · rw [List.nil_append] at same
          subst digits
          rw [read.2.1 '+' List.mem_cons_self] at plus
          cases plus
        · rw [List.singleton_append, List.cons.injEq] at same
          rw [same.2]
          exact read
  · next chars unsigned =>
      rw [parse_digits]
      constructor
      · intro read
        exact ⟨[], text.toList, rfl, Or.inl rfl, read⟩
      · rintro ⟨sign, digits, same, rfl | rfl, read⟩
        · rw [same]
          exact read
        · exact absurd same (unsigned digits)

theorem to_string_u32 (number : UInt32) : (toString number).toList = Nat.toDigits 10 number.toNat := by
  change (toString number.toNat).toList = _
  rw [Nat.toString_eq_ofList_toDigits, String.toList_ofList]

theorem decimal_numeral (number : Nat) : Numeral number (Nat.toDigits 10 number) :=
  ⟨[], Nat.toDigits 10 number, rfl, Or.inl rfl, Nat.toDigits_ne_nil,
    fun _ member => Nat.isDigit_of_mem_toDigits (by decide) (by decide) member,
    Nat.ofDigitChars_ten_toDigits⟩

theorem parse_to_string (number : UInt32) : parseU32 (toString number) = some number := by
  rw [parse_u32_iff, to_string_u32]
  exact decimal_numeral number.toNat

theorem to_string_digits (number : UInt32) :
    ∀ char ∈ (toString number).toList, char.isDigit = true := by
  intro char member
  rw [to_string_u32] at member
  exact Nat.isDigit_of_mem_toDigits (by decide) (by decide) member

theorem decimal_word (number : UInt32) : Word (toString number).toList := by
  constructor
  · rw [to_string_u32]
    exact Nat.toDigits_ne_nil
  intro char member
  have digit := to_string_digits number char member
  have low : 48 ≤ char.toNat ∧ char.toNat ≤ 57 := by
    simpa [Char.isDigit, UInt32.le_iff_toNat_le] using digit
  simp only [isWhitespace, Bool.or_eq_false_iff, Bool.and_eq_false_iff, decide_eq_false_iff_not,
    beq_eq_false_iff_ne]
  omega

end WordGrammar
