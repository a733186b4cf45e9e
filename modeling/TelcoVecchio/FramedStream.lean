import Mathlib.Data.List.Infix

/-!
A byte stream that carries whole messages with filler between them. Readers
take bytes from its front. A read that ends inside a message leaves the rest of
it on the stream as a fragment, so the messages that can still be read whole
are those that stand on the stream as such.
-/

namespace FramedStream

universe u v

inductive Piece (Message : Type u) (Byte : Type v) where
  | whole (message : Message)
  | filler (bytes : List Byte)
  | fragment (bytes : List Byte)

variable {Message : Type u} {Byte : Type v} (encode : Message → List Byte)

def Piece.bytes : Piece Message Byte → List Byte
  | .whole message => encode message
  | .filler bytes => bytes
  | .fragment bytes => bytes

def Piece.isFiller : Piece Message Byte → Bool
  | .filler _ => true
  | _ => false

/-- The piece cut after that many bytes; cut filler stays filler. -/
def Piece.cut (count : Nat) : Piece Message Byte → Piece Message Byte × Piece Message Byte
  | .filler bytes => (.filler (bytes.take count), .filler (bytes.drop count))
  | .whole message =>
      (.fragment ((encode message).take count), .fragment ((encode message).drop count))
  | .fragment bytes => (.fragment (bytes.take count), .fragment (bytes.drop count))

def streamBytes (stream : List (Piece Message Byte)) : List Byte :=
  stream.flatMap (Piece.bytes encode)

def read : Nat → List (Piece Message Byte) → List (Piece Message Byte) × List (Piece Message Byte)
  | _, [] => ([], [])
  | count, piece :: rest =>
      let size := (piece.bytes encode).length
      if size ≤ count then
        let later := read (count - size) rest
        (piece :: later.1, later.2)
      else if count = 0 then ([], piece :: rest)
      else ([(piece.cut encode count).1], (piece.cut encode count).2 :: rest)

def messages : List (Piece Message Byte) → List Message
  | [] => []
  | .whole message :: rest => message :: messages rest
  | .filler _ :: rest => messages rest
  | .fragment _ :: rest => messages rest

theorem messages_append (left right : List (Piece Message Byte)) :
    messages (left ++ right) = messages left ++ messages right := by
  induction left with
  | nil => rfl
  | cons piece rest ih =>
      cases piece with
      | whole message => simp [messages, ih]
      | filler bytes => simpa [messages] using ih
      | fragment bytes => simpa [messages] using ih

theorem messages_cons (piece : Piece Message Byte) (rest : List (Piece Message Byte)) :
    messages (piece :: rest) = messages [piece] ++ messages rest :=
  messages_append [piece] rest

theorem messages_filler (stream : List (Piece Message Byte))
    (filler : ∀ piece ∈ stream, piece.isFiller = true) : messages stream = [] := by
  induction stream with
  | nil => rfl
  | cons piece rest ih =>
      have later := ih fun other member => filler other (List.mem_cons_of_mem _ member)
      have here := filler piece List.mem_cons_self
      cases piece with
      | filler bytes => simpa [messages] using later
      | whole message => cases here
      | fragment bytes => cases here

theorem cut_bytes (piece : Piece Message Byte) (count : Nat) :
    (piece.cut encode count).1.bytes encode = (piece.bytes encode).take count ∧
      (piece.cut encode count).2.bytes encode = (piece.bytes encode).drop count := by
  cases piece <;> exact ⟨rfl, rfl⟩

theorem read_bytes (count : Nat) (stream : List (Piece Message Byte)) :
    streamBytes encode (read encode count stream).1 = (streamBytes encode stream).take count ∧
      streamBytes encode (read encode count stream).2 = (streamBytes encode stream).drop count := by
  induction stream generalizing count with
  | nil => simp [read, streamBytes]
  | cons piece rest ih =>
      by_cases fits : (piece.bytes encode).length ≤ count
      · obtain ⟨taken, left⟩ := ih (count - (piece.bytes encode).length)
        simp only [streamBytes] at taken left
        simp [read, fits, streamBytes, taken, left, List.take_append, List.drop_append,
          List.take_of_length_le fits, List.drop_of_length_le fits]
      · obtain ⟨first, second⟩ := cut_bytes encode piece count
        have inside : count - (piece.bytes encode).length = 0 := by omega
        by_cases none : count = 0
        · subst none
          simp [read, fits, streamBytes]
        · simp [read, fits, none, streamBytes, first, second, List.take_append, List.drop_append,
            inside]

theorem read_messages (count : Nat) (stream : List (Piece Message Byte))
    (unbroken : ∀ bytes, .fragment bytes ∉ (read encode count stream).1) :
    messages (read encode count stream).1 ++ messages (read encode count stream).2 =
      messages stream := by
  induction stream generalizing count with
  | nil => rfl
  | cons piece rest ih =>
      by_cases fits : (piece.bytes encode).length ≤ count
      · simp only [read, fits, ↓reduceIte] at unbroken ⊢
        have later := ih (count - (piece.bytes encode).length) fun bytes member =>
          unbroken bytes (List.mem_cons_of_mem _ member)
        cases piece with
        | whole message => simpa [messages] using later
        | filler bytes => simpa [messages] using later
        | fragment bytes => exact absurd List.mem_cons_self (unbroken bytes)
      · by_cases none : count = 0
        · have untouched : read encode count (piece :: rest) = ([], piece :: rest) := by
            rw [read, if_neg fits, if_pos none]
          rw [untouched]
          rfl
        · simp only [read, fits, none, ↓reduceIte] at unbroken ⊢
          cases piece with
          | filler bytes => rfl
          | whole message => exact absurd List.mem_cons_self (unbroken _)
          | fragment bytes => exact absurd List.mem_cons_self (unbroken _)

theorem read_append (count : Nat) (left right : List (Piece Message Byte))
    (covers : (streamBytes encode left).length ≤ count) :
    (read encode count (left ++ right)).1 =
      left ++ (read encode (count - (streamBytes encode left).length) right).1 := by
  induction left generalizing count with
  | nil => simp [streamBytes]
  | cons piece rest ih =>
      have total : (streamBytes encode (piece :: rest)).length =
          (piece.bytes encode).length + (streamBytes encode rest).length := by
        simp [streamBytes]
      rw [total] at covers ⊢
      have fits : (piece.bytes encode).length ≤ count := by omega
      have later := ih (count - (piece.bytes encode).length) (by omega)
      simp only [List.cons_append, read, fits, ↓reduceIte, later, Nat.sub_sub]

theorem messages_cut (piece : Piece Message Byte) (count : Nat) :
    messages [(piece.cut encode count).1] = [] := by
  cases piece <;> rfl

theorem read_before_message (count : Nat) (front rest : List (Piece Message Byte))
    (message : Message)
    (early : count < (streamBytes encode front).length + (encode message).length) :
    (messages (read encode count (front ++ .whole message :: rest)).1).Sublist
      (messages front) := by
  induction front generalizing count with
  | nil =>
      have unfit : ¬ (encode message).length ≤ count := by
        simp only [streamBytes, List.flatMap_nil, List.length_nil] at early
        omega
      simp only [List.nil_append, read, Piece.bytes, unfit, ↓reduceIte]
      split
      · exact List.Sublist.refl _
      · rw [messages_cut]
        exact List.nil_sublist _
  | cons piece front ih =>
      have total : (streamBytes encode (piece :: front)).length =
          (piece.bytes encode).length + (streamBytes encode front).length := by
        simp [streamBytes]
      rw [total] at early
      by_cases fits : (piece.bytes encode).length ≤ count
      · have later := ih (count - (piece.bytes encode).length) (by omega)
        simp only [List.cons_append, read, fits, ↓reduceIte]
        rw [messages_cons, messages_cons piece front]
        exact (List.Sublist.refl _).append later
      · simp only [List.cons_append, read, fits, ↓reduceIte]
        split
        · exact List.nil_sublist _
        · rw [messages_cut]
          exact List.nil_sublist _

/-- The messages that a read takes are among those of the stream, in their order. -/
theorem read_messages_sublist (count : Nat) (stream : List (Piece Message Byte)) :
    (messages (read encode count stream).1).Sublist (messages stream) := by
  induction stream generalizing count with
  | nil => exact List.Sublist.refl _
  | cons piece rest ih =>
      simp only [read]
      split
      · rw [messages_cons, messages_cons piece rest]
        exact (List.Sublist.refl _).append (ih _)
      · split
        · exact List.nil_sublist _
        · rw [messages_cut]
          exact List.nil_sublist _

theorem read_messages_mono (fewer more : Nat) (stream grown : List (Piece Message Byte))
    (further : fewer ≤ more) :
    (messages (read encode fewer stream).1).Sublist
      (messages (read encode more (stream ++ grown)).1) := by
  induction stream generalizing fewer more with
  | nil => exact List.nil_sublist _
  | cons piece rest ih =>
      by_cases fits : (piece.bytes encode).length ≤ fewer
      · have alsoFits : (piece.bytes encode).length ≤ more := by omega
        have later := ih (fewer - (piece.bytes encode).length)
          (more - (piece.bytes encode).length) (by omega)
        simp only [List.cons_append, read, fits, alsoFits, ↓reduceIte]
        rw [messages_cons, messages_cons piece (read encode _ _).1]
        exact (List.Sublist.refl _).append later
      · simp only [read, fits, ↓reduceIte]
        split
        · exact List.nil_sublist _
        · rw [messages_cut]
          exact List.nil_sublist _

theorem read_past_message (seen later : Nat) (front rest : List (Piece Message Byte))
    (message : Message)
    (early : seen < (streamBytes encode front).length + (encode message).length)
    (late : (streamBytes encode front).length + (encode message).length ≤ later) :
    (messages (read encode seen (front ++ .whole message :: rest)).1 ++ [message]).Sublist
      (messages (read encode later (front ++ .whole message :: rest)).1) := by
  have before := read_before_message encode seen front rest message early
  have covers : (streamBytes encode (front ++ [.whole message])).length ≤ later := by
    simpa [streamBytes, Piece.bytes] using late
  have taken := read_append encode later (front ++ [.whole message]) rest covers
  rw [List.append_assoc, List.singleton_append] at taken
  rw [taken, messages_append, messages_append]
  exact (before.append (List.Sublist.refl [message])).trans (List.sublist_append_left _ _)

end FramedStream
