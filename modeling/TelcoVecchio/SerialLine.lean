import TelcoVecchio.SmsUtils
import TelcoVecchio.FramedStream
import TelcoVecchio.LabelledRun

/-!
The serial line between the modem and `wait_sms` and `send_sms`. The modem
writes notifications and the echoes and answers of AT commands; the daemon runs
one call at a time, and every read of a call takes bytes from the front of the
line. Nothing is carried over from a read to the next, so an SMS is not lost as
long as no read takes bytes of a notification except the one of a `wait_sms`
that takes all of a single one.
-/

namespace TelcoVecchio.SerialLine

open Common SmsUtils

/-- `+CMT:`, as the modem announces a forwarded SMS. -/
def cmtTag : List Char := "+CMT:".toList

theorem cmt_tag_plus : cmtTag = '+' :: "CMT:".toList := rfl

structure Notification where
  header : List Char
  pdu : List Char
  headerLine : '\n' ∉ header
  pduDigits : pdu.all HexText.isDigit = true
  pduNonempty : pdu ≠ []

def Notification.text (notification : Notification) : List Char :=
  cmtTag ++ notification.header ++ '\r' :: '\n' :: (notification.pdu ++ ['\r', '\n'])

def Notification.bytes (notification : Notification) : List UInt8 :=
  RustText.utf8Bytes notification.text

abbrev Pending := List (FramedStream.Piece Notification UInt8)

inductive Mode where
  | idle
  | waiting
  | sending (stage : AtStage) (second : Option String)
  | stopped
  deriving DecidableEq

structure Line where
  mode : Mode
  pending : Pending
  emitted : List String
  captured : List String

inductive Label where
  | notify (notification : Notification)
  | answer (bytes : List UInt8)
  | waitSms
  | sendSms (sms : OutgoingSms)
  | cancel
  | read (count : Nat)

def Line.start : Line := { mode := .idle, pending := [], emitted := [], captured := [] }

def commandBytes (command : String) : List UInt8 := RustText.utf8Bytes command.toList

def Mode.bufferSize : Mode → Nat
  | .waiting => AtStage.answer.bufferSize
  | .sending stage _ => stage.bufferSize
  | .idle => 0
  | .stopped => 0

/-- What the rest of `wait_sms` leaves running. -/
def afterCapture (gsm7 : Gsm7) (pdu : String) : Mode :=
  match readPdu gsm7 pdu with
  | .panic => .stopped
  | _ => .idle

/-- The rest of `send_sms` once a response is there: the second transaction
follows the prompt of the first. -/
def afterResponse (response : String) : Option String → Mode
  | some pdu =>
      if response.toList.contains '>' then .sending (AtStage.start (commandBytes pdu)) none
      else .idle
  | none => .idle

/-- One `serial_port.read`, with the bytes it gave. -/
def onRead (gsm7 : Gsm7) (line : Line) (chunk : List UInt8) : Line :=
  match line.mode with
  | .waiting =>
      match waitRead (.ok chunk) with
      | .again => line
      | .failed => { line with mode := .idle }
      -- what else the chunk held is gone with it
      | .captured pdu =>
          { line with mode := afterCapture gsm7 pdu, captured := line.captured ++ [pdu] }
  | .sending stage second =>
      match stage.read (.ok chunk) with
      -- an echo is skipped by its length, without a look at the bytes
      | .next later => { line with mode := .sending later second }
      | .done (.ok response) => { line with mode := afterResponse response second }
      | .done (.error _) => { line with mode := .idle }
  | .idle => line
  | .stopped => line

def Line.taken (line : Line) (count : Nat) : Pending :=
  (FramedStream.read Notification.bytes count line.pending).1

def Line.left (line : Line) (count : Nat) : Pending :=
  (FramedStream.read Notification.bytes count line.pending).2

def pendingBytes (pending : Pending) : List UInt8 :=
  FramedStream.streamBytes Notification.bytes pending

/-- A call that is cancelled by its timeout, or fails on the port, leaves the
line as it is. -/
def stepLine (gsm7 : Gsm7) (line : Line) : Label → Option Line
  | .notify notification =>
      some { line with
        pending := line.pending ++ [.whole notification]
        emitted := line.emitted ++ [String.ofList notification.pdu] }
  | .answer bytes => some { line with pending := line.pending ++ [.filler bytes] }
  | .waitSms => if line.mode = .idle then some { line with mode := .waiting } else none
  | .sendSms sms =>
      if line.mode = .idle then
        match submitCommands gsm7 sms with
        | .ok (first, second) =>
            some { line with mode := .sending (AtStage.start (commandBytes first)) (some second) }
        | .panic => some { line with mode := .stopped }
        | _ => some line
      else none
  | .cancel => if line.mode = .stopped then none else some { line with mode := .idle }
  | .read count =>
      if 0 < count ∧ count ≤ line.mode.bufferSize ∧ count ≤ (pendingBytes line.pending).length then
        some (onRead gsm7 { line with pending := line.left count }
          (pendingBytes (line.taken count)))
      else none

def Step (gsm7 : Gsm7) (before : Line) (label : Label) (after : Line) : Prop :=
  stepLine gsm7 before label = some after

def unread (pending : Pending) : List String :=
  (FramedStream.messages pending).map fun notification => String.ofList notification.pdu

/-- Every PDU the modem emitted was captured or is still there to be read, in
order. -/
def NoneLost (line : Line) : Prop := line.captured ++ unread line.pending = line.emitted

/-- Bytes of echoes and answers only, `+CMT:` not among them. -/
structure Quiet (taken : Pending) : Prop where
  filler : ∀ piece ∈ taken, piece.isFiller = true
  untagged : ¬ RustText.utf8Bytes cmtTag <:+: pendingBytes taken

def OneWhole (taken : Pending) : Prop :=
  ∃ before notification after front back, taken = before ++ .whole notification :: after ∧
    (∀ piece ∈ before ++ after, piece.isFiller = true) ∧
    pendingBytes before = RustText.utf8Bytes front ∧ ¬ cmtTag <:+: front ∧
    pendingBytes after = RustText.utf8Bytes back

/-- A read takes nothing of a notification, unless it is the one of `wait_sms`
and takes the whole of exactly one. -/
def ReadsWhole (line : Line) : Label → Prop
  | .read count => Quiet (line.taken count) ∨ line.mode = .waiting ∧ OneWhole (line.taken count)
  | _ => True

theorem taken_bytes (line : Line) (count : Nat) :
    pendingBytes (line.taken count) = (pendingBytes line.pending).take count ∧
      pendingBytes (line.left count) = (pendingBytes line.pending).drop count :=
  FramedStream.read_bytes Notification.bytes count line.pending

theorem pending_bytes_append (left right : Pending) :
    pendingBytes (left ++ right) = pendingBytes left ++ pendingBytes right := by
  simp [pendingBytes, FramedStream.streamBytes]

theorem captured_tagged (response pdu : String) (captured : captureCmt response = some pdu) :
    cmtTag <:+: response.toList := by
  cases found : CapturePattern.search cmtPattern response.toList with
  | none => simp [captureCmt, found] at captured
  | some captures =>
      obtain ⟨rest, inside, hit⟩ := CapturePattern.search_some _ _ _ found
      have starts : cmtTag <+: rest :=
        CapturePattern.match_literal_prefix cmtTag _ rest (by
          rw [cmtPattern] at hit
          exact Option.isSome_iff_exists.mpr ⟨captures, hit⟩)
      exact starts.isInfix.trans inside.isInfix

theorem untagged_not_captured (chunk : List UInt8) (pdu : String)
    (untagged : ¬ RustText.utf8Bytes cmtTag <:+: chunk) : waitRead (.ok chunk) ≠ .captured pdu := by
  intro captured
  cases decoded : RustText.fromUtf8 chunk with
  | none => simp [waitRead, AtStage.read, decoded] at captured
  | some response =>
      cases matched : captureCmt response with
      | none => simp [waitRead, AtStage.read, decoded, matched] at captured
      | some found =>
          obtain ⟨left, right, split⟩ := captured_tagged response found matched
          apply untagged
          rw [RustText.from_utf8_some chunk response decoded, ← split]
          exact ⟨RustText.utf8Bytes left, RustText.utf8Bytes right, by simp⟩

theorem digit_not_line_feed (text : List Char) (digits : text.all HexText.isDigit = true) :
    '\n' ∉ text := by
  intro member
  have digit := List.all_eq_true.mp digits '\n' member
  cases digit

/-- The leftmost match is the notification itself. -/
theorem capture_whole (notification : Notification) (front back : List Char)
    (untagged : ¬ cmtTag <:+: front) :
    captureCmt (String.ofList (front ++ notification.text ++ back)) =
      some (String.ofList notification.pdu) := by
  have here : CapturePattern.matchItems cmtPattern (notification.text ++ back) =
      some [notification.pdu] := by
    have nonempty : 1 ≤ notification.pdu.length :=
      List.length_pos_of_ne_nil notification.pduNonempty
    have layout : notification.text ++ back =
        cmtTag ++ (notification.header ++
          '\r' :: '\n' :: (notification.pdu ++ '\r' :: '\n' :: back)) := by
      simp [Notification.text]
    -- the header and the PDU are one line each, so the repetitions cannot move
    rw [layout, cmtPattern, show "+CMT:".toList = cmtTag from rfl, CapturePattern.match_literal,
      CapturePattern.match_line _ _ _ _ _ notification.headerLine (Nat.zero_le _),
      CapturePattern.match_line _ _ _ _ _ (digit_not_line_feed _ notification.pduDigits) nonempty]
    rfl
  have skipped : CapturePattern.search cmtPattern (front ++ (notification.text ++ back)) =
      CapturePattern.search cmtPattern (notification.text ++ back) := by
    apply CapturePattern.search_skip
    -- a match that starts in the front would put `+CMT:` there, or a second plus in it
    intro early late split nonempty
    rw [Option.eq_none_iff_forall_ne_some]
    intro found hit
    have starts := CapturePattern.match_literal_prefix cmtTag _ _
      (Option.isSome_iff_exists.mpr ⟨found, hit⟩)
    have later := CapturePattern.literal_not_earlier '+' "CMT:".toList front
      (notification.header ++ '\r' :: '\n' :: (notification.pdu ++ ['\r', '\n']) ++ back)
      (by decide) untagged early late split nonempty
    apply later
    simpa [Notification.text, cmt_tag_plus] using starts
  rw [captureCmt, String.toList_ofList, List.append_assoc, skipped,
    CapturePattern.search_here _ _ _ here]
  rfl

theorem whole_captured (notification : Notification) (front back : List Char)
    (untagged : ¬ cmtTag <:+: front) :
    waitRead (.ok (RustText.utf8Bytes (front ++ notification.text ++ back))) =
      .captured (String.ofList notification.pdu) := by
  have nonempty : front ++ notification.text ++ back ≠ [] := by
    simp [Notification.text]
  have received : (String.ofList (front ++ notification.text ++ back)).isEmpty = false := by
    simpa using nonempty
  simp only [waitRead, AtStage.read, RustText.from_utf8_bytes, received, Bool.false_eq_true,
    ↓reduceIte, capture_whole notification front back untagged]

section Reading
variable (gsm7 : Gsm7) (line : Line) (chunk : List UInt8)

theorem on_read_frame : (onRead gsm7 line chunk).pending = line.pending ∧
    (onRead gsm7 line chunk).emitted = line.emitted := by
  simp only [onRead]
  split
  · split <;> exact ⟨rfl, rfl⟩
  · split <;> exact ⟨rfl, rfl⟩
  · exact ⟨rfl, rfl⟩
  · exact ⟨rfl, rfl⟩

theorem on_read_capture (pdu : String) (waiting : line.mode = .waiting)
    (found : waitRead (.ok chunk) = .captured pdu) :
    (onRead gsm7 line chunk).captured = line.captured ++ [pdu] := by
  simp only [onRead, waiting, found]

theorem on_read_no_capture (silent : ∀ pdu, waitRead (.ok chunk) ≠ .captured pdu) :
    (onRead gsm7 line chunk).captured = line.captured := by
  simp only [onRead]
  split
  · split
    · rfl
    · rfl
    · next pdu found => exact absurd found (silent pdu)
  · split <;> rfl
  · rfl
  · rfl

end Reading

theorem quiet_unread (line : Line) (count : Nat) (quiet : Quiet (line.taken count)) :
    unread (line.left count) = unread line.pending := by
  have unbroken : ∀ bytes, .fragment bytes ∉ line.taken count := by
    intro bytes member
    cases quiet.filler _ member
  have split := FramedStream.read_messages Notification.bytes count line.pending unbroken
  have none : FramedStream.messages (line.taken count) = [] :=
    FramedStream.messages_filler _ quiet.filler
  rw [unread, unread, ← split]
  simp only [Line.taken] at none
  rw [none, List.nil_append]
  rfl

theorem one_whole_captured (line : Line) (count : Nat) (whole : OneWhole (line.taken count)) :
    ∃ pdu, unread line.pending = pdu :: unread (line.left count) ∧
      waitRead (.ok (pendingBytes (line.taken count))) = .captured pdu := by
  obtain ⟨before, notification, after, front, back, taken, filler, frontBytes, untagged,
    backBytes⟩ := whole
  refine ⟨String.ofList notification.pdu, ?_, ?_⟩
  · have unbroken : ∀ bytes, .fragment bytes ∉ line.taken count := by
      intro bytes member
      rw [taken, List.mem_append, List.mem_cons] at member
      rcases member with inside | same | inside
      · cases filler _ (List.mem_append_left _ inside)
      · cases same
      · cases filler _ (List.mem_append_right _ inside)
    have split := FramedStream.read_messages Notification.bytes count line.pending unbroken
    have none : FramedStream.messages before = [] ∧ FramedStream.messages after = [] :=
      ⟨FramedStream.messages_filler _ fun _ member => filler _ (List.mem_append_left _ member),
        FramedStream.messages_filler _ fun _ member => filler _ (List.mem_append_right _ member)⟩
    have one : FramedStream.messages (line.taken count) = [notification] := by
      simp [taken, FramedStream.messages_append, FramedStream.messages, none]
    rw [unread, unread, ← split]
    simp only [Line.taken] at one
    rw [one]
    rfl
  · have bytes : pendingBytes (line.taken count) =
        RustText.utf8Bytes (front ++ notification.text ++ back) := by
      rw [taken, pending_bytes_append, frontBytes]
      have rest : pendingBytes (.whole notification :: after) =
          notification.bytes ++ pendingBytes after := rfl
      rw [rest, backBytes]
      simp [Notification.bytes]
    rw [bytes]
    exact whole_captured notification front back untagged

theorem read_step (gsm7 : Gsm7) (before after : Line) (count : Nat)
    (step : Step gsm7 before (.read count) after) :
    after = onRead gsm7 { before with pending := before.left count }
      (pendingBytes (before.taken count)) := by
  simp only [Step, stepLine] at step
  split at step
  · exact (Option.some.inj step).symm
  · cases step

theorem read_keeps (gsm7 : Gsm7) (before after : Line) (count : Nat)
    (whole : ReadsWhole before (.read count)) (step : Step gsm7 before (.read count) after)
    (kept : NoneLost before) : NoneLost after := by
  rw [read_step gsm7 before after count step, NoneLost, (on_read_frame gsm7 _ _).1,
    (on_read_frame gsm7 _ _).2]
  rcases whole with quiet | ⟨waiting, whole⟩
  · have silent : ∀ pdu, waitRead (.ok (pendingBytes (before.taken count))) ≠ .captured pdu :=
      fun pdu => untagged_not_captured _ pdu quiet.untagged
    rw [on_read_no_capture gsm7 _ _ silent, quiet_unread before count quiet]
    exact kept
  · obtain ⟨pdu, first, found⟩ := one_whole_captured before count whole
    rw [on_read_capture gsm7 { before with pending := before.left count } _ pdu waiting found,
      List.append_assoc, List.singleton_append, ← first]
    exact kept

theorem unread_append (left right : Pending) :
    unread (left ++ right) = unread left ++ unread right := by
  simp [unread, FramedStream.messages_append]

theorem step_keeps (gsm7 : Gsm7) (before : Line) (label : Label) (after : Line)
    (step : LabelledRun.guarded ReadsWhole (Step gsm7) before label after)
    (kept : NoneLost before) : NoneLost after := by
  obtain ⟨whole, moved⟩ := step
  cases label with
  | read count => exact read_keeps gsm7 before after count whole moved kept
  | notify notification =>
      cases moved
      rw [NoneLost, unread_append, ← List.append_assoc, kept]
      rfl
  | answer bytes =>
      cases moved
      rw [NoneLost, unread_append]
      simpa [NoneLost, unread, FramedStream.messages] using kept
  | waitSms =>
      simp only [Step, stepLine] at moved
      split at moved
      · cases moved
        exact kept
      · cases moved
  | sendSms sms =>
      simp only [Step, stepLine] at moved
      split at moved
      · split at moved
        · cases moved
          exact kept
        · cases moved
          exact kept
        · cases moved
          exact kept
      · cases moved
  | cancel =>
      simp only [Step, stepLine] at moved
      split at moved
      · cases moved
      · cases moved
        exact kept

/-- In a run whose reads touch notifications only as `wait_sms` expects them,
every PDU is captured once, in order, or still on the line. -/
theorem none_lost (gsm7 : Gsm7) (labels : List Label) (line : Line)
    (run : LabelledRun.Run (LabelledRun.guarded ReadsWhole (Step gsm7)) Line.start labels line) :
    NoneLost line :=
  LabelledRun.run_invariant NoneLost (step_keeps gsm7) run rfl

def Notification.ofOctets (header : List Char) (octets : List UInt8) (headerLine : '\n' ∉ header)
    (nonempty : octets ≠ []) : Notification where
  header := header
  pdu := RustText.toUppercase (HexText.encode octets)
  headerLine := headerLine
  pduDigits := HexText.encode_upper_digits octets
  pduNonempty := HexText.encode_upper_nonempty octets nonempty

/-- A PDU from `+33600000001` up to its time stamp. -/
def deliverOctets : List UInt8 :=
  [0x07, 0x91, 0x33, 0x96, 0x05, 0x00, 0x66, 0xF1, 0x04, 0x0B, 0x91, 0x33, 0x06, 0x00,
   0x00, 0x00, 0xF1, 0x00, 0x00, 0x42, 0x10, 0x11, 0x12, 0x13, 0x14, 0x00]

/-- The message `status`: 79 bytes on the line. -/
def statusNotification : Notification :=
  .ofOctets [' ', ',', '2', '5'] (deliverOctets ++ [0x06, 0x73, 0x7A, 0x98, 0x5E, 0x9F, 0x03])
    (by decide) (by simp)

/-- The message `open camera for the workshop tunnel, please`: 143 bytes on the
line, more than the buffer of a read. -/
def openNotification : Notification :=
  .ofOctets [' ', ',', '5', '7']
    (deliverOctets ++
      [0x2B, 0x6F, 0x78, 0xD9, 0x0D, 0x1A, 0x87, 0xDB, 0x65, 0x79, 0x18, 0x64, 0x7E, 0xCB,
       0x41, 0x74, 0x74, 0x19, 0x74, 0x7F, 0xCB, 0xD7, 0x73, 0xF4, 0x1B, 0x0E, 0xA2, 0xD7,
       0xDD, 0xEE, 0x32, 0x9B, 0x05, 0x82, 0xB3, 0xCB, 0xE1, 0x79, 0x19])
    (by decide) (by simp)

theorem step_read (gsm7 : Gsm7) (line : Line) (count : Nat) (positive : 0 < count)
    (fits : count ≤ line.mode.bufferSize) (there : count ≤ (pendingBytes line.pending).length) :
    Step gsm7 line (.read count)
      (onRead gsm7 { line with pending := line.left count } (pendingBytes (line.taken count))) := by
  simp only [Step, stepLine, positive, fits, there, and_self, ↓reduceIte]

/-- A line with one notification on it and a `wait_sms` under way. -/
def announced (notification : Notification) : Line where
  mode := .waiting
  pending := [.whole notification]
  emitted := [String.ofList notification.pdu]
  captured := []

theorem announced_taken (notification : Notification) :
    (announced notification).taken notification.bytes.length = [.whole notification] := by
  simp [Line.taken, announced, FramedStream.read, FramedStream.Piece.bytes]

theorem announced_run (gsm7 : Gsm7) (notification : Notification) :
    LabelledRun.Run (LabelledRun.guarded ReadsWhole (Step gsm7)) Line.start
      [.notify notification, .waitSms] (announced notification) :=
  .next ⟨trivial, rfl⟩ (.next ⟨trivial, rfl⟩ (.refl _))

theorem read_at_once_whole (notification : Notification) :
    ReadsWhole (announced notification) (.read notification.bytes.length) := by
  refine Or.inr ⟨rfl, [], notification, [], [], [], announced_taken notification, ?_, rfl, ?_, rfl⟩
  · simp
  · exact fun tagged => absurd (List.infix_nil.mp tagged) (List.cons_ne_nil _ _)

theorem status_not_lost : ∃ line,
    LabelledRun.Run (LabelledRun.guarded ReadsWhole (Step Gsm7.standard)) Line.start
      [.notify statusNotification, .waitSms, .read statusNotification.bytes.length] line ∧
    NoneLost line := by
  have read := step_read Gsm7.standard (announced statusNotification)
    statusNotification.bytes.length (by decide +kernel) (by decide +kernel) (by decide +kernel)
  have run := LabelledRun.run_append (announced_run Gsm7.standard statusNotification)
    (.next ⟨read_at_once_whole statusNotification, read⟩ (.refl _))
  exact ⟨_, run, none_lost _ _ _ run⟩

theorem no_match_again (text : List Char)
    (unmatched : CapturePattern.search cmtPattern text = none) :
    waitRead (.ok (RustText.utf8Bytes text)) = .again := by
  have silent : captureCmt (String.ofList text) = none := by
    simp [captureCmt, String.toList_ofList, unmatched]
  simp only [waitRead, AtStage.read, RustText.from_utf8_bytes, silent]
  split <;> rfl

theorem step_read_again (gsm7 : Gsm7) (line : Line) (count : Nat) (text : List Char)
    (waiting : line.mode = .waiting) (positive : 0 < count) (fits : count ≤ 128)
    (there : count ≤ (pendingBytes line.pending).length)
    (chunk : pendingBytes (line.taken count) = RustText.utf8Bytes text)
    (unmatched : CapturePattern.search cmtPattern text = none) :
    Step gsm7 line (.read count) { line with pending := line.left count } := by
  have read := step_read gsm7 line count positive (by rw [waiting]; exact fits) there
  simpa only [onRead, waiting, chunk, no_match_again text unmatched] using read

theorem lost_of_nothing_left (line : Line) {pdu : String} {rest : List String}
    (silent : line.captured = []) (gone : unread line.pending = [])
    (sent : line.emitted = pdu :: rest) : ¬ NoneLost line := by
  intro kept
  rw [NoneLost, silent, gone, sent] at kept
  cases kept

theorem long_notification_lost : ∃ labels line,
    LabelledRun.Run (Step Gsm7.standard) Line.start labels line ∧
    pendingBytes line.pending = [] ∧ line.captured = [] ∧ ¬ NoneLost line := by
  have first := step_read_again Gsm7.standard (announced openNotification) 128
    (openNotification.text.take 128) rfl (by decide) (by decide) (by decide +kernel)
    (by decide +kernel) (by decide +kernel)
  have second := step_read_again Gsm7.standard
    { announced openNotification with pending := (announced openNotification).left 128 } 15
    (openNotification.text.drop 128) rfl (by decide) (by decide) (by decide +kernel)
    (by decide +kernel) (by decide +kernel)
  have start := LabelledRun.run_mono (fun _ _ _ step => step.2)
    (announced_run Gsm7.standard openNotification)
  refine ⟨_, _, LabelledRun.run_append start (.next first (.next second (.refl _))), ?_, rfl, ?_⟩
  · decide +kernel
  · exact lost_of_nothing_left _ rfl (by decide +kernel) rfl

end TelcoVecchio.SerialLine
