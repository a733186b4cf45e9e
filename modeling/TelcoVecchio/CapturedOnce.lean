import TelcoVecchio.SerialLine

/-!
`wait_sms` and the serial line, whatever the cutting of its reads. A
notification may be lost, as its first or last bytes go to another read; but
what is captured is a notification that was sent, unaltered, no later than the
ones captured before it and no more than once. The line of `+CMT:` and the one
after it decide that: the tag stands nowhere but in the first line of a
notification, and from there the next two line feeds are the ends of its lines.
-/

namespace TelcoVecchio.CapturedOnce

open Common SmsUtils SerialLine

def tagBytes : List UInt8 := RustText.utf8Bytes cmtTag

def lineEnd : List UInt8 := [13, 10]

/-- What the pattern of `wait_sms` matches, between bytes that it skips. -/
def matched (front first second back : List UInt8) : List UInt8 :=
  front ++ (tagBytes ++ first ++ lineEnd ++ (second ++ lineEnd ++ back))

/-- Echoes and answers: `+CMT:` is not among their bytes, and they do not break
off inside of it. -/
structure Untagged (bytes : List UInt8) : Prop where
  absent : ¬ tagBytes <:+: bytes
  complete : ∀ start, start <+: tagBytes → start <:+ bytes → start = []

theorem untagged_of_last (front : List UInt8) (last : UInt8) (own : last ∉ tagBytes)
    (absent : ¬ tagBytes <:+: front ++ [last]) : Untagged (front ++ [last]) := by
  refine ⟨absent, ?_⟩
  intro start beginning ending
  by_cases none : start = []
  · exact none
  · have same := ending.getLast none
    rw [List.getLast_concat] at same
    exact absurd (beginning.subset (same ▸ List.getLast_mem none)) own

def UntaggedAnswers (_ : Line) : Label → Prop
  | .answer bytes => Untagged bytes
  | _ => True

def Sent : FramedStream.Piece Notification UInt8 → Prop
  | .whole _ => True
  | .filler bytes => Untagged bytes
  | .fragment _ => False

theorem line_feed_free (text : List Char) (single : '\n' ∉ text) :
    10 ∉ RustText.utf8Bytes text :=
  fun member => single (RustText.ascii_byte_member text '\n' (by decide) member)

theorem digits_plus_free (text : List Char) (digits : text.all HexText.isDigit = true) :
    43 ∉ RustText.utf8Bytes text := by
  intro member
  have plus := RustText.ascii_byte_member text '+' (by decide) member
  have digit := List.all_eq_true.mp digits '+' plus
  cases digit

theorem notification_bytes (notification : Notification) : notification.bytes =
    tagBytes ++ RustText.utf8Bytes notification.header ++ lineEnd ++
      (RustText.utf8Bytes notification.pdu ++ lineEnd) := by
  have ends : RustText.utf8Bytes ['\r', '\n'] = lineEnd := rfl
  have text : notification.text = cmtTag ++ notification.header ++ ['\r', '\n'] ++
      (notification.pdu ++ ['\r', '\n']) := by
    simp [Notification.text]
  rw [Notification.bytes, text]
  simp only [RustText.utf8_bytes_append, ends, tagBytes]

theorem captured_text (response pdu : String) (captured : captureCmt response = some pdu) :
    ∃ front first back, response.toList =
      front ++ (cmtTag ++ first ++ ['\r', '\n'] ++ (pdu.toList ++ ['\r', '\n'] ++ back)) ∧
      '\n' ∉ first ∧ '\n' ∉ pdu.toList := by
  have plain : ∀ run : List Char, (∀ char ∈ run, CapturePattern.notLineFeed char = true) →
      '\n' ∉ run := by
    intro run accepted member
    cases accepted '\n' member
  obtain ⟨captures, hit, head⟩ := Option.bind_eq_some_iff.mp captured
  obtain ⟨subject, ⟨front, split⟩, here⟩ := CapturePattern.search_some _ _ _ hit
  obtain ⟨afterTag, tagged, here⟩ := CapturePattern.match_literal_some _ _ _ _ here
  obtain ⟨first, afterFirst, firstCaptures, firstLine, firstRun, here, uncaptured⟩ :=
    CapturePattern.match_many_some _ _ _ _ _ _ here
  obtain ⟨atSecond, firstEnd, here⟩ :=
    CapturePattern.match_literal_some ['\r', '\n'] _ _ _ here
  obtain ⟨second, afterSecond, secondCaptures, secondLine, secondRun, here, taken⟩ :=
    CapturePattern.match_many_some _ _ _ _ _ _ here
  obtain ⟨back, secondEnd, _⟩ := CapturePattern.match_literal_some ['\r', '\n'] [] _ _ here
  have same : pdu.toList = second := by
    simp only [Bool.false_eq_true, ↓reduceIte] at uncaptured taken
    rw [uncaptured, taken] at head
    cases head
    exact String.toList_ofList
  refine ⟨front, first, back, ?_, plain first firstRun, same ▸ plain second secondRun⟩
  rw [← split, tagged, firstLine, firstEnd, secondLine, secondEnd, same]
  simp [cmtTag]

theorem captured_lines (chunk : List UInt8) (pdu : String)
    (captured : waitRead (.ok chunk) = .captured pdu) :
    ∃ front first back, chunk = matched front first (RustText.utf8Bytes pdu.toList) back ∧
      10 ∉ first ∧ 10 ∉ RustText.utf8Bytes pdu.toList := by
  cases decoded : RustText.fromUtf8 chunk with
  | none => simp [waitRead, AtStage.read, decoded] at captured
  | some response =>
      have found : captureCmt response = some pdu := by
        simp only [waitRead, AtStage.read, decoded] at captured
        split at captured
        · cases captured
        · split at captured
          · next found =>
              cases captured
              exact found
          · cases captured
      obtain ⟨front, first, back, text, firstLine, secondLine⟩ := captured_text response pdu found
      refine ⟨RustText.utf8Bytes front, RustText.utf8Bytes first, RustText.utf8Bytes back, ?_,
        line_feed_free first firstLine, line_feed_free pdu.toList secondLine⟩
      have ends : RustText.utf8Bytes ['\r', '\n'] = lineEnd := rfl
      rw [RustText.from_utf8_some chunk response decoded, text, matched]
      simp only [RustText.utf8_bytes_append, ends, tagBytes]

theorem untagged_skipped (bytes rest front first second back : List UInt8)
    (untagged : Untagged bytes)
    (split : bytes ++ rest = matched front first second back) : bytes.length ≤ front.length := by
  rw [matched] at split
  rcases List.append_eq_append_iff.mp split with ⟨skipped, longer, _⟩ | ⟨start, same, later⟩
  · rw [longer, List.length_append]
    omega
  · -- the bytes go on after `front` with all of the tag, or with a beginning of it
    rw [List.append_assoc, List.append_assoc] at later
    rcases List.append_eq_append_iff.mp later with ⟨more, all, _⟩ | ⟨missing, part, _⟩
    · exact absurd ⟨front, more, by rw [same, all, List.append_assoc]⟩ untagged.absent
    · have none : start = [] := untagged.complete start ⟨missing, part.symm⟩ ⟨front, same.symm⟩
      rw [same, none, List.append_nil]

theorem first_occurrence {Value : Type} (value : Value) (left right more others : List Value)
    (inLeft : value ∉ left) (inRight : value ∉ right)
    (same : left ++ value :: more = right ++ value :: others) : left = right ∧ more = others := by
  rcases List.append_eq_append_iff.mp same with ⟨gap, longer, later⟩ | ⟨gap, longer, later⟩
  · cases gap with
    | nil => simpa [longer] using later
    | cons head tail =>
        cases later
        exact absurd (by simp [longer]) inRight
  · cases gap with
    | nil => simpa [longer, eq_comm] using later
    | cons head tail =>
        cases later
        exact absurd (by simp [longer]) inLeft

theorem notification_matched (notification : Notification)
    (rest front first second back : List UInt8) (firstLine : 10 ∉ first) (secondLine : 10 ∉ second)
    (split : notification.bytes ++ rest = matched front first second back) :
    notification.bytes.length ≤ front.length ∨
      second = RustText.utf8Bytes notification.pdu ∧ rest = back := by
  have headLine : (10 : UInt8) ∉ tagBytes ++ RustText.utf8Bytes notification.header ++ [13] := by
    have inHeader := line_feed_free notification.header notification.headerLine
    have inTag : (10 : UInt8) ∉ tagBytes := by decide +kernel
    simp [inHeader, inTag]
  have digits : (10 : UInt8) ∉ RustText.utf8Bytes notification.pdu :=
    line_feed_free _ (digit_not_line_feed _ notification.pduDigits)
  by_cases feed : (10 : UInt8) ∈ front
  · -- past the first line there are digits and line ends, and no plus
    left
    rw [matched] at split
    rcases List.append_eq_append_iff.mp split with ⟨skipped, longer, _⟩ | ⟨start, same, later⟩
    · rw [longer, List.length_append]
      omega
    · cases start with
      | nil => rw [same, List.append_nil]
      | cons plus start =>
          obtain rfl : 43 = plus := (List.cons.inj later).1
          obtain ⟨early, late, parts, fresh⟩ := List.eq_append_cons_of_mem feed
          have lines : tagBytes ++ RustText.utf8Bytes notification.header ++ [13] ++
              10 :: (RustText.utf8Bytes notification.pdu ++ lineEnd) =
              early ++ 10 :: (late ++ 43 :: start) := by
            simpa [notification_bytes, parts, lineEnd] using same
          obtain ⟨_, remaining⟩ := first_occurrence 10 _ _ _ _ headLine fresh lines
          have plus : (43 : UInt8) ∈ RustText.utf8Bytes notification.pdu ++ lineEnd := by
            simp [remaining]
          rcases List.mem_append.mp plus with digit | ending
          · exact absurd digit (digits_plus_free _ notification.pduDigits)
          · exact absurd ending (by decide)
  · -- before the first line feed the two lines are one, and then the next two are
    right
    have matchLine : (10 : UInt8) ∉ front ++ tagBytes ++ first ++ [13] := by
      have inTag : (10 : UInt8) ∉ tagBytes := by decide +kernel
      simp [feed, firstLine, inTag]
    have lines : tagBytes ++ RustText.utf8Bytes notification.header ++ [13] ++
        10 :: (RustText.utf8Bytes notification.pdu ++ [13] ++ 10 :: rest) =
        front ++ tagBytes ++ first ++ [13] ++ 10 :: (second ++ [13] ++ 10 :: back) := by
      simpa [notification_bytes, matched, lineEnd] using split
    obtain ⟨_, pdus⟩ := first_occurrence 10 _ _ _ _ headLine matchLine lines
    obtain ⟨same, after⟩ := first_occurrence 10 _ _ _ _ (by simp [digits]) (by simp [secondLine])
      pdus
    exact ⟨(List.append_cancel_right same).symm, after⟩

/-- In what the modem wrote, the lines that `wait_sms` looks for end where a
notification ends, and the second of them is its PDU. -/
theorem matched_in_notification (sent : Pending) (plain : ∀ piece ∈ sent, Sent piece)
    (front first second back : List UInt8) (firstLine : 10 ∉ first) (secondLine : 10 ∉ second)
    (split : pendingBytes sent = matched front first second back) :
    ∃ before notification after, sent = before ++ .whole notification :: after ∧
      second = RustText.utf8Bytes notification.pdu ∧
      front.length < (pendingBytes before).length + notification.bytes.length ∧
      pendingBytes after = back := by
  induction sent generalizing front with
  | nil => simp [pendingBytes, FramedStream.streamBytes, matched, lineEnd] at split
  | cons piece rest ih =>
      have total : pendingBytes (piece :: rest) =
          piece.bytes Notification.bytes ++ pendingBytes rest := by
        simp [pendingBytes, FramedStream.streamBytes]
      -- a piece that ends before the match leaves it to the rest
      have later : (piece.bytes Notification.bytes).length ≤ front.length →
          ∃ before notification after,
            piece :: rest = before ++ .whole notification :: after ∧
            second = RustText.utf8Bytes notification.pdu ∧
            front.length < (pendingBytes before).length + notification.bytes.length ∧
            pendingBytes after = back := by
        intro past
        obtain ⟨remaining, longer⟩ : ∃ remaining,
            front = piece.bytes Notification.bytes ++ remaining := by
          rw [total, matched] at split
          exact (List.prefix_of_prefix_length_le ⟨_, split⟩ (List.prefix_append _ _) past).imp
            fun _ same => same.symm
        have inRest : pendingBytes rest = matched remaining first second back := by
          rw [total, longer, matched, List.append_assoc] at split
          exact List.append_cancel_left split
        obtain ⟨before, notification, after, whole, same, inside, behind⟩ :=
          ih (fun other member => plain other (List.mem_cons_of_mem _ member)) remaining inRest
        refine ⟨piece :: before, notification, after, by rw [whole]; rfl, same, ?_, behind⟩
        have size : pendingBytes (piece :: before) =
            piece.bytes Notification.bytes ++ pendingBytes before := by
          simp [pendingBytes, FramedStream.streamBytes]
        rw [longer, size, List.length_append, List.length_append]
        omega
      have here := plain piece List.mem_cons_self
      cases piece with
      | fragment bytes => cases here
      | filler bytes =>
          exact later (untagged_skipped bytes _ _ _ _ _ here (total.symm.trans split))
      | whole notification =>
          by_cases past : notification.bytes.length ≤ front.length
          · exact later past
          · rcases notification_matched notification _ _ _ _ _ firstLine secondLine
              (total.symm.trans split) with skipped | ⟨same, behind⟩
            · exact absurd skipped past
            · refine ⟨[], notification, rest, rfl, same, ?_, behind⟩
              simp only [pendingBytes, FramedStream.streamBytes, List.flatMap_nil,
                List.length_nil]
              omega

def passed (sent : Pending) (seen : Nat) : List String :=
  unread (FramedStream.read Notification.bytes seen sent).1

/-- What is on the line is what the modem sent less the bytes that were read,
and what was captured was among these. -/
structure Traced (line : Line) (sent : Pending) (seen : Nat) : Prop where
  plain : ∀ piece ∈ sent, Sent piece
  emitted : unread sent = line.emitted
  within : seen ≤ (pendingBytes sent).length
  pending : pendingBytes line.pending = (pendingBytes sent).drop seen
  captured : line.captured.Sublist (passed sent seen)

theorem passed_sublist (sent : Pending) (seen : Nat) : (passed sent seen).Sublist (unread sent) :=
  (FramedStream.read_messages_sublist Notification.bytes seen sent).map _

theorem passed_mono (sent more : Pending) {seen later : Nat} (further : seen ≤ later) :
    (passed sent seen).Sublist (passed (sent ++ more) later) :=
  (FramedStream.read_messages_mono Notification.bytes seen later sent more further).map _

theorem on_read_elsewhere (gsm7 : Gsm7) (line : Line) (chunk : List UInt8)
    (elsewhere : line.mode ≠ .waiting) : (onRead gsm7 line chunk).captured = line.captured := by
  simp only [onRead]
  split
  · next waiting => exact absurd waiting elsewhere
  · split <;> rfl
  · rfl
  · rfl

theorem on_read_captured (gsm7 : Gsm7) (line : Line) (chunk : List UInt8) :
    (onRead gsm7 line chunk).captured = line.captured ∨
      ∃ pdu, waitRead (.ok chunk) = .captured pdu ∧
        (onRead gsm7 line chunk).captured = line.captured ++ [pdu] := by
  by_cases silent : ∀ pdu, waitRead (.ok chunk) ≠ .captured pdu
  · exact Or.inl (on_read_no_capture gsm7 line chunk silent)
  · obtain ⟨pdu, found⟩ : ∃ pdu, waitRead (.ok chunk) = .captured pdu := by
      simpa using silent
    by_cases waiting : line.mode = .waiting
    · exact Or.inr ⟨pdu, found, on_read_capture gsm7 line chunk pdu waiting found⟩
    · exact Or.inl (on_read_elsewhere gsm7 line chunk waiting)

/-- A read that captures had all of a notification that no read before it had. -/
theorem captured_passed (sent : Pending) (plain : ∀ piece ∈ sent, Sent piece) (seen count : Nat)
    (fits : seen + count ≤ (pendingBytes sent).length) (pdu : String)
    (captured : waitRead (.ok (((pendingBytes sent).drop seen).take count)) = .captured pdu) :
    (passed sent seen ++ [pdu]).Sublist (passed sent (seen + count)) := by
  obtain ⟨front, first, back, chunk, firstLine, secondLine⟩ := captured_lines _ _ captured
  have split : pendingBytes sent = matched ((pendingBytes sent).take seen ++ front) first
      (RustText.utf8Bytes pdu.toList) (back ++ (pendingBytes sent).drop (seen + count)) := by
    calc pendingBytes sent
        = (pendingBytes sent).take seen ++ (((pendingBytes sent).drop seen).take count ++
            ((pendingBytes sent).drop seen).drop count) := by
          rw [List.take_append_drop, List.take_append_drop]
      _ = _ := by
          rw [chunk, List.drop_drop, matched, matched]
          simp only [List.append_assoc]
  obtain ⟨before, notification, after, whole, same, inside, behind⟩ :=
    matched_in_notification sent plain _ _ _ _ firstLine secondLine split
  have text : pdu = String.ofList notification.pdu := by
    have read := congrArg RustText.fromUtf8 same
    rw [RustText.from_utf8_bytes, RustText.from_utf8_bytes, String.ofList_toList] at read
    exact Option.some.inj read
  have total : (pendingBytes sent).length = (pendingBytes before).length +
      notification.bytes.length + (pendingBytes after).length := by
    rw [whole, pending_bytes_append]
    simp [pendingBytes, FramedStream.streamBytes, FramedStream.Piece.bytes, Nat.add_assoc]
  have rest := congrArg List.length behind
  rw [List.length_append, List.length_drop] at rest
  rw [List.length_append, List.length_take] at inside
  -- the match starts past what was seen and ends within the read
  have early : seen < (pendingBytes before).length + notification.bytes.length := by omega
  have late : (pendingBytes before).length + notification.bytes.length ≤ seen + count := by omega
  have new := FramedStream.read_past_message Notification.bytes seen (seen + count) before after
    notification early late
  rw [← whole] at new
  have named := new.map fun notification : Notification => String.ofList notification.pdu
  rw [List.map_append, List.map_singleton, ← text] at named
  exact named

theorem read_traced (gsm7 : Gsm7) (before after : Line) (count : Nat) (sent : Pending) (seen : Nat)
    (step : Step gsm7 before (.read count) after) (traced : Traced before sent seen) :
    Traced after sent (seen + count) := by
  have there : count ≤ (pendingBytes before.pending).length := by
    simp only [Step, stepLine] at step
    split at step
    · next allowed => exact allowed.2.2
    · cases step
  have fits : seen + count ≤ (pendingBytes sent).length := by
    rw [traced.pending, List.length_drop] at there
    have within := traced.within
    omega
  have bytes := taken_bytes before count
  rw [traced.pending] at bytes
  rw [read_step gsm7 before after count step]
  have frame := on_read_frame gsm7 { before with pending := before.left count }
    (pendingBytes (before.taken count))
  refine ⟨traced.plain, ?_, fits, ?_, ?_⟩
  · rw [frame.2]
    exact traced.emitted
  · rw [frame.1, bytes.2, List.drop_drop]
  · rcases on_read_captured gsm7 { before with pending := before.left count }
      (pendingBytes (before.taken count)) with same | ⟨pdu, found, more⟩
    · rw [same]
      have further := passed_mono sent [] (Nat.le_add_right seen count)
      rw [List.append_nil] at further
      exact traced.captured.trans further
    · rw [more]
      rw [bytes.1] at found
      exact (traced.captured.append (List.Sublist.refl [pdu])).trans
        (captured_passed sent traced.plain seen count fits pdu found)

theorem sent_traced (before after : Line) (sent : Pending) (seen : Nat)
    (piece : FramedStream.Piece Notification UInt8) (written : Sent piece)
    (pending : after.pending = before.pending ++ [piece])
    (emitted : after.emitted = before.emitted ++ unread [piece])
    (captured : after.captured = before.captured) (traced : Traced before sent seen) :
    Traced after (sent ++ [piece]) seen := by
  refine ⟨?_, ?_, ?_, ?_, ?_⟩
  · intro other member
    rcases List.mem_append.mp member with earlier | last
    · exact traced.plain other earlier
    · exact List.mem_singleton.mp last ▸ written
  · rw [emitted, unread_append, traced.emitted]
  · rw [pending_bytes_append, List.length_append]
    have within := traced.within
    omega
  · rw [pending, pending_bytes_append, pending_bytes_append, traced.pending,
      List.drop_append_of_le_length traced.within]
  · rw [captured]
    exact traced.captured.trans (passed_mono sent [piece] (Nat.le_refl seen))

theorem mode_traced (before : Line) (mode : Mode) (sent : Pending) (seen : Nat)
    (traced : Traced before sent seen) : Traced { before with mode := mode } sent seen :=
  ⟨traced.plain, traced.emitted, traced.within, traced.pending, traced.captured⟩

theorem step_traced (gsm7 : Gsm7) (before : Line) (label : Label) (after : Line)
    (step : LabelledRun.guarded UntaggedAnswers (Step gsm7) before label after)
    (traced : ∃ sent seen, Traced before sent seen) : ∃ sent seen, Traced after sent seen := by
  obtain ⟨plain, moved⟩ := step
  obtain ⟨sent, seen, traced⟩ := traced
  cases label with
  | read count =>
      exact ⟨sent, seen + count, read_traced gsm7 before after count sent seen moved traced⟩
  | notify notification =>
      cases moved
      refine ⟨sent ++ [.whole notification], seen, ?_⟩
      apply sent_traced before _ sent seen (.whole notification) trivial
      · rfl
      · rfl
      · rfl
      · exact traced
  | answer bytes =>
      cases moved
      refine ⟨sent ++ [.filler bytes], seen, ?_⟩
      apply sent_traced before _ sent seen (.filler bytes) plain
      · rfl
      · exact (List.append_nil _).symm
      · rfl
      · exact traced
  | waitSms =>
      simp only [Step, stepLine] at moved
      split at moved
      · cases moved
        exact ⟨sent, seen, mode_traced before _ sent seen traced⟩
      · cases moved
  | sendSms sms =>
      simp only [Step, stepLine] at moved
      split at moved
      · split at moved
        · cases moved
          exact ⟨sent, seen, mode_traced before _ sent seen traced⟩
        · cases moved
          exact ⟨sent, seen, mode_traced before _ sent seen traced⟩
        · cases moved
          exact ⟨sent, seen, traced⟩
      · cases moved
  | cancel =>
      simp only [Step, stepLine] at moved
      split at moved
      · cases moved
      · cases moved
        exact ⟨sent, seen, mode_traced before _ sent seen traced⟩

theorem traced_sublist {line : Line} {sent : Pending} {seen : Nat}
    (traced : Traced line sent seen) : line.captured.Sublist line.emitted := by
  have among := traced.captured.trans (passed_sublist sent seen)
  rwa [traced.emitted] at among

theorem start_traced : Traced Line.start [] 0 :=
  ⟨by simp, rfl, Nat.le_refl 0, rfl, List.nil_sublist _⟩

/-- However the reads cut the line, the PDUs captured are ones that the modem
sent, unaltered, in their order and each at most once. -/
theorem captured_were_sent (gsm7 : Gsm7) (labels : List Label) (line : Line)
    (run : LabelledRun.Run (LabelledRun.guarded UntaggedAnswers (Step gsm7)) Line.start labels
      line) : line.captured.Sublist line.emitted := by
  obtain ⟨sent, seen, traced⟩ :=
    LabelledRun.run_invariant (fun line => ∃ sent seen, Traced line sent seen) (step_traced gsm7)
      run ⟨[], 0, start_traced⟩
  exact traced_sublist traced

def okAnswer : List UInt8 := [13, 10, 79, 75, 13] ++ [10]

/-- An answer and two notifications on the line, and a `wait_sms` under way. -/
def twoAnnounced : Line where
  mode := .waiting
  pending := [.filler okAnswer, .whole openNotification, .whole statusNotification]
  emitted := [String.ofList openNotification.pdu, String.ofList statusNotification.pdu]
  captured := []

theorem two_announced_run : LabelledRun.Run
    (LabelledRun.guarded UntaggedAnswers (Step Gsm7.standard)) Line.start
    [.answer okAnswer, .notify openNotification, .notify statusNotification, .waitSms]
    twoAnnounced := by
  have untagged : Untagged okAnswer :=
    untagged_of_last _ 10 (by decide +kernel) (by decide +kernel)
  exact .next ⟨untagged, rfl⟩ (.next ⟨trivial, rfl⟩ (.next ⟨trivial, rfl⟩
    (.next ⟨trivial, rfl⟩ (.refl _))))

theorem second_captured : ∃ labels line,
    LabelledRun.Run (LabelledRun.guarded UntaggedAnswers (Step Gsm7.standard)) Line.start labels
      line ∧
    line.captured = [String.ofList statusNotification.pdu] ∧
    line.emitted = [String.ofList openNotification.pdu, String.ofList statusNotification.pdu] ∧
    line.captured.Sublist line.emitted := by
  have first := step_read_again Gsm7.standard twoAnnounced 128
    ("\r\nOK\r\n".toList ++ openNotification.text.take 122) rfl (by decide) (by decide)
    (by decide +kernel) (by decide +kernel) (by decide +kernel)
  have second := step_read Gsm7.standard
    { twoAnnounced with pending := twoAnnounced.left 128 } 100 (by decide) (by decide)
    (by decide +kernel)
  have free : ∀ line count, UntaggedAnswers line (.read count) := fun _ _ => trivial
  have run := LabelledRun.run_append two_announced_run
    (.next ⟨free _ 128, first⟩ (.next ⟨free _ 100, second⟩ (.refl _)))
  refine ⟨_, _, run, by decide +kernel, ?_, captured_were_sent _ _ _ run⟩
  rw [(on_read_frame _ _ _).2]
  rfl

end TelcoVecchio.CapturedOnce
