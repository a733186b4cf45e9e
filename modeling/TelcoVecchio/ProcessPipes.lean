import TelcoVecchio.PipedChild
import TelcoVecchio.SmsUtils
import TelcoVecchio.Request

/-!
The pipes of the processes that the daemon waits for. `qmi_command` leaves both
output pipes to `wait_with_output`, which drains them. `send_email` takes the
error pipe away first and reads it after the wait, although sendmail writes its
report there: a report that does not fit in the pipe stops sendmail, and the mail
is given up at the timeout. The text of the mail goes in with one `write`, which
takes what the pipe has room for.
-/

namespace TelcoVecchio.ProcessPipes

open Common Status Request PipedChild

/-- `Subject: {}\n\n{}` -/
def mailContent (title msg : String) : List UInt8 :=
  RustText.utf8Bytes ("Subject: " ++ title ++ "\n\n" ++ msg).toList

/-- `send_email` has taken the error pipe. -/
def drainsOut : Stream → Bool
  | .out => true
  | .err => false

/-- A schedule of `send_email` and the mail binary. -/
def MailRun (capacity : Nat) (title msg : String) (binary : Program UInt8)
    (actions : List Action) (state : State UInt8) : Prop :=
  LabelledRun.Run (Step capacity drainsOut (mailContent title msg)) (start .writing binary) actions
    state

/-- What `send_email` is left with: a wait that goes on ends with the timeout. -/
def mailOutcome (brokenPipe : IoError) (state : State UInt8) : EmailRun :=
  match state.phase, state.child with
  | .broken, _ => .writeFailed brokenPipe
  | .ended, .exited success =>
      match RustText.fromUtf8 (state.pipe .err) with
      | some _ => .exited success
      | none => .stderrFailed SmsUtils.invalidData
  | _, _ => .timedOut

def mailInput (capacity : Nat) (title msg : String) : List UInt8 :=
  (mailContent title msg).take capacity

section Mail
variable {capacity : Nat} {title msg : String} {binary : Program UInt8} {actions : List Action}
  {state : State UInt8}

theorem mail_ended_outcome (brokenPipe : IoError)
    (run : MailRun capacity title msg binary actions state) (ended : state.phase = .ended) :
    sendEmail (mailOutcome brokenPipe state) = .ok () ↔
      (RustText.fromUtf8 (printed binary (mailInput capacity title msg) .err)).isSome = true ∧
        status binary (mailInput capacity title msg) = true := by
  have tracked := run_tracked (Or.inl rfl) run
  have exited := (ended_result tracked ended).1
  have report := over_prints tracked (Or.inr ended) .err
  rw [tracked.kept .err rfl, List.nil_append] at report
  have input : given capacity (mailContent title msg) .writing = mailInput capacity title msg :=
    rfl
  rw [input] at exited report
  simp only [mailOutcome, ended, exited, report]
  cases read : RustText.fromUtf8 (printed binary (mailInput capacity title msg) .err) with
  | none => simp [sendEmail]
  | some text =>
      cases status binary (mailInput capacity title msg) with
      | true => simp [sendEmail]
      | false => simp [sendEmail]

/-- Every schedule of `send_email` and a mail binary that reads before it exits
comes to a halt, and the mail is reported as sent exactly if the binary's report
fits in the pipe and is text, and the binary succeeds on what the pipe took of
the mail. -/
theorem mail_reported_iff (brokenPipe : IoError) (room : 0 < capacity)
    (reads : exitsUnread binary = false)
    (run : MailRun capacity title msg binary actions state) :
    actions.length ≤ 2 * effort binary (mailInput capacity title msg) + 3 ∧
      (Halted capacity drainsOut (mailContent title msg) state →
        (sendEmail (mailOutcome brokenPipe state) = .ok () ↔
          (printed binary (mailInput capacity title msg) .err).length ≤ capacity ∧
            (RustText.fromUtf8 (printed binary (mailInput capacity title msg) .err)).isSome = true ∧
              status binary (mailInput capacity title msg) = true)) := by
  have fitsIff : Fits capacity drainsOut binary (mailInput capacity title msg) ↔
      (printed binary (mailInput capacity title msg) .err).length ≤ capacity := by
    constructor
    · exact fun fits => fits .err rfl
    · intro short stream undrained
      cases stream with
      | out => cases undrained
      | err => exact short
  refine ⟨run_length (Or.inl rfl) run, fun halted => ?_⟩
  have ended : state.phase = .ended ↔ Fits capacity drainsOut binary (mailInput capacity title msg) :=
    run_halted_iff (Or.inl rfl) run (fun _ => reads) room halted
  rw [fitsIff] at ended
  -- a wait that does not come to its end is ended by the timeout
  by_cases through : state.phase = .ended
  · rw [mail_ended_outcome brokenPipe run through]
    exact (and_iff_right (ended.mp through)).symm
  · have whole := (run_attentive (Or.inl rfl) run fun _ => reads).1
    have late : mailOutcome brokenPipe state = .timedOut := by
      cases phase : state.phase with
      | broken => exact absurd phase whole
      | ended => exact absurd phase through
      | writing | closing | waiting => simp only [mailOutcome, phase]
    rw [late]
    exact iff_of_false (by simp [sendEmail]) fun sent => through (ended.mpr sent.1)

end Mail

def terse : Program UInt8 := .read 4095 fun _ => .print .err 46 (.exit true)

theorem terse_reported : ∃ actions state, MailRun 65536 "Tunnel URL" "Hello" terse actions state ∧
    sendEmail (mailOutcome ⟨"Kind(BrokenPipe)"⟩ state) = .ok () := by
  have run : MailRun 65536 "Tunnel URL" "Hello" terse
      [.write, .close, .read, .print, .exit, .finish] _ :=
    .next (.write _ terse rfl rfl) (.next (.close _ rfl)
      (.next (.read _ 4095 _ rfl (Or.inr rfl)) (.next (.print _ .err 46 _ rfl (by decide))
        (.next (.exit _ true rfl) (.next (.finish _ true rfl rfl fun stream isDrained => by
          cases stream with
          | out => rfl
          | err => cases isDrained) (.refl _))))))
  exact ⟨_, _, run, ((mail_reported_iff ⟨"Kind(BrokenPipe)"⟩ (by decide) rfl run).2
    (ended_halted rfl rfl)).mpr ⟨by decide, rfl, rfl⟩⟩

section Qmi
variable {capacity : Nat} {binary : Program UInt8} {actions : List Action} {state : State UInt8}

end Qmi

end TelcoVecchio.ProcessPipes
