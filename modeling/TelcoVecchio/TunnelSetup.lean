import TelcoVecchio.Service
import TelcoVecchio.UrlReading

/-!
Whether the set-up of a tunnel comes back. Only the reading of the standard
output is under the timeout; without a url everything hangs on one read of the
standard error, which has to come and to be text.
-/

namespace TelcoVecchio.TunnelSetup

open Common SshUtils Service UrlReading PrefixScan

def Quiet (output : List UInt8) : Prop :=
  ∃ text, RustText.fromUtf8 output = some text ∧ captureUrl text.toList = none ∧
    captureErrorCode text.toList = none

/-- Some read completes a line with a url, and everything read before each
earlier read was over is text with neither a url nor a code. -/
def UrlRead (reads : List (Except IoError (List UInt8))) : Prop :=
  ∃ earlier last rest, reads = earlier.map .ok ++ .ok last :: rest ∧
    (∀ shorter longer, earlier = shorter ++ longer → shorter ≠ [] → Quiet shorter.flatten) ∧
    ∃ text, RustText.fromUtf8 (earlier.flatten ++ last) = some text ∧
      captureUrl text.toList ≠ none

def Reports (stderr : StderrRead) : Prop :=
  ∃ content, stderr = .bytes content ∧ RustText.fromUtf8 (content.take 300) ≠ none

theorem decision_none_iff (output : List UInt8) : decision output = none ↔ Quiet output := by
  rw [decision_eq, Quiet]
  cases RustText.fromUtf8 output with
  | none => simp
  | some text =>
      cases url : captureUrl text.toList with
      | some _ => simp [patternResult, url]
      | none => simp [patternResult, url]

theorem decision_url_iff (output : List UInt8) (url : String) :
    decision output = some (.ok url) ↔
      ∃ text, RustText.fromUtf8 output = some text ∧ captureUrl text.toList = some url := by
  rw [decision_eq]
  cases RustText.fromUtf8 output with
  | none => simp
  | some text =>
      cases found : captureUrl text.toList with
      | some _ => simp [patternResult, found]
      | none => simp [patternResult, found]

theorem read_url_append (output : List UInt8) (chunks : List (List UInt8))
    (rest : List (Except IoError (List UInt8)))
    (undecided : scan decision output chunks = none) :
    readUrl output (chunks.map .ok ++ rest) = readUrl (output ++ chunks.flatten) rest := by
  induction chunks generalizing output with
  | nil => simp
  | cons chunk others ih =>
      cases here : decision (output ++ chunk) with
      | some result => simp [scan, here] at undecided
      | none =>
          simp only [scan, here] at undecided
          rw [List.map_cons, List.cons_append, read_url_turn, here, List.flatten_cons,
            ← List.append_assoc]
          exact ih (output ++ chunk) undecided

theorem read_url_ok (output : List UInt8) (reads : List (Except IoError (List UInt8)))
    (url : String) (read : readUrl output reads = .ok url) :
    ∃ earlier last rest, reads = earlier.map .ok ++ .ok last :: rest ∧
      (∀ shorter longer, earlier = shorter ++ longer → shorter ≠ [] →
        decision (output ++ shorter.flatten) = none) ∧
      decision (output ++ earlier.flatten ++ last) = some (.ok url) := by
  induction reads generalizing output with
  | nil => cases read
  | cons first rest ih =>
      cases first with
      | error error => cases read
      | ok chunk =>
          rw [read_url_turn] at read
          cases here : decision (output ++ chunk) with
          | some result =>
              simp only [here] at read
              rw [read] at here
              refine ⟨[], chunk, rest, rfl, ?_, by simpa using here⟩
              intro shorter longer split nonempty
              exact absurd (List.append_eq_nil_iff.mp split.symm).1 nonempty
          | none =>
              simp only [here] at read
              obtain ⟨earlier, last, others, rfl, quiet, found⟩ := ih (output ++ chunk) read
              refine ⟨chunk :: earlier, last, others, rfl, ?_, ?_⟩
              · intro shorter longer split nonempty
                cases shorter with
                | nil => exact absurd rfl nonempty
                | cons head tail =>
                    rw [List.cons_append, List.cons.injEq] at split
                    obtain ⟨rfl, more⟩ := split
                    by_cases only : tail = []
                    · subst tail
                      simpa using here
                    · have later := quiet tail longer more only
                      rwa [List.append_assoc, ← List.flatten_cons] at later
              · rwa [List.flatten_cons, ← List.append_assoc]

theorem read_url_ok_iff (reads : List (Except IoError (List UInt8))) :
    (∃ url, readUrl [] reads = .ok url) ↔ UrlRead reads := by
  constructor
  · rintro ⟨url, read⟩
    obtain ⟨earlier, last, rest, rfl, quiet, found⟩ := read_url_ok [] reads url read
    obtain ⟨text, isText, line⟩ := (decision_url_iff _ url).mp found
    refine ⟨earlier, last, rest, rfl, ?_, text, isText, by simp [line]⟩
    intro shorter longer split nonempty
    exact (decision_none_iff _).mp (quiet shorter longer split nonempty)
  · rintro ⟨earlier, last, rest, rfl, quiet, text, isText, found⟩
    obtain ⟨url, line⟩ := Option.ne_none_iff_exists'.mp found
    have undecided : scan decision [] earlier = none := by
      apply scan_undecided
      intro shorter longer split nonempty
      exact (decision_none_iff _).mpr (quiet shorter longer split nonempty)
    have decided := (decision_url_iff _ url).mpr ⟨text, isText, line⟩
    refine ⟨url, ?_⟩
    rw [read_url_append [] earlier _ undecided, read_url_turn, List.nil_append, decided]

theorem report_returns_iff (stderr : StderrRead) (error : Error) :
    Returned (reportStderr stderr error) ↔ Reports stderr := by
  cases stderr with
  | silent => simp [reportStderr, Returned, Reports]
  | failed => simp [reportStderr, Returned, Reports]
  | bytes content =>
      simp only [reportStderr, Reports, StderrRead.bytes.injEq, exists_eq_left']
      cases RustText.fromUtf8 (content.take 300) with
      | none => simp [Returned]
      | some text => simp [Returned]

theorem await_returns_iff (process : SshProcess) :
    Returned (awaitUrl process) ↔ UrlRead process.stdout ∨ Reports process.stderr := by
  rw [← read_url_ok_iff]
  cases read : readUrl [] process.stdout with
  | ok url => simp [awaitUrl, read, Returned]
  | error error => simp [awaitUrl, read, report_returns_iff]

/-- For every behaviour of the ssh process, or its failed spawn, the set-up
returns if and only if the output gives a url or the standard error is there to
be read as text. -/
theorem setup_returns_iff (attempt : SshAttempt) (hostIp : IpAddr) (port : Int) (child : Child) :
    Returned (setupSshTunnel attempt hostIp port child).1 ↔
      ∀ process, attempt = .ok process → UrlRead process.stdout ∨ Reports process.stderr := by
  cases attempt with
  | error error => simp [setupSshTunnel, Returned]
  | ok process =>
      simp only [Except.ok.injEq, forall_eq', ← await_returns_iff, setupSshTunnel]
      cases awaitUrl process <;> simp [Returned]

theorem silent_process_keeps_waiting : ¬ ∀ attempt hostIp port child,
    Returned (setupSshTunnel attempt hostIp port child).1 := by
  intro returns
  exact returns (.ok { stdout := [], stderr := .silent }) ⟨[192, 168, 1, 2]⟩ 80 ⟨0⟩

end TelcoVecchio.TunnelSetup
