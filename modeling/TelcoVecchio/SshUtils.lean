import TelcoVecchio.Common
import TelcoVecchio.CapturePattern

/-!
`daemon/src/ssh_utils.rs`: spawning ssh and reading the tunnel url from its
output. An attempt says how the process behaves: the chunks its standard
output yields before the set-up timeout fires, and the single read of its
standard error that an unsuccessful set-up makes afterwards.
-/

namespace TelcoVecchio.SshUtils

open Common

/-- The one `stderr.read` of the error path; a live process that writes
nothing leaves it waiting. -/
inductive StderrRead where
  | bytes (content : List UInt8)
  | failed
  | silent

/-- A read of no bytes is the end of the output. The list ends where the
process says nothing more before the timeout. -/
structure SshProcess where
  stdout : List (Except IoError (List UInt8))
  stderr : StderrRead

abbrev SshAttempt := Except IoError SshProcess

/-- The cursor's vector: 300 zero bytes, overwritten from the start and grown
when the output is longer. -/
def cursorBuffer (output : List UInt8) : List UInt8 :=
  output ++ List.replicate (300 - output.length) 0

def wordCharacter (char : Char) : Bool := char.isAlphanum || char == '_'

/-- `Forwarding  (.+)\n` -/
def successPattern : List CapturePattern.Item :=
  CapturePattern.literal "Forwarding  ".toList ++
    [.many 1 true CapturePattern.notLineFeed, CapturePattern.exactly '\n']

/-- `(ERR_[a-zA-Z0-9_]+)`, with the capture of its variable part. -/
def errorPattern : List CapturePattern.Item :=
  CapturePattern.literal "ERR_".toList ++ [.many 1 true wordCharacter]

def captureUrl (text : List Char) : Option String :=
  (CapturePattern.search successPattern text).bind fun captures =>
    captures.head?.map String.ofList

def captureErrorCode (text : List Char) : Option String :=
  (CapturePattern.search errorPattern text).bind fun captures =>
    captures.head?.map fun code => "ERR_" ++ String.ofList code

/-- The reading loop; `output` is what was read so far. When the reads are
used up the loop is still waiting, and the timeout ends it. -/
def readUrl (output : List UInt8) : List (Except IoError (List UInt8)) → Except Error String
  | [] => .error .sshTunnelUrlSetupTimeout
  | .error _ :: _ => .error .systemCommandExecutionError
  | .ok chunk :: rest =>
      -- everything read so far is matched again, with the zeros behind it
      match RustText.fromUtf8 (cursorBuffer (output ++ chunk)) with
      | none => .error .sshTunnelUrlParsingError
      | some text =>
          match captureUrl text.toList with
          | some url => .ok url
          | none =>
              match captureErrorCode text.toList with
              | some code => .error (.sshTunnelServiceError code)
              | none => readUrl (output ++ chunk) rest

/-- The error path reads the standard error and unwraps the read and its text. -/
def reportStderr (stderr : StderrRead) (error : Error) : Outcome String :=
  match stderr with
  | .silent => .stuck
  | .failed => .panic
  | .bytes content =>
      match RustText.fromUtf8 (content.take 300) with
      | none => .panic
      | some _ => .err error

def awaitUrl (process : SshProcess) : Outcome String :=
  match readUrl [] process.stdout with
  | .ok url => .ok url
  | .error error => reportStderr process.stderr error

/-- `setup_ssh_tunnel` spawning `child`. Whenever it returns or panics without
a url, its local `ssh_process` is dropped. -/
def setupSshTunnel (attempt : SshAttempt) (hostIp : IpAddr) (port : Int) (child : Child) :
    Outcome (String × Child) × List Effect :=
  match attempt with
  | .error error => (.err (.ioError error), [.setupCalled hostIp port])
  | .ok process =>
      match awaitUrl process with
      | .ok url => (.ok (url, child), [.setupCalled hostIp port, .spawned child])
      | .err error =>
          (.err error, [.setupCalled hostIp port, .spawned child, .dropped child])
      | .panic => (.panic, [.setupCalled hostIp port, .spawned child, .dropped child])
      | .stuck => (.stuck, [.setupCalled hostIp port, .spawned child])

theorem capture_forwarding (url following : List Char) (nonempty : url ≠ [])
    (single : '\n' ∉ url) :
    captureUrl ("Forwarding  ".toList ++ (url ++ '\n' :: following)) = some (String.ofList url) := by
  have run : (url ++ '\n' :: following).takeWhile CapturePattern.notLineFeed = url := by
    rw [List.takeWhile_append_of_pos]
    · simp [CapturePattern.notLineFeed]
    · intro char member
      have other : char ≠ '\n' := fun same => single (same ▸ member)
      simpa [CapturePattern.notLineFeed] using other
  obtain ⟨count, length⟩ : ∃ count, url.length = count + 1 :=
    Nat.exists_eq_succ_of_ne_zero (by simpa using nonempty)
  have hit : CapturePattern.matchItems successPattern
      ("Forwarding  ".toList ++ (url ++ '\n' :: following)) = some [url] := by
    have dropped : (url ++ '\n' :: following).drop (count + 1) = '\n' :: following :=
      length ▸ List.drop_left
    have taken : (url ++ '\n' :: following).take (count + 1) = url := length ▸ List.take_left
    rw [successPattern, CapturePattern.match_literal]
    simp [CapturePattern.matchItems, run, length, CapturePattern.longestFirst, dropped, taken,
      CapturePattern.exactly]
  rw [captureUrl, CapturePattern.search_here _ _ _ hit]
  rfl

theorem first_read_url (url : List Char) (nonempty : url ≠ []) (single : '\n' ∉ url)
    (rest : List (Except IoError (List UInt8))) :
    readUrl [] (.ok (RustText.utf8Bytes ("Forwarding  ".toList ++ (url ++ ['\n']))) :: rest) =
      .ok (String.ofList url) := by
  obtain ⟨nuls, buffer⟩ : ∃ nuls, cursorBuffer (RustText.utf8Bytes
      ("Forwarding  ".toList ++ (url ++ ['\n']))) =
      RustText.utf8Bytes ("Forwarding  ".toList ++ (url ++ '\n' :: nuls)) := by
    refine ⟨List.replicate (300 - (RustText.utf8Bytes
      ("Forwarding  ".toList ++ (url ++ ['\n']))).length) '\x00', ?_⟩
    rw [cursorBuffer, ← RustText.utf8_bytes_nul, ← RustText.utf8_bytes_append]
    simp
  rw [readUrl, List.nil_append, buffer, RustText.from_utf8_bytes]
  simp only [String.toList_ofList, capture_forwarding url nuls nonempty single]

theorem await_url_of_read (process : SshProcess) (url : String)
    (read : readUrl [] process.stdout = .ok url) : awaitUrl process = .ok url := by
  simp only [awaitUrl, read]

end TelcoVecchio.SshUtils
