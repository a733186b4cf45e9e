import Mathlib.Data.Nat.Find
import TelcoVecchio.OutputPatterns
import TelcoVecchio.PrefixScan

/-!
The reading loop over every way its output can be cut into reads. It decides on
the first prefix that a cut ends at and that holds a url, an error code or half
a character, so the result is one and the same only if the output is ASCII as
far as a read can reach and the first thing decided cannot change by then.
-/

namespace TelcoVecchio.UrlReading

open Common SshUtils OutputPatterns PrefixScan

/-- What one turn of the reading loop decides on everything read so far. -/
def decision (output : List UInt8) : Option (Except Error String) :=
  match RustText.fromUtf8 (cursorBuffer output) with
  | none => some (.error .sshTunnelUrlParsingError)
  | some text =>
      match captureUrl text.toList with
      | some url => some (.ok url)
      | none => (captureErrorCode text.toList).map fun code => .error (.sshTunnelServiceError code)

def readChunks (chunks : List (List UInt8)) : Except Error String := readUrl [] (chunks.map .ok)

theorem read_url_turn (output chunk : List UInt8) (rest : List (Except IoError (List UInt8))) :
    readUrl output (.ok chunk :: rest) =
      match decision (output ++ chunk) with
      | some result => result
      | none => readUrl (output ++ chunk) rest := by
  rw [readUrl, decision]
  cases RustText.fromUtf8 (cursorBuffer (output ++ chunk)) with
  | none => rfl
  | some text =>
      cases url : captureUrl text.toList with
      | some url => simp only [url]
      | none =>
          cases code : captureErrorCode text.toList with
          | some code => simp only [url, code, Option.map_some]
          | none => simp only [url, code, Option.map_none]

theorem read_url_scan (output : List UInt8) (chunks : List (List UInt8)) :
    readUrl output (chunks.map .ok) =
      (scan decision output chunks).getD (.error .sshTunnelUrlSetupTimeout) := by
  induction chunks generalizing output with
  | nil => rfl
  | cons chunk rest ih =>
      rw [List.map_cons, read_url_turn]
      cases decided : decision (output ++ chunk) with
      | some result => simp [scan, decided]
      | none => simp [scan, decided, ih]

theorem read_chunks_of_scan {chunks : List (List UInt8)} {result : Except Error String}
    (scanned : scan decision [] chunks = some result) : readChunks chunks = result := by
  rw [readChunks, read_url_scan, scanned]
  rfl

theorem read_chunks_timeout {chunks : List (List UInt8)}
    (scanned : scan decision [] chunks = none) :
    readChunks chunks = .error .sshTunnelUrlSetupTimeout := by
  rw [readChunks, read_url_scan, scanned]
  rfl

def patternResult (text : List Char) : Option (Except Error String) :=
  match captureUrl text with
  | some url => some (.ok url)
  | none => (captureErrorCode text).map fun code => .error (.sshTunnelServiceError code)

theorem url_before_nuls (text : List Char) (count : Nat) :
    captureUrl (text ++ List.replicate count '\x00') = captureUrl text := by
  have quiet : '\n' ∉ List.replicate count '\x00' := by
    intro member
    exact absurd (List.eq_of_mem_replicate member) (by decide)
  rw [captureUrl, search_success_quiet text _ quiet, captureUrl]

theorem code_before_nuls (text : List Char) (count : Nat) :
    captureErrorCode (text ++ List.replicate count '\x00') = captureErrorCode text := by
  have stops : Stops (List.replicate count '\x00') := by
    intro char first
    rw [List.eq_of_mem_replicate (List.mem_of_mem_head? first)]
    rfl
  have silent : CapturePattern.search errorPattern (List.replicate count '\x00') = none := by
    cases hit : CapturePattern.search errorPattern (List.replicate count '\x00') with
    | none => rfl
    | some found =>
        obtain ⟨suffix, inside, matched⟩ := CapturePattern.search_some _ _ found hit
        obtain ⟨code, following, rfl, _⟩ := (match_error_iff suffix found).mp matched
        have member : 'E' ∈ List.replicate count '\x00' := inside.subset (by simp)
        exact absurd (List.eq_of_mem_replicate member) (by decide)
  have whole := CapturePattern.search_append errorPattern text (List.replicate count '\x00')
    (fun suffix _ nonempty => match_error_append suffix _ nonempty stops) rfl
  rw [silent] at whole
  rw [captureErrorCode, captureErrorCode, whole]
  cases CapturePattern.search errorPattern text <;> rfl

theorem decision_eq (output : List UInt8) :
    decision output =
      match RustText.fromUtf8 output with
      | none => some (.error .sshTunnelUrlParsingError)
      | some text => patternResult text.toList := by
  rw [decision, cursorBuffer, RustText.from_utf8_zeros]
  cases RustText.fromUtf8 output with
  | none => rfl
  | some text =>
      simp only [Option.map_some, String.toList_ofList, url_before_nuls, code_before_nuls]
      rfl

theorem decision_text (text : List Char) :
    decision (RustText.utf8Bytes text) = patternResult text := by
  rw [decision_eq, RustText.from_utf8_bytes]
  simp only [String.toList_ofList]

theorem decision_ascii (output : List UInt8) (ascii : output.all RustText.isAscii = true) :
    decision output = patternResult (RustText.asciiText output) := by
  rw [decision_eq, RustText.from_utf8_ascii output ascii]
  simp only [String.toList_ofList]

theorem pattern_result_kind (text : List Char) (result : Except Error String)
    (decided : patternResult text = some result) :
    result ≠ .error .sshTunnelUrlParsingError ∧ result ≠ .error .sshTunnelUrlSetupTimeout := by
  simp only [patternResult] at decided
  split at decided
  · cases decided
    exact ⟨by simp, by simp⟩
  · obtain ⟨code, _, rfl⟩ := Option.map_eq_some_iff.mp decided
    exact ⟨by simp, by simp⟩

def Decides (output : List UInt8) : Prop :=
  ∃ text, RustText.fromUtf8 output = some text ∧
    (captureUrl text.toList ≠ none ∨ captureErrorCode text.toList ≠ none)

theorem pattern_result_ne_none_iff (text : List Char) :
    patternResult text ≠ none ↔ captureUrl text ≠ none ∨ captureErrorCode text ≠ none := by
  cases url : captureUrl text with
  | some _ => simp [patternResult, url]
  | none => simp [patternResult, url]

theorem decision_undecided (output : List UInt8) (silent : ¬ Decides output) :
    (decision output = none ∧ RustText.fromUtf8 output ≠ none) ∨
      (decision output = some (.error .sshTunnelUrlParsingError) ∧
        RustText.fromUtf8 output = none) := by
  rw [decision_eq]
  cases read : RustText.fromUtf8 output with
  | none => exact Or.inr ⟨rfl, rfl⟩
  | some text =>
      left
      refine ⟨?_, by simp⟩
      by_contra decided
      exact silent ⟨text, read, (pattern_result_ne_none_iff text.toList).mp decided⟩

theorem decision_of_decides (output : List UInt8) (decides : Decides output) :
    ∃ text result, output = RustText.utf8Bytes text ∧ patternResult text = some result ∧
      decision output = some result := by
  obtain ⟨text, read, found⟩ := decides
  obtain ⟨result, decided⟩ := Option.ne_none_iff_exists'.mp
    ((pattern_result_ne_none_iff text.toList).mpr found)
  refine ⟨text.toList, result, RustText.from_utf8_some _ _ read, decided, ?_⟩
  rw [decision_eq, read]
  exact decided

structure FirstDecision (written : List UInt8) (first : Nat) : Prop where
  decides : Decides (written.take first)
  earlier : ∀ count, count < first → ¬ Decides (written.take count)

def reach (first : Nat) : Nat := first + 29

inductive ReadsAlike (written : List UInt8) : Prop where
  | undecided (never : ∀ count, ¬ Decides (written.take count))
      (plain : written.all RustText.isAscii = true ∨ RustText.fromUtf8 written = none)
  | url (first : Nat) (decided : FirstDecision written first)
      (plain : (written.take (reach first)).all RustText.isAscii = true)
      (url : captureUrl (RustText.asciiText (written.take first)) ≠ none)
  | code (first : Nat) (decided : FirstDecision written first)
      (plain : (written.take (reach first)).all RustText.isAscii = true)
      (stops : ∀ byte ∈ written[first]?, wordCharacter (Char.ofNat byte.toNat) = false)
      (noUrl : ∀ count ≤ reach first,
        captureUrl (RustText.asciiText (written.take count)) = none)

def WholeUrl (written : List UInt8) (url : String) : Prop :=
  ∃ before after, written = before ++ RustText.utf8Bytes ("Forwarding  ".toList ++
    (url.toList ++ ['\n'])) ++ after ∧ url ≠ "" ∧ '\n' ∉ url.toList

/-- The code is all the word characters behind an `ERR_` of the output. -/
def WholeCode (written : List UInt8) (code : String) : Prop :=
  ∃ before run after, code = "ERR_" ++ String.ofList run ∧ run ≠ [] ∧
    (∀ char ∈ run, wordCharacter char = true) ∧
    written = before ++ RustText.utf8Bytes code.toList ++ after ∧
    ∀ byte ∈ after.head?, wordCharacter (Char.ofNat byte.toNat) = false

/-- Every two deliveries of the output in reads of 1 to 30 bytes end alike, with
the url of a complete line, with a complete error code, or with another error,
which for a text is not that of the parsing. -/
structure CutIndependent (written : List UInt8) : Prop where
  same : ∀ first second, Delivers 30 written first → Delivers 30 written second →
    readChunks first = readChunks second
  wholeUrl : ∀ chunks url, Delivers 30 written chunks → readChunks chunks = .ok url →
    WholeUrl written url
  wholeCode : ∀ chunks code, Delivers 30 written chunks →
    readChunks chunks = .error (.sshTunnelServiceError code) → WholeCode written code
  text : RustText.fromUtf8 written ≠ none → ∀ chunks, Delivers 30 written chunks →
    readChunks chunks ≠ .error .sshTunnelUrlParsingError

theorem capture_url_some {text : List Char} {url : String} (found : captureUrl text = some url) :
    ∃ captures, CapturePattern.search successPattern text = some captures ∧
      captures.head?.map String.ofList = some url :=
  Option.bind_eq_some_iff.mp found

theorem capture_url_stable {text : List Char} {url : String} (found : captureUrl text = some url)
    (more : List Char) : captureUrl (text ++ more) = some url := by
  obtain ⟨captures, hit, head⟩ := capture_url_some found
  rw [captureUrl, search_success_stable text more captures hit]
  exact head

theorem capture_code_stable {text : List Char} {code : String}
    (found : captureErrorCode text = some code) (more : List Char) (stops : Stops more) :
    captureErrorCode (text ++ more) = some code := by
  obtain ⟨run, hit, spelled⟩ := (capture_code_iff text code).mp found
  exact (capture_code_iff _ _).mpr ⟨run, search_error_stable text more [run] hit stops, spelled⟩

theorem capture_url_line {text : List Char} {url : String} (found : captureUrl text = some url) :
    ∃ before after, text = before ++ ("Forwarding  ".toList ++ (url.toList ++ ['\n'])) ++ after ∧
      url ≠ "" ∧ '\n' ∉ url.toList := by
  obtain ⟨captures, hit, head⟩ := capture_url_some found
  obtain ⟨suffix, ⟨before, rfl⟩, matched⟩ := CapturePattern.search_some _ _ _ hit
  obtain ⟨line, following, rfl, nonempty, single, rfl⟩ := (match_success_iff _ _).mp matched
  simp only [List.head?_cons, Option.map_some, Option.some.injEq] at head
  subst url
  refine ⟨before, following, by simp, ?_, by rwa [String.toList_ofList]⟩
  intro empty
  have lists := congrArg String.toList empty
  rw [String.toList_ofList] at lists
  exact nonempty lists

theorem capture_code_run {text : List Char} {code : String}
    (found : captureErrorCode text = some code) :
    ∃ before run after, code = "ERR_" ++ String.ofList run ∧ run ≠ [] ∧
      (∀ char ∈ run, wordCharacter char = true) ∧ text = before ++ code.toList ++ after ∧
      Stops after := by
  obtain ⟨run, hit, rfl⟩ := (capture_code_iff text code).mp found
  obtain ⟨before, _, after, same, rfl, nonempty, word, stops⟩ := search_error_run text [run] hit
  cases same
  refine ⟨before, run, after, rfl, nonempty, word, ?_, stops⟩
  rw [String.toList_append, String.toList_ofList]
  simp

theorem ascii_text_append (left right : List UInt8) :
    RustText.asciiText (left ++ right) =
      RustText.asciiText left ++ RustText.asciiText right := List.map_append

section Written
variable {written : List UInt8}

theorem ascii_take {bound count : Nat}
    (plain : (written.take bound).all RustText.isAscii = true) (within : count ≤ bound) :
    (written.take count).all RustText.isAscii = true := by
  have shorter : written.take count = (written.take bound).take count := by
    rw [List.take_take, Nat.min_eq_left within]
  rw [shorter]
  exact List.all_eq_true.mpr fun byte member =>
    List.all_eq_true.mp plain byte (List.mem_of_mem_take member)

theorem first_decision_pos {first : Nat} (decided : FirstDecision written first) : 0 < first := by
  by_contra zero
  obtain ⟨text, result, same, found, _⟩ := decision_of_decides _ decided.decides
  rw [Nat.eq_zero_of_not_pos zero, List.take_zero] at same
  cases text with
  | nil => cases found
  | cons head tail =>
      have width := congrArg List.length same
      have positive := Char.utf8Size_pos head
      rw [RustText.utf8_bytes_length, RustText.byte_length_cons, List.length_nil] at width
      omega

theorem first_decision_le {first : Nat} (decided : FirstDecision written first) :
    first ≤ written.length := by
  by_contra past
  have whole := decided.decides
  rw [List.take_of_length_le (by omega)] at whole
  apply decided.earlier written.length (by omega)
  rwa [List.take_length]

theorem quiet_of_ascii {bound limit : Nat}
    (plain : (written.take bound).all RustText.isAscii = true) (within : limit ≤ bound + 1)
    (silent : ∀ count, count < limit → ¬ Decides (written.take count)) :
    QuietBelow decision written limit := by
  intro count _ below
  rcases decision_undecided _ (silent count below) with ⟨none, _⟩ | ⟨_, broken⟩
  · exact none
  · rw [RustText.from_utf8_ascii _ (ascii_take plain (by omega))] at broken
    cases broken

theorem take_split {first count : Nat} (ordered : first ≤ count) :
    written.take count = written.take first ++ (written.drop first).take (count - first) := by
  rw [← List.take_add, Nat.add_sub_cancel' ordered]

/-- All deliveries end with the first decision if every read that can pass over
it decides the same. -/
theorem window_unanimous {first : Nat} {result : Except Error String}
    (decided : FirstDecision written first)
    (plain : (written.take (reach first)).all RustText.isAscii = true)
    (agree : ∀ count, first ≤ count → count ≤ reach first →
      decision (written.take count) = some result)
    (chunks : List (List UInt8)) (delivers : Delivers 30 written chunks) :
    readChunks chunks = result := by
  have quiet : QuietBelow decision written first :=
    quiet_of_ascii plain (by unfold reach; omega) decided.earlier
  apply read_chunks_of_scan
  apply scan_window decision 30 written first result (first_decision_le decided) quiet
  · intro count reached _ near
    exact agree count reached (by unfold reach; omega)
  · exact first_decision_pos decided
  · exact delivers.whole
  · exact delivers.nonempty
  · exact delivers.bounded

theorem url_agrees {first : Nat} {url : String}
    (plain : (written.take (reach first)).all RustText.isAscii = true)
    (found : captureUrl (RustText.asciiText (written.take first)) = some url) (count : Nat)
    (reached : first ≤ count) (near : count ≤ reach first) :
    decision (written.take count) = some (.ok url) := by
  rw [decision_ascii _ (ascii_take plain near), take_split reached, ascii_text_append,
    patternResult, capture_url_stable found]

theorem code_agrees {first : Nat} {code : String}
    (plain : (written.take (reach first)).all RustText.isAscii = true)
    (found : captureErrorCode (RustText.asciiText (written.take first)) = some code)
    (stops : ∀ byte ∈ written[first]?, wordCharacter (Char.ofNat byte.toNat) = false)
    (noUrl : ∀ count ≤ reach first, captureUrl (RustText.asciiText (written.take count)) = none)
    (count : Nat) (reached : first ≤ count) (near : count ≤ reach first) :
    decision (written.take count) = some (.error (.sshTunnelServiceError code)) := by
  have stopped : Stops (RustText.asciiText ((written.drop first).take (count - first))) := by
    intro char head
    rw [RustText.asciiText, List.head?_map, List.head?_take] at head
    split at head
    · cases head
    · obtain ⟨byte, next, rfl⟩ := Option.map_eq_some_iff.mp head
      rw [List.head?_drop] at next
      exact stops byte next
  have noUrlHere := noUrl count near
  rw [decision_ascii _ (ascii_take plain near), patternResult, noUrlHere]
  simp only
  rw [take_split reached, ascii_text_append, capture_code_stable found _ stopped]
  rfl

theorem whole_code_of_first {first : Nat} {code : String}
    (plain : (written.take (reach first)).all RustText.isAscii = true)
    (found : captureErrorCode (RustText.asciiText (written.take first)) = some code)
    (stops : ∀ byte ∈ written[first]?, wordCharacter (Char.ofNat byte.toNat) = false) :
    WholeCode written code := by
  obtain ⟨before, run, after, spelled, nonempty, word, text, stopped⟩ := capture_code_run found
  have bytes : written.take first = RustText.utf8Bytes before ++
      RustText.utf8Bytes code.toList ++ RustText.utf8Bytes after := by
    rw [← RustText.ascii_text_bytes _ (ascii_take plain (by unfold reach; omega)), text]
    simp only [RustText.utf8_bytes_append]
  refine ⟨RustText.utf8Bytes before, run, RustText.utf8Bytes after ++ written.drop first, spelled,
    nonempty, word, ?_, ?_⟩
  · rw [← List.append_assoc, ← bytes, List.take_append_drop]
  · intro byte head
    cases after with
    | nil =>
        rw [RustText.utf8Bytes, List.flatMap_nil, List.nil_append, List.head?_drop] at head
        exact stops byte head
    | cons char others =>
        -- the code is stopped within the prefix, by one of its ASCII characters
        have inText : char ∈ RustText.asciiText (written.take first) := by
          rw [text]
          simp
        obtain ⟨origin, member, rfl⟩ := List.mem_map.mp inText
        have single : RustText.utf8Bytes [Char.ofNat origin.toNat] = [origin] := by
          have ascii : (written.take first).all RustText.isAscii = true :=
            ascii_take plain (by unfold reach; omega)
          have low : [origin].all RustText.isAscii = true := by
            simpa using List.all_eq_true.mp ascii origin member
          exact RustText.ascii_text_bytes [origin] low
        have split : RustText.utf8Bytes (Char.ofNat origin.toNat :: others) =
            [origin] ++ RustText.utf8Bytes others := by
          rw [← single, ← RustText.utf8_bytes_append]
          rfl
        rw [split] at head
        cases head
        exact stopped _ rfl

/-- Every delivery ends with the same result, and what that result is like. -/
theorem reads_alike_unanimous (alike : ReadsAlike written) :
    ∃ result, (∀ chunks, Delivers 30 written chunks → readChunks chunks = result) ∧
      (∀ code, result = .error (.sshTunnelServiceError code) → WholeCode written code) ∧
      (RustText.fromUtf8 written ≠ none → result ≠ .error .sshTunnelUrlParsingError) := by
  cases alike with
  | undecided never plain =>
      by_cases ascii : written.all RustText.isAscii = true
      · have whole : (written.take written.length).all RustText.isAscii = true := by
          rwa [List.take_length]
        have quiet : QuietBelow decision written (written.length + 1) :=
          quiet_of_ascii whole (Nat.le_refl _) fun count _ => never count
        refine ⟨.error .sshTunnelUrlSetupTimeout, ?_, by simp, by simp⟩
        intro chunks delivers
        exact read_chunks_timeout
          (scan_quiet decision written quiet chunks delivers.whole delivers.nonempty)
      · have broken := plain.resolve_left ascii
        have decided : decision written = some (.error .sshTunnelUrlParsingError) := by
          rw [decision_eq, broken]
        refine ⟨.error .sshTunnelUrlParsingError, ?_, by simp, fun text => absurd broken text⟩
        intro chunks delivers
        apply read_chunks_of_scan
        apply scan_constant decision written _ ?_ decided [] chunks delivers.whole
        · rintro rfl
          have none : written = [] := delivers.whole.symm
          subst none
          exact ascii rfl
        · intro count other here
          rcases decision_undecided _ (never count) with ⟨silent, _⟩ | ⟨parsing, _⟩
          · rw [silent] at here
            cases here
          · rw [parsing] at here
            exact (Option.some.inj here).symm
  | url first decided plain found =>
      obtain ⟨url, same⟩ := Option.ne_none_iff_exists'.mp found
      exact ⟨.ok url, window_unanimous decided plain (url_agrees plain same), by simp, by simp⟩
  | code first decided plain stops noUrl =>
      obtain ⟨text, result, same, matched, taken⟩ := decision_of_decides _ decided.decides
      have near : first ≤ reach first := by unfold reach; omega
      rw [decision_ascii _ (ascii_take plain near), patternResult, noUrl first near] at taken
      obtain ⟨code, found, rfl⟩ := Option.map_eq_some_iff.mp taken
      refine ⟨.error (.sshTunnelServiceError code),
        window_unanimous decided plain (code_agrees plain found stops noUrl), ?_, by simp⟩
      intro other equal
      cases equal
      exact whole_code_of_first plain found stops

theorem read_chunks_url {chunks : List (List UInt8)} {url : String}
    (delivers : Delivers 30 written chunks) (read : readChunks chunks = .ok url) :
    WholeUrl written url := by
  cases scanned : scan decision [] chunks with
  | none =>
      rw [read_chunks_timeout scanned] at read
      cases read
  | some result =>
      rw [read_chunks_of_scan scanned] at read
      subst result
      obtain ⟨count, decided⟩ := scan_some decision written [] chunks _ delivers.whole scanned
      rw [decision_eq] at decided
      cases text : RustText.fromUtf8 (written.take count) with
      | none => simp [text] at decided
      | some content =>
          rw [text] at decided
          cases found : captureUrl content.toList with
          | none => simp [patternResult, found] at decided
          | some line =>
              simp only [patternResult, found, Option.some.injEq, Except.ok.injEq] at decided
              subst line
              obtain ⟨before, after, placed, nonempty, single⟩ := capture_url_line found
              have bytes := RustText.from_utf8_some _ content text
              rw [placed, RustText.utf8_bytes_append, RustText.utf8_bytes_append] at bytes
              refine ⟨RustText.utf8Bytes before, RustText.utf8Bytes after ++ written.drop count,
                ?_, nonempty, single⟩
              rw [← List.append_assoc, ← bytes, List.take_append_drop]

theorem cut_independent_of_alike (alike : ReadsAlike written) : CutIndependent written := by
  obtain ⟨result, unanimous, whole, text⟩ := reads_alike_unanimous alike
  refine ⟨?_, fun chunks url delivers => read_chunks_url delivers, ?_, ?_⟩
  · intro first second firstDelivers secondDelivers
    rw [unanimous first firstDelivers, unanimous second secondDelivers]
  · intro chunks code delivers read
    exact whole code ((unanimous chunks delivers).symm.trans read)
  · intro isText chunks delivers
    rw [unanimous chunks delivers]
    exact text isText

/-! Conversely, deliveries that tell two cuts apart. -/

theorem charwise_delivers (text : List Char) (rest : List UInt8) :
    Delivers 30 (RustText.utf8Bytes text ++ rest)
      (text.map String.utf8EncodeChar ++ singles rest) := by
  apply delivers_append _ (singles_delivers 30 (by decide) rest)
  refine ⟨(List.flatMap_def ..).symm, ?_, ?_⟩
  · intro chunk member
    obtain ⟨char, _, rfl⟩ := List.mem_map.mp member
    apply List.ne_nil_of_length_pos
    rw [String.length_utf8EncodeChar]
    exact Char.utf8Size_pos char
  · intro chunk member
    obtain ⟨char, _, rfl⟩ := List.mem_map.mp member
    rw [String.length_utf8EncodeChar]
    exact (Char.utf8Size_le_four char).trans (by decide)

theorem charwise_quiet (text : List Char)
    (silent : ∀ front back, text = front ++ back → patternResult front = none) :
    scan decision [] (text.map String.utf8EncodeChar) = none := by
  apply scan_undecided
  intro left right split _
  obtain ⟨front, back, rfl, rfl, _⟩ := List.map_eq_append_iff.mp split
  have bytes : (front.map String.utf8EncodeChar).flatten = RustText.utf8Bytes front :=
    (List.flatMap_def ..).symm
  rw [List.nil_append, bytes, decision_text]
  exact silent front back rfl

theorem charwise_decides (text : List Char) (result : Except Error String) (rest : List UInt8)
    (decided : patternResult text = some result)
    (silent : ∀ front back, text = front ++ back → back ≠ [] → patternResult front = none) :
    readChunks (text.map String.utf8EncodeChar ++ singles rest) = result := by
  rcases List.eq_nil_or_concat text with rfl | ⟨init, last, rfl⟩
  · cases decided
  · rw [List.concat_eq_append] at decided silent ⊢
    have quiet := charwise_quiet init fun front back split =>
      silent front (back ++ [last]) (by rw [split, List.append_assoc]) (by simp)
    have bytes : (init.map String.utf8EncodeChar).flatten ++ String.utf8EncodeChar last =
        RustText.utf8Bytes (init ++ [last]) := by
      simp [RustText.utf8Bytes, List.flatMap_def]
    apply read_chunks_of_scan
    rw [List.map_append, List.append_assoc]
    apply scan_last decision _ _ _ result quiet
    rw [bytes, decision_text, decided]

theorem pattern_result_silent {text : List Char}
    (silent : ¬ Decides (RustText.utf8Bytes text)) : patternResult text = none := by
  by_contra decided
  apply silent
  refine ⟨String.ofList text, RustText.from_utf8_bytes text, ?_⟩
  rw [String.toList_ofList]
  exact (pattern_result_ne_none_iff text).mp decided

theorem shorter_silent {front back : List Char} {rest : List UInt8} {limit : Nat}
    (whole : written = RustText.utf8Bytes (front ++ back) ++ rest)
    (short : (RustText.utf8Bytes front).length < limit)
    (silent : ∀ count, count < limit → ¬ Decides (written.take count)) :
    patternResult front = none := by
  apply pattern_result_silent
  have taken : written.take (RustText.utf8Bytes front).length = RustText.utf8Bytes front := by
    rw [whole, RustText.utf8_bytes_append, List.append_assoc, List.take_left]
  rw [← taken]
  exact silent _ short

theorem utf8_bytes_pos {text : List Char} (nonempty : text ≠ []) :
    0 < (RustText.utf8Bytes text).length := by
  cases text with
  | nil => exact absurd rfl nonempty
  | cons head tail =>
      have positive := Char.utf8Size_pos head
      rw [RustText.utf8_bytes_length, RustText.byte_length_cons]
      omega

theorem charwise_first {first : Nat} (decided : FirstDecision written first) :
    ∃ chunks result, Delivers 30 written chunks ∧ readChunks chunks = result ∧
      decision (written.take first) = some result ∧
      result ≠ .error .sshTunnelUrlParsingError := by
  obtain ⟨text, result, same, found, taken⟩ := decision_of_decides _ decided.decides
  have whole : written = RustText.utf8Bytes text ++ written.drop first := by
    rw [← same, List.take_append_drop]
  have width : (RustText.utf8Bytes text).length = first := by
    rw [← same, List.length_take, Nat.min_eq_left (first_decision_le decided)]
  refine ⟨text.map String.utf8EncodeChar ++ singles (written.drop first), result, ?_, ?_, taken,
    (pattern_result_kind text result found).1⟩
  · have delivers := charwise_delivers text (written.drop first)
    rwa [← whole] at delivers
  · apply charwise_decides text result _ found
    rintro front back rfl nonempty
    apply shorter_silent whole ?_ decided.earlier
    have more := utf8_bytes_pos nonempty
    rw [RustText.utf8_bytes_append, List.length_append] at width
    omega

theorem high_byte_decision {bound : Nat}
    (mixed : (written.take bound).all RustText.isAscii = false) :
    ∃ count, 0 < count ∧ count ≤ bound ∧ count ≤ written.length ∧
      decision (written.take count) = some (.error .sshTunnelUrlParsingError) ∧
      RustText.fromUtf8 (written.take count) = none ∧
      (written.take (count - 1)).all RustText.isAscii = true := by
  obtain ⟨front, last, rest, split, ascii, high⟩ := RustText.first_high_byte _ mixed
  have width := congrArg List.length split
  rw [List.length_take, List.length_append, List.length_cons] at width
  have within : front.length + 1 ≤ bound := by omega
  have shorter : ∀ count, count ≤ bound → written.take count = (written.take bound).take count :=
    fun count near => by rw [List.take_take, Nat.min_eq_left near]
  have taken : written.take (front.length + 1) = front ++ [last] := by
    rw [shorter _ within, split, List.take_append]
    simp
  have before : written.take (front.length + 1 - 1) = front := by
    rw [shorter _ (by omega), split, Nat.add_sub_cancel, List.take_left]
  have broken := RustText.from_utf8_cut front last ascii high
  refine ⟨front.length + 1, Nat.succ_pos _, within, by omega, ?_, ?_, ?_⟩
  · rw [decision_eq, taken, broken]
  · rw [taken, broken]
  · rw [before, ascii]

section Same
variable (same : ∀ first second, Delivers 30 written first → Delivers 30 written second →
  readChunks first = readChunks second)
include same

theorem quiet_before_first {first : Nat} (decided : FirstDecision written first) :
    QuietBelow decision written first := by
  classical
  by_contra loud
  simp only [QuietBelow, not_forall] at loud
  let Loud (count : Nat) : Prop :=
    0 < count ∧ count < first ∧ decision (written.take count) ≠ none
  have exists_loud : ∃ count, Loud count := by
    obtain ⟨count, positive, below, decides⟩ := loud
    exact ⟨count, positive, below, decides⟩
  obtain ⟨positive, below, decides⟩ := Nat.find_spec exists_loud
  have quiet : QuietBelow decision written (Nat.find exists_loud - 1 + 1) := by
    intro count countPositive countBelow
    have least := Nat.find_min exists_loud (m := count) (by omega)
    by_contra found
    exact least ⟨countPositive, by omega, found⟩
  have parsing : decision (written.take (Nat.find exists_loud)) =
      some (.error .sshTunnelUrlParsingError) := by
    rcases decision_undecided _ (decided.earlier _ below) with ⟨none, _⟩ | ⟨parsing, _⟩
    · exact absurd none decides
    · exact parsing
  have inside := first_decision_le decided
  have cut := read_chunks_of_scan (scan_jump decision written _ (Nat.find exists_loud)
    (by omega) quiet _ parsing)
  obtain ⟨chunks, result, delivers, read, _, other⟩ := charwise_first decided
  have equal := same _ _ delivers (jump_delivers 30 written (Nat.find exists_loud - 1)
    (Nat.find exists_loud) (by omega) (by omega) (by omega))
  rw [read, cut] at equal
  exact other equal

theorem window_agrees {first : Nat} (decided : FirstDecision written first)
    {result other : Except Error String}
    (taken : decision (written.take first) = some result) (count : Nat)
    (reached : first ≤ count) (near : count ≤ reach first) (inside : count ≤ written.length)
    (longer : decision (written.take count) = some other) : other = result := by
  have positive := first_decision_pos decided
  have quiet : QuietBelow decision written (first - 1 + 1) := by
    rw [Nat.sub_add_cancel positive]
    exact quiet_before_first same decided
  have early := read_chunks_of_scan (scan_jump decision written (first - 1) first (by omega) quiet
    result taken)
  have late := read_chunks_of_scan (scan_jump decision written (first - 1) count (by omega) quiet
    other longer)
  have reachable := first_decision_le decided
  unfold reach at near
  have equal := same _ _
    (jump_delivers 30 written (first - 1) first (by omega) reachable (by omega))
    (jump_delivers 30 written (first - 1) count (by omega) inside (by omega))
  rw [early, late] at equal
  exact equal.symm

theorem window_ascii {first : Nat} (decided : FirstDecision written first) :
    (written.take (reach first)).all RustText.isAscii = true := by
  by_contra mixed
  obtain ⟨count, positive, near, inside, parsing, broken, _⟩ :=
    high_byte_decision (Bool.eq_false_of_not_eq_true mixed)
  obtain ⟨_, result, _, _, taken, other⟩ := charwise_first decided
  by_cases reached : first ≤ count
  · exact other (window_agrees same decided taken count reached near inside parsing).symm
  · have quiet := quiet_before_first same decided count positive (by omega)
    rw [parsing] at quiet
    cases quiet

theorem window_without_url {first : Nat} (decided : FirstDecision written first) {code : String}
    (taken : decision (written.take first) = some (.error (.sshTunnelServiceError code)))
    (count : Nat) (near : count ≤ reach first) :
    captureUrl (RustText.asciiText (written.take count)) = none := by
  have plain := ascii_take (window_ascii same decided) near
  by_contra found
  obtain ⟨url, line⟩ := Option.ne_none_iff_exists'.mp found
  have longer : decision (written.take count) = some (.ok url) := by
    rw [decision_ascii _ plain, patternResult, line]
  by_cases reached : first ≤ count
  · by_cases inside : count ≤ written.length
    · cases window_agrees same decided taken count reached near inside longer
    · rw [List.take_of_length_le (by omega)] at longer
      have whole := first_decision_le decided
      rw [← List.take_length (l := written)] at longer
      cases window_agrees same decided taken written.length whole (by omega) (Nat.le_refl _) longer
  · apply decided.earlier count (by omega)
    refine ⟨_, RustText.from_utf8_ascii _ plain, Or.inl ?_⟩
    rwa [String.toList_ofList]

/-- The byte behind a first error code may not go on with it. -/
theorem window_stops {first : Nat} (decided : FirstDecision written first) {code : String}
    (taken : decision (written.take first) = some (.error (.sshTunnelServiceError code)))
    (found : captureErrorCode (RustText.asciiText (written.take first)) = some code)
    (byte : UInt8) (next : byte ∈ written[first]?) :
    wordCharacter (Char.ofNat byte.toNat) = false := by
  by_contra word
  have positive := first_decision_pos decided
  have inside : first < written.length := (List.getElem?_eq_some_iff.mp next).1
  have near : first + 1 ≤ reach first := by unfold reach; omega
  have plain := window_ascii same decided
  have previous : written[first - 1]? = some written[first - 1] := List.getElem?_eq_getElem _
  have shorter : RustText.asciiText (written.take first) =
      RustText.asciiText (written.take (first - 1)) ++
        [Char.ofNat written[first - 1].toNat] := by
    conv_lhs => rw [← Nat.sub_add_cancel positive, List.take_add_one, previous, ascii_text_append]
    rfl
  have longer : RustText.asciiText (written.take (first + 1)) =
      RustText.asciiText (written.take first) ++ [Char.ofNat byte.toNat] := by
    rw [List.take_add_one, next, ascii_text_append]
    rfl
  have before : CapturePattern.search errorPattern
      (RustText.asciiText (written.take (first - 1))) = none := by
    apply capture_code_none
    by_contra early
    apply decided.earlier (first - 1) (by omega)
    refine ⟨_, RustText.from_utf8_ascii _ (ascii_take plain (by unfold reach; omega)), Or.inr ?_⟩
    rwa [String.toList_ofList]
  obtain ⟨run, hit, spelled⟩ := (capture_code_iff _ _).mp found
  -- the longer prefix has a code too, and it has to be the same one
  obtain ⟨captures, longerHit⟩ := Option.isSome_iff_exists.mp
    (search_error_persists _ [Char.ofNat byte.toNat] [run] hit)
  obtain ⟨_, longerRun, _, rfl, _⟩ := search_error_run _ captures longerHit
  have longerTaken : decision (written.take (first + 1)) =
      some (.error (.sshTunnelServiceError ("ERR_" ++ String.ofList longerRun))) := by
    rw [decision_ascii _ (ascii_take plain near), patternResult,
      window_without_url same decided taken (first + 1) near]
    simp only
    rw [longer, (capture_code_iff _ _).mpr ⟨longerRun, longerHit, rfl⟩]
    rfl
  have equal := window_agrees same decided taken (first + 1) (Nat.le_succ first) near inside
    longerTaken
  simp only [Except.error.injEq, Error.sshTunnelServiceError.injEq, spelled] at equal
  have lists := congrArg String.toList equal
  simp only [String.toList_append, String.toList_ofList] at lists
  have runs := List.append_cancel_left lists
  subst longerRun
  rw [shorter] at hit longerHit
  exact new_code_lengthens _ _ _ [run] before hit (by simpa using word) longerHit

theorem plain_of_undecided (never : ∀ count, ¬ Decides (written.take count)) :
    written.all RustText.isAscii = true ∨ RustText.fromUtf8 written = none := by
  by_contra neither
  obtain ⟨mixed, isText⟩ := not_or.mp neither
  obtain ⟨text, read⟩ := Option.ne_none_iff_exists'.mp isText
  have bytes := RustText.from_utf8_some _ text read
  have delivers := charwise_delivers text.toList []
  rw [← bytes, List.append_nil] at delivers
  have quiet : scan decision [] (text.toList.map String.utf8EncodeChar ++ singles []) = none := by
    rw [singles, List.map_nil, List.append_nil]
    apply charwise_quiet
    intro front back split
    have whole : written = RustText.utf8Bytes (front ++ back) ++ [] := by
      rw [← split, List.append_nil]
      exact bytes
    exact shorter_silent whole (Nat.lt_succ_self _) fun count _ => never count
  rw [← List.take_length (l := written)] at mixed
  obtain ⟨count, positive, _, inside, parsing, _, plain⟩ :=
    high_byte_decision (Bool.eq_false_of_not_eq_true mixed)
  have before : QuietBelow decision written (count - 1 + 1) :=
    quiet_of_ascii plain (Nat.le_refl _) fun count _ => never count
  have cut := read_chunks_of_scan (scan_jump decision written (count - 1) count (by omega) before _
    parsing)
  have equal := same _ _ delivers
    (jump_delivers 30 written (count - 1) count (by omega) inside (by omega))
  rw [read_chunks_timeout quiet, cut] at equal
  cases equal

theorem alike_of_same : ReadsAlike written := by
  classical
  by_cases any : ∃ count, Decides (written.take count)
  · have decided : FirstDecision written (Nat.find any) :=
      ⟨Nat.find_spec any, fun count early => Nat.find_min any early⟩
    have plain := window_ascii same decided
    have near : Nat.find any ≤ reach (Nat.find any) := by unfold reach; omega
    by_cases url : captureUrl (RustText.asciiText (written.take (Nat.find any))) = none
    · obtain ⟨text, result, _, _, taken⟩ := decision_of_decides _ decided.decides
      have here := taken
      rw [decision_ascii _ (ascii_take plain near), patternResult, url] at here
      obtain ⟨code, found, rfl⟩ := Option.map_eq_some_iff.mp here
      exact ReadsAlike.code _ decided plain (window_stops same decided taken found)
        (window_without_url same decided taken)
    · exact ReadsAlike.url _ decided plain url
  · have never := not_exists.mp any
    exact ReadsAlike.undecided never (plain_of_undecided same never)

end Same

end Written

/-- For every output, of any length and bytes, all deliveries of it end alike if
and only if it is one of those for which the cuts do not matter. -/
theorem cut_independent_iff (written : List UInt8) :
    CutIndependent written ↔ ReadsAlike written :=
  ⟨fun independent => alike_of_same independent.same, cut_independent_of_alike⟩

theorem code_cut_short : ¬ ∀ written, CutIndependent written := by
  intro independent
  let output := RustText.utf8Bytes "ERR_NGROK_108".toList
  have whole : decision ([] ++ output) =
      some (.error (.sshTunnelServiceError "ERR_NGROK_108")) :=
    (decision_text _).trans rfl
  have part : decision ([] ++ output.take 5) = some (.error (.sshTunnelServiceError "ERR_N")) :=
    (decision_text "ERR_N".toList).trans rfl
  have once : Delivers 30 output [output] := delivers_one 30 output (by decide) (by decide)
  have twice : Delivers 30 output [output.take 5, output.drop 5] :=
    delivers_append (delivers_one 30 (output.take 5) (by decide) (by decide))
      (delivers_one 30 (output.drop 5) (by decide) (by decide))
  have equal := (independent output).same _ _ once twice
  rw [read_chunks_of_scan (by rw [scan, whole]), read_chunks_of_scan (by rw [scan, part])] at equal
  simp at equal

end TelcoVecchio.UrlReading
