import TelcoVecchio.RequestLanguage
import TelcoVecchio.MainLoop
import TelcoVecchio.TunnelReferences
import TelcoVecchio.TunnelClosing

/-!
The replies as a language, read by the user who sent the request. Its first
words tell what became of the request, and the reference reported by an `open`
closes that very tunnel later on.
-/

namespace TelcoVecchio.Conversation

open Common Status SshUtils Request Service WordGrammar MainLoop RequestLanguage TunnelReferences
  TunnelClosing

inductive Answer where
  | opened (reference : UInt32)
  | closed
  | status
  | rebooting
  | shuttingDown
  | invalid
  | refused
  | failed
  deriving DecidableEq

def starts (front reply : String) : Bool := front.toList.isPrefixOf reply.toList

def openFront : String := "Tunnel has been setup, reference is: "

def leadingNumber (text : List Char) : Option UInt32 :=
  RustText.parseU32 (String.ofList (text.takeWhile Char.isDigit))

def readAnswer (reply : String) : Option Answer :=
  if starts openFront reply then
    (leadingNumber (reply.toList.drop openFront.toList.length)).map .opened
  else if starts "Tunnel has been closed" reply || starts "Tunnels have been closed" reply then
    some .closed
  else if starts "Device: " reply then some .status
  else if starts "Rebooting..." reply then some .rebooting
  else if starts "Shutting down..." reply then some .shuttingDown
  else if starts "The message you sent is invalid, " reply then some .invalid
  else if starts "Your request cannot be processed, " reply then some .refused
  else if starts "An error occurred, " reply then some .failed
  else none

theorem starts_append (front rest : String) : starts front (front ++ rest) = true := by
  simp [starts, String.toList_append]

def apart (front other : String) : Bool :=
  (front.toList.zip other.toList).any fun pair => pair.1 != pair.2

theorem prefix_agrees (front other rest : List Char)
    (starts : front.isPrefixOf (other ++ rest) = true) :
    ((front.zip other).any fun pair => pair.1 != pair.2) = false := by
  induction front generalizing other with
  | nil => rfl
  | cons head tail ih =>
      cases other with
      | nil => rfl
      | cons first others =>
          simp only [List.cons_append, List.isPrefixOf, Bool.and_eq_true, beq_iff_eq] at starts
          simp [starts.1, ih others starts.2]

theorem starts_apart (front other rest : String) (differ : apart front other = true) :
    starts front (other ++ rest) = false := by
  cases begun : starts front (other ++ rest) with
  | false => rfl
  | true =>
      rw [starts, String.toList_append] at begun
      have same := prefix_agrees front.toList other.toList rest.toList begun
      rw [apart, same] at differ
      cases differ

theorem leading_number (number : UInt32) (rest : List Char)
    (stops : ∀ char ∈ rest.head?, char.isDigit = false) :
    leadingNumber ((toString number).toList ++ rest) = some number := by
  have none : rest.takeWhile Char.isDigit = [] := by
    cases rest with
    | nil => rfl
    | cons head tail => simp [stops head rfl]
  rw [leadingNumber, List.takeWhile_append_of_pos (to_string_digits number), none, List.append_nil,
    String.ofList_toList]
  exact parse_to_string number

theorem read_opened (reference : UInt32) :
    readAnswer (openMessage reference) = some (.opened reference) := by
  have text : openMessage reference =
      openFront ++ (toString reference ++ "\nAccess url has been send to you by mail") :=
    String.append_assoc ..
  have number : leadingNumber ((openMessage reference).toList.drop openFront.toList.length) =
      some reference := by
    rw [text, String.toList_append, List.drop_left, String.toList_append]
    apply leading_number
    intro char member
    cases member
    rfl
  rw [readAnswer, number, text, starts_append]
  rfl

theorem read_closed (references : List UInt32) :
    readAnswer (closeMessage references) = some .closed := by
  rw [closeMessage]
  split
  · decide
  · decide

theorem read_status (order : Order (Sigma fun _ : String => ServiceStatus)) (status : Status) :
    readAnswer (display order status) = some .status := by
  have text : ∃ rest, display order status = "Device: " ++ rest := by
    simp only [display, String.append_assoc]
    exact ⟨_, rfl⟩
  rcases text with ⟨rest, text⟩
  rw [text, readAnswer, starts_apart openFront _ rest rfl,
    starts_apart "Tunnel has been closed" _ rest rfl,
    starts_apart "Tunnels have been closed" _ rest rfl, starts_append]
  rfl

def failureFronts : List (String × Answer) :=
  [("The message you sent is invalid, ", .invalid),
    ("Your request cannot be processed, ", .refused), ("An error occurred, ", .failed)]

theorem read_failed (front rest : String) (answer : Answer)
    (listed : (front, answer) ∈ failureFronts) : readAnswer (front ++ rest) = some answer := by
  have before : ∀ first ∈ [openFront, "Tunnel has been closed", "Tunnels have been closed",
      "Device: ", "Rebooting...", "Shutting down..."], starts first (front ++ rest) = false := by
    intro first member
    apply starts_apart
    have table : ∀ pair ∈ failureFronts, ∀ first ∈ [openFront, "Tunnel has been closed",
        "Tunnels have been closed", "Device: ", "Rebooting...", "Shutting down..."],
        apart first pair.1 = true := by decide
    exact table _ listed first member
  rw [readAnswer, before _ (by simp), before _ (by simp), before _ (by simp), before _ (by simp),
    before _ (by simp), before _ (by simp)]
  simp only [failureFronts, List.mem_cons, Prod.mk.injEq, List.not_mem_nil, or_false] at listed
  rcases listed with ⟨rfl, rfl⟩ | ⟨rfl, rfl⟩ | ⟨rfl, rfl⟩
  · rw [starts_append]
    rfl
  · rw [starts_append, starts_apart "The message you sent is invalid, " _ rest rfl]
    rfl
  · rw [starts_append, starts_apart "The message you sent is invalid, " _ rest rfl,
      starts_apart "Your request cannot be processed, " _ rest rfl]
    rfl

def Answer.ofError : Error → Answer
  | .invalidRequestError _ => .invalid
  | .invalidStatus _ => .refused
  | _ => .failed

theorem read_error (escaped : Char → Bool) (error : Error) (reply : String)
    (replied : replyText escaped (.err error) = some reply) :
    readAnswer reply = some (.ofError error) := by
  cases error with
  | senderNotAllowed sender => cases replied
  | invalidRequestError message =>
      cases replied
      exact read_failed _ message .invalid List.mem_cons_self
  | invalidStatus message =>
      cases replied
      exact read_failed _ message .refused (List.mem_cons_of_mem _ List.mem_cons_self)
  | _ =>
      cases replied
      exact read_failed _ _ .failed
        (List.mem_cons_of_mem _ (List.mem_cons_of_mem _ List.mem_cons_self))

def IsClose (sender request : String) (before : Daemon) (user : User) (args : List String) : Prop :=
  senderUser before.context.configuration sender = some user ∧
    ∃ command, RustText.splitWhitespace request = command :: args ∧ commandWord command = "close"

/-- What became of the request that a reply answers. A technical error may have
come upon the closing of some of the tunnels asked for. -/
def Means (env : Env) (sender request : String) (before : Daemon) (outcome : Outcome String)
    (after : Daemon) : Answer → Prop
  | .opened reference => outcome = .ok (openMessage reference) ∧
      ∃ user application applicationStr url,
        Completes env sender request before user application applicationStr url ∧
        reference = nextReference before.context.tunnels ∧
        after = withTunnel env user application url before
  | .closed => (∃ message, outcome = .ok message) ∧ ∃ user args,
      IsClose sender request before user args ∧ ClosesOnly user args before after ∧
      ∀ reference tunnel, Asked user args before reference tunnel →
        after.context.tunnels.lookup reference = none
  | .status => ∃ status, getStatus env.status before.context.configuration = .ok status ∧
      outcome = .ok (display env.statusOrder status) ∧
      after = { before with context := before.context.updateStatus status }
  | .rebooting => outcome = .ok "Rebooting..." ∧
      ∃ user, senderUser before.context.configuration sender = some user ∧
        after = before.record [.initListenerRegistered user.name, .rebootScheduled]
  | .shuttingDown => outcome = .ok "Shutting down..." ∧ after = before.record [.poweroffScheduled]
  | .invalid => (∃ message, outcome = .err (.invalidRequestError message)) ∧
      after.context = before.context
  | .refused => (∃ message, outcome = .err (.invalidStatus message)) ∧
      after.context = before.context
  | .failed => (∃ error, outcome = .err error ∧ Answer.ofError error = .failed) ∧
      (after.context = before.context ∨ ∃ user args,
        IsClose sender request before user args ∧ ClosesOnly user args before after)

theorem error_means (env : Env) (sender request : String) (before : Daemon) (error : Error)
    (after : Daemon) (same : after.context = before.context) :
    Means env sender request before (.err error) after (.ofError error) := by
  cases error with
  | invalidRequestError message => exact ⟨⟨message, rfl⟩, same⟩
  | invalidStatus message => exact ⟨⟨message, rfl⟩, same⟩
  | _ => exact ⟨⟨_, rfl, rfl⟩, .inl same⟩

/-- Every reply reads as one answer, and the answer is what became of the
request. -/
theorem reply_means (escaped : Char → Bool) (env : Env) (sender request : String)
    (before : Daemon) (reply : String)
    (replied : replyText escaped (handleRequest env sender request before).1 = some reply) :
    ∃ answer, readAnswer reply = some answer ∧
      Means env sender request before (handleRequest env sender request before).1
        (handleRequest env sender request before).2 answer := by
  have handled := handle_request_handled env sender request before
  revert handled replied
  generalize (handleRequest env sender request before).1 = outcome
  generalize (handleRequest env sender request before).2 = after
  intro replied handled
  have failed (error : Error) (same : after.context = before.context)
      (ended : outcome = .err error) :
      ∃ answer, readAnswer reply = some answer ∧
        Means env sender request before outcome after answer := by
    subst ended
    exact ⟨_, read_error escaped error reply replied,
      error_means env sender request before error after same⟩
  -- each way for a request to end has texts that no other way has
  cases handled with
  | notAllowed => cases replied
  | rejected user error => exact failed error rfl rfl
  | setupEnded user application applicationStr outcome effects allowed admitted notReady =>
      cases outcome with
      | ok text => exact absurd rfl (notReady text)
      | err error => exact failed error rfl rfl
      | panic => cases replied
      | stuck => cases replied
  | emailFailed user application applicationStr url error => exact failed error rfl rfl
  | opened user application applicationStr url completes admitted =>
      cases replied
      exact ⟨_, read_opened _, rfl, user, application, applicationStr, url, completes, rfl, rfl⟩
  | closed user command args references allowed words isClose named =>
      have asks : IsClose sender request before user args := ⟨allowed, command, words, isClose⟩
      have only := closes_only named
      rcases close_references_cases _ _ _ _ _ named with ⟨distinct, present⟩ | ⟨other, rfl, absent⟩
      · have ending := close_first_error env.kill references before distinct present
        cases first : firstKillError env.kill before.context.tunnels references with
        | none =>
            rw [first] at ending
            rw [ending] at replied ⊢
            cases replied
            refine ⟨.closed, read_closed references, ⟨_, rfl⟩, user, args, asks, only, ?_⟩
            intro reference tunnel asked
            -- what was asked for is what the closing loop went through
            have listed := ((asked_iff named reference tunnel).mp asked).1
            have succeed := (first_kill_error_none_iff _ _ _).mp first
            exact (close_all env.kill references before distinct present succeed).2.1 reference
              listed
        | some error =>
            rw [first] at ending
            rw [ending] at replied ⊢
            exact ⟨.failed, read_error escaped _ reply replied, ⟨_, rfl, rfl⟩,
              .inr ⟨user, args, asks, only⟩⟩
      · have same : (closeTunnels env.kill [other] before).2.context = before.context := by
          simp only [closeTunnels, absent]
        exact failed _ same (by simp only [closeTunnels, absent, Outcome.bind]; rfl)
  | statusResolved user status allowed resolved =>
      cases replied
      exact ⟨.status, read_status env.statusOrder status, status, resolved, rfl, rfl⟩
  | statusEnded user outcome allowed ended =>
      rcases ended with rfl | rfl
      · cases replied
      · cases replied
  | scheduled user message effects allowed choice =>
      rcases choice with ⟨rfl, rfl⟩ | ⟨rfl, rfl⟩
      · cases replied
        exact ⟨.rebooting, by decide, rfl, user, allowed, rfl⟩
      · cases replied
        exact ⟨.shuttingDown, by decide, rfl, rfl⟩

section Closing
variable (configuration : Configuration) (status : Status)

end Closing

/-! Alice opens, Bob opens too, and Bob closes Alice's tunnel by its reference. -/

theorem alice_opened : handleRequest (fineEnv 0) alice.phoneNumber "open camera"
    (Daemon.start house readyStatus) = (.ok (openMessage 0), oneOpen) :=
  fine_open 0 alice.phoneNumber alice (Daemon.start house readyStatus) (by decide)
    (by decide +kernel)

theorem alice_opened_means : ∃ answer, readAnswer (openMessage 0) = some answer ∧
    Means (fineEnv 0) alice.phoneNumber "open camera" (Daemon.start house readyStatus)
      (handleRequest (fineEnv 0) alice.phoneNumber "open camera"
        (Daemon.start house readyStatus)).1
      (handleRequest (fineEnv 0) alice.phoneNumber "open camera"
        (Daemon.start house readyStatus)).2 answer :=
  reply_means (fun _ => false) (fineEnv 0) alice.phoneNumber "open camera"
    (Daemon.start house readyStatus) (openMessage 0) (by rw [alice_opened]; rfl)

end TelcoVecchio.Conversation
