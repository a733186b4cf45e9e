import TelcoVecchio.LoopRefinement

/-!
Whom the daemon deals with. Over any run of the main loop, every message, mail,
tunnel set-up and registration is for a configured user or application, and a
message from a number that is not configured is as good as a failed read: no
answer, no effect, the same loop afterwards.
-/

namespace TelcoVecchio.Contacts

open Common Status SshUtils Request SmsUtils Service MainLoop

def Configured (configuration : Configuration) : Effect → Prop
  | .setupCalled hostIp port => ∃ application ∈ configuration.applications,
      application.hostIp = hostIp ∧ application.port = port
  | .emailed recipient title message => ∃ user ∈ configuration.users,
      ∃ application ∈ configuration.applications, ∃ url,
        urlMail user application url = .emailed recipient title message
  | .smsSent recipient _ => ∃ user ∈ configuration.users, user.phoneNumber = recipient
  | .initListenerRegistered name => ∃ user ∈ configuration.users, user.name = name
  | .spawned _ | .killed _ _ | .dropped _ | .exited _ | .rebootScheduled | .poweroffScheduled
  | .rebooted => True

/-- What a request itself does outside. Messages, reboots at once and processes
that end are not its doing. -/
def Requested (configuration : Configuration) : Effect → Prop
  | .smsSent _ _ | .exited _ | .rebooted => False
  | effect => Configured configuration effect

theorem requested_configured (configuration : Configuration) (effect : Effect)
    (requested : Requested configuration effect) : Configured configuration effect := by
  cases effect with
  | smsSent recipient message => exact requested.elim
  | exited process => trivial
  | rebooted => trivial
  | _ => exact requested

theorem admitted_application {context : Context} {user : User} {applicationStr : String}
    {application : Application} (admitted : Admitted context user applicationStr application) :
    application ∈ context.configuration.applications :=
  List.mem_of_find?_eq_some admitted.resolved

section Requests
variable {env : Env} {sender request : String} {before after : Daemon}

theorem set_up_requested {user : User} {application : Application} {applicationStr : String}
    (admitted : Admitted before.context user applicationStr application) :
    Requested before.context.configuration
      (.setupCalled application.hostIp application.port) :=
  ⟨application, admitted_application admitted, rfl, rfl⟩

theorem mail_requested {user : User} {application : Application} {applicationStr : String}
    (url : String) (allowed : senderUser before.context.configuration sender = some user)
    (admitted : Admitted before.context user applicationStr application) :
    Requested before.context.configuration (urlMail user application url) :=
  ⟨user, (sender_user_member _ _ _ allowed).1, application, admitted_application admitted, url,
    rfl⟩

theorem handled_requested {outcome : Outcome String}
    (handled : Handled env sender request before outcome after) :
    Adds (Requested before.context.configuration) before after := by
  cases handled with
  | notAllowed | rejected | statusEnded => exact adds_refl before
  | statusResolved => exact ⟨[], by simp, by simp⟩
  | setupEnded user application applicationStr outcome effects allowed admitted notReady ended =>
      apply record_adds
      have setUp := set_up_requested admitted
      -- not spawned, or spawned and dropped, or left in a call that hangs
      rcases ended with rfl | rfl | ⟨_, rfl⟩
      · simpa using setUp
      · simpa [Requested, Configured] using setUp
      · simpa [Requested, Configured] using setUp
  | emailFailed user application applicationStr url error allowed admitted =>
      apply record_adds
      have setUp := set_up_requested admitted
      have mail := mail_requested url allowed admitted
      intro effect listed
      simp only [List.mem_cons, List.not_mem_nil, or_false] at listed
      rcases listed with rfl | rfl | rfl | rfl
      · exact setUp
      · trivial
      · exact mail
      · trivial
  | opened user application applicationStr url completes admitted =>
      refine adds_trans (record_adds before _ ?_)
        (insert_adds (fun _ => trivial) _ _ _)
      have setUp := set_up_requested admitted
      have mail := mail_requested (url ++ application.endPoint) completes.allowed admitted
      intro effect listed
      simp only [List.mem_cons, List.not_mem_nil, or_false] at listed
      rcases listed with rfl | rfl | rfl
      · exact setUp
      · trivial
      · exact mail
  | closed => exact close_adds (fun _ => trivial) (fun _ _ => trivial) _ _ _
  | scheduled user message effects allowed choice =>
      apply record_adds
      have member := (sender_user_member _ _ _ allowed).1
      rcases choice with ⟨_, rfl⟩ | ⟨_, rfl⟩
      · intro effect listed
        rcases List.mem_pair.mp listed with rfl | rfl
        · exact ⟨user, member, rfl⟩
        · trivial
      · intro effect listed
        cases List.mem_singleton.mp listed
        trivial

end Requests

section Turns
variable (escaped : Char → Bool)

theorem stranger_refused (env : Env) (sender request : String) (daemon : Daemon)
    (unknown : senderUser daemon.context.configuration sender = none) :
    handleRequest env sender request daemon = (.err (.senderNotAllowed sender), daemon) := by
  simp only [handleRequest, unknown]

theorem stranger_unanswered (env : Env) (sms : IncomingSms) (daemon : Daemon)
    (unknown : senderUser daemon.context.configuration sms.sender = none) :
    answer escaped env sms daemon = daemon := by
  simp only [answer, stranger_refused env sms.sender sms.msg daemon unknown, replyText]

theorem answer_adds {kind : Effect → Prop} (env : Env) (sms : IncomingSms) (daemon : Daemon)
    (requests : ∀ effect, Requested daemon.context.configuration effect → kind effect)
    (replies : ∀ user ∈ daemon.context.configuration.users, user.phoneNumber = sms.sender →
      ∀ message, kind (.smsSent sms.sender message)) :
    Adds kind daemon (answer escaped env sms daemon) := by
  cases allowed : senderUser daemon.context.configuration sms.sender with
  | none =>
      rw [stranger_unanswered escaped env sms daemon allowed]
      exact adds_refl daemon
  | some user =>
      rcases sender_user_member _ _ _ allowed with ⟨member, number⟩
      have handled := adds_mono requests
        (handled_requested (handle_request_handled env sms.sender sms.msg daemon))
      simp only [answer]
      split
      · next message _ =>
          apply adds_trans handled (record_adds _ _ _)
          intro effect listed
          cases List.mem_singleton.mp listed
          exact replies user member number message
      · exact handled

theorem answer_configured (env : Env) (sms : IncomingSms) (daemon : Daemon) :
    Adds (Configured daemon.context.configuration) daemon (answer escaped env sms daemon) :=
  answer_adds escaped env sms daemon (requested_configured _)
    fun user member number _ => ⟨user, member, number⟩

theorem routines_add {kind : Effect → Prop}
    (internetPing : Nat → IpAddr → Except SurgeError Unit) (now : Nat)
    (order : Order TunnelEntry) (calls : CleanUpCalls) (daemon : Daemon)
    (reboots : kind .rebooted) (drops : ∀ process, kind (.dropped process))
    (kills : ∀ process succeeded, kind (.killed process succeeded))
    (notifications : ∀ key tunnel, daemon.context.tunnels.lookup key = some tunnel →
      ∀ effect ∈ expiryNotification daemon.context.configuration ⟨key, tunnel⟩, kind effect) :
    Adds kind daemon (periodicRoutines internetPing now order calls daemon).2 := by
  simp only [periodicRoutines]
  split
  · exact clean_up_adds now order calls daemon drops kills notifications
  · refine adds_trans (record_adds daemon [.rebooted] ?_)
      (clean_up_adds now order calls _ drops kills notifications)
    intro effect listed
    cases List.mem_singleton.mp listed
    exact reboots

theorem routines_configured (internetPing : Nat → IpAddr → Except SurgeError Unit) (now : Nat)
    (order : Order TunnelEntry) (calls : CleanUpCalls) (daemon : Daemon) :
    Adds (Configured daemon.context.configuration) daemon
      (periodicRoutines internetPing now order calls daemon).2 := by
  refine routines_add internetPing now order calls daemon trivial (fun _ => trivial)
    (fun _ _ => trivial) ?_
  intro key tunnel _ effect listed
  rcases expiry_notification_sent _ _ effect listed with ⟨user, found, rfl⟩
  exact ⟨user, List.mem_of_find?_eq_some found, rfl⟩

theorem turn_configured (loop : Loop) (wait : WaitEnd) :
    Adds (Configured loop.daemon.context.configuration) loop.daemon
      (turn escaped loop wait).daemon := by
  cases wait with
  | timedOut internetPing order calls => exact routines_configured internetPing _ order calls _
  | received delay env sms => exact answer_configured escaped env sms loop.daemon
  | failed delay => exact adds_refl loop.daemon

/-- Whatever is received, nothing is sent, mailed, set up or registered but for
the configured users and applications, also by a last turn that does not return. -/
theorem contacts_configured (configuration : Configuration) (status : Status) (clock : Nat)
    (waits : List WaitEnd) (loop : Loop)
    (run : LabelledRun.Run (Turn escaped) (Loop.start configuration status clock) waits loop) :
    (∀ effect ∈ loop.daemon.log, Configured configuration effect) ∧
      ∀ wait, ∀ effect ∈ (turn escaped loop wait).daemon.log, Configured configuration effect := by
  have turned : ∀ (loop : Loop) (wait : WaitEnd),
      loop.daemon.context.configuration = configuration →
      (∀ effect ∈ loop.daemon.log, Configured configuration effect) →
      ∀ effect ∈ (turn escaped loop wait).daemon.log, Configured configuration effect := by
    intro loop wait same all effect listed
    rcases turn_configured escaped loop wait with ⟨later, log, added⟩
    rw [log] at listed
    rcases List.mem_append.mp listed with earlier | new
    · exact all effect earlier
    · exact same ▸ added effect new
  have invariant := LabelledRun.run_invariant
    (fun loop : Loop => loop.daemon.context.configuration = configuration ∧
      ∀ effect ∈ loop.daemon.log, Configured configuration effect)
    (fun before wait after taken kept =>
      ⟨(turn_configuration escaped taken).trans kept.1,
        taken.2 ▸ turned before wait kept.1 kept.2⟩)
    run ⟨rfl, by simp [Loop.start, Daemon.start]⟩
  exact ⟨invariant.2, fun wait => turned loop wait invariant.1 invariant.2⟩

/-- The same ends of the waits, with failed reads for some of the strangers'
messages. -/
inductive Hushed (configuration : Configuration) : WaitEnd → WaitEnd → Prop where
  | same (wait : WaitEnd) : Hushed configuration wait wait
  | stranger (delay : Nat) (env : Env) (sms : IncomingSms)
      (unknown : senderUser configuration sms.sender = none) :
      Hushed configuration (.received delay env sms) (.failed delay)

theorem hushed_follows (configuration : Configuration) :
    Simulation.Follows (Turn escaped) (Turn escaped) (Hushed configuration)
      (fun left right => left = right ∧ left.daemon.context.configuration = configuration) := by
  rintro before wait after _ other ⟨rfl, same⟩ hushed taken
  have kept := (turn_configuration escaped taken).trans same
  cases hushed with
  | same => exact ⟨after, taken, rfl, kept⟩
  | stranger delay env sms unknown =>
      rcases taken with ⟨takes, rfl⟩
      rw [← same] at unknown
      have silent := stranger_unanswered escaped env sms before.daemon unknown
      -- both turns only move the clock, by the same delay
      refine ⟨_, ⟨takes.1, ?_⟩, rfl, kept⟩
      simp only [turn, silent, Loop.wakesAt]

/-- Messages from strangers do not interfere: with failed reads in their place
the loop goes through the same run to the same state. -/
theorem strangers_do_not_interfere (configuration : Configuration) (status : Status)
    (clock : Nat) (waits others : List WaitEnd) (loop : Loop)
    (run : LabelledRun.Run (Turn escaped) (Loop.start configuration status clock) waits loop)
    (hushed : List.Forall₂ (Hushed configuration) waits others) :
    LabelledRun.Run (Turn escaped) (Loop.start configuration status clock) others loop := by
  rcases Simulation.run_followed (hushed_follows escaped configuration) run ⟨rfl, rfl⟩ hushed with
    ⟨reached, followed, rfl, _⟩
  exact followed

end Turns

/-! The opening of the main loop's example, and a message from nobody. -/

theorem answer_sent {escaped : Char → Bool} (env : Env) (sms : IncomingSms) (daemon : Daemon)
    {message : String}
    (replied : replyText escaped (handleRequest env sms.sender sms.msg daemon).1 = some message) :
    .smsSent sms.sender message ∈ (answer escaped env sms daemon).log := by
  simp only [answer, replied, Daemon.record]
  exact List.mem_append_right _ (List.mem_singleton_self _)

theorem opening_sent : .smsSent alice.phoneNumber (openMessage 0) ∈ (afterFailures 1).daemon.log := by
  have replied : replyText (fun _ => false) (handleRequest (fineEnv 0) alice.phoneNumber
      "open camera" (Daemon.start hurried readyStatus)).1 = some (openMessage 0) := by
    rw [opening_handled, replyText]
  have sent := answer_sent (fineEnv 0) ⟨alice.phoneNumber, "open camera"⟩
    (Daemon.start hurried readyStatus) replied
  simpa only [afterFailures] using sent

theorem opening_contacts :
    .smsSent alice.phoneNumber (openMessage 0) ∈ (afterFailures 1).daemon.log ∧
      Configured hurried (.smsSent alice.phoneNumber (openMessage 0)) :=
  ⟨opening_sent, (contacts_configured (fun _ => false) hurried readyStatus 0 _ _
    LoopRefinement.opening_and_failure).1 _ opening_sent⟩

def nobody : WaitEnd := .received 1900000000 (fineEnv 1900000000) ⟨"+33699999999", "open camera"⟩

theorem nobody_turn : Turn (fun _ => false) (afterFailures 0) nobody (afterFailures 1) := by
  have unknown : senderUser (afterFailures 0).daemon.context.configuration "+33699999999" =
      none := by
    rw [after_failures_configuration]
    decide
  refine ⟨⟨?_, ?_, ?_⟩, ?_⟩
  · rw [after_failures_configuration]
    decide
  · simp [Loop.wakesAt, nobody, afterFailures, fineEnv]
  · rw [stranger_refused _ _ _ _ unknown]
    trivial
  · simp only [turn, nobody, stranger_unanswered _ _ ⟨"+33699999999", "open camera"⟩ _ unknown]
    simp [Loop.wakesAt, afterFailures]

theorem nobody_does_not_interfere : LabelledRun.Run (Turn fun _ => false)
    (Loop.start hurried readyStatus 0) [opening, .failed 1900000000] (afterFailures 1) := by
  have run : LabelledRun.Run (Turn fun _ => false) (Loop.start hurried readyStatus 0)
      [opening, nobody] (afterFailures 1) := .next opening_turn (.next nobody_turn (.refl _))
  exact strangers_do_not_interfere (fun _ => false) hurried readyStatus 0 _ _ _ run
    (.cons (.same _) (.cons (.stranger _ _ _ (by decide)) .nil))

end TelcoVecchio.Contacts
