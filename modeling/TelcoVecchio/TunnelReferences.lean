import TelcoVecchio.Service

/-!
The reference of a new tunnel is the number of open tunnels. It is fresh only
while that number is not itself the reference of an open tunnel; from then on
a tunnel stays under its reference until an event that names it, its owner's
close without reference, or its expiry.
-/

namespace TelcoVecchio.TunnelReferences

open Common Status SshUtils Request Service

theorem nat_to_string_injective (left right : Nat) (same : toString left = toString right) :
    left = right := by
  have digits : Nat.toDigits 10 left = Nat.toDigits 10 right := by
    simpa only [Nat.toString_eq_ofList_toDigits, String.ofList_inj] using same
  have values := congrArg (fun digits => Nat.ofDigitChars 10 digits 0) digits
  simpa only [Nat.ofDigitChars_ten_toDigits] using values

theorem framed_number_injective (front back : String) (left right : Nat)
    (same : front ++ toString left ++ back = front ++ toString right ++ back) : left = right := by
  rw [String.append_left_inj, String.append_right_inj] at same
  exact nat_to_string_injective left right same

theorem front_char (front middle back : String) (index : Nat)
    (inside : index < front.toList.length) :
    (front ++ middle ++ back).toList[index]? = front.toList[index]? := by
  rw [String.toList_append, String.toList_append, List.append_assoc,
    List.getElem?_append_left inside]

theorem open_message_injective (left right : UInt32) (same : openMessage left = openMessage right) :
    left = right :=
  UInt32.toNat_inj.mp (framed_number_injective _ _ left.toNat right.toNat same)

theorem open_message_chars (reference : UInt32) :
    (openMessage reference).toList[0]? = some 'T' ∧
      (openMessage reference).toList[16]? = some 's' := by
  constructor
  · exact (front_char _ _ _ 0 (by decide)).trans (by decide)
  · exact (front_char _ _ _ 16 (by decide)).trans (by decide)

theorem display_ne_open_message (order : Order (Sigma fun _ : String => ServiceStatus))
    (status : Status) (reference : UInt32) : display order status ≠ openMessage reference := by
  intro same
  have first := (open_message_chars reference).1
  rw [← same] at first
  simp [display] at first

theorem close_message_ne_open_message (references : List UInt32) (reference : UInt32) :
    closeMessage references ≠ openMessage reference := by
  intro same
  have letter := (open_message_chars reference).2
  rw [← same, closeMessage] at letter
  split at letter <;> exact absurd letter (by decide)

theorem report_completes {env : Env} {sender request : String} {before after : Daemon}
    {reference : UInt32}
    (report : handleRequest env sender request before = (.ok (openMessage reference), after)) :
    ∃ user application applicationStr url,
      Completes env sender request before user application applicationStr url ∧
      Admitted before.context user applicationStr application ∧
      reference = nextReference before.context.tunnels ∧
      after = withTunnel env user application url before := by
  have handled := handle_request_handled env sender request before
  rw [report] at handled
  generalize said : Outcome.ok (openMessage reference) = outcome at handled
  cases handled with
  | notAllowed => cases said
  | rejected => cases said
  | setupEnded _ _ _ _ _ _ _ notReady => exact absurd said.symm (notReady _)
  | emailFailed => cases said
  | opened user application applicationStr url completes admitted =>
      have same := open_message_injective _ _ (Outcome.ok.inj said)
      exact ⟨user, application, applicationStr, url, completes, admitted, same, rfl⟩
  | closed user command args references =>
      cases closing : (closeTunnels env.kill references before).1 with
      | ok done =>
          rw [closing] at said
          exact absurd (Outcome.ok.inj said).symm (close_message_ne_open_message _ _)
      | err _ | panic | stuck =>
          rw [closing] at said
          cases said
  | statusResolved user status =>
      exact absurd (Outcome.ok.inj said).symm (display_ne_open_message _ _ _)
  | statusEnded _ _ _ ended =>
      rcases ended with rfl | rfl <;> cases said
  | scheduled user message effects allowed choice =>
      have first := (open_message_chars reference).1
      rw [Outcome.ok.inj said] at first
      rcases choice with ⟨rfl, _⟩ | ⟨rfl, _⟩ <;> exact absurd first (by decide)

def Ends (configuration : Configuration) (reference : UInt32) (tunnel : Tunnel) : Event → Prop
  | .request _ sender request => ∃ user command args,
      senderUser configuration sender = some user ∧
      RustText.splitWhitespace request = command :: args ∧ commandWord command = "close" ∧
      Named user args reference tunnel
  | .cleanUp now _ _ => ∃ age, durationSince now tunnel.creationDate = some age ∧
      fromSecs configuration.sshConfig.tunnelTimeoutSec < age
  | .processExit _ => False

/-- A completing `open` finds the number of open tunnels unused as a reference. -/
def CountUnused (daemon : Daemon) : Event → Prop
  | .request env sender request =>
      (∃ user application applicationStr url,
        Completes env sender request daemon user application applicationStr url) →
      nextReference daemon.context.tunnels ∉ daemon.context.tunnels
  | .cleanUp _ _ _ => True
  | .processExit _ => True

/-- Fresh references that stay valid, in all runs whose steps meet the guard:
the reported reference was not in use, every older tunnel is still there, and
the new one stays until an event that ends it. -/
def ReferencesHold (configuration : Configuration) (status : Status)
    (guard : Daemon → Event → Prop) : Prop :=
  ∀ (past future : List Event) (before opened after : Daemon) (env : Env)
    (sender request : String) (reference : UInt32),
    LabelledRun.Run (LabelledRun.guarded guard Step) (Daemon.start configuration status) past
      before →
    guard before (.request env sender request) →
    handleRequest env sender request before = (.ok (openMessage reference), opened) →
    LabelledRun.Run (LabelledRun.guarded guard Step) opened future after →
    reference ∉ before.context.tunnels ∧
      (∀ key tunnel, before.context.tunnels.lookup key = some tunnel →
        opened.context.tunnels.lookup key = some tunnel) ∧
      ∃ tunnel, opened.context.tunnels.lookup reference = some tunnel ∧
        ((∀ event ∈ future, ¬ Ends configuration reference tunnel event) →
          after.context.tunnels.lookup reference = some tunnel)

theorem step_keeps_tunnel {configuration : Configuration} {before after : Daemon} {event : Event}
    {reference : UInt32} {tunnel : Tunnel}
    (same : before.context.configuration = configuration)
    (held : before.context.tunnels.lookup reference = some tunnel)
    (free : CountUnused before event) (step : Step before event after)
    (kept : ¬ Ends configuration reference tunnel event) :
    after.context.tunnels.lookup reference = some tunnel := by
  obtain ⟨returned, rfl⟩ := step
  subst same
  cases event with
  | processExit process => exact held
  | cleanUp now order calls =>
      -- an expired tunnel is one that this event ends
      apply (clean_up_lookup now order calls before returned reference tunnel).mpr
      refine ⟨held, ?_⟩
      have listed := (AList.mem_lookup_iff.mp held)
      revert returned
      simp only [Returns, cleanUpExpiredTunnels]
      split
      case h_1 => exact fun absurd => absurd.elim
      case h_2 references visited =>
        intro _
        obtain ⟨age, measured, _⟩ := expired_reference_visited calls now _ _ references visited
          ⟨reference, tunnel⟩ ((order.perm _).mem_iff.mpr listed)
        exact ⟨age, measured, Nat.le_of_not_lt fun older => kept ⟨age, measured, older⟩⟩
  | request env sender request =>
      have handled := handle_request_handled env sender request before
      change (handleRequest env sender request before).2.context.tunnels.lookup reference =
        some tunnel
      revert handled
      generalize (handleRequest env sender request before).1 = outcome
      generalize (handleRequest env sender request before).2 = after
      intro handled
      cases handled with
      | opened user application applicationStr url completes =>
          -- the new entry goes under a free key, so it replaces nothing
          have unused := free ⟨user, application, applicationStr, url, completes⟩
          have other : reference ≠ nextReference before.context.tunnels := by
            rintro rfl
            exact unused (AList.lookup_isSome.mp (by simp [held]))
          rw [with_tunnel_lookup, if_neg other]
          exact held
      | closed user command args references allowed words isClose named =>
          have absent : reference ∉ references := by
            intro member
            exact kept ⟨user, command, args, allowed, words, isClose,
              (close_references_named _ _ _ _ _ named reference tunnel held).mp member⟩
          rw [(close_frame env.kill references before).2 reference absent]
          exact held
      | _ => exact held

/-- A run keeps a tunnel that none of its events ends. -/
theorem run_keeps_tunnel {configuration : Configuration} {before after : Daemon}
    {events : List Event} {reference : UInt32} {tunnel : Tunnel}
    (run : LabelledRun.Run (LabelledRun.guarded CountUnused Step) before events after)
    (same : before.context.configuration = configuration)
    (held : before.context.tunnels.lookup reference = some tunnel)
    (kept : ∀ event ∈ events, ¬ Ends configuration reference tunnel event) :
    after.context.tunnels.lookup reference = some tunnel := by
  have invariant := LabelledRun.run_invariant_of_labels
    (fun event => ¬ Ends configuration reference tunnel event)
    (fun daemon => daemon.context.configuration = configuration ∧
      daemon.context.tunnels.lookup reference = some tunnel)
    (fun first event second quiet step facts =>
      ⟨(step_configuration step.2).trans facts.1,
        step_keeps_tunnel facts.1 facts.2 step.1 step.2 quiet⟩) run kept ⟨same, held⟩
  exact invariant.2

theorem references_hold (configuration : Configuration) (status : Status) :
    ReferencesHold configuration status CountUnused := by
  intro past future before opened after env sender request reference history free report rest
  obtain ⟨user, application, applicationStr, url, completes, _, rfl, rfl⟩ :=
    report_completes report
  have unused := free ⟨user, application, applicationStr, url, completes⟩
  have sameBefore : before.context.configuration = configuration :=
    reaches_configuration (LabelledRun.run_mono (fun _ _ _ step => step.2) history)
  have held : (withTunnel env user application url before).context.tunnels.lookup
      (nextReference before.context.tunnels) = some (newTunnel env user application before) := by
    rw [with_tunnel_lookup, if_pos rfl]
  refine ⟨unused, ?_, newTunnel env user application before, held, ?_⟩
  · intro key tunnel older
    have other : key ≠ nextReference before.context.tunnels := by
      rintro rfl
      exact unused (AList.lookup_isSome.mp (by simp [older]))
    rw [with_tunnel_lookup, if_neg other]
    exact older
  · intro quiet
    exact run_keeps_tunnel rest sameBefore held quiet

theorem second_reference_holds :
    (1 : UInt32) ∉ oneOpen.context.tunnels ∧
      ∃ tunnel, twoOpen.context.tunnels.lookup 1 = some tunnel := by
  have unused (daemon : Daemon) (event : Event)
      (fresh : nextReference daemon.context.tunnels ∉ daemon.context.tunnels) :
      CountUnused daemon event := by
    cases event with
    | request => exact fun _ => fresh
    | cleanUp | processExit => exact trivial
  have history : LabelledRun.Run (LabelledRun.guarded CountUnused Step)
      (Daemon.start house readyStatus) [aliceOpens] oneOpen :=
    .next ⟨unused _ _ (by decide +kernel), alice_opens_step⟩ (.refl _)
  have report := fine_open 0 bob.phoneNumber bob oneOpen (by decide) (by decide +kernel)
  obtain ⟨fresh, _, tunnel, held, _⟩ := references_hold house readyStatus _ [] _ _ _ _ _ _ _
    history (unused _ _ (by decide +kernel)) report (.refl _)
  exact ⟨fresh, tunnel, held⟩

theorem reference_reused :
    ¬ ∀ configuration status, ReferencesHold configuration status fun _ _ => True := by
  intro hold
  have history : LabelledRun.Run Step (Daemon.start house readyStatus)
      ([aliceOpens, bobOpens] ++ [closeFirst]) (serve twoOpen closeFirst) :=
    LabelledRun.run_append two_open_reached (.next close_first_step (.refl _))
  have report := fine_open 0 alice.phoneNumber alice (serve twoOpen closeFirst)
    (by decide) (by decide +kernel)
  have fresh := (hold house readyStatus _ [] _ _ _ _ _ _ _
    (LabelledRun.run_mono (fun _ _ _ step => ⟨trivial, step⟩) history) trivial report
    (.refl _)).1
  exact absurd fresh (by decide +kernel)

end TelcoVecchio.TunnelReferences
