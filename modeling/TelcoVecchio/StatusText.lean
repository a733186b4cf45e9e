import TelcoVecchio.AnsweredHosts

/-!
What can be read off the text of a status. The names of the applications are
printed as they are, between the fixed parts; as long as none of them contains
the separator behind a name, two statuses are printed alike only if they say the
same. A `status` reply then tells its reader which `open`s are admitted, up to
the next `status`.
-/

namespace TelcoVecchio.StatusText

open Common Status Request Service AnsweredHosts

abbrev Entry : Type := Sigma fun _ : String => ServiceStatus

def Clear (name : String) : Prop := ¬ [':', ' '] <:+: name.toList

instance (name : String) : Decidable (Clear name) :=
  inferInstanceAs (Decidable (¬ [':', ' '] <:+: name.toList))

/-- What `displayApplications` prints behind an entry. -/
def behindEntry : List Entry → List Char
  | [] => []
  | next :: rest => ' ' :: '-' :: ' ' :: (displayApplications (next :: rest)).toList

theorem applications_chars (entry : Entry) (rest : List Entry) :
    (displayApplications (entry :: rest)).toList =
      entry.1.toList ++ ':' :: ' ' :: ((displayService entry.2).toList ++ behindEntry rest) := by
  have separator : ": ".toList = [':', ' '] := rfl
  have dash : " - ".toList = [' ', '-', ' '] := rfl
  cases rest with
  | nil =>
      simp only [displayApplications, String.toList_append, separator, behindEntry,
        List.append_assoc, List.append_nil, List.cons_append, List.nil_append]
  | cons next others =>
      simp only [displayApplications, String.toList_append, separator, dash, behindEntry,
        List.append_assoc, List.cons_append, List.nil_append]

theorem nothing_more {more rest behind : List Char} (name : List Char)
    (clear : ¬ [':', ' '] <:+: name ++ more)
    (same : ':' :: ' ' :: rest = more ++ ':' :: ' ' :: behind) : more = [] := by
  match more, same with
  | [], _ => rfl
  | [_], same => cases same
  | first :: second :: others, same =>
      rw [List.cons_append, List.cons_append, List.cons.injEq, List.cons.injEq] at same
      rcases same with ⟨rfl, rfl, _⟩
      exact absurd ⟨name, others, by simp⟩ clear

theorem name_cut {name other rest behind : List Char} (clear : ¬ [':', ' '] <:+: name)
    (otherClear : ¬ [':', ' '] <:+: other)
    (same : name ++ ':' :: ' ' :: rest = other ++ ':' :: ' ' :: behind) :
    name = other ∧ rest = behind := by
  rcases List.append_eq_append_iff.mp same with ⟨more, rfl, left⟩ | ⟨more, rfl, right⟩
  · have none := nothing_more name otherClear left
    subst more
    simpa using left
  · have none := nothing_more other clear right
    subst more
    simpa using right.symm

theorem service_cut {first second : ServiceStatus} {rest behind : List Char}
    (same : (displayService first).toList ++ rest = (displayService second).toList ++ behind) :
    first = second ∧ rest = behind := by
  cases first <;> cases second <;> simp_all [displayService]

theorem device_cut {first second : DeviceStatus} {rest behind : List Char}
    (same : (displayDevice first).toList ++ '\n' :: rest =
      (displayDevice second).toList ++ '\n' :: behind) : first = second ∧ rest = behind := by
  cases first <;> cases second <;> simp_all [displayDevice]

theorem applications_injective (entries others : List Entry)
    (clear : ∀ entry ∈ entries, Clear entry.1) (otherClear : ∀ entry ∈ others, Clear entry.1)
    (same : displayApplications entries = displayApplications others) : entries = others := by
  induction entries generalizing others with
  | nil =>
      cases others with
      | nil => rfl
      | cons other more =>
          have chars := congrArg String.toList same
          rw [applications_chars] at chars
          simp [displayApplications] at chars
  | cons entry rest ih =>
      cases others with
      | nil =>
          have chars := congrArg String.toList same
          rw [applications_chars] at chars
          simp [displayApplications] at chars
      | cons other more =>
          have chars := congrArg String.toList same
          rw [applications_chars, applications_chars] at chars
          rcases name_cut (clear entry List.mem_cons_self) (otherClear other List.mem_cons_self)
            chars with ⟨names, services⟩
          rcases service_cut services with ⟨status, behind⟩
          -- the first entries are cut off, and the separators show whether more follow
          have heads : entry = other := Sigma.ext (String.toList_inj.mp names) (heq_of_eq status)
          have tails : rest = more := by
            cases rest with
            | nil =>
                cases more with
                | nil => rfl
                | cons => simp [behindEntry] at behind
            | cons next left =>
                cases more with
                | nil => simp [behindEntry] at behind
                | cons otherNext otherLeft =>
                    simp only [behindEntry, List.cons.injEq, true_and] at behind
                    exact ih _ (fun entry member => clear entry (List.mem_cons_of_mem _ member))
                      (fun entry member => otherClear entry (List.mem_cons_of_mem _ member))
                      (String.toList_inj.mp behind)
          rw [heads, tails]

def ClearStatus (status : Status) : Prop :=
  ∀ name ∈ status.applicationsStatus.keys, Clear name

theorem display_chars (order : Order Entry) (status : Status) :
    (display order status).toList = "Device: ".toList ++
      ((displayDevice status.deviceStatus).toList ++ '\n' :: ("Services: Email: ".toList ++
        ((displayService status.emailServiceStatus).toList ++ (" - Ssh Tunnel: ".toList ++
          ((displayService status.sshTunnelServiceStatus).toList ++ '\n' :: ("Apps: ".toList ++
            (displayApplications (order.arrange status.applicationsStatus.entries)).toList)))))) := by
  have lineEnd : "\n".toList = ['\n'] := rfl
  simp only [display, String.toList_append, lineEnd, List.append_assoc, List.cons_append,
    List.nil_append]

theorem arranged_clear (order : Order Entry) (status : Status) (clear : ClearStatus status) :
    ∀ entry ∈ order.arrange status.applicationsStatus.entries, Clear entry.1 := by
  intro entry member
  have listed := (order.perm _).subset member
  exact clear entry.1 (List.mem_map_of_mem listed)

/-- Statuses that are printed alike say the same. -/
theorem display_determines (order other : Order Entry) (first second : Status)
    (clear : ClearStatus first) (otherClear : ClearStatus second)
    (same : display order first = display other second) :
    first.deviceStatus = second.deviceStatus ∧
      first.emailServiceStatus = second.emailServiceStatus ∧
      first.sshTunnelServiceStatus = second.sshTunnelServiceStatus ∧
      ∀ name, first.applicationsStatus.lookup name = second.applicationsStatus.lookup name := by
  have chars := congrArg String.toList same
  rw [display_chars, display_chars, List.append_right_inj] at chars
  rcases device_cut chars with ⟨device, afterDevice⟩
  rw [List.append_right_inj] at afterDevice
  rcases service_cut afterDevice with ⟨email, afterEmail⟩
  rw [List.append_right_inj] at afterEmail
  rcases service_cut afterEmail with ⟨ssh, afterSsh⟩
  rw [List.cons.injEq, List.append_right_inj] at afterSsh
  have entries := applications_injective _ _ (arranged_clear order first clear)
    (arranged_clear other second otherClear) (String.toList_inj.mp afterSsh.2)
  have perm : first.applicationsStatus.entries.Perm second.applicationsStatus.entries :=
    (order.perm _).symm.trans (entries ▸ other.perm _)
  exact ⟨device, email, ssh, fun name => AList.perm_lookup perm⟩

theorem pinged_configured (ping : Nat → IpAddr → Except SurgeError Unit) (index : Nat)
    (applications : List Application) (statuses : AList fun _ : String => ServiceStatus)
    (name : String) (listed : name ∈ pingApplications ping index applications statuses) :
    name ∈ statuses ∨ ∃ application ∈ applications, application.name = name := by
  induction applications generalizing index statuses with
  | nil => exact Or.inl listed
  | cons application rest ih =>
      rcases ih _ _ listed with inserted | ⟨later, member, named⟩
      · rcases (AList.mem_insert _).mp inserted with rfl | earlier
        · exact Or.inr ⟨application, List.mem_cons_self, rfl⟩
        · exact Or.inl earlier
      · exact Or.inr ⟨later, List.mem_cons_of_mem _ member, named⟩

theorem resolved_clear {configuration : Configuration} {probe : StatusProbe} {status : Status}
    (resolved : getStatus probe configuration = .ok status)
    (clear : ∀ application ∈ configuration.applications, Clear application.name) :
    ClearStatus status := by
  intro name listed
  rw [(get_status_fields resolved).2.2] at listed
  rcases pinged_configured _ _ _ _ name listed with none | ⟨application, member, rfl⟩
  · cases none
  · exact clear application member

theorem run_status {configuration : Configuration} {before after : Daemon} {events : List Event}
    (run : LabelledRun.Run Service.Step before events after)
    (configured : before.context.configuration = configuration)
    (unasked : ∀ event ∈ events, queriedStatus configuration event = none) :
    after.context.status = before.context.status := by
  have kept := LabelledRun.run_invariant_of_labels
    (fun event => queriedStatus configuration event = none)
    (fun daemon => daemon.context.configuration = configuration ∧
      daemon.context.status = before.context.status)
    (by
      rintro first event second quiet step ⟨same, status⟩
      refine ⟨(step_configuration step).trans same, ?_⟩
      rw [← step.2, serve_status, same, quiet]
      exact status) run unasked ⟨configured, rfl⟩
  exact kept.2

theorem replied_status {env : Env} {sender request : String} {before : Daemon} {user : User}
    (allowed : senderUser before.context.configuration sender = some user)
    (asked : requestWord request = some "status") {text : String}
    (replied : (handleRequest env sender request before).1 = .ok text) :
    ∃ status, getStatus env.status before.context.configuration = .ok status ∧
      display env.statusOrder status = text ∧
      (handleRequest env sender request before).2.context =
        before.context.updateStatus status := by
  cases words : RustText.splitWhitespace request with
  | nil => simp [requestWord, words] at asked
  | cons command args =>
      have isStatus : commandWord command = "status" := by simpa [requestWord, words] using asked
      have handled : handleRequest env sender request before = resolveStatus env before := by
        simp [handleRequest, allowed, words, runCommand, isStatus]
      rw [handled] at replied ⊢
      simp only [resolveStatus] at replied ⊢
      cases resolved : getStatus env.status before.context.configuration with
      | ok status =>
          simp only [resolved, Outcome.ok.injEq] at replied
          exact ⟨status, rfl, replied, rfl⟩
      | err _ | panic | stuck => simp [resolved] at replied

/-- Whatever status the reply to a `status` can be read as, an `open` is
admitted, at any time before the next query, exactly as if that were the status
of the daemon. -/
theorem status_foretells_opens (env : Env) (sender request : String) (before : Daemon)
    (user : User) (allowed : senderUser before.context.configuration sender = some user)
    (asked : requestWord request = some "status") (text : String)
    (replied : (handleRequest env sender request before).1 = .ok text)
    (clear : ∀ application ∈ before.context.configuration.applications, Clear application.name)
    (order : Order Entry) (seen : Status) (seenClear : ClearStatus seen)
    (read : display order seen = text) (events : List Event) (after : Daemon)
    (later : LabelledRun.Run Service.Step (handleRequest env sender request before).2 events after)
    (unasked : ∀ event ∈ events,
      queriedStatus before.context.configuration event = none)
    (opener : User) (name : String) (application : Application) :
    Admitted after.context opener name application ↔
      Admitted (after.context.updateStatus seen) opener name application := by
  rcases replied_status allowed asked replied with ⟨status, resolved, printed, context⟩
  have configured : (handleRequest env sender request before).2.context.configuration =
      before.context.configuration := by
    rw [context]
    rfl
  have current : after.context.status = status := by
    rw [run_status later configured unasked, context]
    rfl
  rcases display_determines env.statusOrder order status seen (resolved_clear resolved clear)
    seenClear (printed.trans read.symm) with ⟨device, email, ssh, applications⟩
  rw [← current] at device email ssh applications
  constructor
  · rintro ⟨ready, emailReachable, sshReachable, found, reachable, below, notOpen⟩
    exact ⟨device ▸ ready, email ▸ emailReachable, ssh ▸ sshReachable, found,
      (applications name) ▸ reachable, below, notOpen⟩
  · rintro ⟨ready, emailReachable, sshReachable, found, reachable, below, notOpen⟩
    exact ⟨device.trans ready, email.trans emailReachable, ssh.trans sshReachable, found,
      (applications name).trans reachable, below, notOpen⟩

def askedEnv : Env := { fineEnv 0 with status := homeProbe fun _ => false }

def asked : Daemon :=
  (handleRequest askedEnv alice.phoneNumber "status" (Daemon.start house readyStatus)).2

theorem asked_status_foretells :
    Admitted asked.context alice "camera" camera ↔
      Admitted (asked.context.updateStatus (homeStatus (fun _ => false) house)) alice "camera"
        camera := by
  have resolved := home_status_resolved (fun _ => false) house
  have clear : ∀ application ∈ house.applications, Clear application.name := by decide
  have replied : (handleRequest askedEnv alice.phoneNumber "status"
      (Daemon.start house readyStatus)).1 =
        .ok (display (.stored _) (homeStatus (fun _ => false) house)) := by
    have allowed : senderUser house alice.phoneNumber = some alice := by decide
    have words : RustText.splitWhitespace "status" = ["status"] := by decide
    have isStatus : commandWord "status" = "status" := by decide
    simp [handleRequest, Daemon.start, Context.new, allowed, words, runCommand, isStatus,
      resolveStatus, askedEnv, fineEnv, resolved]
  exact status_foretells_opens askedEnv alice.phoneNumber "status" (Daemon.start house readyStatus)
    alice (by decide) (by decide) _ replied clear (.stored _) _ (resolved_clear resolved clear) rfl
    [] asked (.refl _) (by simp) alice "camera" camera

end TelcoVecchio.StatusText
