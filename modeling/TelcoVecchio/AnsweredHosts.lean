import TelcoVecchio.DeferredNotices
import TelcoVecchio.StartUpLoop

/-!
The host that an `open` connects to. `get_status` folds the pings of the
configured applications into a map, where an application takes the place of an
earlier one of its name; `open` looks a name up in that map and, for the address,
in the configured list, where it finds the first. Next to the daemon stands the
probe of the `get_status` call that its status comes from.
-/

namespace TelcoVecchio.AnsweredHosts

open Common Status SshUtils Request Service Init StartUpLoop
open DeferredNotices (added added_of_log)

def numberedFrom (first : Nat) (applications : List Application) (name : String) :
    List (Application × Nat) :=
  (applications.zipIdx first).filter fun numbered => numbered.1.name == name

section Names
variable (configuration : Configuration) (probe : StatusProbe) (name : String)

def bearers : List (Application × Nat) := numberedFrom 0 configuration.applications name

def answered (bearer : Application × Nat) : Bool :=
  pingSucceeds (probe.applicationPing bearer.2 bearer.1.hostIp)

def Answers (hostIp : IpAddr) : Prop :=
  ∃ bearer ∈ bearers configuration name, bearer.1.hostIp = hostIp ∧ answered probe bearer = true

/-- What an address should have shown in a status query before a tunnel is
opened to it. -/
structure Vouched (hostIp : IpAddr) : Prop where
  answers : Answers configuration probe name hostIp
  ready : getDeviceStatus probe configuration = .ok .ready
  emailReachable :
    domainStatus probe.emailDomain configuration.emailConfig.serverDomain = .reachable
  sshReachable : domainStatus probe.sshDomain configuration.sshConfig.serviceHost = .reachable

/-- Where the last application of a name answered, so did one at the address of
the first. -/
def Agreeing : Prop :=
  ∀ first ∈ (bearers configuration name).head?, ∀ last ∈ (bearers configuration name).getLast?,
    answered probe last = true → Answers configuration probe name first.1.hostIp

end Names

theorem ping_status_reachable_iff (ping : Except SurgeError Unit) :
    pingStatus ping = .reachable ↔ pingSucceeds ping = true := by
  cases ping <;> simp [pingStatus, pingSucceeds]

/-- The map of the pings keeps, for each name, the ping of its last application. -/
theorem ping_applications_lookup (ping : Nat → IpAddr → Except SurgeError Unit) (index : Nat)
    (applications : List Application) (statuses : AList fun _ : String => ServiceStatus)
    (name : String) :
    (pingApplications ping index applications statuses).lookup name =
      ((numberedFrom index applications name).getLast?.map fun last =>
        pingStatus (ping last.2 last.1.hostIp)).or (statuses.lookup name) := by
  induction applications generalizing index statuses with
  | nil => rfl
  | cons application rest ih =>
      rw [pingApplications, ih]
      by_cases same : application.name = name
      · have here : numberedFrom index (application :: rest) name =
            (application, index) :: numberedFrom (index + 1) rest name := by
          simp [numberedFrom, List.zipIdx_cons, same]
        have inserted : (statuses.insert application.name
            (pingStatus (ping index application.hostIp))).lookup name =
              some (pingStatus (ping index application.hostIp)) := by
          rw [← same, AList.lookup_insert]
        rw [here, inserted, List.getLast?_cons]
        -- a later application of the name, if there is one, decides
        cases later : (numberedFrom (index + 1) rest name).getLast? with
        | none => rfl
        | some last => rfl
      · have skipped : numberedFrom index (application :: rest) name =
            numberedFrom (index + 1) rest name := by
          simp [numberedFrom, List.zipIdx_cons, same]
        rw [skipped, AList.lookup_insert_ne (Ne.symm same)]

theorem first_bearer (configuration : Configuration) (name : String) (application : Application)
    (resolved : configuration.applications.find? (fun app => app.name == name) =
      some application) :
    ∃ first ∈ (bearers configuration name).head?, first.1 = application := by
  rw [← List.zipIdx_map_fst 0 configuration.applications, List.find?_map] at resolved
  rcases Option.map_eq_some_iff.mp resolved with ⟨first, found, same⟩
  exact ⟨first, List.head?_filter.trans found, same⟩

section Queries
variable {configuration : Configuration} {probe : StatusProbe} {status : Status}

theorem get_status_fields (resolved : getStatus probe configuration = .ok status) :
    getDeviceStatus probe configuration = .ok status.deviceStatus ∧
    (status.deviceStatus = .ready →
      status.emailServiceStatus =
        domainStatus probe.emailDomain configuration.emailConfig.serverDomain ∧
      status.sshTunnelServiceStatus =
        domainStatus probe.sshDomain configuration.sshConfig.serviceHost) ∧
    status.applicationsStatus =
      pingApplications probe.applicationPing 0 configuration.applications ∅ := by
  cases device : getDeviceStatus probe configuration with
  | ok deviceStatus =>
      simp only [getStatus, device, Outcome.bind, Outcome.ok.injEq] at resolved
      subst status
      refine ⟨rfl, ?_, rfl⟩
      intro ready
      simp only at ready
      simp only [if_pos ready, and_self]
  | err error => simp [getStatus, device, Outcome.bind] at resolved
  | panic => simp [getStatus, device, Outcome.bind] at resolved
  | stuck => simp [getStatus, device, Outcome.bind] at resolved

theorem reachable_answered (resolved : getStatus probe configuration = .ok status) (name : String)
    (reachable : status.applicationsStatus.lookup name = some .reachable) :
    ∃ last ∈ (bearers configuration name).getLast?, answered probe last = true := by
  rw [(get_status_fields resolved).2.2, ping_applications_lookup, AList.lookup_empty,
    Option.or_none] at reachable
  rcases Option.map_eq_some_iff.mp reachable with ⟨last, listed, ping⟩
  exact ⟨last, listed, (ping_status_reachable_iff _).mp ping⟩

theorem admitted_vouched_iff {context : Context} {user : User} {name : String}
    {application : Application} (configured : context.configuration = configuration)
    (resolved : getStatus probe configuration = .ok context.status)
    (admitted : Admitted context user name application) :
    Vouched configuration probe name application.hostIp ↔ Agreeing configuration probe name := by
  have lookup := admitted.resolved
  rw [configured] at lookup
  rcases first_bearer configuration name application lookup with ⟨first, head, rfl⟩
  rcases reachable_answered resolved name admitted.applicationReachable with ⟨last, listed, answer⟩
  rcases get_status_fields resolved with ⟨device, services, _⟩
  rcases services admitted.ready with ⟨email, ssh⟩
  constructor
  · intro vouched other otherHead _ _ _
    cases head.symm.trans otherHead
    exact vouched.answers
  · intro agreeing
    refine ⟨agreeing first head last listed answer, ?_, ?_, ?_⟩
    · rw [device, admitted.ready]
    · rw [← email, admitted.emailReachable]
    · rw [← ssh, admitted.sshReachable]

end Queries

/-! What an event does to the status, and the hosts it passes to `setup_ssh_tunnel`. -/

def setUpHost : Effect → Option IpAddr
  | .setupCalled hostIp _ => some hostIp
  | _ => none

def hostsTried (daemon : Daemon) (event : Event) : List IpAddr :=
  (added daemon (serve daemon event)).filterMap setUpHost

/-- The name that an `open` asks for. -/
def requestedApplication : Event → Option String
  | .request _ _ request =>
      match RustText.splitWhitespace request with
      | command :: applicationStr :: _ =>
          if commandWord command = "open" then some applicationStr else none
      | _ => none
  | .cleanUp _ _ _ | .processExit _ => none

/-- What a `status` command of an allowed sender replaces the status with, once
the whole query is through. -/
def queriedStatus (configuration : Configuration) : Event → Option (StatusProbe × Status)
  | .request env sender request =>
      if (senderUser configuration sender).isSome ∧ requestWord request = some "status" then
        match getStatus env.status configuration with
        | .ok status => some (env.status, status)
        | .err _ | .panic | .stuck => none
      else none
  | .cleanUp _ _ _ | .processExit _ => none

theorem queried_status_resolved {configuration : Configuration} {event : Event}
    {probe : StatusProbe} {status : Status}
    (queried : queriedStatus configuration event = some (probe, status)) :
    getStatus probe configuration = .ok status := by
  cases event with
  | request env sender request =>
      simp only [queriedStatus] at queried
      split at queried
      · split at queried
        · next resolved =>
            cases queried
            exact resolved
        · cases queried
        · cases queried
        · cases queried
      · cases queried
  | cleanUp | processExit => cases queried

section Commands
variable (env : Env) (user : User) (request command : String) (args : List String)
  (daemon : Daemon)

theorem establish_adds (application : Application) :
    Adds (fun effect => ∀ hostIp, setUpHost effect = some hostIp → hostIp = application.hostIp)
      daemon (establishTunnel env user application daemon).2 := by
  have setUp : ∀ effect ∈ (setupSshTunnel env.ssh application.hostIp application.port
      (nextChild daemon.log)).2,
      ∀ hostIp, setUpHost effect = some hostIp → hostIp = application.hostIp := by
    simp only [setupSshTunnel]
    split
    · simp [setUpHost]
    · split <;> simp [setUpHost]
  cases called : setupSshTunnel env.ssh application.hostIp application.port
    (nextChild daemon.log) with
  | mk outcome effects =>
      rw [called] at setUp
      cases outcome with
      | err _ | panic | stuck =>
          simp only [establishTunnel, called]
          exact record_adds daemon effects setUp
      | ok tunnel =>
          simp only [establishTunnel, called]
          split
          · apply record_adds daemon
            simpa [setUpHost, urlMail, or_imp, forall_and] using setUp
          · refine adds_trans (record_adds daemon _ ?_) (insert_adds (by simp [setUpHost]) _ _ _)
            simpa [setUpHost, urlMail, or_imp, forall_and] using setUp

theorem establish_status (application : Application) :
    (establishTunnel env user application daemon).2.context.status = daemon.context.status := by
  simp only [establishTunnel]
  split
  · rfl
  · rfl
  · rfl
  · split <;> rfl

theorem other_command_adds (notOpen : commandWord command ≠ "open") :
    Adds (fun effect => setUpHost effect = none) daemon
      (runCommand env user request command args daemon).2 := by
  rw [runCommand, if_neg notOpen]
  split
  · simp only [closeTunnel]
    split
    · exact adds_refl daemon
    · exact close_adds (fun _ => rfl) (fun _ _ => rfl) env.kill _ daemon
  split
  · simp only [resolveStatus]
    split
    · exact ⟨[], by simp, by simp⟩
    · exact adds_refl daemon
    · exact adds_refl daemon
    · exact adds_refl daemon
  split
  · exact record_adds daemon _ (by simp [setUpHost])
  split
  · exact record_adds daemon _ (by simp [setUpHost])
  · exact adds_refl daemon

theorem other_command_status (notStatus : commandWord command ≠ "status") :
    (runCommand env user request command args daemon).2.context.status =
      daemon.context.status := by
  rw [runCommand]
  split
  · simp only [openTunnel]
    split
    · rfl
    · split
      · rfl
      · exact establish_status env user daemon _
  split
  · simp only [closeTunnel]
    split
    · rfl
    · exact (close_frame env.kill _ daemon).1
  split
  · rfl
  · split <;> rfl

end Commands

/-- The address of an application that the event, an `open`, is admitted for. -/
def AdmittedHost (context : Context) (event : Event) (hostIp : IpAddr) : Prop :=
  ∃ name user application, requestedApplication event = some name ∧
    Admitted context user name application ∧ hostIp = application.hostIp

theorem open_adds (env : Env) (sender request : String) (user : User) (command : String)
    (args : List String) (daemon : Daemon)
    (words : RustText.splitWhitespace request = command :: args)
    (isOpen : commandWord command = "open") :
    Adds (fun effect => ∀ hostIp, setUpHost effect = some hostIp →
        AdmittedHost daemon.context (.request env sender request) hostIp)
      daemon (openTunnel env user request args daemon).2 := by
  cases args with
  | nil => exact adds_refl daemon
  | cons name rest =>
      cases admission : admitOpen env.tunnelOrder daemon.context user name with
      | error error =>
          simp only [openTunnel, admission]
          exact adds_refl daemon
      | ok application =>
          have requested : requestedApplication (.request env sender request) = some name := by
            simp [requestedApplication, words, isOpen]
          have admitted := admit_open_admitted env.tunnelOrder daemon.context user name
            application admission
          simp only [openTunnel, admission]
          apply adds_mono _ (establish_adds env user daemon application)
          intro effect only hostIp host
          exact ⟨name, user, application, requested, admitted, only hostIp host⟩

theorem serve_adds (daemon : Daemon) (event : Event) :
    Adds (fun effect => ∀ hostIp, setUpHost effect = some hostIp →
      AdmittedHost daemon.context event hostIp) daemon (serve daemon event) := by
  have quiet (adds : Adds (fun effect => setUpHost effect = none) daemon (serve daemon event)) :
      Adds (fun effect => ∀ hostIp, setUpHost effect = some hostIp →
        AdmittedHost daemon.context event hostIp) daemon (serve daemon event) := by
    apply adds_mono _ adds
    intro effect none hostIp host
    rw [none] at host
    cases host
  cases event with
  | cleanUp now order calls =>
      refine quiet (clean_up_adds now order calls daemon (fun _ => rfl) (fun _ _ => rfl) ?_)
      intro key tunnel _ effect listed
      rcases expiry_notification_sent _ _ effect listed with ⟨user, _, rfl⟩
      rfl
  | processExit process => exact record_adds daemon _ (by simp [setUpHost])
  | request env sender request =>
      cases allowed : senderUser daemon.context.configuration sender with
      | none =>
          simp only [serve, handleRequest, allowed]
          exact adds_refl daemon
      | some user =>
          cases words : RustText.splitWhitespace request with
          | nil =>
              simp only [serve, handleRequest, allowed, words]
              exact adds_refl daemon
          | cons command args =>
              have served : serve daemon (.request env sender request) =
                  (runCommand env user request command args daemon).2 := by
                simp only [serve, handleRequest, allowed, words]
              by_cases isOpen : commandWord command = "open"
              · rw [served, runCommand, if_pos isOpen]
                exact open_adds env sender request user command args daemon words isOpen
              · apply quiet
                rw [served]
                exact other_command_adds env user request command args daemon isOpen

theorem tried_admitted (daemon : Daemon) (event : Event) (hostIp : IpAddr)
    (tried : hostIp ∈ hostsTried daemon event) : AdmittedHost daemon.context event hostIp := by
  rcases serve_adds daemon event with ⟨later, log, all⟩
  rw [hostsTried, added_of_log log] at tried
  rcases List.mem_filterMap.mp tried with ⟨effect, listed, host⟩
  exact all effect listed hostIp host

theorem serve_status (daemon : Daemon) (event : Event) :
    (serve daemon event).context.status =
      ((queriedStatus daemon.context.configuration event).map Prod.snd).getD
        daemon.context.status := by
  cases event with
  | cleanUp now order calls => exact clean_up_status now order calls daemon
  | processExit process => rfl
  | request env sender request =>
      cases allowed : senderUser daemon.context.configuration sender with
      | none => simp [serve, handleRequest, queriedStatus, allowed]
      | some user =>
          cases words : RustText.splitWhitespace request with
          | nil => simp [serve, handleRequest, queriedStatus, allowed, words, requestWord]
          | cons command args =>
              by_cases isStatus : commandWord command = "status"
              · cases resolved : getStatus env.status daemon.context.configuration with
                | ok status =>
                    simp [serve, handleRequest, queriedStatus, allowed, words, requestWord,
                      runCommand, isStatus, resolveStatus, resolved, Context.updateStatus]
                | err _ | panic | stuck =>
                    simp [serve, handleRequest, queriedStatus, allowed, words, requestWord,
                      runCommand, isStatus, resolveStatus, resolved]
              · have same := other_command_status env user request command args daemon isStatus
                simpa [serve, handleRequest, queriedStatus, allowed, words, requestWord, isStatus]
                  using same

/-- The daemon, with the probe of the `get_status` call that its status comes from. -/
structure Watched where
  daemon : Daemon
  probe : StatusProbe

def Step (before : Watched) (event : Event) (after : Watched) : Prop :=
  Service.Step before.daemon event after.daemon ∧
    after.probe =
      ((queriedStatus before.daemon.context.configuration event).map Prod.fst).getD before.probe

structure Produced (configuration : Configuration) (watched : Watched) : Prop where
  configured : watched.daemon.context.configuration = configuration
  resolved : getStatus watched.probe configuration = .ok watched.daemon.context.status

theorem step_produced {configuration : Configuration} {before after : Watched} {event : Event}
    (step : Step before event after) (produced : Produced configuration before) :
    Produced configuration after := by
  rcases step with ⟨served, probe⟩
  have configured := (step_configuration served).trans produced.configured
  refine ⟨configured, ?_⟩
  rw [probe, ← served.2, serve_status, produced.configured]
  cases queried : queriedStatus configuration event with
  | none => exact produced.resolved
  | some call => exact queried_status_resolved queried

/-- Watching takes part in nothing: every run of the daemon can be watched. -/
theorem run_watched {before after : Daemon} {events : List Event}
    (run : LabelledRun.Run Service.Step before events after) (probe : StatusProbe) :
    ∃ last, LabelledRun.Run Step ⟨before, probe⟩ events ⟨after, last⟩ := by
  induction run generalizing probe with
  | refl daemon => exact ⟨probe, .refl _⟩
  | next first _ ih =>
      rcases ih _ with ⟨last, rest⟩
      exact ⟨last, .next ⟨first, rfl⟩ rest⟩

section Starts
variable (initConfig : InitConfig) (configuration : Configuration)

structure Begun (env : StartEnv) (register : Option String) (waited : Waited)
    (first : Watched) : Prop where
  waits : waitForStatus (probed configuration env) (pinVerified env)
    initConfig.initStatusRefreshMaxRetry (initConfig.initStatusRefreshMaxRetry.toNat + 2) =
      .leave waited
  context : (init (.ok (initConfig, configuration)) env register).result =
    .ok first.daemon.context
  log : first.daemon.log = []
  probe : first.probe = env.probes (waited.calls.count .getStatus - 1)

def TriesAnswered (watched : Watched) (event : Event) : Prop :=
  ∀ hostIp ∈ hostsTried watched.daemon event, ∃ name, requestedApplication event = some name ∧
    Vouched configuration watched.probe name hostIp

/-- In every run whose events meet the guard, and for the event after it, be it
one that never returns. -/
def OpensAnswered (guard : Watched → Event → Prop) : Prop :=
  ∀ env register waited first events watched,
    Begun initConfig configuration env register waited first →
    LabelledRun.Run (LabelledRun.guarded guard Step) first events watched →
    ∀ event, guard watched event → TriesAnswered configuration watched event

/-- The applications of the requested name do not mislead an `open`. -/
def NamesAgree (watched : Watched) (event : Event) : Prop :=
  ∀ name, requestedApplication event = some name → Agreeing configuration watched.probe name

variable {initConfig configuration}

theorem start_begun (env : StartEnv) (register : Option String) (context : Context)
    (started : (init (.ok (initConfig, configuration)) env register).result = .ok context) :
    ∃ waited probe, Begun initConfig configuration env register waited ⟨⟨context, []⟩, probe⟩ := by
  rcases wait_settles initConfig.initStatusRefreshMaxRetry (probed configuration env)
    (pinVerified env) with ⟨waited, waits, _⟩
  exact ⟨waited, _, waits, started, rfl, rfl⟩

theorem begun_produced {env : StartEnv} {register : Option String} {waited : Waited}
    {first : Watched} (begun : Begun initConfig configuration env register waited first) :
    Produced configuration first := by
  rcases wait_settles initConfig.initStatusRefreshMaxRetry (probed configuration env)
    (pinVerified env) with ⟨same, waits, within⟩
  cases begun.waits.symm.trans waits
  rcases init_context initConfig configuration env register _ begun.context with
    ⟨status, settled, context⟩
  rw [first_status_waited configuration env initConfig _ waited begun.waits] at settled
  refine ⟨by rw [context]; rfl, ?_⟩
  rw [begun.probe, context]
  exact within.latest status settled

/-- A host that is tried was vouched for exactly where the applications of the
name it was asked for by agree. -/
theorem tried_vouched_iff {watched : Watched} (produced : Produced configuration watched)
    (event : Event) (hostIp : IpAddr) (tried : hostIp ∈ hostsTried watched.daemon event) :
    ∃ name, requestedApplication event = some name ∧
      (Vouched configuration watched.probe name hostIp ↔
        Agreeing configuration watched.probe name) := by
  rcases tried_admitted watched.daemon event hostIp tried with
    ⟨name, user, application, requested, admitted, rfl⟩
  exact ⟨name, requested, admitted_vouched_iff produced.configured produced.resolved admitted⟩

theorem run_produced {env : StartEnv} {register : Option String} {waited : Waited}
    {first watched : Watched} {events : List Event}
    (begun : Begun initConfig configuration env register waited first)
    (run : LabelledRun.Run Step first events watched) : Produced configuration watched :=
  LabelledRun.run_invariant (Produced configuration) (fun _ _ _ step => step_produced step) run
    (begun_produced begun)

end Starts

/-- Tunnels are opened to hosts that answered wherever the applications of the
requested name agree, and nowhere else. -/
theorem opens_answered_iff_agreeing (initConfig : InitConfig) (configuration : Configuration) :
    OpensAnswered initConfig configuration (NamesAgree configuration) ∧
    ∀ env register waited first events watched,
      Begun initConfig configuration env register waited first →
      LabelledRun.Run Step first events watched →
      ∀ event, ∀ hostIp ∈ hostsTried watched.daemon event,
        ∃ name, requestedApplication event = some name ∧
          (Vouched configuration watched.probe name hostIp ↔
            Agreeing configuration watched.probe name) := by
  constructor
  · intro env register waited first events watched begun run event agree hostIp tried
    have free := LabelledRun.run_mono (fun _ _ _ step => step.2) run
    rcases tried_vouched_iff (run_produced begun free) event hostIp tried with
      ⟨name, requested, whenAgreeing⟩
    exact ⟨name, requested, whenAgreeing.mpr (agree name requested)⟩
  · intro env register waited first events watched begun run
    exact tried_vouched_iff (run_produced begun run)

theorem unique_names_agree (configuration : Configuration) (probe : StatusProbe) (name : String)
    (unique : (configuration.applications.map Application.name).Nodup) :
    Agreeing configuration probe name := by
  intro first head last ending answer
  have bearer (entry : Application × Nat) (listed : entry ∈ bearers configuration name) :
      configuration.applications[entry.2]? = some entry.1 ∧ entry.1.name = name := by
    rcases List.mem_filter.mp listed with ⟨numbered, named⟩
    exact ⟨List.mem_zipIdx_iff_getElem?.mp numbered, by simpa using named⟩
  have firstListed := List.mem_of_mem_head? head
  have lastListed := List.mem_of_mem_getLast? ending
  rcases bearer first firstListed with ⟨firstAt, firstNamed⟩
  rcases bearer last lastListed with ⟨lastAt, lastNamed⟩
  have namedAt (index : Nat) (application : Application)
      (found : configuration.applications[index]? = some application)
      (named : application.name = name) :
      (configuration.applications.map Application.name)[index]? = some name := by
    rw [List.getElem?_map, found, Option.map_some, named]
  have firstName := namedAt first.2 first.1 firstAt firstNamed
  have lastName := namedAt last.2 last.1 lastAt lastNamed
  have sameIndex : first.2 = last.2 := by
    have inside := (List.getElem?_eq_some_iff.mp firstName).1
    exact (List.getElem?_inj inside unique).mp (firstName.trans lastName.symm)
  rw [sameIndex, lastAt] at firstAt
  exact ⟨last, lastListed, by rw [Option.some.inj firstAt], answer⟩

/-! Every service is reachable, and of the hosts all but those that are off. -/

def homeProbe (isOff : IpAddr → Bool) : StatusProbe :=
  ModemAnswers.answering DeferredNotices.readCoverage DeferredNotices.coverage
    { silentProbe with
      emailDomain := ⟨fun _ => .ok [⟨[8, 8, 8, 8]⟩], fun _ => .ok ()⟩
      sshDomain := ⟨fun _ => .ok [⟨[8, 8, 4, 4]⟩], fun _ => .ok ()⟩
      applicationPing := fun _ address =>
        if isOff address then .error ⟨"Timeout"⟩ else .ok () }

def homeStart (isOff : IpAddr → Bool) : StartEnv :=
  { DeferredNotices.fineStart with probes := fun _ => homeProbe isOff }

def homeStatus (isOff : IpAddr → Bool) (configuration : Configuration) : Status :=
  { deviceStatus := .ready
    emailServiceStatus := .reachable
    sshTunnelServiceStatus := .reachable
    applicationsStatus :=
      pingApplications (homeProbe isOff).applicationPing 0 configuration.applications ∅ }

theorem home_status_resolved (isOff : IpAddr → Bool) (configuration : Configuration) :
    getStatus (homeProbe isOff) configuration = .ok (homeStatus isOff configuration) := by
  have ready : getDeviceStatus (homeProbe isOff) configuration = .ok .ready :=
    DeferredNotices.fine_device_status configuration _ rfl
  rw [getStatus, ready]
  rfl

def homeBegun (isOff : IpAddr → Bool) (configuration : Configuration) : Watched :=
  ⟨Daemon.start configuration (homeStatus isOff configuration), homeProbe isOff⟩

theorem home_begun (isOff : IpAddr → Bool) (configuration : Configuration) :
    Begun ⟨0⟩ configuration (homeStart isOff) none
      ⟨.ok (homeStatus isOff configuration), [.getStatus]⟩ (homeBegun isOff configuration) := by
  have resolved := home_status_resolved isOff configuration
  have passed := passed_of_ready ⟨0⟩ configuration (homeStart isOff) _ resolved rfl rfl
  refine ⟨?_, by rw [init_passed _ _ _ _ _ passed]; rfl, rfl, rfl⟩
  have answer : probed configuration (homeStart isOff) 0 =
      .ok (homeStatus isOff configuration) := resolved
  simp only [waitForStatus, answer]
  rfl

theorem alice_tries_camera (isOff : IpAddr → Bool) (configuration : Configuration)
    (allowed : senderUser configuration alice.phoneNumber = some alice)
    (admitted : admitOpen (.stored _)
      (homeBegun isOff configuration).daemon.context alice "camera" = .ok camera) :
    camera.hostIp ∈ hostsTried (homeBegun isOff configuration).daemon aliceOpens := by
  have opened := (fine_open_step 0 alice.phoneNumber alice (homeBegun isOff configuration).daemon
    allowed admitted).2
  rw [hostsTried, aliceOpens, opened]
  simp [added, withTunnel, Daemon.insert, homeBegun, Daemon.start, setUpHost]

theorem alice_opens_answering_camera :
    ∃ name, requestedApplication aliceOpens = some name ∧
      Vouched house (homeProbe fun _ => false) name camera.hostIp := by
  refine (opens_answered_iff_agreeing ⟨0⟩ house).1 _ _ _ _ [] _
    (home_begun (fun _ => false) house) (.refl _) aliceOpens ?_ camera.hostIp ?_
  · exact fun name _ => unique_names_agree house _ name (by decide)
  · exact alice_tries_camera _ house (by decide) (by decide +kernel)

def twoCameras : Configuration :=
  { house with applications := [camera, { camera with hostIp := ⟨[192, 168, 1, 3]⟩ }] }

def firstIsOff (address : IpAddr) : Bool := address == camera.hostIp

theorem silent_camera_tried : ¬ ∀ initConfig configuration,
    OpensAnswered initConfig configuration fun _ _ => True := by
  intro opensAnswered
  have tried := alice_tries_camera firstIsOff twoCameras (by decide) (by decide +kernel)
  rcases opensAnswered ⟨0⟩ twoCameras _ _ _ _ [] _ (home_begun firstIsOff twoCameras) (.refl _)
    aliceOpens trivial camera.hostIp tried with ⟨name, _, vouched⟩
  rcases vouched.answers with ⟨bearer, _, address, answer⟩
  have off : firstIsOff bearer.1.hostIp = true := by simp [firstIsOff, address]
  simp [answered, homeBegun, homeProbe, ModemAnswers.answering, off, pingSucceeds] at answer

end TelcoVecchio.AnsweredHosts
