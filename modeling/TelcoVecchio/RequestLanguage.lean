import TelcoVecchio.WordGrammar
import TelcoVecchio.TunnelPairs
import TelcoVecchio.ProcessOwnership

/-!
The requests as a language. A text spells at most one command, in any letter
case of the command word, with any blanks between its words and any words
behind them, and handling it is carrying out that command; a text that spells
none changes nothing. An application is named by one word, so one whose name
is not a word is never opened.
-/

namespace TelcoVecchio.RequestLanguage

open Common Status SshUtils Request Service WordGrammar TunnelPairs ProcessOwnership

inductive Command where
  | openTunnel (application : String)
  | closeAll
  | close (reference : UInt32)
  | status
  | reboot
  | shutdown
  deriving DecidableEq

inductive Spells : Command → List String → Prop where
  | openTunnel (word application : String) (rest : List String)
      (isOpen : commandWord word = "open") :
      Spells (.openTunnel application) (word :: application :: rest)
  | closeAll (word : String) (isClose : commandWord word = "close") : Spells .closeAll [word]
  | close (word digits : String) (rest : List String) (reference : UInt32)
      (isClose : commandWord word = "close") (numeral : Numeral reference.toNat digits.toList) :
      Spells (.close reference) (word :: digits :: rest)
  | status (word : String) (rest : List String) (isStatus : commandWord word = "status") :
      Spells .status (word :: rest)
  | reboot (word : String) (rest : List String) (isReboot : commandWord word = "reboot") :
      Spells .reboot (word :: rest)
  | shutdown (word : String) (rest : List String) (isShutdown : commandWord word = "shutdown") :
      Spells .shutdown (word :: rest)

def SpelledBy (command : Command) (request : String) : Prop :=
  ∃ words : List String, Spaced (words.map String.toList) request.toList ∧ Spells command words

def closeListed (env : Env) (references : List UInt32) (daemon : Daemon) :
    Outcome String × Daemon :=
  let closing := closeTunnels env.kill references daemon
  (closing.1.bind fun _ => .ok (closeMessage references), closing.2)

def execute (env : Env) (user : User) (daemon : Daemon) : Command → Outcome String × Daemon
  | .openTunnel application =>
      match admitOpen env.tunnelOrder daemon.context user application with
      | .error error => (.err error, daemon)
      | .ok application => establishTunnel env user application daemon
  | .closeAll =>
      match ownReferences env.tunnelOrder daemon.context.tunnels user.name with
      | [] => (.err (.invalidRequestError "No open tunnel"), daemon)
      | references => closeListed env references daemon
  | .close reference => closeListed env [reference] daemon
  | .status => resolveStatus env daemon
  | .reboot => reboot user daemon
  | .shutdown => shutdown daemon

theorem spells_unique {command other : Command} {words : List String}
    (spells : Spells command words) (again : Spells other words) : command = other := by
  cases spells with
  | close word digits rest reference isClose numeral =>
      cases again with
      | close _ _ _ second _ numeralAgain =>
          have first := (parse_u32_iff digits reference).mpr numeral
          have same := (parse_u32_iff digits second).mpr numeralAgain
          rw [first] at same
          cases same
          rfl
      | _ => simp_all
  | _ => cases again <;> simp_all

theorem spelled_unique {command other : Command} {request : String}
    (spelled : SpelledBy command request) (again : SpelledBy other request) : command = other := by
  rcases spelled with ⟨words, spaced, spells⟩
  rcases again with ⟨others, spacedAgain, spellsAgain⟩
  have split := (split_whitespace_iff request words).mpr spaced
  rw [(split_whitespace_iff request others).mpr spacedAgain] at split
  subst others
  exact spells_unique spells spellsAgain

section Handling
variable (env : Env) (sender request : String) (daemon : Daemon) (user : User)
  (allowed : senderUser daemon.context.configuration sender = some user)
include allowed

theorem spelled_executes (command : Command) (spelled : SpelledBy command request) :
    handleRequest env sender request daemon = execute env user daemon command := by
  rcases spelled with ⟨words, spaced, spells⟩
  have split := (split_whitespace_iff request words).mpr spaced
  simp only [handleRequest, allowed, split]
  cases spells with
  | openTunnel word application rest isOpen =>
      simp only [runCommand, isOpen, ↓reduceIte]
      rfl
  | closeAll word isClose =>
      simp only [runCommand, isClose, String.reduceEq, ↓reduceIte, closeTunnel, closeReferences,
        execute]
      cases own : ownReferences env.tunnelOrder daemon.context.tunnels user.name with
      | nil => rfl
      | cons first others => rfl
  | close word digits rest reference isClose numeral =>
      have parsed := (parse_u32_iff digits reference).mpr numeral
      simp only [runCommand, isClose, String.reduceEq, ↓reduceIte, closeTunnel, closeReferences,
        parsed, execute, closeListed]
  | status word rest isStatus =>
      simp only [runCommand, isStatus, String.reduceEq, ↓reduceIte, execute]
  | reboot word rest isReboot =>
      simp only [runCommand, isReboot, String.reduceEq, ↓reduceIte, execute]
  | shutdown word rest isShutdown =>
      simp only [runCommand, isShutdown, String.reduceEq, ↓reduceIte, execute]

theorem refused_or_spelled :
    (∃ message, handleRequest env sender request daemon =
      (.err (.invalidRequestError message), daemon)) ∨ ∃ command, SpelledBy command request := by
  cases words : RustText.splitWhitespace request with
  | nil =>
      left
      simp only [handleRequest, allowed, words]
      exact ⟨_, rfl⟩
  | cons word args =>
      have spaced := (split_whitespace_iff request (word :: args)).mp words
      by_cases isOpen : commandWord word = "open"
      · cases args with
        | nil =>
            left
            simp only [handleRequest, allowed, words, runCommand, isOpen, ↓reduceIte, openTunnel]
            exact ⟨_, rfl⟩
        | cons application rest =>
            exact Or.inr ⟨_, _, spaced, .openTunnel word application rest isOpen⟩
      · by_cases isClose : commandWord word = "close"
        · cases args with
          | nil => exact Or.inr ⟨_, _, spaced, .closeAll word isClose⟩
          | cons digits rest =>
              cases parsed : RustText.parseU32 digits with
              | none =>
                  left
                  simp only [handleRequest, allowed, words, runCommand, isClose, String.reduceEq,
                    ↓reduceIte, closeTunnel, closeReferences, parsed]
                  exact ⟨_, rfl⟩
              | some reference =>
                  have numeral := (parse_u32_iff digits reference).mp parsed
                  exact Or.inr ⟨_, _, spaced, .close word digits rest reference isClose numeral⟩
        · by_cases isStatus : commandWord word = "status"
          · exact Or.inr ⟨_, _, spaced, .status word args isStatus⟩
          · by_cases isReboot : commandWord word = "reboot"
            · exact Or.inr ⟨_, _, spaced, .reboot word args isReboot⟩
            · by_cases isShutdown : commandWord word = "shutdown"
              · exact Or.inr ⟨_, _, spaced, .shutdown word args isShutdown⟩
              · left
                simp only [handleRequest, allowed, words, runCommand, isOpen, isClose, isStatus,
                  isReboot, isShutdown, ↓reduceIte]
                exact ⟨_, rfl⟩

/-- The language of an allowed user's requests: exactly one command is spelled
and carried out, or none is and nothing happens. -/
theorem request_language :
    (∃ command, SpelledBy command request ∧ (∀ other, SpelledBy other request → other = command) ∧
      handleRequest env sender request daemon = execute env user daemon command) ∨
    ((∀ command, ¬ SpelledBy command request) ∧
      ∃ message, handleRequest env sender request daemon =
        (.err (.invalidRequestError message), daemon)) := by
  by_cases meant : ∃ command, SpelledBy command request
  · rcases meant with ⟨command, spelled⟩
    exact Or.inl ⟨command, spelled, fun _ again => spelled_unique again spelled,
      spelled_executes env sender request daemon user allowed command spelled⟩
  · rcases refused_or_spelled env sender request daemon user allowed with refused | spelled
    · exact Or.inr ⟨fun command spelled => meant ⟨command, spelled⟩, refused⟩
    · exact absurd spelled meant

end Handling

def Command.words : Command → List String
  | .openTunnel application => ["open", application]
  | .closeAll => ["close"]
  | .close reference => ["close", toString reference]
  | .status => ["status"]
  | .reboot => ["reboot"]
  | .shutdown => ["shutdown"]

def spell : List String → String
  | [] => ""
  | [word] => word
  | word :: rest => word ++ " " ++ spell rest

def Command.text (command : Command) : String := spell command.words

/-- Only the name of an application may fail to be a word. -/
def Command.Writable : Command → Prop
  | .openTunnel application => Word application.toList
  | _ => True

theorem command_word (word : String)
    (letters : (word.toList.isEmpty || word.toList.any RustText.isWhitespace) = false) :
    Word word.toList := by
  constructor
  · rintro empty
    simp [empty] at letters
  · intro char member
    simp only [Bool.or_eq_false_iff, List.any_eq_false] at letters
    simpa using letters.2 char member

theorem spell_spaced (words : List String) (each : ∀ word ∈ words, Word word.toList) :
    Spaced (words.map String.toList) (spell words).toList := by
  induction words with
  | nil => exact .blank [] (by simp [Blank])
  | cons word rest ih =>
      have isWord := each word List.mem_cons_self
      cases rest with
      | nil => exact spaced_single word.toList isWord
      | cons second others =>
          have later := ih fun other member => each other (List.mem_cons_of_mem word member)
          have joined := spaced_cons word.toList _ _ isWord later
          have text : (spell (word :: second :: others)).toList =
              word.toList ++ ' ' :: (spell (second :: others)).toList := by
            simp [spell, String.toList_append]
          rw [text]
          exact joined

theorem written_words (command : Command) (writable : command.Writable) :
    ∀ word ∈ command.words, Word word.toList := by
  intro word member
  cases command with
  | openTunnel application =>
      rcases List.mem_pair.mp member with rfl | rfl
      · exact command_word "open" rfl
      · exact writable
  | closeAll => exact List.mem_singleton.mp member ▸ command_word "close" rfl
  | close reference =>
      rcases List.mem_pair.mp member with rfl | rfl
      · exact command_word "close" rfl
      · exact decimal_word reference
  | status => exact List.mem_singleton.mp member ▸ command_word "status" rfl
  | reboot => exact List.mem_singleton.mp member ▸ command_word "reboot" rfl
  | shutdown => exact List.mem_singleton.mp member ▸ command_word "shutdown" rfl

theorem words_spell (command : Command) : Spells command command.words := by
  cases command with
  | openTunnel application => exact .openTunnel "open" application [] rfl
  | closeAll => exact .closeAll "close" rfl
  | close reference =>
      apply Spells.close "close" (toString reference) [] reference rfl
      rw [to_string_u32]
      exact decimal_numeral reference.toNat
  | status => exact .status "status" [] rfl
  | reboot => exact .reboot "reboot" [] rfl
  | shutdown => exact .shutdown "shutdown" [] rfl

theorem written_spelled (command : Command) (writable : command.Writable) :
    SpelledBy command command.text :=
  ⟨command.words, spell_spaced command.words (written_words command writable),
    words_spell command⟩

/-- What is written for a command is carried out as that command. -/
theorem written_executes (env : Env) (sender : String) (daemon : Daemon) (user : User)
    (allowed : senderUser daemon.context.configuration sender = some user) (command : Command)
    (writable : command.Writable) :
    handleRequest env sender command.text daemon = execute env user daemon command :=
  spelled_executes env sender command.text daemon user allowed command
    (written_spelled command writable)

/-! Which applications can be opened at all. -/

theorem split_word (request : String) (word : String)
    (listed : word ∈ RustText.splitWhitespace request) : Word word.toList := by
  have spaced := (split_whitespace_iff request _).mp rfl
  have words : ∀ {words : List (List Char)} {text : List Char}, Spaced words text →
      ∀ word ∈ words, Word word := by
    intro words text spaced
    induction spaced with
    | blank => simp
    | word front word text words _ isWord _ _ ih =>
        intro other member
        rcases List.mem_cons.mp member with rfl | later
        · exact isWord
        · exact ih other later
  exact words spaced word.toList (List.mem_map_of_mem listed)

/-- A request removes tunnels at most, or it is an `open` that completes. -/
theorem handled_shrinks_or_opens {env : Env} {sender request : String} {before after : Daemon}
    {outcome : Outcome String} (handled : Handled env sender request before outcome after) :
    Shrinks before after ∨ ∃ user application applicationStr url,
      Completes env sender request before user application applicationStr url ∧
      Admitted before.context user applicationStr application ∧
      after = withTunnel env user application url before := by
  cases handled with
  | opened user application applicationStr url completes admitted =>
      exact Or.inr ⟨user, application, applicationStr, url, completes, admitted, rfl⟩
  | closed => exact Or.inl (close_shrinks _ _ _)
  | notAllowed | rejected | statusEnded => exact Or.inl (shrinks_refl before)
  | setupEnded | emailFailed | statusResolved | scheduled =>
      exact Or.inl (shrinks_of_context rfl rfl)

def WordsOpen (daemon : Daemon) : Prop :=
  ∀ key tunnel, daemon.context.tunnels.lookup key = some tunnel → Word tunnel.application.toList

theorem shrinks_words_open {before after : Daemon} (shrinks : Shrinks before after)
    (words : WordsOpen before) : WordsOpen after :=
  fun key tunnel held => words key tunnel (shrinks.held key tunnel held)

theorem step_words_open {before after : Daemon} {event : Event} (step : Step before event after)
    (words : WordsOpen before) : WordsOpen after := by
  rcases step with ⟨_, rfl⟩
  cases event with
  | request env sender request =>
      rcases handled_shrinks_or_opens (handle_request_handled env sender request before) with
        shrinks | ⟨user, application, applicationStr, url, completes, admitted, opened⟩
      · exact shrinks_words_open shrinks words
      · simp only [serve, opened]
        intro key tunnel held
        rw [with_tunnel_lookup] at held
        split at held
        · cases held
          rcases completes.words with ⟨command, rest, split, _⟩
          have named : application.name = applicationStr := by
            simpa using List.find?_some admitted.resolved
          have isWord := split_word request applicationStr (by simp [split])
          rw [← named] at isWord
          exact isWord
        · exact words key tunnel held
  | cleanUp now order calls => exact shrinks_words_open (clean_up_shrinks now order calls before) words
  | processExit process => exact words

theorem admit_open_ok (order : Order TunnelEntry) {context : Context} {user : User}
    {applicationStr : String} {application : Application}
    (admitted : Admitted context user applicationStr application) :
    admitOpen order context user applicationStr = .ok application := by
  have below : limitReached context = false := by
    cases max : context.configuration.sshConfig.tunnelMaxNumber with
    | none => simp only [limitReached, max]
    | some number => simpa [limitReached, max] using admitted.belowLimit number max
  have noneOpen : (order.arrange context.tunnels.entries).find? (fun entry =>
      entry.2.user == user.name && entry.2.application == application.name) = none := by
    rw [List.find?_eq_none]
    rintro ⟨reference, tunnel⟩ listed
    have held := (lookup_mem_arranged order context.tunnels reference tunnel).mp listed
    simpa using admitted.notOpen reference tunnel held
  simp only [admitOpen, admitted.ready, admitted.emailReachable, admitted.sshReachable,
    admitted.resolved, admitted.applicationReachable, Option.getD_some, ne_eq, not_true_eq_false,
    ↓reduceIte, below, noneOpen, Bool.false_eq_true]

theorem answering_reachable (index : Nat) (applications : List Application)
    (statuses : AList fun _ : String => ServiceStatus) (name : String)
    (known : (∃ application ∈ applications, application.name = name) ∨
      statuses.lookup name = some .reachable) :
    (pingApplications readyProbe.applicationPing index applications statuses).lookup name =
      some .reachable := by
  induction applications generalizing index statuses with
  | nil =>
      rcases known with ⟨application, member, _⟩ | held
      · cases member
      · exact held
  | cons application rest ih =>
      apply ih
      by_cases same : name = application.name
      · subst same
        exact .inr (AList.lookup_insert statuses)
      · rcases known with ⟨other, member, named⟩ | held
        · rcases List.mem_cons.mp member with rfl | later
          · exact absurd named.symm same
          · exact .inl ⟨other, later, named⟩
        · exact .inr ((AList.lookup_insert_ne same).trans held)

/-- What `get_status` makes of `readyProbe`. -/
def opensReady (configuration : Configuration) : Status :=
  ⟨.ready, .reachable, .reachable,
    pingApplications readyProbe.applicationPing 0 configuration.applications ∅⟩

theorem opens_ready_resolved (configuration : Configuration) :
    getStatus readyProbe configuration = .ok (opensReady configuration) :=
  rfl

theorem word_application_opens (configuration : Configuration) (application : Application)
    (user : User) (others : List User) (users : configuration.users = user :: others)
    (resolved : configuration.applications.find? (fun app => app.name == application.name) =
      some application)
    (limit : configuration.sshConfig.tunnelMaxNumber ≠ some 0)
    (isWord : Word application.name.toList) :
    Completes (fineEnv 0) user.phoneNumber (Command.openTunnel application.name).text
      (Daemon.start configuration (opensReady configuration)) user application application.name
      url where
  allowed := by
    simp [senderUser, Daemon.start, Context.new, users]
  words := by
    have split := (split_whitespace_iff _ _).mpr
      (spell_spaced _ (written_words (.openTunnel application.name) isWord))
    exact ⟨"open", [], split, rfl⟩
  admitted := by
    apply admit_open_ok
    constructor
    case ready | emailReachable | sshReachable => rfl
    case resolved => exact resolved
    case applicationReachable =>
      exact answering_reachable 0 _ ∅ _ (.inl ⟨application, List.mem_of_find?_eq_some resolved, rfl⟩)
    case belowLimit =>
      intro max limited
      by_contra none
      have zero : max = 0 := UInt32.toNat_inj.mp (Nat.eq_zero_of_not_pos none)
      exact limit (zero ▸ limited)
    case notOpen =>
      intro reference tunnel held
      cases held
  connected := ⟨forwardingProcess, rfl, forwarding_process_url⟩
  mailed := rfl

def OpensFrom (configuration : Configuration) (status : Status) (name : String) : Prop :=
  ∃ events daemon key tunnel, Reaches configuration status events daemon ∧
    daemon.context.tunnels.lookup key = some tunnel ∧ tunnel.application = name

/-- Configured under a name that is a word, for at least one user, with a limit
other than 0. -/
structure Openable (configuration : Configuration) (name : String) : Prop where
  configured : ∃ application ∈ configuration.applications, application.name = name
  isWord : Word name.toList
  users : configuration.users ≠ []
  limit : configuration.sshConfig.tunnelMaxNumber ≠ some 0

theorem openable_of_opens {configuration : Configuration} {status : Status} {name : String}
    (opens : OpensFrom configuration status name) : Openable configuration name := by
  rcases opens with ⟨events, daemon, key, tunnel, run, held, rfl⟩
  have pairs := LabelledRun.run_invariant PairsDistinct
    (fun _ _ _ step pairs => step_pairs_distinct step pairs) run
    (start_pairs_distinct configuration status)
  have words := LabelledRun.run_invariant WordsOpen
    (fun _ _ _ step words => step_words_open step words) run (fun _ _ held => by cases held)
  have same := reaches_configuration run
  rcases pairs.named key tunnel held with ⟨⟨user, member, _⟩, application, configured, named⟩
  rw [same] at member configured
  refine ⟨⟨application, configured, named⟩, words key tunnel held, List.ne_nil_of_mem member, ?_⟩
  intro none
  have within := reaches_within_limit run 0 (same ▸ none)
  have listed : (⟨key, tunnel⟩ : TunnelEntry) ∈ daemon.context.tunnels.entries :=
    AList.mem_lookup_iff.mp held
  exact absurd (List.length_pos_of_mem listed) (Nat.not_lt.mpr within)

theorem opens_of_openable {configuration : Configuration} {name : String}
    (openable : Openable configuration name) :
    OpensFrom configuration (opensReady configuration) name := by
  rcases openable with ⟨⟨application, configured, named⟩, isWord, some, limit⟩
  cases users : configuration.users with
  | nil => exact absurd users some
  | cons user others =>
      cases resolved : configuration.applications.find? (fun app => app.name == name) with
      | none =>
          have missed := List.find?_eq_none.mp resolved application configured
          simp [named] at missed
      | some first =>
          have same : first.name = name := by simpa using List.find?_some resolved
          subst same
          have completes := word_application_opens configuration first user others users resolved
            limit isWord
          have opened := completes_opens completes
          let start := Daemon.start configuration (opensReady configuration)
          let event : Event := .request (fineEnv 0) user.phoneNumber
            (Command.openTunnel first.name).text
          have step : Step start event (withTunnel (fineEnv 0) user first url start) :=
            ⟨by simp only [start, event, Returns, opened, Returned],
              by simp only [start, event, serve, opened]⟩
          refine ⟨[event], _, 0, newTunnel (fineEnv 0) user first start, .next step (.refl _), ?_,
            rfl⟩
          rw [with_tunnel_lookup]
          exact if_pos rfl

/-- An application can ever be open exactly if it is configured under a name
that is a word, for at least one user, with a limit other than 0. It then opens
from a status that `get_status` gives. -/
theorem openable_iff (configuration : Configuration) (name : String) :
    ((∃ status, OpensFrom configuration status name) ↔ Openable configuration name) ∧
    ((∃ probe status, getStatus probe configuration = .ok status ∧
      OpensFrom configuration status name) ↔ Openable configuration name) := by
  constructor
  · constructor
    · rintro ⟨status, opens⟩
      exact openable_of_opens opens
    · intro openable
      exact ⟨_, opens_of_openable openable⟩
  · constructor
    · rintro ⟨probe, status, _, opens⟩
      exact openable_of_opens opens
    · intro openable
      exact ⟨readyProbe, _, opens_ready_resolved configuration, opens_of_openable openable⟩

/-! The words of a request to open the camera, spelled with a tabulator, a line
feed, capital letters and words behind. -/

theorem shouted_open_executes :
    handleRequest (fineEnv 0) alice.phoneNumber "\t OPEN\ncamera now" oneOpen =
      execute (fineEnv 0) alice oneOpen (.openTunnel "camera") := by
  rcases request_language (fineEnv 0) alice.phoneNumber "\t OPEN\ncamera now" oneOpen alice
    (by decide) with ⟨command, spelled, unique, executed⟩ | ⟨none, _⟩
  · have meant : SpelledBy (.openTunnel "camera") "\t OPEN\ncamera now" :=
      ⟨["OPEN", "camera", "now"], (split_whitespace_iff _ _).mp rfl,
        .openTunnel "OPEN" "camera" ["now"] rfl⟩
    rw [executed, unique _ meant]
  · exact absurd ⟨["OPEN", "camera", "now"], (split_whitespace_iff _ _).mp rfl,
      .openTunnel "OPEN" "camera" ["now"] rfl⟩ (none (.openTunnel "camera"))

theorem close_written_executes :
    handleRequest (fineEnv 0) bob.phoneNumber "close 0" oneOpen =
      execute (fineEnv 0) bob oneOpen (.close 0) :=
  written_executes (fineEnv 0) bob.phoneNumber oneOpen bob (by decide) (.close 0) trivial

end TelcoVecchio.RequestLanguage
