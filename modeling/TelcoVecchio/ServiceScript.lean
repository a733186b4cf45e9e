import Mathlib.Data.List.Infix
import Mathlib.Data.List.Sort
import TelcoVecchio.LabelledRun

/-!
`telco-vecchio-init`, the script around the daemon, and `--daemon` of `main.rs`.
The script knows the daemon by its PID file alone, while the process table
changes without it: a daemon whose `init` fails or that panics is gone at any
moment. An invocation comes with what else runs meanwhile and which daemons exit.
-/

namespace TelcoVecchio.ServiceScript

/-- A line of `ps -w`. -/
structure Process where
  pid : Nat
  command : String
  deriving DecidableEq

/-- `DAEMON` -/
def daemonPath : String := "/usr/bin/telco-vecchio"

/-- `$DAEMON $DAEMON_ARGS`, after the fork. -/
def daemonProcess (pid : Nat) : Process := ⟨pid, "/usr/bin/telco-vecchio --daemon"⟩

/-- The `grep` of the pipeline that looks for the daemon. -/
def grepProcess (pid : Nat) : Process := ⟨pid, "grep /usr/bin/telco-vecchio"⟩

/-- `grep $DAEMON`, on one line. -/
def mentionsDaemon (process : Process) : Bool :=
  process.command.toList.tails.any fun rest => daemonPath.toList.isPrefixOf rest

/-- `ps` lists by increasing PID. -/
def listing (processes : List Process) : List Process :=
  processes.insertionSort fun left right => left.pid ≤ right.pid

/-- `ps -w | grep $DAEMON | awk {'print $1'} | head -n 1` -/
def firstPid (processes : List Process) : Option Nat :=
  (((listing processes).filter mentionsDaemon).map Process.pid).head?

/-- The PID file, if it exists, with its line, if it has one, and the daemons
that run. -/
structure Machine where
  pidFile : Option (Option Nat)
  daemons : List Nat
  deriving DecidableEq

def Machine.idle : Machine := ⟨none, []⟩

@[simp] theorem idle_pid_file : Machine.idle.pidFile = none := rfl

@[simp] theorem idle_daemons : Machine.idle.daemons = [] := rfl

/-- What comes with a `start`: the PID that a launched daemon gets, the daemons
that exit before the listing and after it, and what else is listed. -/
structure Launch where
  daemonPid : Nat
  exitedEarly : List Nat
  grepPid : Nat
  others : List Process
  exitedLate : List Nat

/-- What comes with a `stop`: the daemons that exit before the `kill` and what
else runs then. -/
structure Kill where
  exited : List Nat
  others : List Process

/-- The machine after an invocation, the daemon that was launched and the process
that was signalled. -/
structure Done where
  machine : Machine
  launched : Option Nat
  signalled : Option Nat
  deriving DecidableEq

def without (exited daemons : List Nat) : List Nat := daemons.filter (· ∉ exited)

/-- `status` succeeds when the PID file exists. -/
def status (machine : Machine) : Bool := machine.pidFile.isSome

def start (launch : Launch) (machine : Machine) : Done :=
  if status machine then
    { machine :=
        { machine with
          daemons := without launch.exitedLate (without launch.exitedEarly machine.daemons) }
      launched := none
      signalled := none }
  else
    let running := without launch.exitedEarly (launch.daemonPid :: machine.daemons)
    -- the line is written whatever became of the daemon
    { machine :=
        { pidFile := some (firstPid
            (running.map daemonProcess ++ grepProcess launch.grepPid :: launch.others))
          daemons := without launch.exitedLate running }
      launched := some launch.daemonPid
      signalled := none }

def stop (kill : Kill) (machine : Machine) : Done :=
  let running := without kill.exited machine.daemons
  match machine.pidFile with
  | none => { machine := { machine with daemons := running }, launched := none, signalled := none }
  | some recorded =>
      -- the signal goes to whichever process bears the PID by now
      { machine := { pidFile := none, daemons := running.filter fun pid => some pid ≠ recorded }
        launched := none
        signalled := recorded.filter fun pid =>
          pid ∈ running ∨ pid ∈ kill.others.map Process.pid }

/-- The result of `stop` is not looked at. -/
def restart (kill : Kill) (launch : Launch) (machine : Machine) : Done :=
  let stopped := stop kill machine
  { start launch stopped.machine with signalled := stopped.signalled }

inductive Invocation where
  | start (launch : Launch)
  | stop (kill : Kill)
  | restart (kill : Kill) (launch : Launch)

def perform (machine : Machine) : Invocation → Done
  | .start launch => start launch machine
  | .stop kill => stop kill machine
  | .restart kill launch => restart kill launch machine

inductive Move where
  | exit (pid : Nat)
  | invoke (invocation : Invocation)

def move (machine : Machine) : Move → Machine
  | .exit pid => { machine with daemons := without [pid] machine.daemons }
  | .invoke invocation => (perform machine invocation).machine

def Step (before : Machine) (label : Move) (after : Machine) : Prop := move before label = after

/-- The machine on which the `start` of an invocation finds itself. -/
def foundByStart (machine : Machine) : Invocation → Option Machine
  | .start _ => some machine
  | .stop _ => none
  | .restart kill _ => some (stop kill machine).machine

/-- After an invocation the file tells whether a daemon runs, there is one at
most, a `start` launched one exactly if none ran, and no process but the
daemon's was signalled. -/
structure Agrees (machine : Machine) (invocation : Invocation) : Prop where
  file : (perform machine invocation).machine.pidFile.isSome = true ↔
    (perform machine invocation).machine.daemons ≠ []
  single : (perform machine invocation).machine.daemons.length ≤ 1
  launches : ∀ found, foundByStart machine invocation = some found →
    ((perform machine invocation).launched.isSome = true ↔ found.daemons = [])
  signals : ∀ pid, (perform machine invocation).signalled = some pid → pid ∈ machine.daemons

/-- A launched daemon runs to the end of its `start`, and its PID is the lowest
of those whose line mentions the daemon. -/
structure Recorded (launch : Launch) : Prop where
  listed : launch.daemonPid ∉ launch.exitedEarly
  survives : launch.daemonPid ∉ launch.exitedLate
  belowGrep : launch.daemonPid < launch.grepPid
  belowOthers : ∀ process ∈ launch.others, mentionsDaemon process = true →
    launch.daemonPid < process.pid

def Unborne (kill : Kill) (machine : Machine) : Prop :=
  ∀ pid, machine.pidFile = some (some pid) → pid ∉ kill.others.map Process.pid

/-- A `start` that finds the file finds the daemon too, up to its end. -/
def Undisturbed (machine : Machine) : Move → Prop
  | .exit _ => True
  | .invoke (.start launch) =>
      if status machine then
        ∃ pid ∈ machine.daemons, pid ∉ launch.exitedEarly ∧ pid ∉ launch.exitedLate
      else Recorded launch
  | .invoke (.stop kill) => Unborne kill machine
  | .invoke (.restart kill launch) => Unborne kill machine ∧ Recorded launch

theorem mem_without (exited daemons : List Nat) (pid : Nat) :
    pid ∈ without exited daemons ↔ pid ∈ daemons ∧ pid ∉ exited := by
  simp [without]

theorem mentions_daemon (pid : Nat) : mentionsDaemon (daemonProcess pid) = true := by
  have start : daemonPath.toList.isPrefixOf "/usr/bin/telco-vecchio --daemon".toList = true := by
    decide
  rw [mentionsDaemon, List.any_eq_true]
  exact ⟨_, (List.mem_tails _ _).mpr List.suffix_rfl, start⟩

theorem first_pid_lowest (processes : List Process) (process : Process)
    (member : process ∈ processes) (mentions : mentionsDaemon process = true)
    (lowest : ∀ other ∈ processes, mentionsDaemon other = true → process.pid ≤ other.pid) :
    firstPid processes = some process.pid := by
  have sorted : ((listing processes).filter mentionsDaemon).Pairwise
      fun left right => left.pid ≤ right.pid :=
    (List.pairwise_insertionSort (fun left right : Process => left.pid ≤ right.pid) processes).filter _
  have listed : process ∈ (listing processes).filter mentionsDaemon :=
    List.mem_filter.mpr ⟨(List.mem_insertionSort _).mpr member, mentions⟩
  have bounded : ∀ other ∈ (listing processes).filter mentionsDaemon, process.pid ≤ other.pid := by
    intro other inListing
    obtain ⟨inProcesses, matching⟩ := List.mem_filter.mp inListing
    exact lowest other ((List.mem_insertionSort _).mp inProcesses) matching
  rw [firstPid]
  cases lines : (listing processes).filter mentionsDaemon with
  | nil =>
      rw [lines] at listed
      cases listed
  | cons first rest =>
      rw [lines] at sorted listed bounded
      have notAbove := bounded first List.mem_cons_self
      rcases List.mem_cons.mp listed with rfl | later
      · rfl
      · have notBelow := List.rel_of_pairwise_cons sorted later
        exact congrArg some (Nat.le_antisymm notBelow notAbove)

/-- What the guarded moves keep. A file may outlive its daemon, never the reverse. -/
def Known (machine : Machine) : Prop :=
  machine.daemons = [] ∨ ∃ pid, machine.daemons = [pid] ∧ machine.pidFile = some (some pid)

theorem without_known {machine : Machine} (known : Known machine) (exited : List Nat) :
    Known { machine with daemons := without exited machine.daemons } := by
  rcases known with none | ⟨pid, running, recorded⟩
  · exact Or.inl (by simp [none, without])
  · by_cases gone : pid ∈ exited
    · exact Or.inl (by simp [running, without, gone])
    · exact Or.inr ⟨pid, by simp [running, without, gone], recorded⟩

theorem launch_recorded (launch : Launch) (recorded : Recorded launch) :
    start launch Machine.idle =
      ⟨⟨some (some launch.daemonPid), [launch.daemonPid]⟩, some launch.daemonPid, none⟩ := by
  have early : without launch.exitedEarly [launch.daemonPid] = [launch.daemonPid] := by
    simp [without, recorded.listed]
  have late : without launch.exitedLate [launch.daemonPid] = [launch.daemonPid] := by
    simp [without, recorded.survives]
  have first : firstPid ([launch.daemonPid].map daemonProcess ++
      grepProcess launch.grepPid :: launch.others) = some launch.daemonPid := by
    apply first_pid_lowest _ (daemonProcess launch.daemonPid) (by simp)
      (mentions_daemon launch.daemonPid)
    intro other member matching
    simp only [List.map_cons, List.map_nil, List.cons_append, List.nil_append,
      List.mem_cons] at member
    rcases member with rfl | rfl | inOthers
    · exact Nat.le_refl _
    · exact recorded.belowGrep.le
    · exact (recorded.belowOthers other inOthers matching).le
  simp only [start, status, Machine.idle, early, late, first]
  rfl

theorem stop_known {kill : Kill} {machine : Machine} (known : Known machine) :
    (stop kill machine).machine = Machine.idle := by
  rcases known with none | ⟨pid, running, recorded⟩
  · cases file : machine.pidFile with
    | none => simp [stop, file, none, without, Machine.idle]
    | some content => simp [stop, file, none, without, Machine.idle]
  · by_cases gone : pid ∈ kill.exited
    · simp [stop, recorded, running, without, gone, Machine.idle]
    · simp [stop, recorded, running, without, gone, Machine.idle]

theorem stop_signals {kill : Kill} {machine : Machine} (unborne : Unborne kill machine) (pid : Nat)
    (signalled : (stop kill machine).signalled = some pid) : pid ∈ machine.daemons := by
  cases file : machine.pidFile with
  | none => simp [stop, file] at signalled
  | some content =>
      simp only [stop, file, Option.filter_eq_some_iff, decide_eq_true_eq] at signalled
      obtain ⟨rfl, running | other⟩ := signalled
      · exact ((mem_without _ _ pid).mp running).1
      · exact absurd other (unborne pid file)

theorem known_without_file {machine : Machine} (known : Known machine)
    (missing : status machine = false) : machine = Machine.idle := by
  obtain ⟨pidFile, daemons⟩ := machine
  have absent : pidFile = none := by simpa [status] using missing
  subst pidFile
  rcases known with none | ⟨pid, _, recorded⟩
  · simp only at none
    rw [none]
    rfl
  · cases recorded

theorem start_known {launch : Launch} {machine : Machine} (known : Known machine)
    (undisturbed : Undisturbed machine (.invoke (.start launch))) :
    Known (start launch machine).machine := by
  simp only [Undisturbed] at undisturbed
  cases found : status machine with
  | true =>
      simp only [start, found, if_true]
      exact without_known (without_known known launch.exitedEarly) launch.exitedLate
  | false =>
      simp only [found, Bool.false_eq_true, if_false] at undisturbed
      rw [known_without_file known found, launch_recorded launch undisturbed]
      exact Or.inr ⟨launch.daemonPid, rfl, rfl⟩

theorem move_known {machine : Machine} {label : Move} (known : Known machine)
    (undisturbed : Undisturbed machine label) : Known (move machine label) := by
  cases label with
  | exit pid => exact without_known known [pid]
  | invoke invocation =>
      cases invocation with
      | start launch => exact start_known known undisturbed
      | stop kill =>
          change Known (stop kill machine).machine
          rw [stop_known known]
          exact Or.inl rfl
      | restart kill launch =>
          change Known (start launch (stop kill machine).machine).machine
          rw [stop_known known, launch_recorded launch undisturbed.2]
          exact Or.inr ⟨launch.daemonPid, rfl, rfl⟩

theorem refused_agrees {launch : Launch} {machine : Machine} (known : Known machine)
    (found : status machine = true)
    (runs : ∃ pid ∈ machine.daemons, pid ∉ launch.exitedEarly ∧ pid ∉ launch.exitedLate) :
    Agrees machine (.start launch) := by
  obtain ⟨pid, running, early, late⟩ := runs
  rcases known with none | ⟨own, daemons, _⟩
  · rw [none] at running
    cases running
  · have same : pid = own := by simpa [daemons] using running
    subst own
    have left : without launch.exitedLate (without launch.exitedEarly machine.daemons) = [pid] := by
      simp [daemons, without, early, late]
    have refused : perform machine (.start launch) =
        ⟨{ machine with daemons := [pid] }, none, none⟩ := by
      simp only [perform, start, found, if_true, left]
    refine ⟨?_, ?_, ?_, ?_⟩
    · rw [refused]
      exact iff_of_true found (List.cons_ne_nil pid [])
    · rw [refused]
      exact Nat.le_refl 1
    · intro before isFound
      cases isFound
      simp [refused, daemons]
    · intro signalled isSignalled
      simp [refused] at isSignalled

theorem invocation_agrees {machine : Machine} (known : Known machine) (invocation : Invocation)
    (undisturbed : Undisturbed machine (.invoke invocation)) : Agrees machine invocation := by
  cases invocation with
  | start launch =>
      simp only [Undisturbed] at undisturbed
      cases found : status machine with
      | true =>
          simp only [found, if_true] at undisturbed
          exact refused_agrees known found undisturbed
      | false =>
          simp only [found, Bool.false_eq_true, if_false] at undisturbed
          rw [known_without_file known found]
          refine ⟨?_, ?_, ?_, ?_⟩ <;>
            simp [perform, launch_recorded launch undisturbed, foundByStart]
  | stop kill =>
      refine ⟨?_, ?_, ?_, stop_signals undisturbed⟩ <;>
        simp [perform, stop_known known, foundByStart]
  | restart kill launch =>
      refine ⟨?_, ?_, ?_, stop_signals undisturbed.1⟩ <;>
        simp [perform, restart, stop_known known, launch_recorded launch undisturbed.2,
          foundByStart]

/-- After a run of undisturbed moves, an undisturbed invocation agrees. -/
theorem script_agrees (moves : List Move) (machine : Machine)
    (run : LabelledRun.Run (LabelledRun.guarded Undisturbed Step) Machine.idle moves machine)
    (invocation : Invocation) (undisturbed : Undisturbed machine (.invoke invocation)) :
    Agrees machine invocation := by
  have known := LabelledRun.run_invariant Known (fun _ _ _ step known => by
    obtain ⟨guard, rfl⟩ := step
    exact move_known known guard) run (Or.inl rfl)
  exact invocation_agrees known invocation undisturbed

/-! A launch with nothing else around. -/

def quiet (daemonPid : Nat) : Launch := ⟨daemonPid, [], daemonPid + 3, [], []⟩

theorem quiet_recorded (daemonPid : Nat) : Recorded (quiet daemonPid) :=
  ⟨by simp [quiet], by simp [quiet], by simp [quiet], by simp [quiet]⟩

def ended (daemonPid : Nat) : Machine := ⟨some (some daemonPid), []⟩

theorem ended_step (daemonPid : Nat) :
    Step (move Machine.idle (.invoke (.start (quiet daemonPid)))) (.exit daemonPid)
      (ended daemonPid) := by
  have launched := launch_recorded (quiet daemonPid) (quiet_recorded daemonPid)
  simp only [Step, move, perform, launched]
  simp [quiet, without, ended]

theorem restart_after_end :
    (restart ⟨[], []⟩ (quiet 104) (ended 100)).launched.isSome = true ∧
      (restart ⟨[], []⟩ (quiet 104) (ended 100)).signalled = none := by
  have agrees := script_agrees [.invoke (.start (quiet 100)), .exit 100] (ended 100)
    (.next ⟨quiet_recorded 100, rfl⟩ (.next ⟨trivial, ended_step 100⟩ (.refl _)))
    (.restart ⟨[], []⟩ (quiet 104)) ⟨fun _ _ => List.not_mem_nil, quiet_recorded 104⟩
  refine ⟨(agrees.launches Machine.idle rfl).mpr rfl, ?_⟩
  rw [Option.eq_none_iff_forall_ne_some]
  intro pid signalled
  exact absurd (agrees.signals pid signalled) List.not_mem_nil

theorem ended_daemon_not_restarted : ¬ ∀ moves machine,
    LabelledRun.Run Step Machine.idle moves machine →
      ∀ invocation, Agrees machine invocation := by
  intro agree
  have agrees := agree [.invoke (.start (quiet 100)), .exit 100] (ended 100)
    (.next rfl (.next (ended_step 100) (.refl _))) (.start (quiet 104))
  have launched := (agrees.launches (ended 100) rfl).mpr rfl
  exact absurd launched (by decide)

end TelcoVecchio.ServiceScript
