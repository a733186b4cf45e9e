import TelcoVecchio.LabelledRun
import Mathlib.Data.List.Basic

/-!
A parent and a child process with pipes of a bounded capacity between them. The
parent may write once to the child's input, closes it, and waits for the exit
while it drains some of the output pipes; what is left in the others it reads
afterwards. The child is a program that reads, prints and exits. The two move in
any order, and a print waits for room in its pipe.

Every schedule comes to a halt. What the child has printed and its exit status
do not depend on the schedule, and the parent has its result exactly when the
pipes that are not drained hold all that is printed on them.
-/

namespace PipedChild

universe u
variable {Byte : Type u}

inductive Stream where
  | out
  | err
  deriving DecidableEq

inductive Program (Byte : Type u) where
  | exit (success : Bool)
  | read (most : Nat) (next : List Byte → Program Byte)
  | print (stream : Stream) (byte : Byte) (rest : Program Byte)

/-- What a program prints on a stream, given its whole input. A read takes one
byte more than the number given to it. -/
def printed : Program Byte → List Byte → Stream → List Byte
  | .exit _, _, _ => []
  | .read most next, input, stream =>
      printed (next (input.take (most + 1))) (input.drop (most + 1)) stream
  | .print here byte rest, input, stream =>
      (if here = stream then [byte] else []) ++ printed rest input stream

def status : Program Byte → List Byte → Bool
  | .exit success, _ => success
  | .read most next, input => status (next (input.take (most + 1))) (input.drop (most + 1))
  | .print _ _ rest, input => status rest input

def effort : Program Byte → List Byte → Nat
  | .exit _, _ => 1
  | .read most next, input => effort (next (input.take (most + 1))) (input.drop (most + 1)) + 1
  | .print _ _ rest, input => effort rest input + 1

def exitsUnread : Program Byte → Bool
  | .exit _ => true
  | .read _ _ => false
  | .print _ _ rest => exitsUnread rest

inductive Phase where
  | writing
  | closing
  | waiting
  | broken
  | ended
  deriving DecidableEq

inductive Child (Byte : Type u) where
  | running (program : Program Byte)
  | exited (success : Bool)

structure State (Byte : Type u) where
  phase : Phase
  input : List Byte
  pipe : Stream → List Byte
  taken : Stream → List Byte
  child : Child Byte

def start (phase : Phase) (program : Program Byte) : State Byte :=
  { phase, input := [], pipe := fun _ => [], taken := fun _ => [], child := .running program }

def update {Value : Type u} (values : Stream → Value) (here : Stream) (value : Value) :
    Stream → Value :=
  fun stream => if stream = here then value else values stream

inductive Action where
  | write
  | breakPipe
  | close
  | take (stream : Stream) (count : Nat)
  | read
  | print
  | exit
  | finish

section Steps
variable (capacity : Nat) (drained : Stream → Bool) (content : List Byte)

inductive Step : State Byte → Action → State Byte → Prop where
  /-- The single write to the empty pipe takes what there is room for. -/
  | write (state : State Byte) (program : Program Byte) (writing : state.phase = .writing)
      (running : state.child = .running program) :
      Step state .write { state with phase := .closing, input := content.take capacity }
  /-- Nobody is left to read. -/
  | breakPipe (state : State Byte) (success : Bool) (writing : state.phase = .writing)
      (exited : state.child = .exited success) :
      Step state .breakPipe { state with phase := .broken }
  | close (state : State Byte) (closing : state.phase = .closing) :
      Step state .close { state with phase := .waiting }
  | take (state : State Byte) (stream : Stream) (count : Nat) (waiting : state.phase = .waiting)
      (isDrained : drained stream = true) (some : 0 < count)
      (there : count ≤ (state.pipe stream).length) :
      Step state (.take stream count)
        { state with
          pipe := update state.pipe stream ((state.pipe stream).drop count)
          taken := update state.taken stream
            (state.taken stream ++ (state.pipe stream).take count) }
  /-- A read waits for bytes or for the end of the input. -/
  | read (state : State Byte) (most : Nat) (next : List Byte → Program Byte)
      (running : state.child = .running (.read most next))
      (ready : state.input ≠ [] ∨ state.phase = .waiting) :
      Step state .read
        { state with
          input := state.input.drop (most + 1)
          child := .running (next (state.input.take (most + 1))) }
  | print (state : State Byte) (stream : Stream) (byte : Byte) (rest : Program Byte)
      (running : state.child = .running (.print stream byte rest))
      (room : (state.pipe stream).length < capacity) :
      Step state .print
        { state with
          pipe := update state.pipe stream (state.pipe stream ++ [byte])
          child := .running rest }
  | exit (state : State Byte) (success : Bool) (running : state.child = .running (.exit success)) :
      Step state .exit { state with child := .exited success }
  /-- With the child gone the drained pipes have come to their end, and the
  others are read to theirs. -/
  | finish (state : State Byte) (success : Bool) (waiting : state.phase = .waiting)
      (exited : state.child = .exited success)
      (empty : ∀ stream, drained stream = true → state.pipe stream = []) :
      Step state .finish { state with phase := .ended }

def given (phase : Phase) : List Byte :=
  if phase = .writing then content.take capacity else []

def State.pending (state : State Byte) : List Byte :=
  if state.phase = .writing then content.take capacity else state.input

def State.toCome (state : State Byte) (stream : Stream) : List Byte :=
  match state.child with
  | .running program => printed program (state.pending capacity content) stream
  | .exited _ => []

def State.outlook (state : State Byte) : Bool :=
  match state.child with
  | .running program => status program (state.pending capacity content)
  | .exited success => success

/-- The steps that are left, each counted so that it costs more than it adds. -/
def State.weight (state : State Byte) : Nat :=
  (match state.phase with
    | .writing => 3
    | .closing => 2
    | .waiting => 1
    | .broken | .ended => 0) +
  (match state.child with
    | .running program => 2 * effort program (state.pending capacity content)
    | .exited _ => 0) +
  ((state.pipe .out).length + (state.pipe .err).length)

end Steps

theorem update_same {Value : Type u} (values : Stream → Value) (here : Stream) (value : Value) :
    update values here value here = value := by
  simp [update]

theorem update_other {Value : Type u} (values : Stream → Value) {here stream : Stream}
    (value : Value) (other : stream ≠ here) : update values here value stream = values stream := by
  simp [update, other]

section Schedules
variable (capacity : Nat) (drained : Stream → Bool) (content : List Byte) (begun : Phase)
  (program : Program Byte)

/-- Whatever has moved, the prints that were made and those to come are those
of the program on its input, and its status is to be the same. -/
structure Tracked (state : State Byte) : Prop where
  prints : ∀ stream, state.taken stream ++ (state.pipe stream ++
    state.toCome capacity content stream) = printed program (given capacity content begun) stream
  exits : state.outlook capacity content = status program (given capacity content begun)
  bounded : ∀ stream, (state.pipe stream).length ≤ capacity
  kept : ∀ stream, drained stream = false → state.taken stream = []
  unread : state.phase = .writing → state.input = []
  gone : state.phase = .broken ∨ state.phase = .ended → ∃ success, state.child = .exited success
  emptied : state.phase = .ended → ∀ stream, drained stream = true → state.pipe stream = []

theorem start_tracked (fresh : begun = .writing ∨ begun = .waiting) :
    Tracked capacity drained content begun program (start begun program) where
  prints := fun _ => rfl
  exits := rfl
  bounded := fun _ => Nat.zero_le _
  kept := fun _ _ => rfl
  unread := fun _ => rfl
  gone := fun isOver => by
    rcases fresh with rfl | rfl
    · simp [start] at isOver
    · simp [start] at isOver
  emptied := fun _ _ _ => rfl

variable {capacity drained content begun program}

theorem reading_pending {state : State Byte}
    (tracked : Tracked capacity drained content begun program state)
    (ready : state.input ≠ [] ∨ state.phase = .waiting) :
    state.phase ≠ .writing ∧ state.pending capacity content = state.input := by
  have past : state.phase ≠ .writing := by
    intro writing
    rcases ready with some | waiting
    · exact some (tracked.unread writing)
    · rw [writing] at waiting
      cases waiting
  exact ⟨past, if_neg past⟩

theorem running_not_over {state : State Byte}
    (tracked : Tracked capacity drained content begun program state)
    {left : Program Byte} (running : state.child = .running left) :
    state.phase ≠ .broken ∧ state.phase ≠ .ended := by
  constructor
  · intro isOver
    rcases tracked.gone (Or.inl isOver) with ⟨success, exited⟩
    rw [running] at exited
    cases exited
  · intro isOver
    rcases tracked.gone (Or.inr isOver) with ⟨success, exited⟩
    rw [running] at exited
    cases exited

theorem tracked_of_pipes {before after : State Byte}
    (tracked : Tracked capacity drained content begun program before)
    (pipe : after.pipe = before.pipe) (taken : after.taken = before.taken)
    (toCome : after.toCome capacity content = before.toCome capacity content)
    (outlook : after.outlook capacity content = before.outlook capacity content)
    (unread : after.phase = .writing → after.input = [])
    (gone : after.phase = .broken ∨ after.phase = .ended → ∃ success, after.child = .exited success)
    (emptied : after.phase = .ended → ∀ stream, drained stream = true → after.pipe stream = []) :
    Tracked capacity drained content begun program after where
  prints := by
    rw [pipe, taken, toCome]
    exact tracked.prints
  exits := outlook.trans tracked.exits
  bounded := by
    rw [pipe]
    exact tracked.bounded
  kept := by
    rw [taken]
    exact tracked.kept
  unread := unread
  gone := gone
  emptied := emptied

theorem take_tracked {state : State Byte}
    (tracked : Tracked capacity drained content begun program state) (here : Stream) (count : Nat)
    (waiting : state.phase = .waiting) (isDrained : drained here = true) :
    Tracked capacity drained content begun program
      { state with
        pipe := update state.pipe here ((state.pipe here).drop count)
        taken := update state.taken here (state.taken here ++ (state.pipe here).take count) } := by
  constructor
  case prints =>
    intro stream
    by_cases same : stream = here
    · subst same
      have prints := tracked.prints stream
      rw [← List.take_append_drop count (state.pipe stream), List.append_assoc,
        ← List.append_assoc] at prints
      simp only [update_same]
      exact prints
    · simp only [update_other _ _ same]
      exact tracked.prints stream
  case exits => exact tracked.exits
  case bounded =>
    intro stream
    by_cases same : stream = here
    · subst same
      simp only [update_same, List.length_drop]
      exact Nat.le_trans (Nat.sub_le _ _) (tracked.bounded stream)
    · simp only [update_other _ _ same]
      exact tracked.bounded stream
  case kept =>
    intro stream undrained
    have other : stream ≠ here := by
      rintro rfl
      rw [isDrained] at undrained
      cases undrained
    simp only [update_other _ _ other]
    exact tracked.kept stream undrained
  case unread => exact tracked.unread
  case gone => exact tracked.gone
  case emptied =>
    intro isOver
    rw [waiting] at isOver
    cases isOver

theorem print_tracked {state : State Byte}
    (tracked : Tracked capacity drained content begun program state) (here : Stream) (byte : Byte)
    (rest : Program Byte) (running : state.child = .running (.print here byte rest))
    (room : (state.pipe here).length < capacity) :
    Tracked capacity drained content begun program
      { state with
        pipe := update state.pipe here (state.pipe here ++ [byte])
        child := .running rest } := by
  rcases running_not_over tracked running with ⟨notBroken, notEnded⟩
  have prints := tracked.prints
  have exits := tracked.exits
  simp only [State.toCome, State.outlook, running, printed, status] at prints exits
  constructor
  case prints =>
    intro stream
    have whole := prints stream
    by_cases same : stream = here
    · subst same
      simp only [State.toCome, update_same]
      simpa [State.pending] using whole
    · simp only [State.toCome, update_other _ _ same]
      simpa [State.pending, Ne.symm same] using whole
  case exits => exact exits
  case bounded =>
    intro stream
    by_cases same : stream = here
    · subst same
      simp only [update_same, List.length_append, List.length_singleton]
      exact room
    · simp only [update_other _ _ same]
      exact tracked.bounded stream
  case kept => exact tracked.kept
  case unread => exact tracked.unread
  case gone => exact fun isOver => isOver.elim (absurd · notBroken) (absurd · notEnded)
  case emptied => exact fun isOver => absurd isOver notEnded

theorem step_tracked {before after : State Byte} {action : Action}
    (step : Step capacity drained content before action after)
    (tracked : Tracked capacity drained content begun program before) :
    Tracked capacity drained content begun program after := by
  cases step with
  | write left writing running =>
      apply tracked_of_pipes tracked
      case pipe | taken => rfl
      case toCome => simp [funext_iff, State.toCome, State.pending, running, writing]
      case outlook => simp [State.outlook, State.pending, running, writing]
      case unread => exact fun writing => by cases writing
      case gone => rintro (isOver | isOver) <;> cases isOver
      case emptied => exact fun isOver => by cases isOver
  | breakPipe success writing exited =>
      apply tracked_of_pipes tracked
      case pipe | taken => rfl
      case toCome => simp [funext_iff, State.toCome, exited]
      case outlook => simp [State.outlook, exited]
      case unread => exact fun writing => by cases writing
      case gone => exact fun _ => ⟨success, exited⟩
      case emptied => exact fun isOver => by cases isOver
  | close closing =>
      apply tracked_of_pipes tracked
      case pipe | taken => rfl
      case toCome => simp [funext_iff, State.toCome, State.pending, closing]
      case outlook => simp [State.outlook, State.pending, closing]
      case unread => exact fun writing => by cases writing
      case gone => rintro (isOver | isOver) <;> cases isOver
      case emptied => exact fun isOver => by cases isOver
  | take here count waiting isDrained some there =>
      exact take_tracked tracked here count waiting isDrained
  | read most next running ready =>
      rcases reading_pending tracked ready with ⟨past, pending⟩
      rcases running_not_over tracked running with ⟨notBroken, notEnded⟩
      apply tracked_of_pipes tracked
      case pipe | taken => rfl
      -- the program has what it read behind it, the rest is its input
      case toCome =>
        simp only [funext_iff, State.toCome, running, pending, printed]
        simp only [State.pending, past, ↓reduceIte, implies_true]
      case outlook =>
        simp only [State.outlook, running, pending, status]
        simp only [State.pending, past, ↓reduceIte]
      case unread => exact fun writing => absurd writing past
      case gone => exact fun isOver => isOver.elim (absurd · notBroken) (absurd · notEnded)
      case emptied => exact fun isOver => absurd isOver notEnded
  | print here byte rest running room => exact print_tracked tracked here byte rest running room
  | exit success running =>
      rcases running_not_over tracked running with ⟨notBroken, notEnded⟩
      apply tracked_of_pipes tracked
      case pipe | taken => rfl
      case toCome => simp [funext_iff, State.toCome, running, printed]
      case outlook => simp [State.outlook, running, status]
      case unread => exact tracked.unread
      case gone => exact fun _ => ⟨success, rfl⟩
      case emptied => exact fun isOver => absurd isOver notEnded
  | finish success waiting exited empty =>
      apply tracked_of_pipes tracked
      case pipe | taken => rfl
      case toCome => simp [funext_iff, State.toCome, exited]
      case outlook => simp [State.outlook, exited]
      case unread => exact fun writing => by cases writing
      case gone => exact fun _ => ⟨success, exited⟩
      case emptied => exact fun _ => empty

theorem step_weight {before after : State Byte} {action : Action}
    (step : Step capacity drained content before action after)
    (tracked : Tracked capacity drained content begun program before) :
    after.weight capacity content < before.weight capacity content := by
  cases step with
  | write left writing running =>
      simp only [State.weight, State.pending, writing, running, reduceCtorEq, ↓reduceIte]
      omega
  | breakPipe success writing exited =>
      simp only [State.weight, writing, exited]
      omega
  | close closing =>
      simp only [State.weight, State.pending, closing, reduceCtorEq, ↓reduceIte]
      omega
  | take here count waiting isDrained some there =>
      simp only [State.weight, State.pending, waiting]
      cases here with
      | out =>
          simp only [update_same, update_other _ _ (show Stream.err ≠ .out by decide),
            List.length_drop]
          omega
      | err =>
          simp only [update_same, update_other _ _ (show Stream.out ≠ .err by decide),
            List.length_drop]
          omega
  | read most next running ready =>
      rcases reading_pending tracked ready with ⟨past, pending⟩
      simp only [State.weight, running, pending, effort]
      simp only [State.pending, past, ↓reduceIte]
      omega
  | print here byte rest running room =>
      simp only [State.weight, State.pending, running, effort]
      cases here with
      | out =>
          simp only [update_same, update_other _ _ (show Stream.err ≠ .out by decide),
            List.length_append, List.length_singleton]
          omega
      | err =>
          simp only [update_same, update_other _ _ (show Stream.out ≠ .err by decide),
            List.length_append, List.length_singleton]
          omega
  | exit success running =>
      simp only [State.weight, running, effort]
      omega
  | finish success waiting exited empty =>
      simp only [State.weight, waiting, exited]
      omega

theorem run_bounded {before after : State Byte} {actions : List Action}
    (run : LabelledRun.Run (Step capacity drained content) before actions after)
    (tracked : Tracked capacity drained content begun program before) :
    actions.length + after.weight capacity content ≤ before.weight capacity content := by
  induction run with
  | refl => simp
  | next first _ ih =>
      have lighter := step_weight first tracked
      have rest := ih (step_tracked first tracked)
      rw [List.length_cons]
      omega

def Halted (capacity : Nat) (drained : Stream → Bool) (content : List Byte)
    (state : State Byte) : Prop :=
  ∀ action after, ¬ Step capacity drained content state action after

def Fits (capacity : Nat) (drained : Stream → Bool) (program : Program Byte)
    (input : List Byte) : Prop :=
  ∀ stream, drained stream = false → (printed program input stream).length ≤ capacity

theorem ended_halted {state : State Byte} {success : Bool} (ended : state.phase = .ended)
    (exited : state.child = .exited success) : Halted capacity drained content state := by
  intro action after step
  cases step <;> simp_all

theorem halted_past {state : State Byte} (halted : Halted capacity drained content state) :
    state.phase ≠ .writing ∧ state.phase ≠ .closing := by
  constructor
  · intro writing
    cases child : state.child with
    | running left => exact halted _ _ (.write state left writing child)
    | exited success => exact halted _ _ (.breakPipe state success writing child)
  · intro closing
    exact halted _ _ (.close state closing)

theorem waiting_moves {state : State Byte}
    (tracked : Tracked capacity drained content begun program state) (room : 0 < capacity)
    (fits : Fits capacity drained program (given capacity content begun))
    (waiting : state.phase = .waiting) : ¬ Halted capacity drained content state := by
  intro halted
  have taken : ∀ stream, drained stream = true → state.pipe stream = [] := by
    intro stream isDrained
    by_contra some
    have first : 1 ≤ (state.pipe stream).length := List.length_pos_iff.mpr some
    exact halted _ _ (.take state stream 1 waiting isDrained Nat.one_pos first)
  cases child : state.child with
  | exited success => exact halted _ _ (.finish state success waiting child taken)
  | running left =>
      cases left with
      | exit success => exact halted _ _ (.exit state success child)
      | read most next => exact halted _ _ (.read state most next child (Or.inr waiting))
      | print stream byte rest =>
          -- a drained pipe is empty by now, another one has room for the whole output
          have space : (state.pipe stream).length < capacity := by
            cases isDrained : drained stream with
            | true =>
                rw [taken stream isDrained]
                exact room
            | false =>
                have all := fits stream isDrained
                rw [← tracked.prints stream, tracked.kept stream isDrained] at all
                simp only [State.toCome, child, printed, ↓reduceIte, List.nil_append,
                  List.length_append, List.length_singleton] at all
                omega
          exact halted _ _ (.print state stream byte rest child space)

theorem over_prints {state : State Byte}
    (tracked : Tracked capacity drained content begun program state)
    (isOver : state.phase = .broken ∨ state.phase = .ended) (stream : Stream) :
    state.taken stream ++ state.pipe stream =
      printed program (given capacity content begun) stream := by
  rcases tracked.gone isOver with ⟨success, exited⟩
  have prints := tracked.prints stream
  simpa only [State.toCome, exited, List.append_nil] using prints

/-- Where nothing moves any more, the parent is through if and only if the pipes
that it did not drain hold all that is printed on them. -/
theorem halted_over_iff {state : State Byte}
    (tracked : Tracked capacity drained content begun program state) (room : 0 < capacity)
    (halted : Halted capacity drained content state) :
    (state.phase = .broken ∨ state.phase = .ended) ↔
      Fits capacity drained program (given capacity content begun) := by
  constructor
  · intro isOver stream undrained
    have prints := over_prints tracked isOver stream
    rw [tracked.kept stream undrained, List.nil_append] at prints
    exact prints ▸ tracked.bounded stream
  · intro fits
    rcases halted_past halted with ⟨notWriting, notClosing⟩
    cases phase : state.phase with
    | writing => exact absurd phase notWriting
    | closing => exact absurd phase notClosing
    | waiting => exact absurd halted (waiting_moves tracked room fits phase)
    | broken => exact Or.inl rfl
    | ended => exact Or.inr rfl

theorem ended_result {state : State Byte}
    (tracked : Tracked capacity drained content begun program state)
    (ended : state.phase = .ended) :
    state.child = .exited (status program (given capacity content begun)) ∧
      ∀ stream, drained stream = true →
        state.taken stream = printed program (given capacity content begun) stream := by
  rcases tracked.gone (Or.inr ended) with ⟨success, exited⟩
  have exits := tracked.exits
  simp only [State.outlook, exited] at exits
  refine ⟨exited.trans (congrArg Child.exited exits), fun stream isDrained => ?_⟩
  have prints := over_prints tracked (Or.inr ended) stream
  rwa [tracked.emptied ended stream isDrained, List.append_nil] at prints

def Attentive (state : State Byte) : Prop :=
  state.phase ≠ .broken ∧
    (state.phase = .writing → ∃ left, state.child = .running left ∧ exitsUnread left = false)

theorem attentive_past {state : State Byte} (notBroken : state.phase ≠ .broken)
    (notWriting : state.phase ≠ .writing) : Attentive state :=
  ⟨notBroken, fun writing => absurd writing notWriting⟩

theorem step_attentive {before after : State Byte} {action : Action}
    (step : Step capacity drained content before action after)
    (tracked : Tracked capacity drained content begun program before)
    (attentive : Attentive before) : Attentive after := by
  rcases attentive with ⟨whole, reads⟩
  cases step with
  | write => exact attentive_past (by simp) (by simp)
  | breakPipe success writing exited =>
      -- no child is gone before the write
      rcases reads writing with ⟨left, running, _⟩
      rw [exited] at running
      cases running
  | close => exact attentive_past (by simp) (by simp)
  | take => exact ⟨whole, reads⟩
  | read most next running ready =>
      exact ⟨whole, fun writing => absurd writing (reading_pending tracked ready).1⟩
  | print here byte rest running room =>
      refine ⟨whole, fun writing => ⟨rest, rfl, ?_⟩⟩
      rcases reads writing with ⟨left, same, unread⟩
      rw [running] at same
      cases same
      exact unread
  | exit success running =>
      refine ⟨whole, fun writing => ?_⟩
      rcases reads writing with ⟨left, same, unread⟩
      rw [running] at same
      cases same
      cases unread
  | finish => exact attentive_past (by simp) (by simp)

section Runs
variable {actions : List Action} {state : State Byte}
  (fresh : begun = .writing ∨ begun = .waiting)
  (run : LabelledRun.Run (Step capacity drained content) (start begun program) actions state)
include fresh run

theorem run_tracked : Tracked capacity drained content begun program state :=
  LabelledRun.run_invariant (Tracked capacity drained content begun program)
    (fun _ _ _ step tracked => step_tracked step tracked) run
    (start_tracked capacity drained content begun program fresh)

theorem run_attentive (reads : begun = .writing → exitsUnread program = false) :
    Attentive state := by
  have begins : Attentive (start begun program) := by
    constructor
    · rcases fresh with rfl | rfl
      · simp [start]
      · simp [start]
    · exact fun writing => ⟨program, rfl, reads writing⟩
  have both := LabelledRun.run_invariant
    (fun state => Tracked capacity drained content begun program state ∧ Attentive state)
    (fun _ _ _ step kept => ⟨step_tracked step kept.1, step_attentive step kept.1 kept.2⟩) run
    ⟨start_tracked capacity drained content begun program fresh, begins⟩
  exact both.2

theorem run_length :
    actions.length ≤ 2 * effort program (given capacity content begun) + 3 := by
  have bounded := run_bounded run (start_tracked capacity drained content begun program fresh)
  have begins : (start begun program).weight capacity content ≤
      2 * effort program (given capacity content begun) + 3 := by
    rcases fresh with rfl | rfl
    · simp only [State.weight, State.pending, start, given, ↓reduceIte, List.length_nil]
      omega
    · simp only [State.weight, State.pending, start, given, reduceCtorEq, ↓reduceIte,
        List.length_nil]
      omega
  omega

/-- Where a schedule halts, the parent has its result or waits for a full pipe. -/
theorem run_halted_iff (reads : begun = .writing → exitsUnread program = false)
    (room : 0 < capacity) (halted : Halted capacity drained content state) :
    state.phase = .ended ↔ Fits capacity drained program (given capacity content begun) := by
  have whole := (run_attentive fresh run reads).1
  rw [← halted_over_iff (run_tracked fresh run) room halted]
  exact (or_iff_right whole).symm

end Runs

end Schedules

end PipedChild
