import TelcoVecchio.TurnLoop
import TelcoVecchio.Init

/-!
The loop of `daemon/src/init.rs` that waits for a reliable status, with its
`u32` counter and the record of what it asks of the outside. Its two budgets,
the retries and the one attempt on the SIM, are spent on different branches.
-/

namespace TelcoVecchio.StartUpLoop

open Common Status Request Init TurnLoop

inductive LoopCall where
  | getStatus | verifySimPin | sleep
  deriving DecidableEq

structure Waiting where
  sleepLoopCounter : UInt32
  simUnlockPerformed : Bool
  status : Status
  calls : List LoopCall

structure Waited where
  outcome : Outcome Status
  calls : List LoopCall

/-- `counter - 1` on a `u32`, `none` where it underflows. -/
def decrement (counter : UInt32) : Option UInt32 :=
  if counter = 0 then none else some (counter - 1)

section Loop
variable (answers : Nat → Outcome Status) (verified : Nat → Except Error Unit)

/-- `status = status::get_status(..).await?`; the answers are numbered by the
queries made before. -/
def query (waiting : Waiting) : Turn Waiting Waited :=
  match answers (waiting.calls.count .getStatus) with
  | .ok status => .again { waiting with status, calls := waiting.calls ++ [.getStatus] }
  | ended => .leave ⟨ended, waiting.calls ++ [.getStatus]⟩

def waitTurn (waiting : Waiting) : Turn Waiting Waited :=
  match waiting.status.deviceStatus with
  | .simLocked =>
      if !waiting.simUnlockPerformed then
        match verified (waiting.calls.count .verifySimPin) with
        | .error error => .leave ⟨.err error, waiting.calls ++ [.verifySimPin]⟩
        | .ok _ =>
            query answers { waiting with
              simUnlockPerformed := true, calls := waiting.calls ++ [.verifySimPin] }
      else .leave ⟨.ok waiting.status, waiting.calls⟩
  | .lteNotConnected | .internetUnreachable =>
      if 0 < waiting.sleepLoopCounter then
        match decrement waiting.sleepLoopCounter with
        | none => .leave ⟨.panic, waiting.calls⟩
        | some left =>
            query answers { waiting with
              sleepLoopCounter := left, calls := waiting.calls ++ [.sleep] }
      else .leave ⟨.ok waiting.status, waiting.calls⟩
  | .ready => .leave ⟨.ok waiting.status, waiting.calls⟩

def waitForStatus (maxRetry : UInt32) (turns : Nat) : Turn Waiting Waited :=
  match answers 0 with
  | .ok status => run (waitTurn answers verified) turns ⟨maxRetry, false, status, [.getStatus]⟩
  | ended => .leave ⟨ended, [.getStatus]⟩

inductive Pays (waiting : Waiting) : Waiting → Prop where
  | attempt (unused : waiting.simUnlockPerformed = false) :
      Pays waiting { waiting with
        simUnlockPerformed := true, calls := waiting.calls ++ [.verifySimPin] }
  | retry (left : UInt32) (one : left.toNat + 1 = waiting.sleepLoopCounter.toNat) :
      Pays waiting { waiting with sleepLoopCounter := left, calls := waiting.calls ++ [.sleep] }

def Reliable (waiting : Waiting) : Prop :=
  waiting.status.deviceStatus = .ready ∨
  (waiting.status.deviceStatus = .simLocked ∧ waiting.simUnlockPerformed = true) ∨
  ((waiting.status.deviceStatus = .lteNotConnected ∨
    waiting.status.deviceStatus = .internetUnreachable) ∧ waiting.sleepLoopCounter.toNat = 0)

inductive TurnOf (waiting : Waiting) : Turn Waiting Waited → Prop where
  | queried (paid : Waiting) (pays : Pays waiting paid) : TurnOf waiting (query answers paid)
  | refused (error : Error) (unused : waiting.simUnlockPerformed = false) :
      TurnOf waiting (.leave ⟨.err error, waiting.calls ++ [.verifySimPin]⟩)
  | reliable (enough : Reliable waiting) :
      TurnOf waiting (.leave ⟨.ok waiting.status, waiting.calls⟩)

def budget (waiting : Waiting) : Nat :=
  waiting.sleepLoopCounter.toNat + (!waiting.simUnlockPerformed).toNat

structure Accounted (maxRetry : UInt32) (waiting : Waiting) : Prop where
  sleeps : waiting.calls.count .sleep + waiting.sleepLoopCounter.toNat = maxRetry.toNat
  attempts : waiting.calls.count .verifySimPin = waiting.simUnlockPerformed.toNat
  queries : waiting.calls.count .getStatus =
    1 + waiting.calls.count .sleep + waiting.calls.count .verifySimPin
  latest : answers (waiting.calls.count .getStatus - 1) = .ok waiting.status

structure Settled (maxRetry : UInt32) (waited : Waited) : Prop where
  queries : waited.calls.count .getStatus ≤ maxRetry.toNat + 2
  sleeps : waited.calls.count .sleep ≤ maxRetry.toNat
  attempts : waited.calls.count .verifySimPin ≤ 1
  -- no panic of its own, so no underflow of the counter
  panics : waited.outcome = .panic → answers (waited.calls.count .getStatus - 1) = .panic
  latest : ∀ status, waited.outcome = .ok status →
    answers (waited.calls.count .getStatus - 1) = .ok status
  reliable : ∀ status, waited.outcome = .ok status →
    status.deviceStatus = .ready ∨
    (status.deviceStatus = .simLocked ∧ waited.calls.count .verifySimPin = 1) ∨
    ((status.deviceStatus = .lteNotConnected ∨ status.deviceStatus = .internetUnreachable) ∧
      waited.calls.count .sleep = maxRetry.toNat)

end Loop

theorem decrement_positive (counter : UInt32) (positive : 0 < counter) :
    ∃ left, decrement counter = some left ∧ left.toNat + 1 = counter.toNat := by
  have large : 0 < counter.toNat := UInt32.lt_iff_toNat_lt.mp positive
  have some : counter ≠ 0 := by
    rintro rfl
    exact absurd large (Nat.lt_irrefl 0)
  have one : (1 : UInt32) ≤ counter := UInt32.le_iff_toNat_le.mpr large
  refine ⟨counter - 1, by simp [decrement, some], ?_⟩
  have lowered : (counter - 1).toNat = counter.toNat - 1 := UInt32.toNat_sub_of_le _ _ one
  omega

theorem counter_spent (counter : UInt32) (empty : ¬ 0 < counter) : counter.toNat = 0 := by
  rw [UInt32.lt_iff_toNat_lt] at empty
  simpa using empty

theorem wait_turn_disconnected (answers : Nat → Outcome Status)
    (verified : Nat → Except Error Unit) (waiting : Waiting)
    (disconnected : waiting.status.deviceStatus = .lteNotConnected ∨
      waiting.status.deviceStatus = .internetUnreachable) :
    waitTurn answers verified waiting =
      if 0 < waiting.sleepLoopCounter then
        match decrement waiting.sleepLoopCounter with
        | none => .leave ⟨.panic, waiting.calls⟩
        | some left =>
            query answers { waiting with
              sleepLoopCounter := left, calls := waiting.calls ++ [.sleep] }
      else .leave ⟨.ok waiting.status, waiting.calls⟩ := by
  rcases disconnected with lte | internet
  · simp only [waitTurn, lte]
  · simp only [waitTurn, internet]

theorem wait_turn_cases (answers : Nat → Outcome Status) (verified : Nat → Except Error Unit)
    (waiting : Waiting) : TurnOf answers waiting (waitTurn answers verified waiting) := by
  have retried (disconnected : waiting.status.deviceStatus = .lteNotConnected ∨
      waiting.status.deviceStatus = .internetUnreachable) :
      TurnOf answers waiting (waitTurn answers verified waiting) := by
    rw [wait_turn_disconnected answers verified waiting disconnected]
    by_cases positive : 0 < waiting.sleepLoopCounter
    · rcases decrement_positive _ positive with ⟨left, lowered, one⟩
      rw [if_pos positive, lowered]
      exact TurnOf.queried _ (Pays.retry left one)
    · rw [if_neg positive]
      exact TurnOf.reliable (Or.inr (Or.inr ⟨disconnected, counter_spent _ positive⟩))
  cases device : waiting.status.deviceStatus with
  | simLocked =>
      cases performed : waiting.simUnlockPerformed with
      | true =>
          have turned : waitTurn answers verified waiting =
              .leave ⟨.ok waiting.status, waiting.calls⟩ := by simp [waitTurn, device, performed]
          rw [turned]
          exact TurnOf.reliable (Or.inr (Or.inl ⟨device, performed⟩))
      | false =>
          cases attempt : verified (waiting.calls.count .verifySimPin) with
          | error error =>
              have turned : waitTurn answers verified waiting =
                  .leave ⟨.err error, waiting.calls ++ [.verifySimPin]⟩ := by
                simp [waitTurn, device, performed, attempt]
              rw [turned]
              exact TurnOf.refused error performed
          | ok _ =>
              have turned : waitTurn answers verified waiting =
                  query answers { waiting with
                    simUnlockPerformed := true, calls := waiting.calls ++ [.verifySimPin] } := by
                simp [waitTurn, device, performed, attempt]
              rw [turned]
              exact TurnOf.queried _ (Pays.attempt performed)
  | lteNotConnected => exact retried (Or.inl device)
  | internetUnreachable => exact retried (Or.inr device)
  | ready =>
      have turned : waitTurn answers verified waiting =
          .leave ⟨.ok waiting.status, waiting.calls⟩ := by simp only [waitTurn, device]
      rw [turned]
      exact TurnOf.reliable (Or.inl device)

section Budgets
variable {answers : Nat → Outcome Status} {maxRetry : UInt32} {waiting paid : Waiting}

structure Paid (maxRetry : UInt32) (paid : Waiting) : Prop where
  sleeps : paid.calls.count .sleep + paid.sleepLoopCounter.toNat = maxRetry.toNat
  attempts : paid.calls.count .verifySimPin = paid.simUnlockPerformed.toNat
  queries : paid.calls.count .getStatus =
    paid.calls.count .sleep + paid.calls.count .verifySimPin

theorem pays_paid (accounted : Accounted answers maxRetry waiting) (pays : Pays waiting paid) :
    Paid maxRetry paid ∧ budget paid < budget waiting := by
  have sleeps := accounted.sleeps
  have attempts := accounted.attempts
  have queries := accounted.queries
  cases pays with
  | attempt unused =>
      rw [unused] at attempts
      refine ⟨⟨?_, ?_, ?_⟩, ?_⟩
      · simpa using sleeps
      · simpa using attempts
      · simp at attempts ⊢
        omega
      · simp [budget, unused]
  | retry left one =>
      refine ⟨⟨?_, ?_, ?_⟩, ?_⟩
      · simp
        omega
      · simpa using attempts
      · simp
        omega
      · simp [budget]
        omega

theorem query_again {next : Waiting} (afford : Paid maxRetry paid)
    (queried : query answers paid = .again next) :
    Accounted answers maxRetry next ∧ budget next = budget paid := by
  cases answer : answers (paid.calls.count .getStatus) with
  | ok status =>
      simp only [query, answer, Turn.again.injEq] at queried
      subst next
      have queries := afford.queries
      refine ⟨⟨?_, ?_, ?_, ?_⟩, rfl⟩
      · simpa using afford.sleeps
      · simpa using afford.attempts
      · simp
        omega
      · simpa using answer
  | err error => simp [query, answer] at queried
  | panic => simp [query, answer] at queried
  | stuck => simp [query, answer] at queried

theorem query_leave {waited : Waited} (afford : Paid maxRetry paid)
    (queried : query answers paid = .leave waited) : Settled answers maxRetry waited := by
  have sleeps := afford.sleeps
  have attempts := afford.attempts
  have queries := afford.queries
  have once := Bool.toNat_le paid.simUnlockPerformed
  have ended : (∀ status, answers (paid.calls.count .getStatus) ≠ .ok status) ∧
      waited = ⟨answers (paid.calls.count .getStatus), paid.calls ++ [.getStatus]⟩ := by
    cases answer : answers (paid.calls.count .getStatus) with
    | ok status => simp [query, answer] at queried
    | err error => simpa [query, answer, eq_comm] using queried
    | panic => simpa [query, answer, eq_comm] using queried
    | stuck => simpa [query, answer, eq_comm] using queried
  rcases ended with ⟨noStatus, rfl⟩
  refine ⟨?_, ?_, ?_, ?_, ?_, ?_⟩
  · simp
    omega
  · simp
    omega
  · simp
    omega
  · simp
  · exact fun status found => absurd found (noStatus status)
  · exact fun status found => absurd found (noStatus status)

theorem wait_turn_again {verified : Nat → Except Error Unit} {next : Waiting}
    (accounted : Accounted answers maxRetry waiting)
    (turned : waitTurn answers verified waiting = .again next) :
    Accounted answers maxRetry next ∧ budget next < budget waiting := by
  have cases := wait_turn_cases answers verified waiting
  rw [turned] at cases
  generalize outcome : (Turn.again next : Turn Waiting Waited) = turn at cases
  cases cases with
  | queried paid pays =>
      rcases pays_paid accounted pays with ⟨afford, less⟩
      rcases query_again afford outcome.symm with ⟨later, same⟩
      exact ⟨later, same ▸ less⟩
  | refused => cases outcome
  | reliable => cases outcome

theorem wait_turn_leave {verified : Nat → Except Error Unit} {waited : Waited}
    (accounted : Accounted answers maxRetry waiting)
    (turned : waitTurn answers verified waiting = .leave waited) :
    Settled answers maxRetry waited := by
  have sleeps := accounted.sleeps
  have attempts := accounted.attempts
  have queries := accounted.queries
  have once := Bool.toNat_le waiting.simUnlockPerformed
  have cases := wait_turn_cases answers verified waiting
  rw [turned] at cases
  generalize outcome : (Turn.leave waited : Turn Waiting Waited) = turn at cases
  cases cases with
  | queried paid pays => exact query_leave (pays_paid accounted pays).1 outcome.symm
  | refused error unused =>
      cases outcome
      rw [unused] at attempts
      refine ⟨?_, ?_, ?_, nofun, nofun, nofun⟩
      · simp at attempts ⊢
        omega
      · simp
        omega
      · simp at attempts ⊢
        omega
  | reliable enough =>
      cases outcome
      refine ⟨by dsimp only; omega, by dsimp only; omega, by dsimp only; omega, nofun, ?_, ?_⟩
      · rintro status ⟨⟩
        exact accounted.latest
      · rintro status ⟨⟩
        rcases enough with ready | ⟨locked, performed⟩ | ⟨disconnected, spent⟩
        · exact Or.inl ready
        · exact Or.inr (Or.inl ⟨locked, by simpa [performed] using attempts⟩)
        · exact Or.inr (Or.inr ⟨disconnected, by dsimp only; omega⟩)

end Budgets

theorem first_query_accounted (answers : Nat → Outcome Status) (maxRetry : UInt32)
    (status : Status) (answer : answers 0 = .ok status) :
    Accounted answers maxRetry ⟨maxRetry, false, status, [.getStatus]⟩ :=
  ⟨Nat.zero_add _, rfl, rfl, answer⟩

/-- Whatever the answers, the wait ends within the budgets. -/
theorem wait_settles (maxRetry : UInt32) (answers : Nat → Outcome Status)
    (verified : Nat → Except Error Unit) :
    ∃ waited, waitForStatus answers verified maxRetry (maxRetry.toNat + 2) = .leave waited ∧
      Settled answers maxRetry waited := by
  cases answer : answers 0 with
  | ok status =>
      have start := first_query_accounted answers maxRetry status answer
      have kept : ∀ waiting next, Accounted answers maxRetry waiting →
          waitTurn answers verified waiting = .again next →
          Accounted answers maxRetry next ∧ budget next < budget waiting :=
        fun _ _ accounted turned => wait_turn_again accounted turned
      have enough : budget ⟨maxRetry, false, status, [.getStatus]⟩ < maxRetry.toNat + 2 := by
        simp [budget]
      rcases run_total (Accounted answers maxRetry) budget kept start enough with
        ⟨last, waited, accounted, left, ended⟩
      refine ⟨waited, ?_, wait_turn_leave accounted left⟩
      simpa only [waitForStatus, answer] using ended
  | err error =>
      refine ⟨⟨.err error, [.getStatus]⟩, by simp only [waitForStatus, answer], ?_⟩
      exact ⟨Nat.le_add_left _ _, Nat.zero_le _, Nat.zero_le _, nofun, nofun, nofun⟩
  | panic =>
      refine ⟨⟨.panic, [.getStatus]⟩, by simp only [waitForStatus, answer], ?_⟩
      exact ⟨Nat.le_add_left _ _, Nat.zero_le _, Nat.zero_le _, fun _ => answer, nofun, nofun⟩
  | stuck =>
      refine ⟨⟨.stuck, [.getStatus]⟩, by simp only [waitForStatus, answer], ?_⟩
      exact ⟨Nat.le_add_left _ _, Nat.zero_le _, Nat.zero_le _, nofun, nofun, nofun⟩

/-! The wait with the answers of a start is the one of `init`. -/

section Starts
variable (configuration : Configuration) (env : StartEnv)

def probed (call : Nat) : Outcome Status := getStatus (env.probes call) configuration

/-- `verify_sim_pin` -/
def pinVerified (_ : Nat) : Except Error Unit := (qmiCommand env.verifySimPin).map fun _ => ()

/-- What the rest of `init`'s loop comes to. -/
def settled (waiting : Waiting) : Outcome Status :=
  settleStatus configuration env waiting.sleepLoopCounter.toNat waiting.simUnlockPerformed
    (waiting.calls.count .getStatus) waiting.status

def turnSettled : Turn Waiting Waited → Outcome Status
  | .again next => settled configuration env next
  | .leave waited => waited.outcome

theorem query_settled (paid : Waiting) :
    turnSettled configuration env (query (probed configuration env) paid) =
      (getStatus (env.probes (paid.calls.count .getStatus)) configuration).bind
        (settleStatus configuration env paid.sleepLoopCounter.toNat paid.simUnlockPerformed
          (paid.calls.count .getStatus + 1)) := by
  cases answer : getStatus (env.probes (paid.calls.count .getStatus)) configuration with
  | ok status => simp [query, probed, answer, turnSettled, settled, Outcome.bind]
  | err error => simp [query, probed, answer, turnSettled, Outcome.bind]
  | panic => simp [query, probed, answer, turnSettled, Outcome.bind]
  | stuck => simp [query, probed, answer, turnSettled, Outcome.bind]

theorem wait_turn_settled (waiting : Waiting) :
    settled configuration env waiting =
      turnSettled configuration env
        (waitTurn (probed configuration env) (pinVerified env) waiting) := by
  have disconnected (device : waiting.status.deviceStatus = .lteNotConnected ∨
      waiting.status.deviceStatus = .internetUnreachable) :
      settled configuration env waiting =
        turnSettled configuration env
          (waitTurn (probed configuration env) (pinVerified env) waiting) := by
    rw [wait_turn_disconnected _ _ waiting device]
    unfold settled settleStatus
    by_cases positive : 0 < waiting.sleepLoopCounter
    · rcases decrement_positive _ positive with ⟨left, lowered, one⟩
      have more : waiting.sleepLoopCounter.toNat ≠ 0 := by omega
      have lower : waiting.sleepLoopCounter.toNat - 1 = left.toNat := by omega
      rcases device with lte | internet
      · simp [lte, positive, lowered, more, lower, query_settled]
      · simp [internet, positive, lowered, more, lower, query_settled]
    · have spent := counter_spent _ positive
      rcases device with lte | internet
      · simp [lte, positive, spent, turnSettled]
      · simp [internet, positive, spent, turnSettled]
  cases device : waiting.status.deviceStatus with
  | simLocked =>
      unfold settled settleStatus
      cases performed : waiting.simUnlockPerformed with
      | true => simp [waitTurn, device, performed, turnSettled]
      | false =>
          cases attempt : qmiCommand env.verifySimPin with
          | error error =>
              simp [waitTurn, device, performed, pinVerified, attempt, turnSettled, Except.map,
                Outcome.ofExcept, Outcome.bind]
          | ok _ =>
              simp [waitTurn, device, performed, pinVerified, attempt, Except.map,
                Outcome.ofExcept, Outcome.bind, query_settled]
  | lteNotConnected => exact disconnected (Or.inl device)
  | internetUnreachable => exact disconnected (Or.inr device)
  | ready =>
      unfold settled settleStatus
      simp [waitTurn, device, turnSettled]

theorem run_settled (turns : Nat) (waiting : Waiting) (waited : Waited)
    (ended : run (waitTurn (probed configuration env) (pinVerified env)) turns waiting =
      .leave waited) : settled configuration env waiting = waited.outcome := by
  induction turns generalizing waiting with
  | zero => cases ended
  | succ turns ih =>
      rw [wait_turn_settled]
      cases here : waitTurn (probed configuration env) (pinVerified env) waiting with
      | again next =>
          rw [run_again here] at ended
          exact ih next ended
      | leave left =>
          rw [run_leave here] at ended
          cases ended
          rfl

/-- `init` continues with what the wait ends with. -/
theorem first_status_waited (initConfig : InitConfig) (turns : Nat) (waited : Waited)
    (ended : waitForStatus (probed configuration env) (pinVerified env)
      initConfig.initStatusRefreshMaxRetry turns = .leave waited) :
    firstStatus configuration env initConfig = waited.outcome := by
  unfold firstStatus
  cases answer : getStatus (env.probes 0) configuration with
  | ok status =>
      have later : run (waitTurn (probed configuration env) (pinVerified env)) turns
          ⟨initConfig.initStatusRefreshMaxRetry, false, status, [.getStatus]⟩ = .leave waited := by
        simpa only [waitForStatus, probed, answer] using ended
      exact run_settled configuration env turns _ waited later
  | err error =>
      simp only [waitForStatus, probed, answer, Turn.leave.injEq] at ended
      exact ended ▸ rfl
  | panic =>
      simp only [waitForStatus, probed, answer, Turn.leave.injEq] at ended
      exact ended ▸ rfl
  | stuck =>
      simp only [waitForStatus, probed, answer, Turn.leave.injEq] at ended
      exact ended ▸ rfl

end Starts

/-- Whatever the queries and the SIM answer, the wait ends within its two
budgets, with a status that allows no more waiting; and this is how the status
of a start is found. -/
theorem start_up_loop_ends (maxRetry : UInt32) :
    (∀ (answers : Nat → Outcome Status) (verified : Nat → Except Error Unit), ∃ waited,
      waitForStatus answers verified maxRetry (maxRetry.toNat + 2) = .leave waited ∧
        Settled answers maxRetry waited) ∧
    ∀ (configuration : Configuration) (env : StartEnv), ∃ waited,
      Settled (probed configuration env) maxRetry waited ∧
        firstStatus configuration env ⟨maxRetry⟩ = waited.outcome := by
  refine ⟨wait_settles maxRetry, ?_⟩
  intro configuration env
  rcases wait_settles maxRetry (probed configuration env) (pinVerified env) with
    ⟨waited, ended, within⟩
  exact ⟨waited, within, first_status_waited configuration env ⟨maxRetry⟩ _ waited ended⟩

end TelcoVecchio.StartUpLoop
