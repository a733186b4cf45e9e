import TelcoVecchio.LoopRefinement
import TelcoVecchio.ExpiryCleaning
import TelcoVecchio.TunnelClosing

/-!
The order in which a `HashMap` is traversed is nobody's choice. Two runs of the
same events that differ in these orders only keep equal contexts and do the
same things, if in another order: removals commute, and the admission of an
`open` asks whether an entry exists, not which one comes first. A close of all
tunnels stops at the first kill that fails, so there the kills have to succeed.
-/

namespace TelcoVecchio.MapOrder

open Common Status SshUtils Request Service ExpiryCleaning TunnelClosing LoopRefinement

def erased (tunnels : Tunnels) (references : List UInt32) : Tunnels :=
  references.foldl (fun tunnels reference => tunnels.erase reference) tunnels

theorem erased_perm (tunnels : Tunnels) {left right : List UInt32} (perm : left.Perm right) :
    erased tunnels left = erased tunnels right :=
  perm.foldl_eq' (fun first _ second _ table => AList.erase_erase first second table) tunnels

theorem erase_absent (tunnels : Tunnels) (reference : UInt32)
    (absent : tunnels.lookup reference = none) : tunnels.erase reference = tunnels := by
  apply AList.ext
  exact List.kerase_of_notMem_keys (AList.lookup_eq_none.mp absent)

theorem remove_context (daemon : Daemon) (reference : UInt32) (used : Tunnel → List Effect) :
    (daemon.remove reference used).context =
      { daemon.context with tunnels := daemon.context.tunnels.erase reference } := by
  cases held : daemon.context.tunnels.lookup reference with
  | none => simp only [Daemon.remove, held, erase_absent _ _ held]
  | some tunnel => simp only [Daemon.remove, held]

theorem remove_tunnels_context (references : List UInt32) (daemon : Daemon) :
    (removeTunnels references daemon).context =
      { daemon.context with tunnels := erased daemon.context.tunnels references } := by
  induction references generalizing daemon with
  | nil => rfl
  | cons reference rest ih =>
      have next : removeTunnels (reference :: rest) daemon =
          removeTunnels rest (daemon.remove reference fun _ => []) := rfl
      rw [next, ih, remove_context]
      rfl

theorem close_context (kill : Child → Except IoError Unit) (references : List UInt32)
    (daemon : Daemon) (closed : (closeTunnels kill references daemon).1 = .ok ()) :
    (closeTunnels kill references daemon).2.context =
      { daemon.context with tunnels := erased daemon.context.tunnels references } := by
  induction references generalizing daemon with
  | nil => rfl
  | cons reference rest ih =>
      cases held : daemon.context.tunnels.lookup reference with
      | none => simp [closeTunnels, held] at closed
      | some tunnel =>
          cases killed : kill tunnel.process with
          | error error => simp [closeTunnels, held, killed] at closed
          | ok _ =>
              simp only [closeTunnels, held, killed] at closed ⊢
              rw [ih _ closed, remove_context]
              rfl

/-- Two calls that come back or not together, with equal contexts and the same
effects up to their order. -/
structure Matched {Value : Type} (left right : Outcome Value × Daemon) : Prop where
  returned : Returned left.1 ↔ Returned right.1
  context : left.2.context = right.2.context
  log : left.2.log.Perm right.2.log

theorem matched_refl {Value : Type} (call : Outcome Value × Daemon) : Matched call call :=
  ⟨Iff.rfl, rfl, List.Perm.refl _⟩

theorem clean_up_matched (now : Nat) (left right : Order TunnelEntry)
    (calls : CleanUpCalls) (daemon : Daemon) (passing : Passing calls now daemon) :
    Matched (cleanUpExpiredTunnels now left calls daemon)
      (cleanUpExpiredTunnels now right calls daemon) := by
  have context : ∀ order : Order TunnelEntry,
      (cleanUpExpiredTunnels now order calls daemon).2.context =
        { daemon.context with
          tunnels :=
            erased daemon.context.tunnels ((visitedEntries now order daemon).map Sigma.fst) } := by
    intro order
    have visited := visit_expired calls now daemon.context.configuration
      (order.arrange daemon.context.tunnels.entries) (arranged_passing order passing)
    simp only [cleanUpExpiredTunnels, visited]
    exact remove_tunnels_context _ _
  -- both orders visit the same entries, and erasing commutes
  have visited := (visited_entries_perm now left daemon).trans
    (visited_entries_perm now right daemon).symm
  rcases clean_up_effects now left calls daemon passing with ⟨leftDone, leftLog⟩
  rcases clean_up_effects now right calls daemon passing with ⟨rightDone, rightLog⟩
  constructor
  · rw [leftDone, rightDone]
  · rw [context left, context right, erased_perm _ (visited.map Sigma.fst)]
  · rw [leftLog, rightLog]
    exact ((visited.flatMap_right _).append (visited.map _)).append_left daemon.log

theorem arranged_found (left right : Order TunnelEntry) (tunnels : Tunnels)
    (asked : TunnelEntry → Bool)
    (missed : (left.arrange tunnels.entries).find? asked = none) :
    (right.arrange tunnels.entries).find? asked = none := by
  rw [List.find?_eq_none] at missed ⊢
  intro entry member
  exact missed entry ((left.perm _).mem_iff.mpr ((right.perm _).mem_iff.mp member))

/-- The admission gives the same application under every order, or refuses
under every order; only the text of a refusal may differ. -/
theorem admit_open_reordered (left right : Order TunnelEntry) (context : Context) (user : User)
    (applicationStr : String) :
    admitOpen left context user applicationStr = admitOpen right context user applicationStr ∨
      ∃ first second, admitOpen left context user applicationStr = .error first ∧
        admitOpen right context user applicationStr = .error second := by
  simp only [admitOpen]
  split
  · exact Or.inl rfl
  split
  · exact Or.inl rfl
  split
  · exact Or.inl rfl
  split
  · exact Or.inl rfl
  · next application _ =>
      split
      · exact Or.inl rfl
      split
      · exact Or.inr ⟨_, _, rfl, rfl⟩
      · -- the tunnel that is named as open may be another one
        cases first : (left.arrange context.tunnels.entries).find? fun entry =>
            entry.2.user == user.name && entry.2.application == application.name with
        | none =>
            rw [arranged_found left right context.tunnels _ first]
            exact Or.inl rfl
        | some entry =>
            cases second : (right.arrange context.tunnels.entries).find? fun entry =>
                entry.2.user == user.name && entry.2.application == application.name with
            | none =>
                rw [arranged_found right left context.tunnels _ second] at first
                cases first
            | some other => exact Or.inr ⟨_, _, rfl, rfl⟩

def Env.reordered (env : Env) (tunnelOrder : Order TunnelEntry)
    (statusOrder : Order (Sigma fun _ : String => ServiceStatus)) : Env :=
  { env with tunnelOrder, statusOrder }

section Requests
variable (env : Env) (tunnelOrder : Order TunnelEntry)
  (statusOrder : Order (Sigma fun _ : String => ServiceStatus)) (daemon : Daemon)

theorem open_matched (user : User) (request : String) (args : List String) :
    Matched (openTunnel env user request args daemon)
      (openTunnel (Env.reordered env tunnelOrder statusOrder) user request args daemon) := by
  cases args with
  | nil => exact matched_refl _
  | cons applicationStr rest =>
      simp only [openTunnel]
      rcases admit_open_reordered env.tunnelOrder tunnelOrder daemon.context user applicationStr
        with same | ⟨first, second, refused, refusedToo⟩
      · simp only [Env.reordered, same]
        exact matched_refl _
      · simp only [Env.reordered, refused, refusedToo]
        exact ⟨Iff.rfl, rfl, List.Perm.refl _⟩

theorem own_references_perm (left right : Order TunnelEntry) (tunnels : Tunnels) (name : String) :
    (ownReferences left tunnels name).Perm (ownReferences right tunnels name) :=
  ((left.perm tunnels.entries).trans (right.perm tunnels.entries).symm).filterMap _

theorem close_matched (kills : ∀ process, killSucceeds env.kill process = true)
    (left right : List UInt32) (perm : left.Perm right) (distinct : left.Nodup)
    (present : ∀ reference ∈ left, ∃ tunnel,
      daemon.context.tunnels.lookup reference = some tunnel) :
    Matched
      ((closeTunnels env.kill left daemon).1.bind fun _ => Outcome.ok (closeMessage left),
        (closeTunnels env.kill left daemon).2)
      ((closeTunnels env.kill right daemon).1.bind fun _ => Outcome.ok (closeMessage right),
        (closeTunnels env.kill right daemon).2) := by
  rcases close_all env.kill left daemon distinct present fun _ _ tunnel _ => kills tunnel.process
    with ⟨leftDone, _, leftLog⟩
  rcases close_all env.kill right daemon (perm.nodup_iff.mp distinct)
    (fun reference member => present reference (perm.mem_iff.mpr member))
    (fun _ _ tunnel _ => kills tunnel.process) with ⟨rightDone, _, rightLog⟩
  constructor
  · simp only [leftDone, rightDone, Outcome.bind, Returned]
  · simp only [close_context _ _ _ leftDone, close_context _ _ _ rightDone, erased_perm _ perm]
  · simp only [leftLog, rightLog]
    exact (List.Perm.flatMap_right _ (perm.filterMap _)).append_left daemon.log

theorem close_tunnel_matched (user : User) (args : List String)
    (kills : args = [] → ∀ process, killSucceeds env.kill process = true) :
    Matched (closeTunnel env user args daemon)
      (closeTunnel (Env.reordered env tunnelOrder statusOrder) user args daemon) := by
  cases args with
  | cons text rest => exact matched_refl _
  | nil =>
      have perm := own_references_perm env.tunnelOrder tunnelOrder daemon.context.tunnels user.name
      have present : ∀ reference ∈
          ownReferences env.tunnelOrder daemon.context.tunnels user.name,
          ∃ tunnel, daemon.context.tunnels.lookup reference = some tunnel := by
        intro reference member
        rcases (own_references_iff _ _ _ reference).mp member with ⟨tunnel, held, _⟩
        exact ⟨tunnel, held⟩
      have matched := close_matched env daemon (kills rfl) _ _ perm
        (own_references_nodup _ _ _) present
      by_cases empty : (ownReferences env.tunnelOrder daemon.context.tunnels user.name).isEmpty
      · have emptyToo : (ownReferences tunnelOrder daemon.context.tunnels user.name).isEmpty := by
          rw [List.isEmpty_iff] at empty ⊢
          rw [empty] at perm
          exact perm.nil_eq.symm
        simp only [closeTunnel, closeReferences, Env.reordered, empty, emptyToo, ↓reduceIte]
        exact matched_refl _
      · have someToo : ¬ (ownReferences tunnelOrder daemon.context.tunnels user.name).isEmpty := by
          rw [List.isEmpty_iff] at empty ⊢
          intro none
          rw [none] at perm
          exact empty perm.eq_nil
        simp only [closeTunnel, closeReferences, Env.reordered, empty, someToo]
        exact matched

def closesAll (request : String) : Prop :=
  ∃ command, RustText.splitWhitespace request = [command] ∧ commandWord command = "close"

theorem handle_request_matched (sender request : String)
    (kills : closesAll request → ∀ process, killSucceeds env.kill process = true) :
    Matched (handleRequest env sender request daemon)
      (handleRequest (Env.reordered env tunnelOrder statusOrder) sender request daemon) := by
  simp only [handleRequest]
  cases allowed : senderUser daemon.context.configuration sender with
  | none => exact matched_refl _
  | some user =>
      cases words : RustText.splitWhitespace request with
      | nil => exact matched_refl _
      | cons command args =>
          simp only [runCommand]
          split
          · exact open_matched env tunnelOrder statusOrder daemon user request args
          split
          · next isClose =>
              apply close_tunnel_matched env tunnelOrder statusOrder daemon user args
              rintro rfl
              exact kills ⟨command, words, isClose⟩
          split
          · -- the order shows in the text of the status only
            simp only [resolveStatus, Env.reordered]
            cases getStatus env.status daemon.context.configuration with
            | ok status => exact ⟨Iff.rfl, rfl, List.Perm.refl _⟩
            | err error => exact matched_refl _
            | panic => exact matched_refl _
            | stuck => exact matched_refl _
          split
          · exact matched_refl _
          split
          · exact matched_refl _
          · exact matched_refl _

end Requests

inductive Reordered : Event → Event → Prop where
  | request (env : Env) (tunnelOrder : Order TunnelEntry)
      (statusOrder : Order (Sigma fun _ : String => ServiceStatus)) (sender request : String)
      (kills : closesAll request → ∀ process, killSucceeds env.kill process = true) :
      Reordered (.request env sender request)
        (.request (Env.reordered env tunnelOrder statusOrder) sender request)
  | cleanUp (now : Nat) (left right : Order TunnelEntry) (calls : CleanUpCalls) :
      Reordered (.cleanUp now left calls) (.cleanUp now right calls)
  | processExit (process : Child) : Reordered (.processExit process) (.processExit process)

structure SameState (left right : Daemon) : Prop where
  context : left.context = right.context
  log : left.log.Perm right.log

theorem next_child_perm {left right : List Effect} (perm : left.Perm right) :
    nextChild left = nextChild right := by
  simp only [nextChild, perm.countP_eq]

theorem alike_same_state {left leftAfter right rightAfter : Daemon}
    (same : SameState left right) (alike : Alike left leftAfter right rightAfter) :
    SameState leftAfter rightAfter := by
  rcases alike.effects with ⟨effects, leftLog, rightLog⟩
  refine ⟨alike.context, ?_⟩
  rw [leftLog, rightLog]
  exact same.log.append_right effects

theorem step_reordered :
    Simulation.Follows Step Step Reordered SameState := by
  rintro before event _ upper other same corresponds ⟨returned, rfl⟩
  cases corresponds with
  | request env tunnelOrder statusOrder sender request kills =>
      have alike := handle_request_alike same.context (next_child_perm same.log) env sender request
      have matched := handle_request_matched env tunnelOrder statusOrder upper sender request kills
      refine ⟨_, ⟨?_, rfl⟩, ?_⟩
      · have came : Returned (handleRequest env sender request before).1 := returned
        rw [alike.1] at came
        exact matched.returned.mp came
      · have moved := alike_same_state same alike.2
        exact ⟨moved.context.trans matched.context, moved.log.trans matched.log⟩
  | cleanUp now left right calls =>
      have alike := clean_up_alike same.context now left calls
      have came : Returned (cleanUpExpiredTunnels now left calls before).1 := returned
      -- whether some entry ends the call in a panic does not depend on the order
      have passing : Passing calls now upper := by
        rwa [alike.1, clean_up_returned_iff] at came
      have matched := clean_up_matched now left right calls upper passing
      refine ⟨_, ⟨?_, rfl⟩, ?_⟩
      · rw [alike.1] at came
        exact matched.returned.mp came
      · have moved := alike_same_state same alike.2
        exact ⟨moved.context.trans matched.context, moved.log.trans matched.log⟩
  | processExit process =>
      exact ⟨_, ⟨trivial, rfl⟩, alike_same_state same (alike_record same.context _)⟩

/-- A run whose bare closes meet no failing kill can be repeated under any other
orders of traversal, and ends with the same table, status and configuration, and
with the same effects. -/
theorem runs_order_independent (configuration : Configuration) (status : Status)
    (events others : List Event) (daemon : Daemon)
    (run : Reaches configuration status events daemon)
    (reordered : List.Forall₂ Reordered events others) :
    ∃ other, Reaches configuration status others other ∧ SameState daemon other :=
  Simulation.run_followed step_reordered run ⟨rfl, List.Perm.refl _⟩ reordered

def backwards (Item : Type) : Order Item := ⟨List.reverse, fun items => List.reverse_perm items⟩

def cleansBoth (order : Order TunnelEntry) : Event := .cleanUp 4000000000000 order failingKills

theorem cleans_both_step (order : Order TunnelEntry) :
    Step twoOpen (cleansBoth order) (serve twoOpen (cleansBoth order)) :=
  ⟨(clean_up_returned_iff _ _ _ _).mpr
    ((passing_iff _ _ _).mpr ⟨two_open_dated, two_open_encode failingKills⟩), rfl⟩

theorem two_cleaned_backwards : ∃ other,
    Reaches house readyStatus [aliceOpens, bobOpens, cleansBoth (backwards _)] other ∧
      SameState (serve twoOpen (cleansBoth (.stored _))) other := by
  have run : Reaches house readyStatus [aliceOpens, bobOpens, cleansBoth (.stored _)]
      (serve twoOpen (cleansBoth (.stored _))) :=
    LabelledRun.run_append two_open_reached (.next (cleans_both_step (.stored _)) (.refl _))
  have opens : ∀ sender, Reordered (.request (fineEnv 0) sender "open camera")
      (.request (fineEnv 0) sender "open camera") := fun sender =>
    .request (fineEnv 0) (.stored _) (.stored _) sender "open camera" fun _ _ => rfl
  exact runs_order_independent house readyStatus _ _ _ run
    (.cons (opens _) (.cons (opens _) (.cons (.cleanUp _ _ _ _) .nil)))

end TelcoVecchio.MapOrder
