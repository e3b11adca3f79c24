import EchoSync.Streaming.Lifecycle
import EchoSync.Streaming.PacketLedger

/-!
# Streaming Engine - The number of workers

A start spawns the workers of an engine and a stop waits until they have exited.  A
start of a paused engine spawns a second set of them, since only a running engine is
refused.

Main results:

- Theorem {lit}`live_workers`: if the calls of the lifecycle are made one after another
  and a paused engine is not started, then between the calls an engine that is not
  stopped has the configured number of workers, and a stopped one has none.
-/

namespace EchoSync
namespace Streaming
namespace EngineRun

open TransitionSystem

/-! ## Live workers -/

/-- The number of workers that have not finished. -/
def live (r : EngineRun) : Nat :=
  r.workers.countP fun x => !x.phase.finished

/-- Every worker that has not finished has one of these handles. -/
def Covers (r : EngineRun) (handles : List Nat) : Prop :=
  ∀ w x, r.workers[w]? = some x → x.phase.finished = false → w ∈ handles

/-- No worker of the second run is alive without being so in the first, and in an engine
that is not stopped none finishes. -/
structure WorkersKept (r r' : EngineRun) : Prop where
  state : r'.engine.state = r.engine.state
  handles : r'.engine.workerHandles = r.engine.workerHandles
  live_le : r'.live ≤ r.live
  covers : ∀ handles, r.Covers handles → r'.Covers handles
  live_eq : r.engine.state ≠ .stopped → r'.live = r.live

/-- A step that is none of a worker or of the lifecycle. -/
theorem WorkersKept.of_same {r r' : EngineRun} (hworkers : r'.workers = r.workers)
    (hstate : r'.engine.state = r.engine.state)
    (hhandles : r'.engine.workerHandles = r.engine.workerHandles) : WorkersKept r r' := by
  have hlive : r'.live = r.live := by rw [live, live, hworkers]
  refine ⟨hstate, hhandles, le_of_eq hlive, ?_, fun _ => hlive⟩
  intro handles hcovers w x hx
  rw [hworkers] at hx
  exact hcovers w x hx

/-- A worker that moves on, and finishes only in a stopped engine. -/
theorem WorkersKept.of_set {r r' : EngineRun} {w : Nat} {x y : Worker}
    (hx : r.workers[w]? = some x) (hworkers : r'.workers = r.workers.set w y)
    (hstate : r'.engine.state = r.engine.state)
    (hhandles : r'.engine.workerHandles = r.engine.workerHandles)
    (halive : x.phase.finished = false)
    (hfinish : y.phase.finished = true → r.engine.state = .stopped) : WorkersKept r r' := by
  have hcount := TaskPool.countP_set_add (fun x : Worker => !x.phase.finished) (y := y) hx
  have hlive : r'.live + 1 = r.live + (!y.phase.finished).toNat := by
    rw [live, live, hworkers, ← hcount, halive]
    rfl
  have hle : (!y.phase.finished).toNat ≤ 1 := Bool.toNat_le _
  refine ⟨hstate, hhandles, by omega, ?_, ?_⟩
  · intro handles hcovers v z hz hfinished
    rw [hworkers] at hz
    by_cases hv : w = v
    · subst hv
      exact hcovers w x hx halive
    · rw [List.getElem?_set_ne hv] at hz
      exact hcovers v z hz hfinished
  · intro hrunning
    cases hy : y.phase.finished with
    | true => exact absurd (hfinish hy) hrunning
    | false =>
        rw [hy] at hlive
        exact Nat.succ_injective hlive

/-- A worker that holds a packet has not finished. -/
theorem finished_of_held {phase : WorkerPhase} {p : Ticketed} (h : phase.held = some p) :
    phase.finished = false := by
  cases phase with
  | exited => contradiction
  | panicked q => contradiction
  | _ => rfl

/-- A worker that does not panic exits only from a stopped engine. -/
theorem workerMove_kept {profile : BuildProfile} {r r' : EngineRun} {w : Nat} {x : Worker}
    (hx : r.workers[w]? = some x) (hlost : r'.lost = []) (h : WorkerMove profile r w x r') :
    WorkersKept r r' := by
  have hmem : ∀ y : Worker, r'.workers = r.workers.set w y → y.phase.lost = none := by
    intro y hy
    have hlt : w < r.workers.length := (List.getElem?_eq_some_iff.mp hx).1
    exact List.filterMap_eq_nil_iff.mp hlost y (hy ▸ List.mem_set hlt y)
  have hbegun : ∀ {phase : WorkerPhase} {p : Ticketed}, phase.lost = none →
      ((phase.held = some p ∧ phase.lost = none) ∨
        (phase.held = none ∧ phase.lost = some p)) → phase.finished = false := by
    rintro phase p hnone (⟨hheld, -⟩ | ⟨-, hlose⟩)
    · exact finished_of_held hheld
    · rw [hnone] at hlose
      contradiction
  cases h with
  | exit hphase hstate =>
      exact .of_set hx rfl rfl rfl (hphase ▸ rfl) (fun _ => hstate)
  | deliver p q hphase =>
      have halive := hbegun (hmem _ rfl) (beginDelivery_held profile r.engine.config p)
      exact .of_set hx rfl rfl rfl (hphase ▸ rfl)
        (fun hfinished => absurd hfinished (Bool.eq_false_iff.mp halive))
  | retry p n hphase =>
      have halive := hbegun (hmem _ rfl) (beginAttempt_held profile p n)
      exact .of_set hx rfl rfl rfl (hphase ▸ rfl)
        (fun hfinished => absurd hfinished (Bool.eq_false_iff.mp halive))
  | enter hphase | pause hphase | wake hphase | pending dequeue hphase | park dequeue hphase
  | notice dequeue q hphase | acquire q hphase | take p q hphase | countSent hphase
  | countFailed p hphase =>
      exact .of_set hx rfl rfl rfl (hphase ▸ rfl) (fun hfinished => by contradiction)

/-- The end of an attempt finishes no worker. -/
theorem attemptMove_kept {r r' : EngineRun} {w : Nat} {x : Worker}
    (hx : r.workers[w]? = some x) (h : AttemptMove r w x r') : WorkersKept r r' := by
  cases h with
  | sent p n hphase | giveUp p n hphase | again p n hphase =>
      exact .of_set hx rfl rfl rfl (hphase ▸ rfl) (fun hfinished => by contradiction)

/-! ## The lifecycle invariant -/

/-- Nobody is left once every worker has finished. -/
theorem live_eq_zero {r : EngineRun} (h : r.Covers []) : r.live = 0 := by
  refine List.countP_eq_zero.mpr ?_
  intro x hx
  rcases List.getElem?_of_mem hx with ⟨w, hw⟩
  cases hfinished : x.phase.finished with
  | true => simp
  | false => exact absurd (h w x hw hfinished) List.not_mem_nil

/-- A set of workers is spawned. -/
theorem spawnWorkers_live (r : EngineRun) :
    r.spawnWorkers.live = r.live + max r.engine.config.workerCount 1 := by
  change (r.workers ++ List.replicate _ Worker.spawned).countP _ = _
  rw [List.countP_append, List.countP_replicate]
  rfl

/-- The handles of the spawned workers are kept. -/
theorem spawnWorkers_covers {r : EngineRun} (h : r.Covers r.engine.workerHandles) :
    r.spawnWorkers.Covers r.spawnWorkers.engine.workerHandles := by
  intro w x hx hfinished
  refine List.mem_append.mpr ?_
  by_cases hold : w < r.workers.length
  · refine Or.inl (h w x ?_ hfinished)
    exact (List.getElem?_append_left hold).symm.trans hx
  · refine Or.inr (List.mem_range'_1.mpr ?_)
    have hlt := (List.getElem?_eq_some_iff.mp hx).1
    have hlength : r.spawnWorkers.workers.length =
        r.workers.length + max r.engine.config.workerCount 1 := by
      change (r.workers ++ List.replicate _ Worker.spawned).length = _
      rw [List.length_append, List.length_replicate]
    rw [hlength] at hlt
    exact ⟨not_lt.mp hold, hlt⟩

/-- Between two calls of the lifecycle, so many workers are alive, unless the engine is
stopped, and a stop would find their handles. -/
structure Steady (n : Nat) (r : EngineRun) : Prop where
  stopped : r.engine.state = .stopped → r.live = 0
  alive : r.engine.state ≠ .stopped → r.live = n ∧ r.Covers r.engine.workerHandles

/-- What holds while a call of the lifecycle is in progress. -/
def InProgress (n : Nat) (r : EngineRun) : CallPhase → Prop
  | .check op => r.Steady n ∧ (op = .start → r.engine.state ≠ .paused)
  | .publish op =>
      r.Steady n ∧ op.refusal r.engine.state = none ∧ (op = .start → r.engine.state ≠ .paused)
  | .spawn => r.engine.state ≠ .stopped ∧ r.live = 0
  | .lockHandles => r.engine.state = .stopped ∧ r.Covers r.engine.workerHandles
  | .join handles => r.engine.state = .stopped ∧ r.Covers handles
  | _ => True

/-- The calls of the lifecycle that are in progress. -/
def pending (r : EngineRun) : List CallPhase :=
  r.calls.filter CallPhase.inLifecycle

/-- At most one call of the lifecycle is in progress. -/
def LifecycleInvariant (n : Nat) (r : EngineRun) : Prop :=
  (r.pending = [] ∧ r.Steady n) ∨ ∃ phase, r.pending = [phase] ∧ r.InProgress n phase

theorem Steady.of_kept {n : Nat} {r r' : EngineRun} (h : r.Steady n) (hkept : WorkersKept r r') :
    r'.Steady n := by
  constructor
  · intro hstopped
    rw [hkept.state] at hstopped
    exact Nat.le_zero.mp (h.stopped hstopped ▸ hkept.live_le)
  · intro hrunning
    rw [hkept.state] at hrunning
    rw [hkept.live_eq hrunning, hkept.handles]
    exact ⟨(h.alive hrunning).1, hkept.covers _ (h.alive hrunning).2⟩

theorem InProgress.of_kept {n : Nat} {r r' : EngineRun} {phase : CallPhase}
    (h : r.InProgress n phase) (hkept : WorkersKept r r') : r'.InProgress n phase := by
  cases phase with
  | check op =>
      unfold InProgress at h ⊢
      rw [hkept.state]
      exact ⟨h.1.of_kept hkept, h.2⟩
  | publish op =>
      unfold InProgress at h ⊢
      rw [hkept.state]
      exact ⟨h.1.of_kept hkept, h.2⟩
  | spawn =>
      unfold InProgress at h ⊢
      rw [hkept.state]
      exact ⟨h.1, Nat.le_zero.mp (h.2 ▸ hkept.live_le)⟩
  | lockHandles =>
      unfold InProgress at h ⊢
      rw [hkept.state, hkept.handles]
      exact ⟨h.1, hkept.covers _ h.2⟩
  | join handles =>
      unfold InProgress at h ⊢
      rw [hkept.state]
      exact ⟨h.1, hkept.covers _ h.2⟩
  | _ => trivial

/-- A step that keeps the workers and the calls of the lifecycle. -/
theorem LifecycleInvariant.of_kept {n : Nat} {r r' : EngineRun} (h : r.LifecycleInvariant n)
    (hpending : r'.pending = r.pending) (hkept : WorkersKept r r') :
    r'.LifecycleInvariant n := by
  rcases h with ⟨hnone, hsteady⟩ | ⟨phase, hone, hphase⟩
  · exact Or.inl ⟨hpending.trans hnone, hsteady.of_kept hkept⟩
  · exact Or.inr ⟨phase, hpending.trans hone, hphase.of_kept hkept⟩

/-! ## Steps -/

/-- The states that a call of the lifecycle leaves behind when it publishes. -/
theorem InProgress.publish {n : Nat} {r : EngineRun} {op : Lifecycle}
    (h : r.InProgress n (.publish op)) (i : Nat) :
    let r' := { r with engine := r.engine.send op.target }.setCall i op.afterPublish
    if op.afterPublish.inLifecycle then r'.InProgress n op.afterPublish else r'.Steady n := by
  rcases h with ⟨hsteady, hrefusal, hstart⟩
  have hrunning : op ≠ .start → r.engine.state ≠ .stopped := by
    intro hop hstate
    rw [hstate] at hrefusal
    cases op <;> contradiction
  cases op with
  | start =>
      have hstopped : r.engine.state = .stopped := by
        cases hstate : r.engine.state with
        | stopped => rfl
        | running =>
            rw [hstate] at hrefusal
            contradiction
        | paused => exact absurd hstate (hstart rfl)
      exact ⟨fun hstate => by contradiction, hsteady.stopped hstopped⟩
  | stop => exact ⟨rfl, (hsteady.alive (hrunning (by decide))).2⟩
  | pause | resume =>
      exact ⟨fun hstate => by contradiction, fun _ => hsteady.alive (hrunning (by decide))⟩

/-- A call of the lifecycle that is in progress is the only one. -/
theorem LifecycleInvariant.inProgress {n : Nat} {r : EngineRun} {i : Nat} {phase : CallPhase}
    (h : r.LifecycleInvariant n) (hphase : r.calls[i]? = some phase)
    (hin : phase.inLifecycle = true) :
    r.InProgress n phase ∧ ∀ next, (r.calls.set i next).filter CallPhase.inLifecycle =
      if next.inLifecycle then [next] else [] := by
  rcases h with ⟨hnone, -⟩ | ⟨only, hone, hprogress⟩
  · have hmem : phase ∈ r.pending :=
      List.mem_filter.mpr ⟨List.mem_of_getElem? hphase, hin⟩
    rw [hnone] at hmem
    contradiction
  · have hset : ∀ next, phase = only ∧
        (r.calls.set i next).filter CallPhase.inLifecycle =
          [next].filter CallPhase.inLifecycle :=
      fun next => TaskPool.filter_set_of_singleton hphase hone hin
    refine ⟨(hset phase).1 ▸ hprogress, ?_⟩
    exact fun next => (hset next).2.trans List.filter_cons

/-- Every step of a call keeps the invariant. -/
theorem callMove_live {n : Nat} {r r' : EngineRun} {i : Nat} {phase : CallPhase}
    (h : r.LifecycleInvariant n) (hn : n = max r.engine.config.workerCount 1)
    (hphase : r.calls[i]? = some phase) (hmove : CallMove r i phase r') :
    r'.LifecycleInvariant n := by
  have hkeep : ∀ next : CallPhase, phase.inLifecycle = false → next.inLifecycle = false →
      r'.calls = r.calls.set i next → r'.pending = r.pending := by
    intro next hold hnew hcalls
    rw [pending, hcalls]
    exact TaskPool.filter_set_of_false hphase hold hnew
  cases hmove with
  | refuse op error heq =>
      subst heq
      rcases h.inProgress hphase rfl with ⟨⟨hsteady, -⟩, hset⟩
      exact Or.inl ⟨hset _, hsteady.of_kept (.of_same rfl rfl rfl)⟩
  | pass op heq hrefusal =>
      subst heq
      rcases h.inProgress hphase rfl with ⟨⟨hsteady, hstart⟩, hset⟩
      exact Or.inr ⟨_, hset _, hsteady.of_kept (.of_same rfl rfl rfl), hrefusal, hstart⟩
  | publish op heq =>
      subst heq
      rcases h.inProgress hphase rfl with ⟨hprogress, hset⟩
      have hafter := hprogress.publish i
      have hpending := hset op.afterPublish
      dsimp only at hafter
      split_ifs at hafter hpending with hin
      · exact Or.inr ⟨_, hpending, hafter⟩
      · exact Or.inl ⟨hpending, hafter⟩
  | spawn heq =>
      subst heq
      rcases h.inProgress hphase rfl with ⟨⟨hrunning, hdead⟩, hset⟩
      have hcovers : r.Covers r.engine.workerHandles := by
        intro w x hx hfinished
        have halive := List.countP_eq_zero.mp hdead x (List.mem_of_getElem? hx)
        rw [hfinished] at halive
        contradiction
      refine Or.inl ⟨hset _, fun hstate => absurd hstate hrunning, fun _ => ?_⟩
      refine ⟨?_, spawnWorkers_covers hcovers⟩
      rw [hn, ← Nat.zero_add (max _ 1), ← hdead]
      exact spawnWorkers_live r
  | lockHandles heq =>
      subst heq
      rcases h.inProgress hphase rfl with ⟨hprogress, hset⟩
      exact Or.inr ⟨_, hset _, hprogress⟩
  | join handle rest heq hfinished =>
      subst heq
      rcases h.inProgress hphase rfl with ⟨⟨hstopped, hcovers⟩, hset⟩
      refine Or.inr ⟨_, hset _, hstopped, ?_⟩
      intro w x hx halive
      rcases List.mem_cons.mp (hcovers w x hx halive) with rfl | hrest
      · have hw : r.workers[w]? = some x := hx
        rw [hasFinished, hw] at hfinished
        exact absurd (hfinished.symm.trans halive) Bool.noConfusion
      · exact hrest
  | joined heq =>
      subst heq
      rcases h.inProgress hphase rfl with ⟨⟨hstopped, hcovers⟩, hset⟩
      exact Or.inl ⟨hset _, fun _ => live_eq_zero hcovers,
        fun hrunning => absurd hstopped hrunning⟩
  | accept p q heq => exact h.of_kept (hkeep _ (heq ▸ rfl) rfl rfl) (.of_same rfl rfl rfl)
  | drain p q drained heq => exact h.of_kept (hkeep _ (heq ▸ rfl) rfl rfl) (.of_same rfl rfl rfl)
  | other e next hsame hold hnew =>
      exact h.of_kept (hkeep _ hold hnew rfl) (.of_same rfl hsame.state hsame.workerHandles)

/-- A call of the lifecycle begins only when no other one is in progress, and a start
only on an engine that is not paused. -/
def lifecycleGuard (r : EngineRun) : Action → Prop
  | .invoke (.lifecycle op) =>
      (∀ phase ∈ r.calls, phase.inLifecycle = false) ∧
        (op = .start → r.engine.state ≠ .paused)
  | _ => True

instance (r : EngineRun) (action : Action) : Decidable (lifecycleGuard r action) :=
  match action with
  | .invoke (.lifecycle _) => inferInstanceAs (Decidable (_ ∧ _))
  | .invoke (.enqueue _) => inferInstanceAs (Decidable True)
  | .invoke (.receivePacket _) => inferInstanceAs (Decidable True)
  | .invoke .dequeue => inferInstanceAs (Decidable True)
  | .invoke .clear => inferInstanceAs (Decidable True)
  | .call _ => inferInstanceAs (Decidable True)
  | .worker _ => inferInstanceAs (Decidable True)
  | .attempt _ _ => inferInstanceAs (Decidable True)

/-- Every guarded step with which no worker panics keeps the invariant. -/
theorem step_live {profile : BuildProfile} {n : Nat} {r r' : EngineRun} {action : Action}
    (h : r.LifecycleInvariant n) (hn : n = max r.engine.config.workerCount 1)
    (hstep : restrict lifecycleGuard (step profile) r action = some r') (hlost : r'.lost = []) :
    r'.LifecycleInvariant n := by
  rcases restrict_eq_some.mp hstep with ⟨hguard, hmove⟩
  rcases step_eq_some.mp hmove with ⟨call, rfl, rfl⟩ | ⟨i, phase, -, hphase, hcall⟩ |
    ⟨w, x, -, hx, hworker⟩ | ⟨w, x, outcome, -, hx, hattempt⟩
  · have hpending : ({ r with calls := r.calls ++ [call.entry] } : EngineRun).pending =
        r.pending ++ [call.entry].filter CallPhase.inLifecycle :=
      List.filter_append _ _
    cases call with
    | lifecycle op =>
        have hnone : r.pending = [] := by
          refine List.filter_eq_nil_iff.mpr ?_
          intro phase hphase
          rw [hguard.1 phase hphase]
          exact Bool.false_ne_true
        rcases h with ⟨-, hsteady⟩ | ⟨phase, hone, -⟩
        · refine Or.inr ⟨_, by rw [hpending, hnone]; rfl, ?_⟩
          exact ⟨hsteady.of_kept (.of_same rfl rfl rfl), hguard.2⟩
        · rw [hnone] at hone
          contradiction
    | enqueue packet | receivePacket packet | dequeue | clear =>
        exact h.of_kept (hpending.trans (List.append_nil _)) (.of_same rfl rfl rfl)
  · exact callMove_live h hn hphase (callMove hcall)
  · refine h.of_kept ?_ (workerMove_kept hx hlost (workerMove hworker))
    cases workerMove hworker <;> rfl
  · refine h.of_kept ?_ (attemptMove_kept hx (attemptMove hattempt))
    cases attemptMove hattempt <;> rfl

/-! ## Runs -/

/-- The steps of runs in which only the lifecycle changes. -/
def Action.isLifecycle : Action → Bool
  | .invoke (.lifecycle _) => true
  | .invoke _ => false
  | _ => true

/-- Only calls of the lifecycle have been made, and no packet was accepted. -/
structure NoPackets (r : EngineRun) : Prop where
  calls : ∀ phase ∈ r.calls, phase.inLifecycle = true ∨ phase.hasReturned = true
  accepted : r.accepted = []

theorem step_noPackets {profile : BuildProfile} {r r' : EngineRun} {action : Action}
    (haction : action.isLifecycle = true) (h : r.NoPackets)
    (hstep : step profile r action = some r') : r'.NoPackets := by
  rcases step_eq_some.mp hstep with ⟨call, rfl, rfl⟩ | ⟨i, phase, -, hphase, hcall⟩ |
    ⟨w, x, -, hx, hworker⟩ | ⟨w, x, outcome, -, hx, hattempt⟩
  · refine ⟨?_, h.accepted⟩
    intro phase hphase
    rcases List.mem_append.mp hphase with hold | hnew
    · exact h.calls phase hold
    · rw [List.mem_singleton.mp hnew]
      cases call with
      | lifecycle op => exact Or.inl rfl
      | _ => contradiction
  · have hin : phase.inLifecycle = true := by
      rcases h.calls phase (List.mem_of_getElem? hphase) with hin | hreturned
      · exact hin
      · cases phase with
        | returned result => contradiction
        | _ => contradiction
    cases callMove hcall with
    | publish op heq =>
        refine ⟨TaskPool.forall_mem_set h.calls ?_, h.accepted⟩
        cases op with
        | start | stop => exact Or.inl rfl
        | pause | resume => exact Or.inr rfl
    | accept p q heq =>
        rw [heq] at hin
        contradiction
    | drain p q drained heq =>
        rw [heq] at hin
        contradiction
    | other e next hsame hold =>
        rw [hold] at hin
        contradiction
    | pass op | lockHandles | join handle rest =>
        exact ⟨TaskPool.forall_mem_set h.calls (Or.inl rfl), h.accepted⟩
    | refuse op error | spawn | joined =>
        exact ⟨TaskPool.forall_mem_set h.calls (Or.inr rfl), h.accepted⟩
  · have hkeep : r'.calls = r.calls ∧ r'.accepted = r.accepted := by
      cases workerMove hworker <;> exact ⟨rfl, rfl⟩
    exact ⟨hkeep.1 ▸ h.calls, hkeep.2 ▸ h.accepted⟩
  · have hkeep : r'.calls = r.calls ∧ r'.accepted = r.accepted := by
      cases attemptMove hattempt <;> exact ⟨rfl, rfl⟩
    exact ⟨hkeep.1 ▸ h.calls, hkeep.2 ▸ h.accepted⟩

/-- Without packets no worker panics with one. -/
theorem NoPackets.lost_eq_nil {r : EngineRun} (h : r.NoPackets) (hinv : r.OutboundInvariant) :
    r.lost = [] := by
  have hgone : r.ledger.gone = 0 := hinv.balanced.gone_eq_zero h.accepted
  have hlost : r.ledger.lost = 0 := (add_eq_zero.mp hgone).2
  exact (Multiset.coe_eq_zero _).mp hlost

/-- The invariant holds throughout a run in which no worker panics. -/
theorem run_live {profile : BuildProfile} {config : StreamingConfig}
    (allowed : Action → Prop) (P : EngineRun → Prop)
    (hkeep : ∀ r action r', allowed action → r.engine.config = config → P r →
      step profile r action = some r' → P r')
    (hlost : ∀ r, P r → r.lost = []) {actions : List Action} {r : EngineRun}
    (hallowed : ∀ action ∈ actions, allowed action)
    (hinitial : P (initial (StreamingEngine.ofConfig config)))
    (hrun : run (restrict lifecycleGuard (step profile))
      (initial (StreamingEngine.ofConfig config)) actions = some r) :
    r.LifecycleInvariant (max config.workerCount 1) := by
  have hinv : r.engine.config = config ∧ P r ∧
      r.LifecycleInvariant (max config.workerCount 1) := by
    refine run_invariant_of_labels allowed (fun r : EngineRun => r.engine.config = config ∧ P r ∧
      r.LifecycleInvariant (max config.workerCount 1)) ?_ hallowed
      ⟨rfl, hinitial, Or.inl ⟨rfl, fun _ => rfl, fun h => absurd rfl h⟩⟩ hrun
    rintro r action r' haction ⟨hconfig, hP, hlive⟩ hstep
    have hmove := (restrict_eq_some.mp hstep).2
    have hP' := hkeep r action r' haction hconfig hP hmove
    exact ⟨(step_config hmove).trans hconfig, hP',
      step_live hlive (by rw [hconfig]) hstep (hlost r' hP')⟩
  exact hinv.2.2

/-- In every run in which the calls of the lifecycle are made one after another and no
paused engine is started, the number of live workers between the calls is the configured
number, at least one, or none if the engine is stopped.  Packets may be delivered
meanwhile as long as this does not panic. -/
theorem live_workers {profile : BuildProfile} {config : StreamingConfig}
    {engine : StreamingEngine} {actions : List Action} {r : EngineRun}
    (hnew : StreamingEngine.new config = .ok engine)
    (hpackets : (∀ action ∈ actions, action.isLifecycle = true) ∨
      ¬ AttemptsOverflow profile config)
    (hrun : run (restrict lifecycleGuard (step profile)) (initial engine) actions = some r)
    (hdone : ∀ phase ∈ r.calls, phase.inLifecycle = false) :
    r.live = if r.engine.state = .stopped then 0 else max config.workerCount 1 := by
  have hengine := StreamingEngine.new_eq_ok hnew
  subst hengine
  have hinv : r.LifecycleInvariant (max config.workerCount 1) := by
    rcases hpackets with honly | hfits
    · refine run_live (fun action => action.isLifecycle = true)
        (fun r => r.OutboundInvariant ∧ r.NoPackets) ?_ (fun _ h => h.2.lost_eq_nil h.1)
        honly ⟨initial_outboundInvariant config, by simp [initial], rfl⟩ hrun
      rintro r action r' haction - ⟨hinv, hnone⟩ hstep
      exact ⟨step_outboundInvariant hinv hstep, step_noPackets haction hnone hstep⟩
    · refine run_live (fun _ => True) (fun r => ∀ x ∈ r.workers, x.phase.Sound) ?_
        (fun _ h => EngineRun.lost_eq_nil h) (fun _ _ => trivial) (by simp [initial]) hrun
      intro r action r' _ hconfig hsound hstep
      exact step_sound (hconfig ▸ hfits) hsound hstep
  have hnone : r.pending = [] := by
    refine List.filter_eq_nil_iff.mpr ?_
    intro phase hphase
    rw [hdone phase hphase]
    exact Bool.false_ne_true
  rcases hinv with ⟨-, hsteady⟩ | ⟨phase, hone, -⟩
  · split_ifs with hstate
    · exact hsteady.stopped hstate
    · exact (hsteady.alive hstate).1
  · rw [hnone] at hone
    contradiction

/-- A pause, a resume, a stop and a second start of a started engine. -/
def restartEngineActions : List Action :=
  startActions ++ (lifecycleActions 1 .pause 2 ++ (lifecycleActions 2 .resume 2 ++
    (lifecycleActions 3 .stop 3 ++ (workerActions 0 1 ++ (workerActions 1 1 ++
      (List.replicate 3 (Action.call 3) ++ lifecycleActions 4 .start 3))))))

/-- A restarted engine has as many live workers as it is configured with. -/
theorem live_workers_restart :
    ∃ r, run (restrict lifecycleGuard (step ⟨true⟩))
        (initial (StreamingEngine.ofConfig .default)) restartEngineActions = some r ∧
      r.workers.length = 4 ∧ r.engine.state = .running ∧ r.live = 2 := by
  have hrun : (run (restrict lifecycleGuard (step ⟨true⟩))
      (initial (StreamingEngine.ofConfig .default)) restartEngineActions).any
      (fun r => decide (r.workers.length = 4 ∧ r.engine.state = .running ∧
        ∀ phase ∈ r.calls, phase.inLifecycle = false)) = true := by
    decide +kernel
  rcases exists_of_any hrun with ⟨r, hr, hlength, hrunning, hdone⟩
  have hnew : StreamingEngine.new .default = .ok (StreamingEngine.ofConfig .default) := by decide
  have hlive := live_workers hnew (Or.inl (by decide)) hr hdone
  rw [hrunning] at hlive
  exact ⟨r, hr, hlength, hrunning, hlive⟩

/-- A start of a paused engine with one worker, after which all workers wait for
packets. -/
def startPausedActions : List Action :=
  startActions ++ (lifecycleActions 1 .pause 2 ++ (lifecycleActions 2 .start 3 ++
    (workerActions 0 6 ++ workerActions 1 5)))

/-- One worker is configured, and two wait for packets after a paused engine was
started. -/
theorem start_paused_adds_worker :
    ∃ r, run (step ⟨true⟩)
        (initial (StreamingEngine.ofConfig { StreamingConfig.default with workerCount := 1 }))
        startPausedActions = some r ∧
      (∀ phase ∈ r.calls, phase.inLifecycle = false) ∧ r.engine.state = .running ∧
      (∀ x ∈ r.workers, x.seen = r.engine.version ∧
        (x.phase = .select .waitingForLock ∨ x.phase = .select .waitingForPacket)) ∧
      r.live = 2 := by
  refine exists_of_any ?_
  decide +kernel

end EngineRun
end Streaming
end EchoSync
