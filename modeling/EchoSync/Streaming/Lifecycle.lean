import EchoSync.Foundations.TaskPool
import EchoSync.Streaming.Schedules

/-!
# Streaming Engine - The lifecycle

A lifecycle call reads the published state and publishes a new one in a later step,
and a stop waits for its workers after that.  Calls that overlap can therefore
publish over each other.

Main results:

- Theorem {lit}`lifecycle_changes`: while no stop is overtaken, the published state
  only changes along the lifecycle, and it is stopped as long as a stop waits.
-/

namespace EchoSync
namespace Streaming

open TransitionSystem

/-- Whether a change of the published state is one of the lifecycle. -/
def EngineState.mayBecome : EngineState → EngineState → Bool
  | .stopped, .running => true
  | .running, .paused => true
  | .paused, .running => true
  | .running, .stopped => true
  | .paused, .stopped => true
  | s, s' => s = s'

/-- Whether a call is a stop that has published its state and has not returned. -/
def CallPhase.isStopping : CallPhase → Bool
  | .lockHandles => true
  | .join _ => true
  | _ => false

/-- Whether a call is a stop that waits for workers to exit. -/
def CallPhase.isJoining : CallPhase → Bool
  | .join _ => true
  | _ => false

/-- The lifecycle call that is about to publish its state. -/
def CallPhase.publishes : CallPhase → Option Lifecycle
  | .publish op => some op
  | _ => none

/-- Whether a call has returned. -/
def CallPhase.hasReturned : CallPhase → Bool
  | .returned _ => true
  | _ => false

namespace EngineRun

/-! ## Overlapping calls -/

/-- The lifecycle call that publishes its state in a step. -/
def Action.publishes (r : EngineRun) : Action → Option Lifecycle
  | .call i => r.calls[i]?.bind CallPhase.publishes
  | _ => none

/-- Whether a call may publish: a start, pause or resume only while no stop that has
published its state is still in progress, and a pause only over a state that is not
stopped. -/
def KeepsStopped (r : EngineRun) (op : Lifecycle) : Prop :=
  op ≠ .stop →
    (∀ phase ∈ r.calls, phase.isStopping = false) ∧
      (op = .pause → r.engine.state ≠ .stopped)

/-- The steps that do not overtake a stop. -/
def stopGuard (r : EngineRun) (action : Action) : Prop :=
  ∀ op ∈ action.publishes r, KeepsStopped r op

instance (r : EngineRun) (op : Lifecycle) : Decidable (KeepsStopped r op) :=
  inferInstanceAs (Decidable (_ → _))

instance (r : EngineRun) (action : Action) : Decidable (stopGuard r action) :=
  inferInstanceAs (Decidable (∀ op ∈ action.publishes r, KeepsStopped r op))

/-- As long as a stop is in progress the published state is stopped. -/
def StopsHold (r : EngineRun) : Prop :=
  ∀ phase ∈ r.calls, phase.isStopping = true → r.engine.state = .stopped

/-- A step that publishes nothing and begins no stop. -/
theorem StopsHold.of_call {r r' : EngineRun} (h : r.StopsHold) {i : Nat} {phase next : CallPhase}
    (hphase : r.calls[i]? = some phase) (hcalls : r'.calls = r.calls.set i next)
    (hnext : next.isStopping = true → phase.isStopping = true)
    (hstate : r'.engine.state = r.engine.state) : r'.StopsHold := by
  intro other hother hstopping
  rw [hcalls] at hother
  rw [hstate]
  rcases List.mem_or_eq_of_mem_set hother with hold | rfl
  · exact h other hold hstopping
  · exact h phase (List.mem_of_getElem? hphase) (hnext hstopping)

/-- A publication that does not overtake a stop is a change of the lifecycle. -/
theorem mayBecome_target {r : EngineRun} {op : Lifecycle} (h : KeepsStopped r op) :
    r.engine.state.mayBecome op.target = true := by
  cases hstate : r.engine.state with
  | stopped =>
      cases op with
      | pause => exact absurd hstate ((h (by decide)).2 rfl)
      | _ => rfl
  | _ => cases op <;> rfl

/-- A publication that does not overtake a stop keeps the state of a stop. -/
theorem StopsHold.publish {r : EngineRun} {op : Lifecycle} (i : Nat) (h : KeepsStopped r op) :
    ({ r with engine := r.engine.send op.target }.setCall i op.afterPublish).StopsHold := by
  have hothers : op ≠ .stop → op.afterPublish.isStopping = false →
      ∀ phase ∈ r.calls.set i op.afterPublish, phase.isStopping = false := by
    intro hop hafter
    exact TaskPool.forall_mem_set (h hop).1 hafter
  intro phase hphase hstopping
  cases op with
  | stop => rfl
  | start | pause | resume =>
      rw [hothers (by decide) rfl phase hphase] at hstopping
      contradiction

/-- Every step that does not overtake a stop is along the lifecycle and keeps the state
of a stop. -/
theorem step_stopsHold {profile : BuildProfile} {r r' : EngineRun} {action : Action}
    (h : r.StopsHold) (hstep : restrict stopGuard (step profile) r action = some r') :
    r'.StopsHold ∧ r.engine.state.mayBecome r'.engine.state = true := by
  rcases restrict_eq_some.mp hstep with ⟨hguard, hmove⟩
  have hsame : ∀ s : EngineState, s.mayBecome s = true := by
    intro s
    cases s <;> rfl
  rcases step_eq_some.mp hmove with ⟨call, -, rfl⟩ | ⟨i, phase, rfl, hphase, hcall⟩ |
    ⟨w, x, -, hx, hworker⟩ | ⟨w, x, outcome, -, hx, hattempt⟩
  · refine ⟨?_, hsame _⟩
    intro phase hphase hstopping
    rcases List.mem_append.mp hphase with hold | hnew
    · exact h phase hold hstopping
    · rw [List.mem_singleton.mp hnew] at hstopping
      cases call <;> contradiction
  · cases callMove hcall with
    | publish op heq =>
        have hkeeps : KeepsStopped r op := by
          refine hguard op ?_
          rw [Action.publishes, hphase, heq]
          rfl
        exact ⟨.publish i hkeeps, mayBecome_target hkeeps⟩
    | refuse op error heq => exact ⟨h.of_call hphase rfl (fun hs => by cases hs) rfl, hsame _⟩
    | pass op heq => exact ⟨h.of_call hphase rfl (fun hs => by cases hs) rfl, hsame _⟩
    | spawn heq => exact ⟨h.of_call hphase rfl (fun hs => by cases hs) rfl, hsame _⟩
    | lockHandles heq =>
        exact ⟨h.of_call hphase rfl (fun _ => heq ▸ rfl) rfl, hsame _⟩
    | join handle rest heq =>
        exact ⟨h.of_call hphase rfl (fun _ => heq ▸ rfl) rfl, hsame _⟩
    | joined heq => exact ⟨h.of_call hphase rfl (fun hs => by cases hs) rfl, hsame _⟩
    | accept p q heq => exact ⟨h.of_call hphase rfl (fun hs => by cases hs) rfl, hsame _⟩
    | drain p q drained heq => exact ⟨h.of_call hphase rfl (fun hs => by cases hs) rfl, hsame _⟩
    | other e next hdelivery hnot hnext =>
        have hfalse : next.isStopping = false := by
          cases next with
          | lockHandles => contradiction
          | join handles => contradiction
          | _ => rfl
        refine ⟨h.of_call hphase rfl (fun hs => ?_) hdelivery.state, ?_⟩
        · rw [hfalse] at hs
          contradiction
        · change r.engine.state.mayBecome e.state = true
          rw [hdelivery.state]
          exact hsame _
  · have hkeep : r'.calls = r.calls ∧ r'.engine.state = r.engine.state := by
      cases workerMove hworker <;> exact ⟨rfl, rfl⟩
    rw [StopsHold, hkeep.1, hkeep.2]
    exact ⟨h, hsame _⟩
  · have hkeep : r'.calls = r.calls ∧ r'.engine.state = r.engine.state := by
      cases attemptMove hattempt <;> exact ⟨rfl, rfl⟩
    rw [StopsHold, hkeep.1, hkeep.2]
    exact ⟨h, hsame _⟩

/-- In every run in which no call overtakes a stop, every change of the published state
is one of the lifecycle, and the state is stopped whenever a stop waits for workers. -/
theorem lifecycle_changes {profile : BuildProfile} {engine : StreamingEngine}
    {actions : List Action} {r : EngineRun}
    (hrun : run (restrict stopGuard (step profile)) (initial engine) actions = some r) :
    (∀ phase ∈ r.calls, phase.isJoining = true → r.engine.state = .stopped) ∧
      ∀ action r', restrict stopGuard (step profile) r action = some r' →
        r.engine.state.mayBecome r'.engine.state = true := by
  have hinitial : (initial engine).StopsHold := by
    intro phase hphase
    contradiction
  have hholds : r.StopsHold :=
    run_invariant StopsHold (fun _ _ _ h hstep => (step_stopsHold h hstep).1) hinitial hrun
  refine ⟨?_, fun action r' hstep => (step_stopsHold hholds hstep).2⟩
  intro phase hphase hjoining
  refine hholds phase hphase ?_
  cases phase with
  | join handles => rfl
  | _ => contradiction

/-- A start, a pause and a resume, and a stop that begins to wait. -/
def stopWaitsActions : List Action :=
  startActions ++ (lifecycleActions 1 .pause 2 ++
    (lifecycleActions 2 .resume 2 ++ lifecycleActions 3 .stop 3))

/-- A stop of a resumed engine waits while the published state is stopped. -/
theorem lifecycle_changes_stop_waits :
    ∃ r, run (restrict stopGuard (step ⟨true⟩)) (initial (StreamingEngine.ofConfig .default))
        stopWaitsActions = some r ∧
      CallPhase.join [0, 1] ∈ r.calls ∧ r.engine.state = .stopped := by
  have hrun : (run (restrict stopGuard (step ⟨true⟩))
      (initial (StreamingEngine.ofConfig .default)) stopWaitsActions).any
      (fun r => decide (CallPhase.join [0, 1] ∈ r.calls)) = true := by
    decide +kernel
  rcases exists_of_any hrun with ⟨r, hr, hwaits⟩
  exact ⟨r, hr, hwaits, (lifecycle_changes hr).1 _ hwaits rfl⟩

/-- A pause that reads a running engine, and a stop of it that returns before the pause
publishes. -/
def pauseAfterStopActions : List Action :=
  startActions ++ (lifecycleActions 1 .pause 1 ++ (lifecycleActions 2 .stop 3 ++
    (workerActions 0 1 ++ (workerActions 1 1 ++ List.replicate 3 (Action.call 2)))))

/-- A start that publishes while a stop waits for the workers. -/
def startOverStopActions : List Action :=
  startActions ++ (lifecycleActions 1 .stop 3 ++ lifecycleActions 2 .start 2)

/-- A pause makes a stopped engine paused, and a start makes an engine running that a
stop still waits for. -/
theorem calls_overtake_stop :
    (∃ r r', run (step ⟨true⟩) (initial (StreamingEngine.ofConfig .default))
        pauseAfterStopActions = some r ∧ step ⟨true⟩ r (.call 1) = some r' ∧
      r.engine.state = .stopped ∧ r'.engine.state = .paused) ∧
    ∃ r, run (step ⟨true⟩) (initial (StreamingEngine.ofConfig .default))
        startOverStopActions = some r ∧
      CallPhase.join [0, 1] ∈ r.calls ∧ r.engine.state = .running := by
  constructor
  · have hrun : (run (step ⟨true⟩) (initial (StreamingEngine.ofConfig .default))
        pauseAfterStopActions).any (fun r => decide (r.engine.state = .stopped ∧
          (step ⟨true⟩ r (.call 1)).any (fun r' => decide (r'.engine.state = .paused)) =
            true)) = true := by
      decide +kernel
    rcases exists_of_any hrun with ⟨r, hr, hstopped, hstep⟩
    rcases exists_of_any hstep with ⟨r', hr', hpaused⟩
    exact ⟨r, r', hr, hr', hstopped, hpaused⟩
  · refine exists_of_any ?_
    decide +kernel

end EngineRun
end Streaming
end EchoSync
