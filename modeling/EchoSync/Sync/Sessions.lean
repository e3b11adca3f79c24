import EchoSync.Foundations.TaskPool
import EchoSync.Foundations.TransitionSystem
import EchoSync.Sync.Correction

/-!
# Clock Synchronization Engine - Sessions of concurrent tasks

Any number of tasks call the clones of one synchronizer.  A call first accesses the
running flag and then executes its body under the lock; the two are separate steps, and
the steps of different calls interleave in any order.

A start that sets the flag begins a session.  Next to the synchronizer the state counts
the passes of the session, so that what the statistics count can be compared with it.

Main results:

- Theorem {lit}`uninterrupted_eq`: a call whose steps are not interrupted is the call of
  the sequential model.
- Theorem {lit}`run_bodies`: the runs of the clock manager cover all interleavings.
- Theorem {lit}`synchronizePass_passes`: a pass counts once, whether it succeeds or fails.
- Theorem {lit}`sessions_isolated_iff`: the sessions of a run are isolated exactly when no
  pass is on the wrong side of a reset.
-/

namespace EchoSync
namespace Sync

open TransitionSystem

/-- The passes that the statistics count. -/
def StatisticsTracker.passes (t : StatisticsTracker) : Nat :=
  t.successfulSyncs + t.failedSyncs

namespace ClockManager

theorem correctDrift_passes (c : ClockManager) :
    c.correctDrift.2.stats.passes = c.stats.passes := by
  unfold correctDrift
  split_ifs
  · rfl
  · dsimp only
    split_ifs <;> rfl

theorem measured_passes (c : ClockManager) (offsetMs : ℚ) (now : Instant) :
    (c.measured offsetMs now).stats.passes = c.stats.passes := by
  unfold measured
  rw [estimateDrift_frame]
  unfold applyOffset
  dsimp only
  split_ifs <;> rfl

/-- A pass counts once, whether it succeeds or fails. -/
theorem synchronizePass_passes (c : ClockManager) (hostTimestamp localTimestamp : Duration)
    (now : Instant) : (c.synchronizePass hostTimestamp localTimestamp now).2.stats.passes =
      c.stats.passes + 1 := by
  have hmove := passMove c hostTimestamp localTimestamp now
  generalize c.synchronizePass hostTimestamp localTimestamp now = pass at hmove
  cases hmove with
  | outOfRange hlt => rfl
  | drifting hle hdrift =>
      have hkept := measured_passes c (measuredOffset hostTimestamp localTimestamp) now
      rw [← hkept]
      rfl
  | corrected hle =>
      have hkept := (correctDrift_passes _).trans
        (measured_passes c (measuredOffset hostTimestamp localTimestamp) now)
      simp only [recordSuccess, StatisticsTracker.recordSuccess, StatisticsTracker.passes]
        at hkept ⊢
      omega

end ClockManager

/-- A call on a synchronizer. -/
inductive SyncCall where
  | start
  | stop
  | synchronize (hostTimestamp localTimestamp : Duration)
  | update

/-- Where a call is: before its access to the flag, before its body with the session in
which it accessed the flag, or ended. -/
inductive SyncPhase where
  | flag (call : SyncCall)
  | reset (session : Nat)
  | pass (hostTimestamp localTimestamp : Duration) (session : Nat)
  | correct
  | returned (result : Except SyncError Unit)

/-- A synchronizer, the calls made on it, the last reading of the clock, and the tally of
the session: the number of starts that have set the flag, whether the latest of them has
reset the clock, the completed passes that were admitted since it set the flag, how many of
these its reset has wiped, and the passes admitted before it that were applied after its
reset. -/
structure SyncTasks where
  synchronizer : Synchronizer
  calls : List SyncPhase
  clock : Instant
  session : Nat
  ownReset : Bool
  completed : Nat
  wiped : Nat
  foreign : Nat

namespace SyncTasks

/-- A synchronizer without calls. -/
def initial (s : Synchronizer) (clock : Instant) : SyncTasks where
  synchronizer := s
  calls := []
  clock := clock
  session := 0
  ownReset := false
  completed := 0
  wiped := 0
  foreign := 0

/-- A call goes on to its next phase. -/
def setCall (r : SyncTasks) (i : Nat) (phase : SyncPhase) : SyncTasks :=
  { r with calls := r.calls.set i phase }

/-- The flag is set, and a session begins. -/
def beginSession (r : SyncTasks) : SyncTasks :=
  { r with
    synchronizer := { r.synchronizer with running := true }
    session := r.session + 1
    ownReset := false
    completed := 0
    wiped := 0
    foreign := 0 }

/-- The reset of the start that began a session. -/
def resetClock (r : SyncTasks) (session : Nat) (now : Instant) : SyncTasks :=
  let r' := { r with
    synchronizer := { r.synchronizer with inner := r.synchronizer.inner.reset now } }
  if session = r.session then { r' with ownReset := true, wiped := r.completed, foreign := 0 }
  else r'

/-- The body of a pass that was admitted in a session. -/
def applyPass (r : SyncTasks) (hostTimestamp localTimestamp : Duration) (session : Nat)
    (now : Instant) : SyncTasks :=
  let pass := r.synchronizer.inner.synchronizePass hostTimestamp localTimestamp now
  { r with
    synchronizer := { r.synchronizer with inner := pass.2 }
    completed := if session = r.session then r.completed + 1 else r.completed
    foreign := if session ≠ r.session ∧ r.ownReset = true then r.foreign + 1 else r.foreign }

/-- The next step of a call in this phase. -/
def stepCall (r : SyncTasks) (i : Nat) (now : Instant) : SyncPhase → Option SyncTasks
  | .flag .start =>
      if r.synchronizer.running then some (r.setCall i (.returned (.error .alreadyStarted)))
      else some (r.beginSession.setCall i (.reset (r.session + 1)))
  | .flag .stop =>
      let stopped := r.synchronizer.stop
      some ({ r with synchronizer := stopped.2 }.setCall i (.returned stopped.1))
  | .flag (.synchronize hostTimestamp localTimestamp) =>
      if r.synchronizer.running then
        some (r.setCall i (.pass hostTimestamp localTimestamp r.session))
      else some (r.setCall i (.returned (.error .notStarted)))
  | .flag .update =>
      if r.synchronizer.running then some (r.setCall i .correct)
      else some (r.setCall i (.returned (.error .notStarted)))
  | .reset session => some ((r.resetClock session now).setCall i (.returned (.ok ())))
  | .pass hostTimestamp localTimestamp session =>
      some ((r.applyPass hostTimestamp localTimestamp session now).setCall i
        (.returned (r.synchronizer.inner.synchronizePass hostTimestamp localTimestamp now).1))
  | .correct =>
      some ({ r with synchronizer :=
        { r.synchronizer with inner := r.synchronizer.inner.correctDrift.2 } }.setCall i
          (.returned (.ok ())))
  | .returned _ => none

/-- One step of a run: a task begins a call, or a call makes its next step at this reading
of the clock, which never goes back. -/
inductive Action where
  | invoke (call : SyncCall)
  | call (index : Nat) (now : Instant)

/-- Make one step. -/
def step (r : SyncTasks) : Action → Option SyncTasks
  | .invoke call => some { r with calls := r.calls ++ [.flag call] }
  | .call i now =>
      if r.clock ≤ now then
        r.calls[i]?.bind fun phase =>
          (r.stepCall i now phase).map fun r' => { r' with clock := now }
      else none

/-- A step begins a call or makes the next step of one call. -/
theorem step_eq_some {r r' : SyncTasks} {action : Action} :
    step r action = some r' ↔
      (∃ call, action = .invoke call ∧ { r with calls := r.calls ++ [.flag call] } = r') ∨
      (∃ i now phase t, action = .call i now ∧ r.clock ≤ now ∧ r.calls[i]? = some phase ∧
        r.stepCall i now phase = some t ∧ { t with clock := now } = r') := by
  cases action with
  | invoke call => simp [step]
  | call i now => simp [step, Option.bind_eq_some_iff]

/-! ## Uninterrupted calls -/

/-- The state of the synchronizer and the answer after a call of the sequential model. -/
def perform (s : Synchronizer) (now : Instant) :
    SyncCall → Except SyncError Unit × Synchronizer
  | .start => s.start now
  | .stop => s.stop
  | .synchronize hostTimestamp localTimestamp => s.synchronize hostTimestamp localTimestamp now
  | .update => s.update

section Uninterrupted

variable {r t : SyncTasks} {i : Nat} {now : Instant} {phase phase' : SyncPhase}
  {s : Synchronizer} {result : Except SyncError Unit}

/-- Some steps of one call, not interrupted by others, end with this synchronizer and this
answer. -/
def Completes (r : SyncTasks) (i : Nat) (now : Instant) (s : Synchronizer)
    (result : Except SyncError Unit) : Prop :=
  ∃ count r', run step r (List.replicate count (.call i now)) = some r' ∧
    r'.synchronizer = s ∧ r'.calls[i]? = some (.returned result)

theorem setCall_phase (hphase : r.calls[i]? = some phase) (hcalls : t.calls = r.calls) :
    ({ t.setCall i phase' with clock := now } : SyncTasks).calls[i]? = some phase' := by
  have hlength := (List.getElem?_eq_some_iff.mp hphase).1
  simp [setCall, hcalls, List.getElem?_set_self hlength]

/-- A call completes if it does so after its next step. -/
theorem Completes.of_step (hphase : r.calls[i]? = some phase) (hclock : r.clock ≤ now)
    (hcall : r.stepCall i now phase = some (t.setCall i phase'))
    (hrest : Completes { t.setCall i phase' with clock := now } i now s result) :
    Completes r i now s result := by
  rcases hrest with ⟨count, r', hrun, hend⟩
  refine ⟨count + 1, r', ?_, hend⟩
  rw [List.replicate_succ, run_cons_eq_some]
  refine ⟨{ t.setCall i phase' with clock := now }, ?_, hrun⟩
  simp [step, hclock, hphase, hcall]

/-- A call completes with its last step. -/
theorem Completes.of_last (hphase : r.calls[i]? = some phase) (hclock : r.clock ≤ now)
    (hcall : r.stepCall i now phase = some (t.setCall i (.returned result)))
    (hcalls : t.calls = r.calls) (hs : t.synchronizer = s) : Completes r i now s result :=
  .of_step hphase hclock hcall ⟨0, _, rfl, hs, setCall_phase hphase hcalls⟩

theorem resetClock_frame (r : SyncTasks) (session : Nat) (now : Instant) :
    (r.resetClock session now).calls = r.calls ∧ (r.resetClock session now).synchronizer =
      { r.synchronizer with inner := r.synchronizer.inner.reset now } := by
  unfold resetClock
  dsimp only
  split_ifs
  · exact ⟨rfl, rfl⟩
  · exact ⟨rfl, rfl⟩

/-- A call that is refused at the flag. -/
theorem Completes.of_refused {e : SyncError} (hphase : r.calls[i]? = some phase)
    (hclock : r.clock ≤ now)
    (hcall : r.stepCall i now phase = some (r.setCall i (.returned (.error e)))) :
    Completes r i now r.synchronizer (.error e) :=
  .of_last hphase hclock hcall rfl rfl

/-- A call whose steps are not interrupted is the call of the sequential model. -/
theorem uninterrupted_eq {call : SyncCall} (hphase : r.calls[i]? = some (.flag call))
    (hclock : r.clock ≤ now) :
    Completes r i now (perform r.synchronizer now call).2 (perform r.synchronizer now call).1 := by
  cases hrunning : r.synchronizer.running with
  | false =>
      cases call with
      | start =>
          have hflag : r.stepCall i now (.flag .start) =
              some (r.beginSession.setCall i (.reset (r.session + 1))) := by
            simp [stepCall, hrunning]
          simp only [perform, Synchronizer.start, hrunning]
          apply Completes.of_step hphase hclock hflag
          have hframe := resetClock_frame { r.beginSession.setCall i (.reset (r.session + 1)) with
            clock := now } (r.session + 1) now
          exact .of_last (setCall_phase hphase rfl) le_rfl rfl hframe.1 hframe.2
      | stop =>
          simp only [perform, Synchronizer.stop, hrunning]
          exact .of_refused hphase hclock (by simp [stepCall, Synchronizer.stop, hrunning])
      | synchronize hostTimestamp localTimestamp =>
          simp only [perform, Synchronizer.synchronize, hrunning]
          exact .of_refused hphase hclock (by simp [stepCall, hrunning])
      | update =>
          simp only [perform, Synchronizer.update, hrunning]
          exact .of_refused hphase hclock (by simp [stepCall, hrunning])
  | true =>
      cases call with
      | start =>
          simp only [perform, Synchronizer.start, hrunning]
          exact .of_refused hphase hclock (by simp [stepCall, hrunning])
      | stop =>
          have hflag : r.stepCall i now (.flag .stop) = some ({ r with synchronizer :=
              { r.synchronizer with running := false } }.setCall i (.returned (.ok ()))) := by
            simp [stepCall, Synchronizer.stop, hrunning]
          simp only [perform, Synchronizer.stop, hrunning]
          exact .of_last hphase hclock hflag rfl rfl
      | synchronize hostTimestamp localTimestamp =>
          have hflag : r.stepCall i now (.flag (.synchronize hostTimestamp localTimestamp)) =
              some (r.setCall i (.pass hostTimestamp localTimestamp r.session)) := by
            simp [stepCall, hrunning]
          have hbody : SyncTasks.stepCall { r.setCall i (.pass hostTimestamp localTimestamp
              r.session) with clock := now } i now (.pass hostTimestamp localTimestamp
                r.session) = some _ := rfl
          rw [perform, Synchronizer.synchronize_of_running hrunning]
          apply Completes.of_step hphase hclock hflag
          exact .of_last (setCall_phase hphase rfl) le_rfl hbody rfl rfl
      | update =>
          have hflag : r.stepCall i now (.flag .update) = some (r.setCall i .correct) := by
            simp [stepCall, hrunning]
          have hbody : SyncTasks.stepCall { r.setCall i .correct with clock := now } i now
              .correct = some _ := rfl
          rw [perform, Synchronizer.update_of_running hrunning]
          apply Completes.of_step hphase hclock hflag
          exact .of_last (setCall_phase hphase rfl) le_rfl hbody rfl rfl

end Uninterrupted

/-! ## Bodies -/

/-- A step executes one body on the clock or none. -/
theorem step_inner {r r' : SyncTasks} {action : Action} (hstep : step r action = some r') :
    r'.synchronizer.inner = r.synchronizer.inner ∨
      ∃ call, r'.synchronizer.inner = r.synchronizer.inner.step call := by
  rcases step_eq_some.mp hstep with ⟨call, -, rfl⟩ | ⟨i, now, phase, t, -, -, -, hcall, rfl⟩
  · exact Or.inl rfl
  · cases phase with
    | flag call =>
        left
        cases call with
        | stop =>
            simp only [stepCall, Synchronizer.stop] at hcall
            split_ifs at hcall
            all_goals
              cases hcall
              rfl
        | _ =>
            simp only [stepCall] at hcall
            split_ifs at hcall
            all_goals
              cases hcall
              rfl
    | reset session =>
        right
        cases hcall
        refine ⟨.reset now, ?_⟩
        simp only [setCall, resetClock_frame]
        rfl
    | pass hostTimestamp localTimestamp session =>
        right
        cases hcall
        exact ⟨.synchronize hostTimestamp localTimestamp now, rfl⟩
    | correct =>
        right
        cases hcall
        exact ⟨.correctDrift, rfl⟩
    | returned result => contradiction

/-- The interleavings of any number of calls execute their bodies in some order: in every
run, the clock is the one after a list of bodies. -/
theorem run_bodies {created : Instant} {s : Synchronizer} {actions : List Action}
    {r : SyncTasks} (hrun : run step (initial s created) actions = some r) :
    ∃ calls : List ClockManager.ClockCall,
      r.synchronizer.inner = calls.foldl ClockManager.step s.inner := by
  refine run_invariant (fun r => ∃ calls : List ClockManager.ClockCall,
    r.synchronizer.inner = calls.foldl ClockManager.step s.inner) ?_ ⟨[], rfl⟩ hrun
  rintro r action r' ⟨calls, hcalls⟩ hstep
  rcases step_inner hstep with hsame | ⟨call, hbody⟩
  · exact ⟨calls, hsame.trans hcalls⟩
  · refine ⟨calls ++ [call], ?_⟩
    rw [hbody, hcalls, List.foldl_append, List.foldl_cons, List.foldl_nil]

/-! ## Isolation -/

/-- A start has returned, and no stop has taken back its flag. -/
def Settled (r : SyncTasks) : Prop :=
  r.synchronizer.running = true ∧ r.ownReset = true

instance (r : SyncTasks) : Decidable r.Settled :=
  inferInstanceAs (Decidable (_ ∧ _))

/-- In a settled session, the statistics count the completed passes that were admitted in
the session, its own reset has wiped none of these, and no pass admitted earlier was
applied. -/
structure Isolated (r : SyncTasks) : Prop where
  counted : r.Settled → r.synchronizer.inner.stats.passes = r.completed
  kept : r.Settled → r.wiped = 0
  own : r.Settled → r.foreign = 0

/-- A step on the right side of the resets.  The reset of the latest start finds no
completed pass that was admitted since, nor does the late reset of an earlier start once
the session is settled; and in a settled session, only its own passes are applied. -/
def Allows (r : SyncTasks) : Action → Prop
  | .invoke _ => True
  | .call i _ =>
      match r.calls[i]? with
      | some (.reset session) =>
          r.synchronizer.running = true → (r.ownReset = true ∨ session = r.session) →
            r.completed = 0
      | some (.pass _ _ session) => r.Settled → session = r.session
      | _ => True

instance (r : SyncTasks) : DecidablePred r.Allows
  | .invoke _ => isTrue trivial
  | .call i _ =>
      match h : r.calls[i]? with
      | some (.reset session) =>
          decidable_of_iff (r.synchronizer.running = true →
            (r.ownReset = true ∨ session = r.session) → r.completed = 0) (by simp [Allows, h])
      | some (.pass _ _ session) =>
          decidable_of_iff (r.Settled → session = r.session) (by simp [Allows, h])
      | some (.flag _) | some .correct | some (.returned _) | none =>
          isTrue (by simp [Allows, h])

theorem isolated_of_not_settled {r : SyncTasks} (h : ¬ r.Settled) : r.Isolated :=
  ⟨fun hsettled => absurd hsettled h, fun hsettled => absurd hsettled h,
    fun hsettled => absurd hsettled h⟩

theorem isolated_iff {r : SyncTasks} : r.Isolated ↔ (r.Settled →
    r.synchronizer.inner.stats.passes = r.completed ∧ r.wiped = 0 ∧ r.foreign = 0) :=
  ⟨fun h hsettled => ⟨h.counted hsettled, h.kept hsettled, h.own hsettled⟩,
    fun h => ⟨fun hs => (h hs).1, fun hs => (h hs).2.1, fun hs => (h hs).2.2⟩⟩

section Steps

variable {r r' : SyncTasks} {i : Nat} {now : Instant}

/-- A reset keeps the sessions isolated exactly when it finds no pass to wipe. -/
theorem reset_isolated_iff (h : r.Isolated) (session : Nat) :
    (r.resetClock session now).Isolated ↔
      (r.synchronizer.running = true → (r.ownReset = true ∨ session = r.session) →
        r.completed = 0) := by
  rw [isolated_iff] at h ⊢
  by_cases hsession : session = r.session
  · simp only [resetClock, hsession, Settled, if_true, and_true, or_true, true_implies]
    constructor
    · intro hreset hrunning
      exact (hreset hrunning).2
    · intro hnone hrunning
      exact ⟨(hnone hrunning).symm, hnone hrunning⟩
  · simp only [resetClock, hsession, Settled, if_false, or_false]
    constructor
    · intro hreset hrunning hown
      exact (hreset ⟨hrunning, hown⟩).1.symm
    · rintro hnone ⟨hrunning, hown⟩
      exact ⟨(hnone hrunning hown).symm, (h ⟨hrunning, hown⟩).2⟩

/-- A pass keeps the sessions isolated exactly when a settled session admitted it. -/
theorem pass_isolated_iff (h : r.Isolated) (hostTimestamp localTimestamp : Duration)
    (session : Nat) : (r.applyPass hostTimestamp localTimestamp session now).Isolated ↔
      (r.Settled → session = r.session) := by
  have hpasses := r.synchronizer.inner.synchronizePass_passes hostTimestamp localTimestamp now
  have hsettled : (r.applyPass hostTimestamp localTimestamp session now).Settled ↔ r.Settled :=
    Iff.rfl
  rw [isolated_iff, hsettled]
  by_cases hsession : session = r.session
  · simp only [hsession, implies_true, iff_true]
    intro hs
    simp [applyPass, hpasses, h.counted hs, h.kept hs, h.own hs]
  · simp only [hsession, imp_false]
    constructor
    · intro happlied hs
      have hforeign := (happlied hs).2.2
      simp [applyPass, hsession, hs.2] at hforeign
    · intro hnot hs
      exact absurd hs hnot

/-- The phases of the calls and the clock do not matter. -/
theorem setCall_isolated_iff (r : SyncTasks) (i : Nat) (phase : SyncPhase) (now : Instant) :
    ({ r.setCall i phase with clock := now } : SyncTasks).Isolated ↔ r.Isolated :=
  ⟨fun h => ⟨h.counted, h.kept, h.own⟩, fun h => ⟨h.counted, h.kept, h.own⟩⟩

/-- An access to the flag keeps the sessions isolated. -/
theorem flag_isolated {call : SyncCall} (h : r.Isolated)
    (hcall : r.stepCall i now (.flag call) = some r') : r'.Isolated := by
  cases call with
  | start =>
      simp only [stepCall] at hcall
      split_ifs at hcall
      · cases hcall
        exact ⟨h.counted, h.kept, h.own⟩
      · cases hcall
        apply isolated_of_not_settled
        simp [Settled, setCall, beginSession]
  | stop =>
      simp only [stepCall, Synchronizer.stop] at hcall
      split_ifs at hcall
      · cases hcall
        apply isolated_of_not_settled
        simp [Settled, setCall]
      · cases hcall
        exact ⟨h.counted, h.kept, h.own⟩
  | _ =>
      simp only [stepCall] at hcall
      split_ifs at hcall
      all_goals
        cases hcall
        exact ⟨h.counted, h.kept, h.own⟩

/-- A step keeps the sessions isolated exactly when it is on the right side of the
resets. -/
theorem step_isolated_iff {action : Action} (h : r.Isolated) (hstep : step r action = some r') :
    r'.Isolated ↔ r.Allows action := by
  rcases step_eq_some.mp hstep with ⟨call, rfl, rfl⟩ | ⟨i, now, phase, t, rfl, -, hphase, hcall,
    rfl⟩
  · exact ⟨fun _ => trivial, fun _ => ⟨h.counted, h.kept, h.own⟩⟩
  · simp only [Allows, hphase]
    cases phase with
    | flag call =>
        have hflag := flag_isolated h hcall
        exact iff_true_intro ⟨hflag.counted, hflag.kept, hflag.own⟩
    | reset session =>
        cases hcall
        rw [setCall_isolated_iff, reset_isolated_iff h]
    | pass hostTimestamp localTimestamp session =>
        cases hcall
        rw [setCall_isolated_iff, pass_isolated_iff h]
    | correct =>
        cases hcall
        rw [setCall_isolated_iff]
        refine iff_true_intro ⟨?_, h.kept, h.own⟩
        intro hs
        exact (ClockManager.correctDrift_passes _).trans (h.counted hs)
    | returned result => contradiction

end Steps

/-! ## Runs -/

/-- In every run of any number of calls on one synchronizer: the sessions are isolated in
every state exactly when every step is on the right side of the resets. -/
theorem sessions_isolated_iff {created : Instant} {s : Synchronizer} {actions : List Action}
    {r : SyncTasks} (hrun : run step (initial s created) actions = some r) :
    (∀ before m, before <+: actions → run step (initial s created) before = some m →
        m.Isolated) ↔
      ∀ before action m, before ++ [action] <+: actions →
        run step (initial s created) before = some m → m.Allows action := by
  have hstopped : ¬ (initial s created).Settled := by
    simp [Settled, initial]
  exact run_forall_iff (fun _ => True) Isolated Allows (fun _ _ _ _ _ => trivial)
    (fun _ _ _ _ h hstep => step_isolated_iff h hstep) trivial
    (isolated_of_not_settled hstopped) hrun

/-- A new synchronizer over the default configuration, created at the zero of the clock. -/
def atZero : SyncTasks :=
  initial (Synchronizer.ofConfig SyncConfig.default (Instant.ofMillis 0)) (Instant.ofMillis 0)

/-- The next step of a call at the zero of the clock. -/
def next (index : Nat) : Action :=
  .call index (Instant.ofMillis 0)

/-- A pass of one measurement. -/
def measure : SyncCall :=
  .synchronize (Duration.fromMillis 10) (Duration.fromMillis 0)

/-- A pass in a session, and one in the next session. -/
def ownPasses : List Action :=
  [.invoke .start, next 0, next 0, .invoke measure, next 1, next 1, .invoke .stop, next 2,
    .invoke .start, next 3, next 3, .invoke measure, next 4, next 4]

/-- Every step of this run is on the right side of the resets, so each session counts its
own pass. -/
theorem sessions_isolated_iff_own :
    ∃ r, run step atZero ownPasses = some r ∧ r.Settled ∧ r.session = 2 ∧ r.completed = 1 ∧
      ∀ before m, before <+: ownPasses → run step atZero before = some m → m.Isolated := by
  have hrun : ∃ r, run step atZero ownPasses = some r ∧
      (r.Settled ∧ r.session = 2 ∧ r.completed = 1) := exists_of_any (by decide +kernel)
  have hallowed : RunMeets Allows step atZero ownPasses := by decide +kernel
  rcases hrun with ⟨r, hr, hsettled, hsession, hcompleted⟩
  refine ⟨r, hr, hsettled, hsession, hcompleted, ?_⟩
  exact (sessions_isolated_iff hr).mpr fun _ _ _ hwithin hm => hallowed.forall_prefix hwithin hm

/-- A pass between the flag and the reset of a start. -/
def wipedPass : List Action :=
  [.invoke .start, next 0, .invoke measure, next 1, next 1, next 0]

/-- A pass that an earlier session admitted. -/
def foreignPass : List Action :=
  [.invoke .start, next 0, next 0, .invoke measure, next 1, .invoke .stop, next 2,
    .invoke .start, next 3, next 3, next 1]

/-- After a start has returned, the statistics miss a completed pass that its own reset has
wiped, or count one that an earlier session admitted. -/
theorem sessions_not_isolated :
    (∃ r, run step atZero wipedPass = some r ∧ r.Settled ∧ r.completed = 1 ∧ r.wiped = 1 ∧
      r.synchronizer.inner.stats.passes = 0) ∧
    ∃ r, run step atZero foreignPass = some r ∧ r.Settled ∧ r.completed = 0 ∧ r.foreign = 1 ∧
      r.synchronizer.inner.stats.passes = 1 := by
  constructor
  · refine exists_of_any ?_
    decide +kernel
  · refine exists_of_any ?_
    decide +kernel

end SyncTasks
end Sync
end EchoSync
