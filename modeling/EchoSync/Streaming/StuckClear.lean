import EchoSync.Streaming.QueueMoves
import EchoSync.Streaming.Schedules

/-!
# Streaming Engine - Clears behind an idle consumer

A dequeue keeps the lock of the receiver while it waits for a packet.  A clear that
comes to the lock of an empty queue then waits for a packet that nobody has to send.
That happens in two ways only: the clear comes while a dequeue already waits, or a
dequeue takes the lock of the empty queue before the clear does.

Main results:

- Theorem {lit}`step_clearStuck_iff`: one step gets a clear stuck in these two ways.
- Theorem {lit}`clear_never_stuck_iff`: no clear is stuck in any state of a run exactly
  when no step of the run is one of them.
-/

namespace EchoSync
namespace Streaming
namespace EngineRun

open TransitionSystem GuardedChannel

/-- A clear waits for the lock of a receiver that a dequeue holds while it waits itself
for a packet of the empty channel. -/
def ClearStuck (r : EngineRun) : Prop :=
  (.clearOutboundLock ∈ r.calls ∧
      IdleHeld r.engine.outboundQueue.guarded r.outboundStance) ∨
    (.clearInboundLock ∈ r.calls ∧ IdleHeld r.engine.inboundQueue.guarded r.inboundStance)

/-! ## The steps that get a clear stuck -/

/-- A clear is called, and comes to the outbound queue. -/
def BringsOutboundClear (action : Action) : Prop :=
  action = .invoke .clear

/-- A clear has drained the outbound queue, and comes to the inbound queue. -/
def BringsInboundClear (r : EngineRun) (action : Action) : Prop :=
  ∃ i drained, action = .call i ∧ r.calls[i]? = some (.clearOutbound drained) ∧
    r.engine.outboundQueue.channel = []

/-- A worker takes the free lock of the empty outbound queue. -/
def TakesIdleOutbound (r : EngineRun) (action : Action) : Prop :=
  ∃ w x, action = .worker w ∧ r.workers[w]? = some x ∧
    x.phase = .pollDequeue .waitingForLock ∧ r.engine.outboundQueue.receiverLock = none ∧
    r.engine.outboundQueue.channel = []

/-- A playback dequeue takes the lock of the empty inbound queue. -/
def TakesIdleInbound (r : EngineRun) (action : Action) : Prop :=
  ∃ i, action = .call i ∧ r.calls[i]? = some (.dequeue .waitingForLock) ∧
    r.engine.inboundQueue.channel = []

/-- No clear comes to a queue behind a dequeue that waits on an empty channel, and no
dequeue takes the lock of an empty queue while a clear is about to. -/
structure KeepsClearsFree (r : EngineRun) (action : Action) : Prop where
  outbound : BringsOutboundClear action →
    ¬ IdleHeld r.engine.outboundQueue.guarded r.outboundStance
  inbound : r.BringsInboundClear action →
    ¬ IdleHeld r.engine.inboundQueue.guarded r.inboundStance
  worker : r.TakesIdleOutbound action → .clearOutboundLock ∉ r.calls
  consumer : r.TakesIdleInbound action → .clearInboundLock ∉ r.calls

/-- Whether a call drains the outbound queue. -/
def drainsOutbound : CallPhase → Bool
  | .clearOutbound _ => true
  | _ => false

theorem drainsOutbound_iff {phase : CallPhase} :
    drainsOutbound phase = true ↔ ∃ drained, phase = .clearOutbound drained := by
  cases phase <;> simp [drainsOutbound]

section Decidable

variable (r : EngineRun) (action : Action)

instance : Decidable (BringsOutboundClear action) :=
  inferInstanceAs (Decidable (action = _))

instance : Decidable (r.BringsInboundClear action) :=
  match action with
  | .call i =>
      decidable_of_iff (∃ phase ∈ r.calls[i]?, drainsOutbound phase = true ∧
          r.engine.outboundQueue.channel = [])
        (by
          simp only [BringsInboundClear, drainsOutbound_iff, Option.mem_def]
          constructor
          · rintro ⟨phase, hphase, ⟨drained, rfl⟩, hempty⟩
            exact ⟨i, drained, rfl, hphase, hempty⟩
          · rintro ⟨j, drained, haction, hphase, hempty⟩
            cases haction
            exact ⟨_, hphase, ⟨drained, rfl⟩, hempty⟩)
  | .invoke _ | .worker _ | .attempt _ _ => isFalse (by simp [BringsInboundClear])

instance : Decidable (r.TakesIdleOutbound action) :=
  match action with
  | .worker w =>
      decidable_of_iff (∃ x ∈ r.workers[w]?, x.phase = .pollDequeue .waitingForLock ∧
          r.engine.outboundQueue.receiverLock = none ∧ r.engine.outboundQueue.channel = [])
        (by simp [TakesIdleOutbound])
  | .invoke _ | .call _ | .attempt _ _ => isFalse (by simp [TakesIdleOutbound])

instance : Decidable (r.TakesIdleInbound action) :=
  match action with
  | .call i =>
      decidable_of_iff (r.calls[i]? = some (.dequeue .waitingForLock) ∧
          r.engine.inboundQueue.channel = [])
        (by simp [TakesIdleInbound])
  | .invoke _ | .worker _ | .attempt _ _ => isFalse (by simp [TakesIdleInbound])

instance : Decidable (r.KeepsClearsFree action) :=
  decidable_of_iff (_ ∧ _ ∧ _ ∧ _)
    ⟨fun ⟨houtbound, hinbound, hworker, hconsumer⟩ => ⟨houtbound, hinbound, hworker, hconsumer⟩,
      fun h => ⟨h.outbound, h.inbound, h.worker, h.consumer⟩⟩

end Decidable

section Steps

variable {profile : BuildProfile} {r r' : EngineRun} {action : Action}

/-- A call never comes back to the lock of the outbound queue. -/
theorem clearOutboundLock_mem (hstep : step profile r action = some r')
    (hmem : .clearOutboundLock ∈ r'.calls) :
    .clearOutboundLock ∈ r.calls ∨ BringsOutboundClear action := by
  rcases stepQueues hstep with ⟨call, rfl, rfl⟩ | ⟨i, phase, next, -, hphase, hqueues⟩ |
    ⟨w, x, x', -, hx, hqueues⟩
  · rcases List.mem_append.mp hmem with hold | hnew
    · exact Or.inl hold
    · right
      cases call with
      | clear => rfl
      | _ => simp [EngineCall.entry] at hnew
  · rw [hqueues.calls] at hmem
    rcases List.mem_or_eq_of_mem_set hmem with hold | rfl
    · exact Or.inl hold
    · exact absurd rfl (hqueues.follows.entered .clear)
  · exact Or.inl (hqueues.calls ▸ hmem)

/-- A clear comes to the lock of the inbound queue from the outbound queue. -/
theorem clearInboundLock_mem (hstep : step profile r action = some r')
    (hmem : .clearInboundLock ∈ r'.calls) :
    .clearInboundLock ∈ r.calls ∨ r.BringsInboundClear action := by
  rcases stepQueues hstep with ⟨call, rfl, rfl⟩ | ⟨i, phase, next, rfl, hphase, hqueues⟩ |
    ⟨w, x, x', -, hx, hqueues⟩
  · rcases List.mem_append.mp hmem with hold | hnew
    · exact Or.inl hold
    · cases call <;> simp [EngineCall.entry] at hnew
  · rw [hqueues.calls] at hmem
    rcases List.mem_or_eq_of_mem_set hmem with hold | heq
    · exact Or.inl hold
    · rcases hqueues.follows.clears.mp heq.symm with ⟨⟨drained, rfl⟩, hempty⟩
      exact Or.inr ⟨i, drained, rfl, hphase, hempty⟩
  · exact Or.inl (hqueues.calls ▸ hmem)

/-- The outbound receiver is held idle only by a worker that takes its lock. -/
theorem outbound_idleHeld (h : r.QueuesOwned) (hstep : step profile r action = some r')
    (hidle : IdleHeld r'.engine.outboundQueue.guarded r'.outboundStance) :
    IdleHeld r.engine.outboundQueue.guarded r.outboundStance ∨ r.TakesIdleOutbound action := by
  rcases stepQueues hstep with ⟨call, -, rfl⟩ | ⟨i, phase, next, rfl, hphase, hqueues⟩ |
    ⟨w, x, x', haction, hx, hqueues⟩
  · rw [(stance_invoke r call).1] at hidle
    exact Or.inl hidle
  · rcases outboundStance_call hphase hqueues with ⟨hstance, hupdate⟩
    rw [hupdate] at hidle
    rcases idleHeld_of_move h.outbound (hstance ▸ hqueues.outbound) hidle with
      hold | ⟨-, -, hawaiting⟩
    · exact Or.inl hold
    · -- no call waits for an outbound packet
      cases next <;> contradiction
  · rcases outboundStance_worker hx hqueues with ⟨hstance, hupdate⟩
    rw [hupdate] at hidle
    rcases idleHeld_of_move h.outbound (hstance ▸ hqueues.outbound) hidle with
      hold | ⟨hempty, haway, hawaiting⟩
    · exact Or.inl hold
    · rw [hstance] at haway
      rcases (hqueues.awaits haway).mp hawaiting with ⟨hphase, hfree⟩
      rcases haction with rfl | hne
      · exact Or.inr ⟨w, x, rfl, hx, hphase, hfree, hempty⟩
      · exact absurd hphase hne

/-- The inbound receiver is held idle only by a playback dequeue that takes its lock. -/
theorem inbound_idleHeld (h : r.QueuesOwned) (hstep : step profile r action = some r')
    (hidle : IdleHeld r'.engine.inboundQueue.guarded r'.inboundStance) :
    IdleHeld r.engine.inboundQueue.guarded r.inboundStance ∨ r.TakesIdleInbound action := by
  rcases stepQueues hstep with ⟨call, -, rfl⟩ | ⟨i, phase, next, rfl, hphase, hqueues⟩ |
    ⟨w, x, x', -, hx, hqueues⟩
  · rw [(stance_invoke r call).2] at hidle
    exact Or.inl hidle
  · rcases inboundStance_call hphase hqueues with ⟨hstance, hupdate⟩
    rw [hupdate] at hidle
    rcases idleHeld_of_move h.inbound (hstance ▸ hqueues.inbound) hidle with
      hold | ⟨hempty, -, hawaiting⟩
    · exact Or.inl hold
    · have hnext : next = .dequeue .waitingForPacket := by
        cases next with
        | dequeue waiting => cases waiting <;> trivial
        | _ => contradiction
      rw [hqueues.follows.awaits.mp hnext] at hphase
      exact Or.inr ⟨i, rfl, hphase, hempty⟩
  · rw [inboundStance_worker hqueues, hqueues.inbound] at hidle
    exact Or.inl hidle

/-- A worker that takes the lock of the empty outbound queue holds it idle. -/
theorem TakesIdleOutbound.idleHeld (h : r.TakesIdleOutbound action)
    (hstep : step profile r action = some r') :
    r'.calls = r.calls ∧ IdleHeld r'.engine.outboundQueue.guarded r'.outboundStance := by
  rcases h with ⟨w, x, rfl, hx, hphase, hfree, hempty⟩
  have hworker : r.stepWorker profile w x = some r' := by simpa [step, hx] using hstep
  rcases workerQueues hworker with ⟨x', hqueues⟩
  rcases outboundStance_worker hx hqueues with ⟨hstance, hupdate⟩
  have haway : x.phase.stance = .away := by
    rw [hphase]
    rfl
  refine ⟨hqueues.calls, ?_⟩
  rw [hupdate]
  exact idleHeld_acquire (hstance ▸ hqueues.outbound) (hstance.trans haway) hempty
    ((hqueues.awaits haway).mpr ⟨hphase, hfree⟩)

/-- A playback dequeue that takes the lock of the empty inbound queue holds it idle. -/
theorem TakesIdleInbound.idleHeld (h : r.TakesIdleInbound action)
    (hmem : .clearInboundLock ∈ r.calls) (hstep : step profile r action = some r') :
    .clearInboundLock ∈ r'.calls ∧
      IdleHeld r'.engine.inboundQueue.guarded r'.inboundStance := by
  rcases h with ⟨i, rfl, hphase, hempty⟩
  have hcall : r.stepCall i (.dequeue .waitingForLock) = some r' := by
    simpa [step, hphase] using hstep
  rcases callQueues hcall with ⟨next, hqueues⟩
  have hnext : next = .dequeue .waitingForPacket := hqueues.follows.awaits.mpr rfl
  rcases inboundStance_call hphase hqueues with ⟨hstance, hupdate⟩
  constructor
  · rw [hqueues.calls]
    exact TaskPool.mem_set_of_ne hphase hmem (by simp)
  · rw [hupdate]
    exact idleHeld_acquire (hstance ▸ hqueues.inbound) hstance hempty (hnext ▸ rfl)

/-- A step gets a clear stuck in the two ways, and in no other. -/
theorem step_clearStuck_iff (h : r.QueuesOwned) (hclear : ¬ r.ClearStuck)
    (hstep : step profile r action = some r') :
    ¬ r'.ClearStuck ↔ r.KeepsClearsFree action := by
  constructor
  · intro hfree
    refine ⟨?_, ?_, ?_, ?_⟩
    · rintro rfl hidle
      cases hstep
      refine hfree (Or.inl ⟨List.mem_append_right _ List.mem_cons_self, ?_⟩)
      rw [(stance_invoke r .clear).1]
      exact hidle
    · rintro ⟨i, drained, rfl, hphase, hempty⟩ hidle
      have hcall : r.stepCall i (.clearOutbound drained) = some r' := by
        simpa [step, hphase] using hstep
      rcases callQueues hcall with ⟨next, hqueues⟩
      have hnext : next = .clearInboundLock :=
        hqueues.follows.clears.mpr ⟨⟨drained, rfl⟩, hempty⟩
      subst hnext
      rcases inboundStance_call hphase hqueues with ⟨hstance, hupdate⟩
      refine hfree (Or.inr ⟨?_, ?_⟩)
      · rw [hqueues.calls]
        exact List.mem_set (List.getElem?_eq_some_iff.mp hphase).1 _
      · have hsame := eq_of_move_away hqueues.inbound rfl rfl (by simp)
        have hself : CallPhase.clearInboundLock.inboundStance = r.inboundStance (.call i) :=
          hstance.symm
        rw [hupdate, hself, Function.update_eq_self, hsame]
        exact hidle
    · intro htakes hmem
      rcases htakes.idleHeld hstep with ⟨hcalls, hidle⟩
      exact hfree (Or.inl ⟨hcalls ▸ hmem, hidle⟩)
    · intro htakes hmem
      exact hfree (Or.inr (htakes.idleHeld hmem hstep))
  · rintro hkeeps (⟨hmem, hidle⟩ | ⟨hmem, hidle⟩)
    · rcases clearOutboundLock_mem hstep hmem with hold | hbrings
      · rcases outbound_idleHeld h hstep hidle with hheld | htakes
        · exact hclear (Or.inl ⟨hold, hheld⟩)
        · exact hkeeps.worker htakes hold
      · rcases outbound_idleHeld h hstep hidle with hheld | ⟨w, x, haction, -⟩
        · exact hkeeps.outbound hbrings hheld
        · rw [hbrings] at haction
          contradiction
    · rcases clearInboundLock_mem hstep hmem with hold | hbrings
      · rcases inbound_idleHeld h hstep hidle with hheld | htakes
        · exact hclear (Or.inr ⟨hold, hheld⟩)
        · exact hkeeps.consumer htakes hold
      · rcases inbound_idleHeld h hstep hidle with hheld | ⟨i, haction, hphase, -⟩
        · exact hkeeps.inbound hbrings hheld
        · rcases hbrings with ⟨j, drained, haction', hphase', -⟩
          rw [haction, Action.call.injEq] at haction'
          subst haction'
          rw [hphase] at hphase'
          cases hphase'

/-- In every run on an engine, for any workers and consumers: no clear is stuck behind an
idle consumer in any state of the run exactly when no clear comes to a queue behind a
dequeue that waits on an empty channel, and no dequeue takes the lock of an empty queue
while a clear is about to. -/
theorem clear_never_stuck_iff {engine : StreamingEngine} {actions : List Action}
    (hrun : run (step profile) (initial engine) actions = some r) :
    (∀ before s, before <+: actions → run (step profile) (initial engine) before = some s →
        ¬ s.ClearStuck) ↔
      ∀ before action s, before ++ [action] <+: actions →
        run (step profile) (initial engine) before = some s → s.KeepsClearsFree action := by
  have hfree : ¬ (initial engine).ClearStuck := by
    rintro (⟨hmem, -⟩ | ⟨hmem, -⟩) <;> contradiction
  exact run_forall_iff QueuesOwned (fun s => ¬ s.ClearStuck) KeepsClearsFree
    (fun _ _ _ h hstep => step_owned h hstep)
    (fun _ _ _ h hclear hstep => step_clearStuck_iff h hclear hstep)
    (initial_owned engine) hfree hrun

end Steps

/-- A worker takes a packet, a consumer takes another one, and the empty queues are cleared. -/
def drainedActions : List Action :=
  startActions ++ enqueueActions 1 (makePacket 1 1 0) ++ takeActions 0 ++
    (.invoke (.receivePacket (makePacket 2 2 0)) :: List.replicate 4 (.call 2)) ++
    (.invoke .dequeue :: List.replicate 3 (.call 3)) ++
    (.invoke .clear :: List.replicate 4 (.call 4))

/-- A clear that comes when no dequeue waits is not stuck. -/
theorem clear_never_stuck_drained :
    ∃ r, run (step { overflowChecks := true })
        (initial (StreamingEngine.ofConfig StreamingConfig.default)) drainedActions = some r ∧
      r.calls[4]? = some (.returned (.ok none)) ∧
      ∀ before s, before <+: drainedActions →
        run (step { overflowChecks := true })
          (initial (StreamingEngine.ofConfig StreamingConfig.default)) before = some s →
        ¬ s.ClearStuck := by
  have hrun : ∃ r, run (step { overflowChecks := true })
      (initial (StreamingEngine.ofConfig StreamingConfig.default)) drainedActions = some r ∧
        r.calls[4]? = some (.returned (.ok none)) :=
    exists_of_any (by decide +kernel)
  have hfree : RunMeets KeepsClearsFree (step { overflowChecks := true })
      (initial (StreamingEngine.ofConfig StreamingConfig.default)) drainedActions := by
    decide +kernel
  rcases hrun with ⟨r, hr, hreturned⟩
  refine ⟨r, hr, hreturned, ?_⟩
  exact (clear_never_stuck_iff hr).mpr fun _ _ _ hwithin hs => hfree.forall_prefix hwithin hs

/-- Start an engine, and let a worker wait for a packet. -/
def waitActions : List Action :=
  startActions ++ workerActions 0 6

/-- A clear that is called on a started engine waits behind a worker that waits for a
packet of the empty queue. -/
theorem clear_stuck_behind_worker :
    ∃ r, run (step { overflowChecks := true })
        (initial (StreamingEngine.ofConfig StreamingConfig.default))
        (waitActions ++ ([.invoke .clear] : List Action)) = some r ∧ r.ClearStuck := by
  have hrun : ∃ r, run (step { overflowChecks := true })
      (initial (StreamingEngine.ofConfig StreamingConfig.default))
      (waitActions ++ ([.invoke .clear] : List Action)) = some r ∧
        .clearOutboundLock ∈ r.calls ∧ r.engine.outboundQueue.channel = [] ∧
        r.engine.outboundQueue.receiverLock = some (.worker 0) ∧
        r.outboundStance (.worker 0) = .awaiting :=
    exists_of_any (by decide +kernel)
  rcases hrun with ⟨r, hr, hmem, hempty, hlock, hstance⟩
  exact ⟨r, hr, Or.inl ⟨hmem, hempty, .worker 0, hlock, hstance⟩⟩

end EngineRun
end Streaming
end EchoSync
