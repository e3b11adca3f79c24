import EchoSync.Streaming.PacketLedger

/-!
# Streaming Engine - The order of the outbound packets

One worker hands the packets to the transport in the order in which they were
accepted.  Several workers take packets off the channel in that order, and race to
deliver them.

Main results:

- Theorem {lit}`transport_in_order_iff`: after one start, the packets reach the
  transport in order in every run, exactly if there is one worker, or every delivery
  panics.
- Theorem {lit}`second_worker_overtakes`: with the production defaults, a packet
  overtakes an earlier one.
-/

namespace EchoSync
namespace Streaming

open TransitionSystem

/-- Whether a call is a start that has not spawned its workers. -/
def CallPhase.startPending : CallPhase → Bool
  | .check .start => true
  | .publish .start => true
  | .spawn => true
  | _ => false

/-- Whether a worker is between the first and the last attempt to send. -/
def WorkerPhase.delivers : WorkerPhase → Bool
  | .attempting _ _ => true
  | .backoff _ _ => true
  | _ => false

namespace EngineRun

/-- The steps of a started engine that is paused and resumed while packets are
enqueued. -/
def Action.isStreaming : Action → Bool
  | .invoke (.enqueue _) => true
  | .invoke (.lifecycle .pause) => true
  | .invoke (.lifecycle .resume) => true
  | .invoke _ => false
  | _ => true

/-! ## One batch of workers -/

/-- One start has spawned its workers, or may still spawn them. -/
def OneBatch (r : EngineRun) : Prop :=
  (r.workers = [] ∧ r.calls.countP CallPhase.startPending ≤ 1) ∨
    (r.workers.length = max r.engine.config.workerCount 1 ∧
      r.calls.countP CallPhase.startPending = 0)

theorem startPending_of_not_inLifecycle {phase : CallPhase} (h : phase.inLifecycle = false) :
    phase.startPending = false := by
  cases phase with
  | check op => contradiction
  | publish op => contradiction
  | spawn => contradiction
  | _ => rfl

/-- A call that moves on without spawning and without becoming a start. -/
theorem OneBatch.of_call {r r' : EngineRun} (h : r.OneBatch) {i : Nat} {phase next : CallPhase}
    (hphase : r.calls[i]? = some phase) (hcalls : r'.calls = r.calls.set i next)
    (hnext : next.startPending = true → phase.startPending = true)
    (hworkers : r'.workers = r.workers) (hconfig : r'.engine.config = r.engine.config) :
    r'.OneBatch := by
  have hcount := TaskPool.countP_set_add CallPhase.startPending (y := next) hphase
  have hle : (next.startPending).toNat ≤ (phase.startPending).toNat :=
    Bool.toNat_le_toNat (Bool.le_iff_imp.mpr hnext)
  unfold OneBatch at h ⊢
  rw [hworkers, hcalls, hconfig]
  rcases h with ⟨hempty, hone⟩ | ⟨hlength, hzero⟩
  · exact Or.inl ⟨hempty, by omega⟩
  · exact Or.inr ⟨hlength, by omega⟩

theorem callMove_oneBatch {r r' : EngineRun} {i : Nat} {phase : CallPhase} (h : r.OneBatch)
    (hphase : r.calls[i]? = some phase) (hmove : CallMove r i phase r') : r'.OneBatch := by
  cases hmove with
  | spawn heq =>
      have hcount := TaskPool.countP_set_add CallPhase.startPending (y := .returned (.ok none))
        hphase
      rw [heq] at hcount
      have hpending : (CallPhase.spawn.startPending).toNat = 1 := rfl
      have hreturned : ((CallPhase.returned (.ok none)).startPending).toNat = 0 := rfl
      rw [hpending, hreturned] at hcount
      rcases h with ⟨hempty, hone⟩ | ⟨-, hzero⟩
      · refine Or.inr ⟨?_, ?_⟩
        · simp [spawnWorkers, hempty]
        · change (r.calls.set i (.returned (.ok none))).countP CallPhase.startPending = 0
          omega
      · omega
  | pass op heq =>
      refine h.of_call hphase rfl ?_ rfl rfl
      cases op <;> simp [heq, CallPhase.startPending]
  | publish op heq =>
      refine h.of_call hphase rfl ?_ rfl rfl
      cases op <;> simp [heq, CallPhase.startPending, Lifecycle.afterPublish]
  | other e next hsame hnot hnext =>
      refine h.of_call hphase rfl ?_ rfl hsame.config
      rw [startPending_of_not_inLifecycle hnext]
      intro hpending
      contradiction
  | _ => exact h.of_call hphase rfl (fun hpending => by cases hpending) rfl rfl

/-- Without a second start, no second batch of workers is spawned. -/
theorem step_oneBatch {profile : BuildProfile} {r r' : EngineRun} {action : Action}
    (haction : action.isStreaming = true) (h : r.OneBatch)
    (hstep : step profile r action = some r') : r'.OneBatch := by
  rcases step_eq_some.mp hstep with ⟨call, rfl, rfl⟩ | ⟨i, phase, -, hphase, hcall⟩ |
    ⟨w, x, -, hx, hworker⟩ | ⟨w, x, outcome, -, hx, hattempt⟩
  · have hentry : call.entry.startPending = false := by
      cases call with
      | lifecycle op =>
          cases op with
          | start => contradiction
          | _ => rfl
      | _ => rfl
    unfold OneBatch at h ⊢
    simpa [List.countP_append, hentry] using h
  · exact callMove_oneBatch h hphase (callMove hcall)
  · have hsame : r'.calls = r.calls ∧ r'.workers.length = r.workers.length ∧
        r'.engine.config = r.engine.config := by
      cases workerMove hworker <;> exact ⟨rfl, List.length_set, rfl⟩
    unfold OneBatch at h ⊢
    rw [← List.length_eq_zero_iff] at h ⊢
    rwa [hsame.1, hsame.2.1, hsame.2.2]
  · have hsame : r'.calls = r.calls ∧ r'.workers.length = r.workers.length ∧
        r'.engine.config = r.engine.config := by
      cases attemptMove hattempt <;> exact ⟨rfl, List.length_set, rfl⟩
    unfold OneBatch at h ⊢
    rw [← List.length_eq_zero_iff] at h ⊢
    rwa [hsame.1, hsame.2.1, hsame.2.2]

/-! ## One worker -/

/-- With at most one worker, every step keeps the packets in order. -/
theorem step_inOrder {profile : BuildProfile} {r r' : EngineRun} {action : Action}
    (hone : r'.workers.length ≤ 1) (h : r.ledger.InOrder)
    (hstep : step profile r action = some r') : r'.ledger.InOrder := by
  rcases step_ledger hstep with hmove | hsame
  · refine hmove.inOrder ?_ h
    have hheld : r'.held.length ≤ r'.workers.length := List.length_filterMap_le _ _
    exact hheld.trans hone
  · rw [hsame]
    exact h

/-! ## Panicking workers -/

/-- If every delivery panics, nothing reaches the transport. -/
theorem step_nothing_sent {profile : BuildProfile} {r r' : EngineRun} {action : Action}
    (hoverflow : AttemptsOverflow profile r.engine.config)
    (h : r.transport = [] ∧ ∀ x ∈ r.workers, x.phase.delivers = false)
    (hstep : step profile r action = some r') :
    r'.transport = [] ∧ ∀ x ∈ r'.workers, x.phase.delivers = false := by
  rcases h with ⟨hnothing, hworkers⟩
  rcases step_eq_some.mp hstep with ⟨call, -, rfl⟩ | ⟨i, phase, -, -, hcall⟩ |
    ⟨w, x, -, hx, hworker⟩ | ⟨w, x, outcome, -, hx, hattempt⟩
  · exact ⟨hnothing, hworkers⟩
  · cases callMove hcall with
    | spawn =>
        refine ⟨hnothing, ?_⟩
        intro x hx
        rcases List.mem_append.mp hx with hold | hnew
        · exact hworkers x hold
        · rw [List.eq_of_mem_replicate hnew]
          rfl
    | _ => exact ⟨hnothing, hworkers⟩
  · have hidle := hworkers x (List.mem_of_getElem? hx)
    cases workerMove hworker with
    | deliver p q hphase =>
        refine ⟨hnothing, TaskPool.forall_mem_set hworkers ?_⟩
        rw [beginDelivery_overflow hoverflow]
        rfl
    | retry p n hphase =>
        rw [hphase] at hidle
        contradiction
    | _ => exact ⟨hnothing, TaskPool.forall_mem_set hworkers rfl⟩
  · have hidle := hworkers x (List.mem_of_getElem? hx)
    cases attemptMove hattempt with
    | sent p n hphase | giveUp p n hphase | again p n hphase =>
        rw [hphase] at hidle
        contradiction

/-! ## Two workers -/

/-- A schedule of a new engine in which the second worker delivers first. -/
def overtakeActions : List Action :=
  startActions ++ (handActions 1 firstPacket.packet 0 ++
    (handActions 2 secondPacket.packet 1 ++ ([.attempt 1 .sent, .attempt 0 .sent] : List Action)))

/-- With two workers whose deliveries do not panic, a packet can overtake another. -/
theorem exists_overtaken {profile : BuildProfile} {config : StreamingConfig}
    (hworkers : 2 ≤ config.workerCount) (hfits : ¬ AttemptsOverflow profile config) :
    ∃ r, run (step profile) (initial (StreamingEngine.ofConfig config)) overtakeActions =
        some r ∧ r.transport.map Ticketed.ticket = [1, 0] ∧
      r.accepted.map Ticketed.ticket = [0, 1] := by
  have hlength : (started config).workers.length = max config.workerCount 1 :=
    List.length_replicate
  have hfresh : ∀ w < config.workerCount, (started config).workers[w]? = some Worker.spawned :=
    fun w hw => List.getElem?_replicate_of_lt (lt_of_lt_of_le hw (le_max_left _ _))
  rcases exists_taken profile (started_idle config) (hfresh 0 (by omega)) firstPacket.packet with
    ⟨r₁, hrun₁, hidle₁, hconfig₁, hcalls₁, haccepted₁, htransport₁, -, -, seen₁, hworkers₁⟩
  have hfresh₁ : r₁.workers[1]? = some Worker.spawned := by
    rw [hworkers₁]
    exact (List.getElem?_set_ne Nat.zero_ne_one).trans (hfresh 1 (by omega))
  rcases exists_taken profile hidle₁ hfresh₁ secondPacket.packet with
    ⟨r₂, hrun₂, -, -, -, haccepted₂, htransport₂, -, -, seen₂, hworkers₂⟩
  rcases beginDelivery_sound hfits firstPacket with ⟨m, hm⟩
  rcases beginDelivery_sound hfits secondPacket with ⟨n, hn⟩
  have hsecond : r₂.workers[1]? = some
      { phase := .attempting secondPacket n, seen := seen₂ } := by
    rw [hworkers₂, haccepted₁, hcalls₁, hconfig₁, ← hn]
    refine List.getElem?_set_self ?_
    rw [hworkers₁, List.length_set, hlength]
    omega
  have hfirst : r₂.workers[0]? = some
      { phase := .attempting firstPacket m, seen := seen₁ } := by
    rw [hworkers₂, hworkers₁, ← hm]
    refine (List.getElem?_set_ne Nat.one_ne_zero).trans (List.getElem?_set_self ?_)
    rw [hlength]
    omega
  have hstill : ∀ y, (r₂.workers.set 1 y)[0]? = some
      { phase := .attempting firstPacket m, seen := seen₁ } :=
    fun _ => (List.getElem?_set_ne Nat.one_ne_zero).trans hfirst
  refine ⟨_, run_append_eq_some.mpr ⟨_, run_start profile config, run_append_eq_some.mpr
    ⟨_, hrun₁, run_append_eq_some.mpr ⟨r₂, ?_, run_cons_eq_some.mpr
      ⟨_, step_sent profile hsecond rfl, run_cons_eq_some.mpr
        ⟨_, step_sent profile (hstill _) rfl, rfl⟩⟩⟩⟩⟩, ?_, ?_⟩
  · rw [hcalls₁] at hrun₂
    exact hrun₂
  · simp [htransport₂, htransport₁, started, firstPacket, secondPacket]
  · simp [haccepted₂, haccepted₁, started]

/-! ## The order of the transport -/

/-- After one start, the packets of an engine that is paused and resumed reach the
transport in the order in which they were accepted, in every run, exactly if there is
at most one worker, or every delivery panics. -/
theorem transport_in_order_iff {profile : BuildProfile} {config : StreamingConfig}
    {engine : StreamingEngine} (hnew : StreamingEngine.new config = .ok engine) :
    (∀ actions r, (∀ action ∈ actions, action.isStreaming = true) →
      run (step profile) (initial engine) (.invoke (.lifecycle .start) :: actions) = some r →
      r.transport.Sublist r.accepted) ↔
      config.workerCount ≤ 1 ∨ AttemptsOverflow profile config := by
  have hengine := StreamingEngine.new_eq_ok hnew
  subst hengine
  constructor
  · intro horder
    by_contra hneither
    rw [not_or, not_le] at hneither
    rcases exists_overtaken hneither.1 hneither.2 with ⟨r, hrun, htransport, haccepted⟩
    have hsublist := (horder _ r (by decide) hrun).map Ticketed.ticket
    rw [htransport, haccepted] at hsublist
    revert hsublist
    decide
  · intro hcondition actions r hactions hrun
    rcases run_cons_eq_some.mp hrun with ⟨r₁, hstart, hrest⟩
    cases Option.some.inj hstart
    rcases hcondition with hone | hoverflow
    · have hinv : r.engine.config = config ∧ r.OneBatch ∧ r.ledger.InOrder := by
        refine run_invariant_of_labels (fun action => action.isStreaming = true)
          (fun r : EngineRun => r.engine.config = config ∧ r.OneBatch ∧ r.ledger.InOrder) ?_
          hactions ⟨rfl, Or.inl ⟨rfl, le_rfl⟩, none, rfl, List.Sublist.refl _⟩ hrest
        rintro r action r' haction ⟨hconfig, hbatch, horder⟩ hstep
        have hconfig' := (step_config hstep).trans hconfig
        have hbatch' := step_oneBatch haction hbatch hstep
        have hworkers : r'.workers.length ≤ 1 := by
          rcases hbatch' with ⟨hempty, -⟩ | ⟨hlength, -⟩
          · rw [hempty]
            exact Nat.zero_le 1
          · rw [hlength, hconfig']
            exact max_le hone le_rfl
        exact ⟨hconfig', hbatch', step_inOrder hworkers horder hstep⟩
      exact hinv.2.2.sent_sublist
    · have hinv : r.engine.config = config ∧
          r.transport = [] ∧ ∀ x ∈ r.workers, x.phase.delivers = false := by
        refine run_invariant (fun r : EngineRun => r.engine.config = config ∧
          r.transport = [] ∧ ∀ x ∈ r.workers, x.phase.delivers = false) ?_
          ⟨rfl, rfl, by simp [initial]⟩ hrest
        rintro r action r' ⟨hconfig, hnothing⟩ hstep
        exact ⟨(step_config hstep).trans hconfig,
          step_nothing_sent (hconfig ▸ hoverflow) hnothing hstep⟩
      rw [hinv.2.1]
      exact List.nil_sublist _

/-- A schedule of one worker after the call of a start: the first attempt to send the
first packet times out, and the second packet is enqueued meanwhile. -/
def oneWorkerActions : List Action :=
  List.replicate 3 (Action.call 0) ++ (handActions 1 firstPacket.packet 0 ++
    (enqueueActions 2 secondPacket.packet ++
      (([.attempt 0 .timedOut, .worker 0, .attempt 0 .sent] : List Action) ++
        (workerActions 0 6 ++ ([.attempt 0 .sent] : List Action)))))

/-- One worker delivers both packets in order. -/
theorem transport_in_order_one_worker :
    ∃ r, run (step ⟨true⟩)
        (initial (StreamingEngine.ofConfig { StreamingConfig.default with workerCount := 1 }))
        (.invoke (.lifecycle .start) :: oneWorkerActions) = some r ∧
      r.transport.length = 2 ∧ r.transport.Sublist r.accepted := by
  have hrun : (run (step ⟨true⟩)
      (initial (StreamingEngine.ofConfig { StreamingConfig.default with workerCount := 1 }))
      (.invoke (.lifecycle .start) :: oneWorkerActions)).any
      (fun r => decide (r.transport.length = 2)) = true := by
    decide +kernel
  rcases exists_of_any hrun with ⟨r, hr, hlength⟩
  have hnew : StreamingEngine.new { StreamingConfig.default with workerCount := 1 } =
      .ok (StreamingEngine.ofConfig { StreamingConfig.default with workerCount := 1 }) := by
    decide
  have horder := (@transport_in_order_iff ⟨true⟩ _ _ hnew).mpr (Or.inl le_rfl)
  exact ⟨r, hr, hlength, horder _ r (by decide) hr⟩

/-- With the production defaults, the second packet reaches the transport first. -/
theorem second_worker_overtakes :
    ∃ r, run (step ⟨true⟩) (initial (StreamingEngine.ofConfig .default)) overtakeActions =
        some r ∧ ¬ r.transport.Sublist r.accepted := by
  refine exists_of_any ?_
  decide +kernel

end EngineRun
end Streaming
end EchoSync
