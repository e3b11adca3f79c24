import EchoSync.Streaming.Lifecycle
import EchoSync.Streaming.PacketLedger

/-!
# Streaming Engine - Delivery while paused

A worker polls the change of the published state and the next packet one after the
other.  A pause that publishes between the two is not seen before the worker has
taken a packet, however late that packet was enqueued.

Main results:

- Theorem {lit}`step_knowsState`: a worker that has seen the last change polls for
  packets only in a running engine.
- Theorem {lit}`paused_forwards_nothing`: until the engine is running again, no packet
  enqueued after a pause is forwarded, if no worker takes such a packet before it has
  seen the pause.
- Theorem {lit}`polled_forwards`: a worker that takes a packet can forward it in any
  state.
-/

namespace EchoSync
namespace Streaming

open TransitionSystem

/-- Whether a worker is in its select. -/
def WorkerPhase.selects : WorkerPhase → Bool
  | .select _ => true
  | .pollDequeue _ => true
  | _ => false

namespace EngineRun

/-! ## What the workers know -/

/-- What a worker knows of the published state: it has seen no version that does not
exist, and in the select with the current version the engine is running. -/
structure Knows (e : StreamingEngine) (x : Worker) : Prop where
  seen_le : x.seen ≤ e.version
  running : x.phase.selects = true → x.seen = e.version → e.state = .running

/-- Every worker knows the state as of the version that it has seen. -/
def KnowsState (r : EngineRun) : Prop :=
  ∀ x ∈ r.workers, Knows r.engine x

theorem Knows.of_same {e e' : StreamingEngine} {x : Worker} (h : Knows e x)
    (hstate : e'.state = e.state) (hversion : e'.version = e.version) : Knows e' x := by
  constructor
  · rw [hversion]
    exact h.seen_le
  · rw [hstate, hversion]
    exact h.running

/-- A worker outside its select. -/
theorem Knows.outside {e : StreamingEngine} {phase : WorkerPhase} {seen : Nat}
    (hseen : seen ≤ e.version) (hphase : phase.selects = false) :
    Knows e { phase, seen } := by
  refine ⟨hseen, ?_⟩
  intro hselects
  exact absurd (hphase.symm.trans hselects) Bool.noConfusion

/-- A publication is a change that no worker has seen. -/
theorem Knows.send {e : StreamingEngine} {x : Worker} (h : Knows e x) (state : EngineState) :
    Knows (e.send state) x := by
  refine ⟨Nat.le_succ_of_le h.seen_le, ?_⟩
  intro _ hseen
  have hle : x.seen ≤ e.version := h.seen_le
  rw [hseen] at hle
  exact absurd hle (Nat.not_succ_le_self _)

theorem beginAttempt_selects (profile : BuildProfile) (p : Ticketed) (n : U32) :
    (beginAttempt profile p n).selects = false := by
  unfold beginAttempt
  split
  · rfl
  · rfl

theorem beginDelivery_selects (profile : BuildProfile) (config : StreamingConfig)
    (p : Ticketed) : (beginDelivery profile config p).selects = false := by
  unfold beginDelivery
  split
  · exact beginAttempt_selects profile p _
  · rfl

/-- Every step keeps the knowledge of the workers. -/
theorem step_knowsState {profile : BuildProfile} {r r' : EngineRun} {action : Action}
    (h : r.KnowsState) (hstep : step profile r action = some r') : r'.KnowsState := by
  rcases step_eq_some.mp hstep with ⟨call, -, rfl⟩ | ⟨i, phase, -, -, hcall⟩ |
    ⟨w, x, -, hx, hworker⟩ | ⟨w, x, outcome, -, hx, hattempt⟩
  · exact h
  · cases callMove hcall with
    | publish op => exact fun x hx => (h x hx).send _
    | spawn =>
        intro x hx
        rcases List.mem_append.mp hx with hold | hnew
        · exact (h x hold).of_same rfl rfl
        · rw [List.eq_of_mem_replicate hnew]
          exact Knows.outside (Nat.zero_le _) rfl
    | other e next hsame => exact fun x hx => (h x hx).of_same hsame.state hsame.version
    | _ => exact fun x hx => (h x hx).of_same rfl rfl
  · have hknows : Knows r.engine x := h x (List.mem_of_getElem? hx)
    have hset : ∀ {e : StreamingEngine} {y : Worker}, e.state = r.engine.state →
        e.version = r.engine.version → Knows r.engine y →
        ∀ z ∈ r.workers.set w y, Knows e z :=
      fun hstate hversion hy z hz =>
        (TaskPool.forall_mem_set h hy z hz).of_same hstate hversion
    cases workerMove hworker with
    | enter hphase hstate => exact hset rfl rfl ⟨hknows.seen_le, fun _ _ => hstate⟩
    | pending dequeue hphase hseen =>
        exact hset rfl rfl ⟨hknows.seen_le, fun _ => hknows.running (hphase ▸ rfl)⟩
    | acquire q hphase =>
        exact hset rfl rfl ⟨hknows.seen_le, fun _ => hknows.running (hphase ▸ rfl)⟩
    | park dequeue hphase =>
        exact hset rfl rfl ⟨hknows.seen_le, fun _ => hknows.running (hphase ▸ rfl)⟩
    | wake | notice => exact hset rfl rfl (.outside le_rfl rfl)
    | deliver p q =>
        exact hset rfl rfl (.outside hknows.seen_le (beginDelivery_selects profile _ p))
    | retry p n =>
        exact hset rfl rfl (.outside hknows.seen_le (beginAttempt_selects profile p n))
    | exit | pause | take p q | countSent | countFailed p =>
        exact hset rfl rfl (.outside hknows.seen_le rfl)
  · have hknows : Knows r.engine x := h x (List.mem_of_getElem? hx)
    cases attemptMove hattempt with
    | sent p n | giveUp p n | again p n =>
        exact TaskPool.forall_mem_set h (.outside hknows.seen_le rfl)

/-! ## Delivery after a pause -/

/-- A worker that has not seen the last change of the published state takes only packets
enqueued by one of so many first calls. -/
def TakesOld (calls : Nat) (r : EngineRun) : Action → Prop
  | .worker w =>
      ∀ x ∈ r.workers[w]?, x.phase = .pollDequeue .waitingForPacket →
        x.seen ≠ r.engine.version → ∀ p ∈ r.engine.outboundQueue.channel.head?, p.caller < calls
  | _ => True

instance (calls : Nat) (r : EngineRun) (action : Action) : Decidable (TakesOld calls r action) :=
  match action with
  | .invoke _ => inferInstanceAs (Decidable True)
  | .call _ => inferInstanceAs (Decidable True)
  | .worker w =>
      inferInstanceAs (Decidable (∀ x ∈ r.workers[w]?, x.phase = .pollDequeue .waitingForPacket →
        x.seen ≠ r.engine.version → ∀ p ∈ r.engine.outboundQueue.channel.head?,
          p.caller < calls))
  | .attempt _ _ => inferInstanceAs (Decidable True)

/-- The steps that do not make the engine running. -/
def notRunning (r : EngineRun) (action : Action) : Prop :=
  ∀ op ∈ action.publishes r, op.target ≠ .running

instance (r : EngineRun) (action : Action) : Decidable (notRunning r action) :=
  inferInstanceAs (Decidable (∀ op ∈ action.publishes r, op.target ≠ .running))

/-- The steps that neither make the engine running nor take a new packet unaware of the
last change. -/
def pausedGuard (calls : Nat) (r : EngineRun) (action : Action) : Prop :=
  notRunning r action ∧ TakesOld calls r action

instance (calls : Nat) (r : EngineRun) (action : Action) :
    Decidable (pausedGuard calls r action) :=
  inferInstanceAs (Decidable (_ ∧ _))

/-- In an engine that is not running, every packet that a worker holds or has forwarded
was enqueued by one of so many first calls. -/
structure ForwardsOld (calls : Nat) (r : EngineRun) : Prop where
  knows : r.KnowsState
  notRunning : r.engine.state ≠ .running
  held : ∀ x ∈ r.workers, ∀ p ∈ x.phase.held, p.caller < calls
  transport : ∀ p ∈ r.transport, p.caller < calls

/-- A guarded step of a worker leaves it with an old packet. -/
theorem workerMove_held {profile : BuildProfile} {calls : Nat} {r r' : EngineRun} {w : Nat}
    {x : Worker} (h : r.ForwardsOld calls) (hguard : TakesOld calls r (.worker w))
    (hx : r.workers[w]? = some x) (hmove : WorkerMove profile r w x r') :
    ∀ y ∈ r'.workers, ∀ p ∈ y.phase.held, p.caller < calls := by
  have hmem : x ∈ r.workers := List.mem_of_getElem? hx
  have hold : ∀ {phase : WorkerPhase} {p : Ticketed}, x.phase.held = some p →
      ((phase.held = some p ∧ phase.lost = none) ∨
        (phase.held = none ∧ phase.lost = some p)) →
      ∀ q ∈ phase.held, q.caller < calls := by
    rintro phase p hheld (⟨hkeep, -⟩ | ⟨hnone, -⟩) q hq
    · rw [hkeep] at hq
      exact h.held x hmem q (hheld.trans hq)
    · rw [hnone] at hq
      contradiction
  cases hmove with
  | take p q hphase hchannel =>
      have hseen : x.seen ≠ r.engine.version := by
        intro hseen
        exact h.notRunning ((h.knows x hmem).running (hphase ▸ rfl) hseen)
      have hcaller : p.caller < calls :=
        hguard x hx hphase hseen p (by rw [hchannel]; rfl)
      refine TaskPool.forall_mem_set h.held ?_
      intro q hq
      exact Option.some.inj hq ▸ hcaller
  | deliver p q hphase =>
      exact TaskPool.forall_mem_set h.held
        (hold (hphase ▸ rfl) (beginDelivery_held profile r.engine.config p))
  | retry p n hphase =>
      exact TaskPool.forall_mem_set h.held (hold (hphase ▸ rfl) (beginAttempt_held profile p n))
  | enter | exit | pause | wake | pending | notice | acquire | park | countSent
  | countFailed p =>
      exact TaskPool.forall_mem_set h.held (fun q hq => by contradiction)

/-- Every guarded step forwards no new packet. -/
theorem step_forwardsOld {profile : BuildProfile} {calls : Nat} {r r' : EngineRun}
    {action : Action} (h : r.ForwardsOld calls)
    (hstep : restrict (pausedGuard calls) (step profile) r action = some r') :
    r'.ForwardsOld calls := by
  rcases restrict_eq_some.mp hstep with ⟨⟨hquiet, hold⟩, hmove⟩
  have hknows := step_knowsState h.knows hmove
  rcases step_eq_some.mp hmove with ⟨call, -, rfl⟩ | ⟨i, phase, rfl, hphase, hcall⟩ |
    ⟨w, x, rfl, hx, hworker⟩ | ⟨w, x, outcome, -, hx, hattempt⟩
  · exact ⟨hknows, h.notRunning, h.held, h.transport⟩
  · cases callMove hcall with
    | publish op heq =>
        refine ⟨hknows, hquiet op ?_, h.held, h.transport⟩
        rw [Action.publishes, hphase, heq]
        rfl
    | spawn =>
        refine ⟨hknows, h.notRunning, ?_, h.transport⟩
        intro x hx
        rcases List.mem_append.mp hx with hmem | hnew
        · exact h.held x hmem
        · rw [List.eq_of_mem_replicate hnew]
          exact fun p hp => by contradiction
    | other e next hsame =>
        refine ⟨hknows, ?_, h.held, h.transport⟩
        change e.state ≠ .running
        rw [hsame.state]
        exact h.notRunning
    | _ => exact ⟨hknows, h.notRunning, h.held, h.transport⟩
  · have hkeep : r'.engine.state = r.engine.state ∧ r'.transport = r.transport := by
      cases workerMove hworker <;> exact ⟨rfl, rfl⟩
    exact ⟨hknows, hkeep.1 ▸ h.notRunning, workerMove_held h hold hx (workerMove hworker),
      hkeep.2 ▸ h.transport⟩
  · have hheld := h.held x (List.mem_of_getElem? hx)
    cases attemptMove hattempt with
    | sent p n hphase =>
        refine ⟨hknows, h.notRunning,
          TaskPool.forall_mem_set h.held (fun q hq => by contradiction), ?_⟩
        intro q hq
        rcases List.mem_append.mp hq with hmem | hnew
        · exact h.transport q hmem
        · rw [List.mem_singleton.mp hnew]
          exact hheld p (hphase ▸ rfl)
    | giveUp p n hphase | again p n hphase =>
        exact ⟨hknows, h.notRunning,
          TaskPool.forall_mem_set h.held (fun q hq => hheld q (hphase ▸ hq)), h.transport⟩

/-- A worker that polls a packet can forward it, whatever the published state is, unless
the number of attempts overflows. -/
theorem polled_forwards {profile : BuildProfile} {r : EngineRun} {w : Nat} {x : Worker}
    {p : Ticketed} {rest : List Ticketed}
    (hfits : ¬ AttemptsOverflow profile r.engine.config) (hx : r.workers[w]? = some x)
    (hphase : x.phase = .pollDequeue .waitingForPacket)
    (hchannel : r.engine.outboundQueue.channel = p :: rest) :
    ∃ r', run (step profile) r [.worker w, .worker w, .attempt w .sent] = some r' ∧
      r'.engine.state = r.engine.state ∧ r'.transport = r.transport ++ [p] := by
  rcases beginDelivery_sound hfits p with ⟨n, hn⟩
  refine ⟨{ (r.setOutbound { r.engine.outboundQueue with
      channel := rest
      receiverLock := none
      length := r.engine.outboundQueue.length - U64.wrap 1 }).setWorker w
    { x with phase := .countSent } with transport := r.transport ++ [p] }, ?_, rfl, rfl⟩
  simp [run, step, stepWorker, stepAttempt, hx, hphase, hchannel, hn, PacketQueue.recv,
    PacketQueue.countTaken, PacketQueue.unlock, setWorker, setOutbound, List.getElem?_set_self']

/-- Whatever a worker holds or has forwarded was enqueued by a call that was made. -/
theorem OutboundInvariant.forwardsOld {r : EngineRun} (h : r.OutboundInvariant)
    (hknows : r.KnowsState) (hstate : r.engine.state ≠ .running) :
    r.ForwardsOld r.calls.length := by
  refine ⟨hknows, hstate, ?_, ?_⟩
  · intro x hx p hp
    have hheld : p ∈ r.held := List.mem_filterMap.mpr ⟨x, hx, hp⟩
    refine h.callers p (h.balanced.mem_accepted ?_)
    simp only [Ledger.gone, Multiset.mem_add]
    exact Or.inl (Or.inl (Or.inl (Or.inl hheld)))
  · intro p hp
    refine h.callers p (h.balanced.mem_accepted ?_)
    simp only [Ledger.gone, Multiset.mem_add]
    exact Or.inl (Or.inl (Or.inl (Or.inr hp)))

/-- In every run in which a pause returns, and afterwards nothing makes the engine
running and no worker takes a packet enqueued after the pause before it has seen a
change of the state, the packets forwarded were all enqueued by calls begun before. -/
theorem paused_forwards_nothing {profile : BuildProfile} {config : StreamingConfig}
    {engine : StreamingEngine} {before after : List Action} {i : Nat} {r₀ r₁ r₂ : EngineRun}
    (hnew : StreamingEngine.new config = .ok engine)
    (hbefore : run (step profile) (initial engine) before = some r₀)
    (hpause : r₀.calls[i]? = some (.publish .pause))
    (hreturn : step profile r₀ (.call i) = some r₁)
    (hafter : run (restrict (pausedGuard r₁.calls.length) (step profile)) r₁ after = some r₂) :
    ∀ p ∈ r₂.transport, p.caller < r₁.calls.length := by
  have hengine := StreamingEngine.new_eq_ok hnew
  subst hengine
  have hinv : r₁.OutboundInvariant :=
    run_invariant OutboundInvariant (fun _ _ _ h hstep => step_outboundInvariant h hstep)
      (initial_outboundInvariant config) (run_concat hbefore hreturn)
  have hknows : r₁.KnowsState :=
    run_invariant KnowsState (fun _ _ _ h hstep => step_knowsState h hstep)
      (fun x hx => by contradiction) (run_concat hbefore hreturn)
  have hpaused : r₁.engine.state ≠ .running := by
    rw [step, hpause] at hreturn
    rw [← Option.some.inj hreturn]
    exact EngineState.noConfusion
  have hholds : r₂.ForwardsOld r₁.calls.length :=
    run_invariant (ForwardsOld r₁.calls.length) (fun _ _ _ h hstep => step_forwardsOld h hstep)
      (hinv.forwardsOld hknows hpaused) hafter
  exact hholds.transport

/-- A started engine whose first worker has found the change of the state pending, a
packet enqueued by then, and a pause that is about to publish. -/
def pauseBehindActions : List Action :=
  startActions ++ (workerActions 0 5 ++
    (enqueueActions 1 firstPacket.packet ++ lifecycleActions 2 .pause 1))

/-- The worker forwards the packet, and a second packet is enqueued. -/
def forwardBehindActions : List Action :=
  workerActions 0 2 ++ (([.attempt 0 .sent] : List Action) ++
    (enqueueActions 3 secondPacket.packet ++ workerActions 1 3))

/-- The packet enqueued before a pause is forwarded after it, and no other. -/
theorem paused_forwards_nothing_new :
    ∃ r₀ r₁ r₂, run (step ⟨true⟩) (initial (StreamingEngine.ofConfig .default))
        pauseBehindActions = some r₀ ∧
      step ⟨true⟩ r₀ (.call 2) = some r₁ ∧
      run (restrict (pausedGuard r₁.calls.length) (step ⟨true⟩)) r₁ forwardBehindActions =
        some r₂ ∧
      r₂.accepted.length = 2 ∧ r₂.transport.length = 1 ∧
      ∀ p ∈ r₂.transport, p.caller < r₁.calls.length := by
  have hrun : (run (step ⟨true⟩) (initial (StreamingEngine.ofConfig .default))
      pauseBehindActions).any (fun r₀ => decide (r₀.calls[2]? = some (.publish .pause) ∧
        (step ⟨true⟩ r₀ (.call 2)).any (fun r₁ => decide (
          (run (restrict (pausedGuard r₁.calls.length) (step ⟨true⟩)) r₁
            forwardBehindActions).any (fun r₂ => decide (r₂.accepted.length = 2 ∧
              r₂.transport.length = 1)) = true)) = true)) = true := by
    decide +kernel
  rcases exists_of_any hrun with ⟨r₀, hr₀, hpause, hrest⟩
  rcases exists_of_any hrest with ⟨r₁, hr₁, hafter⟩
  rcases exists_of_any hafter with ⟨r₂, hr₂, haccepted, htransport⟩
  have hnew : StreamingEngine.new .default = .ok (StreamingEngine.ofConfig .default) := by decide
  exact ⟨r₀, r₁, r₂, hr₀, hr₁, hr₂, haccepted, htransport,
    paused_forwards_nothing hnew hr₀ hpause hr₁ hr₂⟩

/-- A started engine whose first worker has found the change of the state pending, and a
pause that is about to publish. -/
def pauseUnseenActions : List Action :=
  startActions ++ (workerActions 0 5 ++ lifecycleActions 1 .pause 1)

/-- A packet is enqueued, and the worker takes and forwards it. -/
def forwardUnseenActions : List Action :=
  enqueueActions 2 firstPacket.packet ++ (workerActions 0 2 ++ ([.attempt 0 .sent] : List Action))

/-- A packet whose enqueue begins after a pause has returned is forwarded while the
engine is paused. -/
theorem unseen_pause_forwards :
    ∃ r₀ r₁ r₂, run (step ⟨true⟩) (initial (StreamingEngine.ofConfig .default))
        pauseUnseenActions = some r₀ ∧
      r₀.calls[1]? = some (.publish .pause) ∧ step ⟨true⟩ r₀ (.call 1) = some r₁ ∧
      run (restrict notRunning (step ⟨true⟩)) r₁ forwardUnseenActions = some r₂ ∧
      r₂.engine.state = .paused ∧ ∃ p ∈ r₂.transport, r₁.calls.length ≤ p.caller := by
  have hrun : (run (step ⟨true⟩) (initial (StreamingEngine.ofConfig .default))
      pauseUnseenActions).any (fun r₀ => decide (r₀.calls[1]? = some (.publish .pause) ∧
        (step ⟨true⟩ r₀ (.call 1)).any (fun r₁ => decide (
          (run (restrict notRunning (step ⟨true⟩)) r₁ forwardUnseenActions).any
            (fun r₂ => decide (r₂.engine.state = .paused ∧
              ∃ p ∈ r₂.transport, r₁.calls.length ≤ p.caller)) = true)) = true)) = true := by
    decide +kernel
  rcases exists_of_any hrun with ⟨r₀, hr₀, hpause, hrest⟩
  rcases exists_of_any hrest with ⟨r₁, hr₁, hafter⟩
  rcases exists_of_any hafter with ⟨r₂, hr₂, hpaused, hforwarded⟩
  exact ⟨r₀, r₁, r₂, hr₀, hpause, hr₁, hr₂, hpaused, hforwarded⟩

end EngineRun
end Streaming
end EchoSync
