import EchoSync.Foundations.GuardedChannel
import EchoSync.Foundations.TaskPool
import EchoSync.Streaming.EngineMoves

/-!
# Streaming Engine - What a step does to the two queues

Both packet queues are channels whose receiver is behind a lock.  A worker takes
packets off the outbound queue, a playback dequeue takes them off the inbound queue,
and a clear drains both.  This file reads the steps of the engine as moves of the
tasks on the two channels.

Main results:

- Theorems {lit}`workerQueues` and {lit}`callQueues`: what one step of a worker and
  of a call does to the queues.
- Theorem {lit}`stepQueues`: what one step of a run does to them.
- Theorem {lit}`run_owned`: the lock of a receiver belongs to the only task that uses
  it.
-/

namespace EchoSync
namespace Streaming

open TransitionSystem GuardedChannel

/-- A packet queue as a guarded channel. -/
def PacketQueue.guarded {α : Type} (q : PacketQueue α) : GuardedChannel TaskId α where
  channel := q.channel
  lock := q.receiverLock

/-- What a worker does with the receiver of the outbound queue. -/
def WorkerPhase.stance : WorkerPhase → Stance
  | .select .waitingForPacket => .awaiting
  | .pollDequeue .waitingForPacket => .awaiting
  | .dequeued _ => .busy
  | _ => .away

/-- What a call does with the receiver of the outbound queue. -/
def CallPhase.outboundStance : CallPhase → Stance
  | .clearOutbound _ => .busy
  | _ => .away

/-- What a call does with the receiver of the inbound queue. -/
def CallPhase.inboundStance : CallPhase → Stance
  | .dequeue .waitingForPacket => .awaiting
  | .dequeued _ => .busy
  | .clearInbound _ => .busy
  | _ => .away

/-- Whether a phase is none of those that the calls come to in one way only. -/
def CallPhase.isPlain : CallPhase → Bool
  | .check _ | .enqueueCheck _ | .receiveCheck _ | .dequeue _ => false
  | .clearOutboundLock | .enqueueSend _ | .receiveSend _ | .clearInboundLock => false
  | _ => true

/-! ## The actions on one queue -/

namespace PacketQueue

variable {α : Type} {q q' : PacketQueue α} {task : TaskId}

theorem lock_eq_some (h : q.lock task = some q') :
    q.receiverLock = none ∧ q'.guarded = { q.guarded with lock := some task } := by
  unfold lock at h
  split_ifs at h with hfree
  rw [← Option.some.inj h]
  exact ⟨hfree, rfl⟩

theorem lock_eq_none (h : q.lock task = none) : q.receiverLock ≠ none := by
  unfold lock at h
  split_ifs at h with hheld
  exact hheld

/-- A packet that is received leaves the channel at its front. -/
theorem recv_guarded {a : α} (h : q.recv = some (a, q')) :
    q.guarded.channel = a :: q'.channel ∧
      q'.guarded = { q.guarded with channel := q'.channel } := by
  unfold recv at h
  split at h
  · contradiction
  · rename_i front rest hchannel
    rw [Option.some.injEq, Prod.mk.injEq] at h
    rw [← h.1, ← h.2]
    exact ⟨hchannel, rfl⟩

theorem recv_eq_none (h : q.recv = none) : q.channel = [] := by
  unfold recv at h
  split at h
  · assumption
  · contradiction

/-- A packet that is pushed enters the channel at its back. -/
theorem trySend_guarded {a : α} (h : q.trySend a = some q') :
    q'.guarded = { q.guarded with channel := q.guarded.channel ++ [a] } := by
  rw [trySend_eq_some h]
  rfl

section Moves

variable {offers : α → Prop} {s : Stance}

theorem lock_move (h : q.lock task = some q') (hs : s ≠ .away) :
    Move task offers q.guarded .away q'.guarded s := by
  rcases lock_eq_some h with ⟨hfree, hq⟩
  rw [hq]
  exact .acquire s rfl hs hfree

theorem recv_move {a : α} (h : q.recv = some (a, q')) (hs : s ≠ .away) :
    Move task offers q.guarded s q'.guarded .busy := by
  rcases recv_guarded h with ⟨hchannel, hq⟩
  rw [hq]
  exact .take a q'.channel hs hchannel

theorem trySend_move {a : α} (h : q.trySend a = some q') (ha : offers a) :
    Move task offers q.guarded s q'.guarded s := by
  rw [trySend_guarded h]
  exact .send a ha

end Moves

end PacketQueue

namespace EngineRun

/-- What the tasks do with the receiver of the outbound queue. -/
def outboundStance (r : EngineRun) : TaskId → Stance
  | .worker w => r.workers[w]?.elim .away fun x => x.phase.stance
  | .call i => r.calls[i]?.elim .away CallPhase.outboundStance

/-- What the tasks do with the receiver of the inbound queue. -/
def inboundStance (r : EngineRun) : TaskId → Stance
  | .worker _ => .away
  | .call i => r.calls[i]?.elim .away CallPhase.inboundStance

/-! ## Workers -/

/-- What one step of a worker does to the queues. -/
structure WorkerQueues (r : EngineRun) (w : Nat) (x : Worker) (r' : EngineRun) (x' : Worker) :
    Prop where
  workers : r'.workers = r.workers.set w x'
  calls : r'.calls = r.calls
  config : r'.engine.config = r.engine.config
  inbound : r'.engine.inboundQueue = r.engine.inboundQueue
  outbound : Move (.worker w) (fun _ => False) r.engine.outboundQueue.guarded x.phase.stance
    r'.engine.outboundQueue.guarded x'.phase.stance
  /-- Only the poll of a dequeue that waits for the free lock starts to wait for a packet. -/
  awaits : x.phase.stance = .away →
    (x'.phase.stance = .awaiting ↔
      x.phase = .pollDequeue .waitingForLock ∧ r.engine.outboundQueue.receiverLock = none)

/-- A step of a worker that leaves the queues alone. -/
theorem WorkerQueues.local {r r' : EngineRun} {w : Nat} {x x' : Worker}
    (hworkers : r'.workers = r.workers.set w x') (hcalls : r'.calls = r.calls)
    (hconfig : r'.engine.config = r.engine.config)
    (hinbound : r'.engine.inboundQueue = r.engine.inboundQueue)
    (houtbound : r'.engine.outboundQueue = r.engine.outboundQueue)
    (hstance : x'.phase.stance = x.phase.stance)
    (hpoll : x.phase = .pollDequeue .waitingForLock →
      r.engine.outboundQueue.receiverLock ≠ none) : WorkerQueues r w x r' x' where
  workers := hworkers
  calls := hcalls
  config := hconfig
  inbound := hinbound
  outbound := by
    rw [houtbound, hstance]
    exact .stay
  awaits := by
    intro haway
    rw [hstance, haway]
    constructor
    · intro hawaiting
      contradiction
    · rintro ⟨hphase, hfree⟩
      exact absurd hfree (hpoll hphase)

@[simp]
theorem beginAttempt_stance (profile : BuildProfile) (p : Ticketed) (attemptsRemaining : U32) :
    (beginAttempt profile p attemptsRemaining).stance = .away := by
  unfold beginAttempt
  split <;> rfl

@[simp]
theorem beginDelivery_stance (profile : BuildProfile) (config : StreamingConfig) (p : Ticketed) :
    (beginDelivery profile config p).stance = .away := by
  unfold beginDelivery
  split
  · exact beginAttempt_stance profile p _
  · rfl

theorem workerQueues {profile : BuildProfile} {r r' : EngineRun} {w : Nat} {x : Worker}
    (h : r.stepWorker profile w x = some r') : ∃ x', WorkerQueues r w x r' x' := by
  unfold stepWorker at h
  split at h
  · rename_i hphase
    split at h
    all_goals
      rw [← Option.some.inj h]
      exact ⟨_, .local rfl rfl rfl rfl rfl (by rw [hphase]; rfl) (by rw [hphase]; nofun)⟩
  · rename_i hphase
    split_ifs at h with hseen
    rw [← Option.some.inj h]
    exact ⟨_, .local rfl rfl rfl rfl rfl (by rw [hphase]; rfl) (by rw [hphase]; nofun)⟩
  · rename_i dequeue hphase
    split_ifs at h with hseen
    · rw [← Option.some.inj h]
      refine ⟨_, .local rfl rfl rfl rfl rfl ?_ (by rw [hphase]; nofun)⟩
      rw [hphase]
      cases dequeue <;> rfl
    · rw [← Option.some.inj h]
      cases dequeue with
      | waitingForLock =>
          exact ⟨_, .local rfl rfl rfl rfl rfl (by rw [hphase]; rfl) (by rw [hphase]; nofun)⟩
      | waitingForPacket =>
          refine ⟨_, rfl, rfl, rfl, rfl, ?_, ?_⟩
          · rw [hphase]
            exact .release nofun
          · rw [hphase]
            nofun
  · rename_i hphase
    split at h
    · rename_i q hlock
      rw [← Option.some.inj h]
      refine ⟨_, rfl, rfl, rfl, rfl, ?_, ?_⟩
      · rw [hphase]
        exact PacketQueue.lock_move hlock nofun
      · intro _
        exact iff_of_true rfl ⟨hphase, (PacketQueue.lock_eq_some hlock).1⟩
    · rename_i hlock
      rw [← Option.some.inj h]
      exact ⟨_, .local rfl rfl rfl rfl rfl (by rw [hphase]; rfl)
        fun _ => PacketQueue.lock_eq_none hlock⟩
  · rename_i hphase
    split at h
    · rename_i p q hrecv
      rw [← Option.some.inj h]
      refine ⟨_, rfl, rfl, rfl, rfl, ?_, ?_⟩
      · rw [hphase]
        exact PacketQueue.recv_move hrecv nofun
      · rw [hphase]
        nofun
    · rw [← Option.some.inj h]
      exact ⟨_, .local rfl rfl rfl rfl rfl (by rw [hphase]; rfl) (by rw [hphase]; nofun)⟩
  · rename_i p hphase
    rw [← Option.some.inj h]
    refine ⟨_, rfl, rfl, rfl, rfl, ?_, ?_⟩
    · rw [hphase, beginDelivery_stance]
      exact .release nofun
    · rw [hphase]
      nofun
  · contradiction
  · rename_i p attemptsRemaining hphase
    rw [← Option.some.inj h]
    exact ⟨_, .local rfl rfl rfl rfl rfl (by rw [hphase, beginAttempt_stance]; rfl)
      (by rw [hphase]; nofun)⟩
  · rename_i hphase
    rw [← Option.some.inj h]
    exact ⟨_, .local rfl rfl rfl rfl rfl (by rw [hphase]; rfl) (by rw [hphase]; nofun)⟩
  · rename_i p hphase
    rw [← Option.some.inj h]
    exact ⟨_, .local rfl rfl rfl rfl rfl (by rw [hphase]; rfl) (by rw [hphase]; nofun)⟩
  · contradiction
  · contradiction

theorem attemptQueues {r r' : EngineRun} {w : Nat} {x : Worker} {outcome : AttemptOutcome}
    (h : r.stepAttempt w x outcome = some r') : ∃ x', WorkerQueues r w x r' x' := by
  cases attemptMove h with
  | sent p attemptsRemaining hphase | giveUp p attemptsRemaining hphase
  | again p attemptsRemaining hphase =>
      exact ⟨_, .local rfl rfl rfl rfl rfl (by rw [hphase]; rfl) (by rw [hphase]; nofun)⟩

/-! ## Calls -/

/-- Where a call goes on: it never returns to its first step, it comes to a send through
the check before it and to the wait for a packet through the wait for the lock, and a
clear comes to the inbound queue once the outbound channel is empty. -/
structure FollowsUp (r : EngineRun) (phase next : CallPhase) : Prop where
  entered : ∀ call : EngineCall, next ≠ call.entry
  enqueues : ∀ packet, next = .enqueueSend packet → phase = .enqueueCheck packet
  receives : ∀ packet, next = .receiveSend packet →
    phase = .receiveCheck packet ∧ packet.packetSize ≤ r.engine.config.maxPacketSizeBytes
  awaits : next = .dequeue .waitingForPacket ↔ phase = .dequeue .waitingForLock
  clears : next = .clearInboundLock ↔
    (∃ drained, phase = .clearOutbound drained) ∧ r.engine.outboundQueue.channel = []

theorem FollowsUp.plain {r : EngineRun} {phase next : CallPhase}
    (hnext : CallPhase.isPlain next = true)
    (hlock : phase ≠ .dequeue .waitingForLock)
    (hdrain : ∀ drained, phase = .clearOutbound drained →
      r.engine.outboundQueue.channel ≠ []) : FollowsUp r phase next where
  entered := by
    rintro call rfl
    cases call <;> contradiction
  enqueues := by
    rintro packet rfl
    contradiction
  receives := by
    rintro packet rfl
    contradiction
  awaits := by
    constructor
    · rintro rfl
      contradiction
    · intro heq
      exact absurd heq hlock
  clears := by
    constructor
    · rintro rfl
      contradiction
    · rintro ⟨⟨drained, heq⟩, hempty⟩
      exact absurd hempty (hdrain drained heq)

theorem FollowsUp.enqueueSend (r : EngineRun) (packet : AudioPacket) :
    FollowsUp r (.enqueueCheck packet) (.enqueueSend packet) where
  entered := by intro call; cases call <;> nofun
  enqueues := by rintro _ ⟨⟩; rfl
  receives := nofun
  awaits := by simp
  clears := by simp

theorem FollowsUp.receiveSend {r : EngineRun} {packet : AudioPacket}
    (hsize : packet.packetSize ≤ r.engine.config.maxPacketSizeBytes) :
    FollowsUp r (.receiveCheck packet) (.receiveSend packet) where
  entered := by intro call; cases call <;> nofun
  enqueues := nofun
  receives := by rintro _ ⟨⟩; exact ⟨rfl, hsize⟩
  awaits := by simp
  clears := by simp

theorem FollowsUp.waitForPacket (r : EngineRun) :
    FollowsUp r (.dequeue .waitingForLock) (.dequeue .waitingForPacket) where
  entered := by intro call; cases call <;> nofun
  enqueues := nofun
  receives := nofun
  awaits := by simp
  clears := by simp

theorem FollowsUp.clearInboundLock {r : EngineRun} (drained : Nat)
    (hempty : r.engine.outboundQueue.channel = []) :
    FollowsUp r (.clearOutbound drained) .clearInboundLock where
  entered := by intro call; cases call <;> nofun
  enqueues := nofun
  receives := nofun
  awaits := by simp
  clears := by simp [hempty]

/-- What one step of a call does to the queues. -/
structure CallQueues (r : EngineRun) (i : Nat) (phase : CallPhase) (r' : EngineRun)
    (next : CallPhase) : Prop where
  workers : ∃ n, r'.workers = r.workers ++ List.replicate n Worker.spawned
  calls : r'.calls = r.calls.set i next
  config : r'.engine.config = r.engine.config
  outbound : Move (.call i) (fun p => phase = .enqueueSend p.packet)
    r.engine.outboundQueue.guarded phase.outboundStance
    r'.engine.outboundQueue.guarded next.outboundStance
  inbound : Move (.call i) (fun packet => phase = .receiveSend packet)
    r.engine.inboundQueue.guarded phase.inboundStance
    r'.engine.inboundQueue.guarded next.inboundStance
  follows : FollowsUp r phase next

/-- A step of a call that leaves the workers and the queues alone. -/
theorem CallQueues.local {r r' : EngineRun} {i : Nat} {phase next : CallPhase}
    (hworkers : ∃ n, r'.workers = r.workers ++ List.replicate n Worker.spawned)
    (hcalls : r'.calls = r.calls.set i next)
    (hconfig : r'.engine.config = r.engine.config)
    (houtbound : r'.engine.outboundQueue = r.engine.outboundQueue)
    (hinbound : r'.engine.inboundQueue = r.engine.inboundQueue)
    (hout : next.outboundStance = phase.outboundStance)
    (hin : next.inboundStance = phase.inboundStance) (hfollows : FollowsUp r phase next) :
    CallQueues r i phase r' next where
  workers := hworkers
  calls := hcalls
  config := hconfig
  outbound := by
    rw [houtbound, hout]
    exact .stay
  inbound := by
    rw [hinbound, hin]
    exact .stay
  follows := hfollows

theorem no_spawn (r : EngineRun) :
    ∃ n, r.workers = r.workers ++ List.replicate n Worker.spawned :=
  ⟨0, (List.append_nil _).symm⟩

theorem callQueues {r r' : EngineRun} {i : Nat} {phase : CallPhase}
    (h : r.stepCall i phase = some r') : ∃ next, CallQueues r i phase r' next := by
  cases phase with
  | check op =>
      dsimp only [stepCall] at h
      split at h
      all_goals
        rw [← Option.some.inj h]
        exact ⟨_, .local (no_spawn r) rfl rfl rfl rfl rfl rfl (.plain rfl nofun nofun)⟩
  | publish op =>
      rw [← Option.some.inj h]
      refine ⟨_, .local (no_spawn r) rfl rfl rfl rfl ?_ ?_ (.plain ?_ nofun nofun)⟩
      all_goals cases op <;> rfl
  | spawn =>
      dsimp only [stepCall] at h
      split_ifs at h with hfree
      rw [← Option.some.inj h]
      exact ⟨_, .local ⟨_, rfl⟩ rfl rfl rfl rfl rfl rfl (.plain rfl nofun nofun)⟩
  | lockHandles =>
      dsimp only [stepCall] at h
      split_ifs at h with hfree
      rw [← Option.some.inj h]
      exact ⟨_, .local (no_spawn r) rfl rfl rfl rfl rfl rfl (.plain rfl nofun nofun)⟩
  | join handles =>
      cases handles with
      | nil =>
          rw [← Option.some.inj h]
          exact ⟨_, .local (no_spawn r) rfl rfl rfl rfl rfl rfl (.plain rfl nofun nofun)⟩
      | cons handle rest =>
          dsimp only [stepCall] at h
          split_ifs at h with hfinished
          rw [← Option.some.inj h]
          exact ⟨_, .local (no_spawn r) rfl rfl rfl rfl rfl rfl (.plain rfl nofun nofun)⟩
  | enqueueCheck packet =>
      dsimp only [stepCall] at h
      split_ifs at h
      · rw [← Option.some.inj h]
        exact ⟨_, .local (no_spawn r) rfl rfl rfl rfl rfl rfl (.plain rfl nofun nofun)⟩
      · rw [← Option.some.inj h]
        exact ⟨_, .local (no_spawn r) rfl rfl rfl rfl rfl rfl (.enqueueSend r packet)⟩
  | enqueueSend packet =>
      dsimp only [stepCall] at h
      split at h
      · rename_i q hsend
        rw [← Option.some.inj h]
        exact ⟨_, no_spawn r, rfl, rfl, PacketQueue.trySend_move hsend rfl, .stay,
          .plain rfl nofun nofun⟩
      · rw [← Option.some.inj h]
        exact ⟨_, .local (no_spawn r) rfl rfl rfl rfl rfl rfl (.plain rfl nofun nofun)⟩
  | enqueueCount =>
      rw [← Option.some.inj h]
      exact ⟨_, no_spawn r, rfl, rfl, .stay, .stay, .plain rfl nofun nofun⟩
  | receiveCheck packet =>
      dsimp only [stepCall] at h
      split_ifs at h with hstopped hsize
      · rw [← Option.some.inj h]
        exact ⟨_, .local (no_spawn r) rfl rfl rfl rfl rfl rfl (.plain rfl nofun nofun)⟩
      · rw [← Option.some.inj h]
        exact ⟨_, .local (no_spawn r) rfl rfl rfl rfl rfl rfl (.plain rfl nofun nofun)⟩
      · rw [← Option.some.inj h]
        exact ⟨_, .local (no_spawn r) rfl rfl rfl rfl rfl rfl (.receiveSend (not_lt.mp hsize))⟩
  | receiveSend packet =>
      dsimp only [stepCall] at h
      split at h
      · rename_i q hsend
        rw [← Option.some.inj h]
        exact ⟨_, no_spawn r, rfl, rfl, .stay, PacketQueue.trySend_move hsend rfl,
          .plain rfl nofun nofun⟩
      · rw [← Option.some.inj h]
        exact ⟨_, .local (no_spawn r) rfl rfl rfl rfl rfl rfl (.plain rfl nofun nofun)⟩
  | receiveCount =>
      rw [← Option.some.inj h]
      exact ⟨_, no_spawn r, rfl, rfl, .stay, .stay, .plain rfl nofun nofun⟩
  | receiveMetric =>
      rw [← Option.some.inj h]
      exact ⟨_, .local (no_spawn r) rfl rfl rfl rfl rfl rfl (.plain rfl nofun nofun)⟩
  | countDropped capacity =>
      rw [← Option.some.inj h]
      exact ⟨_, .local (no_spawn r) rfl rfl rfl rfl rfl rfl (.plain rfl nofun nofun)⟩
  | dequeue waiting =>
      cases waiting with
      | waitingForLock =>
          rcases Option.map_eq_some_iff.mp h with ⟨q, hlock, rfl⟩
          exact ⟨_, no_spawn r, rfl, rfl, .stay, PacketQueue.lock_move hlock nofun,
            .waitForPacket r⟩
      | waitingForPacket =>
          rcases Option.map_eq_some_iff.mp h with ⟨⟨packet, q⟩, hrecv, rfl⟩
          exact ⟨_, no_spawn r, rfl, rfl, .stay, PacketQueue.recv_move hrecv nofun,
            .plain rfl nofun nofun⟩
  | dequeued packet =>
      rw [← Option.some.inj h]
      exact ⟨_, no_spawn r, rfl, rfl, .stay, .release nofun, .plain rfl nofun nofun⟩
  | clearOutboundLock =>
      rcases Option.map_eq_some_iff.mp h with ⟨q, hlock, rfl⟩
      exact ⟨_, no_spawn r, rfl, rfl, PacketQueue.lock_move hlock nofun, .stay,
        .plain rfl nofun nofun⟩
  | clearOutbound drained =>
      dsimp only [stepCall] at h
      split at h
      · rename_i p q hrecv
        rw [← Option.some.inj h]
        refine ⟨_, no_spawn r, rfl, rfl, PacketQueue.recv_move hrecv nofun, .stay,
          .plain rfl nofun ?_⟩
        intro _ _ hempty
        rw [PacketQueue.recv_eq_some hrecv] at hempty
        contradiction
      · rename_i hrecv
        rw [← Option.some.inj h]
        exact ⟨_, no_spawn r, rfl, rfl, .release nofun, .stay,
          .clearInboundLock drained (PacketQueue.recv_eq_none hrecv)⟩
  | clearInboundLock =>
      rcases Option.map_eq_some_iff.mp h with ⟨q, hlock, rfl⟩
      exact ⟨_, no_spawn r, rfl, rfl, .stay, PacketQueue.lock_move hlock nofun,
        .plain rfl nofun nofun⟩
  | clearInbound drained =>
      dsimp only [stepCall] at h
      split at h
      · rename_i packet q hrecv
        rw [← Option.some.inj h]
        exact ⟨_, no_spawn r, rfl, rfl, .stay, PacketQueue.recv_move hrecv nofun,
          .plain rfl nofun nofun⟩
      · rw [← Option.some.inj h]
        exact ⟨_, no_spawn r, rfl, rfl, .stay, .release nofun, .plain rfl nofun nofun⟩
  | returned result => contradiction

/-! ## Steps -/

/-- What one step does to the queues: a call begins and leaves them alone, or a call or a worker
makes its step; the end of an attempt is none that waits for the lock. -/
theorem stepQueues {profile : BuildProfile} {r r' : EngineRun} {action : Action}
    (hstep : step profile r action = some r') :
    (∃ call, action = .invoke call ∧ { r with calls := r.calls ++ [call.entry] } = r') ∨
    (∃ i phase next, action = .call i ∧ r.calls[i]? = some phase ∧
      CallQueues r i phase r' next) ∨
    ∃ w x x', (action = .worker w ∨ x.phase ≠ .pollDequeue .waitingForLock) ∧
      r.workers[w]? = some x ∧ WorkerQueues r w x r' x' := by
  rcases step_eq_some.mp hstep with hinvoke | ⟨i, phase, haction, hphase, hcall⟩ |
    ⟨w, x, haction, hx, hworker⟩ | ⟨w, x, outcome, -, hx, hattempt⟩
  · exact Or.inl hinvoke
  · rcases callQueues hcall with ⟨next, hqueues⟩
    exact Or.inr (Or.inl ⟨i, phase, next, haction, hphase, hqueues⟩)
  · rcases workerQueues hworker with ⟨x', hqueues⟩
    exact Or.inr (Or.inr ⟨w, x, x', Or.inl haction, hx, hqueues⟩)
  · rcases attemptQueues hattempt with ⟨x', hqueues⟩
    refine Or.inr (Or.inr ⟨w, x, x', Or.inr ?_, hx, hqueues⟩)
    intro hphase
    simp [stepAttempt, hphase] at hattempt

/-! ## Runs -/

/-- What a task holds after one task of a list was replaced. -/
theorem elim_set {β : Type} {xs : List β} {w : Nat} {x : β} (hx : xs[w]? = some x) (y : β)
    (f : β → Stance) (v : Nat) :
    (xs.set w y)[v]?.elim .away f = if v = w then f y else xs[v]?.elim .away f := by
  by_cases hv : v = w
  · subst hv
    rw [List.getElem?_set_self (List.getElem?_eq_some_iff.mp hx).1]
    simp
  · rw [List.getElem?_set_ne (Ne.symm hv), if_neg hv]

/-- Tasks that are away can be added. -/
theorem elim_append {β : Type} (xs ys : List β) {f : β → Stance}
    (hys : ∀ y ∈ ys, f y = .away) (v : Nat) :
    (xs ++ ys)[v]?.elim .away f = xs[v]?.elim .away f := by
  by_cases hv : v < xs.length
  · rw [List.getElem?_append_left hv]
  · rw [List.getElem?_append_right (not_lt.mp hv), List.getElem?_eq_none (not_lt.mp hv)]
    cases hy : ys[v - xs.length]? with
    | none => rfl
    | some y => exact hys y (List.mem_of_getElem? hy)

theorem outboundStance_worker {r r' : EngineRun} {w : Nat} {x x' : Worker}
    (hx : r.workers[w]? = some x) (h : WorkerQueues r w x r' x') :
    r.outboundStance (.worker w) = x.phase.stance ∧
      r'.outboundStance = Function.update r.outboundStance (.worker w) x'.phase.stance := by
  constructor
  · simp [outboundStance, hx]
  · ext t
    cases t with
    | worker v =>
        simp only [outboundStance, h.workers, elim_set hx, Function.update_apply]
        simp
    | call i => simp [outboundStance, h.calls]

theorem outboundStance_call {r r' : EngineRun} {i : Nat} {phase next : CallPhase}
    (hphase : r.calls[i]? = some phase) (h : CallQueues r i phase r' next) :
    r.outboundStance (.call i) = phase.outboundStance ∧
      r'.outboundStance = Function.update r.outboundStance (.call i) next.outboundStance := by
  constructor
  · simp [outboundStance, hphase]
  · ext t
    cases t with
    | worker v =>
        rcases h.workers with ⟨n, hworkers⟩
        have haway : ∀ y ∈ List.replicate n Worker.spawned, y.phase.stance = .away := by
          intro y hy
          rw [List.eq_of_mem_replicate hy]
          rfl
        have hother : TaskId.worker v ≠ .call i := nofun
        rw [Function.update_of_ne hother]
        simp only [outboundStance, hworkers, elim_append _ _ haway]
    | call j =>
        simp only [outboundStance, h.calls, elim_set hphase, Function.update_apply]
        simp

theorem inboundStance_call {r r' : EngineRun} {i : Nat} {phase next : CallPhase}
    (hphase : r.calls[i]? = some phase) (h : CallQueues r i phase r' next) :
    r.inboundStance (.call i) = phase.inboundStance ∧
      r'.inboundStance = Function.update r.inboundStance (.call i) next.inboundStance := by
  constructor
  · simp [inboundStance, hphase]
  · ext t
    cases t with
    | worker v => simp [inboundStance]
    | call j =>
        simp only [inboundStance, h.calls, elim_set hphase, Function.update_apply]
        simp

theorem inboundStance_worker {r r' : EngineRun} {w : Nat} {x x' : Worker}
    (h : WorkerQueues r w x r' x') : r'.inboundStance = r.inboundStance := by
  ext t
  cases t with
  | worker v => rfl
  | call j => simp [inboundStance, h.calls]

/-- A call that begins does nothing with the receivers. -/
theorem stance_invoke (r : EngineRun) (call : EngineCall) :
    { r with calls := r.calls ++ [call.entry] }.outboundStance = r.outboundStance ∧
      { r with calls := r.calls ++ [call.entry] }.inboundStance = r.inboundStance := by
  have haway : (∀ y ∈ [call.entry], y.outboundStance = .away) ∧
      ∀ y ∈ [call.entry], y.inboundStance = .away := by
    cases call <;> simp [EngineCall.entry, CallPhase.outboundStance, CallPhase.inboundStance]
  constructor
  · ext t
    cases t with
    | worker v => rfl
    | call j => simp only [outboundStance, elim_append _ _ haway.1]
  · ext t
    cases t with
    | worker v => rfl
    | call j => simp only [inboundStance, elim_append _ _ haway.2]

/-- Both receivers belong to the tasks that use them. -/
structure QueuesOwned (r : EngineRun) : Prop where
  outbound : Owned r.engine.outboundQueue.guarded r.outboundStance
  inbound : Owned r.engine.inboundQueue.guarded r.inboundStance

theorem QueuesOwned.worker {r r' : EngineRun} {w : Nat} {x x' : Worker} (h : r.QueuesOwned)
    (hx : r.workers[w]? = some x) (hqueues : WorkerQueues r w x r' x') : r'.QueuesOwned := by
  rcases outboundStance_worker hx hqueues with ⟨hstance, hupdate⟩
  constructor
  · rw [hupdate]
    exact h.outbound.move (hstance ▸ hqueues.outbound)
  · rw [inboundStance_worker hqueues, hqueues.inbound]
    exact h.inbound

theorem QueuesOwned.call {r r' : EngineRun} {i : Nat} {phase next : CallPhase}
    (h : r.QueuesOwned) (hphase : r.calls[i]? = some phase)
    (hqueues : CallQueues r i phase r' next) : r'.QueuesOwned := by
  rcases outboundStance_call hphase hqueues with ⟨hout, houtUpdate⟩
  rcases inboundStance_call hphase hqueues with ⟨hin, hinUpdate⟩
  constructor
  · rw [houtUpdate]
    exact h.outbound.move (hout ▸ hqueues.outbound)
  · rw [hinUpdate]
    exact h.inbound.move (hin ▸ hqueues.inbound)

/-- Every step keeps the ownership of the receivers. -/
theorem step_owned {profile : BuildProfile} {r r' : EngineRun} {action : Action}
    (h : r.QueuesOwned) (hstep : step profile r action = some r') : r'.QueuesOwned := by
  rcases stepQueues hstep with ⟨call, -, rfl⟩ | ⟨i, phase, next, -, hphase, hqueues⟩ |
    ⟨w, x, x', -, hx, hqueues⟩
  · rcases stance_invoke r call with ⟨hout, hin⟩
    exact ⟨hout ▸ h.outbound, hin ▸ h.inbound⟩
  · exact h.call hphase hqueues
  · exact h.worker hx hqueues

theorem initial_owned (engine : StreamingEngine) : (initial engine).QueuesOwned := by
  constructor <;> intro t ht <;> cases t <;> exact absurd rfl ht

/-- In every state of every run, a receiver belongs to the only task that uses it. -/
theorem run_owned {profile : BuildProfile} {engine : StreamingEngine} {actions : List Action}
    {r : EngineRun} (hrun : run (step profile) (initial engine) actions = some r) :
    r.QueuesOwned :=
  run_invariant QueuesOwned (fun _ _ _ h hstep => step_owned h hstep) (initial_owned engine) hrun

end EngineRun
end Streaming
end EchoSync
