import EchoSync.Streaming.Engine

/-!
# Streaming Engine - What a step can do

Inversion of the steps of an engine: one constructor for each thing that a worker,
a pending attempt or a call can do.  A step of a call that has nothing to do with
the lifecycle and leaves the outbound channel alone is one case.

Main results:

- Theorems {lit}`workerMove`, {lit}`attemptMove` and {lit}`callMove`: everything
  that one step can do.
-/

namespace EchoSync
namespace Streaming

/-- Whether a call has steps of the lifecycle left to do. -/
def CallPhase.inLifecycle : CallPhase → Bool
  | .check _ => true
  | .publish _ => true
  | .spawn => true
  | .lockHandles => true
  | .join _ => true
  | _ => false

namespace EngineRun

/-! ## Workers -/

/-- Everything that one step of a worker can do. -/
inductive WorkerMove (profile : BuildProfile) (r : EngineRun) (w : Nat) (x : Worker) :
    EngineRun → Prop where
  /-- Enter the select of a running engine. -/
  | enter (hphase : x.phase = .top) (hstate : r.engine.state = .running) :
      WorkerMove profile r w x (r.setWorker w { x with phase := .select .waitingForLock })
  /-- Return from a stopped engine. -/
  | exit (hphase : x.phase = .top) (hstate : r.engine.state = .stopped) :
      WorkerMove profile r w x (r.setWorker w { x with phase := .exited })
  /-- Wait in a paused engine. -/
  | pause (hphase : x.phase = .top) (hstate : r.engine.state = .paused) :
      WorkerMove profile r w x (r.setWorker w { x with phase := .awaitChange })
  /-- See a change while waiting. -/
  | wake (hphase : x.phase = .awaitChange) (hseen : x.seen ≠ r.engine.version) :
      WorkerMove profile r w x (r.setWorker w { phase := .top, seen := r.engine.version })
  /-- No change to see in the select. -/
  | pending (dequeue : DequeuePhase) (hphase : x.phase = .select dequeue)
      (hseen : x.seen = r.engine.version) :
      WorkerMove profile r w x (r.setWorker w { x with phase := .pollDequeue dequeue })
  /-- See a change in the select, and drop the pending dequeue. -/
  | notice (dequeue : DequeuePhase) (q : PacketQueue Ticketed)
      (hphase : x.phase = .select dequeue) (hseen : x.seen ≠ r.engine.version)
      (hchannel : q.channel = r.engine.outboundQueue.channel) :
      WorkerMove profile r w x
        ((r.setOutbound q).setWorker w { phase := .top, seen := r.engine.version })
  /-- Take the lock of the receiver. -/
  | acquire (q : PacketQueue Ticketed) (hphase : x.phase = .pollDequeue .waitingForLock)
      (hchannel : q.channel = r.engine.outboundQueue.channel) :
      WorkerMove profile r w x
        ((r.setOutbound q).setWorker w { x with phase := .pollDequeue .waitingForPacket })
  /-- Find the dequeue pending, for the lock or for a packet. -/
  | park (dequeue : DequeuePhase) (hphase : x.phase = .pollDequeue dequeue) :
      WorkerMove profile r w x (r.setWorker w { x with phase := .select dequeue })
  /-- Take a packet off the channel. -/
  | take (p : Ticketed) (q : PacketQueue Ticketed)
      (hphase : x.phase = .pollDequeue .waitingForPacket)
      (hchannel : r.engine.outboundQueue.channel = p :: q.channel) :
      WorkerMove profile r w x ((r.setOutbound q).setWorker w { x with phase := .dequeued p })
  /-- Release the receiver and begin to deliver. -/
  | deliver (p : Ticketed) (q : PacketQueue Ticketed) (hphase : x.phase = .dequeued p)
      (hchannel : q.channel = r.engine.outboundQueue.channel) :
      WorkerMove profile r w x
        ((r.setOutbound q).setWorker w
          { x with phase := beginDelivery profile r.engine.config p })
  /-- Begin the next attempt. -/
  | retry (p : Ticketed) (attemptsRemaining : U32)
      (hphase : x.phase = .backoff p attemptsRemaining) :
      WorkerMove profile r w x
        (r.setWorker w { x with phase := beginAttempt profile p attemptsRemaining })
  /-- Count a packet that was sent. -/
  | countSent (hphase : x.phase = .countSent) :
      WorkerMove profile r w x
        ({ r with engine := r.engine.countSent }.setWorker w { x with phase := .top })
  /-- Count a packet that could not be sent. -/
  | countFailed (p : Ticketed) (hphase : x.phase = .countFailed p) :
      WorkerMove profile r w x
        ({ r with engine := r.engine.countSendFailed, failed := r.failed ++ [p] }.setWorker w
          { x with phase := .top })

theorem workerMove {profile : BuildProfile} {r r' : EngineRun} {w : Nat} {x : Worker}
    (h : r.stepWorker profile w x = some r') : WorkerMove profile r w x r' := by
  unfold stepWorker at h
  split at h
  · rename_i hphase
    split at h
    all_goals rename_i hstate
    · exact Option.some.inj h ▸ .enter hphase hstate
    · exact Option.some.inj h ▸ .exit hphase hstate
    · exact Option.some.inj h ▸ .pause hphase hstate
  · rename_i hphase
    split_ifs at h with hseen
    exact Option.some.inj h ▸ .wake hphase hseen
  · rename_i dequeue hphase
    split_ifs at h with hseen
    · exact Option.some.inj h ▸ .pending dequeue hphase hseen
    · cases dequeue with
      | waitingForLock =>
          exact Option.some.inj h ▸ .notice _ r.engine.outboundQueue hphase hseen rfl
      | waitingForPacket => exact Option.some.inj h ▸ .notice _ _ hphase hseen rfl
  · rename_i hphase
    split at h
    · rename_i q hlock
      exact Option.some.inj h ▸ .acquire q hphase (PacketQueue.lock_channel hlock)
    · exact Option.some.inj h ▸ .park _ hphase
  · rename_i hphase
    split at h
    · rename_i p q hrecv
      exact Option.some.inj h ▸ .take p q hphase (PacketQueue.recv_eq_some hrecv)
    · exact Option.some.inj h ▸ .park _ hphase
  · rename_i p hphase
    exact Option.some.inj h ▸ .deliver p _ hphase rfl
  · contradiction
  · rename_i p attemptsRemaining hphase
    exact Option.some.inj h ▸ .retry p attemptsRemaining hphase
  · rename_i hphase
    exact Option.some.inj h ▸ .countSent hphase
  · rename_i p hphase
    exact Option.some.inj h ▸ .countFailed p hphase
  · contradiction
  · contradiction

/-- Everything that the end of a pending attempt can do. -/
inductive AttemptMove (r : EngineRun) (w : Nat) (x : Worker) : EngineRun → Prop where
  /-- The packet is in the channel of the transport. -/
  | sent (p : Ticketed) (attemptsRemaining : U32)
      (hphase : x.phase = .attempting p attemptsRemaining) :
      AttemptMove r w x
        ({ r with transport := r.transport ++ [p] }.setWorker w { x with phase := .countSent })
  /-- The packet is given up. -/
  | giveUp (p : Ticketed) (attemptsRemaining : U32)
      (hphase : x.phase = .attempting p attemptsRemaining) :
      AttemptMove r w x (r.setWorker w { x with phase := .countFailed p })
  /-- Another attempt remains. -/
  | again (p : Ticketed) (attemptsRemaining : U32)
      (hphase : x.phase = .attempting p attemptsRemaining) (hpos : attemptsRemaining ≠ 0) :
      AttemptMove r w x (r.setWorker w { x with phase := .backoff p attemptsRemaining })

theorem attemptMove {r r' : EngineRun} {w : Nat} {x : Worker} {outcome : AttemptOutcome}
    (h : r.stepAttempt w x outcome = some r') : AttemptMove r w x r' := by
  unfold stepAttempt at h
  split at h
  · rename_i p attemptsRemaining hphase
    cases outcome with
    | sent => exact Option.some.inj h ▸ .sent p attemptsRemaining hphase
    | disconnected => exact Option.some.inj h ▸ .giveUp p attemptsRemaining hphase
    | timedOut =>
        dsimp only at h
        split_ifs at h with hzero
        · exact Option.some.inj h ▸ .giveUp p attemptsRemaining hphase
        · exact Option.some.inj h ▸ .again p attemptsRemaining hphase hzero
  · contradiction

/-! ## Calls -/

/-- Two engines agree on everything that the outbound workers and the lifecycle
depend on. -/
structure SameDelivery (e e' : StreamingEngine) : Prop where
  config : e'.config = e.config
  channel : e'.outboundQueue.channel = e.outboundQueue.channel
  state : e'.state = e.state
  version : e'.version = e.version
  handlesLock : e'.handlesLock = e.handlesLock
  workerHandles : e'.workerHandles = e.workerHandles
  packetsSendFailed : e'.metrics.packetsSendFailed = e.metrics.packetsSendFailed

/-- Everything that one step of a call can do. -/
inductive CallMove (r : EngineRun) (i : Nat) (phase : CallPhase) : EngineRun → Prop where
  /-- A lifecycle call refuses the published state. -/
  | refuse (op : Lifecycle) (error : StreamingError) (hphase : phase = .check op)
      (hrefusal : op.refusal r.engine.state = some error) :
      CallMove r i phase (r.setCall i (.returned (.error error)))
  /-- A lifecycle call passes its check. -/
  | pass (op : Lifecycle) (hphase : phase = .check op)
      (hrefusal : op.refusal r.engine.state = none) :
      CallMove r i phase (r.setCall i (.publish op))
  /-- A lifecycle call publishes its state. -/
  | publish (op : Lifecycle) (hphase : phase = .publish op) :
      CallMove r i phase
        ({ r with engine := r.engine.send op.target }.setCall i op.afterPublish)
  /-- A start spawns the workers. -/
  | spawn (hphase : phase = .spawn) (hfree : r.engine.handlesLock = none) :
      CallMove r i phase (r.spawnWorkers.setCall i (.returned (.ok none)))
  /-- A stop takes the handles. -/
  | lockHandles (hphase : phase = .lockHandles) (hfree : r.engine.handlesLock = none) :
      CallMove r i phase
        ({ r with engine :=
            { r.engine with handlesLock := some (.call i), workerHandles := [] } }.setCall i
          (.join r.engine.workerHandles))
  /-- A worker that a stop awaits has finished. -/
  | join (handle : Nat) (rest : List Nat) (hphase : phase = .join (handle :: rest))
      (hfinished : r.hasFinished handle = true) :
      CallMove r i phase (r.setCall i (.join rest))
  /-- Every worker that a stop awaits has finished. -/
  | joined (hphase : phase = .join []) :
      CallMove r i phase
        ({ r with engine := { r.engine with handlesLock := none } }.setCall i
          (.returned (.ok none)))
  /-- An enqueue puts its packet into the channel. -/
  | accept (p : Ticketed) (q : PacketQueue Ticketed) (hphase : phase = .enqueueSend p.packet)
      (hticket : p.ticket = r.accepted.length) (hcaller : p.caller = i)
      (hchannel : q.channel = r.engine.outboundQueue.channel ++ [p]) :
      CallMove r i phase
        ({ r.setOutbound q with accepted := r.accepted ++ [p] }.setCall i .enqueueCount)
  /-- A clear drains a packet. -/
  | drain (p : Ticketed) (q : PacketQueue Ticketed) (drained : Nat)
      (hphase : phase = .clearOutbound drained)
      (hchannel : r.engine.outboundQueue.channel = p :: q.channel) :
      CallMove r i phase
        ({ r.setOutbound q with drained := r.drained ++ [p] }.setCall i
          (.clearOutbound (drained + 1)))
  /-- A step that has nothing to do with the lifecycle and the outbound channel. -/
  | other (e : StreamingEngine) (next : CallPhase) (hsame : SameDelivery r.engine e)
      (hphase : phase.inLifecycle = false) (hnext : next.inLifecycle = false) :
      CallMove r i phase ({ r with engine := e }.setCall i next)

theorem SameDelivery.refl (e : StreamingEngine) : SameDelivery e e :=
  ⟨rfl, rfl, rfl, rfl, rfl, rfl, rfl⟩

/-- A step that only replaces the outbound queue by one with the same channel. -/
theorem CallMove.outbound {r r' : EngineRun} {i : Nat} {phase next : CallPhase}
    (q : PacketQueue Ticketed) (hchannel : q.channel = r.engine.outboundQueue.channel)
    (hphase : phase.inLifecycle = false) (hnext : next.inLifecycle = false)
    (h : (r.setOutbound q).setCall i next = r') : CallMove r i phase r' :=
  h ▸ .other { r.engine with outboundQueue := q } next ⟨rfl, hchannel, rfl, rfl, rfl, rfl, rfl⟩
    hphase hnext

/-- A step that only replaces the inbound queue. -/
theorem CallMove.inbound {r r' : EngineRun} {i : Nat} {phase next : CallPhase}
    (q : PacketQueue AudioPacket) (hphase : phase.inLifecycle = false)
    (hnext : next.inLifecycle = false) (h : (r.setInbound q).setCall i next = r') :
    CallMove r i phase r' :=
  h ▸ .other { r.engine with inboundQueue := q } next ⟨rfl, rfl, rfl, rfl, rfl, rfl, rfl⟩
    hphase hnext

/-- A step that only moves the call on. -/
theorem CallMove.local {r r' : EngineRun} {i : Nat} {phase next : CallPhase}
    (hphase : phase.inLifecycle = false) (hnext : next.inLifecycle = false)
    (h : r.setCall i next = r') : CallMove r i phase r' :=
  h ▸ .other r.engine next (SameDelivery.refl _) hphase hnext

theorem callMove {r r' : EngineRun} {i : Nat} {phase : CallPhase}
    (h : r.stepCall i phase = some r') : CallMove r i phase r' := by
  cases phase with
  | check op =>
      dsimp only [stepCall] at h
      split at h
      · rename_i error hrefusal
        exact Option.some.inj h ▸ .refuse op error rfl hrefusal
      · rename_i hrefusal
        exact Option.some.inj h ▸ .pass op rfl hrefusal
  | publish op => exact Option.some.inj h ▸ .publish op rfl
  | spawn =>
      dsimp only [stepCall] at h
      split_ifs at h with hfree
      exact Option.some.inj h ▸ .spawn rfl hfree
  | lockHandles =>
      dsimp only [stepCall] at h
      split_ifs at h with hfree
      exact Option.some.inj h ▸ .lockHandles rfl hfree
  | join handles =>
      cases handles with
      | nil => exact Option.some.inj h ▸ .joined rfl
      | cons handle rest =>
          dsimp only [stepCall] at h
          split_ifs at h with hfinished
          exact Option.some.inj h ▸ .join handle rest rfl hfinished
  | enqueueCheck packet =>
      dsimp only [stepCall] at h
      split_ifs at h
      · exact .local rfl rfl (Option.some.inj h)
      · exact .local rfl rfl (Option.some.inj h)
  | enqueueSend packet =>
      dsimp only [stepCall] at h
      split at h
      · rename_i q hsend
        rw [← Option.some.inj h]
        refine .accept { ticket := r.accepted.length, caller := i, packet } q rfl rfl rfl ?_
        rw [PacketQueue.trySend_eq_some hsend]
      · exact .local rfl rfl (Option.some.inj h)
  | enqueueCount =>
      exact .outbound r.engine.outboundQueue.countSent rfl rfl rfl (Option.some.inj h)
  | receiveCheck packet =>
      dsimp only [stepCall] at h
      split_ifs at h
      all_goals exact .local rfl rfl (Option.some.inj h)
  | receiveSend packet =>
      dsimp only [stepCall] at h
      split at h
      · exact .inbound _ rfl rfl (Option.some.inj h)
      · exact .local rfl rfl (Option.some.inj h)
  | receiveCount => exact .inbound _ rfl rfl (Option.some.inj h)
  | receiveMetric =>
      exact Option.some.inj h ▸ .other r.engine.countReceived _ ⟨rfl, rfl, rfl, rfl, rfl, rfl, rfl⟩
        rfl rfl
  | countDropped capacity =>
      exact Option.some.inj h ▸ .other r.engine.countDropped _ ⟨rfl, rfl, rfl, rfl, rfl, rfl, rfl⟩
        rfl rfl
  | dequeue waiting =>
      cases waiting with
      | waitingForLock =>
          rcases Option.map_eq_some_iff.mp h with ⟨q, -, hr'⟩
          exact .inbound q rfl rfl hr'
      | waitingForPacket =>
          rcases Option.map_eq_some_iff.mp h with ⟨⟨packet, q⟩, -, hr'⟩
          exact .inbound q rfl rfl hr'
  | dequeued packet => exact .inbound _ rfl rfl (Option.some.inj h)
  | clearOutboundLock =>
      rcases Option.map_eq_some_iff.mp h with ⟨q, hlock, hr'⟩
      exact .outbound q (PacketQueue.lock_channel hlock) rfl rfl hr'
  | clearOutbound drained =>
      dsimp only [stepCall] at h
      split at h
      · rename_i p q hrecv
        exact Option.some.inj h ▸ .drain p q drained rfl (PacketQueue.recv_eq_some hrecv)
      · exact .outbound (r.engine.outboundQueue.countTaken drained).unlock rfl rfl rfl
          (Option.some.inj h)
  | clearInboundLock =>
      rcases Option.map_eq_some_iff.mp h with ⟨q, -, hr'⟩
      exact .inbound q rfl rfl hr'
  | clearInbound drained =>
      dsimp only [stepCall] at h
      split at h
      · exact .inbound _ rfl rfl (Option.some.inj h)
      · exact .inbound _ rfl rfl (Option.some.inj h)
  | returned result => contradiction

end EngineRun
end Streaming
end EchoSync
