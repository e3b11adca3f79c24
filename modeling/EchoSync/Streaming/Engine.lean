import EchoSync.Foundations.TransitionSystem
import EchoSync.Streaming.PacketQueue

/-!
# Streaming Engine - The engine and its tasks

The engine moves packets between the media layer, the transport and the playback
pipeline.  Its callers and its outbound workers are tasks that share two queues, a
published lifecycle state and the list of worker handles.  Every atomic access of
a task to what is shared is one step, so a run is an interleaving of such steps; a
task waits by having no step.

The published state carries a version, by which a worker recognizes a change it
has not seen.  Each accepted outbound packet gets a ticket, and a run records where
the packets go; neither influences a step.

Main results:

- Theorem {lit}`EngineRun.step_eq_some`: a step is a step of one task.
-/

namespace EchoSync
namespace Streaming

open TransitionSystem

/-! ## The shared state -/

/-- The lifecycle state of an engine. -/
inductive EngineState where
  | stopped
  | running
  | paused
deriving DecidableEq

/-- The throughput counters, which wrap around. -/
structure EngineMetrics where
  packetsSent : U64
  packetsReceived : U64
  packetsDropped : U64
  packetsSendFailed : U64
deriving DecidableEq

/-- A packet of the outbound queue with the number under which it was accepted and the
call that enqueued it. -/
structure Ticketed where
  ticket : Nat
  caller : Nat
  packet : AudioPacket
deriving DecidableEq

/-- What the clones of an engine share: the two queues, the published state with its
version, the handles of the workers behind their lock, and the counters. -/
structure StreamingEngine where
  config : StreamingConfig
  outboundQueue : PacketQueue Ticketed
  inboundQueue : PacketQueue AudioPacket
  state : EngineState
  version : Nat
  handlesLock : Option TaskId
  workerHandles : List Nat
  metrics : EngineMetrics
deriving DecidableEq

/-- The largest capacity with which a channel can be built. -/
def maxPermits : Nat := 2 ^ 61 - 1

namespace StreamingEngine

/-- A stopped engine without workers. -/
def ofConfig (config : StreamingConfig) : StreamingEngine where
  config := config
  outboundQueue := PacketQueue.new config.outboundQueueCapacity
  inboundQueue := PacketQueue.new config.inboundQueueCapacity
  state := .stopped
  version := 0
  handlesLock := none
  workerHandles := []
  metrics :=
    { packetsSent := 0
      packetsReceived := 0
      packetsDropped := 0
      packetsSendFailed := 0 }

/-- Build an engine; a channel of too large a capacity panics. -/
def new (config : StreamingConfig) : Outcome StreamingError StreamingEngine :=
  if max config.outboundQueueCapacity 1 ≤ maxPermits ∧
      max config.inboundQueueCapacity 1 ≤ maxPermits then .ok (ofConfig config)
  else .panicked

theorem new_eq_ok {config : StreamingConfig} {e : StreamingEngine} (h : new config = .ok e) :
    e = ofConfig config := by
  unfold new at h
  split_ifs at h
  cases h
  rfl

/-- Publish a lifecycle state. -/
def send (e : StreamingEngine) (state : EngineState) : StreamingEngine :=
  { e with state := state, version := e.version + 1 }

/-- Count a packet handed to the transport. -/
def countSent (e : StreamingEngine) : StreamingEngine :=
  { e with metrics := { e.metrics with packetsSent := e.metrics.packetsSent + 1 } }

/-- Count a packet that could not be sent. -/
def countSendFailed (e : StreamingEngine) : StreamingEngine :=
  { e with metrics := { e.metrics with packetsSendFailed := e.metrics.packetsSendFailed + 1 } }

/-- Count a packet refused by a full queue. -/
def countDropped (e : StreamingEngine) : StreamingEngine :=
  { e with metrics := { e.metrics with packetsDropped := e.metrics.packetsDropped + 1 } }

/-- Count a packet received from the transport. -/
def countReceived (e : StreamingEngine) : StreamingEngine :=
  { e with metrics := { e.metrics with packetsReceived := e.metrics.packetsReceived + 1 } }

end StreamingEngine

/-! ## The tasks -/

/-- How far a pending dequeue has come: it waits for the lock of the receiver, or it
holds the lock and waits for a packet. -/
inductive DequeuePhase where
  | waitingForLock
  | waitingForPacket
deriving DecidableEq

/-- Where an outbound worker is in its loop. -/
inductive WorkerPhase where
  /-- About to read the published state. -/
  | top
  /-- Waiting for the published state to change. -/
  | awaitChange
  /-- In the select, about to poll the change of the state. -/
  | select (dequeue : DequeuePhase)
  /-- In the select, after the change was pending, about to poll the dequeue. -/
  | pollDequeue (dequeue : DequeuePhase)
  /-- The dequeue has its packet, and still holds the lock of the receiver. -/
  | dequeued (p : Ticketed)
  /-- A send attempt is pending; so many more attempts remain after it. -/
  | attempting (p : Ticketed) (attemptsRemaining : U32)
  /-- Sleeping between two attempts. -/
  | backoff (p : Ticketed) (attemptsRemaining : U32)
  /-- The packet was sent, and is about to be counted. -/
  | countSent
  /-- The packet could not be sent, and is about to be counted. -/
  | countFailed (p : Ticketed)
  /-- The task returned. -/
  | exited
  /-- The task panicked while it delivered a packet. -/
  | panicked (p : Ticketed)
deriving DecidableEq

/-- A worker task, and the version of the published state that it has seen. -/
structure Worker where
  phase : WorkerPhase
  seen : Nat
deriving DecidableEq

/-- A spawned worker: its receiver is a clone that has seen the initial version. -/
def Worker.spawned : Worker where
  phase := .top
  seen := 0

/-- Whether the task of a worker has finished, so that joining it returns. -/
def WorkerPhase.finished : WorkerPhase → Bool
  | .exited => true
  | .panicked _ => true
  | _ => false

/-- The four calls that change the lifecycle. -/
inductive Lifecycle where
  | start
  | stop
  | pause
  | resume
deriving DecidableEq

/-- The error with which a lifecycle call refuses a published state. -/
def Lifecycle.refusal : Lifecycle → EngineState → Option StreamingError
  | .start, state => if state = .running then some .engineAlreadyRunning else none
  | .stop, state =>
      if state = .stopped then some (.invalidState "engine is already stopped") else none
  | .pause, state =>
      if state ≠ .running then
        some (.invalidState "cannot pause unless the engine is running")
      else none
  | .resume, state =>
      if state ≠ .paused then
        some (.invalidState "cannot resume unless the engine is paused")
      else none

/-- The state that a lifecycle call publishes. -/
def Lifecycle.target : Lifecycle → EngineState
  | .start => .running
  | .stop => .stopped
  | .pause => .paused
  | .resume => .running

/-- The calls on an engine that are modelled. -/
inductive EngineCall where
  | lifecycle (op : Lifecycle)
  | enqueue (packet : AudioPacket)
  | receivePacket (packet : AudioPacket)
  | dequeue
  | clear
deriving DecidableEq

/-- The answer of a call; only a dequeue answers a packet. -/
abbrev CallResult := Except StreamingError (Option AudioPacket)

/-- Where a caller is in a call. -/
inductive CallPhase where
  /-- A lifecycle call is about to read the published state. -/
  | check (op : Lifecycle)
  /-- A lifecycle call is about to publish its state. -/
  | publish (op : Lifecycle)
  /-- A start is about to take the lock of the handles and spawn the workers. -/
  | spawn
  /-- A stop is about to take the lock of the handles. -/
  | lockHandles
  /-- A stop awaits the workers of these handles, and holds the lock. -/
  | join (handles : List Nat)
  /-- An enqueue is about to read the published state. -/
  | enqueueCheck (packet : AudioPacket)
  | enqueueSend (packet : AudioPacket)
  | enqueueCount
  /-- A receive is about to read the published state. -/
  | receiveCheck (packet : AudioPacket)
  | receiveSend (packet : AudioPacket)
  | receiveCount
  | receiveMetric
  /-- A full queue refused the packet, and it is about to be counted. -/
  | countDropped (capacity : Nat)
  /-- A playback dequeue is pending. -/
  | dequeue (phase : DequeuePhase)
  | dequeued (packet : AudioPacket)
  /-- A clear is about to take the lock of a receiver, or has drained so many packets. -/
  | clearOutboundLock
  | clearOutbound (drained : Nat)
  | clearInboundLock
  | clearInbound (drained : Nat)
  | returned (result : CallResult)
deriving DecidableEq

/-- What remains of a lifecycle call after it has published its state. -/
def Lifecycle.afterPublish : Lifecycle → CallPhase
  | .start => .spawn
  | .stop => .lockHandles
  | .pause => .returned (.ok none)
  | .resume => .returned (.ok none)

/-- The first step of a call. -/
def EngineCall.entry : EngineCall → CallPhase
  | .lifecycle op => .check op
  | .enqueue packet => .enqueueCheck packet
  | .receivePacket packet => .receiveCheck packet
  | .dequeue => .dequeue .waitingForLock
  | .clear => .clearOutboundLock

/-! ## Runs -/

/-- An engine, its workers, the calls made on it, and the record of the outbound
packets: those accepted, handed to the transport, counted as failed and drained. -/
structure EngineRun where
  engine : StreamingEngine
  workers : List Worker
  calls : List CallPhase
  accepted : List Ticketed
  transport : List Ticketed
  failed : List Ticketed
  drained : List Ticketed
deriving DecidableEq

namespace EngineRun

/-- A run on an engine without workers and calls. -/
def initial (engine : StreamingEngine) : EngineRun where
  engine := engine
  workers := []
  calls := []
  accepted := []
  transport := []
  failed := []
  drained := []

/-- The outcome of one attempt to send: the packet is in the channel of the
transport, its receiver is gone, or the attempt timed out. -/
inductive AttemptOutcome where
  | sent
  | disconnected
  | timedOut
deriving DecidableEq

/-- A worker moves on. -/
@[simps]
def setWorker (r : EngineRun) (w : Nat) (x : Worker) : EngineRun :=
  { r with workers := r.workers.set w x }

/-- A call moves on. -/
@[simps]
def setCall (r : EngineRun) (i : Nat) (phase : CallPhase) : EngineRun :=
  { r with calls := r.calls.set i phase }

/-- Replace the outbound queue. -/
@[simps engine workers calls accepted transport failed drained]
def setOutbound (r : EngineRun) (q : PacketQueue Ticketed) : EngineRun :=
  { r with engine := { r.engine with outboundQueue := q } }

/-- Replace the inbound queue. -/
def setInbound (r : EngineRun) (q : PacketQueue AudioPacket) : EngineRun :=
  { r with engine := { r.engine with inboundQueue := q } }

/-- The head of the delivery loop: count the attempt that begins. -/
def beginAttempt (profile : BuildProfile) (p : Ticketed) (attemptsRemaining : U32) : WorkerPhase :=
  match U32.sub profile attemptsRemaining 1 with
  | some remaining => .attempting p remaining
  | none => .panicked p

/-- Begin to deliver a packet, with one attempt more than the configured retries. -/
def beginDelivery (profile : BuildProfile) (config : StreamingConfig) (p : Ticketed) :
    WorkerPhase :=
  match U32.add profile config.maxRetryCount 1 with
  | some attempts => beginAttempt profile p attempts
  | none => .panicked p

/-- Release the receiver if a pending dequeue holds it. -/
def dropDequeue (r : EngineRun) : DequeuePhase → EngineRun
  | .waitingForLock => r
  | .waitingForPacket => r.setOutbound r.engine.outboundQueue.unlock

/-- One step of the outbound worker of this number. -/
def stepWorker (profile : BuildProfile) (r : EngineRun) (w : Nat) (x : Worker) :
    Option EngineRun :=
  match x.phase with
  | .top =>
      match r.engine.state with
      | .running => some (r.setWorker w { x with phase := .select .waitingForLock })
      | .stopped => some (r.setWorker w { x with phase := .exited })
      | .paused => some (r.setWorker w { x with phase := .awaitChange })
  | .awaitChange =>
      if x.seen = r.engine.version then none
      else some (r.setWorker w { phase := .top, seen := r.engine.version })
  | .select dequeue =>
      -- the change is polled first; when it is ready, the pending dequeue is dropped
      if x.seen = r.engine.version then
        some (r.setWorker w { x with phase := .pollDequeue dequeue })
      else
        some ((r.dropDequeue dequeue).setWorker w { phase := .top, seen := r.engine.version })
  | .pollDequeue .waitingForLock =>
      match r.engine.outboundQueue.lock (.worker w) with
      | some q =>
          some ((r.setOutbound q).setWorker w
            { x with phase := .pollDequeue .waitingForPacket })
      | none => some (r.setWorker w { x with phase := .select .waitingForLock })
  | .pollDequeue .waitingForPacket =>
      match r.engine.outboundQueue.recv with
      | some (p, q) => some ((r.setOutbound q).setWorker w { x with phase := .dequeued p })
      | none => some (r.setWorker w { x with phase := .select .waitingForPacket })
  | .dequeued p =>
      some ((r.setOutbound (r.engine.outboundQueue.countTaken 1).unlock).setWorker w
        { x with phase := beginDelivery profile r.engine.config p })
  | .attempting _ _ => none
  | .backoff p attemptsRemaining =>
      some (r.setWorker w { x with phase := beginAttempt profile p attemptsRemaining })
  | .countSent =>
      some ({ r with engine := r.engine.countSent }.setWorker w { x with phase := .top })
  | .countFailed p =>
      some ({ r with engine := r.engine.countSendFailed, failed := r.failed ++ [p] }.setWorker w
        { x with phase := .top })
  | .exited => none
  | .panicked _ => none

/-- The pending send attempt of a worker ends. -/
def stepAttempt (r : EngineRun) (w : Nat) (x : Worker) (outcome : AttemptOutcome) :
    Option EngineRun :=
  match x.phase with
  | .attempting p attemptsRemaining =>
      match outcome with
      | .sent =>
          some ({ r with transport := r.transport ++ [p] }.setWorker w
            { x with phase := .countSent })
      | .disconnected => some (r.setWorker w { x with phase := .countFailed p })
      | .timedOut =>
          if attemptsRemaining = 0 then some (r.setWorker w { x with phase := .countFailed p })
          else some (r.setWorker w { x with phase := .backoff p attemptsRemaining })
  | _ => none

/-- Spawn the configured number of workers, at least one, and keep their handles. -/
def spawnWorkers (r : EngineRun) : EngineRun :=
  let count := max r.engine.config.workerCount 1
  { r with
    engine :=
      { r.engine with
        workerHandles :=
          r.engine.workerHandles ++ List.range' r.workers.length count }
    workers := r.workers ++ List.replicate count Worker.spawned }

/-- Whether the worker of a handle has finished. -/
def hasFinished (r : EngineRun) (handle : Nat) : Bool :=
  match r.workers[handle]? with
  | some x => x.phase.finished
  | none => true

/-- One step of the call of this number. -/
def stepCall (r : EngineRun) (i : Nat) (phase : CallPhase) : Option EngineRun :=
  match phase with
  | .check op =>
      match op.refusal r.engine.state with
      | some error => some (r.setCall i (.returned (.error error)))
      | none => some (r.setCall i (.publish op))
  | .publish op =>
      some ({ r with engine := r.engine.send op.target }.setCall i op.afterPublish)
  | .spawn =>
      -- the body under the lock does not await, so the lock is free again after the step
      if r.engine.handlesLock = none then
        some (r.spawnWorkers.setCall i (.returned (.ok none)))
      else none
  | .lockHandles =>
      if r.engine.handlesLock = none then
        some ({ r with engine :=
            { r.engine with handlesLock := some (.call i), workerHandles := [] } }.setCall i
          (.join r.engine.workerHandles))
      else none
  | .join (handle :: rest) =>
      if r.hasFinished handle then some (r.setCall i (.join rest)) else none
  | .join [] =>
      some ({ r with engine := { r.engine with handlesLock := none } }.setCall i
        (.returned (.ok none)))
  | .enqueueCheck packet =>
      if r.engine.state = .stopped then
        some (r.setCall i (.returned (.error .engineNotRunning)))
      else some (r.setCall i (.enqueueSend packet))
  | .enqueueSend packet =>
      let p : Ticketed := { ticket := r.accepted.length, caller := i, packet }
      match r.engine.outboundQueue.trySend p with
      | some q =>
          some ({ r.setOutbound q with accepted := r.accepted ++ [p] }.setCall i .enqueueCount)
      | none => some (r.setCall i (.countDropped r.engine.outboundQueue.capacity))
  | .enqueueCount =>
      some ((r.setOutbound r.engine.outboundQueue.countSent).setCall i (.returned (.ok none)))
  | .receiveCheck packet =>
      if r.engine.state = .stopped then
        some (r.setCall i (.returned (.error .engineNotRunning)))
      else if packet.packetSize > r.engine.config.maxPacketSizeBytes then
        some (r.setCall i (.returned
          (.error (.packetTooLarge r.engine.config.maxPacketSizeBytes packet.packetSize))))
      else some (r.setCall i (.receiveSend packet))
  | .receiveSend packet =>
      match r.engine.inboundQueue.trySend packet with
      | some q => some ((r.setInbound q).setCall i .receiveCount)
      | none => some (r.setCall i (.countDropped r.engine.inboundQueue.capacity))
  | .receiveCount =>
      some ((r.setInbound r.engine.inboundQueue.countSent).setCall i .receiveMetric)
  | .receiveMetric =>
      some ({ r with engine := r.engine.countReceived }.setCall i (.returned (.ok none)))
  | .countDropped capacity =>
      some ({ r with engine := r.engine.countDropped }.setCall i
        (.returned (.error (.queueOverflow capacity))))
  | .dequeue .waitingForLock =>
      (r.engine.inboundQueue.lock (.call i)).map fun q =>
        (r.setInbound q).setCall i (.dequeue .waitingForPacket)
  | .dequeue .waitingForPacket =>
      r.engine.inboundQueue.recv.map fun (packet, q) =>
        (r.setInbound q).setCall i (.dequeued packet)
  | .dequeued packet =>
      some ((r.setInbound (r.engine.inboundQueue.countTaken 1).unlock).setCall i
        (.returned (.ok (some packet))))
  | .clearOutboundLock =>
      (r.engine.outboundQueue.lock (.call i)).map fun q =>
        (r.setOutbound q).setCall i (.clearOutbound 0)
  | .clearOutbound drained =>
      match r.engine.outboundQueue.recv with
      | some (p, q) =>
          some ({ r.setOutbound q with drained := r.drained ++ [p] }.setCall i
            (.clearOutbound (drained + 1)))
      | none =>
          some ((r.setOutbound (r.engine.outboundQueue.countTaken drained).unlock).setCall i
            .clearInboundLock)
  | .clearInboundLock =>
      (r.engine.inboundQueue.lock (.call i)).map fun q =>
        (r.setInbound q).setCall i (.clearInbound 0)
  | .clearInbound drained =>
      match r.engine.inboundQueue.recv with
      | some (_, q) => some ((r.setInbound q).setCall i (.clearInbound (drained + 1)))
      | none =>
          some ((r.setInbound (r.engine.inboundQueue.countTaken drained).unlock).setCall i
            (.returned (.ok none)))
  | .returned _ => none

/-- One step of a run: a task begins a call, a call or a worker makes its next step,
or a pending send attempt ends. -/
inductive Action where
  | invoke (call : EngineCall)
  | call (index : Nat)
  | worker (index : Nat)
  | attempt (index : Nat) (outcome : AttemptOutcome)
deriving DecidableEq

/-- Make one step. -/
def step (profile : BuildProfile) (r : EngineRun) : Action → Option EngineRun
  | .invoke call => some { r with calls := r.calls ++ [call.entry] }
  | .call i => r.calls[i]?.bind (r.stepCall i)
  | .worker w => r.workers[w]?.bind (r.stepWorker profile w)
  | .attempt w outcome => r.workers[w]?.bind fun x => r.stepAttempt w x outcome

/-- A step is a step of one task that exists. -/
theorem step_eq_some {profile : BuildProfile} {r r' : EngineRun} {action : Action} :
    step profile r action = some r' ↔
      (∃ call, action = .invoke call ∧ { r with calls := r.calls ++ [call.entry] } = r') ∨
      (∃ i phase, action = .call i ∧ r.calls[i]? = some phase ∧ r.stepCall i phase = some r') ∨
      (∃ w x, action = .worker w ∧ r.workers[w]? = some x ∧
        r.stepWorker profile w x = some r') ∨
      (∃ w x outcome, action = .attempt w outcome ∧ r.workers[w]? = some x ∧
        r.stepAttempt w x outcome = some r') := by
  cases action with
  | invoke call => simp [step]
  | call i => simp [step, Option.bind_eq_some_iff]
  | worker w => simp [step, Option.bind_eq_some_iff]
  | attempt w outcome => simp [step, Option.bind_eq_some_iff]

end EngineRun
end Streaming
end EchoSync
