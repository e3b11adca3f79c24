import EchoSync.Streaming.EngineMoves

/-!
# Streaming Engine - Schedules of a started engine

Schedules that exist for every configuration: starting a new engine, and letting a
fresh worker take a packet that is enqueued.

Main results:

- Theorem {lit}`run_start`: starting a new engine spawns its workers.
- Theorem {lit}`exists_taken`: a fresh worker takes the next packet and begins to
  deliver it.
-/

namespace EchoSync
namespace Streaming
namespace EngineRun

open TransitionSystem

/-- Make a call of the lifecycle, when so many calls have been made before, and so many
of its steps. -/
def lifecycleActions (calls : Nat) (op : Lifecycle) (steps : Nat) : List Action :=
  .invoke (.lifecycle op) :: List.replicate steps (.call calls)

/-- Let a worker make so many steps. -/
def workerActions (w steps : Nat) : List Action :=
  List.replicate steps (.worker w)

/-- Start a new engine. -/
def startActions : List Action :=
  lifecycleActions 0 .start 3

/-- A new engine after its start, before its workers have made a step. -/
def started (config : StreamingConfig) : EngineRun where
  engine :=
    { StreamingEngine.ofConfig config with
      state := .running
      version := 1
      workerHandles := List.range' 0 (max config.workerCount 1) }
  workers := List.replicate (max config.workerCount 1) Worker.spawned
  calls := [.returned (.ok none)]
  accepted := []
  transport := []
  failed := []
  drained := []

theorem run_start (profile : BuildProfile) (config : StreamingConfig) :
    run (step profile) (initial (StreamingEngine.ofConfig config)) startActions =
      some (started config) :=
  rfl

/-- Enqueue a packet, when so many calls have been made before. -/
def enqueueActions (calls : Nat) (packet : AudioPacket) : List Action :=
  [.invoke (.enqueue packet), .call calls, .call calls, .call calls]

/-- An engine that is not stopped accepts a packet while its channel has room. -/
theorem run_enqueue (profile : BuildProfile) {r : EngineRun} (packet : AudioPacket)
    (hstate : r.engine.state ≠ .stopped)
    (hroom : r.engine.outboundQueue.channel.length < max r.engine.outboundQueue.capacity 1) :
    run (step profile) r (enqueueActions r.calls.length packet) =
      let p : Ticketed := { ticket := r.accepted.length, caller := r.calls.length, packet }
      some
        { r.setOutbound { r.engine.outboundQueue with
            channel := r.engine.outboundQueue.channel ++ [p]
            length := r.engine.outboundQueue.length + 1 } with
          calls := r.calls ++ [.returned (.ok none)]
          accepted := r.accepted ++ [p] } := by
  simp [enqueueActions, run, step, stepCall, EngineCall.entry, hstate, PacketQueue.trySend, hroom,
    setCall, setOutbound, PacketQueue.countSent]

/-- Let a fresh worker see the published state, take a packet and begin to deliver. -/
def takeActions (w : Nat) : List Action :=
  workerActions w 7

/-- A fresh worker takes the packet at the front of the channel. -/
theorem run_take (profile : BuildProfile) {r : EngineRun} {w : Nat} {p : Ticketed}
    {rest : List Ticketed} (hx : r.workers[w]? = some Worker.spawned)
    (hstate : r.engine.state = .running) (hversion : 0 ≠ r.engine.version)
    (hlock : r.engine.outboundQueue.receiverLock = none)
    (hchannel : r.engine.outboundQueue.channel = p :: rest) :
    run (step profile) r (takeActions w) =
      some ((r.setOutbound { r.engine.outboundQueue with
          channel := rest, length := r.engine.outboundQueue.length - U64.wrap 1 }).setWorker w
        { phase := beginDelivery profile r.engine.config p, seen := r.engine.version }) := by
  simp [takeActions, workerActions, run, step, stepWorker, hx, hstate, hversion, hlock, hchannel,
    Worker.spawned, dropDequeue, PacketQueue.lock, PacketQueue.recv, PacketQueue.unlock,
    PacketQueue.countTaken, setWorker, setOutbound, List.getElem?_set_self']

/-- A running engine whose outbound channel is empty and whose receiver is free. -/
structure Idle (r : EngineRun) : Prop where
  running : r.engine.state = .running
  changed : 0 ≠ r.engine.version
  free : r.engine.outboundQueue.receiverLock = none
  empty : r.engine.outboundQueue.channel = []

theorem started_idle (config : StreamingConfig) : (started config).Idle :=
  ⟨rfl, Nat.zero_ne_one, rfl, rfl⟩

/-- Enqueue a packet, and let a fresh worker take it. -/
def handActions (calls : Nat) (packet : AudioPacket) (w : Nat) : List Action :=
  enqueueActions calls packet ++ takeActions w

/-- A fresh worker takes the next packet and begins to deliver it. -/
theorem exists_taken (profile : BuildProfile) {r : EngineRun} (h : r.Idle) {w : Nat}
    (hx : r.workers[w]? = some Worker.spawned) (packet : AudioPacket) :
    ∃ r', run (step profile) r (handActions r.calls.length packet w) = some r' ∧ r'.Idle ∧
      r'.engine.config = r.engine.config ∧ r'.calls.length = r.calls.length + 1 ∧
      r'.accepted = r.accepted ++
        [{ ticket := r.accepted.length, caller := r.calls.length, packet }] ∧
      r'.transport = r.transport ∧ r'.failed = r.failed ∧ r'.drained = r.drained ∧
      ∃ seen, r'.workers = r.workers.set w
        { phase := beginDelivery profile r.engine.config
            { ticket := r.accepted.length, caller := r.calls.length, packet }
          seen } := by
  have hrunning : r.engine.state ≠ .stopped := by
    rw [h.running]
    intro heq
    cases heq
  have hroom : r.engine.outboundQueue.channel.length <
      max r.engine.outboundQueue.capacity 1 := by
    rw [h.empty]
    exact lt_of_lt_of_le Nat.one_pos (le_max_right _ _)
  have henqueue := run_enqueue profile packet hrunning hroom
  rw [h.empty] at henqueue
  refine ⟨_, run_append_eq_some.mpr ⟨_, henqueue,
    run_take profile hx h.running h.changed h.free rfl⟩, ?_⟩
  exact ⟨⟨h.running, h.changed, h.free, rfl⟩, rfl, List.length_append, rfl, rfl, rfl, rfl, _, rfl⟩

/-- The first packet enqueued after a start. -/
def firstPacket : Ticketed where
  ticket := 0
  caller := 1
  packet := makePacket 1 1 0

/-- The second packet enqueued after a start. -/
def secondPacket : Ticketed where
  ticket := 1
  caller := 2
  packet := makePacket 2 2 20

/-- A pending attempt that succeeds. -/
theorem step_sent (profile : BuildProfile) {r : EngineRun} {w : Nat} {x : Worker} {p : Ticketed}
    {attemptsRemaining : U32} (hx : r.workers[w]? = some x)
    (hphase : x.phase = .attempting p attemptsRemaining) :
    step profile r (.attempt w .sent) =
      some ({ r with transport := r.transport ++ [p] }.setWorker w
        { x with phase := .countSent }) := by
  simp [step, stepAttempt, hx, hphase]

end EngineRun
end Streaming
end EchoSync
