import EchoSync.Buffer.JitterBuffer
import EchoSync.Foundations.TransitionSystem

/-!
# Buffer Layer - The shared buffer manager

The concurrency-safe entry point of the Buffer Layer.  Clones of a manager
share one jitter buffer behind a mutex, so a call by any task is one atomic
step on the shared state, and an interleaving of any number of tasks is one
list of calls in lock order.

Main results:

- Theorem {lit}`delivered_pairwise_lt`: without a reset, the popped packets
  have strictly increasing sequence numbers in lock order.
-/

namespace EchoSync
namespace Buffer

open Streaming

/-- The state shared by the clones of a manager: the locked jitter buffer, the
lock-free approximate length and the configuration. -/
structure BufferManager where
  inner : JitterBuffer
  approxLen : Nat
  config : BufferConfig

/-- Aggregated runtime statistics of a manager. -/
structure BufferStatistics where
  currentBufferSize : Nat
  averageDelayMs : ℚ
  packetLossCount : Nat
  duplicateCount : Nat
  latePacketCount : Nat
  droppedPacketCount : Nat
  maxBufferOccupancy : Nat
  averagePacketJitterMs : ℚ
  packetsDelivered : Nat
  packetsBuffered : Nat
deriving DecidableEq

namespace BufferManager

/-- A manager over a configuration that passes its validation. -/
def new (config : BufferConfig) : Except BufferError BufferManager :=
  match JitterBuffer.new config with
  | .error e => .error e
  | .ok inner => .ok { inner, approxLen := 0, config }

/-- A manager built from a configuration wraps a buffer built from it. -/
theorem new_spec {config : BufferConfig} {manager : BufferManager}
    (hnew : new config = .ok manager) :
    ∃ inner, JitterBuffer.new config = .ok inner ∧ manager = { inner, approxLen := 0, config } := by
  unfold new at hnew
  cases hinner : JitterBuffer.new config with
  | error e =>
      rw [hinner] at hnew
      contradiction
  | ok inner =>
      rw [hinner] at hnew
      cases hnew
      exact ⟨inner, rfl, rfl⟩

/-- Buffer a packet.  A panic inside the insertion skips the length update. -/
def pushPacket (m : BufferManager) (packet : AudioPacket) (now : Instant) :
    Outcome BufferError Unit × BufferManager :=
  match m.inner.insertPacket packet now with
  | (.panicked, inner) => (.panicked, { m with inner := inner })
  | (result, inner) => (result, { m with inner := inner, approxLen := inner.entries.length })

/-- Remove and return the next packet, if it is ready. -/
def popPacket (m : BufferManager) (clock : Nat → Instant) :
    Option AudioPacket × BufferManager :=
  let (packet, inner) := m.inner.nextPacket clock
  (packet, { m with inner := inner, approxLen := inner.entries.length })

/-- The next packet, left in place. -/
def peekPacket (m : BufferManager) : Option AudioPacket :=
  m.inner.peek

/-- Drain every buffered packet and discard them. -/
def clear (m : BufferManager) : BufferManager :=
  { m with inner := m.inner.flush.2, approxLen := 0 }

/-- The approximate number of buffered packets. -/
def size (m : BufferManager) : Nat :=
  m.approxLen

/-- Whether the approximate length is zero. -/
def isEmpty (m : BufferManager) : Bool :=
  m.size == 0

/-- Forget the packets and the sequence tracking. -/
def reset (m : BufferManager) : BufferManager :=
  { m with inner := m.inner.reset, approxLen := 0 }

/-- A snapshot of the runtime statistics. -/
def statistics (m : BufferManager) : BufferStatistics where
  currentBufferSize := m.inner.entries.length
  averageDelayMs := m.inner.targetDelay.asSecsF64 * 1000
  packetLossCount := m.inner.window.stats.packetsLost
  duplicateCount := m.inner.window.stats.duplicatesDetected
  latePacketCount := m.inner.window.stats.latePackets
  droppedPacketCount := m.inner.packetsDroppedTotal
  maxBufferOccupancy := m.inner.maxOccupancy
  averagePacketJitterMs := m.inner.jitterEstimateMs
  packetsDelivered := m.inner.packetsDeliveredTotal
  packetsBuffered := m.inner.packetsBufferedTotal

/-- Set the target delay within the configured bounds. -/
def setTargetDelay (m : BufferManager) (delay : Duration) :
    Except BufferError Unit × BufferManager :=
  let (result, inner) := m.inner.setTargetDelay delay
  (result, { m with inner := inner })

/-- The active target delay. -/
def currentDelay (m : BufferManager) : Duration :=
  m.inner.targetDelay

end BufferManager

/-! ## Interleavings of calls -/

/-- One call on a shared manager, with the packet or delay it passes and the
clock readings made while it holds the lock. -/
inductive ManagerCall where
  | pushPacket (packet : AudioPacket) (now : Instant)
  | popPacket (clock : Nat → Instant)
  | peekPacket
  | clear
  | setTargetDelay (delay : Duration)
  | statistics
  | currentDelay
  | reset

/-- A shared manager together with the packets popped so far, in lock order. -/
structure ManagerRun where
  manager : BufferManager
  delivered : List AudioPacket

namespace ManagerRun

/-- A run that has not started. -/
def start (manager : BufferManager) : ManagerRun where
  manager := manager
  delivered := []

/-- Execute the lock-held body of one call. -/
def step (r : ManagerRun) : ManagerCall → ManagerRun
  | .pushPacket packet now => { r with manager := (r.manager.pushPacket packet now).2 }
  | .popPacket clock =>
      let (packet, manager) := r.manager.popPacket clock
      { manager, delivered := r.delivered ++ packet.toList }
  | .peekPacket => r
  | .clear => { r with manager := r.manager.clear }
  | .setTargetDelay delay => { r with manager := (r.manager.setTargetDelay delay).2 }
  | .statistics => r
  | .currentDelay => r
  | .reset => { r with manager := r.manager.reset }

/-- The sequence numbers popped so far, in lock order. -/
def deliveredNumbers (r : ManagerRun) : List U64 :=
  r.delivered.map AudioPacket.sequenceNumber

/-- Popped numbers increase, and the jitter buffer has settled all of them. -/
structure Invariant (r : ManagerRun) : Prop where
  increasing : r.deliveredNumbers.Pairwise (· < ·)
  settled : r.manager.inner.DeliveryInvariant (· ∈ r.deliveredNumbers)

theorem start_invariant {config : BufferConfig} {manager : BufferManager}
    (hnew : BufferManager.new config = .ok manager) : (start manager).Invariant := by
  rcases BufferManager.new_spec hnew with ⟨inner, hinner, rfl⟩
  have hempty := JitterBuffer.new_invariant hinner
  exact
    { increasing := List.Pairwise.nil
      settled := by simpa [start, deliveredNumbers] using hempty }

theorem pushPacket_inner (m : BufferManager) (packet : AudioPacket) (now : Instant) :
    (m.pushPacket packet now).2.inner = (m.inner.insertPacket packet now).2 := by
  unfold BufferManager.pushPacket
  rcases m.inner.insertPacket packet now with ⟨result, inner⟩
  cases result <;> rfl

@[simp]
theorem step_popPacket_inner (r : ManagerRun) (clock : Nat → Instant) :
    (r.step (.popPacket clock)).manager.inner = (r.manager.inner.nextPacket clock).2 :=
  rfl

@[simp]
theorem step_popPacket_delivered (r : ManagerRun) (clock : Nat → Instant) :
    (r.step (.popPacket clock)).delivered =
      r.delivered ++ (r.manager.inner.nextPacket clock).1.toList :=
  rfl

/-- A pop keeps the invariant: the packet it returns lies above everything popped
before it. -/
theorem popPacket_invariant {r : ManagerRun} (h : r.Invariant) (clock : Nat → Instant) :
    (r.step (.popPacket clock)).Invariant := by
  rcases JitterBuffer.nextPacket_invariant h.settled clock with ⟨hkeep, habove⟩
  cases hpop : (r.manager.inner.nextPacket clock).1 with
  | none =>
      have hnumbers : (r.step (.popPacket clock)).deliveredNumbers = r.deliveredNumbers := by
        simp [deliveredNumbers, hpop]
      refine ⟨hnumbers ▸ h.increasing, ?_⟩
      rw [hnumbers]
      simpa [hpop] using hkeep
  | some packet =>
      have hnumbers : (r.step (.popPacket clock)).deliveredNumbers =
          r.deliveredNumbers ++ [packet.sequenceNumber] := by
        simp [deliveredNumbers, hpop]
      constructor
      · rw [hnumbers]
        refine List.pairwise_append.mpr ⟨h.increasing, List.pairwise_singleton _ _, ?_⟩
        intro d hd n hn
        rw [List.mem_singleton.mp hn]
        exact habove packet hpop d hd
      · rw [hnumbers]
        simpa [hpop] using hkeep

/-- Every call but a reset keeps the invariant. -/
theorem step_invariant {r : ManagerRun} (h : r.Invariant) {call : ManagerCall}
    (hcall : call ≠ .reset) : (r.step call).Invariant := by
  cases call with
  | pushPacket packet now =>
      refine ⟨h.increasing, ?_⟩
      have hinsert := JitterBuffer.insertPacket_invariant h.settled packet now
      exact pushPacket_inner r.manager packet now ▸ hinsert
  | popPacket clock => exact popPacket_invariant h clock
  | peekPacket => exact h
  | clear => exact ⟨h.increasing, JitterBuffer.flush_invariant h.settled⟩
  | setTargetDelay delay =>
      exact ⟨h.increasing, JitterBuffer.setTargetDelay_invariant h.settled delay⟩
  | statistics => exact h
  | currentDelay => exact h
  | reset => exact absurd rfl hcall

/-- On a manager built from a valid configuration, in every interleaving of calls
without a reset, the popped packets have strictly increasing sequence numbers in
lock order: none is delivered twice, and none after a later one. -/
theorem delivered_pairwise_lt {config : BufferConfig} {manager : BufferManager}
    (hnew : BufferManager.new config = .ok manager) (calls : List ManagerCall)
    (hreset : ∀ call ∈ calls, call ≠ .reset) :
    (calls.foldl step (start manager)).deliveredNumbers.Pairwise (· < ·) := by
  have hrun : (calls.foldl step (start manager)).Invariant :=
    List.foldlRecOn calls step (start_invariant hnew)
      fun _ hr call hcall => step_invariant hr (hreset call hcall)
  exact hrun.increasing

/-- Two pushes and two pops of the largest number: the second push is refused by
the duplicate cache alone, since the watermark has saturated. -/
theorem delivered_pairwise_lt_saturated :
    ∃ manager, BufferManager.new BufferConfig.default = .ok manager ∧
      let packet := makePacket 7 (2 ^ 64 - 1) 0
      let calls : List ManagerCall :=
        [.pushPacket packet (Instant.ofMillis 0), .popPacket fun _ => Instant.ofMillis 500,
          .pushPacket packet (Instant.ofMillis 501), .popPacket fun _ => Instant.ofMillis 999]
      (calls.foldl step (start manager)).deliveredNumbers = [2 ^ 64 - 1] ∧
        (calls.foldl step (start manager)).deliveredNumbers.Pairwise (· < ·) := by
  refine ⟨_, rfl, ?_, @delivered_pairwise_lt BufferConfig.default _ rfl _ (by simp)⟩
  decide +kernel

end ManagerRun
end Buffer
end EchoSync
