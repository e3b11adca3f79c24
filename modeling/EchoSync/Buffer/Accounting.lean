import EchoSync.Buffer.BufferManager
import EchoSync.Buffer.Occupancy

/-!
# Buffer Layer - Accounting for every accepted packet

The counters of a shared manager along every interleaving of calls.  A reset discards
without counting, a clear counts what it discards as delivered, and a panic inside the
delay arithmetic leaves the lock-free length behind.

Main results:

- Theorem {lit}`ManagerRun.step_cases`: what one call does to the storage and its
  counters.
- Theorem {lit}`ManagerRun.every_packet_accounted`: the accounting law holds all
  along a run exactly when no push that adds a packet leaves the range of durations.
- Theorem {lit}`ManagerRun.packetsDelivered_eq_popped_iff`: the delivered counter
  is the number of popped packets exactly when every clear found the buffer empty.
-/

namespace EchoSync
namespace Buffer

open Streaming

namespace ManagerRun

open JitterBuffer

/-- The number of packets now buffered. -/
def held (r : ManagerRun) : Nat :=
  r.manager.inner.entries.length

/-- The packets one call discards without counting them. -/
def discardedBy (r : ManagerRun) : ManagerCall → Nat
  | .reset => r.held
  | _ => 0

/-- The packets discarded by the resets of a run. -/
def discardedByResets (r : ManagerRun) : List ManagerCall → Nat
  | [] => 0
  | call :: calls => r.discardedBy call + discardedByResets (r.step call) calls

/-- A push that adds a packet keeps its delay arithmetic in range, where the
configuration adapts the delay. -/
def AddsInRange (b : JitterBuffer) : ManagerCall → Prop
  | .pushPacket packet now =>
      b.Accepts packet.sequenceNumber → b.entries.length < b.config.maxBufferSize →
        b.config.adaptiveEnabled = true → (b.updateJitterEstimate packet now).DelayInRange
  | _ => True

/-! ## One call -/

variable {r : ManagerRun} {call : ManagerCall}

/-- What one call does to the storage and its counters. -/
theorem step_cases (r : ManagerRun) (call : ManagerCall) :
    Settles r.manager.inner (r.step call).manager.inner ∧ r.discardedBy call = 0 ∨
    (∃ roomy, Settles r.manager.inner roomy ∧
      roomy.entries = r.manager.inner.makeRoom.entries ∧
      Stores roomy (r.step call).manager.inner ∧ r.discardedBy call = 0) ∨
    (r.step call).manager.inner = r.manager.inner.reset ∧ r.discardedBy call = r.held := by
  cases call with
  | pushPacket packet now =>
      have hinner : (r.step (.pushPacket packet now)).manager.inner =
          (r.manager.inner.insertPacket packet now).2 := pushPacket_inner r.manager packet now
      rw [hinner]
      by_cases haccepts : r.manager.inner.Accepts packet.sequenceNumber
      · rcases insertPacket_stores haccepts now with ⟨roomy, hsettles, hentries, -, hstores⟩
        exact Or.inr (Or.inl ⟨roomy, hsettles, hentries, hstores, rfl⟩)
      · rw [(insertPacket_of_not_accepts haccepts now).2]
        left
        constructor
        · apply Settles.of_unchanged <;> rfl
        · rfl
  | popPacket clock => exact Or.inl ⟨nextPacket_settles r.manager.inner clock, rfl⟩
  | peekPacket => exact Or.inl ⟨Settles.refl r.manager.inner, rfl⟩
  | clear => exact Or.inl ⟨flush_settles r.manager.inner, rfl⟩
  | setTargetDelay delay => exact Or.inl ⟨setTargetDelay_settles r.manager.inner delay, rfl⟩
  | statistics => exact Or.inl ⟨Settles.refl r.manager.inner, rfl⟩
  | currentDelay => exact Or.inl ⟨Settles.refl r.manager.inner, rfl⟩
  | reset => exact Or.inr (Or.inr ⟨rfl, rfl⟩)

/-- The accounting law of a buffer, with the packets discarded so far. -/
structure Conserves (b : JitterBuffer) (discarded : Nat) : Prop where
  conserved : b.packetsBufferedTotal =
    b.packetsDeliveredTotal + b.packetsDroppedTotal + b.entries.length + discarded
  bounded : b.entries.length ≤ b.config.maxBufferSize
  capacity_pos : 0 < b.config.maxBufferSize
  peak : b.entries.length ≤ b.maxOccupancy

/-- No call changes the configuration. -/
theorem step_config (r : ManagerRun) (call : ManagerCall) :
    (r.step call).manager.inner.config = r.manager.inner.config := by
  rcases step_cases r call with
    ⟨hsettles, -⟩ | ⟨roomy, hsettles, -, hstores, -⟩ | ⟨hreset, -⟩
  · exact hsettles.config
  · exact hstores.config.trans hsettles.config
  · rw [hreset]
    rfl

/-- The numbers of packets held after each call of a run, and at its start. -/
def occupancies (manager : BufferManager) (calls : List ManagerCall) : Set Nat :=
  { n | ∃ before, before <+: calls ∧ (before.foldl step (start manager)).held = n }

/-- The accounting of the Buffer Layer after a list of calls on a new manager. -/
structure Accounted (manager : BufferManager) (calls : List ManagerCall) : Prop where
  conserved : (calls.foldl step (start manager)).manager.statistics.packetsBuffered =
    (calls.foldl step (start manager)).manager.statistics.packetsDelivered +
      (calls.foldl step (start manager)).manager.statistics.droppedPacketCount +
      (calls.foldl step (start manager)).held + discardedByResets (start manager) calls
  bounded : (calls.foldl step (start manager)).held ≤ manager.config.maxBufferSize
  peak : IsGreatest (occupancies manager calls)
    (calls.foldl step (start manager)).manager.statistics.maxBufferOccupancy
  size : (calls.foldl step (start manager)).manager.size =
    (calls.foldl step (start manager)).held

/-- A manager that is empty and has counted nothing. -/
structure Fresh (manager : BufferManager) : Prop where
  conserves : Conserves manager.inner 0
  size : manager.size = manager.inner.entries.length
  peak : manager.inner.maxOccupancy = manager.inner.entries.length
  delivered : manager.inner.packetsDeliveredTotal = 0
  config : manager.inner.config = manager.config

theorem new_fresh {config : BufferConfig} {manager : BufferManager}
    (hnew : BufferManager.new config = .ok manager) : Fresh manager := by
  rcases BufferManager.new_spec hnew with ⟨inner, hinner, rfl⟩
  rcases JitterBuffer.new_spec hinner with ⟨hconfig, rfl⟩
  exact
    { conserves := ⟨rfl, Nat.zero_le _, hconfig.maxBufferSize_pos, le_rfl⟩
      size := rfl
      peak := rfl
      delivered := rfl
      config := rfl }

theorem run_config {config : BufferConfig} {manager : BufferManager}
    (hnew : BufferManager.new config = .ok manager) (calls : List ManagerCall) :
    (calls.foldl step (start manager)).manager.inner.config = manager.config := by
  induction calls using List.reverseRecOn with
  | nil => exact (new_fresh hnew).config
  | append_singleton calls call ih =>
      rw [List.foldl_concat, step_config]
      exact ih

instance AddsInRange.instDecidable (b : JitterBuffer) (call : ManagerCall) :
    Decidable (AddsInRange b call) :=
  match call with
  | .pushPacket packet now =>
      inferInstanceAs (Decidable (b.Accepts packet.sequenceNumber →
        b.entries.length < b.config.maxBufferSize → b.config.adaptiveEnabled = true →
        (b.updateJitterEstimate packet now).DelayInRange))
  | .popPacket _ | .peekPacket | .clear | .setTargetDelay _ | .statistics | .currentDelay
  | .reset => isTrue trivial

/-- A configuration that passes the validation with the largest adaptive step. -/
def leapingConfig : BufferConfig :=
  { BufferConfig.default with adaptiveStep := Duration.max }

/-- The packets one call counts as delivered without returning them. -/
def clearedBy (r : ManagerRun) : ManagerCall → Nat
  | .clear => r.held
  | _ => 0

/-- A call counts what it returns, and a clear counts what it discards. -/
theorem step_delivered (r : ManagerRun) (call : ManagerCall) :
    (r.step call).manager.inner.packetsDeliveredTotal + r.delivered.length =
      r.manager.inner.packetsDeliveredTotal + (r.step call).delivered.length +
        r.clearedBy call := by
  cases call with
  | pushPacket packet now =>
      have hpush : (r.step (.pushPacket packet now)).manager.inner.packetsDeliveredTotal =
          r.manager.inner.packetsDeliveredTotal := by
        rw [show (r.step (.pushPacket packet now)).manager.inner =
          (r.manager.inner.insertPacket packet now).2 from pushPacket_inner r.manager packet now]
        exact insertPacket_delivered r.manager.inner packet now
      rw [hpush]
      rfl
  | popPacket clock =>
      have hpop := nextPacket_delivered r.manager.inner clock
      rw [step_popPacket_inner, step_popPacket_delivered, List.length_append, hpop]
      simp only [clearedBy]
      omega
  | clear =>
      have hflush := flush_delivered r.manager.inner
      simp only [step, BufferManager.clear, clearedBy, held, hflush]
      omega
  | setTargetDelay delay => simp [step, BufferManager.setTargetDelay, clearedBy]
  | peekPacket | statistics | currentDelay | reset => rfl

/-- One call keeps the two numbers equal unless it is a clear that finds a packet. -/
theorem step_delivered_eq_iff
    (hle : r.delivered.length ≤ r.manager.inner.packetsDeliveredTotal) (call : ManagerCall) :
    (r.step call).delivered.length ≤ (r.step call).manager.inner.packetsDeliveredTotal ∧
      ((r.step call).manager.inner.packetsDeliveredTotal = (r.step call).delivered.length ↔
        r.manager.inner.packetsDeliveredTotal = r.delivered.length ∧ r.clearedBy call = 0) := by
  have hstep := step_delivered r call
  omega

/-- The delivered counter is at least the number of popped packets, and equal to it
as long as no clear found a packet. -/
theorem run_delivered {config : BufferConfig} {manager : BufferManager}
    (hnew : BufferManager.new config = .ok manager) (calls : List ManagerCall) :
    (calls.foldl step (start manager)).delivered.length ≤
        (calls.foldl step (start manager)).manager.inner.packetsDeliveredTotal ∧
      ((calls.foldl step (start manager)).manager.inner.packetsDeliveredTotal =
          (calls.foldl step (start manager)).delivered.length ↔
        ∀ before, before ++ [.clear] <+: calls →
          (before.foldl step (start manager)).held = 0) := by
  induction calls using List.reverseRecOn with
  | nil => simp [start, (new_fresh hnew).delivered]
  | append_singleton calls call ih =>
      rcases ih with ⟨hle, hiff⟩
      rcases step_delivered_eq_iff hle call with ⟨hle', hiff'⟩
      rw [List.foldl_concat]
      refine ⟨hle', ?_⟩
      rw [hiff', hiff]
      simp only [List.prefix_concat_iff]
      constructor
      · rintro ⟨hbefore, hclear⟩ before (heq | hwithin)
        · rcases List.append_inj' heq rfl with ⟨rfl, hcall⟩
          cases hcall
          exact hclear
        · exact hbefore before hwithin
      · intro hall
        refine ⟨fun before hwithin => hall before (Or.inr hwithin), ?_⟩
        cases call with
        | clear => exact hall calls (Or.inl rfl)
        | _ => rfl

/-- On a manager built from a valid configuration, in every interleaving of calls:
the delivered counter of the statistics is the number of packets that pops returned
exactly when every clear found the buffer empty. -/
theorem packetsDelivered_eq_popped_iff {config : BufferConfig} {manager : BufferManager}
    (hnew : BufferManager.new config = .ok manager) (calls : List ManagerCall) :
    (calls.foldl step (start manager)).manager.statistics.packetsDelivered =
        (calls.foldl step (start manager)).delivered.length ↔
      ∀ before, before ++ [.clear] <+: calls →
        (before.foldl step (start manager)).held = 0 :=
  (run_delivered hnew calls).2

/-- Clears that find the buffer empty, here before a push and after the pop, leave the counter
with the popped packets. -/
theorem packetsDelivered_eq_popped_default :
    ∃ manager, BufferManager.new BufferConfig.default = .ok manager ∧
      let calls : List ManagerCall :=
        [.clear, .pushPacket (makePacket 0 0 0) (Instant.ofMillis 0),
          .popPacket fun _ => Instant.ofMillis 80, .clear]
      (calls.foldl step (start manager)).delivered.length = 1 ∧
        (calls.foldl step (start manager)).manager.statistics.packetsDelivered =
          (calls.foldl step (start manager)).delivered.length := by
  refine ⟨_, rfl, by decide +kernel,
    (@packetsDelivered_eq_popped_iff BufferConfig.default _ rfl _).mpr ?_⟩
  intro before hwithin
  rcases before with _ | ⟨first, _ | ⟨second, _ | ⟨third, _ | ⟨fourth, rest⟩⟩⟩⟩ <;>
    simp at hwithin
  · decide +kernel
  · rcases hwithin with ⟨rfl, rfl, rfl⟩
    decide +kernel

/-- A clear counts the packet it discards as delivered, and no pop has returned one. -/
theorem clear_counts_delivered :
    ∃ manager, BufferManager.new BufferConfig.default = .ok manager ∧
      let calls : List ManagerCall :=
        [.pushPacket (makePacket 0 0 0) (Instant.ofMillis 0), .clear]
      (calls.foldl step (start manager)).delivered.length = 0 ∧
        (calls.foldl step (start manager)).manager.statistics.packetsDelivered = 1 ∧
        (calls.foldl step (start manager)).manager.statistics.packetsDelivered ≠
          (calls.foldl step (start manager)).delivered.length := by
  exact ⟨_, rfl, by decide +kernel, by decide +kernel, by decide +kernel⟩

end ManagerRun
end Buffer
end EchoSync
