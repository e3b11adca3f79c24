import EchoSync.Buffer.PacketWindow
import EchoSync.Foundations.OrderedMap
import EchoSync.Streaming.Packet

/-!
# Buffer Layer - The jitter buffer

The single-threaded core of the Buffer Layer: packet storage in sequence order,
target-delay release timing, staleness and overflow eviction, and the adaptive
delay.  Every operation takes the clock readings it makes as arguments, and a
call that panics returns the state it leaves behind.

Main results:

- Structure {lit}`JitterBuffer.DeliveryInvariant`: every buffered number lies
  above every settled one.
- Theorems {lit}`insertPacket_invariant`, {lit}`nextPacket_invariant` and
  {lit}`flush_invariant`: the operations keep it, and the packet delivered next
  is above everything settled before.
-/

namespace EchoSync
namespace Buffer

open Streaming

/-- A buffered packet and the local time it was accepted. -/
structure BufferedEntry where
  packet : AudioPacket
  arrival : Instant

/-- Packet storage, the packet window, the release timing and the counters. -/
structure JitterBuffer where
  config : BufferConfig
  entries : OrderedMap U64 BufferedEntry
  window : PacketWindow
  targetDelay : Duration
  lastPacketTimestampMs : Option U64
  lastArrival : Option Instant
  jitterEstimateMs : ℚ
  packetsBufferedTotal : Nat
  packetsDeliveredTotal : Nat
  packetsDroppedTotal : Nat
  maxOccupancy : Nat

namespace JitterBuffer

/-- A buffer without packets and counts. -/
def ofConfig (config : BufferConfig) : JitterBuffer where
  config := config
  entries := OrderedMap.empty
  window := PacketWindow.new config.duplicateCacheSize config.maxMissingPackets
  targetDelay := config.targetDelay
  lastPacketTimestampMs := none
  lastArrival := none
  jitterEstimateMs := 0
  packetsBufferedTotal := 0
  packetsDeliveredTotal := 0
  packetsDroppedTotal := 0
  maxOccupancy := 0

/-- A new, empty buffer over a configuration that passes its validation. -/
def new (config : BufferConfig) : Except BufferError JitterBuffer :=
  match config.validate with
  | .error e => .error e
  | .ok () => .ok (ofConfig config)

/-- A buffer built from a valid configuration. -/
theorem new_spec {config : BufferConfig} {b : JitterBuffer} (hnew : new config = .ok b) :
    ValidBufferConfig config ∧ b = ofConfig config := by
  unfold new at hnew
  cases hvalid : config.validate with
  | error e =>
      rw [hvalid] at hnew
      contradiction
  | ok _ =>
      rw [hvalid] at hnew
      cases hnew
      exact ⟨BufferConfig.validate_eq_ok_iff.mp hvalid, rfl⟩

/-! ## Insertion -/

/-- At capacity, drop the buffered packet with the smallest sequence number. -/
def makeRoom (b : JitterBuffer) : JitterBuffer :=
  if b.entries.length ≥ b.config.maxBufferSize then
    match b.entries.first? with
    | some (oldest, _) =>
        { b with
          entries := b.entries.remove oldest
          packetsDroppedTotal := b.packetsDroppedTotal + 1 }
    | none => b
  else b

/-- The running jitter estimate: a sixteenth of the way from the old estimate to
the difference between the arrival gap and the capture gap. -/
def updateJitterEstimate (b : JitterBuffer) (packet : AudioPacket) (now : Instant) :
    JitterBuffer :=
  let estimate :=
    match b.lastPacketTimestampMs, b.lastArrival with
    | some lastTs, some lastArrival =>
        let arrivalGapMs := (now.elapsedSince lastArrival).asSecsF64 * 1000
        let sendGapMs := (packet.timestampMs.val : ℚ) - (lastTs.val : ℚ)
        let d := |arrivalGapMs - sendGapMs|
        b.jitterEstimateMs + (d - b.jitterEstimateMs) / 16
    | _, _ => b.jitterEstimateMs
  { b with
    jitterEstimateMs := estimate
    lastPacketTimestampMs := some packet.timestampMs
    lastArrival := some now }

/-- Move the target delay towards the configured delay plus four times the
jitter estimate, by at most one adaptive step.  Both duration conversions can
panic. -/
def adaptTargetDelay (b : JitterBuffer) : Option JitterBuffer :=
  match Duration.fromSecsF64 (max b.jitterEstimateMs 0 * 4 / 1000) with
  | none => none
  | some headroom =>
      let candidate := (b.config.targetDelay.saturatingAdd headroom).clamp
        b.config.minTargetDelay b.config.maxTargetDelay
      let stepped :=
        if candidate > b.targetDelay then
          (b.targetDelay.add b.config.adaptiveStep).map (min · candidate)
        else if candidate < b.targetDelay then
          some (max (b.targetDelay.saturatingSub b.config.adaptiveStep) candidate)
        else some b.targetDelay
      match stepped with
      | none => none
      | some stepped =>
          some
            { b with
              targetDelay := stepped.clamp b.config.minTargetDelay b.config.maxTargetDelay }

/-- Store an admitted packet and count it. -/
def store (b : JitterBuffer) (packet : AudioPacket) (now : Instant) : JitterBuffer :=
  let entries := b.entries.insert packet.sequenceNumber { packet, arrival := now }
  { b with
    entries := entries
    packetsBufferedTotal := b.packetsBufferedTotal + 1
    maxOccupancy := max b.maxOccupancy entries.length }

/-- The end of an insertion: adapt the delay, if the configuration asks for it. -/
def adaptIfEnabled (b : JitterBuffer) : Outcome BufferError Unit × JitterBuffer :=
  if b.config.adaptiveEnabled then
    match b.adaptTargetDelay with
    | none => (.panicked, b)
    | some adapted => (.ok (), adapted)
  else (.ok (), b)

/-- Accept a packet: reject duplicates and already processed numbers, make room,
update the jitter estimate, store the packet and adapt the delay. -/
def insertPacket (b : JitterBuffer) (packet : AudioPacket) (now : Instant) :
    Outcome BufferError Unit × JitterBuffer :=
  if b.entries.containsKey packet.sequenceNumber then
    (.err (.duplicatePacket packet.sequenceNumber), b)
  else
    match b.window.admitSequence packet.sequenceNumber with
    | (.error e, window) => (.err e, { b with window := window })
    | (.ok (), window) =>
        let roomy := { b with window := window }.makeRoom
        ((roomy.updateJitterEstimate packet now).store packet now).adaptIfEnabled

/-! ## Release -/

/-- The buffered numbers that have exceeded the maximum age.  The clock is read
once for each entry, in sequence order. -/
def staleSequences (b : JitterBuffer) (clock : Nat → Instant) : List U64 :=
  (b.entries.toList.zipIdx.filter fun e =>
    decide ((clock e.2).elapsedSince e.1.2.arrival > b.config.maxPacketAge)).map
      fun e => e.1.1

/-- Drop one number as stale. -/
def dropStale (b : JitterBuffer) (sequenceNumber : U64) : JitterBuffer :=
  { b with
    entries := b.entries.remove sequenceNumber
    packetsDroppedTotal := b.packetsDroppedTotal + 1 }

/-- Drop every packet that has exceeded the maximum age. -/
def evictStale (b : JitterBuffer) (clock : Nat → Instant) : JitterBuffer :=
  (b.staleSequences clock).foldl dropStale b

/-- Hand the entry with this number to the consumer side: take it out of the
storage and advance the window. -/
def release (b : JitterBuffer) (sequenceNumber : U64) : JitterBuffer :=
  { b with
    entries := b.entries.remove sequenceNumber
    window := (b.window.advance sequenceNumber).2
    packetsDeliveredTotal := b.packetsDeliveredTotal + 1 }

/-- The next packet in sequence order, if it has been held for the target delay.
After the readings of the eviction the clock is read once more. -/
def nextPacket (b : JitterBuffer) (clock : Nat → Instant) :
    Option AudioPacket × JitterBuffer :=
  let fresh := b.evictStale clock
  match fresh.entries.first? with
  | none => (none, fresh)
  | some (sequenceNumber, entry) =>
      if (clock b.entries.length).elapsedSince entry.arrival ≥ fresh.targetDelay then
        (some entry.packet, fresh.release sequenceNumber)
      else (none, fresh)

/-- Release one number of a snapshot of the keys, if it is still buffered. -/
def drainOne (state : List AudioPacket × JitterBuffer) (sequenceNumber : U64) :
    List AudioPacket × JitterBuffer :=
  match state.2.entries.get? sequenceNumber with
  | some entry => (state.1 ++ [entry.packet], state.2.release sequenceNumber)
  | none => state

/-- Drain every buffered packet in sequence order, ignoring the target delay. -/
def flush (b : JitterBuffer) : List AudioPacket × JitterBuffer :=
  b.entries.keys.foldl drainOne ([], b)

/-- Forget the packets and the sequence tracking; restore the configured delay.
The counters of the buffer itself survive. -/
def reset (b : JitterBuffer) : JitterBuffer :=
  { b with
    entries := OrderedMap.empty
    window := b.window.reset
    targetDelay := b.config.targetDelay
    lastPacketTimestampMs := none
    lastArrival := none
    jitterEstimateMs := 0 }

/-- Set the target delay within the configured bounds. -/
def setTargetDelay (b : JitterBuffer) (delay : Duration) :
    Except BufferError Unit × JitterBuffer :=
  if delay < b.config.minTargetDelay ∨ delay > b.config.maxTargetDelay then
    (.error
      (.invalidTargetDelay (U64.wrap delay.asMillis) (U64.wrap b.config.minTargetDelay.asMillis)
        (U64.wrap b.config.maxTargetDelay.asMillis)), b)
  else (.ok (), { b with targetDelay := delay })

/-- The earliest buffered packet, left in place. -/
def peek (b : JitterBuffer) : Option AudioPacket :=
  b.entries.first?.map fun e => e.2.packet

/-! ## The delivery invariant -/

/-- Every buffered packet sits under its own sequence number, every buffered
number lies above every settled one, and the duplicate cache has room. -/
structure DeliveryInvariant (b : JitterBuffer) (settled : U64 → Prop) : Prop where
  keyed : ∀ e ∈ b.entries.toList, e.2.packet.sequenceNumber = e.1
  cache : b.window.CacheInvariant
  capacity_pos : 0 < b.window.cacheCapacity
  passed : ∀ d, settled d → b.window.Settled d
  below : ∀ d, settled d → ∀ n ∈ b.entries.keys, d < n

section Invariant

variable {settled : U64 → Prop} {b b' : JitterBuffer}

/-- A new buffer has settled nothing. -/
theorem new_invariant {config : BufferConfig} (hnew : new config = .ok b) :
    b.DeliveryInvariant fun _ => False := by
  rcases new_spec hnew with ⟨hconfig, rfl⟩
  exact
    { keyed := by simp [ofConfig, OrderedMap.empty]
      cache := PacketWindow.new_cacheInvariant _ _
      capacity_pos := hconfig.duplicateCacheSize_pos
      passed := fun _ hfalse => hfalse.elim
      below := fun _ hfalse => hfalse.elim }

/-- Losing entries and changing anything else than the window is harmless. -/
theorem DeliveryInvariant.of_entries (h : b.DeliveryInvariant settled)
    (hentries : ∀ e ∈ b'.entries.toList, e ∈ b.entries.toList)
    (hwindow : b'.window = b.window) : b'.DeliveryInvariant settled where
  keyed := fun e he => h.keyed e (hentries e he)
  cache := hwindow ▸ h.cache
  capacity_pos := hwindow ▸ h.capacity_pos
  passed := fun d hd => hwindow ▸ h.passed d hd
  below := by
    intro d hd n hn
    rcases OrderedMap.mem_keys_iff.mp hn with ⟨entry, hentry⟩
    exact h.below d hd n (OrderedMap.mem_keys_iff.mpr ⟨entry, hentries _ hentry⟩)

theorem remove_invariant (h : b.DeliveryInvariant settled) (n : U64)
    (hentries : b'.entries = b.entries.remove n) (hwindow : b'.window = b.window) :
    b'.DeliveryInvariant settled := by
  refine h.of_entries ?_ hwindow
  intro e he
  rw [hentries] at he
  exact List.mem_of_mem_filter he

theorem makeRoom_invariant (h : b.DeliveryInvariant settled) :
    b.makeRoom.DeliveryInvariant settled := by
  unfold makeRoom
  split_ifs with hfull
  · split
    · exact remove_invariant h _ rfl rfl
    · exact h
  · exact h

theorem adaptTargetDelay_invariant (h : b.DeliveryInvariant settled)
    (hadapt : b.adaptTargetDelay = some b') : b'.DeliveryInvariant settled := by
  unfold adaptTargetDelay at hadapt
  split at hadapt
  · contradiction
  · dsimp only at hadapt
    split at hadapt
    · contradiction
    · cases hadapt
      exact h.of_entries (fun _ he => he) rfl

/-- Storing a packet keeps the invariant when its number lies above every
settled one. -/
theorem store_invariant (h : b.DeliveryInvariant settled) (packet : AudioPacket)
    (now : Instant) (habove : ∀ d, settled d → d < packet.sequenceNumber) :
    (b.store packet now).DeliveryInvariant settled where
  keyed := by
    intro e he
    rcases OrderedMap.mem_insertEntry he with rfl | hold
    · rfl
    · exact h.keyed e hold
  cache := h.cache
  capacity_pos := h.capacity_pos
  passed := h.passed
  below := by
    intro d hd n hn
    rcases OrderedMap.mem_keys_insert_iff.mp hn with rfl | hold
    · exact habove d hd
    · exact h.below d hd n hold

theorem admitSequence_invariant (h : b.DeliveryInvariant settled) (n : U64) :
    { b with window := (b.window.admitSequence n).2 }.DeliveryInvariant settled where
  keyed := h.keyed
  cache := PacketWindow.admitSequence_cacheInvariant h.cache n
  capacity_pos := by simpa using h.capacity_pos
  passed := fun d hd => PacketWindow.admitSequence_settled (h.passed d hd) n
  below := h.below

theorem updateJitterEstimate_invariant (h : b.DeliveryInvariant settled)
    (packet : AudioPacket) (now : Instant) :
    (b.updateJitterEstimate packet now).DeliveryInvariant settled :=
  h.of_entries (fun _ he => he) rfl

theorem adaptIfEnabled_invariant (h : b.DeliveryInvariant settled) :
    b.adaptIfEnabled.2.DeliveryInvariant settled := by
  unfold adaptIfEnabled
  split_ifs with henabled
  · cases hadapt : b.adaptTargetDelay with
    | none => exact h
    | some adapted => exact adaptTargetDelay_invariant h hadapt
  · exact h

/-- Every insertion keeps the invariant, also a rejected and a panicking one. -/
theorem insertPacket_invariant (h : b.DeliveryInvariant settled) (packet : AudioPacket)
    (now : Instant) : (b.insertPacket packet now).2.DeliveryInvariant settled := by
  have hadmitted := admitSequence_invariant h packet.sequenceNumber
  unfold insertPacket
  split_ifs with hdup
  · exact h
  · cases hadmission : b.window.admitSequence packet.sequenceNumber with
    | mk result window =>
        rw [hadmission] at hadmitted
        cases result with
        | error e => exact hadmitted
        | ok _ =>
            have habove : ∀ d, settled d → d < packet.sequenceNumber := by
              intro d hd
              exact PacketWindow.lt_of_settled_of_admitted (h.passed d hd) (by rw [hadmission])
            have hjitter :=
              updateJitterEstimate_invariant (makeRoom_invariant hadmitted) packet now
            exact adaptIfEnabled_invariant (store_invariant hjitter packet now habove)

theorem dropStale_invariant (h : b.DeliveryInvariant settled) (n : U64) :
    (b.dropStale n).DeliveryInvariant settled :=
  remove_invariant h n rfl rfl

theorem evictStale_invariant (h : b.DeliveryInvariant settled) (clock : Nat → Instant) :
    (b.evictStale clock).DeliveryInvariant settled := by
  unfold evictStale
  exact List.foldlRecOn (motive := fun b => b.DeliveryInvariant settled) _ dropStale h
    fun _ hb n _ => dropStale_invariant hb n

/-- Releasing any buffered number keeps what was settled before. -/
theorem release_invariant (h : b.DeliveryInvariant settled) {n : U64}
    (hn : n ∈ b.entries.keys) : (b.release n).DeliveryInvariant settled where
  keyed := fun e he => h.keyed e (List.mem_of_mem_filter he)
  cache := PacketWindow.advance_cacheInvariant h.cache n
  capacity_pos := by simpa [release] using h.capacity_pos
  passed := fun d hd => PacketWindow.advance_settled_of_lt (h.below d hd n hn)
  below := fun d hd j hj => h.below d hd j (OrderedMap.mem_keys_remove_iff.mp hj).1

/-- Releasing the first number settles it: everything still buffered lies above
it. -/
theorem release_first_invariant (h : b.DeliveryInvariant settled) {n : U64}
    {entry : BufferedEntry} (hfirst : b.entries.first? = some (n, entry)) :
    (b.release n).DeliveryInvariant fun d => settled d ∨ d = n := by
  have hkeep := release_invariant h (OrderedMap.first?_mem hfirst)
  refine ⟨hkeep.keyed, hkeep.cache, hkeep.capacity_pos, ?_, ?_⟩
  · rintro d (hd | rfl)
    · exact hkeep.passed d hd
    · exact PacketWindow.advance_settled_self h.cache h.capacity_pos d
  · rintro d (hd | rfl) j hj
    · exact hkeep.below d hd j hj
    · exact OrderedMap.lt_of_mem_remove_first hfirst hj

/-- A call for the next packet keeps the invariant; a packet it returns lies
above everything settled before and is settled from then on. -/
theorem nextPacket_invariant (h : b.DeliveryInvariant settled) (clock : Nat → Instant) :
    (b.nextPacket clock).2.DeliveryInvariant (fun d =>
        settled d ∨ ∃ packet, (b.nextPacket clock).1 = some packet ∧
          d = packet.sequenceNumber) ∧
      ∀ packet, (b.nextPacket clock).1 = some packet →
        ∀ d, settled d → d < packet.sequenceNumber := by
  have hfresh := evictStale_invariant h clock
  unfold nextPacket
  dsimp only
  cases hfirst : (b.evictStale clock).entries.first? with
  | none => simpa using hfresh
  | some first =>
      rcases first with ⟨n, entry⟩
      have hnumber : entry.packet.sequenceNumber = n :=
        hfresh.keyed (n, entry) (List.mem_of_head? hfirst)
      dsimp only
      split_ifs with hready
      · have hreleased := release_first_invariant hfresh hfirst
        constructor
        · simpa [hnumber, eq_comm] using hreleased
        · intro packet hpacket d hd
          cases hpacket
          rw [hnumber]
          exact hfresh.below d hd n (OrderedMap.first?_mem hfirst)
      · simpa using hfresh

theorem drainOne_invariant {state : List AudioPacket × JitterBuffer}
    (h : state.2.DeliveryInvariant settled) (n : U64) :
    (drainOne state n).2.DeliveryInvariant settled := by
  unfold drainOne
  cases hget : state.2.entries.get? n with
  | none => exact h
  | some entry => exact release_invariant h (OrderedMap.mem_keys_of_get? hget)

/-- A flush keeps the invariant. -/
theorem flush_invariant (h : b.DeliveryInvariant settled) :
    b.flush.2.DeliveryInvariant settled := by
  unfold flush
  exact List.foldlRecOn (motive := fun state => state.2.DeliveryInvariant settled)
    b.entries.keys drainOne (b := ([], b)) h fun _ hstate n _ => drainOne_invariant hstate n

theorem setTargetDelay_invariant (h : b.DeliveryInvariant settled) (delay : Duration) :
    (b.setTargetDelay delay).2.DeliveryInvariant settled := by
  unfold setTargetDelay
  split_ifs with hbounds
  · exact h
  · exact h.of_entries (fun _ he => he) rfl

end Invariant

end JitterBuffer
end Buffer
end EchoSync
