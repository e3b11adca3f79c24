import EchoSync.Buffer.Occupancy
import EchoSync.Foundations.TransitionSystem

/-!
# Buffer Layer - Runs of one jitter buffer

A jitter buffer together with what it answered and delivered since it was created or
last reset.  Whatever order the calls come in, the packets that it delivers have
increasing sequence numbers, and the window is a function of these: its watermark
follows the last one, its cache holds the most recent ones, and its loss counter has
counted the gaps between them.

Main results:

- Structure {lit}`PacketWindow.Follows`: what a window knows of the numbers delivered so
  far; a delivery above all of them keeps it.
- Theorem {lit}`BufferRun.run_tracks`: every run keeps it.
- Theorem {lit}`BufferRun.packetsLost_add_delivered`: the lost and the delivered numbers
  are the numbers from the first to the last delivered one.
-/

namespace EchoSync

namespace Buffer

open Streaming

/-! ## The window and the delivered numbers -/

namespace PacketWindow

/-- A window after the delivery of these numbers: they increase, the watermark follows
the last one, the cache holds the most recent ones, and the gaps between them are
counted as lost. -/
structure Follows (w : PacketWindow) (delivered : List U64) : Prop where
  increasing : delivered.Pairwise (· < ·)
  watermark : w.expectedSequence = delivered.getLast?.map U64.saturatingSucc
  recent : w.seenCache = delivered.rtake w.cacheCapacity
  lossless : delivered = [] → w.stats.packetsLost = 0
  lost : ∀ first ∈ delivered.head?, ∀ last ∈ delivered.getLast?,
    w.stats.packetsLost + delivered.length + first.val = last.val + 1

variable {w : PacketWindow} {delivered : List U64} {n : U64}

/-- The lost numbers lie between delivered ones, so their counter stays in range. -/
theorem Follows.packetsLost_lt (h : w.Follows delivered) : w.stats.packetsLost < 2 ^ 64 := by
  cases hlast : delivered.getLast? with
  | none =>
      rw [h.lossless (List.getLast?_eq_none_iff.mp hlast)]
      decide
  | some last =>
      have hne : delivered ≠ [] := by
        rintro rfl
        simp at hlast
      have hlaw := h.lost (delivered.head hne) (List.head?_eq_some_head hne) last hlast
      have hpos := List.length_pos_iff.mpr hne
      have hlt := last.isLt
      omega

/-- A window that has delivered nothing. -/
theorem Follows.of_nothing (hwatermark : w.expectedSequence = none) (hcache : w.seenCache = [])
    (hlost : w.stats.packetsLost = 0) : w.Follows [] where
  increasing := List.Pairwise.nil
  watermark := hwatermark
  recent := by simp [hcache]
  lossless := fun _ => hlost
  lost := by simp

@[simp]
theorem admitSequence_packetsLost (w : PacketWindow) (n : U64) :
    (w.admitSequence n).2.stats.packetsLost = w.stats.packetsLost := by
  unfold admitSequence
  split
  · rfl
  · split
    · split_ifs <;> rfl
    · rfl

/-- Admission delivers nothing. -/
theorem admitSequence_follows (h : w.Follows delivered) (n : U64) :
    (w.admitSequence n).2.Follows delivered where
  increasing := h.increasing
  watermark := by rw [admitSequence_expectedSequence, h.watermark]
  recent := by rw [admitSequence_seenCache, admitSequence_cacheCapacity, h.recent]
  lossless := by simpa using h.lossless
  lost := by simpa using h.lost

/-- Pushing to a bounded queue that drops its oldest entry keeps the most recent ones. -/
theorem rtake_concat (delivered : List U64) (n : U64) (capacity : Nat) :
    (delivered ++ [n]).rtake capacity =
      if (delivered.rtake capacity ++ [n]).length > capacity then
        (delivered.rtake capacity ++ [n]).tail
      else delivered.rtake capacity ++ [n] := by
  have hdrop : delivered.rtake capacity ++ [n] =
      (delivered ++ [n]).drop (delivered.length - capacity) :=
    (List.drop_append_of_le_length (Nat.sub_le _ _)).symm
  rw [hdrop, List.length_drop, List.length_append, List.length_singleton, List.rtake,
    List.length_append, List.length_singleton]
  split_ifs with hfull
  · rw [List.tail_drop]
    congr 1
    omega
  · congr 1
    omega

/-- A delivered number not in the cache goes to its end. -/
theorem remember_seenCache (hpos : 0 < w.cacheCapacity) (hfresh : n ∉ w.seenSet) :
    (w.remember n).seenCache =
      if (w.seenCache ++ [n]).length > w.cacheCapacity then (w.seenCache ++ [n]).tail
      else w.seenCache ++ [n] := by
  rw [remember, if_neg hpos.ne', if_neg hfresh]
  dsimp only
  split_ifs with hfull
  · unfold evictOldest
    split
    · rename_i hnil
      simp at hnil
    · rename_i oldest rest hcons
      simp only at hcons
      rw [hcons, List.tail_cons]
  · rfl

@[simp]
theorem remember_stats (w : PacketWindow) (n : U64) : (w.remember n).stats = w.stats := by
  unfold remember evictOldest
  split_ifs
  · rfl
  · rfl
  · dsimp only
    split_ifs
    · split <;> rfl
    · rfl

/-- The numbers skipped by a delivery above the last one. -/
theorem skipped_of_lt {last : U64} (h : last < n) :
    skipped (some last.saturatingSucc) n = n.val - (last.val + 1) := by
  have hsucc := U64.saturatingSucc_val h
  unfold skipped
  dsimp only
  split_ifs with hgap
  · rw [hsucc]
  · have hle : n.val ≤ last.saturatingSucc.val := not_lt.mp hgap
    omega

/-- The watermark after a delivery above the last one. -/
theorem nextWatermark_of_lt {last : U64} (h : last < n) :
    nextWatermark (some last.saturatingSucc) n = n.saturatingSucc := by
  have hlast : last.saturatingSucc ≤ n := by
    rw [Fin.le_def, U64.saturatingSucc_val h]
    exact h
  exact max_eq_right (hlast.trans (U64.le_saturatingSucc n))

/-- A delivery above all earlier ones. -/
theorem advance_follows (h : w.Follows delivered) (hcache : w.CacheInvariant)
    (hpos : 0 < w.cacheCapacity) (habove : ∀ d ∈ delivered, d < n) :
    (w.advance n).2.Follows (delivered ++ [n]) := by
  have hfresh : n ∉ w.seenSet := by
    rw [hcache.mirrors, List.mem_toFinset, h.recent]
    intro hmem
    exact lt_irrefl n (habove n (List.mem_of_mem_drop hmem))
  have hlost : (w.advance n).2.stats.packetsLost =
      w.stats.packetsLost + skipped w.expectedSequence n := by
    simp [advance, passWatermark]
  refine ⟨?_, ?_, ?_, ?_, ?_⟩
  · apply List.pairwise_append.mpr
    refine ⟨h.increasing, List.pairwise_singleton _ _, ?_⟩
    simpa using habove
  · rw [advance_expectedSequence, h.watermark, List.getLast?_concat, Option.map_some]
    congr 1
    cases hlast : delivered.getLast? with
    | none => rfl
    | some last => exact nextWatermark_of_lt (habove last (List.mem_of_getLast? hlast))
  · have hpassed := @remember_seenCache (w.passWatermark n) n hpos hfresh
    rw [advance_cacheCapacity, rtake_concat, ← h.recent]
    exact hpassed
  · simp
  · intro first hfirst last hlast
    rw [hlost]
    rw [List.getLast?_concat, Option.mem_some_iff] at hlast
    subst hlast
    rw [List.length_append, List.length_singleton, h.watermark]
    cases hold : delivered.getLast? with
    | none =>
        -- The first delivery loses nothing.
        have hnil : delivered = [] := List.getLast?_eq_none_iff.mp hold
        subst hnil
        simp only [List.nil_append, List.head?_cons, Option.mem_some_iff] at hfirst
        simp [h.lossless rfl, skipped, hfirst, Nat.add_comm]
    | some old =>
        have hlt : old.val < n.val := habove old (List.mem_of_getLast? hold)
        have hhead : first ∈ delivered.head? := by
          cases delivered with
          | nil => simp at hold
          | cons d ds => simpa using hfirst
        have hlaw := h.lost first hhead old hold
        rw [Option.map_some, skipped_of_lt hlt]
        omega

end PacketWindow

/-! ## The buffer and the delivered numbers -/

namespace JitterBuffer

variable {b b' : JitterBuffer} {delivered : List U64}

/-- A buffer after the delivery of these numbers: every buffered number lies above them,
and the window follows them. -/
structure Tracks (b : JitterBuffer) (delivered : List U64) : Prop where
  delivery : b.DeliveryInvariant (· ∈ delivered)
  window : b.window.Follows delivered
  capacity : b.window.cacheCapacity = b.config.duplicateCacheSize

/-- A buffer built from a valid configuration has delivered nothing. -/
theorem new_tracks {config : BufferConfig} (hnew : new config = .ok b) : b.Tracks [] := by
  have hdelivery := new_invariant hnew
  rcases new_spec hnew with ⟨-, rfl⟩
  exact
    { delivery := by simpa using hdelivery
      window := PacketWindow.Follows.of_nothing rfl rfl rfl
      capacity := rfl }

/-- A reset forgets what was delivered. -/
theorem reset_tracks (h : b.Tracks delivered) : b.reset.Tracks [] where
  delivery :=
    { keyed := by simp [reset, OrderedMap.empty]
      cache := ⟨rfl, List.nodup_nil, Nat.zero_le _⟩
      capacity_pos := h.delivery.capacity_pos
      passed := by simp
      below := by simp }
  window := PacketWindow.Follows.of_nothing rfl rfl rfl
  capacity := h.capacity

@[simp]
theorem makeRoom_window (b : JitterBuffer) : b.makeRoom.window = b.window := by
  rw [makeRoom_eq]

@[simp]
theorem makeRoom_config (b : JitterBuffer) : b.makeRoom.config = b.config := by
  rw [makeRoom_eq]

@[simp]
theorem adaptIfEnabled_window (b : JitterBuffer) : b.adaptIfEnabled.2.window = b.window := by
  rw [adaptIfEnabled_eq]

@[simp]
theorem adaptIfEnabled_config (b : JitterBuffer) : b.adaptIfEnabled.2.config = b.config := by
  rw [adaptIfEnabled_eq]

/-- An insertion leaves the window as it is, or with the counters of an admission. -/
theorem insertPacket_window (b : JitterBuffer) (packet : AudioPacket) (now : Instant) :
    (b.insertPacket packet now).2.window =
      if b.entries.containsKey packet.sequenceNumber then b.window
      else (b.window.admitSequence packet.sequenceNumber).2 := by
  unfold insertPacket
  split_ifs with hdup
  · rfl
  · cases hadmission : b.window.admitSequence packet.sequenceNumber with
    | mk result window =>
        cases result with
        | error e => rfl
        | ok _ => simp [store, updateJitterEstimate]

@[simp]
theorem insertPacket_config (b : JitterBuffer) (packet : AudioPacket) (now : Instant) :
    (b.insertPacket packet now).2.config = b.config := by
  by_cases haccepts : b.Accepts packet.sequenceNumber
  · rw [insertPacket_of_accepts haccepts]
    simp [store, updateJitterEstimate]
  · rw [(insertPacket_of_not_accepts haccepts now).2]

/-- An insertion delivers nothing. -/
theorem insertPacket_tracks (h : b.Tracks delivered) (packet : AudioPacket) (now : Instant) :
    (b.insertPacket packet now).2.Tracks delivered where
  delivery := insertPacket_invariant h.delivery packet now
  window := by
    rw [insertPacket_window]
    split_ifs
    · exact h.window
    · exact PacketWindow.admitSequence_follows h.window packet.sequenceNumber
  capacity := by
    rw [insertPacket_window, insertPacket_config, ← h.capacity]
    split_ifs <;> simp

/-- An eviction of stale packets touches the storage and the dropped counter alone. -/
theorem evictStale_eq (b : JitterBuffer) (clock : Nat → Instant) :
    b.evictStale clock =
      { b with
        entries := (b.evictStale clock).entries
        packetsDroppedTotal := (b.evictStale clock).packetsDroppedTotal } := by
  unfold evictStale
  induction b.staleSequences clock using List.reverseRecOn with
  | nil => rfl
  | append_singleton ns n ih =>
      rw [List.foldl_concat, dropStale, ih]

theorem evictStale_tracks (h : b.Tracks delivered) (clock : Nat → Instant) :
    (b.evictStale clock).Tracks delivered where
  delivery := evictStale_invariant h.delivery clock
  window := by
    rw [evictStale_eq]
    exact h.window
  capacity := by
    rw [evictStale_eq]
    exact h.capacity

/-- Releasing the first number delivers it. -/
theorem release_tracks (h : b.Tracks delivered) {n : U64} {entry : BufferedEntry}
    (hfirst : b.entries.first? = some (n, entry)) :
    (b.release n).Tracks (delivered ++ [n]) where
  delivery := by
    have hreleased := release_first_invariant h.delivery hfirst
    simpa using hreleased
  window := by
    apply PacketWindow.advance_follows h.window h.delivery.cache h.delivery.capacity_pos
    intro d hd
    exact h.delivery.below d hd n (OrderedMap.first?_mem hfirst)
  capacity := by simpa [release] using h.capacity

/-- A call for the next packet delivers what it returns. -/
theorem nextPacket_tracks (h : b.Tracks delivered) (clock : Nat → Instant) :
    (b.nextPacket clock).2.Tracks
      (delivered ++ (b.nextPacket clock).1.toList.map AudioPacket.sequenceNumber) := by
  have hfresh := evictStale_tracks h clock
  unfold nextPacket
  dsimp only
  cases hfirst : (b.evictStale clock).entries.first? with
  | none => simpa using hfresh
  | some first =>
      rcases first with ⟨n, entry⟩
      have hnumber : entry.packet.sequenceNumber = n :=
        hfresh.delivery.keyed (n, entry) (List.mem_of_head? hfirst)
      dsimp only
      split_ifs with hready
      · simpa [hnumber] using release_tracks hfresh hfirst
      · simpa using hfresh

/-- A call for the next packet touches the storage, the window and the counters of what
leaves alone. -/
theorem nextPacket_eq (b : JitterBuffer) (clock : Nat → Instant) :
    (b.nextPacket clock).2 =
      { b with
        entries := (b.nextPacket clock).2.entries
        window := (b.nextPacket clock).2.window
        packetsDeliveredTotal := (b.nextPacket clock).2.packetsDeliveredTotal
        packetsDroppedTotal := (b.nextPacket clock).2.packetsDroppedTotal } := by
  have hfresh := evictStale_eq b clock
  unfold nextPacket
  dsimp only
  split
  · rw [hfresh]
  · split_ifs
    · rw [hfresh]
      rfl
    · rw [hfresh]

/-- Draining the first of the buffered numbers releases it. -/
theorem drainOne_of_keys {state : List AudioPacket × JitterBuffer} {n : U64} {ns : List U64}
    (hkeys : state.2.entries.keys = n :: ns) :
    ∃ entry, state.2.entries.first? = some (n, entry) ∧
      drainOne state n = (state.1 ++ [entry.packet], state.2.release n) ∧
      (state.2.release n).entries.keys = ns := by
  rcases OrderedMap.first?_of_keys hkeys with ⟨entry, hfirst, hget⟩
  refine ⟨entry, hfirst, ?_, OrderedMap.keys_remove_first hkeys⟩
  rw [drainOne, hget]

/-- Draining the buffered numbers in order delivers them. -/
theorem foldl_drainOne_tracks {ns : List U64} {state : List AudioPacket × JitterBuffer}
    {delivered : List U64} (hkeys : state.2.entries.keys = ns)
    (h : state.2.Tracks (delivered ++ state.1.map AudioPacket.sequenceNumber)) :
    (ns.foldl drainOne state).2.Tracks
      (delivered ++ (ns.foldl drainOne state).1.map AudioPacket.sequenceNumber) := by
  induction ns generalizing state with
  | nil => exact h
  | cons n ns ih =>
      rcases drainOne_of_keys hkeys with ⟨entry, hfirst, hdrain, hrest⟩
      have hnumber : entry.packet.sequenceNumber = n :=
        h.delivery.keyed (n, entry) (List.mem_of_head? hfirst)
      rw [List.foldl_cons, hdrain]
      apply ih hrest
      simpa [hnumber] using release_tracks h hfirst

/-- A flush delivers what it returns. -/
theorem flush_tracks (h : b.Tracks delivered) :
    b.flush.2.Tracks (delivered ++ b.flush.1.map AudioPacket.sequenceNumber) := by
  apply foldl_drainOne_tracks rfl
  simpa using h

/-- So does draining. -/
theorem foldl_drainOne_eq (ns : List U64) (state : List AudioPacket × JitterBuffer) :
    (ns.foldl drainOne state).2 =
      { state.2 with
        entries := (ns.foldl drainOne state).2.entries
        window := (ns.foldl drainOne state).2.window
        packetsDeliveredTotal := (ns.foldl drainOne state).2.packetsDeliveredTotal } := by
  induction ns using List.reverseRecOn with
  | nil => rfl
  | append_singleton ns n ih =>
      rw [List.foldl_concat]
      generalize ns.foldl drainOne state = drained at ih ⊢
      unfold drainOne
      split
      · rw [ih]
        rfl
      · exact ih

theorem flush_eq (b : JitterBuffer) :
    b.flush.2 =
      { b with
        entries := b.flush.2.entries
        window := b.flush.2.window
        packetsDeliveredTotal := b.flush.2.packetsDeliveredTotal } :=
  foldl_drainOne_eq b.entries.keys ([], b)

theorem setTargetDelay_tracks (h : b.Tracks delivered) (delay : Duration) :
    (b.setTargetDelay delay).2.Tracks delivered := by
  unfold setTargetDelay
  split_ifs
  · exact h
  · exact ⟨h.delivery.of_entries (fun _ he => he) rfl, h.window, h.capacity⟩

end JitterBuffer

/-! ## Runs -/

/-- One call on a jitter buffer, with the clock readings that it makes. -/
inductive BufferCall where
  | insertPacket (packet : AudioPacket) (now : Instant)
  | nextPacket (clock : Nat → Instant)
  | flush
  | setTargetDelay (delay : Duration)
  | reset

/-- A jitter buffer, the answers of its insertions and the packets it delivered since it
was created or last reset. -/
structure BufferRun where
  buffer : JitterBuffer
  answers : List (Outcome BufferError Unit)
  delivered : List AudioPacket

namespace BufferRun

/-- A buffer that has answered and delivered nothing. -/
def start (buffer : JitterBuffer) : BufferRun where
  buffer := buffer
  answers := []
  delivered := []

/-- Execute one call.  An insertion that panics leaves a buffer behind on which further
calls can be made. -/
def step (r : BufferRun) : BufferCall → BufferRun
  | .insertPacket packet now =>
      let (answer, buffer) := r.buffer.insertPacket packet now
      { r with buffer, answers := r.answers ++ [answer] }
  | .nextPacket clock =>
      let (packet, buffer) := r.buffer.nextPacket clock
      { r with buffer, delivered := r.delivered ++ packet.toList }
  | .flush =>
      let (packets, buffer) := r.buffer.flush
      { r with buffer, delivered := r.delivered ++ packets }
  | .setTargetDelay delay => { r with buffer := (r.buffer.setTargetDelay delay).2 }
  | .reset => start r.buffer.reset

/-- The sequence numbers delivered since the last reset, in order. -/
def deliveredNumbers (r : BufferRun) : List U64 :=
  r.delivered.map AudioPacket.sequenceNumber

/-- Every call keeps track of what was delivered. -/
theorem step_tracks {r : BufferRun} (h : r.buffer.Tracks r.deliveredNumbers)
    (call : BufferCall) : (r.step call).buffer.Tracks (r.step call).deliveredNumbers := by
  cases call with
  | insertPacket packet now => exact JitterBuffer.insertPacket_tracks h packet now
  | nextPacket clock =>
      simpa [step, deliveredNumbers] using JitterBuffer.nextPacket_tracks h clock
  | flush => simpa [step, deliveredNumbers] using JitterBuffer.flush_tracks h
  | setTargetDelay delay => exact JitterBuffer.setTargetDelay_tracks h delay
  | reset => exact JitterBuffer.reset_tracks h

/-- The calls executed one after the other on a buffer. -/
def run (b : JitterBuffer) (calls : List BufferCall) : BufferRun :=
  calls.foldl step (start b)

theorem run_concat (b : JitterBuffer) (calls : List BufferCall) (call : BufferCall) :
    run b (calls ++ [call]) = (run b calls).step call :=
  List.foldl_concat _ _ _ _

/-- No call changes the configuration. -/
@[simp]
theorem step_config (r : BufferRun) (call : BufferCall) :
    (r.step call).buffer.config = r.buffer.config := by
  cases call with
  | insertPacket packet now => exact JitterBuffer.insertPacket_config r.buffer packet now
  | nextPacket clock =>
      change (r.buffer.nextPacket clock).2.config = _
      rw [JitterBuffer.nextPacket_eq]
  | flush =>
      change r.buffer.flush.2.config = _
      rw [JitterBuffer.flush_eq]
  | setTargetDelay delay => exact (JitterBuffer.setTargetDelay_settles r.buffer delay).config
  | reset => rfl

/-- The configuration of a new buffer. -/
theorem run_config {config : BufferConfig} {b : JitterBuffer}
    (hnew : JitterBuffer.new config = .ok b) (calls : List BufferCall) :
    ValidBufferConfig config ∧ (run b calls).buffer.config = config := by
  induction calls using List.reverseRecOn with
  | nil =>
      rcases JitterBuffer.new_spec hnew with ⟨hvalid, rfl⟩
      exact ⟨hvalid, rfl⟩
  | append_singleton calls call ih =>
      rw [run_concat, step_config]
      exact ih

/-- What was delivered is kept track of in every run. -/
theorem run_tracks {config : BufferConfig} {b : JitterBuffer}
    (hnew : JitterBuffer.new config = .ok b) (calls : List BufferCall) :
    (run b calls).buffer.Tracks (run b calls).deliveredNumbers := by
  induction calls using List.reverseRecOn with
  | nil => exact JitterBuffer.new_tracks hnew
  | append_singleton calls call ih =>
      rw [run_concat]
      exact step_tracks ih call

/-! ## Loss accounting -/

/-- On a buffer built from a valid configuration, after any calls: with the first and the
last of the numbers delivered since the last reset, the lost and the delivered numbers
together are all the numbers from the one to the other, and the loss counter is in
range. -/
theorem packetsLost_add_delivered {config : BufferConfig} {b : JitterBuffer}
    (hnew : JitterBuffer.new config = .ok b) (calls : List BufferCall) :
    (∀ first ∈ (run b calls).deliveredNumbers.head?,
      ∀ last ∈ (run b calls).deliveredNumbers.getLast?,
        first ≤ last ∧
          (run b calls).buffer.window.stats.packetsLost + (run b calls).delivered.length =
            last.val - first.val + 1) ∧
      (run b calls).buffer.window.stats.packetsLost < 2 ^ 64 := by
  have hfollows := (run_tracks hnew calls).window
  have hlength : (run b calls).deliveredNumbers.length = (run b calls).delivered.length := by
    simp [deliveredNumbers]
  constructor
  · intro first hfirst last hlast
    have hlaw := hfollows.lost first hfirst last hlast
    have hpos : 0 < (run b calls).deliveredNumbers.length :=
      List.length_pos_of_mem (List.mem_of_getLast? hlast)
    have hle : first.val ≤ last.val := by omega
    rw [hlength] at hlaw
    exact ⟨hle, by omega⟩
  · exact hfollows.packetsLost_lt

/-- Up to the largest number, where the watermark saturates: one number is skipped. -/
theorem packetsLost_add_delivered_saturated :
    ∃ b, JitterBuffer.new BufferConfig.default = .ok b ∧
      let calls : List BufferCall :=
        [.insertPacket (makePacket 0 (2 ^ 64 - 3) 0) (Instant.ofMillis 0),
          .nextPacket fun _ => Instant.ofMillis 80,
          .insertPacket (makePacket 1 (2 ^ 64 - 1) 0) (Instant.ofMillis 90), .flush]
      (run b calls).deliveredNumbers = [2 ^ 64 - 3, 2 ^ 64 - 1] ∧
        (run b calls).buffer.window.stats.packetsLost + (run b calls).delivered.length =
          (2 ^ 64 - 1 : U64).val - (2 ^ 64 - 3 : U64).val + 1 := by
  refine ⟨_, rfl, by decide +kernel, ?_⟩
  apply ((@packetsLost_add_delivered BufferConfig.default _ rfl _).1 (2 ^ 64 - 3) ?_
    (2 ^ 64 - 1) ?_).2
  · decide +kernel
  · decide +kernel

end BufferRun

end Buffer
end EchoSync
