import EchoSync.Buffer.JitterBuffer

/-!
# Buffer Layer - Storage and counters

Seven paths put packets into the jitter buffer or take them out, and each adjusts
counters of its own.  Taking packets out is one relation for all of them: what
leaves the storage is counted once, as delivered or as dropped.  An accepted packet
makes room and adds one.

Main results:

- Structures {lit}`JitterBuffer.Settles` and {lit}`JitterBuffer.Stores`: taking
  packets out, also several times, and adding one.
- Theorems {lit}`JitterBuffer.evictStale_settles`,
  {lit}`JitterBuffer.nextPacket_settles` and {lit}`JitterBuffer.flush_settles`: the
  paths that take packets out.
- Theorem {lit}`JitterBuffer.insertPacket_stores`: an accepted packet is stored once
  in the room made for it.
- Theorem {lit}`JitterBuffer.insertPacket_panicked_iff`: an insertion panics exactly
  when the delay arithmetic after it leaves the range of durations.
-/

namespace EchoSync
namespace Buffer

open Streaming

namespace JitterBuffer

/-! ## Taking packets out -/

/-- Packets were taken out, each counted once as delivered or as dropped; no
packet was accepted. -/
structure Settles (b b' : JitterBuffer) : Prop where
  config : b'.config = b.config
  buffered : b'.packetsBufferedTotal = b.packetsBufferedTotal
  peak : b'.maxOccupancy = b.maxOccupancy
  shrinks : b'.entries.length ≤ b.entries.length
  settled : b'.packetsDeliveredTotal + b'.packetsDroppedTotal + b'.entries.length =
    b.packetsDeliveredTotal + b.packetsDroppedTotal + b.entries.length

namespace Settles

variable {b b' b'' : JitterBuffer}

theorem refl (b : JitterBuffer) : Settles b b where
  config := by rfl
  buffered := by rfl
  peak := by rfl
  shrinks := by rfl
  settled := by rfl

theorem trans (h : Settles b b') (h' : Settles b' b'') : Settles b b'' where
  config := h'.config.trans h.config
  buffered := h'.buffered.trans h.buffered
  peak := h'.peak.trans h.peak
  shrinks := h'.shrinks.trans h.shrinks
  settled := h'.settled.trans h.settled

/-- Changing neither the storage nor a counter. -/
theorem of_unchanged (hconfig : b'.config = b.config) (hentries : b'.entries = b.entries)
    (hbuffered : b'.packetsBufferedTotal = b.packetsBufferedTotal)
    (hdelivered : b'.packetsDeliveredTotal = b.packetsDeliveredTotal)
    (hdropped : b'.packetsDroppedTotal = b.packetsDroppedTotal)
    (hpeak : b'.maxOccupancy = b.maxOccupancy) : Settles b b' where
  config := hconfig
  buffered := hbuffered
  peak := hpeak
  shrinks := by rw [hentries]
  settled := by rw [hentries, hdelivered, hdropped]

/-- Removing one buffered number while counting it once. -/
theorem of_remove {n : U64} (hn : n ∈ b.entries.keys) (hconfig : b'.config = b.config)
    (hbuffered : b'.packetsBufferedTotal = b.packetsBufferedTotal)
    (hpeak : b'.maxOccupancy = b.maxOccupancy) (hentries : b'.entries = b.entries.remove n)
    (hcount : b'.packetsDeliveredTotal + b'.packetsDroppedTotal =
      b.packetsDeliveredTotal + b.packetsDroppedTotal + 1) : Settles b b' := by
  have hlength := OrderedMap.length_remove hn
  rw [← hentries] at hlength
  exact
    { config := hconfig
      buffered := hbuffered
      peak := hpeak
      shrinks := by omega
      settled := by omega }

end Settles

variable {b b' : JitterBuffer}

theorem makeRoom_settles (b : JitterBuffer) : Settles b b.makeRoom := by
  unfold makeRoom
  split_ifs with hfull
  · cases hfirst : b.entries.first? with
    | none => exact Settles.refl b
    | some first =>
        refine Settles.of_remove (OrderedMap.first?_mem hfirst) rfl rfl rfl rfl ?_
        dsimp only
        omega
  · exact Settles.refl b

/-- Making room touches the storage and the counter of dropped packets alone. -/
theorem makeRoom_eq (b : JitterBuffer) :
    b.makeRoom =
      { b with
        entries := b.makeRoom.entries
        packetsDroppedTotal := b.makeRoom.packetsDroppedTotal } := by
  unfold makeRoom
  split_ifs with hfull
  · cases hfirst : b.entries.first? <;> rfl
  · rfl

theorem makeRoom_delivered (b : JitterBuffer) :
    b.makeRoom.packetsDeliveredTotal = b.packetsDeliveredTotal := by
  rw [makeRoom_eq]

theorem makeRoom_keys_subset (b : JitterBuffer) : b.makeRoom.entries.keys ⊆ b.entries.keys := by
  intro n hn
  unfold makeRoom at hn
  split_ifs at hn with hfull
  · cases hfirst : b.entries.first? with
    | none => simpa [hfirst] using hn
    | some first =>
        rw [hfirst] at hn
        exact (OrderedMap.mem_keys_remove_iff.mp hn).1
  · exact hn

theorem dropStale_settles {n : U64} (hn : n ∈ b.entries.keys) : Settles b (b.dropStale n) := by
  refine Settles.of_remove hn rfl rfl rfl rfl ?_
  simp only [dropStale]
  omega

theorem release_settles {n : U64} (hn : n ∈ b.entries.keys) : Settles b (b.release n) := by
  refine Settles.of_remove hn rfl rfl rfl rfl ?_
  simp only [release]
  omega

/-- Dropping distinct buffered numbers one after the other. -/
theorem foldl_dropStale_settles {ns : List U64} (hnodup : ns.Nodup)
    (hns : ∀ n ∈ ns, n ∈ b.entries.keys) : Settles b (ns.foldl dropStale b) := by
  induction ns generalizing b with
  | nil => exact Settles.refl b
  | cons n ns ih =>
      rw [List.nodup_cons] at hnodup
      have hfirst : Settles b (b.dropStale n) := dropStale_settles (hns n List.mem_cons_self)
      apply hfirst.trans
      apply ih hnodup.2
      intro m hm
      apply OrderedMap.mem_keys_remove_iff.mpr
      constructor
      · exact hns m (List.mem_cons_of_mem n hm)
      · rintro rfl
        exact hnodup.1 hm

/-- The stale numbers are some of the buffered ones, in the same order. -/
theorem staleSequences_sublist (b : JitterBuffer) (clock : Nat → Instant) :
    (b.staleSequences clock).Sublist b.entries.keys := by
  have hkeys : b.entries.toList.zipIdx.map (fun e => e.1.1) = b.entries.keys := by
    calc
      b.entries.toList.zipIdx.map (fun e => e.1.1)
          = (b.entries.toList.zipIdx.map Prod.fst).map Prod.fst := by simp only [List.map_map]; rfl
      _ = b.entries.keys := by rw [List.zipIdx_map_fst]; rfl
  rw [← hkeys]
  exact List.filter_sublist.map _

theorem evictStale_settles (b : JitterBuffer) (clock : Nat → Instant) :
    Settles b (b.evictStale clock) := by
  have hsublist := staleSequences_sublist b clock
  apply foldl_dropStale_settles (b.entries.keys_nodup.sublist hsublist)
  intro n hn
  exact hsublist.subset hn

theorem nextPacket_settles (b : JitterBuffer) (clock : Nat → Instant) :
    Settles b (b.nextPacket clock).2 := by
  have hfresh := evictStale_settles b clock
  unfold nextPacket
  dsimp only
  cases hfirst : (b.evictStale clock).entries.first? with
  | none => exact hfresh
  | some first =>
      dsimp only
      split_ifs with hready
      · exact hfresh.trans (release_settles (OrderedMap.first?_mem hfirst))
      · exact hfresh

@[simp]
theorem setTargetDelay_entries (b : JitterBuffer) (delay : Duration) :
    (b.setTargetDelay delay).2.entries = b.entries := by
  unfold setTargetDelay
  split_ifs <;> rfl

theorem setTargetDelay_settles (b : JitterBuffer) (delay : Duration) :
    Settles b (b.setTargetDelay delay).2 := by
  unfold setTargetDelay
  split_ifs with hbounds
  · exact Settles.refl b
  · apply Settles.of_unchanged <;> rfl

/-! ## Discarding everything -/

theorem drainOne_eq {state : List AudioPacket × JitterBuffer} {n : U64}
    (hn : n ∈ state.2.entries.keys) : (drainOne state n).2 = state.2.release n := by
  unfold drainOne
  cases hget : state.2.entries.get? n with
  | none => exact absurd hn (OrderedMap.get?_eq_none_iff.mp hget)
  | some entry => rfl

/-- Draining the buffered numbers in order empties the buffer and counts each of them
as delivered. -/
theorem foldl_drainOne {ns : List U64} {state : List AudioPacket × JitterBuffer}
    (hkeys : state.2.entries.keys = ns) :
    Settles state.2 (ns.foldl drainOne state).2 ∧
      (ns.foldl drainOne state).2.entries.keys = [] ∧
      (ns.foldl drainOne state).2.packetsDeliveredTotal =
        state.2.packetsDeliveredTotal + ns.length := by
  induction ns generalizing state with
  | nil => exact ⟨Settles.refl state.2, hkeys, rfl⟩
  | cons n ns ih =>
      have hn : n ∈ state.2.entries.keys := by simp [hkeys]
      have hdrain := drainOne_eq hn
      have hrest : (drainOne state n).2.entries.keys = ns := by
        rw [hdrain]
        exact OrderedMap.keys_remove_first hkeys
      rcases ih hrest with ⟨hsettles, hempty, hdelivered⟩
      rw [hdrain] at hsettles hdelivered
      refine ⟨(release_settles hn).trans hsettles, hempty, ?_⟩
      rw [List.foldl_cons, hdelivered, List.length_cons]
      simp only [release]
      omega

theorem flush_settles (b : JitterBuffer) : Settles b b.flush.2 := by
  exact (@foldl_drainOne b.entries.keys ([], b) rfl).1

@[simp]
theorem flush_length (b : JitterBuffer) : b.flush.2.entries.length = 0 := by
  have hempty : b.flush.2.entries.keys = [] := (@foldl_drainOne b.entries.keys ([], b) rfl).2.1
  rw [← OrderedMap.length_keys, hempty, List.length_nil]

/-- A flush counts every buffered packet as delivered. -/
theorem flush_delivered (b : JitterBuffer) :
    b.flush.2.packetsDeliveredTotal = b.packetsDeliveredTotal + b.entries.length := by
  rw [← OrderedMap.length_keys]
  exact (@foldl_drainOne b.entries.keys ([], b) rfl).2.2

/-! ## Adding one packet -/

/-- The duplicate checks let a number in: it is neither buffered nor cached, and it is
not below the watermark. -/
def Accepts (b : JitterBuffer) (n : U64) : Prop :=
  n ∉ b.entries.keys ∧ n ∉ b.window.seenSet ∧
    ∀ expected, b.window.expectedSequence = some expected → expected ≤ n

/-- The delay arithmetic stays in the range of durations: the jitter headroom does, and
so does the target delay after one adaptive step, if it has to grow. -/
def DelayInRange (b : JitterBuffer) : Prop :=
  ∃ headroom, Duration.fromSecsF64 (max b.jitterEstimateMs 0 * 4 / 1000) = some headroom ∧
    (b.targetDelay < (b.config.targetDelay.saturatingAdd headroom).clamp
        b.config.minTargetDelay b.config.maxTargetDelay →
      b.targetDelay.nanos + b.config.adaptiveStep.nanos < durationLimit)

/-- The delay arithmetic panics exactly when it leaves the range. -/
theorem adaptTargetDelay_eq_none_iff : b.adaptTargetDelay = none ↔ ¬ b.DelayInRange := by
  unfold adaptTargetDelay DelayInRange
  cases hheadroom : Duration.fromSecsF64 (max b.jitterEstimateMs 0 * 4 / 1000) with
  | none => simp
  | some headroom =>
      simp only [Option.some.injEq, exists_eq_left']
      split_ifs with hgrow hshrink
      · by_cases hfits : b.targetDelay.nanos + b.config.adaptiveStep.nanos < durationLimit
        · simp [Duration.add, Duration.ofNanos?, hfits]
        · simp [Duration.add, Duration.ofNanos?, hfits, hgrow]
      · simp [hgrow]
      · simp [hgrow]

instance DelayInRange.instDecidable : Decidable b.DelayInRange :=
  decidable_of_iff (b.adaptTargetDelay.isSome = true) <| by
    rw [Option.isSome_iff_ne_none, Ne, adaptTargetDelay_eq_none_iff, not_not]

/-- One packet was accepted and stored; the highest occupancy follows. -/
structure Stores (b b' : JitterBuffer) : Prop where
  config : b'.config = b.config
  buffered : b'.packetsBufferedTotal = b.packetsBufferedTotal + 1
  delivered : b'.packetsDeliveredTotal = b.packetsDeliveredTotal
  dropped : b'.packetsDroppedTotal = b.packetsDroppedTotal
  length : b'.entries.length = b.entries.length + 1
  peak : b'.maxOccupancy = max b.maxOccupancy b'.entries.length

theorem store_stores {packet : AudioPacket} {now : Instant}
    (hfresh : packet.sequenceNumber ∉ b.entries.keys) : Stores b (b.store packet now) where
  config := by rfl
  buffered := by rfl
  delivered := by rfl
  dropped := by rfl
  length := OrderedMap.length_insert _ hfresh
  peak := by rfl

/-- Adapting the delay changes the delay alone. -/
theorem adaptTargetDelay_eq (hadapt : b.adaptTargetDelay = some b') :
    b' = { b with targetDelay := b'.targetDelay } := by
  unfold adaptTargetDelay at hadapt
  split at hadapt
  · contradiction
  · dsimp only at hadapt
    split at hadapt
    · contradiction
    · cases hadapt
      rfl

theorem adaptIfEnabled_eq (b : JitterBuffer) :
    b.adaptIfEnabled.2 = { b with targetDelay := b.adaptIfEnabled.2.targetDelay } := by
  unfold adaptIfEnabled
  split_ifs with henabled
  · cases hadapt : b.adaptTargetDelay with
    | none => rfl
    | some adapted => exact adaptTargetDelay_eq hadapt
  · rfl

theorem adaptIfEnabled_panicked_iff :
    b.adaptIfEnabled.1 = .panicked ↔ b.config.adaptiveEnabled = true ∧ ¬ b.DelayInRange := by
  rw [← adaptTargetDelay_eq_none_iff]
  unfold adaptIfEnabled
  split_ifs with henabled
  · cases hadapt : b.adaptTargetDelay with
    | none => simp [henabled]
    | some adapted => simp
  · simp [henabled]

/-- The checks of an insertion. -/
theorem accepts_iff {n : U64} :
    b.Accepts n ↔ b.entries.containsKey n = false ∧ (b.window.admitSequence n).1 = .ok () := by
  rw [PacketWindow.admitSequence_ok_iff, Bool.eq_false_iff, Ne, OrderedMap.containsKey_eq_true_iff]
  rfl

instance Accepts.instDecidable (n : U64) : Decidable (b.Accepts n) :=
  decidable_of_iff _ accepts_iff.symm

/-- A refused packet leaves everything but the window counters. -/
theorem insertPacket_of_not_accepts {packet : AudioPacket} (h : ¬ b.Accepts packet.sequenceNumber)
    (now : Instant) :
    (b.insertPacket packet now).1 ≠ .panicked ∧
      (b.insertPacket packet now).2 =
        { b with window := (b.insertPacket packet now).2.window } := by
  unfold insertPacket
  cases hdup : b.entries.containsKey packet.sequenceNumber with
  | true => simp
  | false =>
      cases hadmission : b.window.admitSequence packet.sequenceNumber with
      | mk result window =>
          cases result with
          | error e => simp
          | ok _ => exact absurd (accepts_iff.mpr ⟨hdup, by rw [hadmission]⟩) h

/-- An accepted packet is stored in the room made for it. -/
theorem insertPacket_of_accepts {packet : AudioPacket} (h : b.Accepts packet.sequenceNumber)
    (now : Instant) :
    b.insertPacket packet now =
      (({ b.makeRoom with
            window := (b.window.admitSequence packet.sequenceNumber).2 }.updateJitterEstimate
        packet now).store packet now).adaptIfEnabled := by
  rcases accepts_iff.mp h with ⟨hdup, hok⟩
  unfold insertPacket
  rw [hdup]
  cases hadmission : b.window.admitSequence packet.sequenceNumber with
  | mk result window =>
      rw [hadmission] at hok
      cases hok
      have hroom : { b with window := window }.makeRoom = { b.makeRoom with window := window } := by
        unfold makeRoom
        split_ifs with hfull
        · cases hfirst : b.entries.first? <;> rfl
        · rfl
      simp [hroom]

/-- An accepted packet makes room and is stored once. -/
theorem insertPacket_stores {packet : AudioPacket} (h : b.Accepts packet.sequenceNumber)
    (now : Instant) :
    ∃ roomy, Settles b roomy ∧ roomy.entries = b.makeRoom.entries ∧
      roomy.packetsDeliveredTotal = b.packetsDeliveredTotal ∧
      Stores roomy (b.insertPacket packet now).2 := by
  have hfresh : packet.sequenceNumber ∉ b.makeRoom.entries.keys := by
    intro hmem
    exact h.1 (makeRoom_keys_subset b hmem)
  refine ⟨{ b.makeRoom with
    window := (b.window.admitSequence packet.sequenceNumber).2 }.updateJitterEstimate packet now,
    (makeRoom_settles b).trans ?_, rfl, ?_, ?_⟩
  · apply Settles.of_unchanged <;> rfl
  · exact makeRoom_delivered b
  · rw [insertPacket_of_accepts h, adaptIfEnabled_eq]
    have hstore : Stores b.makeRoom (b.makeRoom.store packet now) := store_stores hfresh
    exact
      { config := hstore.config
        buffered := hstore.buffered
        delivered := hstore.delivered
        dropped := hstore.dropped
        length := hstore.length
        peak := hstore.peak }

/-- An insertion panics exactly when it accepts the packet and the delay arithmetic
after it leaves the range. -/
theorem insertPacket_panicked_iff {packet : AudioPacket} {now : Instant} :
    (b.insertPacket packet now).1 = .panicked ↔
      b.Accepts packet.sequenceNumber ∧ b.config.adaptiveEnabled = true ∧
        ¬ (b.updateJitterEstimate packet now).DelayInRange := by
  by_cases h : b.Accepts packet.sequenceNumber
  · rw [insertPacket_of_accepts h, adaptIfEnabled_panicked_iff, makeRoom_eq, and_iff_right h]
    rfl
  · simp [h, (insertPacket_of_not_accepts h now).1]

/-! ## The delivered counter -/

/-- An insertion delivers nothing. -/
theorem insertPacket_delivered (b : JitterBuffer) (packet : AudioPacket) (now : Instant) :
    (b.insertPacket packet now).2.packetsDeliveredTotal = b.packetsDeliveredTotal := by
  by_cases haccepts : b.Accepts packet.sequenceNumber
  · rcases insertPacket_stores haccepts now with ⟨roomy, -, -, hdelivered, hstores⟩
    exact hstores.delivered.trans hdelivered
  · rw [(insertPacket_of_not_accepts haccepts now).2]

/-- An eviction delivers nothing. -/
theorem evictStale_delivered (b : JitterBuffer) (clock : Nat → Instant) :
    (b.evictStale clock).packetsDeliveredTotal = b.packetsDeliveredTotal := by
  unfold evictStale
  induction b.staleSequences clock using List.reverseRecOn with
  | nil => rfl
  | append_singleton ns n ih =>
      rw [List.foldl_concat]
      exact ih

/-- A call for the next packet counts the packet it returns. -/
theorem nextPacket_delivered (b : JitterBuffer) (clock : Nat → Instant) :
    (b.nextPacket clock).2.packetsDeliveredTotal =
      b.packetsDeliveredTotal + (b.nextPacket clock).1.toList.length := by
  have hfresh := evictStale_delivered b clock
  unfold nextPacket
  dsimp only
  cases hfirst : (b.evictStale clock).entries.first? with
  | none => exact hfresh
  | some first =>
      dsimp only
      split_ifs with hready
      · simp [release, hfresh]
      · simp [hfresh]

@[simp]
theorem setTargetDelay_delivered (b : JitterBuffer) (delay : Duration) :
    (b.setTargetDelay delay).2.packetsDeliveredTotal = b.packetsDeliveredTotal := by
  unfold setTargetDelay
  split_ifs <;> rfl

end JitterBuffer
end Buffer
end EchoSync
