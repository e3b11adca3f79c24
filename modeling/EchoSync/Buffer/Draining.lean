import EchoSync.Buffer.BufferRun

/-!
# Buffer Layer - Draining by calls and by a flush

A consumer that calls for the next packet until nothing is ready, compared with a flush.
At a clock reading at which every buffered packet is due and none is stale, the calls
evict nothing and release one packet each in the order of the flush.

Main results:

- Definition {lit}`JitterBuffer.nextUntilNone`: the calls at one clock reading, which end
  because each returned packet leaves the storage.
- Theorem {lit}`JitterBuffer.nextUntilNone_eq_flush`: they return what a flush returns and
  leave the same buffer behind.
-/

namespace EchoSync
namespace Buffer

open Streaming

namespace JitterBuffer

variable {b : JitterBuffer} {now : Instant}

/-! ## Repeated calls -/

theorem release_length {n : U64} {entry : BufferedEntry}
    (hfirst : b.entries.first? = some (n, entry)) :
    (b.release n).entries.length + 1 = b.entries.length :=
  OrderedMap.length_remove (OrderedMap.first?_mem hfirst)

/-- A call that returns a packet takes it out of the storage. -/
theorem nextPacket_length_lt {clock : Nat → Instant} {packet : AudioPacket}
    (h : (b.nextPacket clock).1 = some packet) :
    (b.nextPacket clock).2.entries.length < b.entries.length := by
  have hfresh := (evictStale_settles b clock).shrinks
  unfold nextPacket at h ⊢
  dsimp only at h ⊢
  cases hfirst : (b.evictStale clock).entries.first? with
  | none => simp [hfirst] at h
  | some first =>
      rw [hfirst] at h
      dsimp only at h ⊢
      split_ifs at h ⊢ with hready
      have hlength := release_length hfirst
      dsimp only
      omega

/-- The packets of repeated calls for the next packet at one clock reading, until a call
returns none. -/
def nextUntilNone (b : JitterBuffer) (now : Instant) : List AudioPacket × JitterBuffer :=
  match hnext : (b.nextPacket fun _ => now).1 with
  | none => ([], (b.nextPacket fun _ => now).2)
  | some packet =>
      have := nextPacket_length_lt hnext
      let rest := nextUntilNone (b.nextPacket fun _ => now).2 now
      (packet :: rest.1, rest.2)
termination_by b.entries.length

theorem nextUntilNone_of_none {b' : JitterBuffer}
    (hnext : (b.nextPacket fun _ => now) = (none, b')) : b.nextUntilNone now = ([], b') := by
  rw [nextUntilNone]
  split
  · rw [hnext]
  · rename_i packet hsome
    rw [hnext] at hsome
    contradiction

theorem nextUntilNone_of_some {b' : JitterBuffer} {packet : AudioPacket}
    (hnext : (b.nextPacket fun _ => now) = (some packet, b')) :
    b.nextUntilNone now = (packet :: (b'.nextUntilNone now).1, (b'.nextUntilNone now).2) := by
  rw [nextUntilNone]
  split
  · rename_i hnone
    rw [hnext] at hnone
    contradiction
  · rename_i first hsome
    dsimp only
    rw [hnext] at hsome ⊢
    cases hsome
    rfl

/-! ## Packets that are due -/

/-- At this reading every buffered packet is due, and none has exceeded the maximum age. -/
def AllReady (b : JitterBuffer) (now : Instant) : Prop :=
  ∀ e ∈ b.entries.toList, b.targetDelay ≤ now.elapsedSince e.2.arrival ∧
    now.elapsedSince e.2.arrival ≤ b.config.maxPacketAge

/-- Nothing is evicted. -/
theorem evictStale_of_allReady (h : b.AllReady now) : (b.evictStale fun _ => now) = b := by
  have hnone : (b.staleSequences fun _ => now) = [] := by
    unfold staleSequences
    rw [List.map_eq_nil_iff, List.filter_eq_nil_iff]
    intro e he
    have hmem : e.1 ∈ b.entries.toList := List.fst_mem_of_mem_zipIdx he
    simpa using (h e.1 hmem).2
  rw [evictStale, hnone, List.foldl_nil]

/-- A release leaves packets that are due. -/
theorem release_allReady (h : b.AllReady now) (n : U64) : (b.release n).AllReady now := by
  intro e he
  exact h e (List.mem_of_mem_filter he)

/-- The first packet is returned. -/
theorem nextPacket_of_allReady (h : b.AllReady now) {n : U64} {entry : BufferedEntry}
    (hfirst : b.entries.first? = some (n, entry)) :
    (b.nextPacket fun _ => now) = (some entry.packet, b.release n) := by
  have hdue := (h (n, entry) (List.mem_of_head? hfirst)).1
  unfold nextPacket
  dsimp only
  rw [evictStale_of_allReady h, hfirst]
  dsimp only
  rw [if_pos hdue]

/-! ## The flush -/

/-- What was drained before stays in front. -/
theorem foldl_drainOne_append (ns : List U64) (packets : List AudioPacket) (b : JitterBuffer) :
    ns.foldl drainOne (packets, b) =
      (packets ++ (ns.foldl drainOne ([], b)).1, (ns.foldl drainOne ([], b)).2) := by
  induction ns generalizing packets b with
  | nil => simp
  | cons n ns ih =>
      rw [List.foldl_cons, List.foldl_cons]
      cases hget : b.entries.get? n with
      | none =>
          have hdrain : ∀ ps, drainOne (ps, b) n = (ps, b) := by simp [drainOne, hget]
          rw [hdrain, hdrain]
          exact ih packets b
      | some entry =>
          have hdrain : ∀ ps, drainOne (ps, b) n = (ps ++ [entry.packet], b.release n) := by
            simp [drainOne, hget]
          rw [hdrain, hdrain, ih, ih ([] ++ [entry.packet])]
          simp

/-- A flush returns the first packet and flushes the rest. -/
theorem flush_of_first {n : U64} {entry : BufferedEntry}
    (hfirst : b.entries.first? = some (n, entry)) :
    b.flush = (entry.packet :: (b.release n).flush.1, (b.release n).flush.2) := by
  have hkeys : b.entries.keys = n :: b.entries.keys.tail := by
    rcases List.head?_eq_some_iff.mp hfirst with ⟨rest, hrest⟩
    simp [OrderedMap.keys, hrest]
  rcases @drainOne_of_keys ([], b) n _ hkeys with ⟨first, hsame, hdrain, hrest⟩
  rw [hfirst, Option.some.injEq, Prod.mk.injEq] at hsame
  rw [flush, hkeys, List.foldl_cons, hdrain, foldl_drainOne_append, ← hsame.2, flush]
  dsimp only
  rw [hrest]
  rfl

/-- At a reading at which every buffered packet is due and none is stale, repeated calls
for the next packet return what a flush returns, in the same order, and leave the same
buffer behind: the same entries, window, timing state and counters. -/
theorem nextUntilNone_eq_flush (h : b.AllReady now) : b.nextUntilNone now = b.flush := by
  induction hlength : b.entries.length generalizing b with
  | zero =>
      have hempty : b.entries.toList = [] := List.eq_nil_of_length_eq_zero hlength
      have hnone : (b.nextPacket fun _ => now) = (none, b) := by
        unfold nextPacket
        dsimp only
        rw [evictStale_of_allReady h, OrderedMap.first?, hempty]
        rfl
      have hflush : b.flush = ([], b) := by
        rw [flush, OrderedMap.keys, hempty]
        rfl
      rw [nextUntilNone_of_none hnone, hflush]
  | succ k ih =>
      cases hfirst : b.entries.first? with
      | none =>
          have hempty : b.entries.toList = [] := List.head?_eq_none_iff.mp hfirst
          rw [OrderedMap.length, hempty] at hlength
          contradiction
      | some first =>
          rcases first with ⟨n, entry⟩
          have hnext := nextPacket_of_allReady h hfirst
          have hrest : (b.release n).nextUntilNone now = (b.release n).flush := by
            apply ih (release_allReady h n)
            have hreleased := release_length hfirst
            omega
          rw [nextUntilNone_of_some hnext, flush_of_first hfirst, hrest]

end JitterBuffer

namespace BufferRun

/-- Two packets with a gap between them, a tenth of a second after they arrived. -/
theorem nextUntilNone_eq_flush_default :
    ∃ b, JitterBuffer.new BufferConfig.default = .ok b ∧
      let calls : List BufferCall :=
        [.insertPacket (makePacket 0 9 0) (Instant.ofMillis 0),
          .insertPacket (makePacket 1 3 0) (Instant.ofMillis 1)]
      (run b calls).buffer.entries.keys = [3, 9] ∧
        (run b calls).buffer.nextUntilNone (Instant.ofMillis 100) = (run b calls).buffer.flush := by
  refine ⟨_, rfl, by decide +kernel, ?_⟩
  apply JitterBuffer.nextUntilNone_eq_flush
  unfold JitterBuffer.AllReady
  decide +kernel

end BufferRun

end Buffer
end EchoSync
