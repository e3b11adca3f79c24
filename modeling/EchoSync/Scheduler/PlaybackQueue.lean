import EchoSync.Foundations.PriorityQueue
import EchoSync.Scheduler.Config
import EchoSync.Streaming.Packet

/-!
# Playback Scheduler - The playback queue

The single-threaded ordering core of the scheduler: a deadline-ordered queue of
packets awaiting release, with the set of the queued packet ids and a capacity.

Main results:

- Theorem {lit}`ScheduledPacket.cmp_eq_gt_iff`: the comparison of the source
  ranks a packet above another exactly when its key of deadline, sequence number
  and id is smaller.
- Structure {lit}`PlaybackQueue.IdInvariant`: the id set mirrors the queue,
  whose ids are distinct; every operation keeps it.
-/

namespace EchoSync
namespace Scheduler

open Streaming

/-- A packet with its playback deadline and the moment it was scheduled. -/
structure ScheduledPacket where
  packet : AudioPacket
  deadline : Duration
  scheduledAt : Duration

namespace ScheduledPacket

/-- The comparison of the source, made for a queue that removes the greatest
element: the earliest deadline is the greatest, ties break on the sequence number
and then on the packet id. -/
def cmp (self other : ScheduledPacket) : Ordering :=
  (compare other.deadline self.deadline).then
    ((compare other.packet.sequenceNumber self.packet.sequenceNumber).then
      (compare other.packet.packetId self.packet.packetId))

/-- Deadline, sequence number and packet id, compared in this order. -/
abbrev Key := Duration ×ₗ U64 ×ₗ U64

/-- The release key of a packet. -/
def key (item : ScheduledPacket) : Key :=
  toLex (item.deadline, toLex (item.packet.sequenceNumber, item.packet.packetId))

theorem key_lt_iff {a b : ScheduledPacket} :
    a.key < b.key ↔ a.deadline < b.deadline ∨ a.deadline = b.deadline ∧
      (a.packet.sequenceNumber < b.packet.sequenceNumber ∨
        a.packet.sequenceNumber = b.packet.sequenceNumber ∧
          a.packet.packetId < b.packet.packetId) := by
  simp [key, Prod.Lex.toLex_lt_toLex]

theorem key_le_iff {a b : ScheduledPacket} :
    a.key ≤ b.key ↔ a.deadline < b.deadline ∨ a.deadline = b.deadline ∧
      (a.packet.sequenceNumber < b.packet.sequenceNumber ∨
        a.packet.sequenceNumber = b.packet.sequenceNumber ∧
          a.packet.packetId ≤ b.packet.packetId) := by
  simp [key, Prod.Lex.toLex_le_toLex]

/-- A smaller key has no later deadline. -/
theorem deadline_le_of_key_le {a b : ScheduledPacket} (h : a.key ≤ b.key) :
    a.deadline ≤ b.deadline := by
  rcases key_le_iff.mp h with hlt | ⟨heq, -⟩
  · exact le_of_lt hlt
  · exact le_of_eq heq

/-- The packet that the queue removes first is the one with the smaller key. -/
theorem cmp_eq_gt_iff {a b : ScheduledPacket} : a.cmp b = .gt ↔ a.key < b.key := by
  rw [key_lt_iff]
  simp only [cmp, Ordering.then_eq_gt, compare_gt_iff_gt, compare_eq_iff_eq]
  constructor
  · rintro (hlt | ⟨heq, hlt | ⟨hseq, hid⟩⟩)
    · exact Or.inl hlt
    · exact Or.inr ⟨heq.symm, Or.inl hlt⟩
    · exact Or.inr ⟨heq.symm, Or.inr ⟨hseq.symm, hid⟩⟩
  · rintro (hlt | ⟨heq, hlt | ⟨hseq, hid⟩⟩)
    · exact Or.inl hlt
    · exact Or.inr ⟨heq.symm, Or.inl hlt⟩
    · exact Or.inr ⟨heq.symm, Or.inr ⟨hseq.symm, hid⟩⟩

end ScheduledPacket

/-- The queued packets in release order, their ids and the capacity. -/
structure PlaybackQueue where
  heap : PriorityQueue ScheduledPacket ScheduledPacket.key
  ids : Finset U64
  capacity : Nat

namespace PlaybackQueue

/-- An empty queue of at least one place. -/
def new (capacity : Nat) : PlaybackQueue where
  heap := PriorityQueue.empty
  ids := ∅
  capacity := max capacity 1

/-- Whether the queue is at capacity. -/
def isFull (q : PlaybackQueue) : Bool :=
  decide (q.ids.card ≥ q.capacity)

/-- Insert a packet in deadline order. -/
def enqueue (q : PlaybackQueue) (item : ScheduledPacket) :
    Except SchedulerError Unit × PlaybackQueue :=
  if item.packet.packetId ∈ q.ids then
    (.error (.duplicatePacket item.packet.packetId), q)
  else if q.ids.card ≥ q.capacity then (.error (.queueFull q.capacity), q)
  else
    (.ok (),
      { q with heap := q.heap.insert item, ids := insert item.packet.packetId q.ids })

/-- The packet with the earliest deadline, left in place. -/
def peek (q : PlaybackQueue) : Option ScheduledPacket :=
  q.heap.peek

/-- Remove the packet with the earliest deadline. -/
def dequeue (q : PlaybackQueue) : Option ScheduledPacket × PlaybackQueue :=
  match q.heap.peek with
  | some item =>
      (some item,
        { q with heap := q.heap.dropFirst, ids := q.ids.erase item.packet.packetId })
  | none => (none, q)

/-- Remove the packet with this id, wherever it is. -/
def cancel (q : PlaybackQueue) (packetId : U64) : Bool × PlaybackQueue :=
  if packetId ∈ q.ids then
    (true,
      { q with
        heap := q.heap.filter fun item => decide (item.packet.packetId ≠ packetId)
        ids := q.ids.erase packetId })
  else (false, q)

/-- The number of queued packets. -/
def size (q : PlaybackQueue) : Nat :=
  q.heap.length

/-- Remove every packet. -/
def clear (q : PlaybackQueue) : PlaybackQueue :=
  { q with heap := PriorityQueue.empty, ids := ∅ }

/-! ## The id set -/

/-- The id set mirrors the queue, and no two queued packets share an id. -/
structure IdInvariant (q : PlaybackQueue) : Prop where
  mirrors : ∀ id, id ∈ q.ids ↔ ∃ item ∈ q.heap.toList, item.packet.packetId = id
  distinct : (q.heap.toList.map fun item => item.packet.packetId).Nodup

theorem new_idInvariant (capacity : Nat) : (new capacity).IdInvariant where
  mirrors := by simp [new]
  distinct := List.nodup_nil

theorem clear_idInvariant (q : PlaybackQueue) : q.clear.IdInvariant where
  mirrors := by simp [clear]
  distinct := List.nodup_nil

/-- A successful insertion adds the packet under a fresh id. -/
theorem enqueue_ok {q q' : PlaybackQueue} {item : ScheduledPacket}
    (h : q.enqueue item = (.ok (), q')) :
    item.packet.packetId ∉ q.ids ∧
      q' = { q with heap := q.heap.insert item, ids := insert item.packet.packetId q.ids } := by
  unfold enqueue at h
  split_ifs at h with hdup hfull
  all_goals cases h
  exact ⟨hdup, rfl⟩

/-- A refused insertion leaves the queue as it is. -/
theorem enqueue_err {q q' : PlaybackQueue} {item : ScheduledPacket} {e : SchedulerError}
    (h : q.enqueue item = (.error e, q')) : q' = q := by
  unfold enqueue at h
  split_ifs at h
  all_goals cases h
  all_goals rfl

theorem enqueue_idInvariant {q q' : PlaybackQueue} {item : ScheduledPacket}
    (hq : q.IdInvariant) (h : q.enqueue item = (.ok (), q')) : q'.IdInvariant := by
  rcases enqueue_ok h with ⟨hfresh, rfl⟩
  constructor
  · intro id
    simp [hq.mirrors, eq_comm]
  · have hperm := (q.heap.insert_perm item).map fun item => item.packet.packetId
    refine hperm.nodup_iff.mpr (List.nodup_cons.mpr ⟨?_, hq.distinct⟩)
    intro hmem
    rcases List.mem_map.mp hmem with ⟨other, hother, heq⟩
    exact hfresh ((hq.mirrors _).mpr ⟨other, hother, heq⟩)

/-- A removal answers the packet with the smallest key. -/
theorem dequeue_some {q q' : PlaybackQueue} {item : ScheduledPacket}
    (h : q.dequeue = (some item, q')) :
    q.heap.peek = some item ∧
      q' = { q with heap := q.heap.dropFirst, ids := q.ids.erase item.packet.packetId } := by
  unfold dequeue at h
  cases hpeek : q.heap.peek with
  | none =>
      rw [hpeek] at h
      cases h
  | some head =>
      rw [hpeek] at h
      cases h
      exact ⟨rfl, rfl⟩

theorem dequeue_idInvariant {q q' : PlaybackQueue} {item : ScheduledPacket}
    (hq : q.IdInvariant) (h : q.dequeue = (some item, q')) : q'.IdInvariant := by
  rcases dequeue_some h with ⟨hpeek, rfl⟩
  have hlist := PriorityQueue.toList_of_peek hpeek
  have hdistinct := hq.distinct
  rw [hlist, List.map_cons, List.nodup_cons] at hdistinct
  refine ⟨?_, hdistinct.2⟩
  intro id
  have hmirrors := hq.mirrors id
  rw [hlist] at hmirrors
  simp only [Finset.mem_erase, hmirrors, List.mem_cons, exists_eq_or_imp]
  constructor
  · rintro ⟨hne, heq | hrest⟩
    · exact absurd heq.symm hne
    · exact hrest
  · rintro ⟨other, hother, rfl⟩
    refine ⟨?_, Or.inr ⟨other, hother, rfl⟩⟩
    intro heq
    exact hdistinct.1 (heq ▸ List.mem_map_of_mem hother)

theorem cancel_idInvariant {q : PlaybackQueue} (hq : q.IdInvariant) (packetId : U64) :
    (q.cancel packetId).2.IdInvariant := by
  unfold cancel
  split_ifs with hmem
  · constructor
    · intro id
      simp only [Finset.mem_erase, hq.mirrors, PriorityQueue.mem_filter, decide_eq_true_eq]
      constructor
      · rintro ⟨hne, item, hitem, rfl⟩
        exact ⟨item, ⟨hitem, hne⟩, rfl⟩
      · rintro ⟨item, ⟨hitem, hne⟩, rfl⟩
        exact ⟨hne, item, hitem, rfl⟩
    · exact hq.distinct.sublist (List.filter_sublist.map _)
  · exact hq

/-- A cancellation only removes packets. -/
theorem cancel_sublist (q : PlaybackQueue) (packetId : U64) :
    (q.cancel packetId).2.heap.toList.Sublist q.heap.toList := by
  unfold cancel
  split_ifs
  · exact List.filter_sublist
  · exact List.Sublist.refl _

end PlaybackQueue
end Scheduler
end EchoSync
