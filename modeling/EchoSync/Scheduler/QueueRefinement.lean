import EchoSync.Foundations.BoundedMap
import EchoSync.Foundations.TransitionSystem
import EchoSync.Scheduler.PlaybackQueue

/-!
# Playback Scheduler - The queue as a map

What the playback queue is for: a map from packet ids to packets, of bounded size, that gives
up its packets by deadline, sequence number and id.  The heap and the id set of the source
together represent such a map, and every sequence of calls is answered as the map answers it.

Main results:

- Theorem {lit}`PlaybackQueue.step_refines`: one call.
- Theorem {lit}`PlaybackQueue.refines_boundedMap`: every sequence of calls on a new queue.
-/

namespace EchoSync
namespace Scheduler

open TransitionSystem

/-- A call of the queue. -/
inductive QueueCall where
  | enqueue (item : ScheduledPacket)
  | dequeue
  | peek
  | cancel (packetId : U64)
  | clear

/-- What a call of the queue answers. -/
inductive QueueAnswer where
  | enqueued (result : Except SchedulerError Unit)
  | packet (item : Option ScheduledPacket)
  | cancelled (found : Bool)
  | cleared

/-- What the queue is for. -/
abbrev PacketMap (capacity : Nat) := BoundedMap U64 ScheduledPacket capacity

/-- The answer of the map to a call of the queue, and the map that is left. -/
noncomputable def PacketMap.step {capacity : Nat} (m : PacketMap capacity) :
    QueueCall → QueueAnswer × PacketMap capacity
  | .enqueue item =>
      match m.insert item.packet.packetId item with
      | .ok m' => (.enqueued (.ok ()), m')
      | .error .present => (.enqueued (.error (.duplicatePacket item.packet.packetId)), m)
      | .error .full => (.enqueued (.error (.queueFull capacity)), m)
  | .dequeue =>
      match m.first? ScheduledPacket.key with
      | some item => (.packet (some item), m.erase item.packet.packetId)
      | none => (.packet none, m)
  | .peek => (.packet (m.first? ScheduledPacket.key), m)
  | .cancel packetId => (.cancelled (m.lookup packetId).isSome, m.erase packetId)
  | .clear => (.cleared, BoundedMap.empty)

namespace PlaybackQueue

variable {q : PlaybackQueue} {capacity : Nat} {m : PacketMap capacity}

/-- The answer of the queue to a call, and the queue that is left. -/
def step (q : PlaybackQueue) : QueueCall → QueueAnswer × PlaybackQueue
  | .enqueue item => ((q.enqueue item).map .enqueued id)
  | .dequeue => (q.dequeue.map .packet id)
  | .peek => (.packet q.peek, q)
  | .cancel packetId => ((q.cancel packetId).map .cancelled id)
  | .clear => (.cleared, q.clear)

/-- The queue holds the packets of the map, each once, and its id set the ids of the map. -/
structure Represents (q : PlaybackQueue) (m : PacketMap capacity) : Prop where
  ids : q.IdInvariant
  entries : ∀ id item, m.lookup id = some item ↔
    item ∈ q.heap.toList ∧ item.packet.packetId = id
  capacity_eq : q.capacity = capacity

/-! ## The two structures and the map -/

theorem Represents.ids_eq (h : q.Represents m) : q.ids = m.keys := by
  ext id
  rw [BoundedMap.mem_keys, h.ids.mirrors]
  constructor
  · rintro ⟨item, hitem, hid⟩
    exact ⟨item, (h.entries id item).mpr ⟨hitem, hid⟩⟩
  · rintro ⟨item, hlookup⟩
    exact ⟨item, (h.entries id item).mp hlookup⟩

/-- The id set is the image of the heap. -/
theorem IdInvariant.ids_eq_toFinset (h : q.IdInvariant) :
    q.ids = (q.heap.toList.map fun item => item.packet.packetId).toFinset := by
  ext id
  simp [h.mirrors]

/-- The heap and the id set have the same size. -/
theorem IdInvariant.size_eq (h : q.IdInvariant) : q.size = q.ids.card := by
  rw [h.ids_eq_toFinset, List.toFinset_card_of_nodup h.distinct, List.length_map]
  rfl

theorem Represents.size_le (h : q.Represents m) : q.size ≤ capacity := by
  rw [h.ids.size_eq, h.ids_eq]
  exact m.card_le

/-- Two queued packets with one id are one packet. -/
theorem IdInvariant.eq_of_packetId_eq (h : q.IdInvariant) {a b : ScheduledPacket}
    (ha : a ∈ q.heap.toList) (hb : b ∈ q.heap.toList)
    (hid : a.packet.packetId = b.packet.packetId) : a = b :=
  List.inj_on_of_nodup_map h.distinct ha hb hid

/-- The packet that leaves the queue first is strictly before every other. -/
theorem IdInvariant.key_lt_of_peek (h : q.IdInvariant) {item other : ScheduledPacket}
    (hpeek : q.peek = some item) (hother : other ∈ q.heap.toList) (hne : other ≠ item) :
    item.key < other.key := by
  have hle := PriorityQueue.key_le_of_peek hpeek hother
  apply lt_of_le_of_ne hle
  intro heq
  have hid : item.packet.packetId = other.packet.packetId := by
    simp only [ScheduledPacket.key, EmbeddingLike.apply_eq_iff_eq, Prod.mk.injEq] at heq
    exact heq.2.2
  exact hne (h.eq_of_packetId_eq hother (PriorityQueue.mem_of_peek hpeek) hid.symm)

/-- The packet that leaves the queue first is the first one of the map. -/
theorem Represents.peek_eq (h : q.Represents m) : q.peek = m.first? ScheduledPacket.key := by
  cases hpeek : q.peek with
  | none =>
      have hempty : q.heap.toList = [] := PriorityQueue.peek_eq_none.mp hpeek
      symm
      apply BoundedMap.first?_eq_none_of_empty
      intro id
      rw [Option.eq_none_iff_forall_ne_some]
      intro item hlookup
      have hitem := ((h.entries id item).mp hlookup).1
      rw [hempty] at hitem
      contradiction
  | some item =>
      symm
      rw [BoundedMap.first?_eq_some_iff]
      constructor
      · exact ⟨item.packet.packetId,
          (h.entries _ item).mpr ⟨PriorityQueue.mem_of_peek hpeek, rfl⟩⟩
      · intro id other hlookup hne
        exact h.ids.key_lt_of_peek hpeek ((h.entries id other).mp hlookup).1 hne

/-! ## One call -/

/-- Storing a packet under a fresh id. -/
theorem Represents.of_inserted (h : q.Represents m) {item : ScheduledPacket}
    {m' : PacketMap capacity} (hinsert : m.insert item.packet.packetId item = .ok m')
    (hfresh : item.packet.packetId ∉ q.ids) {q' : PlaybackQueue} (hids : q'.IdInvariant)
    (hcapacity : q'.capacity = q.capacity) (hheap : q'.heap = q.heap.insert item) :
    q'.Represents m' where
  ids := hids
  entries := by
    intro id other
    rw [BoundedMap.lookup_of_insert hinsert, hheap, PriorityQueue.mem_insert]
    split_ifs with hid
    · rw [hid, Option.some.injEq]
      constructor
      · rintro rfl
        exact ⟨Or.inl rfl, rfl⟩
      · rintro ⟨rfl | hother, hsame⟩
        · rfl
        · exact absurd ((h.ids.mirrors _).mpr ⟨other, hother, hsame⟩) hfresh
    · rw [h.entries]
      constructor
      · rintro ⟨hother, hsame⟩
        exact ⟨Or.inr hother, hsame⟩
      · rintro ⟨rfl | hother, hsame⟩
        · exact absurd hsame.symm hid
        · exact ⟨hother, hsame⟩
  capacity_eq := hcapacity.trans h.capacity_eq

/-- The queue stores a packet where the map does. -/
theorem Represents.enqueue_of_insert (h : q.Represents m) {item : ScheduledPacket}
    {m' : PacketMap capacity} (hinsert : m.insert item.packet.packetId item = .ok m') :
    ∃ q', q.enqueue item = (.ok (), q') ∧ q'.Represents m' := by
  have hfresh : item.packet.packetId ∉ q.ids := by
    rw [h.ids_eq, ← BoundedMap.insert_eq_error_present_iff (a := item), hinsert]
    simp
  have hroom : ¬ q.ids.card ≥ q.capacity := by
    intro hge
    have hfull : m.insert item.packet.packetId item = .error .full := by
      rw [BoundedMap.insert_eq_error_full_iff, ← h.ids_eq]
      rw [h.capacity_eq] at hge
      exact ⟨hfresh, le_antisymm (h.ids.size_eq ▸ h.size_le) hge⟩
    rw [hinsert] at hfull
    contradiction
  have hstored : q.enqueue item =
      (.ok (), { q with
        heap := q.heap.insert item, ids := insert item.packet.packetId q.ids }) := by
    rw [PlaybackQueue.enqueue, if_neg hfresh, if_neg hroom]
  exact ⟨_, hstored,
    h.of_inserted hinsert hfresh (enqueue_idInvariant h.ids hstored) rfl rfl⟩

/-- The queue refuses a packet where the map does, for the same reason. -/
theorem Represents.enqueue_of_refused (h : q.Represents m) {item : ScheduledPacket}
    {refusal : BoundedMap.Refusal} (hinsert : m.insert item.packet.packetId item = .error refusal) :
    q.enqueue item =
      (.error (match refusal with
        | .present => .duplicatePacket item.packet.packetId
        | .full => .queueFull capacity), q) := by
  cases refusal with
  | present =>
      have hmem := BoundedMap.insert_eq_error_present_iff.mp hinsert
      rw [← h.ids_eq] at hmem
      rw [PlaybackQueue.enqueue, if_pos hmem]
  | full =>
      rcases BoundedMap.insert_eq_error_full_iff.mp hinsert with ⟨hfresh, hfull⟩
      rw [← h.ids_eq] at hfresh hfull
      rw [PlaybackQueue.enqueue, if_neg hfresh, h.capacity_eq, if_pos hfull.ge]

theorem Represents.enqueue (h : q.Represents m) (item : ScheduledPacket) :
    (q.step (.enqueue item)).1 = (m.step (.enqueue item)).1 ∧
      (q.step (.enqueue item)).2.Represents (m.step (.enqueue item)).2 := by
  cases hinsert : m.insert item.packet.packetId item with
  | error refusal =>
      have hrefused := h.enqueue_of_refused hinsert
      cases refusal <;>
        simp only [step, PacketMap.step, hinsert, hrefused] <;> exact ⟨rfl, h⟩
  | ok m' =>
      rcases h.enqueue_of_insert hinsert with ⟨q', hstored, hrepresents⟩
      simp only [step, PacketMap.step, hinsert, hstored]
      exact ⟨rfl, hrepresents⟩

/-- Removing exactly the packet with an id. -/
theorem Represents.of_removed {q' : PlaybackQueue} (h : q.Represents m) (packetId : U64)
    (hids : q'.IdInvariant) (hcapacity : q'.capacity = q.capacity)
    (hheap : ∀ item, item ∈ q'.heap.toList ↔
      item ∈ q.heap.toList ∧ item.packet.packetId ≠ packetId) :
    q'.Represents (m.erase packetId) where
  ids := hids
  entries := by
    intro id item
    rw [BoundedMap.lookup_erase, hheap]
    split_ifs with hid
    · rw [hid]
      constructor
      · intro hnone
        contradiction
      · rintro ⟨⟨-, hne⟩, heq⟩
        exact absurd heq hne
    · rw [h.entries]
      constructor
      · rintro ⟨hitem, hsame⟩
        exact ⟨⟨hitem, fun heq => hid (hsame.symm.trans heq)⟩, hsame⟩
      · rintro ⟨⟨hitem, -⟩, hsame⟩
        exact ⟨hitem, hsame⟩
  capacity_eq := hcapacity.trans h.capacity_eq

theorem Represents.dequeue (h : q.Represents m) :
    (q.step .dequeue).1 = (m.step .dequeue).1 ∧
      (q.step .dequeue).2.Represents (m.step .dequeue).2 := by
  have hfirst := h.peek_eq
  cases hpeek : q.peek with
  | none =>
      rw [hpeek] at hfirst
      have hnone : q.dequeue = (none, q) := by
        rw [PlaybackQueue.dequeue, ← peek, hpeek]
      simp only [step, PacketMap.step, ← hfirst, hnone]
      exact ⟨rfl, h⟩
  | some item =>
      rw [hpeek] at hfirst
      have hsome : q.dequeue =
          (some item, { q with
            heap := q.heap.dropFirst, ids := q.ids.erase item.packet.packetId }) := by
        rw [PlaybackQueue.dequeue, ← peek, hpeek]
      have hlist := PriorityQueue.toList_of_peek hpeek
      simp only [step, PacketMap.step, ← hfirst, hsome]
      refine ⟨rfl, h.of_removed _ (dequeue_idInvariant h.ids hsome) rfl ?_⟩
      intro other
      change other ∈ q.heap.dropFirst.toList ↔ _
      have hdistinct := h.ids.distinct
      rw [hlist, List.map_cons, List.nodup_cons] at hdistinct
      rw [hlist, List.mem_cons]
      constructor
      · intro hother
        refine ⟨Or.inr hother, ?_⟩
        intro hid
        exact hdistinct.1 (hid ▸ List.mem_map_of_mem hother)
      · rintro ⟨rfl | hother, hne⟩
        · exact absurd rfl hne
        · exact hother

/-- A cancellation removes exactly the packet with the id. -/
theorem IdInvariant.mem_cancel (h : q.IdInvariant) (packetId : U64) (item : ScheduledPacket) :
    item ∈ (q.cancel packetId).2.heap.toList ↔
      item ∈ q.heap.toList ∧ item.packet.packetId ≠ packetId := by
  unfold PlaybackQueue.cancel
  split_ifs with hmem
  · simp only [PriorityQueue.mem_filter, decide_eq_true_eq]
  · constructor
    · intro hitem
      exact ⟨hitem, fun heq => hmem ((h.mirrors _).mpr ⟨item, hitem, heq⟩)⟩
    · exact And.left

theorem Represents.cancel (h : q.Represents m) (packetId : U64) :
    (q.step (.cancel packetId)).1 = (m.step (.cancel packetId)).1 ∧
      (q.step (.cancel packetId)).2.Represents (m.step (.cancel packetId)).2 := by
  have hfound : packetId ∈ q.ids ↔ (m.lookup packetId).isSome = true := by
    rw [h.ids_eq, BoundedMap.mem_keys, Option.isSome_iff_exists]
  simp only [step, PacketMap.step, Prod.map, id]
  refine ⟨?_, h.of_removed packetId (cancel_idInvariant h.ids packetId) ?_
    (h.ids.mem_cancel packetId)⟩
  · congr 1
    rw [Bool.eq_iff_iff, ← hfound]
    unfold PlaybackQueue.cancel
    split_ifs with hmem <;> simp [hmem]
  · unfold PlaybackQueue.cancel
    split_ifs <;> rfl

theorem Represents.clear (h : q.Represents m) :
    q.clear.Represents (BoundedMap.empty : PacketMap capacity) where
  ids := clear_idInvariant q
  entries := by simp [PlaybackQueue.clear]
  capacity_eq := h.capacity_eq

/-- Every call is answered as the map answers it, and the queue represents the map that is
left. -/
theorem step_refines (h : q.Represents m) (call : QueueCall) :
    (q.step call).1 = (m.step call).1 ∧ (q.step call).2.Represents (m.step call).2 := by
  cases call with
  | enqueue item => exact h.enqueue item
  | dequeue => exact h.dequeue
  | peek => exact ⟨congrArg _ h.peek_eq, h⟩
  | cancel packetId => exact h.cancel packetId
  | clear => exact ⟨rfl, h.clear⟩

theorem new_represents (capacity : Nat) :
    (new capacity).Represents (BoundedMap.empty : PacketMap (max capacity 1)) where
  ids := new_idInvariant capacity
  entries := by simp [new]
  capacity_eq := rfl

/-! ## What the answers say -/

/-- What the calls of a queue of at most {lit}`bound` packets promise about its packets. -/
structure Contract (q : PlaybackQueue) (bound : Nat) : Prop where
  ids : q.IdInvariant
  size_le : q.size ≤ bound
  duplicate : ∀ item, (q.enqueue item).1 = .error (.duplicatePacket item.packet.packetId) ↔
    ∃ queued ∈ q.heap.toList, queued.packet.packetId = item.packet.packetId
  full : ∀ item, (q.enqueue item).1 = .error (.queueFull bound) ↔
    (¬ ∃ queued ∈ q.heap.toList, queued.packet.packetId = item.packet.packetId) ∧ q.size = bound
  refused : ∀ item e, (q.enqueue item).1 = .error e → (q.enqueue item).2 = q
  first : ∀ item, q.peek = some item ↔ item ∈ q.heap.toList ∧
    ∀ other ∈ q.heap.toList, other ≠ item → item.cmp other = .gt ∧ item.key < other.key
  dequeued : q.dequeue.1 = q.peek
  cancelled : ∀ packetId, (q.cancel packetId).1 = true ↔
    ∃ queued ∈ q.heap.toList, queued.packet.packetId = packetId
  removed : ∀ packetId item, item ∈ (q.cancel packetId).2.heap.toList ↔
    item ∈ q.heap.toList ∧ item.packet.packetId ≠ packetId

/-- The first packet is the one that compares above every other. -/
theorem Represents.peek_eq_some_iff (h : q.Represents m) {item : ScheduledPacket} :
    q.peek = some item ↔ item ∈ q.heap.toList ∧
      ∀ other ∈ q.heap.toList, other ≠ item → item.cmp other = .gt ∧ item.key < other.key := by
  constructor
  · intro hpeek
    refine ⟨PriorityQueue.mem_of_peek hpeek, ?_⟩
    intro other hother hne
    have hlt := h.ids.key_lt_of_peek hpeek hother hne
    exact ⟨ScheduledPacket.cmp_eq_gt_iff.mpr hlt, hlt⟩
  · rintro ⟨hitem, hbelow⟩
    rw [h.peek_eq, BoundedMap.first?_eq_some_iff]
    refine ⟨⟨item.packet.packetId, (h.entries _ item).mpr ⟨hitem, rfl⟩⟩, ?_⟩
    intro id other hlookup hne
    exact (hbelow other ((h.entries id other).mp hlookup).1 hne).2

theorem Represents.contract (h : q.Represents m) : q.Contract capacity where
  ids := h.ids
  size_le := h.size_le
  duplicate := by
    intro item
    rw [← h.ids.mirrors]
    unfold PlaybackQueue.enqueue
    split_ifs with hqueued hfull <;> simp [hqueued]
  full := by
    intro item
    have hle := h.size_le
    rw [← h.ids.mirrors, h.ids.size_eq]
    rw [h.ids.size_eq] at hle
    unfold PlaybackQueue.enqueue
    rw [h.capacity_eq]
    split_ifs with hqueued hfull
    · simp [hqueued]
    · simp [hqueued, le_antisymm hle hfull]
    · simp [(not_le.mp hfull).ne]
  refused := by
    intro item e herror
    exact enqueue_err (Prod.ext herror rfl)
  first := fun _ => h.peek_eq_some_iff
  dequeued := by
    unfold PlaybackQueue.dequeue peek
    cases q.heap.peek <;> rfl
  cancelled := by
    intro packetId
    rw [← h.ids.mirrors]
    unfold PlaybackQueue.cancel
    split_ifs with hqueued <;> simp [hqueued]
  removed := fun packetId item => h.ids.mem_cancel packetId item

/-! ## Every sequence of calls -/

/-- For every capacity and every sequence of calls on a new queue: the answers are those of a
map of at most {lit}`max capacity 1` packets, and the queue holds exactly the packets of that
map, so that it keeps its contract. -/
theorem refines_boundedMap (capacity : Nat) (calls : List QueueCall) :
    let queue := exec step (new capacity) calls
    let map := exec PacketMap.step (BoundedMap.empty : PacketMap (max capacity 1)) calls
    queue.1 = map.1 ∧ queue.2.Represents map.2 ∧ queue.2.Contract (max capacity 1) := by
  rcases exec_refines Represents (fun _ _ call h => step_refines h call)
    (new_represents capacity) calls with ⟨hanswers, hrepresents⟩
  exact ⟨hanswers, hrepresents, hrepresents.contract⟩

end PlaybackQueue
end Scheduler
end EchoSync
