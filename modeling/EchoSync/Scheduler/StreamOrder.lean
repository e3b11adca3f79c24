import EchoSync.Scheduler.Session

/-!
# Playback Scheduler - The order of a stream

The queue releases packets in deadline order.  A stream offered in sequence order
is released in sequence order as long as no deadline falls below one that is still
queued; the offset applied to the timestamps may only move within that bound.

Main results:

- Theorem {lit}`released_in_stream_order`: a stream whose adjusted timestamps do
  not fall below those still queued is released in sequence order.
- Theorem {lit}`moving_offset_reorders`: a measurement that lowers the offset
  releases a later packet before an earlier one.
-/

namespace EchoSync
namespace Scheduler

open Streaming Sync TransitionSystem

/-- The offers under which the queued packets were accepted. -/
def SchedulerRun.queuedOffers (r : SchedulerRun) : List Offer :=
  r.scheduler.queue.heap.toList.filterMap fun item => r.acceptedAs item.packet.packetId

/-- Whether a packet offered now keeps the order of the stream: its adjusted
timestamp is not below the one of a packet still queued, and its expected moment
fits in 64 bits of milliseconds. -/
def KeepsOrder (r : SchedulerRun) (packet : AudioPacket) : Prop :=
  let adjusted := adjustedTimestampMs packet r.scheduler.synchronizer.currentOffset
  (∀ o ∈ r.queuedOffers, o.adjusted ≤ adjusted) ∧
    ∀ anchor ∈ r.scheduler.timeline.anchor, PlaybackTimeline.FitsFrom anchor adjusted

instance (r : SchedulerRun) (packet : AudioPacket) : Decidable (KeepsOrder r packet) :=
  inferInstanceAs (Decidable (_ ∧ _))

/-- The calls that keep the order of the stream. -/
def orderGuard (r : SchedulerRun) (call : SchedulerCall) : Prop :=
  ∀ packet ∈ call.packets, KeepsOrder r packet

instance (r : SchedulerRun) (call : SchedulerCall) : Decidable (orderGuard r call) :=
  inferInstanceAs (Decidable (∀ packet ∈ call.packets, KeepsOrder r packet))

/-! ## Deadlines and the queue -/

/-- Under one anchor, the order of the adjusted timestamps is the order of the
deadlines. -/
theorem AnchoredLog.deadline_le {t : PlaybackTimeline} {latency : Duration}
    {first early late : Offer} {offers : List Offer}
    (h : AnchoredLog t latency first offers) (hearly : early ∈ offers) (hlate : late ∈ offers)
    (hle : early.adjusted ≤ late.adjusted)
    (hfits : ∀ anchor ∈ t.anchor, PlaybackTimeline.FitsFrom anchor late.adjusted) :
    early.deadline ≤ late.deadline := by
  rcases h.anchored with ⟨current, hcurrent, hanchor, hlog⟩
  exact PlaybackTimeline.deadlineFrom_mono
    (PlaybackTimeline.aligned_of_currentTime hcurrent first.adjusted) hle (hfits _ hanchor)
    (hlog early hearly).2.2 (hlog late hlate).2.2

/-- The queue and the releases follow the order of the stream offered so far. -/
structure StreamOrdered (r : SchedulerRun) : Prop where
  accepted_mem : ∀ id o, r.acceptedAs id = some o → o ∈ r.offers
  queued_mem : ∀ item ∈ r.scheduler.queue.heap.toList, item.packet ∈ r.offered
  released_mem : ∀ release ∈ r.released, release.packet ∈ r.offered
  queued : r.scheduler.queue.heap.toList.Pairwise fun a b =>
    a.packet.sequenceNumber < b.packet.sequenceNumber
  released : r.released.Pairwise fun a b => a.packet.sequenceNumber < b.packet.sequenceNumber
  released_lt : ∀ release ∈ r.released, ∀ item ∈ r.scheduler.queue.heap.toList,
    release.packet.sequenceNumber < item.packet.sequenceNumber

/-- Whatever leaves the releases alone and only removes packets from the queue
keeps the order. -/
theorem StreamOrdered.of_sublist {r r' : SchedulerRun} (h : StreamOrdered r)
    (haccepted : ∀ id o, r'.acceptedAs id = some o → o ∈ r'.offers)
    (hoffered : r.offered ⊆ r'.offered)
    (hqueue : r'.scheduler.queue.heap.toList.Sublist r.scheduler.queue.heap.toList)
    (hreleased : r'.released = r.released) : StreamOrdered r' where
  accepted_mem := haccepted
  queued_mem := fun item hitem => hoffered (h.queued_mem item (hqueue.subset hitem))
  released_mem := by
    rw [hreleased]
    exact fun release hrelease => hoffered (h.released_mem release hrelease)
  queued := h.queued.sublist hqueue
  released := hreleased ▸ h.released
  released_lt := by
    rw [hreleased]
    exact fun release hrelease item hitem =>
      h.released_lt release hrelease item (hqueue.subset hitem)

/-- A packet behind every packet offered so far, with a deadline that is not below
the queued ones, goes to the end of the queue. -/
theorem StreamOrdered.enqueue {r r' : SchedulerRun} (h : StreamOrdered r) (item : ScheduledPacket)
    (hnewest : ∀ p ∈ r.offered, p.sequenceNumber < item.packet.sequenceNumber)
    (hlast : ∀ other ∈ r.scheduler.queue.heap.toList, other.deadline ≤ item.deadline)
    (haccepted : ∀ id o, r'.acceptedAs id = some o → o ∈ r'.offers)
    (hoffered : r'.offered = r.offered ++ [item.packet])
    (hqueue : r'.scheduler.queue.heap = r.scheduler.queue.heap.insert item)
    (hreleased : r'.released = r.released) : StreamOrdered r' := by
  have hseq : ∀ other ∈ r.scheduler.queue.heap.toList,
      other.packet.sequenceNumber < item.packet.sequenceNumber :=
    fun other hother => hnewest _ (h.queued_mem other hother)
  have hkey : ∀ other ∈ r.scheduler.queue.heap.toList, other.key < item.key := by
    intro other hother
    rcases lt_or_eq_of_le (hlast other hother) with hlt | heq
    · exact ScheduledPacket.key_lt_iff.mpr (Or.inl hlt)
    · exact ScheduledPacket.key_lt_iff.mpr (Or.inr ⟨heq, Or.inl (hseq other hother)⟩)
  have hlist : r'.scheduler.queue.heap.toList = r.scheduler.queue.heap.toList ++ [item] := by
    rw [hqueue, PriorityQueue.toList_insert_of_forall_lt hkey]
  constructor
  · exact haccepted
  · rw [hlist, hoffered]
    intro other hother
    rcases List.mem_append.mp hother with hold | hnew
    · exact List.mem_append_left _ (h.queued_mem other hold)
    · rw [List.mem_singleton.mp hnew]
      exact List.mem_append_right _ List.mem_cons_self
  · rw [hreleased, hoffered]
    exact fun release hrelease => List.mem_append_left _ (h.released_mem release hrelease)
  · rw [hlist]
    refine List.pairwise_append.mpr ⟨h.queued, List.pairwise_singleton _ _, ?_⟩
    intro other hother new hnew
    rw [List.mem_singleton.mp hnew]
    exact hseq other hother
  · rw [hreleased]
    exact h.released
  · rw [hreleased, hlist]
    intro release hrelease other hother
    rcases List.mem_append.mp hother with hold | hnew
    · exact h.released_lt release hrelease other hold
    · rw [List.mem_singleton.mp hnew]
      exact hnewest _ (h.released_mem release hrelease)

/-- The head of the queue is released before the rest of it, or lost to a panic. -/
theorem StreamOrdered.dequeue {r r' : SchedulerRun} (h : StreamOrdered r) {item : ScheduledPacket}
    {release : Release} (hpacket : release.packet = item.packet)
    (haccepted : ∀ id o, r'.acceptedAs id = some o → o ∈ r'.offers)
    (hoffered : r'.offered = r.offered)
    (hqueue : r.scheduler.queue.dequeue = (some item, r'.scheduler.queue))
    (hreleased : r'.released = r.released ∨ r'.released = r.released ++ [release]) :
    StreamOrdered r' := by
  rcases PlaybackQueue.dequeue_some hqueue with ⟨hpeek, hrest⟩
  have hlist : r.scheduler.queue.heap.toList = item :: r'.scheduler.queue.heap.toList := by
    rw [hrest]
    exact PriorityQueue.toList_of_peek hpeek
  have hqueued := h.queued
  rw [hlist, List.pairwise_cons] at hqueued
  have hsublist : r'.scheduler.queue.heap.toList.Sublist r.scheduler.queue.heap.toList := by
    rw [hlist]
    exact List.sublist_cons_self _ _
  have hitem : item ∈ r.scheduler.queue.heap.toList := PriorityQueue.mem_of_peek hpeek
  rcases hreleased with hlost | hout
  · exact h.of_sublist haccepted (hoffered ▸ List.Subset.refl _) hsublist hlost
  · constructor
    · exact haccepted
    · rw [hoffered]
      exact fun other hother => h.queued_mem other (hsublist.subset hother)
    · rw [hout, hoffered]
      intro other hother
      rcases List.mem_append.mp hother with hold | hnew
      · exact h.released_mem other hold
      · rw [List.mem_singleton.mp hnew, hpacket]
        exact h.queued_mem item hitem
    · exact hqueued.2
    · rw [hout]
      refine List.pairwise_append.mpr ⟨h.released, List.pairwise_singleton _ _, ?_⟩
      intro other hother new hnew
      rw [List.mem_singleton.mp hnew, hpacket]
      exact h.released_lt other hother item hitem
    · rw [hout]
      intro other hother later hlater
      rcases List.mem_append.mp hother with hold | hnew
      · exact h.released_lt other hold later (hsublist.subset hlater)
      · rw [List.mem_singleton.mp hnew, hpacket]
        exact hqueued.1 later hlater

/-! ## Runs that keep the order -/

section Runs

variable {profile : BuildProfile} {config : SchedulerConfig} {epoch : Instant}
  {r r' : SchedulerRun} {call : SchedulerCall}

/-- A packet that keeps the order has no earlier deadline than the queued ones. -/
theorem queued_deadline_le {offer : Offer} (hinv : r.Invariant) (hr : StreamOrdered r)
    (hsession : SessionInvariant config epoch r) (hsession' : SessionInvariant config epoch r')
    (hhealthy : r.scheduler.timelinePoisoned = false ∧ r'.scheduler.timelinePoisoned = false)
    (hoffers : r'.offers = r.offers ++ [offer]) {latency : Duration} {reading : Instant}
    (hoffset : offer.offsetMs = r.scheduler.synchronizer.currentOffset)
    (htimeline : r.scheduler.timeline.calculateDeadline offer.adjusted latency reading =
      (some offer.deadline, r'.scheduler.timeline))
    (hkeeps : KeepsOrder r offer.packet) :
    ∀ item ∈ r.scheduler.queue.heap.toList, item.deadline ≤ offer.deadline := by
  intro item hitem
  rcases hinv.queued item hitem with ⟨o, ho, -, hdeadline⟩
  have hmem : o ∈ r.offers := hr.accepted_mem _ o ho
  have hqueued : o ∈ r.queuedOffers := List.mem_filterMap.mpr ⟨item, hitem, ho⟩
  have hadjusted : offer.adjusted =
      adjustedTimestampMs offer.packet r.scheduler.synchronizer.currentOffset := by
    rw [Offer.adjusted, hoffset]
  rcases hsession.anchored hhealthy.1 hmem with ⟨first, hlog⟩
  rcases hlog.anchored with ⟨current, -, hanchor, -⟩
  have hsame := PlaybackTimeline.calculateDeadline_anchored hanchor htimeline
  have hlater : o ∈ r'.offers := hoffers ▸ List.mem_append_left _ hmem
  have hnew : offer ∈ r'.offers := hoffers ▸ List.mem_append_right _ List.mem_cons_self
  rcases hsession'.anchored hhealthy.2 hlater with ⟨first', hlog'⟩
  rw [← hdeadline]
  refine hlog'.deadline_le hlater hnew (hadjusted ▸ hkeeps.1 o hqueued) ?_
  rw [hsame, hadjusted]
  exact hkeeps.2

/-- Every call that keeps the order keeps the invariant. -/
theorem effect_streamOrdered (hinv : r.Invariant) (hr : StreamOrdered r)
    (hsession : SessionInvariant config epoch r) (hsession' : SessionInvariant config epoch r')
    (heffect : SchedulerRun.Effect r r' call) (hcall : call.isStart = false)
    (hguard : orderGuard r call) (hoffered : r'.offered = r.offered ++ call.packets)
    (hpairwise : r'.offered.Pairwise fun a b => a.sequenceNumber < b.sequenceNumber) :
    StreamOrdered r' := by
  have hsubset : r.offered ⊆ r'.offered := hoffered ▸ List.subset_append_left _ _
  cases heffect with
  | quiet hrecord hqueue hsame =>
      refine hr.of_sublist ?_ hsubset (hqueue ▸ List.Sublist.refl _) hrecord.released
      rw [hrecord.acceptedAs, hrecord.offers]
      exact hr.accepted_mem
  | started now heq =>
      rw [heq] at hcall
      contradiction
  | halfStarted now heq =>
      rw [heq] at hcall
      contradiction
  | offered packet first second offer heq hoffer hnumber hoffers hreleased hhealthy htimeline
      hqueue =>
      have hpacket : offer.packet = packet := by rw [hoffer]
      have hpackets : call.packets = [offer.packet] := by rw [heq, hpacket]; rfl
      rw [hpackets] at hoffered
      rcases hqueue with ⟨-, ⟨now, henqueue⟩, haccepted⟩ | ⟨-, hqueue, haccepted⟩
      · rcases PlaybackQueue.enqueue_ok henqueue with ⟨-, hqueue⟩
        have hkeeps : KeepsOrder r offer.packet :=
          hguard offer.packet (hpackets ▸ List.mem_cons_self)
        have hlast := queued_deadline_le hinv hr hsession hsession' hhealthy hoffers
          (by rw [hoffer]) htimeline hkeeps
        rw [hoffered, List.pairwise_append] at hpairwise
        refine hr.enqueue { packet, deadline := offer.deadline, scheduledAt := now } ?_ hlast ?_
          (hpacket ▸ hoffered) (by rw [hqueue]) hreleased
        · intro p hp
          rw [← hpacket]
          exact hpairwise.2.2 p hp offer.packet List.mem_cons_self
        · intro id o ho
          rw [haccepted] at ho
          rw [hoffers]
          by_cases hid : id = packet.packetId
          · subst hid
            rw [Function.update_self] at ho
            exact List.mem_append_right _ (List.mem_singleton.mpr (Option.some.inj ho).symm)
          · rw [Function.update_of_ne hid] at ho
            exact List.mem_append_left _ (hr.accepted_mem id o ho)
      · refine hr.of_sublist ?_ hsubset (hqueue ▸ List.Sublist.refl _) hreleased
        rw [haccepted, hoffers]
        exact fun id o ho => List.mem_append_left _ (hr.accepted_mem id o ho)
  | taken now item heq hnumber hoffers haccepted hreleased hqueue hhealthy hsame hdue =>
      have hnone : call.packets = [] := by rw [heq]; rfl
      refine hr.dequeue rfl ?_ (by rw [hoffered, hnone, List.append_nil]) hqueue hreleased
      rw [haccepted, hoffers]
      exact hr.accepted_mem
  | removed hrecord hqueue hsame =>
      refine hr.of_sublist ?_ hsubset ?_ hrecord.released
      · rw [hrecord.acceptedAs, hrecord.offers]
        exact hr.accepted_mem
      · rcases hqueue with ⟨packetId, hcancel⟩ | hclear
        · exact hcancel ▸ PlaybackQueue.cancel_sublist _ packetId
        · exact hclear ▸ List.nil_sublist _

/-- Everything that one started scheduler keeps while the calls keep the order. -/
structure OrderInvariant (config : SchedulerConfig) (epoch : Instant) (r : SchedulerRun) :
    Prop where
  queue : r.Invariant
  session : SessionInvariant config epoch r
  ordered : (r.offered.Pairwise fun a b => a.sequenceNumber < b.sequenceNumber) →
    StreamOrdered r

theorem step_orderInvariant (hcall : call.isStart = false) (h : OrderInvariant config epoch r)
    (hstep : restrict orderGuard (SchedulerRun.step profile) r call = some r') :
    OrderInvariant config epoch r' := by
  rcases restrict_eq_some.mp hstep with ⟨hguard, hmove⟩
  have hinv := SchedulerRun.step_invariant h.queue hmove
  have hsession := step_session hcall h.session hmove
  rcases SchedulerRun.step_eq_some.mp hmove with ⟨hclock, rfl⟩
  have hoffered := SchedulerRun.perform_offered profile (r.advance call) call
  refine ⟨hinv, hsession, ?_⟩
  intro hpairwise
  have hearlier : r.offered.Pairwise fun a b => a.sequenceNumber < b.sequenceNumber := by
    refine hpairwise.sublist ?_
    rw [hoffered]
    exact List.sublist_append_left _ _
  have hr := h.ordered hearlier
  have hadvanced : StreamOrdered (r.advance call) :=
    ⟨hr.accepted_mem, hr.queued_mem, hr.released_mem, hr.queued, hr.released, hr.released_lt⟩
  have hlater : SessionInvariant config epoch (r.advance call) :=
    ⟨h.session.config_eq, h.session.epoch_le.trans (SchedulerRun.clock_le_advance hclock),
      h.session.log⟩
  exact effect_streamOrdered
    (SchedulerRun.advance_invariant h.queue (SchedulerRun.clock_le_advance hclock)) hadvanced
    hlater hsession (SchedulerRun.perform_effect profile _ call) hcall hguard hoffered hpairwise

/-- One scheduler, started once: packets offered in sequence order, each of which
keeps the order against those still queued, are released in sequence order. -/
theorem released_in_stream_order {synchronizer : Synchronizer} {created : Instant}
    {s : PlaybackScheduler} {calls : List SchedulerCall}
    (hnew : PlaybackScheduler.new config synchronizer created = .ok s)
    (hcalls : ∀ call ∈ calls, call.isStart = false)
    (hrun : run (restrict orderGuard (SchedulerRun.step profile))
      (SchedulerRun.initial s created) (.start epoch :: calls) = some r)
    (hoffered : r.offered.Pairwise fun a b => a.sequenceNumber < b.sequenceNumber) :
    r.released.Pairwise fun a b => a.packet.sequenceNumber < b.packet.sequenceNumber := by
  rcases PlaybackScheduler.new_eq_ok_iff.mp hnew with ⟨hvalid, rfl⟩
  rcases run_cons_eq_some.mp hrun with ⟨r₁, hstart, hrest⟩
  have hmove := (restrict_eq_some.mp hstart).2
  have hsession := started_session hvalid hmove
  have hinv := SchedulerRun.step_invariant
    (SchedulerRun.initial_invariant config synchronizer created) hmove
  have hempty : StreamOrdered r₁ := by
    rcases SchedulerRun.step_eq_some.mp hmove with ⟨-, rfl⟩
    have hqueue := (PlaybackScheduler.start_cases
      (PlaybackScheduler.ofConfig config synchronizer created) epoch).1
    have hempty : ((PlaybackScheduler.ofConfig config synchronizer created).start
        epoch).2.queue.heap.toList = [] := by
      rw [hqueue]
      rfl
    constructor <;> simp [SchedulerRun.perform, SchedulerRun.advance, SchedulerRun.initial, hempty]
  have hfinal : OrderInvariant config epoch r :=
    run_invariant_of_labels (fun call => call.isStart = false) (OrderInvariant config epoch)
      (fun _ _ _ hcall h hstep => step_orderInvariant hcall h hstep) hcalls
      ⟨hinv, hsession, fun _ => hempty⟩ hrest
  exact (hfinal.ordered hoffered).released

end Runs

/-- Two packets of a stream, a measurement after which the applied offset falls
from 100 to 80 milliseconds, a third packet, and a few release calls. -/
def loweredOffsetCalls (thirdTimestampMs : U64) : List SchedulerCall :=
  let late := Instant.ofMillis 300000
  [.syncStart (Instant.ofMillis 0),
    .synchronize (Duration.fromMillis 100) (Duration.fromMillis 0) (Instant.ofMillis 0),
    .schedulePacket (makePacket 1 1 1000) late late,
    .schedulePacket (makePacket 2 2 1100) late late,
    .synchronize (Duration.fromMillis 10) (Duration.fromMillis 10) late,
    .schedulePacket (makePacket 3 3 thirdTimestampMs) late late,
    .nextPacket (Instant.ofMillis 300150), .nextPacket (Instant.ofMillis 300240),
    .nextPacket (Instant.ofMillis 300300), .nextPacket (Instant.ofMillis 300300)]

/-- Twenty milliseconds after the second packet, the third one keeps the order. -/
theorem released_in_stream_order_lowered :
    ∃ r, run (restrict orderGuard (SchedulerRun.step ⟨true⟩)) (SchedulerRun.atZero .default)
        (.start (Instant.ofMillis 0) :: loweredOffsetCalls 1120) = some r ∧
      r.released.length = 3 ∧
      r.released.Pairwise fun a b => a.packet.sequenceNumber < b.packet.sequenceNumber := by
  have hrun : (run (restrict orderGuard (SchedulerRun.step ⟨true⟩)) (SchedulerRun.atZero .default)
      (.start (Instant.ofMillis 0) :: loweredOffsetCalls 1120)).any
      (fun r => decide (r.released.length = 3 ∧
        r.offered.Pairwise fun a b => a.sequenceNumber < b.sequenceNumber)) = true := by
    decide +kernel
  rcases exists_of_any hrun with ⟨r, hr, hlength, hoffered⟩
  refine ⟨r, hr, hlength, ?_⟩
  exact released_in_stream_order (SchedulerRun.atZero_new SchedulerConfig.default_validates)
    (by decide) hr hoffered

/-- Ten milliseconds after the second packet, the third one overtakes it: a stream in
order of its ids, sequence numbers and timestamps, accepted as a whole, is released
in the order one, three, two. -/
theorem moving_offset_reorders :
    ∃ r, run (SchedulerRun.step ⟨true⟩) (SchedulerRun.atZero .default)
        (.start (Instant.ofMillis 0) :: loweredOffsetCalls 1110) = some r ∧
      (r.offered.Pairwise fun a b => a.packetId < b.packetId ∧
        a.sequenceNumber < b.sequenceNumber ∧ a.timestampMs ≤ b.timestampMs) ∧
      (∀ o ∈ r.offers, o.accepted = true) ∧
      (r.released.map fun release => release.packet.sequenceNumber) = [1, 3, 2] := by
  refine exists_of_any ?_
  decide +kernel

end Scheduler
end EchoSync
