import EchoSync.Foundations.TransitionSystem
import EchoSync.Scheduler.PlaybackScheduler

/-!
# Playback Scheduler - Runs of calls

A run is a list of calls on one scheduler and its synchronizer, with the clock
readings they make; the monotonic clock never goes back.  Other tasks share the
synchronizer, so it may also change in any way between two calls; this covers the
offsets that its floating-point arithmetic leaves it with.  The state keeps, next
to the scheduler, a record of what the calls were given and what they answered.

Main results:

- Theorem {lit}`perform_effect`: everything that one call can do.
- Theorem {lit}`run_invariant`: every queued packet is known to the record with
  the deadline it was accepted with, and no release is early.
-/

namespace EchoSync
namespace Scheduler

open Streaming Sync TransitionSystem
open PlaybackScheduler (SameTimeline)

/-- One call on the scheduler or on its synchronizer, with its clock readings, or a
change of the synchronizer by the other tasks that share it. -/
inductive SchedulerCall where
  | start (now : Instant)
  | stop
  | schedulePacket (packet : AudioPacket) (first second : Instant)
  | nextPacket (now : Instant)
  | cancelPacket (packetId : U64)
  | clear
  | syncStart (now : Instant)
  | syncStop
  | synchronize (hostTimestamp localTimestamp : Duration) (now : Instant)
  | update
  | synchronizer (s : Synchronizer)

/-- The clock readings of a call, in the order in which they are made. -/
def SchedulerCall.readings : SchedulerCall → List Instant
  | .start now => [now]
  | .schedulePacket _ first second => [first, second]
  | .nextPacket now => [now]
  | .syncStart now => [now]
  | .synchronize _ _ now => [now]
  | _ => []

/-- The packets that a call offers to the scheduler. -/
def SchedulerCall.packets : SchedulerCall → List AudioPacket
  | .schedulePacket packet _ _ => [packet]
  | _ => []

/-- A scheduling call that assigned a deadline: the packet, the offset applied
at that time, the reading and the epoch the deadline was computed from, the
number of sessions started before, and whether the packet was accepted. -/
structure Offer where
  packet : AudioPacket
  offsetMs : ℚ
  reading : Instant
  epoch : Instant
  session : Nat
  deadline : Duration
  accepted : Bool
deriving DecidableEq

namespace Offer

/-- The shifted timestamp, before it is clamped and cast. -/
def shifted (o : Offer) : ℚ :=
  shiftedTimestampMs o.packet o.offsetMs

/-- The timestamp from which the deadline was computed. -/
def adjusted (o : Offer) : U64 :=
  adjustedTimestampMs o.packet o.offsetMs

/-- The absolute instant the deadline denotes, in nanoseconds. -/
def dueNanos (o : Offer) : Nat :=
  o.epoch.nanos + o.deadline.nanos

end Offer

/-- A released packet, the offer under which it was accepted, and the reading at
which it was released. -/
structure Release where
  packet : AudioPacket
  offer : Option Offer
  reading : Instant

/-- A scheduler and the record of a run: the latest clock reading, the number of
successful starts, the packets offered, the offers that got a deadline, the
latest accepted offer of each packet id, and the packets released. -/
structure SchedulerRun where
  scheduler : PlaybackScheduler
  clock : Instant
  session : Nat
  offered : List AudioPacket
  offers : List Offer
  acceptedAs : U64 → Option Offer
  released : List Release

namespace SchedulerRun

/-- A run on which no call has been made. -/
def initial (scheduler : PlaybackScheduler) (clock : Instant) : SchedulerRun where
  scheduler := scheduler
  clock := clock
  session := 0
  offered := []
  offers := []
  acceptedAs := fun _ => none
  released := []

/-- The record of a scheduling call. -/
def recordOffer (r : SchedulerRun) (packet : AudioPacket) (first : Instant)
    (deadline : Option Duration) (accepted : Bool) : SchedulerRun :=
  match deadline with
  | none => { r with offered := r.offered ++ [packet] }
  | some deadline =>
      let offer : Offer :=
        { packet
          offsetMs := r.scheduler.synchronizer.currentOffset
          reading := first
          epoch := r.scheduler.timeline.startedAt
          session := r.session
          deadline
          accepted }
      { r with
        offered := r.offered ++ [packet]
        offers := r.offers ++ [offer]
        acceptedAs :=
          if accepted then Function.update r.acceptedAs packet.packetId (some offer)
          else r.acceptedAs }

/-- The record of a release call. -/
def recordRelease (r : SchedulerRun) (now : Instant)
    (outcome : Outcome SchedulerError (Option AudioPacket)) : SchedulerRun :=
  match outcome with
  | .ok (some packet) =>
      { r with
        released :=
          r.released ++ [{ packet, offer := r.acceptedAs packet.packetId, reading := now }] }
  | _ => r

/-- Replace the synchronizer. -/
def withSynchronizer (r : SchedulerRun) (synchronizer : Synchronizer) : SchedulerRun :=
  { r with scheduler := { r.scheduler with synchronizer := synchronizer } }

/-- Make one call and record it. -/
def perform (profile : BuildProfile) (r : SchedulerRun) (call : SchedulerCall) : SchedulerRun :=
  match call with
  | .start now =>
      let result := r.scheduler.start now
      { r with
        scheduler := result.2
        session := if result.1 = .ok () then r.session + 1 else r.session }
  | .stop => { r with scheduler := r.scheduler.stop.2 }
  | .schedulePacket packet first second =>
      let result := r.scheduler.schedulePacket profile packet first second
      { r.recordOffer packet first (r.scheduler.assignedDeadline packet first second)
          (decide (result.1 = .ok ())) with
        scheduler := result.2 }
  | .nextPacket now =>
      let result := r.scheduler.nextPacket profile now
      { r.recordRelease now result.1 with scheduler := result.2 }
  | .cancelPacket packetId => { r with scheduler := (r.scheduler.cancelPacket packetId).2 }
  | .clear => { r with scheduler := r.scheduler.clear }
  | .syncStart now => r.withSynchronizer (r.scheduler.synchronizer.start now).2
  | .syncStop => r.withSynchronizer r.scheduler.synchronizer.stop.2
  | .synchronize hostTimestamp localTimestamp now =>
      r.withSynchronizer
        (r.scheduler.synchronizer.synchronize hostTimestamp localTimestamp now).2
  | .update => r.withSynchronizer r.scheduler.synchronizer.update.2
  | .synchronizer s => r.withSynchronizer s

/-- Move the clock to the last reading of a call. -/
def advance (r : SchedulerRun) (call : SchedulerCall) : SchedulerRun :=
  { r with clock := call.readings.getLastD r.clock }

/-- One call whose clock readings do not go back. -/
def step (profile : BuildProfile) (r : SchedulerRun) (call : SchedulerCall) :
    Option SchedulerRun :=
  if (r.clock :: call.readings).Pairwise (· ≤ ·) then
    some ((r.advance call).perform profile call)
  else none

theorem step_eq_some {profile : BuildProfile} {r r' : SchedulerRun} {call : SchedulerCall} :
    step profile r call = some r' ↔
      (r.clock :: call.readings).Pairwise (· ≤ ·) ∧
        (r.advance call).perform profile call = r' := by
  unfold step
  split_ifs with hclock <;> simp [hclock]

theorem clock_le_advance {r : SchedulerRun} {call : SchedulerCall}
    (h : (r.clock :: call.readings).Pairwise (· ≤ ·)) : r.clock ≤ (r.advance call).clock := by
  have hmem : call.readings.getLastD r.clock ∈ r.clock :: call.readings := by
    rcases hreadings : call.readings with _ | ⟨first, rest⟩
    · simp
    · rw [List.getLastD_cons]
      exact List.mem_cons_of_mem _ List.getLastD_mem_cons
  rcases List.mem_cons.mp hmem with heq | hlater
  · exact le_of_eq heq.symm
  · exact (List.pairwise_cons.mp h).1 _ hlater

/-! ## The effect of one call -/

/-- Two states agree on the record, except for the packets offered. -/
structure SameRecord (r r' : SchedulerRun) : Prop where
  session : r'.session = r.session
  offers : r'.offers = r.offers
  acceptedAs : r'.acceptedAs = r.acceptedAs
  released : r'.released = r.released

/-- Everything that one call can do to the queue, the timeline and the record.
A timeline whose lock is poisoned is never used again, so what it holds then is
left open. -/
inductive Effect (r r' : SchedulerRun) (call : SchedulerCall) : Prop where
  /-- Nothing changes, except that the timeline's lock may be poisoned. -/
  | quiet (hrecord : SameRecord r r')
      (hqueue : r'.scheduler.queue = r.scheduler.queue)
      (htimeline : r'.scheduler.timelinePoisoned = true ∨
        SameTimeline r.scheduler r'.scheduler)
  /-- A start resets the timeline. -/
  | started (now : Instant) (hcall : call = .start now)
      (hsession : r'.session = r.session + 1)
      (hoffers : r'.offers = r.offers)
      (haccepted : r'.acceptedAs = r.acceptedAs)
      (hreleased : r'.released = r.released)
      (hqueue : r'.scheduler.queue = r.scheduler.queue)
      (htimeline : r'.scheduler.timeline =
        { r.scheduler.timeline with startedAt := now, anchor := none })
      (hpoisoned : r'.scheduler.timelinePoisoned = r.scheduler.timelinePoisoned)
  /-- A start fails halfway, since the anchor's lock is poisoned. -/
  | halfStarted (now : Instant) (hcall : call = .start now)
      (hpoisoned : r.scheduler.timeline.anchorPoisoned = true)
      (hrecord : SameRecord r r')
      (hqueue : r'.scheduler.queue = r.scheduler.queue)
      (hsame : r'.scheduler.timelinePoisoned = r.scheduler.timelinePoisoned)
      (hresolution : r'.scheduler.timeline.resolution = r.scheduler.timeline.resolution)
  /-- A deadline is assigned, and the packet is accepted or refused. -/
  | offered (packet : AudioPacket) (first second : Instant) (offer : Offer)
      (hcall : call = .schedulePacket packet first second)
      (hoffer : offer =
        { packet
          offsetMs := r.scheduler.synchronizer.currentOffset
          reading := first
          epoch := r.scheduler.timeline.startedAt
          session := r.session
          deadline := offer.deadline
          accepted := offer.accepted })
      (hsession : r'.session = r.session)
      (hoffers : r'.offers = r.offers ++ [offer])
      (hreleased : r'.released = r.released)
      (hhealthy : r.scheduler.timelinePoisoned = false ∧ r'.scheduler.timelinePoisoned = false)
      (htimeline : r.scheduler.timeline.calculateDeadline offer.adjusted
        r.scheduler.config.playbackLatency first =
          (some offer.deadline, r'.scheduler.timeline))
      (hqueue :
        (offer.accepted = true ∧ (∃ now, r.scheduler.queue.enqueue
            { packet, deadline := offer.deadline, scheduledAt := now } =
              (.ok (), r'.scheduler.queue)) ∧
          r'.acceptedAs = Function.update r.acceptedAs packet.packetId (some offer)) ∨
        (offer.accepted = false ∧ r'.scheduler.queue = r.scheduler.queue ∧
          r'.acceptedAs = r.acceptedAs))
  /-- A due packet leaves the queue, to the caller or into a panic. -/
  | taken (now : Instant) (item : ScheduledPacket) (hcall : call = .nextPacket now)
      (hsession : r'.session = r.session)
      (hoffers : r'.offers = r.offers)
      (haccepted : r'.acceptedAs = r.acceptedAs)
      (hreleased : r'.released = r.released ∨ r'.released = r.released ++
        [{ packet := item.packet, offer := r.acceptedAs item.packet.packetId, reading := now }])
      (hqueue : r.scheduler.queue.dequeue = (some item, r'.scheduler.queue))
      (hhealthy : r.scheduler.timelinePoisoned = false)
      (htimeline : SameTimeline r.scheduler r'.scheduler)
      (hdue : ∃ current, r.scheduler.timeline.currentTime now = some current ∧
        item.deadline ≤ current)
  /-- Packets are removed without a release. -/
  | removed (hrecord : SameRecord r r')
      (hqueue : (∃ packetId, r'.scheduler.queue = (r.scheduler.queue.cancel packetId).2) ∨
        r'.scheduler.queue = r.scheduler.queue.clear)
      (htimeline : SameTimeline r.scheduler r'.scheduler)

theorem start_effect (profile : BuildProfile) (r : SchedulerRun) (now : Instant) :
    Effect r (r.perform profile (.start now)) (.start now) := by
  unfold perform
  dsimp only
  rcases PlaybackScheduler.start_cases r.scheduler now with
    ⟨hqueue, -, ⟨hok, htimeline, hpoisoned⟩ | ⟨hfailed, htimeline⟩ |
      ⟨hfailed, hold, hsame, hresolution⟩⟩
  · exact .started now rfl (if_pos hok) rfl rfl rfl hqueue htimeline hpoisoned
  · exact .quiet ⟨if_neg hfailed, rfl, rfl, rfl⟩ hqueue htimeline
  · exact .halfStarted now rfl hold ⟨if_neg hfailed, rfl, rfl, rfl⟩ hqueue hsame hresolution

theorem schedulePacket_effect (profile : BuildProfile) (r : SchedulerRun) (packet : AudioPacket)
    (first second : Instant) :
    Effect r (r.perform profile (.schedulePacket packet first second))
      (.schedulePacket packet first second) := by
  unfold perform
  dsimp only
  rcases PlaybackScheduler.schedulePacket_cases profile r.scheduler packet first second with
    ⟨hnone, heffect⟩ | ⟨deadline, hsome, heffect⟩
  · rw [hnone]
    refine .quiet ⟨rfl, rfl, rfl, rfl⟩ heffect.queue ?_
    rcases heffect.timeline with hsame | hpoison
    · exact Or.inr ⟨congrArg _ hsame, congrArg _ hsame⟩
    · exact Or.inl hpoison
  · rw [hsome]
    refine .offered packet first second _ rfl rfl rfl rfl rfl heffect.healthy
      heffect.timeline ?_
    rcases heffect.queue with ⟨now, ⟨hok, henqueue⟩ | ⟨hrefused, hqueue⟩⟩
    · exact Or.inl ⟨decide_eq_true hok, ⟨now, henqueue⟩, by simp [recordOffer, hok]⟩
    · exact Or.inr ⟨decide_eq_false hrefused, hqueue, by simp [recordOffer, hrefused]⟩

theorem nextPacket_effect (profile : BuildProfile) (r : SchedulerRun) (now : Instant) :
    Effect r (r.perform profile (.nextPacket now)) (.nextPacket now) := by
  unfold perform
  dsimp only
  rcases PlaybackScheduler.nextPacket_cases profile r.scheduler now with
    ⟨-, hnot | ⟨item, htaken⟩⟩
  · have hrecord : r.recordRelease now (r.scheduler.nextPacket profile now).1 = r := by
      unfold recordRelease
      split
      · rename_i packet hpacket
        exact absurd hpacket (hnot.nothing packet)
      · rfl
    rw [hrecord]
    exact .quiet ⟨rfl, rfl, rfl, rfl⟩ hnot.queue hnot.timeline
  · rcases htaken.answer with hok | hpanic
    · rw [hok]
      exact .taken now item rfl rfl rfl rfl (Or.inr rfl) htaken.queue
        htaken.healthy htaken.timeline htaken.due
    · rw [hpanic]
      exact .taken now item rfl rfl rfl rfl (Or.inl rfl) htaken.queue
        htaken.healthy htaken.timeline htaken.due

theorem stop_effect (profile : BuildProfile) (r : SchedulerRun) :
    Effect r (r.perform profile .stop) .stop := by
  unfold perform PlaybackScheduler.stop
  dsimp only
  split_ifs
  · exact .quiet ⟨rfl, rfl, rfl, rfl⟩ rfl (Or.inr ⟨rfl, rfl⟩)
  · exact .quiet ⟨rfl, rfl, rfl, rfl⟩ rfl (Or.inr (SameTimeline.refl _))

/-- The effect of every call. -/
theorem perform_effect (profile : BuildProfile) (r : SchedulerRun) (call : SchedulerCall) :
    Effect r (r.perform profile call) call := by
  cases call with
  | start now => exact start_effect profile r now
  | stop => exact stop_effect profile r
  | schedulePacket packet first second => exact schedulePacket_effect profile r packet first second
  | nextPacket now => exact nextPacket_effect profile r now
  | cancelPacket packetId =>
      exact .removed ⟨rfl, rfl, rfl, rfl⟩ (Or.inl ⟨packetId, rfl⟩) ⟨rfl, rfl⟩
  | clear => exact .removed ⟨rfl, rfl, rfl, rfl⟩ (Or.inr rfl) ⟨rfl, rfl⟩
  | syncStart now => exact .quiet ⟨rfl, rfl, rfl, rfl⟩ rfl (Or.inr ⟨rfl, rfl⟩)
  | syncStop => exact .quiet ⟨rfl, rfl, rfl, rfl⟩ rfl (Or.inr ⟨rfl, rfl⟩)
  | synchronize hostTimestamp localTimestamp now =>
      exact .quiet ⟨rfl, rfl, rfl, rfl⟩ rfl (Or.inr ⟨rfl, rfl⟩)
  | update => exact .quiet ⟨rfl, rfl, rfl, rfl⟩ rfl (Or.inr ⟨rfl, rfl⟩)
  | synchronizer s => exact .quiet ⟨rfl, rfl, rfl, rfl⟩ rfl (Or.inr ⟨rfl, rfl⟩)

@[simp]
theorem perform_clock (profile : BuildProfile) (r : SchedulerRun) (call : SchedulerCall) :
    (r.perform profile call).clock = r.clock := by
  cases call with
  | schedulePacket packet first second =>
      unfold perform recordOffer
      dsimp only
      split <;> rfl
  | nextPacket now =>
      unfold perform recordRelease
      dsimp only
      split <;> rfl
  | _ => rfl

/-- The record of offered packets grows by what the call offers. -/
theorem perform_offered (profile : BuildProfile) (r : SchedulerRun) (call : SchedulerCall) :
    (r.perform profile call).offered = r.offered ++ call.packets := by
  cases call with
  | schedulePacket packet first second =>
      unfold perform recordOffer
      dsimp only
      split <;> rfl
  | nextPacket now =>
      unfold perform recordRelease
      dsimp only
      split <;> simp [SchedulerCall.packets]
  | _ => simp [perform, withSynchronizer, SchedulerCall.packets]

/-- No call changes the configuration. -/
@[simp]
theorem perform_config (profile : BuildProfile) (r : SchedulerRun) (call : SchedulerCall) :
    (r.perform profile call).scheduler.config = r.scheduler.config := by
  cases call with
  | start now => exact (PlaybackScheduler.start_cases r.scheduler now).2.1
  | stop =>
      unfold perform PlaybackScheduler.stop
      dsimp only
      split_ifs <;> rfl
  | schedulePacket packet first second =>
      rcases PlaybackScheduler.schedulePacket_cases profile r.scheduler packet first second with
        ⟨-, heffect⟩ | ⟨deadline, -, heffect⟩
      · exact heffect.session.config
      · exact heffect.session.config
  | nextPacket now => exact (PlaybackScheduler.nextPacket_cases profile r.scheduler now).1.config
  | _ => rfl

/-- While the timeline's lock is healthy, no call changes the resolution. -/
theorem effect_resolution {r r' : SchedulerRun} {call : SchedulerCall} {resolution : Duration}
    (heffect : Effect r r' call)
    (h : r.scheduler.timelinePoisoned = true ∨ r.scheduler.timeline.resolution = resolution) :
    r'.scheduler.timelinePoisoned = true ∨ r'.scheduler.timeline.resolution = resolution := by
  cases heffect with
  | quiet hrecord hqueue htimeline =>
      rcases htimeline with hpoison | hsame
      · exact Or.inl hpoison
      · rwa [hsame.timeline, hsame.poisoned]
  | started now hcall hsession hoffers haccepted hreleased hqueue htimeline hpoisoned =>
      rwa [hpoisoned, htimeline]
  | halfStarted now hcall hpoisoned hrecord hqueue hsame hresolution => rwa [hsame, hresolution]
  | offered packet first second offer hcall hoffer hsession hoffers hreleased hhealthy htimeline
      hqueue =>
      rcases PlaybackTimeline.calculateDeadline_spec htimeline with ⟨current, -, htimeline', -⟩
      rw [hhealthy.1] at h
      rw [hhealthy.2, htimeline']
      exact h
  | taken now item hcall hsession hoffers haccepted hreleased hqueue hhealthy htimeline hdue =>
      rwa [htimeline.timeline, htimeline.poisoned]
  | removed hrecord hqueue htimeline => rwa [htimeline.timeline, htimeline.poisoned]

/-! ## The invariant of a run -/

/-- Every accepted offer was made in the current session or an earlier one, and
those of the current session were made under the current epoch. -/
structure SessionOrder (r : SchedulerRun) : Prop where
  anchorHealthy : r.scheduler.timeline.anchorPoisoned = false
  startedAt_le : r.scheduler.timeline.startedAt ≤ r.clock
  epoch_le : ∀ id o, r.acceptedAs id = some o → o.epoch ≤ r.scheduler.timeline.startedAt
  session_le : ∀ id o, r.acceptedAs id = some o → o.session ≤ r.session
  epoch_eq : ∀ id o, r.acceptedAs id = some o → o.session = r.session →
    o.epoch = r.scheduler.timeline.startedAt

/-- The queue and the record fit together, and every release was in time. -/
structure Invariant (r : SchedulerRun) : Prop where
  ids : r.scheduler.queue.IdInvariant
  queued : ∀ item ∈ r.scheduler.queue.heap.toList, ∃ o,
    r.acceptedAs item.packet.packetId = some o ∧ o.packet = item.packet ∧
      o.deadline = item.deadline
  sessions : r.scheduler.timelinePoisoned = false → SessionOrder r
  inTime : ∀ release ∈ r.released, ∃ o, release.offer = some o ∧ o.packet = release.packet ∧
    o.dueNanos ≤ release.reading.nanos

theorem initial_invariant (config : SchedulerConfig) (synchronizer : Synchronizer)
    (now : Instant) :
    (initial (PlaybackScheduler.ofConfig config synchronizer now) now).Invariant where
  ids := PlaybackQueue.new_idInvariant _
  queued := by simp [initial, PlaybackScheduler.ofConfig, PlaybackQueue.new]
  sessions := fun _ =>
    { anchorHealthy := rfl
      startedAt_le := le_rfl
      epoch_le := by simp [initial]
      session_le := by simp [initial]
      epoch_eq := by simp [initial] }
  inTime := by simp [initial]

theorem advance_invariant {r : SchedulerRun} (h : r.Invariant) {call : SchedulerCall}
    (hclock : r.clock ≤ (r.advance call).clock) : (r.advance call).Invariant where
  ids := h.ids
  queued := h.queued
  sessions := fun hhealthy =>
    let hs := h.sessions hhealthy
    { anchorHealthy := hs.anchorHealthy
      startedAt_le := hs.startedAt_le.trans hclock
      epoch_le := hs.epoch_le
      session_le := hs.session_le
      epoch_eq := hs.epoch_eq }
  inTime := h.inTime

/-- The order of the sessions survives whatever keeps the timeline's epoch and the
record. -/
theorem SessionOrder.of_same {r r' : SchedulerRun} (h : SessionOrder r)
    (hanchor : r'.scheduler.timeline.anchorPoisoned = r.scheduler.timeline.anchorPoisoned)
    (hstarted : r'.scheduler.timeline.startedAt = r.scheduler.timeline.startedAt)
    (hclock : r'.clock = r.clock) (hsession : r'.session = r.session)
    (haccepted : r'.acceptedAs = r.acceptedAs) : SessionOrder r' where
  anchorHealthy := hanchor ▸ h.anchorHealthy
  startedAt_le := by
    rw [hstarted, hclock]
    exact h.startedAt_le
  epoch_le := by
    rw [hstarted, haccepted]
    exact h.epoch_le
  session_le := by
    rw [hsession, haccepted]
    exact h.session_le
  epoch_eq := by
    rw [hstarted, hsession, haccepted]
    exact h.epoch_eq

/-- The order of the sessions survives an accepted offer that was made in the current session
under the current epoch. -/
theorem SessionOrder.of_accepted {r r' : SchedulerRun} (h : SessionOrder r) {packetId : U64}
    {offer : Offer}
    (hanchor : r'.scheduler.timeline.anchorPoisoned = r.scheduler.timeline.anchorPoisoned)
    (hstarted : r'.scheduler.timeline.startedAt = r.scheduler.timeline.startedAt)
    (hclock : r'.clock = r.clock) (hsession : r'.session = r.session)
    (haccepted : r'.acceptedAs = Function.update r.acceptedAs packetId (some offer))
    (hepoch : offer.epoch = r.scheduler.timeline.startedAt)
    (hnumber : offer.session = r.session) : SessionOrder r' := by
  have hlookup : ∀ id o, r'.acceptedAs id = some o → o = offer ∨ r.acceptedAs id = some o := by
    intro id o ho
    rw [haccepted, Function.update_apply] at ho
    split_ifs at ho
    · exact Or.inl (Option.some.inj ho).symm
    · exact Or.inr ho
  constructor
  · exact hanchor.trans h.anchorHealthy
  · rw [hstarted, hclock]
    exact h.startedAt_le
  · intro id o ho
    rw [hstarted]
    rcases hlookup id o ho with rfl | hold
    · exact le_of_eq hepoch
    · exact h.epoch_le id o hold
  · intro id o ho
    rw [hsession]
    rcases hlookup id o ho with rfl | hold
    · exact le_of_eq hnumber
    · exact h.session_le id o hold
  · intro id o ho hsame
    rw [hstarted]
    rcases hlookup id o ho with rfl | hold
    · exact hepoch
    · exact h.epoch_eq id o hold (hsame.trans hsession)

/-- The invariant survives whatever adds nothing to the queue and to the record. -/
theorem Invariant.of_subset {r r' : SchedulerRun} (h : r.Invariant)
    (hids : r'.scheduler.queue.IdInvariant)
    (hqueue : r'.scheduler.queue.heap.toList ⊆ r.scheduler.queue.heap.toList)
    (haccepted : r'.acceptedAs = r.acceptedAs) (hreleased : r'.released = r.released)
    (hsessions : r'.scheduler.timelinePoisoned = false → SessionOrder r') : r'.Invariant where
  ids := hids
  queued := by
    intro item hitem
    rw [haccepted]
    exact h.queued item (hqueue hitem)
  sessions := hsessions
  inTime := by
    rw [hreleased]
    exact h.inTime

/-- In particular it survives whatever leaves the queue alone. -/
theorem Invariant.of_same_queue {r r' : SchedulerRun} (h : r.Invariant)
    (hqueue : r'.scheduler.queue = r.scheduler.queue)
    (haccepted : r'.acceptedAs = r.acceptedAs) (hreleased : r'.released = r.released)
    (hsessions : r'.scheduler.timelinePoisoned = false → SessionOrder r') : r'.Invariant :=
  h.of_subset (hqueue ▸ h.ids) (by rw [hqueue]; exact List.Subset.refl _) haccepted hreleased
    hsessions

theorem offered_invariant {r r' : SchedulerRun} (h : r.Invariant) (hclock : r'.clock = r.clock)
    {packet : AudioPacket} {first : Instant} {offer : Offer}
    (hoffer : offer =
      { packet
        offsetMs := r.scheduler.synchronizer.currentOffset
        reading := first
        epoch := r.scheduler.timeline.startedAt
        session := r.session
        deadline := offer.deadline
        accepted := offer.accepted })
    (hsession : r'.session = r.session) (hreleased : r'.released = r.released)
    (hhealthy : r.scheduler.timelinePoisoned = false)
    (htimeline : r.scheduler.timeline.calculateDeadline offer.adjusted
      r.scheduler.config.playbackLatency first =
        (some offer.deadline, r'.scheduler.timeline))
    (hqueue :
      (offer.accepted = true ∧ (∃ now, r.scheduler.queue.enqueue
          { packet, deadline := offer.deadline, scheduledAt := now } =
            (.ok (), r'.scheduler.queue)) ∧
        r'.acceptedAs = Function.update r.acceptedAs packet.packetId (some offer)) ∨
      (offer.accepted = false ∧ r'.scheduler.queue = r.scheduler.queue ∧
        r'.acceptedAs = r.acceptedAs)) :
    r'.Invariant := by
  have hs := h.sessions hhealthy
  rcases PlaybackTimeline.calculateDeadline_spec htimeline with ⟨current, -, htimeline', -⟩
  have hanchor : r'.scheduler.timeline.anchorPoisoned = r.scheduler.timeline.anchorPoisoned := by
    rw [htimeline']
  have hstarted : r'.scheduler.timeline.startedAt = r.scheduler.timeline.startedAt := by
    rw [htimeline']
  rcases hqueue with ⟨-, ⟨now, henqueue⟩, haccepted⟩ | ⟨-, hqueue, haccepted⟩
  · rcases PlaybackQueue.enqueue_ok henqueue with ⟨hfresh, hqueue⟩
    have hpacket : offer.packet = packet := by rw [hoffer]
    have hepoch : offer.epoch = r.scheduler.timeline.startedAt := by rw [hoffer]
    have hnumber : offer.session = r.session := by rw [hoffer]
    constructor
    · exact PlaybackQueue.enqueue_idInvariant h.ids henqueue
    · intro item hitem
      rw [hqueue] at hitem
      rcases PriorityQueue.mem_insert.mp hitem with rfl | hold
      · exact ⟨offer, by rw [haccepted, Function.update_self], hpacket, rfl⟩
      · have hne : item.packet.packetId ≠ packet.packetId := by
          intro heq
          exact hfresh ((h.ids.mirrors _).mpr ⟨item, hold, heq⟩)
        rcases h.queued item hold with ⟨o, ho, hrest⟩
        exact ⟨o, by rw [haccepted, Function.update_of_ne hne]; exact ho, hrest⟩
    · exact fun _ => hs.of_accepted hanchor hstarted hclock hsession haccepted hepoch hnumber
    · rw [hreleased]
      exact h.inTime
  · exact h.of_same_queue hqueue haccepted hreleased fun _ =>
      hs.of_same hanchor hstarted hclock hsession haccepted

/-- A quantized time that has reached a deadline lies at or after the instant the
deadline denotes. -/
theorem dueNanos_le {t : PlaybackTimeline} {now : Instant} {current deadline : Duration}
    (hstarted : t.startedAt ≤ now) (hcurrent : t.currentTime now = some current)
    (hdue : deadline ≤ current) : t.startedAt.nanos + deadline.nanos ≤ now.nanos := by
  have hquantized : current.nanos ≤ now.nanos - t.startedAt.nanos :=
    PlaybackTimeline.quantize_le hcurrent
  have hdeadline : deadline.nanos ≤ current.nanos := hdue
  have hle : t.startedAt.nanos ≤ now.nanos := hstarted
  omega

theorem taken_invariant {r r' : SchedulerRun} (h : r.Invariant) (hclock : r'.clock = r.clock)
    {now : Instant} {item : ScheduledPacket} (hnow : now = r.clock)
    (hsession : r'.session = r.session) (haccepted : r'.acceptedAs = r.acceptedAs)
    (hreleased : r'.released = r.released ∨ r'.released = r.released ++
      [{ packet := item.packet, offer := r.acceptedAs item.packet.packetId, reading := now }])
    (hqueue : r.scheduler.queue.dequeue = (some item, r'.scheduler.queue))
    (hhealthy : r.scheduler.timelinePoisoned = false)
    (htimeline : SameTimeline r.scheduler r'.scheduler)
    (hdue : ∃ current, r.scheduler.timeline.currentTime now = some current ∧
      item.deadline ≤ current) :
    r'.Invariant := by
  have hs := h.sessions hhealthy
  rcases PlaybackQueue.dequeue_some hqueue with ⟨hpeek, hqueue'⟩
  constructor
  · exact PlaybackQueue.dequeue_idInvariant h.ids hqueue
  · intro other hother
    rw [hqueue'] at hother
    rw [haccepted]
    exact h.queued other (PriorityQueue.mem_of_mem_dropFirst hother)
  · intro _
    exact hs.of_same (congrArg _ htimeline.timeline) (congrArg _ htimeline.timeline) hclock
      hsession haccepted
  · intro release hrelease
    rcases hreleased with hsame | hnew
    · exact h.inTime release (hsame ▸ hrelease)
    · rw [hnew] at hrelease
      rcases List.mem_append.mp hrelease with hold | hlast
      · exact h.inTime release hold
      · have heq := List.mem_singleton.mp hlast
        subst heq
        rcases h.queued item (PriorityQueue.mem_of_peek hpeek) with ⟨o, ho, hpacket, hdeadline⟩
        rcases hdue with ⟨current, hcurrent, hle⟩
        have hstarted : r.scheduler.timeline.startedAt ≤ now := hnow ▸ hs.startedAt_le
        have hdueNanos := dueNanos_le hstarted hcurrent hle
        have hepoch : o.epoch.nanos ≤ r.scheduler.timeline.startedAt.nanos :=
          hs.epoch_le _ o ho
        refine ⟨o, ho, hpacket, ?_⟩
        unfold Offer.dueNanos
        rw [hdeadline]
        exact (Nat.add_le_add_right hepoch _).trans hdueNanos

/-- Every effect keeps the invariant; the last reading of the call is the clock. -/
theorem effect_invariant {r r' : SchedulerRun} {call : SchedulerCall} (h : r.Invariant)
    (heffect : Effect r r' call) (hclock : r'.clock = r.clock)
    (hlast : ∀ now, call.readings.getLast? = some now → now = r.clock) : r'.Invariant := by
  cases heffect with
  | quiet hrecord hqueue htimeline =>
      refine h.of_same_queue hqueue hrecord.acceptedAs hrecord.released ?_
      intro hhealthy
      rcases htimeline with hpoison | hsame
      · rw [hpoison] at hhealthy
        contradiction
      · have hs := h.sessions (hsame.poisoned ▸ hhealthy)
        exact hs.of_same (congrArg _ hsame.timeline) (congrArg _ hsame.timeline) hclock
          hrecord.session hrecord.acceptedAs
  | started now hcall hsession hoffers haccepted hreleased hqueue htimeline hpoisoned =>
      have hnow : now = r.clock := hlast now (by rw [hcall]; rfl)
      refine h.of_same_queue hqueue haccepted hreleased ?_
      intro hhealthy
      have hs := h.sessions (hpoisoned ▸ hhealthy)
      have hstarted : r'.scheduler.timeline.startedAt = r.clock := by rw [htimeline, hnow]
      constructor
      · rw [htimeline]
        exact hs.anchorHealthy
      · exact le_of_eq (hstarted.trans hclock.symm)
      · intro id o ho
        rw [hstarted]
        exact (hs.epoch_le id o (haccepted ▸ ho)).trans hs.startedAt_le
      · intro id o ho
        rw [hsession]
        exact (hs.session_le id o (haccepted ▸ ho)).trans (Nat.le_succ _)
      · intro id o ho hsame
        have hle := hs.session_le id o (haccepted ▸ ho)
        omega
  | halfStarted now hcall hpoisoned hrecord hqueue hsame hresolution =>
      refine h.of_same_queue hqueue hrecord.acceptedAs hrecord.released ?_
      intro hhealthy
      have hs := h.sessions (hsame ▸ hhealthy)
      rw [hs.anchorHealthy] at hpoisoned
      contradiction
  | offered packet first second offer hcall hoffer hsession hoffers hreleased hhealthy htimeline
      hqueue =>
      exact offered_invariant h hclock hoffer hsession hreleased hhealthy.1 htimeline hqueue
  | taken now item hcall hsession hoffers haccepted hreleased hqueue hhealthy htimeline hdue =>
      have hnow : now = r.clock := hlast now (by rw [hcall]; rfl)
      exact taken_invariant h hclock hnow hsession haccepted hreleased hqueue hhealthy htimeline
        hdue
  | removed hrecord hqueue htimeline =>
      have hsubset : ∀ item ∈ r'.scheduler.queue.heap.toList,
          item ∈ r.scheduler.queue.heap.toList := by
        intro item hitem
        rcases hqueue with ⟨packetId, hcancel⟩ | hclear
        · exact (PlaybackQueue.cancel_sublist _ packetId).subset (hcancel ▸ hitem)
        · rw [hclear] at hitem
          simp [PlaybackQueue.clear] at hitem
      have hids : r'.scheduler.queue.IdInvariant := by
        rcases hqueue with ⟨packetId, hcancel⟩ | hclear
        · exact hcancel ▸ PlaybackQueue.cancel_idInvariant h.ids packetId
        · exact hclear ▸ PlaybackQueue.clear_idInvariant _
      refine h.of_subset hids hsubset hrecord.acceptedAs hrecord.released ?_
      intro hhealthy
      have hs := h.sessions (htimeline.poisoned ▸ hhealthy)
      exact hs.of_same (congrArg _ htimeline.timeline) (congrArg _ htimeline.timeline) hclock
        hrecord.session hrecord.acceptedAs

theorem last_reading {r : SchedulerRun} {call : SchedulerCall} {now : Instant}
    (h : call.readings.getLast? = some now) : now = (r.advance call).clock := by
  unfold advance
  rw [List.getLastD_eq_getLast?, h, Option.getD_some]

/-- Every call keeps the invariant. -/
theorem step_invariant {profile : BuildProfile} {r r' : SchedulerRun} {call : SchedulerCall}
    (h : r.Invariant) (hstep : step profile r call = some r') : r'.Invariant := by
  rcases step_eq_some.mp hstep with ⟨hclock, rfl⟩
  exact effect_invariant (advance_invariant h (clock_le_advance hclock))
    (perform_effect profile (r.advance call) call) (perform_clock profile (r.advance call) call)
    fun now hnow => last_reading hnow

theorem run_invariant {profile : BuildProfile} {r r' : SchedulerRun} {calls : List SchedulerCall}
    (h : r.Invariant) (hrun : run (step profile) r calls = some r') : r'.Invariant :=
  TransitionSystem.run_invariant Invariant (fun _ _ _ hr hstep => step_invariant hr hstep) h hrun

end SchedulerRun
end Scheduler
end EchoSync
