import EchoSync.Scheduler.PlaybackQueue
import EchoSync.Scheduler.Timeline
import EchoSync.Sync.Synchronizer

/-!
# Playback Scheduler - The scheduler

The concurrency-safe entry point of the Playback Scheduler: a timeline, a queue,
a synchronizer and the counters, each behind a lock of its own, and an atomic
running flag.  Every lock-held section is a function of its own; the calls below
compose them.

Main results:

- Theorem {lit}`schedulePacket_cases`: a scheduling call either assigns no
  deadline and accepts nothing, or assigns one and then accepts or refuses the
  packet.
- Theorem {lit}`nextPacket_cases`: a release call either leaves the queue alone,
  answering nothing only if no queued packet is due, or removes its first packet,
  which is due at the quantized time.
-/

namespace EchoSync
namespace Scheduler

open Streaming Sync

/-- The counters of the scheduler. -/
structure StatisticsTracker where
  packetsScheduled : Nat
  packetsPlayed : Nat
  packetsDropped : Nat
  latePackets : Nat
  earlyPackets : Nat
  schedulingDelaySumMs : ℚ
  schedulingDelaySampleCount : Nat
  playbackOffsetSumMs : ℚ
  playbackOffsetSampleCount : Nat
deriving DecidableEq

namespace StatisticsTracker

/-- All counters at zero. -/
def new : StatisticsTracker where
  packetsScheduled := 0
  packetsPlayed := 0
  packetsDropped := 0
  latePackets := 0
  earlyPackets := 0
  schedulingDelaySumMs := 0
  schedulingDelaySampleCount := 0
  playbackOffsetSumMs := 0
  playbackOffsetSampleCount := 0

/-- Count an accepted packet. -/
def recordScheduled (t : StatisticsTracker) (schedulingDelayMs : ℚ) : StatisticsTracker :=
  { t with
    packetsScheduled := t.packetsScheduled + 1
    schedulingDelaySumMs := t.schedulingDelaySumMs + schedulingDelayMs
    schedulingDelaySampleCount := t.schedulingDelaySampleCount + 1 }

/-- Count a released packet. -/
def recordPlayed (t : StatisticsTracker) (playbackOffsetMs : ℚ) : StatisticsTracker :=
  { t with
    packetsPlayed := t.packetsPlayed + 1
    playbackOffsetSumMs := t.playbackOffsetSumMs + playbackOffsetMs
    playbackOffsetSampleCount := t.playbackOffsetSampleCount + 1 }

/-- Count a packet dropped as excessively late. -/
def recordDropped (t : StatisticsTracker) : StatisticsTracker :=
  { t with packetsDropped := t.packetsDropped + 1 }

/-- Count a tolerably late packet. -/
def recordLate (t : StatisticsTracker) : StatisticsTracker :=
  { t with latePackets := t.latePackets + 1 }

/-- Count an early packet. -/
def recordEarly (t : StatisticsTracker) : StatisticsTracker :=
  { t with earlyPackets := t.earlyPackets + 1 }

end StatisticsTracker

/-- The state shared by the clones of a scheduler.  A panic of a task that holds
the timeline poisons its lock. -/
structure PlaybackScheduler where
  queue : PlaybackQueue
  timeline : PlaybackTimeline
  timelinePoisoned : Bool
  synchronizer : Synchronizer
  stats : StatisticsTracker
  running : Bool
  config : SchedulerConfig

/-- How a deadline lies to the current time when its packet is scheduled. -/
inductive Lateness where
  | expired (lateByMs : U64)
  | late (lateByMs : U64)
  | early
  | onTime
deriving DecidableEq

/-- The timestamp of a packet shifted by the applied offset, as a floating-point
number: both the conversion and the sum are rounded. -/
def shiftedTimestampMs (packet : AudioPacket) (offsetMs : ℚ) : ℚ :=
  F64.round (F64.round packet.timestampMs.val + offsetMs)

/-- The shifted timestamp, clamped at zero and cast to 64 bits. -/
def adjustedTimestampMs (packet : AudioPacket) (offsetMs : ℚ) : U64 :=
  U64.ofRatSaturating (max (shiftedTimestampMs packet offsetMs) 0)

/-- The signed distance in milliseconds from the current time to the deadline,
and its classification.  The subtraction and the negation can overflow. -/
def classify (profile : BuildProfile) (config : SchedulerConfig) (deadline now : Duration) :
    Option (Int × Lateness) :=
  match i64Result profile (asI64 deadline.asMillis - asI64 now.asMillis) with
  | none => none
  | some diffMs =>
      if diffMs < 0 then
        match i64Result profile (-diffMs) with
        | none => none
        | some negated =>
            let lateByMs := U64.ofInt negated
            if lateByMs > U64.wrap config.maxLateThreshold.asMillis then
              some (diffMs, .expired lateByMs)
            else some (diffMs, .late lateByMs)
      else if U64.ofInt diffMs > U64.wrap config.maxEarlyThreshold.asMillis then
        some (diffMs, .early)
      else some (diffMs, .onTime)

namespace PlaybackScheduler

/-- A stopped scheduler with an empty queue and an existing synchronizer. -/
def ofConfig (config : SchedulerConfig) (synchronizer : Synchronizer) (now : Instant) :
    PlaybackScheduler where
  queue := PlaybackQueue.new config.queueCapacity
  timeline := PlaybackTimeline.new config.timelineResolution now
  timelinePoisoned := false
  synchronizer := synchronizer
  stats := StatisticsTracker.new
  running := false
  config := config

/-- A stopped scheduler over a configuration that passes its validation. -/
def new (config : SchedulerConfig) (synchronizer : Synchronizer) (now : Instant) :
    Except SchedulerError PlaybackScheduler :=
  match config.validate with
  | .error e => .error e
  | .ok () => .ok (ofConfig config synchronizer now)

theorem new_eq_ok_iff {config : SchedulerConfig} {synchronizer : Synchronizer} {now : Instant}
    {s : PlaybackScheduler} : new config synchronizer now = .ok s ↔
      ValidSchedulerConfig config ∧ s = ofConfig config synchronizer now := by
  rw [← SchedulerConfig.validate_eq_ok_iff]
  unfold new
  cases hvalid : config.validate with
  | error e => simp
  | ok _ => simp [eq_comm]

/-- The error of a call that finds the timeline's lock poisoned. -/
def timelinePoisonedError : SchedulerError :=
  .operationFailed "playback timeline lock poisoned"

/-- Start the scheduler: set the flag, then reset the timeline.  A poisoned lock
is reported after the flag is set. -/
def start (s : PlaybackScheduler) (now : Instant) :
    Except SchedulerError Unit × PlaybackScheduler :=
  if s.running then (.error .alreadyStarted, s)
  else if s.timelinePoisoned then (.error timelinePoisonedError, { s with running := true })
  else
    let (result, timeline) := s.timeline.reset now
    (result, { s with running := true, timeline := timeline })

/-- Stop the scheduler; the queue, the timeline and the counters stay. -/
def stop (s : PlaybackScheduler) : Except SchedulerError Unit × PlaybackScheduler :=
  if s.running then (.ok (), { s with running := false }) else (.error .notStarted, s)

/-! ## Scheduling -/

/-- The section of a scheduling call that holds the timeline: compute the
deadline, then read the time once more. -/
def assignDeadline (s : PlaybackScheduler) (adjusted : U64) (first second : Instant) :
    Outcome SchedulerError (Duration × Duration) × PlaybackScheduler :=
  if s.timelinePoisoned then (.err timelinePoisonedError, s)
  else
    match s.timeline.calculateDeadline adjusted s.config.playbackLatency first with
    | (none, timeline) => (.panicked, { s with timeline := timeline, timelinePoisoned := true })
    | (some deadline, timeline) =>
        match timeline.currentTime second with
        | none => (.panicked, { s with timeline := timeline, timelinePoisoned := true })
        | some now => (.ok (deadline, now), { s with timeline := timeline })

/-- Count the classification of a deadline. -/
def recordLateness (s : PlaybackScheduler) (lateness : Lateness) : PlaybackScheduler :=
  match lateness with
  | .expired _ => { s with stats := s.stats.recordDropped }
  | .late _ => { s with stats := s.stats.recordLate }
  | .early => { s with stats := s.stats.recordEarly }
  | .onTime => s

/-- The section of a scheduling call that holds the queue. -/
def enqueueItem (s : PlaybackScheduler) (item : ScheduledPacket) :
    Except SchedulerError Unit × PlaybackScheduler :=
  let (result, queue) := s.queue.enqueue item
  (result, { s with queue := queue })

/-- Count an accepted packet. -/
def recordScheduled (s : PlaybackScheduler) (schedulingDelayMs : ℚ) : PlaybackScheduler :=
  { s with stats := s.stats.recordScheduled schedulingDelayMs }

/-- Enqueue a packet and count it if the queue takes it. -/
def accept (s : PlaybackScheduler) (item : ScheduledPacket) (schedulingDelayMs : ℚ) :
    Outcome SchedulerError Unit × PlaybackScheduler :=
  let r := s.enqueueItem item
  match r.1 with
  | .error e => (.err e, r.2)
  | .ok () => (.ok (), r.2.recordScheduled schedulingDelayMs)

/-- The part of a scheduling call after the deadline is known: classify it, drop
an expired packet, and accept any other one. -/
def submit (profile : BuildProfile) (s : PlaybackScheduler) (packet : AudioPacket)
    (deadline now : Duration) : Outcome SchedulerError Unit × PlaybackScheduler :=
  match classify profile s.config deadline now with
  | none => (.panicked, s)
  | some (_, .expired lateByMs) =>
      (.err (.packetExpired packet.packetId lateByMs), s.recordLateness (.expired lateByMs))
  | some (diffMs, lateness) =>
      (s.recordLateness lateness).accept { packet, deadline, scheduledAt := now }
        (diffMs.natAbs : ℚ)

/-- Compute a playback deadline for a packet and enqueue it.  The clock is read
twice while the timeline is held. -/
def schedulePacket (profile : BuildProfile) (s : PlaybackScheduler) (packet : AudioPacket)
    (first second : Instant) : Outcome SchedulerError Unit × PlaybackScheduler :=
  if s.running then
    let adjusted := adjustedTimestampMs packet s.synchronizer.currentOffset
    let r := s.assignDeadline adjusted first second
    match r.1 with
    | .err e => (.err e, r.2)
    | .panicked => (.panicked, r.2)
    | .ok (deadline, now) => r.2.submit profile packet deadline now
  else (.err .notStarted, s)

/-- The deadline that a scheduling call assigns, if it comes that far. -/
def assignedDeadline (s : PlaybackScheduler) (packet : AudioPacket) (first second : Instant) :
    Option Duration :=
  if s.running then
    let adjusted := adjustedTimestampMs packet s.synchronizer.currentOffset
    match (s.assignDeadline adjusted first second).1 with
    | .ok (deadline, _) => some deadline
    | _ => none
  else none

/-! ## Release -/

/-- The section of a release that holds the timeline. -/
def readTime (s : PlaybackScheduler) (now : Instant) :
    Outcome SchedulerError Duration × PlaybackScheduler :=
  if s.timelinePoisoned then (.err timelinePoisonedError, s)
  else
    match s.timeline.currentTime now with
    | none => (.panicked, { s with timelinePoisoned := true })
    | some current => (.ok current, s)

/-- The section of a release that holds the queue: remove the first packet if it
is due. -/
def takeDue (s : PlaybackScheduler) (now : Duration) :
    Option ScheduledPacket × PlaybackScheduler :=
  match s.queue.peek with
  | some head =>
      if head.deadline ≤ now then
        (s.queue.dequeue.1, { s with queue := s.queue.dequeue.2 })
      else (none, s)
  | none => (none, s)

/-- Count a released packet.  The signed distance can overflow, after the packet
has left the queue. -/
def recordPlayed (profile : BuildProfile) (s : PlaybackScheduler) (item : ScheduledPacket)
    (now : Duration) : Outcome SchedulerError (Option AudioPacket) × PlaybackScheduler :=
  match i64Result profile (asI64 now.asMillis - asI64 item.deadline.asMillis) with
  | none => (.panicked, s)
  | some playbackOffsetMs =>
      (.ok (some item.packet), { s with stats := s.stats.recordPlayed playbackOffsetMs })

/-- The part of a release after the time is known. -/
def releaseAt (profile : BuildProfile) (s : PlaybackScheduler) (now : Duration) :
    Outcome SchedulerError (Option AudioPacket) × PlaybackScheduler :=
  let r := s.takeDue now
  match r.1 with
  | none => (.ok none, r.2)
  | some item => r.2.recordPlayed profile item now

/-- The next packet whose deadline has arrived, removed from the queue. -/
def nextPacket (profile : BuildProfile) (s : PlaybackScheduler) (now : Instant) :
    Outcome SchedulerError (Option AudioPacket) × PlaybackScheduler :=
  if s.running then
    let r := s.readTime now
    match r.1 with
    | .err e => (.err e, r.2)
    | .panicked => (.panicked, r.2)
    | .ok current => r.2.releaseAt profile current
  else (.err .notStarted, s)

/-- Remove a packet before it is released. -/
def cancelPacket (s : PlaybackScheduler) (packetId : U64) : Bool × PlaybackScheduler :=
  let (found, queue) := s.queue.cancel packetId
  (found, { s with queue := queue })

/-- Remove every queued packet. -/
def clear (s : PlaybackScheduler) : PlaybackScheduler :=
  { s with queue := s.queue.clear }

/-! ## What the calls do -/

/-- Two states agree on everything but the queue, the timeline and the counters. -/
structure SameSession (s s' : PlaybackScheduler) : Prop where
  running : s'.running = s.running
  synchronizer : s'.synchronizer = s.synchronizer
  config : s'.config = s.config

theorem SameSession.refl (s : PlaybackScheduler) : SameSession s s :=
  ⟨rfl, rfl, rfl⟩

theorem SameSession.trans {s₁ s₂ s₃ : PlaybackScheduler} (h : SameSession s₁ s₂)
    (h' : SameSession s₂ s₃) : SameSession s₁ s₃ :=
  ⟨h'.running.trans h.running, h'.synchronizer.trans h.synchronizer,
    h'.config.trans h.config⟩

/-- Two states agree on the timeline and its lock. -/
structure SameTimeline (s s' : PlaybackScheduler) : Prop where
  timeline : s'.timeline = s.timeline
  poisoned : s'.timelinePoisoned = s.timelinePoisoned

theorem SameTimeline.refl (s : PlaybackScheduler) : SameTimeline s s :=
  ⟨rfl, rfl⟩

theorem SameTimeline.trans {s₁ s₂ s₃ : PlaybackScheduler} (h : SameTimeline s₁ s₂)
    (h' : SameTimeline s₂ s₃) : SameTimeline s₁ s₃ :=
  ⟨h'.timeline.trans h.timeline, h'.poisoned.trans h.poisoned⟩

/-- How a call that offers an item treats the queue: it accepts the item, or it
refuses it and leaves the queue as it is. -/
def QueueEffect (s s' : PlaybackScheduler) (item : ScheduledPacket)
    (outcome : Outcome SchedulerError Unit) : Prop :=
  (outcome = .ok () ∧ s.queue.enqueue item = (.ok (), s'.queue)) ∨
    (outcome ≠ .ok () ∧ s'.queue = s.queue)

/-- A start either succeeds and resets the timeline, or fails: it changes nothing
then, unless it finds one of the two locks poisoned. -/
theorem start_cases (s : PlaybackScheduler) (now : Instant) :
    let r := s.start now
    r.2.queue = s.queue ∧ r.2.config = s.config ∧
      ((r.1 = .ok () ∧ r.2.timeline = { s.timeline with startedAt := now, anchor := none } ∧
          r.2.timelinePoisoned = s.timelinePoisoned) ∨
        (r.1 ≠ .ok () ∧ (r.2.timelinePoisoned = true ∨ SameTimeline s r.2)) ∨
        (r.1 ≠ .ok () ∧ s.timeline.anchorPoisoned = true ∧
          r.2.timelinePoisoned = s.timelinePoisoned ∧
          r.2.timeline.resolution = s.timeline.resolution)) := by
  unfold start PlaybackTimeline.reset
  dsimp only
  split
  · exact ⟨rfl, rfl, Or.inr (Or.inl ⟨by simp, Or.inr (SameTimeline.refl s)⟩)⟩
  · split
    · rename_i hpoison
      exact ⟨rfl, rfl, Or.inr (Or.inl ⟨by simp, Or.inl hpoison⟩)⟩
    · split
      · rename_i hanchor
        exact ⟨rfl, rfl, Or.inr (Or.inr ⟨by simp, hanchor, rfl, rfl⟩)⟩
      · exact ⟨rfl, rfl, Or.inl ⟨rfl, rfl, rfl⟩⟩

theorem recordLateness_frame (s : PlaybackScheduler) (lateness : Lateness) :
    SameSession s (s.recordLateness lateness) ∧ SameTimeline s (s.recordLateness lateness) ∧
      (s.recordLateness lateness).queue = s.queue := by
  cases lateness <;> exact ⟨⟨rfl, rfl, rfl⟩, ⟨rfl, rfl⟩, rfl⟩

theorem accept_effect (s : PlaybackScheduler) (item : ScheduledPacket) (delayMs : ℚ) :
    SameSession s (s.accept item delayMs).2 ∧ SameTimeline s (s.accept item delayMs).2 ∧
      QueueEffect s (s.accept item delayMs).2 item (s.accept item delayMs).1 := by
  have henqueue : s.queue.enqueue item = ((s.queue.enqueue item).1, (s.queue.enqueue item).2) :=
    rfl
  unfold accept enqueueItem
  dsimp only
  cases hresult : (s.queue.enqueue item).1 with
  | error e =>
      rw [hresult] at henqueue
      exact ⟨⟨rfl, rfl, rfl⟩, ⟨rfl, rfl⟩,
        Or.inr ⟨by simp, PlaybackQueue.enqueue_err henqueue⟩⟩
  | ok _ =>
      rw [hresult] at henqueue
      exact ⟨⟨rfl, rfl, rfl⟩, ⟨rfl, rfl⟩, Or.inl ⟨rfl, henqueue⟩⟩

/-- After its deadline is known, a packet is accepted or refused; nothing else
than the counters changes. -/
theorem submit_effect (profile : BuildProfile) (s : PlaybackScheduler) (packet : AudioPacket)
    (deadline now : Duration) :
    let r := s.submit profile packet deadline now
    SameSession s r.2 ∧ SameTimeline s r.2 ∧
      QueueEffect s r.2 { packet, deadline, scheduledAt := now } r.1 := by
  unfold submit
  dsimp only
  split
  · exact ⟨SameSession.refl s, SameTimeline.refl s, Or.inr ⟨by simp, rfl⟩⟩
  · rename_i lateByMs _
    rcases recordLateness_frame s (.expired lateByMs) with ⟨hsession, htimeline, hqueue⟩
    exact ⟨hsession, htimeline, Or.inr ⟨by simp, hqueue⟩⟩
  · rename_i diffMs lateness _ _
    rcases recordLateness_frame s lateness with ⟨hsession, htimeline, hqueue⟩
    rcases accept_effect (s.recordLateness lateness) { packet, deadline, scheduledAt := now }
      (diffMs.natAbs : ℚ) with ⟨hsession', htimeline', heffect⟩
    refine ⟨hsession.trans hsession', htimeline.trans htimeline', ?_⟩
    unfold QueueEffect at heffect ⊢
    rwa [hqueue] at heffect

/-- The timeline section either leaves a healthy timeline and a deadline, or it
leaves the state alone or poisons the lock. -/
theorem assignDeadline_cases (s : PlaybackScheduler) (adjusted : U64) (first second : Instant) :
    let r := s.assignDeadline adjusted first second
    SameSession s r.2 ∧ r.2.queue = s.queue ∧
      (((∀ times, r.1 ≠ .ok times) ∧ (r.2 = s ∨ r.2.timelinePoisoned = true)) ∨
        ∃ deadline now, r.1 = .ok (deadline, now) ∧ s.timelinePoisoned = false ∧
          r.2.timelinePoisoned = false ∧
          s.timeline.calculateDeadline adjusted s.config.playbackLatency first =
            (some deadline, r.2.timeline)) := by
  unfold assignDeadline
  dsimp only
  split
  · exact ⟨SameSession.refl s, rfl, Or.inl ⟨by simp, Or.inl rfl⟩⟩
  · rename_i hpoison
    have hhealthy : s.timelinePoisoned = false := Bool.eq_false_iff.mpr hpoison
    split
    · exact ⟨⟨rfl, rfl, rfl⟩, rfl, Or.inl ⟨by simp, Or.inr rfl⟩⟩
    · rename_i deadline timeline hdeadline
      split
      · exact ⟨⟨rfl, rfl, rfl⟩, rfl, Or.inl ⟨by simp, Or.inr rfl⟩⟩
      · rename_i now hnow
        exact ⟨⟨rfl, rfl, rfl⟩, rfl,
          Or.inr ⟨deadline, now, rfl, hhealthy, hhealthy, hdeadline⟩⟩

/-- A scheduling call that assigns no deadline: nothing is accepted, the queue
stays, and the timeline changes only if its lock is poisoned by the call. -/
structure Unassigned (s s' : PlaybackScheduler) (outcome : Outcome SchedulerError Unit) : Prop where
  session : SameSession s s'
  queue : s'.queue = s.queue
  refused : outcome ≠ .ok ()
  timeline : s' = s ∨ s'.timelinePoisoned = true

/-- A scheduling call that assigns a deadline computes it under the timeline's
lock, and then accepts or refuses the packet. -/
structure Assigned (s s' : PlaybackScheduler) (packet : AudioPacket) (first : Instant)
    (outcome : Outcome SchedulerError Unit) (deadline : Duration) : Prop where
  session : SameSession s s'
  healthy : s.timelinePoisoned = false ∧ s'.timelinePoisoned = false
  timeline :
    s.timeline.calculateDeadline (adjustedTimestampMs packet s.synchronizer.currentOffset)
      s.config.playbackLatency first = (some deadline, s'.timeline)
  queue : ∃ now, QueueEffect s s' { packet, deadline, scheduledAt := now } outcome

/-- Everything that a scheduling call can do. -/
theorem schedulePacket_cases (profile : BuildProfile) (s : PlaybackScheduler)
    (packet : AudioPacket) (first second : Instant) :
    let r := s.schedulePacket profile packet first second
    (s.assignedDeadline packet first second = none ∧ Unassigned s r.2 r.1) ∨
      ∃ deadline, s.assignedDeadline packet first second = some deadline ∧
        Assigned s r.2 packet first r.1 deadline := by
  unfold schedulePacket assignedDeadline
  dsimp only
  split
  · rcases assignDeadline_cases s (adjustedTimestampMs packet s.synchronizer.currentOffset)
      first second with ⟨hsession, hqueue, ⟨hnone, htimeline⟩ | ⟨deadline, now, hok, hhealthy,
        hhealthy', hdeadline⟩⟩
    · cases hassign : (s.assignDeadline (adjustedTimestampMs packet
          s.synchronizer.currentOffset) first second).1 with
      | err e => exact Or.inl ⟨rfl, hsession, hqueue, by simp, htimeline⟩
      | panicked => exact Or.inl ⟨rfl, hsession, hqueue, by simp, htimeline⟩
      | ok times => exact absurd hassign (hnone times)
    · rw [hok]
      rcases submit_effect profile (s.assignDeadline (adjustedTimestampMs packet
        s.synchronizer.currentOffset) first second).2 packet deadline now with
        ⟨hsession', htimeline', heffect⟩
      refine Or.inr ⟨deadline, rfl, hsession.trans hsession', ?_, ?_, now, ?_⟩
      · exact ⟨hhealthy, htimeline'.poisoned.trans hhealthy'⟩
      · rw [hdeadline, htimeline'.timeline]
      · unfold QueueEffect at heffect ⊢
        rwa [hqueue] at heffect
  · exact Or.inl ⟨rfl, SameSession.refl s, rfl, by simp, Or.inl rfl⟩

/-- The queue section of a release takes the first packet exactly if it is due. -/
theorem takeDue_cases (s : PlaybackScheduler) (now : Duration) :
    SameSession s (s.takeDue now).2 ∧ SameTimeline s (s.takeDue now).2 ∧
      (((s.takeDue now).1 = none ∧ (s.takeDue now).2.queue = s.queue ∧
          ∀ item ∈ s.queue.heap.toList, now < item.deadline) ∨
        ∃ item, (s.takeDue now).1 = some item ∧
          s.queue.dequeue = (some item, (s.takeDue now).2.queue) ∧ item.deadline ≤ now) := by
  unfold takeDue
  cases hpeek : s.queue.peek with
  | none =>
      have hempty : s.queue.heap.toList = [] := PriorityQueue.peek_eq_none.mp hpeek
      exact ⟨SameSession.refl s, SameTimeline.refl s, Or.inl ⟨rfl, rfl, by simp [hempty]⟩⟩
  | some head =>
      have hdequeue : s.queue.dequeue.1 = some head := by
        have hheap : s.queue.heap.peek = some head := hpeek
        simp [PlaybackQueue.dequeue, hheap]
      dsimp only
      split_ifs with hdue
      · refine ⟨⟨rfl, rfl, rfl⟩, ⟨rfl, rfl⟩, Or.inr ⟨head, hdequeue, ?_, hdue⟩⟩
        exact Prod.ext hdequeue rfl
      · refine ⟨SameSession.refl s, SameTimeline.refl s, Or.inl ⟨rfl, rfl, ?_⟩⟩
        intro item hitem
        have hfirst := PriorityQueue.key_le_of_peek (q := s.queue.heap) hpeek hitem
        exact (not_le.mp hdue).trans_le (ScheduledPacket.deadline_le_of_key_le hfirst)

theorem recordPlayed_frame (profile : BuildProfile) (s : PlaybackScheduler)
    (item : ScheduledPacket) (now : Duration) :
    SameSession s (s.recordPlayed profile item now).2 ∧
      SameTimeline s (s.recordPlayed profile item now).2 ∧
      (s.recordPlayed profile item now).2.queue = s.queue ∧
      ((s.recordPlayed profile item now).1 = .ok (some item.packet) ∨
        (s.recordPlayed profile item now).1 = .panicked) := by
  unfold recordPlayed
  split
  · exact ⟨SameSession.refl s, SameTimeline.refl s, rfl, Or.inr rfl⟩
  · exact ⟨⟨rfl, rfl, rfl⟩, ⟨rfl, rfl⟩, rfl, Or.inl rfl⟩

/-- A release call that removes no packet leaves the queue and the timeline, or
poisons its lock; if it answers nothing, no queued packet was due. -/
structure NotTaken (s s' : PlaybackScheduler) (now : Instant)
    (outcome : Outcome SchedulerError (Option AudioPacket)) : Prop where
  queue : s'.queue = s.queue
  timeline : s'.timelinePoisoned = true ∨ SameTimeline s s'
  nothing : ∀ packet, outcome ≠ .ok (some packet)
  notDue : outcome = .ok none → s.timelinePoisoned = false ∧
    ∃ current, s.timeline.currentTime now = some current ∧
      ∀ item ∈ s.queue.heap.toList, current < item.deadline

/-- A release call that removes a packet: it was the first of the queue, and due
at the quantized time. -/
structure Taken (s s' : PlaybackScheduler) (now : Instant)
    (outcome : Outcome SchedulerError (Option AudioPacket)) (item : ScheduledPacket) : Prop where
  queue : s.queue.dequeue = (some item, s'.queue)
  healthy : s.timelinePoisoned = false
  timeline : SameTimeline s s'
  due : ∃ current, s.timeline.currentTime now = some current ∧ item.deadline ≤ current
  answer : outcome = .ok (some item.packet) ∨ outcome = .panicked

/-- The timeline section of a release reads the quantized time, or it leaves the
state alone or poisons the lock. -/
theorem readTime_cases (s : PlaybackScheduler) (now : Instant) :
    let r := s.readTime now
    SameSession s r.2 ∧ r.2.queue = s.queue ∧
      (((∀ current, r.1 ≠ .ok current) ∧ (r.2.timelinePoisoned = true ∨ SameTimeline s r.2)) ∨
        ∃ current, r.1 = .ok current ∧ r.2 = s ∧ s.timelinePoisoned = false ∧
          s.timeline.currentTime now = some current) := by
  unfold readTime
  dsimp only
  split
  · rename_i hpoison
    exact ⟨SameSession.refl s, rfl, Or.inl ⟨by simp, Or.inl hpoison⟩⟩
  · rename_i hpoison
    split
    · exact ⟨⟨rfl, rfl, rfl⟩, rfl, Or.inl ⟨by simp, Or.inl rfl⟩⟩
    · rename_i current hcurrent
      exact ⟨SameSession.refl s, rfl,
        Or.inr ⟨current, rfl, rfl, Bool.eq_false_iff.mpr hpoison, hcurrent⟩⟩

theorem releaseAt_cases {profile : BuildProfile} {s : PlaybackScheduler} {now : Instant}
    {current : Duration} (hhealthy : s.timelinePoisoned = false)
    (hcurrent : s.timeline.currentTime now = some current) :
    let r := s.releaseAt profile current
    SameSession s r.2 ∧ (NotTaken s r.2 now r.1 ∨ ∃ item, Taken s r.2 now r.1 item) := by
  unfold releaseAt
  dsimp only
  rcases takeDue_cases s current with ⟨hsession, htimeline, ⟨hnone, hqueue, hlate⟩ |
    ⟨item, hsome, hdequeue, hdue⟩⟩
  · rw [hnone]
    exact ⟨hsession, Or.inl ⟨hqueue, Or.inr htimeline, by simp,
      fun _ => ⟨hhealthy, current, hcurrent, hlate⟩⟩⟩
  · rw [hsome]
    rcases recordPlayed_frame profile (s.takeDue current).2 item current with
      ⟨hsession', htimeline', hqueue, hanswer⟩
    refine ⟨hsession.trans hsession', Or.inr ⟨item, ?_⟩⟩
    exact
      { queue := by rw [hdequeue, hqueue]
        healthy := hhealthy
        timeline := htimeline.trans htimeline'
        due := ⟨current, hcurrent, hdue⟩
        answer := hanswer }

/-- Everything that a release call can do. -/
theorem nextPacket_cases (profile : BuildProfile) (s : PlaybackScheduler) (now : Instant) :
    let r := s.nextPacket profile now
    SameSession s r.2 ∧ (NotTaken s r.2 now r.1 ∨ ∃ item, Taken s r.2 now r.1 item) := by
  unfold nextPacket
  dsimp only
  split
  · rcases readTime_cases s now with ⟨hsession, hqueue, ⟨hnone, htimeline⟩ |
      ⟨current, hok, hsame, hhealthy, hcurrent⟩⟩
    · cases hread : (s.readTime now).1 with
      | err e => exact ⟨hsession, Or.inl ⟨hqueue, htimeline, by simp, by simp⟩⟩
      | panicked => exact ⟨hsession, Or.inl ⟨hqueue, htimeline, by simp, by simp⟩⟩
      | ok current => exact absurd hread (hnone current)
    · rw [hok, hsame]
      exact releaseAt_cases hhealthy hcurrent
  · exact ⟨SameSession.refl s, Or.inl ⟨rfl, Or.inr (SameTimeline.refl s), by simp, by simp⟩⟩

end PlaybackScheduler
end Scheduler
end EchoSync
