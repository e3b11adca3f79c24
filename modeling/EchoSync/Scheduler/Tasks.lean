import EchoSync.Foundations.TaskPool
import EchoSync.Foundations.TransitionSystem
import EchoSync.Scheduler.PlaybackScheduler

/-!
# Playback Scheduler - Calls of concurrent tasks

Any number of tasks call the clones of one scheduler.  A call is cut at its sections:
each access to the running flag and each part that holds a lock is one step, and the
steps of different calls interleave in any order.  The clock never goes back, and the
synchronizer, which other tasks share, changes in any way between two steps.

A log lists what the steps did to the queue and to the counters, next to the scheduler.

Main results:

- Theorem {lit}`step_eq_some`: a step begins a call, executes one section, or changes the
  synchronizer.
- Theorem {lit}`execute_executed`: everything that one step of a call can do.
- Theorem {lit}`step_forall_calls`: how what each call knows is kept by a step.
-/

namespace EchoSync
namespace Scheduler

open Streaming Sync TransitionSystem

/-- A snapshot of the counters of the scheduler, with the number of queued packets. -/
structure SchedulerStatistics where
  packetsScheduled : Nat
  packetsPlayed : Nat
  packetsDropped : Nat
  latePackets : Nat
  earlyPackets : Nat
  averageSchedulingDelayMs : ℚ
  averagePlaybackOffsetMs : ℚ
  queueOccupancy : Nat

/-- The counters as a snapshot; the number of queued packets is supplied by the caller. -/
def StatisticsTracker.snapshot (t : StatisticsTracker) (queueOccupancy : Nat) :
    SchedulerStatistics where
  packetsScheduled := t.packetsScheduled
  packetsPlayed := t.packetsPlayed
  packetsDropped := t.packetsDropped
  latePackets := t.latePackets
  earlyPackets := t.earlyPackets
  averageSchedulingDelayMs :=
    if t.schedulingDelaySampleCount > 0 then
      t.schedulingDelaySumMs / t.schedulingDelaySampleCount
    else 0
  averagePlaybackOffsetMs :=
    if t.playbackOffsetSampleCount > 0 then
      t.playbackOffsetSumMs / t.playbackOffsetSampleCount
    else 0
  queueOccupancy := queueOccupancy

/-- Restart the timeline, the section of a start that holds it. -/
def PlaybackScheduler.resetTimeline (s : PlaybackScheduler) (now : Instant) :
    Except SchedulerError Unit × PlaybackScheduler :=
  if s.timelinePoisoned then (.error timelinePoisonedError, s)
  else
    let (result, timeline) := s.timeline.reset now
    (result, { s with timeline := timeline })

/-- What a step did to the queue or to the counters. -/
inductive LogEvent where
  | accepted (item : ScheduledPacket)
  | counted
  | taken (item : ScheduledPacket)
  | played
  | lost
  | cancelled (items : List ScheduledPacket)
  | cleared (items : List ScheduledPacket)
  | restarted

namespace LogEvent

/-- The packets that a step put into the queue. -/
def inserted : LogEvent → List ScheduledPacket
  | .accepted item => [item]
  | _ => []

/-- The packets that a step took out of the queue. -/
def removed : LogEvent → List ScheduledPacket
  | .taken item => [item]
  | .cancelled items => items
  | .cleared items => items
  | _ => []

/-- The packets that a clearing step took out of the queue. -/
def clearedItems : LogEvent → List ScheduledPacket
  | .cleared items => items
  | _ => []

def isCounted : LogEvent → Bool
  | .counted => true
  | _ => false

def isPlayed : LogEvent → Bool
  | .played => true
  | _ => false

def isLost : LogEvent → Bool
  | .lost => true
  | _ => false

def isRestarted : LogEvent → Bool
  | .restarted => true
  | _ => false

end LogEvent

/-- A packet taken from the queue, with all packets that were queued then. -/
structure Taken where
  item : ScheduledPacket
  queued : List ScheduledPacket

/-- A packet answered by a release: how it was taken, the timeline and the clock when it
was answered, and the number of restarts of the timeline before that. -/
structure Released where
  taken : Taken
  timeline : PlaybackTimeline
  answeredAt : Instant
  restarts : Nat

/-- A snapshot, with the log up to the section that read the queue and the log from there
to the section that read the counters. -/
structure Observation where
  statistics : SchedulerStatistics
  before : List LogEvent
  between : List LogEvent

/-- What a call answers. -/
inductive Answer where
  | unit (result : Except SchedulerError Unit)
  | refused (error : SchedulerError)
  | nothing
  | packet (released : Released)
  | found (removed : Bool)
  | statistics (observation : Observation)

/-- Where a call is: each phase but the last two names the section that it executes
next. -/
inductive SchedulerPhase where
  | startFlag
  | startReset
  | stopFlag
  | scheduleCheck (packet : AudioPacket)
  | scheduleOffset (packet : AudioPacket)
  | scheduleDeadline (packet : AudioPacket) (adjusted : U64)
  | scheduleClassify (packet : AudioPacket) (deadline now : Duration)
  | scheduleEnqueue (item : ScheduledPacket) (diffMs : Int)
  | scheduleCount (diffMs : Int)
  | nextCheck
  | nextTime
  | nextTake (now : Duration)
  | nextCount (taken : Taken) (now : Duration)
  | cancel (packetId : U64)
  | clear
  | readOccupancy
  | readCounters (occupancy : Nat) (before : List LogEvent)
  | returned (answer : Answer)
  | panicked

/-- A call that some task makes. -/
inductive TaskCall where
  | start
  | stop
  | schedulePacket (packet : AudioPacket)
  | nextPacket
  | cancelPacket (packetId : U64)
  | clear
  | statistics

/-- The first section of a call. -/
def TaskCall.entry : TaskCall → SchedulerPhase
  | .start => .startFlag
  | .stop => .stopFlag
  | .schedulePacket packet => .scheduleCheck packet
  | .nextPacket => .nextCheck
  | .cancelPacket packetId => .cancel packetId
  | .clear => .clear
  | .statistics => .readOccupancy

/-- A call with the number of restarts of the timeline before it began. -/
structure SchedulerTask where
  phase : SchedulerPhase
  restarts : Nat

/-- A scheduler, the calls made on it, the last reading of the clock and the log. -/
structure SchedulerTasks where
  scheduler : PlaybackScheduler
  calls : List SchedulerTask
  clock : Instant
  log : List LogEvent

/-- What a step of a call does: the scheduler after it, what it adds to the log, and the
next phase of the call. -/
structure SectionEffect where
  scheduler : PlaybackScheduler
  events : List LogEvent
  phase : SchedulerPhase

namespace SchedulerTasks

/-- A scheduler without calls. -/
def initial (s : PlaybackScheduler) (clock : Instant) : SchedulerTasks where
  scheduler := s
  calls := []
  clock := clock
  log := []

/-- The number of restarts of the timeline. -/
def restarts (r : SchedulerTasks) : Nat :=
  r.log.countP LogEvent.isRestarted

/-- The section that a call in this phase executes.  The clock is read at most twice. -/
def execute (profile : BuildProfile) (r : SchedulerTasks) (phase : SchedulerPhase)
    (first second : Instant) : Option SectionEffect :=
  let s := r.scheduler
  match phase with
  | .startFlag =>
      if s.running then some ⟨s, [], .returned (.unit (.error .alreadyStarted))⟩
      else some ⟨{ s with running := true }, [], .startReset⟩
  | .startReset =>
      let reset := s.resetTimeline second
      some ⟨reset.2, [.restarted], .returned (.unit reset.1)⟩
  | .stopFlag =>
      let stopped := s.stop
      some ⟨stopped.2, [], .returned (.unit stopped.1)⟩
  | .scheduleCheck packet =>
      if s.running then some ⟨s, [], .scheduleOffset packet⟩
      else some ⟨s, [], .returned (.unit (.error .notStarted))⟩
  | .scheduleOffset packet =>
      let adjusted := adjustedTimestampMs packet s.synchronizer.currentOffset
      some ⟨s, [], .scheduleDeadline packet adjusted⟩
  | .scheduleDeadline packet adjusted =>
      let assigned := s.assignDeadline adjusted first second
      match assigned.1 with
      | .err e => some ⟨assigned.2, [], .returned (.unit (.error e))⟩
      | .panicked => some ⟨assigned.2, [], .panicked⟩
      | .ok (deadline, now) => some ⟨assigned.2, [], .scheduleClassify packet deadline now⟩
  | .scheduleClassify packet deadline now =>
      match classify profile s.config deadline now with
      | none => some ⟨s, [], .panicked⟩
      | some (_, .expired lateByMs) =>
          some ⟨s.recordLateness (.expired lateByMs), [],
            .returned (.unit (.error (.packetExpired packet.packetId lateByMs)))⟩
      | some (diffMs, lateness) =>
          some ⟨s.recordLateness lateness, [],
            .scheduleEnqueue { packet, deadline, scheduledAt := now } diffMs⟩
  | .scheduleEnqueue item diffMs =>
      let enqueued := s.enqueueItem item
      match enqueued.1 with
      | .error e => some ⟨enqueued.2, [], .returned (.unit (.error e))⟩
      | .ok () => some ⟨enqueued.2, [.accepted item], .scheduleCount diffMs⟩
  | .scheduleCount diffMs =>
      some ⟨s.recordScheduled (diffMs.natAbs : ℚ), [.counted], .returned (.unit (.ok ()))⟩
  | .nextCheck =>
      if s.running then some ⟨s, [], .nextTime⟩
      else some ⟨s, [], .returned (.refused .notStarted)⟩
  | .nextTime =>
      let read := s.readTime second
      match read.1 with
      | .err e => some ⟨read.2, [], .returned (.refused e)⟩
      | .panicked => some ⟨read.2, [], .panicked⟩
      | .ok current => some ⟨read.2, [], .nextTake current⟩
  | .nextTake now =>
      let taken := s.takeDue now
      match taken.1 with
      | none => some ⟨taken.2, [], .returned .nothing⟩
      | some item => some ⟨taken.2, [.taken item], .nextCount ⟨item, s.queue.heap.toList⟩ now⟩
  | .nextCount taken now =>
      let played := s.recordPlayed profile taken.item now
      match played.1 with
      -- the packet has left the queue, and the call ends without counting it
      | .panicked => some ⟨played.2, [.lost], .panicked⟩
      | _ =>
          some ⟨played.2, [.played],
            .returned (.packet ⟨taken, s.timeline, second, r.restarts⟩)⟩
  | .cancel packetId =>
      let cancelled := s.cancelPacket packetId
      if cancelled.1 then
        some ⟨cancelled.2, [.cancelled (s.queue.heap.toList.filter fun item =>
          decide (item.packet.packetId = packetId))], .returned (.found true)⟩
      else some ⟨cancelled.2, [], .returned (.found false)⟩
  | .clear => some ⟨s.clear, [.cleared s.queue.heap.toList], .returned (.unit (.ok ()))⟩
  | .readOccupancy => some ⟨s, [], .readCounters s.queue.size r.log⟩
  | .readCounters occupancy before =>
      some ⟨s, [], .returned (.statistics
        ⟨s.stats.snapshot occupancy, before, r.log.drop before.length⟩)⟩
  | .returned _ => none
  | .panicked => none

/-- The state after a step of this call. -/
def proceed (r : SchedulerTasks) (i : Nat) (c : SchedulerTask) (now : Instant)
    (effect : SectionEffect) : SchedulerTasks where
  scheduler := effect.scheduler
  calls := r.calls.set i { c with phase := effect.phase }
  clock := now
  log := r.log ++ effect.events

/-- One step of a run: a task begins a call, a call executes its next section with these
readings of the clock, or the synchronizer changes. -/
inductive Action where
  | invoke (call : TaskCall)
  | call (index : Nat) (first second : Instant)
  | synchronizer (s : Synchronizer)

/-- Make one step. -/
def step (profile : BuildProfile) (r : SchedulerTasks) : Action → Option SchedulerTasks
  | .invoke call =>
      some { r with calls := r.calls ++ [{ phase := call.entry, restarts := r.restarts }] }
  | .call i first second =>
      if r.clock ≤ first ∧ first ≤ second then
        r.calls[i]?.bind fun c =>
          (r.execute profile c.phase first second).map (r.proceed i c second)
      else none
  | .synchronizer s => some { r with scheduler := { r.scheduler with synchronizer := s } }

/-- So many sections of one call, all with one reading of the clock. -/
def sections (index count : Nat) (now : Instant) : List Action :=
  List.replicate count (.call index now now)

/-- A new scheduler with the production defaults, created at the zero of the clock. -/
def atZero : SchedulerTasks :=
  initial
    (PlaybackScheduler.ofConfig SchedulerConfig.default
      (Synchronizer.ofConfig SyncConfig.default (Instant.ofMillis 0)) (Instant.ofMillis 0))
    (Instant.ofMillis 0)

theorem atZero_new : PlaybackScheduler.new SchedulerConfig.default
    (Synchronizer.ofConfig SyncConfig.default (Instant.ofMillis 0)) (Instant.ofMillis 0) =
      .ok atZero.scheduler :=
  PlaybackScheduler.new_eq_ok_iff.mpr
    ⟨SchedulerConfig.validate_eq_ok_iff.mp SchedulerConfig.default_validates, rfl⟩

/-- A start and so many sections of a scheduling call, all at the zero of the clock. -/
def scheduleOne (count : Nat) : List Action :=
  [.invoke .start] ++ sections 0 2 (Instant.ofMillis 0) ++
    [.invoke (.schedulePacket (makePacket 1 0 0))] ++ sections 1 count (Instant.ofMillis 0)

/-- A step begins a call, executes the section of one call, or changes the
synchronizer. -/
theorem step_eq_some {profile : BuildProfile} {r r' : SchedulerTasks} {action : Action} :
    step profile r action = some r' ↔
      (∃ call, action = .invoke call ∧
        { r with calls := r.calls ++ [{ phase := call.entry, restarts := r.restarts }] } = r') ∨
      (∃ i first second c effect, action = .call i first second ∧
        (r.clock ≤ first ∧ first ≤ second) ∧ r.calls[i]? = some c ∧
        r.execute profile c.phase first second = some effect ∧
        r.proceed i c second effect = r') ∨
      (∃ s, action = .synchronizer s ∧
        { r with scheduler := { r.scheduler with synchronizer := s } } = r') := by
  cases action with
  | invoke call => simp [step]
  | call i first second => simp [step, Option.bind_eq_some_iff]
  | synchronizer s => simp [step]

end SchedulerTasks

/-! ## What a section does -/

namespace SchedulerPhase

/-- Whether a call has inserted its packet and not counted it yet. -/
def uncounted : SchedulerPhase → Bool
  | .scheduleCount _ => true
  | _ => false

/-- Whether a call has taken a packet and not counted it yet. -/
def holding : SchedulerPhase → Bool
  | .nextCount _ _ => true
  | _ => false

/-- Whether a call has cancelled a packet. -/
def cancelledPacket : SchedulerPhase → Bool
  | .returned (.found true) => true
  | _ => false

/-- Whether a call has ended. -/
def finished : SchedulerPhase → Bool
  | .returned _ => true
  | .panicked => true
  | _ => false

/-- A phase of a call that owes nothing to the log and remembers no reading. -/
def Plain : SchedulerPhase → Prop
  | .scheduleCount _ => False
  | .nextTake _ => False
  | .nextCount _ _ => False
  | .readCounters _ _ => False
  | .returned (.found true) => False
  | .returned (.packet _) => False
  | .returned (.statistics _) => False
  | _ => True

theorem Plain.uncounted {phase : SchedulerPhase} (h : phase.Plain) : phase.uncounted = false := by
  cases phase with
  | scheduleCount _ => exact h.elim
  | _ => rfl

theorem Plain.holding {phase : SchedulerPhase} (h : phase.Plain) : phase.holding = false := by
  cases phase with
  | nextCount _ _ => exact h.elim
  | _ => rfl

theorem Plain.cancelledPacket {phase : SchedulerPhase} (h : phase.Plain) :
    phase.cancelledPacket = false := by
  cases phase with
  | returned answer =>
      cases answer with
      | found removed =>
          cases removed with
          | false => rfl
          | true => exact h.elim
      | _ => rfl
  | _ => rfl

end SchedulerPhase

/-- A step that leaves the queue, the counters of the scheduled and the played packets
and the readings of the timeline as they are. -/
structure Untouched (s s' : PlaybackScheduler) : Prop where
  queue : s'.queue = s.queue
  scheduled : s'.stats.packetsScheduled = s.stats.packetsScheduled
  played : s'.stats.packetsPlayed = s.stats.packetsPlayed
  readings : s'.timeline.currentTime = s.timeline.currentTime

theorem Untouched.refl (s : PlaybackScheduler) : Untouched s s :=
  ⟨rfl, rfl, rfl, rfl⟩

namespace PlaybackScheduler

/-- The readings of a timeline depend on its epoch and its resolution. -/
theorem currentTime_congr {t t' : PlaybackTimeline} (hstarted : t'.startedAt = t.startedAt)
    (hresolution : t'.resolution = t.resolution) : t'.currentTime = t.currentTime := by
  cases t
  cases t'
  cases hstarted
  cases hresolution
  rfl

theorem calculateDeadline_readings (t : PlaybackTimeline) (timestampMs : U64) (latency : Duration)
    (now : Instant) : (t.calculateDeadline timestampMs latency now).2.currentTime =
      t.currentTime := by
  unfold PlaybackTimeline.calculateDeadline PlaybackTimeline.expectedPlaybackTime
  cases t.currentTime now with
  | none => rfl
  | some current =>
      dsimp only
      cases t.expectedFrom (t.anchor.getD ⟨timestampMs, current⟩) timestampMs with
      | none => exact currentTime_congr rfl rfl
      | some expected => exact currentTime_congr rfl rfl

theorem assignDeadline_untouched (s : PlaybackScheduler) (adjusted : U64)
    (first second : Instant) : Untouched s (s.assignDeadline adjusted first second).2 := by
  have hreadings := calculateDeadline_readings s.timeline adjusted s.config.playbackLatency first
  unfold assignDeadline
  split_ifs
  · exact Untouched.refl s
  · rcases hdeadline : s.timeline.calculateDeadline adjusted s.config.playbackLatency first with
      ⟨deadline, timeline⟩
    rw [hdeadline] at hreadings
    cases deadline with
    | none => exact ⟨rfl, rfl, rfl, hreadings⟩
    | some deadline =>
        dsimp only
        cases timeline.currentTime second with
        | none => exact ⟨rfl, rfl, rfl, hreadings⟩
        | some now => exact ⟨rfl, rfl, rfl, hreadings⟩

theorem recordLateness_untouched (s : PlaybackScheduler) (lateness : Lateness) :
    Untouched s (s.recordLateness lateness) := by
  cases lateness with
  | onTime => exact Untouched.refl s
  | _ => exact ⟨rfl, rfl, rfl, rfl⟩

end PlaybackScheduler

namespace SchedulerTasks

/-- Everything that one step of a call can do. -/
inductive Executed (profile : BuildProfile) (r : SchedulerTasks) (second : Instant) :
    SchedulerPhase → SectionEffect → Prop where
  | plain {phase phase' : SchedulerPhase} {s : PlaybackScheduler}
      (hphase : phase.uncounted = false ∧ phase.holding = false ∧ phase.cancelledPacket = false)
      (hplain : phase'.Plain) (hs : Untouched r.scheduler s) :
      Executed profile r second phase ⟨s, [], phase'⟩
  | restart :
      Executed profile r second .startReset ⟨(r.scheduler.resetTimeline second).2, [.restarted],
        .returned (.unit (r.scheduler.resetTimeline second).1)⟩
  | insert {item : ScheduledPacket} {diffMs : Int} {q : PlaybackQueue}
      (hok : r.scheduler.queue.enqueue item = (.ok (), q)) :
      Executed profile r second (.scheduleEnqueue item diffMs)
        ⟨{ r.scheduler with queue := q }, [.accepted item], .scheduleCount diffMs⟩
  | count (diffMs : Int) :
      Executed profile r second (.scheduleCount diffMs)
        ⟨r.scheduler.recordScheduled (diffMs.natAbs : ℚ), [.counted], .returned (.unit (.ok ()))⟩
  | readTime {now : Duration} (hnow : r.scheduler.timeline.currentTime second = some now) :
      Executed profile r second .nextTime ⟨r.scheduler, [], .nextTake now⟩
  | take {now : Duration} {item : ScheduledPacket} {q : PlaybackQueue}
      (htaken : r.scheduler.queue.dequeue = (some item, q)) (hdue : item.deadline ≤ now) :
      Executed profile r second (.nextTake now)
        ⟨{ r.scheduler with queue := q }, [.taken item],
          .nextCount ⟨item, r.scheduler.queue.heap.toList⟩ now⟩
  | play {taken : Taken} {now : Duration} (offsetMs : Int) :
      Executed profile r second (.nextCount taken now)
        ⟨{ r.scheduler with stats := r.scheduler.stats.recordPlayed offsetMs }, [.played],
          .returned (.packet ⟨taken, r.scheduler.timeline, second, r.restarts⟩)⟩
  | lose {taken : Taken} {now : Duration}
      (hnone : i64Result profile
        (asI64 now.asMillis - asI64 taken.item.deadline.asMillis) = none) :
      Executed profile r second (.nextCount taken now) ⟨r.scheduler, [.lost], .panicked⟩
  | cancel {packetId : U64} (hmem : packetId ∈ r.scheduler.queue.ids) :
      Executed profile r second (.cancel packetId)
        ⟨(r.scheduler.cancelPacket packetId).2,
          [.cancelled (r.scheduler.queue.heap.toList.filter fun item =>
            decide (item.packet.packetId = packetId))], .returned (.found true)⟩
  | clear :
      Executed profile r second .clear ⟨r.scheduler.clear,
        [.cleared r.scheduler.queue.heap.toList], .returned (.unit (.ok ()))⟩
  | readOccupancy :
      Executed profile r second .readOccupancy
        ⟨r.scheduler, [], .readCounters r.scheduler.queue.size r.log⟩
  | readCounters (occupancy : Nat) (before : List LogEvent) :
      Executed profile r second (.readCounters occupancy before)
        ⟨r.scheduler, [], .returned (.statistics
          ⟨r.scheduler.stats.snapshot occupancy, before, r.log.drop before.length⟩)⟩

/-- A step from one plain phase to another. -/
theorem Executed.of_plain {profile : BuildProfile} {r : SchedulerTasks} {second : Instant}
    {phase phase' : SchedulerPhase} {s : PlaybackScheduler} (hphase : phase.Plain)
    (hplain : phase'.Plain) (hs : Untouched r.scheduler s) :
    Executed profile r second phase ⟨s, [], phase'⟩ :=
  .plain ⟨hphase.uncounted, hphase.holding, hphase.cancelledPacket⟩ hplain hs

section Sections

variable {profile : BuildProfile} {r : SchedulerTasks} {first second : Instant}
  {effect : SectionEffect}

theorem execute_scheduleDeadline {packet : AudioPacket} {adjusted : U64}
    (h : r.execute profile (.scheduleDeadline packet adjusted) first second = some effect) :
    Executed profile r second (.scheduleDeadline packet adjusted) effect := by
  have huntouched := r.scheduler.assignDeadline_untouched adjusted first second
  simp only [execute] at h
  split at h
  all_goals
    cases h
    exact .of_plain trivial trivial huntouched

theorem execute_scheduleClassify {packet : AudioPacket} {deadline now : Duration}
    (h : r.execute profile (.scheduleClassify packet deadline now) first second = some effect) :
    Executed profile r second (.scheduleClassify packet deadline now) effect := by
  simp only [execute] at h
  split at h
  · cases h
    exact .of_plain trivial trivial (Untouched.refl _)
  · cases h
    exact .of_plain trivial trivial (r.scheduler.recordLateness_untouched _)
  · cases h
    exact .of_plain trivial trivial (r.scheduler.recordLateness_untouched _)

theorem execute_scheduleEnqueue {item : ScheduledPacket} {diffMs : Int}
    (h : r.execute profile (.scheduleEnqueue item diffMs) first second = some effect) :
    Executed profile r second (.scheduleEnqueue item diffMs) effect := by
  rcases henqueue : r.scheduler.queue.enqueue item with ⟨result, q⟩
  cases result with
  | error e =>
      simp only [execute, PlaybackScheduler.enqueueItem, henqueue] at h
      cases h
      cases PlaybackQueue.enqueue_err henqueue
      exact .of_plain trivial trivial (Untouched.refl _)
  | ok _ =>
      simp only [execute, PlaybackScheduler.enqueueItem, henqueue] at h
      cases h
      exact .insert henqueue

theorem execute_nextTime (h : r.execute profile .nextTime first second = some effect) :
    Executed profile r second .nextTime effect := by
  simp only [execute, PlaybackScheduler.readTime] at h
  split_ifs at h
  · cases h
    exact .of_plain trivial trivial (Untouched.refl _)
  · cases hnow : r.scheduler.timeline.currentTime second with
    | none =>
        simp only [hnow] at h
        cases h
        exact .of_plain trivial trivial ⟨rfl, rfl, rfl, rfl⟩
    | some now =>
        simp only [hnow] at h
        cases h
        exact .readTime hnow

theorem execute_nextTake {now : Duration}
    (h : r.execute profile (.nextTake now) first second = some effect) :
    Executed profile r second (.nextTake now) effect := by
  simp only [execute, PlaybackScheduler.takeDue] at h
  cases hpeek : r.scheduler.queue.peek with
  | none =>
      simp only [hpeek] at h
      cases h
      exact .plain ⟨rfl, rfl, rfl⟩ trivial (Untouched.refl _)
  | some head =>
      simp only [hpeek] at h
      have hheap : r.scheduler.queue.heap.peek = some head := hpeek
      have hdequeue : r.scheduler.queue.dequeue.1 = some head := by
        simp [PlaybackQueue.dequeue, hheap]
      split_ifs at h with hdue
      · simp only [hdequeue] at h
        cases h
        exact .take (Prod.ext hdequeue rfl) hdue
      · cases h
        exact .plain ⟨rfl, rfl, rfl⟩ trivial (Untouched.refl _)

theorem execute_nextCount {taken : Taken} {now : Duration}
    (h : r.execute profile (.nextCount taken now) first second = some effect) :
    Executed profile r second (.nextCount taken now) effect := by
  simp only [execute, PlaybackScheduler.recordPlayed] at h
  cases hoffset : i64Result profile
      (asI64 now.asMillis - asI64 taken.item.deadline.asMillis) with
  | none =>
      simp only [hoffset] at h
      cases h
      exact .lose hoffset
  | some offsetMs =>
      simp only [hoffset] at h
      cases h
      exact .play offsetMs

theorem execute_cancel {packetId : U64}
    (h : r.execute profile (.cancel packetId) first second = some effect) :
    Executed profile r second (.cancel packetId) effect := by
  by_cases hmem : packetId ∈ r.scheduler.queue.ids
  · have hcancel : (r.scheduler.cancelPacket packetId).1 = true := by
      simp [PlaybackScheduler.cancelPacket, PlaybackQueue.cancel, hmem]
    simp only [execute, hcancel, if_true] at h
    cases h
    exact .cancel hmem
  · simp only [execute, PlaybackScheduler.cancelPacket, PlaybackQueue.cancel, hmem,
      if_false] at h
    cases h
    exact .of_plain trivial trivial ⟨rfl, rfl, rfl, rfl⟩

/-- Everything that one step of a call can do. -/
theorem execute_executed {phase : SchedulerPhase}
    (h : r.execute profile phase first second = some effect) :
    Executed profile r second phase effect := by
  cases phase with
  | startFlag =>
      simp only [execute] at h
      split_ifs at h
      all_goals
        cases h
        exact .of_plain trivial trivial ⟨rfl, rfl, rfl, rfl⟩
  | startReset =>
      cases h
      exact .restart
  | stopFlag =>
      simp only [execute, PlaybackScheduler.stop] at h
      split_ifs at h
      all_goals
        cases h
        exact .of_plain trivial trivial ⟨rfl, rfl, rfl, rfl⟩
  | scheduleCheck packet =>
      simp only [execute] at h
      split_ifs at h
      all_goals
        cases h
        exact .of_plain trivial trivial (Untouched.refl _)
  | scheduleOffset packet =>
      cases h
      exact .of_plain trivial trivial (Untouched.refl _)
  | scheduleDeadline packet adjusted => exact execute_scheduleDeadline h
  | scheduleClassify packet deadline now => exact execute_scheduleClassify h
  | scheduleEnqueue item diffMs => exact execute_scheduleEnqueue h
  | scheduleCount diffMs =>
      cases h
      exact .count diffMs
  | nextCheck =>
      simp only [execute] at h
      split_ifs at h
      all_goals
        cases h
        exact .of_plain trivial trivial (Untouched.refl _)
  | nextTime => exact execute_nextTime h
  | nextTake now => exact execute_nextTake h
  | nextCount taken now => exact execute_nextCount h
  | cancel packetId => exact execute_cancel h
  | clear =>
      cases h
      exact .clear
  | readOccupancy =>
      cases h
      exact .readOccupancy
  | readCounters occupancy before =>
      cases h
      exact .readCounters occupancy before
  | returned answer => contradiction
  | panicked => contradiction

/-! ## What the calls know -/

theorem entry_plain (call : TaskCall) : call.entry.Plain := by
  cases call <;> exact trivial

/-- What every call knows after a step, from what a call knows when it begins, what the
step leaves to the other calls and what a section tells its own call. -/
theorem step_forall_calls {r' : SchedulerTasks} {action : Action}
    (K : SchedulerTasks → SchedulerTask → Prop) (h : ∀ c ∈ r.calls, K r c)
    (hstep : step profile r action = some r')
    (hbegin : ∀ c, c.phase.Plain → c.restarts = r.restarts → K r' c)
    (hkeep : ∀ c, K r c → K r' c)
    (hown : ∀ i now c effect, c ∈ r.calls → r.clock ≤ now → Executed profile r now c.phase effect →
      r' = r.proceed i c now effect → K r' { c with phase := effect.phase }) :
    ∀ c ∈ r'.calls, K r' c := by
  rcases step_eq_some.mp hstep with ⟨call, -, rfl⟩ | ⟨i, first, now, c, effect, -, hclock, hc,
    hexecute, rfl⟩ | ⟨s, -, rfl⟩
  · intro c hc
    rcases List.mem_append.mp hc with hold | hnew
    · exact hkeep c (h c hold)
    · rw [List.mem_singleton] at hnew
      subst hnew
      exact hbegin _ (entry_plain call) rfl
  · apply TaskPool.forall_mem_set
    · intro c' hc'
      exact hkeep c' (h c' hc')
    · exact hown i now c effect (List.mem_of_getElem? hc) (hclock.1.trans hclock.2)
        (execute_executed hexecute) rfl
  · intro c hc
    exact hkeep c (h c hc)

end Sections

end SchedulerTasks
end Scheduler
end EchoSync
