import EchoSync.Scheduler.Expiry
import EchoSync.Scheduler.QueueAccounting

/-!
# Playback Scheduler - Refused packets

A scheduling call sets the anchor and counts a late or an early packet before the queue
accepts or refuses the packet.  So a refused packet leaves a trace, unless the timeline
had an anchor and the packet was on time.

Main results:

- Theorem {lit}`schedulePacket_traceless_iff`: exactly when a refused call leaves the
  counters and the anchor as they were.
- Theorem {lit}`refused_without_trace`: this in every reachable state; and in every run
  whose refused packets were on time, no more packets are late or early than scheduled
  whenever no call is in flight.
-/

namespace EchoSync
namespace Scheduler

open Streaming Sync TransitionSystem

namespace PlaybackQueue

/-- The queue does not take a packet with this id: the id is queued, or the queue is at
capacity. -/
def Refuses (q : PlaybackQueue) (packetId : U64) : Prop :=
  packetId ∈ q.ids ∨ q.capacity ≤ q.ids.card

instance (q : PlaybackQueue) (packetId : U64) : Decidable (q.Refuses packetId) :=
  inferInstanceAs (Decidable (_ ∨ _))

theorem enqueue_of_refuses {q : PlaybackQueue} {item : ScheduledPacket}
    (h : q.Refuses item.packet.packetId) :
    q.enqueue item = (.error (.duplicatePacket item.packet.packetId), q) ∨
      q.enqueue item = (.error (.queueFull q.capacity), q) := by
  unfold enqueue
  split_ifs with hmem hfull
  · exact Or.inl rfl
  · exact Or.inr rfl
  · exact absurd h (not_or.mpr ⟨hmem, hfull⟩)

theorem refuses_of_error {q : PlaybackQueue} {item : ScheduledPacket} {e : SchedulerError}
    (h : (q.enqueue item).1 = .error e) : q.Refuses item.packet.packetId := by
  unfold enqueue at h
  split_ifs at h with hmem hfull
  · exact Or.inl hmem
  · exact Or.inr hfull

end PlaybackQueue

namespace PlaybackScheduler

/-! ## One call -/

/-- The answers of a call whose packet the queue refuses. -/
def Refused (outcome : Outcome SchedulerError Unit) : Prop :=
  (∃ packetId, outcome = .err (.duplicatePacket packetId)) ∨
    ∃ capacity, outcome = .err (.queueFull capacity)

/-- If the queue refuses a packet that is not dropped as expired, then the timeline already
has an anchor and the packet is on time. -/
def RefusedOnTime (profile : BuildProfile) (s : PlaybackScheduler) (packet : AudioPacket)
    (first second : Instant) : Prop :=
  s.queue.Refuses packet.packetId → ∀ deadline now,
    (s.assignDeadline (adjustedTimestampMs packet s.synchronizer.currentOffset)
      first second).1 = .ok (deadline, now) →
    ∀ diffMs lateness, classify profile s.config deadline now = some (diffMs, lateness) →
      (∃ lateByMs, lateness = .expired lateByMs) ∨
        s.timeline.anchor.isSome ∧ lateness = .onTime

/-- The lateness of a packet that is not expired changes the counters unless it is on
time. -/
theorem recordLateness_stats_iff {s : PlaybackScheduler} {lateness : Lateness} :
    (s.recordLateness lateness).stats = s.stats ↔ lateness = .onTime := by
  cases lateness with
  | onTime => exact iff_of_true rfl rfl
  | expired lateByMs =>
      have hne : s.stats.recordDropped ≠ s.stats := by
        intro h
        exact absurd (congrArg StatisticsTracker.packetsDropped h) (Nat.succ_ne_self _)
      simpa [recordLateness] using hne
  | late lateByMs =>
      have hne : s.stats.recordLate ≠ s.stats := by
        intro h
        exact absurd (congrArg StatisticsTracker.latePackets h) (Nat.succ_ne_self _)
      simpa [recordLateness] using hne
  | early =>
      have hne : s.stats.recordEarly ≠ s.stats := by
        intro h
        exact absurd (congrArg StatisticsTracker.earlyPackets h) (Nat.succ_ne_self _)
      simpa [recordLateness] using hne

/-- A refused packet leaves the state as it was before it was offered. -/
theorem accept_of_refuses {s : PlaybackScheduler} {item : ScheduledPacket} {delayMs : ℚ}
    (h : s.queue.Refuses item.packet.packetId) :
    Refused (s.accept item delayMs).1 ∧ (s.accept item delayMs).2 = s := by
  unfold accept enqueueItem
  rcases PlaybackQueue.enqueue_of_refuses h with hdup | hfull
  · rw [hdup]
    exact ⟨Or.inl ⟨_, rfl⟩, rfl⟩
  · rw [hfull]
    exact ⟨Or.inr ⟨_, rfl⟩, rfl⟩

/-- A call is answered like this only if the queue refuses the packet. -/
theorem refuses_of_accept {s : PlaybackScheduler} {item : ScheduledPacket} {delayMs : ℚ}
    (h : Refused (s.accept item delayMs).1) : s.queue.Refuses item.packet.packetId := by
  unfold accept enqueueItem at h
  dsimp only at h
  cases hresult : (s.queue.enqueue item).1 with
  | error e => exact PlaybackQueue.refuses_of_error hresult
  | ok _ =>
      rw [hresult] at h
      simp [Refused] at h

/-- A call that assigns a deadline sets an anchor, and keeps the one it finds. -/
theorem assignDeadline_anchor_iff {s : PlaybackScheduler} {adjusted : U64}
    {first second : Instant} {times : Duration × Duration}
    (hassign : (s.assignDeadline adjusted first second).1 = .ok times) :
    (s.assignDeadline adjusted first second).2.timeline.anchor = s.timeline.anchor ↔
      s.timeline.anchor.isSome := by
  rcases assignDeadline_cases s adjusted first second with ⟨-, -, ⟨hnone, -⟩ | ⟨deadline, now,
    -, -, -, hdeadline⟩⟩
  · exact absurd hassign (hnone times)
  · rcases PlaybackTimeline.calculateDeadline_spec hdeadline with ⟨current, -, htimeline, -⟩
    rw [htimeline]
    cases s.timeline.anchor <;> simp

section Submission

variable {profile : BuildProfile} {s : PlaybackScheduler} {packet : AudioPacket}
  {deadline now : Duration} {diffMs : Int} {lateness : Lateness}

/-- A packet that is not dropped as expired is offered to the queue. -/
theorem submit_of_kept
    (hclassify : classify profile s.config deadline now = some (diffMs, lateness))
    (hkept : ∀ lateByMs, lateness ≠ .expired lateByMs) :
    s.submit profile packet deadline now =
      (s.recordLateness lateness).accept { packet, deadline, scheduledAt := now }
        (diffMs.natAbs : ℚ) := by
  unfold submit
  rw [hclassify]
  cases lateness with
  | expired lateByMs => exact absurd rfl (hkept lateByMs)
  | _ => rfl

/-- A call is refused exactly if its packet is kept and the queue refuses it. -/
theorem submit_refused_iff :
    Refused (s.submit profile packet deadline now).1 ↔ s.queue.Refuses packet.packetId ∧
      ∃ diffMs lateness, classify profile s.config deadline now = some (diffMs, lateness) ∧
        ∀ lateByMs, lateness ≠ .expired lateByMs := by
  constructor
  · intro hrefused
    cases hclassify : classify profile s.config deadline now with
    | none => simp [submit, hclassify, Refused] at hrefused
    | some classified =>
        rcases classified with ⟨diffMs, lateness⟩
        have hkept : ∀ lateByMs, lateness ≠ .expired lateByMs := by
          rintro lateByMs rfl
          simp [submit, hclassify, Refused] at hrefused
        rw [submit_of_kept hclassify hkept] at hrefused
        have hrefuses := refuses_of_accept hrefused
        rw [(recordLateness_frame s lateness).2.2] at hrefuses
        exact ⟨hrefuses, diffMs, lateness, rfl, hkept⟩
  · rintro ⟨hrefuses, diffMs, lateness, hclassify, hkept⟩
    rw [submit_of_kept hclassify hkept]
    rw [← (recordLateness_frame s lateness).2.2] at hrefuses
    exact (accept_of_refuses hrefuses).1

/-- A refused call leaves the counters as they were exactly if the packet is on time. -/
theorem submit_stats_iff (hrefuses : s.queue.Refuses packet.packetId)
    (hclassify : classify profile s.config deadline now = some (diffMs, lateness))
    (hkept : ∀ lateByMs, lateness ≠ .expired lateByMs) :
    (s.submit profile packet deadline now).2.stats = s.stats ↔ lateness = .onTime := by
  rw [← (recordLateness_frame s lateness).2.2] at hrefuses
  rw [submit_of_kept hclassify hkept, (accept_of_refuses hrefuses).2]
  exact recordLateness_stats_iff

end Submission

theorem assignDeadline_not_refused {s : PlaybackScheduler} {adjusted : U64}
    {first second : Instant} {e : SchedulerError}
    (h : (s.assignDeadline adjusted first second).1 = .err e) : ¬ Refused (.err e) := by
  have herror : e = timelinePoisonedError := by
    unfold assignDeadline at h
    split_ifs at h
    · exact (Outcome.err.inj h).symm
    · split at h
      · cases h
      · split at h <;> cases h
  rw [herror]
  simp [Refused, timelinePoisonedError]

/-- A refused call leaves the counters and the anchor as they were exactly if the packet is on
time and the timeline had an anchor. -/
theorem schedulePacket_traceless_iff {profile : BuildProfile} {s : PlaybackScheduler}
    (hrunning : s.running = true) (packet : AudioPacket) (first second : Instant) :
    (Refused (s.schedulePacket profile packet first second).1 →
        (s.schedulePacket profile packet first second).2.stats = s.stats ∧
          (s.schedulePacket profile packet first second).2.timeline.anchor =
            s.timeline.anchor) ↔
      RefusedOnTime profile s packet first second := by
  unfold schedulePacket RefusedOnTime
  rw [if_pos hrunning]
  dsimp only
  generalize hadjusted : adjustedTimestampMs packet s.synchronizer.currentOffset = adjusted
  cases hassign : (s.assignDeadline adjusted first second).1 with
  | err e =>
      have hnot := assignDeadline_not_refused hassign
      simp [hnot]
  | panicked => simp [Refused]
  | ok times =>
      rcases times with ⟨deadline, now⟩
      rcases assignDeadline_cases s adjusted first second with ⟨hsession, hqueue, -⟩
      rcases submit_effect profile (s.assignDeadline adjusted first second).2 packet deadline now
        with ⟨-, htimeline, -⟩
      have hanchor := assignDeadline_anchor_iff hassign
      rw [← htimeline.timeline] at hanchor
      dsimp only
      rw [submit_refused_iff, hqueue, hsession.config, hanchor,
        ← assignDeadline_stats s adjusted first second]
      constructor
      · intro h hrefuses deadline' now' htimes diffMs lateness hclassify
        cases htimes
        by_cases hexpired : ∃ lateByMs, lateness = .expired lateByMs
        · exact Or.inl hexpired
        · have hkept : ∀ lateByMs, lateness ≠ .expired lateByMs :=
            fun lateByMs heq => hexpired ⟨lateByMs, heq⟩
          rcases h ⟨hrefuses, diffMs, lateness, hclassify, hkept⟩ with ⟨hstats, hsome⟩
          rw [← hqueue] at hrefuses
          rw [← hsession.config] at hclassify
          exact Or.inr ⟨hsome, (submit_stats_iff hrefuses hclassify hkept).mp hstats⟩
      · rintro h ⟨hrefuses, diffMs, lateness, hclassify, hkept⟩
        rcases h hrefuses deadline now rfl diffMs lateness hclassify with ⟨lateByMs, heq⟩ |
          ⟨hsome, hontime⟩
        · exact absurd heq (hkept lateByMs)
        · rw [← hqueue] at hrefuses
          rw [← hsession.config] at hclassify
          exact ⟨(submit_stats_iff hrefuses hclassify hkept).mpr hontime, hsome⟩

end PlaybackScheduler

/-! ## Runs -/

namespace SchedulerPhase

/-- Whether a call has counted its packet as late or early and not as scheduled yet. -/
def owesCount (config : SchedulerConfig) : SchedulerPhase → Bool
  | .scheduleEnqueue _ diffMs => decide (latenessAt config diffMs ≠ .onTime)
  | .scheduleCount diffMs => decide (latenessAt config diffMs ≠ .onTime)
  | _ => false

theorem owesCount_of_finished {config : SchedulerConfig} (phase : SchedulerPhase)
    (h : phase.finished = true) : phase.owesCount config = false := by
  cases phase <;> first | rfl | contradiction

end SchedulerPhase

namespace SchedulerTasks

/-- The distance of the packet that a step offers to the queue and the queue refuses. -/
def refusedDiffMs (r : SchedulerTasks) : Action → Option Int
  | .call i _ _ =>
      match r.calls[i]? with
      | some ⟨.scheduleEnqueue item diffMs, _⟩ =>
          if r.scheduler.queue.Refuses item.packet.packetId then some diffMs else none
      | _ => none
  | _ => none

/-- A packet that the queue refuses in this step is on time. -/
def RefusesOnTime (r : SchedulerTasks) (action : Action) : Prop :=
  ∀ diffMs ∈ r.refusedDiffMs action, latenessAt r.scheduler.config diffMs = .onTime

instance (r : SchedulerTasks) (action : Action) : Decidable (r.RefusesOnTime action) :=
  inferInstanceAs (Decidable (∀ diffMs ∈ r.refusedDiffMs action, _ = _))

/-- Two states agree on the configuration and on the counters of the scheduled, the late and
the early packets. -/
structure SameCounts (s s' : PlaybackScheduler) : Prop where
  config : s'.config = s.config
  scheduled : s'.stats.packetsScheduled = s.stats.packetsScheduled
  late : s'.stats.latePackets = s.stats.latePackets
  early : s'.stats.earlyPackets = s.stats.earlyPackets

/-- What a section adds to the counters of the late and the early packets, with what its call
owes before it, is covered by what it adds to the scheduled ones and what its call owes after
it. -/
structure Covers (r : SchedulerTasks) (phase : SchedulerPhase) (effect : SectionEffect) :
    Prop where
  config : effect.scheduler.config = r.scheduler.config
  covered : effect.scheduler.stats.latePackets + effect.scheduler.stats.earlyPackets +
      r.scheduler.stats.packetsScheduled + (phase.owesCount r.scheduler.config).toNat ≤
    r.scheduler.stats.latePackets + r.scheduler.stats.earlyPackets +
      effect.scheduler.stats.packetsScheduled +
      (effect.phase.owesCount r.scheduler.config).toNat

/-- A section that leaves the counters and whose call owes nothing is covered. -/
theorem Covers.of_same {r : SchedulerTasks} {phase : SchedulerPhase} {effect : SectionEffect}
    (h : SameCounts r.scheduler effect.scheduler)
    (hphase : phase.owesCount r.scheduler.config = false) : r.Covers phase effect := by
  refine ⟨h.config, ?_⟩
  rw [h.scheduled, h.late, h.early, hphase]
  exact Nat.le_add_right _ _

/-! ### Every section is covered -/

theorem SameCounts.refl (s : PlaybackScheduler) : SameCounts s s :=
  ⟨rfl, rfl, rfl, rfl⟩

theorem resetTimeline_counts (s : PlaybackScheduler) (now : Instant) :
    SameCounts s (s.resetTimeline now).2 := by
  unfold PlaybackScheduler.resetTimeline
  split_ifs <;> exact ⟨rfl, rfl, rfl, rfl⟩

theorem stop_counts (s : PlaybackScheduler) : SameCounts s s.stop.2 := by
  unfold PlaybackScheduler.stop
  split_ifs <;> exact ⟨rfl, rfl, rfl, rfl⟩

theorem assignDeadline_counts (s : PlaybackScheduler) (adjusted : U64) (first second : Instant) :
    SameCounts s (s.assignDeadline adjusted first second).2 := by
  have hstats := PlaybackScheduler.assignDeadline_stats s adjusted first second
  rcases PlaybackScheduler.assignDeadline_cases s adjusted first second with ⟨hsession, -⟩
  exact ⟨hsession.config, by rw [hstats], by rw [hstats], by rw [hstats]⟩

theorem readTime_counts (s : PlaybackScheduler) (now : Instant) :
    SameCounts s (s.readTime now).2 := by
  unfold PlaybackScheduler.readTime
  split_ifs
  · exact SameCounts.refl s
  · split <;> exact ⟨rfl, rfl, rfl, rfl⟩

theorem takeDue_counts (s : PlaybackScheduler) (now : Duration) :
    SameCounts s (s.takeDue now).2 := by
  unfold PlaybackScheduler.takeDue
  split
  · split_ifs <;> exact ⟨rfl, rfl, rfl, rfl⟩
  · exact SameCounts.refl s

theorem recordPlayed_counts (profile : BuildProfile) (s : PlaybackScheduler)
    (item : ScheduledPacket) (now : Duration) :
    SameCounts s (s.recordPlayed profile item now).2 := by
  unfold PlaybackScheduler.recordPlayed
  split <;> exact ⟨rfl, rfl, rfl, rfl⟩

section Sections

variable {profile : BuildProfile} {r r' : SchedulerTasks} {phase : SchedulerPhase}
  {first second : Instant} {effect : SectionEffect}

/-- A packet is counted as late or early exactly if its call owes that count to the
scheduled packets. -/
theorem scheduleClassify_covers {packet : AudioPacket} {deadline now : Duration}
    (h : r.execute profile (.scheduleClassify packet deadline now) first second = some effect) :
    r.Covers (.scheduleClassify packet deadline now) effect := by
  simp only [execute] at h
  rw [classify_eq] at h
  split_ifs at h with hruns
  · generalize wrappedDistanceMs deadline now = diffMs at h
    cases hlateness : latenessAt r.scheduler.config diffMs with
    | expired lateByMs =>
        rw [hlateness] at h
        cases h
        exact .of_same ⟨rfl, rfl, rfl, rfl⟩ rfl
    | late lateByMs =>
        rw [hlateness] at h
        cases h
        refine ⟨rfl, ?_⟩
        simp [PlaybackScheduler.recordLateness, StatisticsTracker.recordLate,
          SchedulerPhase.owesCount, hlateness]
        omega
    | early =>
        rw [hlateness] at h
        cases h
        refine ⟨rfl, ?_⟩
        simp [PlaybackScheduler.recordLateness, StatisticsTracker.recordEarly,
          SchedulerPhase.owesCount, hlateness]
        omega
    | onTime =>
        rw [hlateness] at h
        cases h
        exact .of_same (SameCounts.refl _) rfl
  · cases h
    exact .of_same (SameCounts.refl _) rfl

/-- A packet that the queue accepts is still owed, and one that it refuses was on time. -/
theorem scheduleEnqueue_covers {item : ScheduledPacket} {diffMs : Int}
    (h : r.execute profile (.scheduleEnqueue item diffMs) first second = some effect)
    (hontime : r.scheduler.queue.Refuses item.packet.packetId →
      latenessAt r.scheduler.config diffMs = .onTime) :
    r.Covers (.scheduleEnqueue item diffMs) effect := by
  simp only [execute, PlaybackScheduler.enqueueItem] at h
  cases hresult : (r.scheduler.queue.enqueue item).1 with
  | error e =>
      rw [hresult] at h
      cases h
      have howes : SchedulerPhase.owesCount r.scheduler.config (.scheduleEnqueue item diffMs) =
          false := by
        simp [SchedulerPhase.owesCount, hontime (PlaybackQueue.refuses_of_error hresult)]
      exact .of_same ⟨rfl, rfl, rfl, rfl⟩ howes
  | ok _ =>
      rw [hresult] at h
      cases h
      exact ⟨rfl, le_rfl⟩

/-- Every section of a call is covered, if a packet that the queue refuses in it is on
time. -/
theorem execute_covers (h : r.execute profile phase first second = some effect)
    (hontime : ∀ item diffMs, phase = .scheduleEnqueue item diffMs →
      r.scheduler.queue.Refuses item.packet.packetId →
      latenessAt r.scheduler.config diffMs = .onTime) : r.Covers phase effect := by
  cases phase with
  | startFlag =>
      simp only [execute] at h
      split_ifs at h
      all_goals
        cases h
        exact .of_same ⟨rfl, rfl, rfl, rfl⟩ rfl
  | startReset =>
      cases h
      exact .of_same (resetTimeline_counts _ _) rfl
  | stopFlag =>
      cases h
      exact .of_same (stop_counts _) rfl
  | scheduleCheck packet =>
      simp only [execute] at h
      split_ifs at h
      all_goals
        cases h
        exact .of_same (SameCounts.refl _) rfl
  | scheduleOffset packet =>
      cases h
      exact .of_same (SameCounts.refl _) rfl
  | scheduleDeadline packet adjusted =>
      have hcounts := assignDeadline_counts r.scheduler adjusted first second
      simp only [execute] at h
      split at h
      all_goals
        cases h
        exact .of_same hcounts rfl
  | scheduleClassify packet deadline now => exact scheduleClassify_covers h
  | scheduleEnqueue item diffMs => exact scheduleEnqueue_covers h (hontime item diffMs rfl)
  | scheduleCount diffMs =>
      cases h
      refine ⟨rfl, ?_⟩
      have hone := Bool.toNat_le
        (SchedulerPhase.owesCount r.scheduler.config (.scheduleCount diffMs))
      simp only [PlaybackScheduler.recordScheduled, StatisticsTracker.recordScheduled]
      omega
  | nextCheck =>
      simp only [execute] at h
      split_ifs at h
      all_goals
        cases h
        exact .of_same (SameCounts.refl _) rfl
  | nextTime =>
      have hcounts := readTime_counts r.scheduler second
      simp only [execute] at h
      split at h
      all_goals
        cases h
        exact .of_same hcounts rfl
  | nextTake now =>
      have hcounts := takeDue_counts r.scheduler now
      simp only [execute] at h
      split at h
      all_goals
        cases h
        exact .of_same hcounts rfl
  | nextCount taken now =>
      have hcounts := recordPlayed_counts profile r.scheduler taken.item now
      simp only [execute] at h
      split at h
      all_goals
        cases h
        exact .of_same hcounts rfl
  | cancel packetId =>
      simp only [execute] at h
      split_ifs at h
      all_goals
        cases h
        exact .of_same ⟨rfl, rfl, rfl, rfl⟩ rfl
  | clear =>
      cases h
      exact .of_same ⟨rfl, rfl, rfl, rfl⟩ rfl
  | readOccupancy =>
      cases h
      exact .of_same (SameCounts.refl _) rfl
  | readCounters occupancy before =>
      cases h
      exact .of_same (SameCounts.refl _) rfl
  | returned answer => contradiction
  | panicked => contradiction

/-- The late and the early packets are covered by the scheduled ones and by the calls that
are about to count theirs. -/
def Covered (config : SchedulerConfig) (r : SchedulerTasks) : Prop :=
  r.scheduler.config = config ∧
    r.scheduler.stats.latePackets + r.scheduler.stats.earlyPackets ≤
      r.scheduler.stats.packetsScheduled +
        r.calls.countP fun c => c.phase.owesCount config

/-- Every step in which the queue refuses only packets on time keeps the cover. -/
theorem step_covered {config : SchedulerConfig} {action : Action} (h : r.Covered config)
    (hstep : restrict RefusesOnTime (step profile) r action = some r') : r'.Covered config := by
  rcases restrict_eq_some.mp hstep with ⟨hguard, hstep⟩
  rcases h with ⟨rfl, hcovered⟩
  rcases step_eq_some.mp hstep with ⟨call, -, rfl⟩ | ⟨i, first, second, c, effect, rfl, -, hc,
    hexecute, rfl⟩ | ⟨s, -, rfl⟩
  · refine ⟨rfl, ?_⟩
    have hentry : call.entry.owesCount r.scheduler.config = false := by
      cases call <;> rfl
    simpa [List.countP_append, hentry] using hcovered
  · have hontime : ∀ item diffMs, c.phase = .scheduleEnqueue item diffMs →
        r.scheduler.queue.Refuses item.packet.packetId →
        latenessAt r.scheduler.config diffMs = .onTime := by
      intro item diffMs hphase hrefuses
      refine hguard diffMs ?_
      rcases c with ⟨phase, restarts⟩
      cases hphase
      simp [refusedDiffMs, hc, hrefuses]
    have hcovers := execute_covers hexecute hontime
    refine ⟨hcovers.config, ?_⟩
    have hcalls := @countP_proceed r i c second effect hc
      (SchedulerPhase.owesCount r.scheduler.config)
    have hsection := hcovers.covered
    have hscheduler : (r.proceed i c second effect).scheduler = effect.scheduler := rfl
    rw [hscheduler]
    omega
  · exact ⟨rfl, hcovered⟩

end Sections

/-- A call whose packet the queue refuses leaves the counters and the anchor as they were
exactly if its packet is on time and the timeline had an anchor, in every reachable state of
a running scheduler.  In every run in which the queue refuses only packets on time, no more
packets are counted as late or early than as scheduled whenever no call is in flight. -/
theorem refused_without_trace {profile : BuildProfile} {config : SchedulerConfig}
    {synchronizer : Synchronizer} {created : Instant} {s : PlaybackScheduler}
    (hnew : PlaybackScheduler.new config synchronizer created = .ok s) :
    (∀ actions r, run (step profile) (initial s created) actions = some r →
      r.scheduler.running = true → ∀ packet first second,
        (PlaybackScheduler.Refused (r.scheduler.schedulePacket profile packet first second).1 →
          (r.scheduler.schedulePacket profile packet first second).2.stats =
              r.scheduler.stats ∧
            (r.scheduler.schedulePacket profile packet first second).2.timeline.anchor =
              r.scheduler.timeline.anchor) ↔
          r.scheduler.RefusedOnTime profile packet first second) ∧
      ∀ actions r,
        run (restrict RefusesOnTime (step profile)) (initial s created) actions = some r →
        r.AtRest → r.scheduler.stats.latePackets + r.scheduler.stats.earlyPackets ≤
          r.scheduler.stats.packetsScheduled := by
  rcases PlaybackScheduler.new_eq_ok_iff.mp hnew with ⟨-, rfl⟩
  constructor
  · intro actions r _ hrunning packet first second
    exact PlaybackScheduler.schedulePacket_traceless_iff hrunning packet first second
  · intro actions r hrun hrest
    have hcovered := run_invariant (Covered config) (fun _ _ _ h hstep => step_covered h hstep)
      ⟨rfl, Nat.zero_le _⟩ hrun
    have howed := hrest.countP_eq_zero (@SchedulerPhase.owesCount_of_finished config)
    have hle := hcovered.2
    omega

/-- A packet that is accepted on time, and the same packet again, refused on time. -/
def acceptedAndRefused : List Action :=
  scheduleOne 6 ++ [.invoke (.schedulePacket (makePacket 1 0 0))] ++
    sections 2 5 (Instant.ofMillis 0)

/-- With the refused packet on time, the counters cover it. -/
theorem refused_without_trace_on_time :
    ∃ r, run (restrict RefusesOnTime (step ⟨true⟩)) atZero acceptedAndRefused = some r ∧
      r.AtRest ∧ r.scheduler.stats.latePackets + r.scheduler.stats.earlyPackets ≤
        r.scheduler.stats.packetsScheduled := by
  have hrun : (run (restrict RefusesOnTime (step ⟨true⟩)) atZero acceptedAndRefused).any
      (fun r => decide r.AtRest) = true := by
    decide +kernel
  rcases exists_of_any hrun with ⟨r, hr, hrest⟩
  exact ⟨r, hr, hrest, (refused_without_trace atZero_new).2 _ r hr hrest⟩

/-- The same packet offered twice more with a timestamp ten seconds ahead: both are refused
and counted as early, and no call is in flight. -/
theorem refused_leaves_trace :
    ∃ r, run (step ⟨true⟩) atZero (scheduleOne 6 ++
        [.invoke (.schedulePacket (makePacket 1 0 10000))] ++ sections 2 5 (Instant.ofMillis 0) ++
        [.invoke (.schedulePacket (makePacket 1 0 10000))] ++
        sections 3 5 (Instant.ofMillis 0)) = some r ∧
      r.AtRest ∧ r.scheduler.stats.packetsScheduled = 1 ∧ r.scheduler.stats.earlyPackets = 2 ∧
      r.scheduler.running = true ∧
      let call := r.scheduler.schedulePacket ⟨true⟩ (makePacket 1 0 10000) (Instant.ofMillis 0)
        (Instant.ofMillis 0)
      call.1 = .err (.duplicatePacket 1) ∧ call.2.stats.earlyPackets = 3 := by
  refine exists_of_any ?_
  decide +kernel

end SchedulerTasks
end Scheduler
end EchoSync
