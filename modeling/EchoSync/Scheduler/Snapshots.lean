import EchoSync.Scheduler.QueueAccounting

/-!
# Playback Scheduler - Snapshots of the counters

A snapshot reads the number of queued packets under one lock and the counters under
another.  It sees the queue of one moment next to the counters of a later one, and both
lag behind the calls between their own sections.

Main results:

- Theorem {lit}`run_watching`: in every run, a snapshot reads off two moments of the log.
- Theorem {lit}`snapshot_consistent_of_undisturbed`: a snapshot has no more played and queued
  packets than scheduled ones if it falls into no insertion and no release into it.
- Theorem {lit}`snapshot_consistent_iff`: it has so exactly when the packets that it sees too
  early or counts twice are no more than those that it counts late or sees gone.
-/

namespace EchoSync
namespace Scheduler

open TransitionSystem

/-- No more packets are played or queued than were scheduled. -/
def SchedulerStatistics.Consistent (s : SchedulerStatistics) : Prop :=
  s.packetsPlayed + s.queueOccupancy ≤ s.packetsScheduled

instance (s : SchedulerStatistics) : Decidable s.Consistent :=
  inferInstanceAs (Decidable (_ ≤ _))

/-- The snapshot that a call has answered. -/
def SchedulerTask.observation (c : SchedulerTask) : Option Observation :=
  match c.phase with
  | .returned (.statistics o) => some o
  | _ => none

theorem SchedulerTask.phase_of_observation {c : SchedulerTask} {o : Observation}
    (h : c.observation = some o) : c.phase = .returned (.statistics o) := by
  unfold SchedulerTask.observation at h
  split at h
  · rename_i hphase
    cases h
    exact hphase
  · contradiction

namespace SchedulerTasks

/-! ## The log at the first reading -/

/-- The packets that have entered the queue and are not counted as scheduled. -/
def insertedUncounted (log : List LogEvent) : Nat :=
  (inserted log).length - log.countP LogEvent.isCounted

/-- The packets that have left the queue and are not counted as played. -/
def removedUnplayed (log : List LogEvent) : Nat :=
  (removed log).length - log.countP LogEvent.isPlayed

/-- What a log says about a number of queued packets. -/
structure QueueReading (log : List LogEvent) (occupancy : Nat) : Prop where
  occupied : (inserted log).length = (removed log).length + occupancy
  counted : log.countP LogEvent.isCounted ≤ (inserted log).length
  played : log.countP LogEvent.isPlayed ≤ (removed log).length

/-- The number of queued packets is the one that the log says. -/
theorem Accounts.queueReading {r : SchedulerTasks} (h : r.Accounts) :
    QueueReading r.log r.scheduler.queue.size where
  occupied := by
    have hsizes := congrArg Multiset.card h.conserved
    rwa [Multiset.card_add, Multiset.coe_card, Multiset.coe_card, Multiset.coe_card] at hsizes
  counted := by
    rw [h.uncounted]
    exact Nat.le_add_right _ _
  played := by
    rw [h.unplayed, Nat.add_assoc, Nat.add_assoc, Nat.add_assoc]
    exact Nat.le_add_right _ _

/-! ## Snapshots in flight -/

/-- What a snapshot knows in the phase it is in. -/
def Watches (r : SchedulerTasks) (c : SchedulerTask) : Prop :=
  match c.phase with
  | .readCounters occupancy before => before <+: r.log ∧ QueueReading before occupancy
  | .returned (.statistics o) =>
      QueueReading o.before o.statistics.queueOccupancy ∧
        o.statistics.packetsScheduled = (o.before ++ o.between).countP LogEvent.isCounted ∧
        o.statistics.packetsPlayed = (o.before ++ o.between).countP LogEvent.isPlayed
  | _ => True

section Steps

variable {profile : BuildProfile} {r r' : SchedulerTasks} {i : Nat} {c : SchedulerTask}
  {second : Instant} {effect : SectionEffect}

theorem watches_of_plain (h : c.phase.Plain) : Watches r c := by
  rcases c with ⟨phase, restarts⟩
  cases phase with
  | readCounters occupancy before => exact h.elim
  | returned answer =>
      cases answer with
      | statistics o => exact h.elim
      | _ => exact trivial
  | _ => exact trivial

/-- What a snapshot knows stays true while the log grows. -/
theorem Watches.later (h : Watches r c) (hlog : r.log <+: r'.log) : Watches r' c := by
  rcases c with ⟨phase, restarts⟩
  cases phase with
  | readCounters occupancy before => exact ⟨h.1.trans hlog, h.2⟩
  | returned answer =>
      cases answer with
      | statistics o => exact h
      | _ => exact trivial
  | _ => exact trivial

/-- What a snapshot knows after its own section. -/
theorem proceed_watches (haccounts : r.Accounts) (h : Watches r c)
    (hexec : Executed profile r second c.phase effect) :
    Watches (r.proceed i c second effect) { c with phase := effect.phase } := by
  rcases c with ⟨phase, restarts⟩
  cases hexec with
  | plain hphase hplain hs => exact watches_of_plain hplain
  | readOccupancy => exact ⟨List.prefix_append _ _, haccounts.queueReading⟩
  | readCounters occupancy before =>
      rcases h with ⟨⟨between, hbetween⟩, hreading⟩
      have hdrop : r.log.drop before.length = between := by
        rw [← hbetween, List.drop_left]
      refine ⟨hreading, ?_, ?_⟩
      · rw [hdrop, hbetween]
        exact haccounts.scheduled
      · rw [hdrop, hbetween]
        exact haccounts.played
  | _ => exact trivial

/-- Every step leaves the log a part of the later one. -/
theorem step_log {action : Action} (hstep : step profile r action = some r') :
    r.log <+: r'.log := by
  rcases step_eq_some.mp hstep with ⟨call, -, rfl⟩ | ⟨i, first, now, c, effect, -, -, -, -,
    rfl⟩ | ⟨s, -, rfl⟩
  · exact List.prefix_refl _
  · exact List.prefix_append _ _
  · exact List.prefix_refl _

/-- A step keeps what all snapshots know. -/
theorem step_watches {action : Action} (haccounts : r.Accounts) (h : ∀ c ∈ r.calls, Watches r c)
    (hstep : step profile r action = some r') : ∀ c ∈ r'.calls, Watches r' c := by
  apply step_forall_calls Watches h hstep
  · exact fun c hplain _ => watches_of_plain hplain
  · exact fun c hc => hc.later (step_log hstep)
  · rintro i now c effect hc - hexec rfl
    exact proceed_watches haccounts (h c hc) hexec

end Steps

section Runs

variable {profile : BuildProfile} {config : SchedulerConfig} {synchronizer : Sync.Synchronizer}
  {created : Instant} {s : PlaybackScheduler} {actions : List Action} {r : SchedulerTasks}

/-- In every run, what the snapshots know holds. -/
theorem run_watching (hnew : PlaybackScheduler.new config synchronizer created = .ok s)
    (hrun : run (step profile) (initial s created) actions = some r) :
    ∀ c ∈ r.calls, Watches r c := by
  rcases PlaybackScheduler.new_eq_ok_iff.mp hnew with ⟨-, rfl⟩
  have hkept : r.Accounts ∧ ∀ c ∈ r.calls, Watches r c := by
    refine run_invariant (fun r => r.Accounts ∧ ∀ c ∈ r.calls, Watches r c) ?_
      ⟨initial_accounts config synchronizer created, by simp [initial]⟩ hrun
    rintro r action r' ⟨haccounts, hwatches⟩ hstep
    exact ⟨step_accounts haccounts hstep, step_watches haccounts hwatches hstep⟩
  exact hkept.2

/-- In every run, the numbers of a snapshot are those of the log when it read the queue and of
the log when it read the counters. -/
theorem run_observation (hnew : PlaybackScheduler.new config synchronizer created = .ok s)
    (hrun : run (step profile) (initial s created) actions = some r) {c : SchedulerTask}
    (hc : c ∈ r.calls) {o : Observation} (hobserved : c.observation = some o) :
    QueueReading o.before o.statistics.queueOccupancy ∧
      o.statistics.packetsScheduled =
        o.before.countP LogEvent.isCounted + o.between.countP LogEvent.isCounted ∧
      o.statistics.packetsPlayed =
        o.before.countP LogEvent.isPlayed + o.between.countP LogEvent.isPlayed := by
  have hwatches := run_watching hnew hrun c hc
  unfold Watches at hwatches
  rw [SchedulerTask.phase_of_observation hobserved] at hwatches
  rcases hwatches with ⟨hreading, hscheduled, hplayed⟩
  rw [List.countP_append] at hscheduled hplayed
  exact ⟨hreading, hscheduled, hplayed⟩

/-- In every run, a snapshot has no more played and queued packets than scheduled ones if no
packet is between its insertion and its count when the snapshot reads the queue, and no
release is counted from there until it reads the counters. -/
theorem snapshot_consistent_of_undisturbed
    (hnew : PlaybackScheduler.new config synchronizer created = .ok s)
    (hrun : run (step profile) (initial s created) actions = some r) {c : SchedulerTask}
    (hc : c ∈ r.calls) {o : Observation} (hobserved : c.observation = some o)
    (hcounted : insertedUncounted o.before = 0)
    (hreleased : ∀ event ∈ o.between, event.isPlayed = false) : o.statistics.Consistent := by
  rcases run_observation hnew hrun hc hobserved with ⟨hreading, hscheduled, hplayed⟩
  have hoccupied := hreading.occupied
  have hbefore := hreading.played
  have hnone : o.between.countP LogEvent.isPlayed = 0 := by
    rw [List.countP_eq_zero]
    intro event hevent
    rw [hreleased event hevent]
    exact Bool.false_ne_true
  unfold insertedUncounted at hcounted
  unfold SchedulerStatistics.Consistent
  omega

/-- In every run of any number of calls, a snapshot has no more played and queued packets
than scheduled ones exactly when the packets inserted and not counted when it reads the
queue, and the ones counted as played from there until it reads the counters, are together
no more than the packets counted as scheduled in between and the ones that had left the
queue and were not counted as played when it read the queue. -/
theorem snapshot_consistent_iff (hnew : PlaybackScheduler.new config synchronizer created = .ok s)
    (hrun : run (step profile) (initial s created) actions = some r) {c : SchedulerTask}
    (hc : c ∈ r.calls) {o : Observation} (hobserved : c.observation = some o) :
    o.statistics.Consistent ↔
      insertedUncounted o.before + o.between.countP LogEvent.isPlayed ≤
        o.between.countP LogEvent.isCounted + removedUnplayed o.before := by
  rcases run_observation hnew hrun hc hobserved with ⟨hreading, hscheduled, hplayed⟩
  have hoccupied := hreading.occupied
  have hcounted := hreading.counted
  have hreleased := hreading.played
  unfold SchedulerStatistics.Consistent insertedUncounted removedUnplayed
  omega

/-- A snapshot that is taken when the scheduling call has counted its packet. -/
theorem snapshot_consistent_iff_counted :
    ∃ r, run (step ⟨true⟩) atZero
        (scheduleOne 6 ++ [.invoke .statistics] ++ sections 2 2 (Instant.ofMillis 0)) = some r ∧
      ∃ c ∈ r.calls, ∃ o, c.observation = some o ∧ o.statistics.Consistent := by
  have hrun : (run (step ⟨true⟩) atZero (scheduleOne 6 ++ [.invoke .statistics] ++
      sections 2 2 (Instant.ofMillis 0))).any (fun r => decide (∃ c ∈ r.calls,
        (c.observation.any fun o => decide (insertedUncounted o.before +
          o.between.countP LogEvent.isPlayed ≤ o.between.countP LogEvent.isCounted +
            removedUnplayed o.before)) = true)) = true := by
    decide +kernel
  rcases exists_of_any hrun with ⟨r, hr, c, hc, hany⟩
  rcases (Option.any_eq_true _ _).mp hany with ⟨o, ho, hle⟩
  exact ⟨r, hr, c, hc, o, ho,
    (snapshot_consistent_iff atZero_new hr hc ho).mpr (of_decide_eq_true hle)⟩

/-- A snapshot between the insertion of a packet and its count has one packet queued and
none scheduled. -/
theorem snapshot_before_count :
    ∃ r, run (step ⟨true⟩) atZero
        (scheduleOne 5 ++ [.invoke .statistics] ++ sections 2 2 (Instant.ofMillis 0)) = some r ∧
      ∃ c ∈ r.calls, (c.observation.any fun o => decide (o.statistics.queueOccupancy = 1 ∧
        o.statistics.packetsScheduled = 0 ∧ ¬ o.statistics.Consistent)) = true := by
  refine exists_of_any ?_
  decide +kernel

end Runs

end SchedulerTasks
end Scheduler
end EchoSync
