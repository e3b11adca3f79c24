import EchoSync.Scheduler.SchedulerRun

/-!
# Playback Scheduler - Deadlines across restarts

Stopping keeps the queue, and starting restarts the clock that the queued
deadlines are measured on.  The deadline of an accepted packet denotes an
absolute instant: the epoch at its acceptance plus the deadline.

Main results:

- Theorem {lit}`run_keepsDeadlines`: no packet is released before that instant,
  in any run; and until the next successful start a queued packet counts as due
  from that instant on, rounded up to the resolution.
- Theorem {lit}`restart_postpones_release`: after a restart, and under a coarse
  resolution, a packet can be past that instant and not count as due.
-/

namespace EchoSync
namespace Scheduler

open Streaming Sync TransitionSystem

/-- The nanoseconds of the timeline resolution, read in whole milliseconds and at
least one. -/
def SchedulerConfig.grainNanos (config : SchedulerConfig) : Nat :=
  max config.timelineResolution.asMillis 1 * nanosPerMilli

/-- The nanoseconds of a deadline, rounded up to the timeline resolution. -/
def SchedulerConfig.roundUpNanos (config : SchedulerConfig) (deadline : Duration) : Nat :=
  (deadline.nanos + config.grainNanos - 1) / config.grainNanos * config.grainNanos

theorem SchedulerConfig.grainNanos_pos (config : SchedulerConfig) : 0 < config.grainNanos :=
  Nat.mul_pos (lt_of_lt_of_le Nat.one_pos (le_max_right _ _)) (by decide)

theorem SchedulerConfig.le_roundUpNanos (config : SchedulerConfig) (deadline : Duration) :
    deadline.nanos ≤ config.roundUpNanos deadline := by
  have hlt := Nat.lt_div_mul_add (a := deadline.nanos + config.grainNanos - 1)
    config.grainNanos_pos
  have hpos := config.grainNanos_pos
  unfold roundUpNanos
  omega

namespace PlaybackTimeline

/-- Once a rounded-up deadline has passed, the quantized time has reached it. -/
theorem deadline_le_currentTime {t : PlaybackTimeline} {config : SchedulerConfig}
    {now : Instant} {current deadline : Duration}
    (hresolution : t.resolution = config.timelineResolution)
    (hcurrent : t.currentTime now = some current)
    (hfits : (now.elapsedSince t.startedAt).asMillis < 2 ^ 64)
    (hpassed : config.roundUpNanos deadline ≤ (now.elapsedSince t.startedAt).nanos) :
    deadline ≤ current := by
  have hround := config.le_roundUpNanos deadline
  have hvalue : ∃ k, config.roundUpNanos deadline =
      k * max t.resolution.asMillis 1 * nanosPerMilli := by
    refine ⟨(deadline.nanos + config.grainNanos - 1) / config.grainNanos, ?_⟩
    rw [SchedulerConfig.roundUpNanos, hresolution, Nat.mul_assoc]
    rfl
  rcases hvalue with ⟨k, hk⟩
  rw [hk] at hpassed hround
  have hmillis : k * max t.resolution.asMillis 1 < 2 ^ 64 :=
    lt_of_le_of_lt ((Nat.le_div_iff_mul_le (by decide)).mpr hpassed) hfits
  have hdvd : t.resolutionMs.val ∣ k * max t.resolution.asMillis 1 := by
    rcases Nat.eq_zero_or_pos k with rfl | hpos
    · simp
    · have hsmall : max t.resolution.asMillis 1 < 2 ^ 64 :=
        lt_of_le_of_lt (Nat.le_mul_of_pos_left _ hpos) hmillis
      rw [resolutionMs, U64.wrap_val_of_lt hsmall]
      exact Nat.dvd_mul_left _ _
  exact Duration.le_iff_nanos.mpr (hround.trans (le_quantize hcurrent hfits hdvd hpassed))

end PlaybackTimeline

namespace SchedulerRun

variable {profile : BuildProfile} {config : SchedulerConfig} {synchronizer : Synchronizer}
  {now : Instant} {s : PlaybackScheduler} {calls : List SchedulerCall} {r : SchedulerRun}

/-- While the timeline's lock is healthy, the resolution is the configured one. -/
theorem run_resolution (hnew : PlaybackScheduler.new config synchronizer now = .ok s)
    (hrun : run (step profile) (initial s now) calls = some r)
    (hhealthy : r.scheduler.timelinePoisoned = false) :
    r.scheduler.timeline.resolution = config.timelineResolution := by
  rcases PlaybackScheduler.new_eq_ok_iff.mp hnew with ⟨hvalid, rfl⟩
  have hinit : (PlaybackTimeline.new config.timelineResolution now).resolution =
      config.timelineResolution := by
    simp [PlaybackTimeline.new, hvalid.timelineResolution_pos]
  have hkeep : ∀ r call r', (r.scheduler.timelinePoisoned = true ∨
      r.scheduler.timeline.resolution = config.timelineResolution) →
      step profile r call = some r' → (r'.scheduler.timelinePoisoned = true ∨
        r'.scheduler.timeline.resolution = config.timelineResolution) := by
    intro r call r' hr hstep
    rcases step_eq_some.mp hstep with ⟨-, rfl⟩
    exact effect_resolution (perform_effect profile (r.advance call) call) hr
  rcases TransitionSystem.run_invariant _ hkeep (Or.inr hinit) hrun with hpoison | hresolution
  · rw [hhealthy] at hpoison
    contradiction
  · exact hresolution

/-- A packet of the current session whose deadline has passed, rounded up to the
resolution, keeps a release call from answering nothing. -/
theorem due_in_session (hnew : PlaybackScheduler.new config synchronizer now = .ok s)
    (hrun : run (step profile) (initial s now) calls = some r) (hinv : r.Invariant)
    {item : ScheduledPacket} (hitem : item ∈ r.scheduler.queue.heap.toList) {o : Offer}
    (ho : r.acceptedAs item.packet.packetId = some o) (hdeadline : o.deadline = item.deadline)
    (hsession : o.session = r.session) {t : Instant}
    (hfits : (t.elapsedSince o.epoch).asMillis < 2 ^ 64)
    (hpassed : config.roundUpNanos o.deadline ≤ (t.elapsedSince o.epoch).nanos) :
    (r.scheduler.nextPacket profile t).1 ≠ .ok none := by
  intro hnone
  rcases PlaybackScheduler.nextPacket_cases profile r.scheduler t with
    ⟨-, hnot | ⟨taken, htaken⟩⟩
  · rcases hnot.notDue hnone with ⟨hhealthy, current, hcurrent, hlate⟩
    have hepoch := (hinv.sessions hhealthy).epoch_eq _ o ho hsession
    rw [hepoch] at hfits hpassed
    have hdue := PlaybackTimeline.deadline_le_currentTime
      (run_resolution hnew hrun hhealthy) hcurrent hfits hpassed
    exact absurd (hlate item hitem) (not_lt.mpr (hdeadline ▸ hdue))
  · rcases htaken.answer with hok | hpanic
    · rw [hok] at hnone
      cases hnone
    · rw [hpanic] at hnone
      cases hnone

/-- The deadlines kept by a state: no release was early, and as long as no start
has succeeded since its acceptance, a queued packet counts as due at every instant
from its deadline on, rounded up to the resolution, at which the elapsed
milliseconds fit in 64 bits. -/
structure KeepsDeadlines (profile : BuildProfile) (config : SchedulerConfig)
    (r : SchedulerRun) : Prop where
  released : ∀ release ∈ r.released, ∃ o, release.offer = some o ∧
    o.packet = release.packet ∧ o.dueNanos ≤ release.reading.nanos
  queued : ∀ item ∈ r.scheduler.queue.heap.toList, ∃ o,
    r.acceptedAs item.packet.packetId = some o ∧ o.packet = item.packet ∧
    o.deadline = item.deadline ∧
    (o.session = r.session → ∀ t : Instant, (t.elapsedSince o.epoch).asMillis < 2 ^ 64 →
      config.roundUpNanos o.deadline ≤ (t.elapsedSince o.epoch).nanos →
      (r.scheduler.nextPacket profile t).1 ≠ .ok none)

/-- Every run keeps the deadlines, with any number of restarts. -/
theorem run_keepsDeadlines (hnew : PlaybackScheduler.new config synchronizer now = .ok s)
    (hrun : run (step profile) (initial s now) calls = some r) :
    r.KeepsDeadlines profile config := by
  have hinit : (initial s now).Invariant := by
    rcases PlaybackScheduler.new_eq_ok_iff.mp hnew with ⟨-, rfl⟩
    exact initial_invariant config synchronizer now
  have hinv : r.Invariant := run_invariant hinit hrun
  refine ⟨hinv.inTime, ?_⟩
  intro item hitem
  rcases hinv.queued item hitem with ⟨o, ho, hpacket, hdeadline⟩
  refine ⟨o, ho, hpacket, hdeadline, ?_⟩
  intro hsession t hfits hpassed
  exact due_in_session hnew hrun hinv hitem ho hdeadline hsession hfits hpassed

/-! ## A restart -/

/-- A new scheduler over a new synchronizer with the production defaults, both
created at the zero of the clock. -/
def atZero (config : SchedulerConfig) : SchedulerRun :=
  initial
    (PlaybackScheduler.ofConfig config
      (Synchronizer.ofConfig SyncConfig.default (Instant.ofMillis 0)) (Instant.ofMillis 0))
    (Instant.ofMillis 0)

theorem atZero_new {config : SchedulerConfig} (hvalid : config.validate = .ok ()) :
    PlaybackScheduler.new config
        (Synchronizer.ofConfig SyncConfig.default (Instant.ofMillis 0)) (Instant.ofMillis 0) =
      .ok (atZero config).scheduler :=
  PlaybackScheduler.new_eq_ok_iff.mpr ⟨SchedulerConfig.validate_eq_ok_iff.mp hvalid, rfl⟩

/-- Calls that release one packet and queue another one after a restart. -/
def restartCalls : List SchedulerCall :=
  [.start (Instant.ofMillis 0),
    .schedulePacket (makePacket 7 7 0) (Instant.ofMillis 0) (Instant.ofMillis 0),
    .nextPacket (Instant.ofMillis 150), .stop, .start (Instant.ofMillis 160),
    .schedulePacket (makePacket 8 8 20) (Instant.ofMillis 170) (Instant.ofMillis 170)]

/-- The deadlines kept by such a run. -/
theorem run_keepsDeadlines_restart :
    ∃ r, run (step ⟨true⟩) (atZero .default) restartCalls = some r ∧
      (r.released.length = 1 ∧ r.scheduler.queue.size = 1) ∧
      r.KeepsDeadlines ⟨true⟩ .default := by
  have hrun : (run (step ⟨true⟩) (atZero .default) restartCalls).any
      (fun r => decide (r.released.length = 1 ∧ r.scheduler.queue.size = 1)) = true := by
    decide +kernel
  rcases exists_of_any hrun with ⟨r, hr, hsizes⟩
  have hvalid : SchedulerConfig.default.validate = .ok () := by decide
  exact ⟨r, hr, hsizes, run_keepsDeadlines (atZero_new hvalid) hr⟩

/-- Whether an accepted packet is still queued in a running scheduler at an instant
at or after the one its deadline denoted, and yet a release call answers
nothing. -/
def Overdue (profile : BuildProfile) (t : Instant) (r : SchedulerRun) : Prop :=
  r.scheduler.running = true ∧ r.clock ≤ t ∧
    (∃ o ∈ r.offers, o.accepted = true ∧ o.packet.packetId ∈ r.scheduler.queue.ids ∧
      o.dueNanos ≤ t.nanos) ∧
    (r.scheduler.nextPacket profile t).1 = .ok none

instance (profile : BuildProfile) (t : Instant) : DecidablePred (Overdue profile t) :=
  fun _ => inferInstanceAs (Decidable (_ ∧ _))

/-- A packet accepted at the epoch with a deadline of 150 milliseconds is overdue
at 200 milliseconds after a restart at 100 milliseconds, and, without a restart,
at 155 milliseconds if the timeline is read in steps of 20 milliseconds. -/
theorem restart_postpones_release :
    (∃ r, run (step ⟨true⟩) (atZero .default)
        [.start (Instant.ofMillis 0),
          .schedulePacket (makePacket 1 0 0) (Instant.ofMillis 0) (Instant.ofMillis 0),
          .stop, .start (Instant.ofMillis 100)] = some r ∧
      Overdue ⟨true⟩ (Instant.ofMillis 200) r) ∧
    ∃ r, run (step ⟨true⟩)
        (atZero { SchedulerConfig.default with timelineResolution := Duration.fromMillis 20 })
        [.start (Instant.ofMillis 0),
          .schedulePacket (makePacket 1 0 0) (Instant.ofMillis 0) (Instant.ofMillis 0)] =
        some r ∧
      Overdue ⟨true⟩ (Instant.ofMillis 155) r := by
  constructor
  · refine exists_of_any ?_
    decide +kernel
  · refine exists_of_any ?_
    decide +kernel

end SchedulerRun
end Scheduler
end EchoSync
