import EchoSync.Sync.Config
import EchoSync.Sync.DriftEstimator

/-!
# Clock Synchronization Engine - The clock manager

The single-threaded core of the Clock Synchronization Engine: the local clock,
the applied host-clock offset and the target it is moved towards, the drift
estimate and the counters.  Offsets are in milliseconds, and the host clock is
the local clock plus the applied offset.  The f64 values of this module are read
as exact rationals: where the rounding of a shifted timestamp matters, the
scheduler rounds it itself and its runs take any offset as the applied one.

Main results:

- Theorem {lit}`ClockManager.abs_correctionStep_le`: one correction moves the
  applied offset by at most the configured step.
- Theorem {lit}`ClockManager.applyOffset_err`: a rejected offset changes
  nothing.
-/

namespace EchoSync
namespace Sync

/-- The mutable synchronization counters. -/
structure StatisticsTracker where
  currentOffsetMs : ℚ
  offsetSumMs : ℚ
  offsetSampleCount : Nat
  maxOffsetMs : ℚ
  currentDriftPpm : ℚ
  driftSumPpm : ℚ
  driftSampleCount : Nat
  syncAccuracyMs : ℚ
  correctionCount : Nat
  resyncCount : Nat
  successfulSyncs : Nat
  failedSyncs : Nat
deriving DecidableEq

namespace StatisticsTracker

/-- All counters at zero. -/
def new : StatisticsTracker where
  currentOffsetMs := 0
  offsetSumMs := 0
  offsetSampleCount := 0
  maxOffsetMs := 0
  currentDriftPpm := 0
  driftSumPpm := 0
  driftSampleCount := 0
  syncAccuracyMs := 0
  correctionCount := 0
  resyncCount := 0
  successfulSyncs := 0
  failedSyncs := 0

/-- Count a newly applied offset. -/
def recordOffset (t : StatisticsTracker) (offsetMs : ℚ) : StatisticsTracker :=
  { t with
    currentOffsetMs := offsetMs
    offsetSumMs := t.offsetSumMs + offsetMs
    offsetSampleCount := t.offsetSampleCount + 1
    maxOffsetMs := if |offsetMs| > t.maxOffsetMs then |offsetMs| else t.maxOffsetMs }

/-- Count a new drift estimate. -/
def recordDrift (t : StatisticsTracker) (driftPpm : ℚ) : StatisticsTracker :=
  { t with
    currentDriftPpm := driftPpm
    driftSumPpm := t.driftSumPpm + driftPpm
    driftSampleCount := t.driftSampleCount + 1 }

/-- Remember the distance between the applied offset and the target. -/
def recordAccuracy (t : StatisticsTracker) (accuracyMs : ℚ) : StatisticsTracker :=
  { t with syncAccuracyMs := accuracyMs }

/-- Count a correction step. -/
def recordCorrection (t : StatisticsTracker) : StatisticsTracker :=
  { t with correctionCount := t.correctionCount + 1 }

/-- Count a transition from synchronized to unsynchronized. -/
def recordResync (t : StatisticsTracker) : StatisticsTracker :=
  { t with resyncCount := t.resyncCount + 1 }

/-- Count a completed pass. -/
def recordSuccess (t : StatisticsTracker) : StatisticsTracker :=
  { t with successfulSyncs := t.successfulSyncs + 1 }

/-- Count a failed pass. -/
def recordFailure (t : StatisticsTracker) : StatisticsTracker :=
  { t with failedSyncs := t.failedSyncs + 1 }

end StatisticsTracker

/-- The local clock, the applied offset and its target, and the estimates. -/
structure ClockManager where
  config : SyncConfig
  epoch : Instant
  currentOffsetMs : ℚ
  targetOffsetMs : ℚ
  currentDriftPpm : ℚ
  hasSynced : Bool
  driftEstimator : DriftEstimator
  stats : StatisticsTracker

/-- A duration in milliseconds, without the rounding of the two {lit}`f64` operations: it is
part of the reading of this module's offsets as exact rationals. -/
def durationToMillis (d : Duration) : ℚ :=
  d.asSecsF64 * 1000

namespace ClockManager

/-- A clock whose epoch is the current reading. -/
def ofConfig (config : SyncConfig) (now : Instant) : ClockManager where
  config := config
  epoch := now
  currentOffsetMs := 0
  targetOffsetMs := 0
  currentDriftPpm := 0
  hasSynced := false
  driftEstimator := DriftEstimator.new config.driftWindowSamples
  stats := StatisticsTracker.new

/-- A clock over a configuration that passes its validation. -/
def new (config : SyncConfig) (now : Instant) : Except SyncError ClockManager :=
  match config.validate with
  | .error e => .error e
  | .ok () => .ok (ofConfig config now)

/-- The time since the epoch. -/
def localTime (c : ClockManager) (now : Instant) : Duration :=
  now.elapsedSince c.epoch

/-- The offset between two paired timestamps, unless it is out of range. -/
def calculateOffset (c : ClockManager) (hostTimestamp localTimestamp : Duration) :
    Except SyncError ℚ :=
  let offsetMs := durationToMillis hostTimestamp - durationToMillis localTimestamp
  let maxOffsetMs := durationToMillis c.config.maxAllowedOffset
  if |offsetMs| > maxOffsetMs then .error (.offsetOutOfRange offsetMs maxOffsetMs)
  else .ok offsetMs

/-- Make an offset the correction target; the first one is applied directly. -/
def applyOffset (c : ClockManager) (offsetMs : ℚ) (now : Instant) :
    Except SyncError Unit × ClockManager :=
  let maxOffsetMs := durationToMillis c.config.maxAllowedOffset
  if |offsetMs| > maxOffsetMs then (.error (.offsetOutOfRange offsetMs maxOffsetMs), c)
  else
    let currentOffsetMs := if c.hasSynced then c.currentOffsetMs else offsetMs
    (.ok (),
      { c with
        targetOffsetMs := offsetMs
        currentOffsetMs := currentOffsetMs
        hasSynced := true
        driftEstimator :=
          c.driftEstimator.recordSample (c.localTime now).asSecsF64 offsetMs
        stats := (c.stats.recordOffset offsetMs).recordAccuracy |offsetMs - currentOffsetMs| })

/-- Estimate the drift again and keep the estimate, also one out of range. -/
def estimateDrift (c : ClockManager) : Except SyncError ℚ × ClockManager :=
  let driftPpm := c.driftEstimator.estimatePpm
  let c' := { c with currentDriftPpm := driftPpm, stats := c.stats.recordDrift driftPpm }
  if |driftPpm| > c.config.maxDriftPpm then
    (.error (.driftOutOfRange driftPpm c.config.maxDriftPpm), c')
  else (.ok driftPpm, c')

/-- Whether the applied offset is within the threshold of the target. -/
def isSynchronized (c : ClockManager) : Bool :=
  c.hasSynced &&
    decide (|c.targetOffsetMs - c.currentOffsetMs| ≤ durationToMillis c.config.resyncThreshold)

/-- The signed correction for the current distance to the target. -/
def correctionStep (c : ClockManager) : ℚ :=
  let maxStepMs := durationToMillis c.config.maxCorrectionStep
  let rawStepMs := (c.targetOffsetMs - c.currentOffsetMs) * c.config.correctionRate
  max (-maxStepMs) (min rawStepMs maxStepMs)

/-- One correction step towards the target; the step applied is returned. -/
def correctDrift (c : ClockManager) : ℚ × ClockManager :=
  if c.targetOffsetMs - c.currentOffsetMs = 0 then (0, c)
  else
    let stepMs := c.correctionStep
    let moved : ClockManager :=
      { c with
        currentOffsetMs := c.currentOffsetMs + stepMs
        stats := c.stats.recordCorrection.recordAccuracy
          |c.targetOffsetMs - (c.currentOffsetMs + stepMs)| }
    if c.isSynchronized && !moved.isSynchronized then
      (stepMs, { moved with stats := moved.stats.recordResync })
    else (stepMs, moved)

/-- Count a completed pass. -/
def recordSuccess (c : ClockManager) : ClockManager :=
  { c with stats := c.stats.recordSuccess }

/-- Count a failed pass. -/
def recordFailure (c : ClockManager) : ClockManager :=
  { c with stats := c.stats.recordFailure }

/-- Start over at a fresh epoch. -/
def reset (c : ClockManager) (now : Instant) : ClockManager :=
  { c with
    epoch := now
    currentOffsetMs := 0
    targetOffsetMs := 0
    currentDriftPpm := 0
    hasSynced := false
    driftEstimator := c.driftEstimator.reset
    stats := StatisticsTracker.new }

/-- A rejected offset changes nothing. -/
theorem applyOffset_err {c c' : ClockManager} {offsetMs : ℚ} {now : Instant} {e : SyncError}
    (h : c.applyOffset offsetMs now = (.error e, c')) : c' = c := by
  unfold applyOffset at h
  dsimp only at h
  split_ifs at h
  all_goals cases h
  rfl

theorem durationToMillis_nonneg (d : Duration) : 0 ≤ durationToMillis d := by
  unfold durationToMillis Duration.asSecsF64
  positivity

/-- A correction moves the applied offset by at most the configured step. -/
theorem abs_correctionStep_le (c : ClockManager) :
    |c.correctionStep| ≤ durationToMillis c.config.maxCorrectionStep := by
  have hnonneg := durationToMillis_nonneg c.config.maxCorrectionStep
  unfold correctionStep
  dsimp only
  refine abs_le.mpr ⟨le_max_left _ _, max_le ?_ (min_le_right _ _)⟩
  linarith

end ClockManager
end Sync
end EchoSync
