import EchoSync.Runtime.Duration

/-!
# Clock Synchronization Engine - Configuration and errors

The tunables of the Clock Synchronization Engine with their validation, and the
error type its operations return.

Main results:

- Theorem {lit}`SyncConfig.default_validates`: the production defaults pass
  their own validation.
- Structure {lit}`ValidSyncConfig` and theorem
  {lit}`SyncConfig.validate_eq_ok_iff`: what a configuration accepted by the
  validation guarantees.
-/

namespace EchoSync
namespace Sync

/-- The errors of the Clock Synchronization Engine.  A clock error carries the
template of its message and the numbers formatted into it. -/
inductive SyncError where
  | invalidConfiguration (reason : String)
  | notStarted
  | alreadyStarted
  | offsetOutOfRange (offsetMs maxOffsetMs : ℚ)
  | driftOutOfRange (driftPpm maxDriftPpm : ℚ)
  | clockError (template : String) (values : List ℚ)
  | synchronizationFailed (reason : String)
  | operationFailed (reason : String)
deriving DecidableEq

/-- Runtime configuration of the Clock Synchronization Engine. -/
structure SyncConfig where
  syncInterval : Duration
  maxAllowedOffset : Duration
  maxDriftPpm : ℚ
  clockPrecision : Duration
  correctionRate : ℚ
  maxCorrectionStep : Duration
  resyncThreshold : Duration
  driftWindowSamples : Nat
deriving DecidableEq

/-- The production defaults. -/
def SyncConfig.default : SyncConfig where
  syncInterval := Duration.fromMillis 5000
  maxAllowedOffset := Duration.fromMillis 2000
  maxDriftPpm := 500
  clockPrecision := Duration.fromMillis 1
  correctionRate := 1 / 5
  maxCorrectionStep := Duration.fromMillis 50
  resyncThreshold := Duration.fromMillis 20
  driftWindowSamples := 20

/-- Non-zero durations, a correction rate in the half-open unit interval, a
threshold within the allowed offset and a window of at least two samples. -/
def SyncConfig.validate (config : SyncConfig) : Except SyncError Unit :=
  if config.syncInterval.isZero then
    .error (.invalidConfiguration "sync_interval must be greater than zero")
  else if config.maxAllowedOffset.isZero then
    .error (.invalidConfiguration "max_allowed_offset must be greater than zero")
  else if ¬ config.maxDriftPpm > 0 then
    .error (.invalidConfiguration "max_drift_ppm must be greater than zero")
  else if config.clockPrecision.isZero then
    .error (.invalidConfiguration "clock_precision must be greater than zero")
  else if ¬ config.correctionRate > 0 ∨ config.correctionRate > 1 then
    .error (.invalidConfiguration "correction_rate must fall within (0.0, 1.0]")
  else if config.maxCorrectionStep.isZero then
    .error (.invalidConfiguration "max_correction_step must be greater than zero")
  else if config.resyncThreshold.isZero then
    .error (.invalidConfiguration "resync_threshold must be greater than zero")
  else if config.resyncThreshold > config.maxAllowedOffset then
    .error (.invalidConfiguration "resync_threshold cannot exceed max_allowed_offset")
  else if config.driftWindowSamples < 2 then
    .error (.invalidConfiguration "drift_window_samples must be at least 2")
  else .ok ()

/-- What the validation of a synchronization configuration guarantees. -/
structure ValidSyncConfig (config : SyncConfig) : Prop where
  syncInterval_pos : config.syncInterval.isZero = false
  maxAllowedOffset_pos : config.maxAllowedOffset.isZero = false
  maxDriftPpm_pos : 0 < config.maxDriftPpm
  clockPrecision_pos : config.clockPrecision.isZero = false
  correctionRate_pos : 0 < config.correctionRate
  correctionRate_le_one : config.correctionRate ≤ 1
  maxCorrectionStep_pos : config.maxCorrectionStep.isZero = false
  resyncThreshold_pos : config.resyncThreshold.isZero = false
  resyncThreshold_le : config.resyncThreshold ≤ config.maxAllowedOffset
  two_le_driftWindowSamples : 2 ≤ config.driftWindowSamples

/-- The validation accepts exactly the configurations with these guarantees. -/
theorem SyncConfig.validate_eq_ok_iff {config : SyncConfig} :
    config.validate = .ok () ↔ ValidSyncConfig config := by
  unfold SyncConfig.validate
  constructor
  · intro h
    split_ifs at h with hinterval hoffset hdrift hprecision hrate hstep hthreshold hle hwindow
    exact
      { syncInterval_pos := eq_false_of_ne_true hinterval
        maxAllowedOffset_pos := eq_false_of_ne_true hoffset
        maxDriftPpm_pos := hdrift
        clockPrecision_pos := eq_false_of_ne_true hprecision
        correctionRate_pos := not_not.mp fun hneg => hrate (Or.inl hneg)
        correctionRate_le_one := not_lt.mp fun hbig => hrate (Or.inr hbig)
        maxCorrectionStep_pos := eq_false_of_ne_true hstep
        resyncThreshold_pos := eq_false_of_ne_true hthreshold
        resyncThreshold_le := not_lt.mp hle
        two_le_driftWindowSamples := not_lt.mp hwindow }
  · intro h
    have hrate : ¬ (¬ config.correctionRate > 0 ∨ config.correctionRate > 1) := by
      rintro (hneg | hbig)
      · exact hneg h.correctionRate_pos
      · exact absurd h.correctionRate_le_one (not_le.mpr hbig)
    rw [if_neg (ne_true_of_eq_false h.syncInterval_pos),
      if_neg (ne_true_of_eq_false h.maxAllowedOffset_pos), if_neg (not_not.mpr h.maxDriftPpm_pos),
      if_neg (ne_true_of_eq_false h.clockPrecision_pos), if_neg hrate,
      if_neg (ne_true_of_eq_false h.maxCorrectionStep_pos),
      if_neg (ne_true_of_eq_false h.resyncThreshold_pos), if_neg (not_lt.mpr h.resyncThreshold_le),
      if_neg (not_lt.mpr h.two_le_driftWindowSamples)]

/-- The production defaults pass their own validation. -/
theorem SyncConfig.default_validates : SyncConfig.default.validate = .ok () := by
  decide +kernel

end Sync
end EchoSync
