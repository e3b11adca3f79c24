import EchoSync.Sync.Config

/-!
# Playback Scheduler - Configuration and errors

The tunables of the Playback Scheduler with their validation, and the error type
its operations return.

Main results:

- Theorem {lit}`SchedulerConfig.default_validates`: the production defaults
  pass their own validation.
- Structure {lit}`ValidSchedulerConfig` and theorem
  {lit}`SchedulerConfig.validate_eq_ok_iff`: what a configuration accepted by
  the validation guarantees.
-/

namespace EchoSync
namespace Scheduler

/-- The errors of the Playback Scheduler. -/
inductive SchedulerError where
  | invalidConfiguration (reason : String)
  | notStarted
  | alreadyStarted
  | duplicatePacket (packetId : U64)
  | queueFull (capacity : Nat)
  | packetExpired (packetId lateByMs : U64)
  | packetNotFound (packetId : U64)
  | syncError (error : Sync.SyncError)
  | operationFailed (reason : String)
deriving DecidableEq

/-- Runtime configuration of the Playback Scheduler. -/
structure SchedulerConfig where
  playbackLatency : Duration
  maxLateThreshold : Duration
  maxEarlyThreshold : Duration
  schedulingInterval : Duration
  queueCapacity : Nat
  timelineResolution : Duration
deriving DecidableEq

/-- The production defaults. -/
def SchedulerConfig.default : SchedulerConfig where
  playbackLatency := Duration.fromMillis 150
  maxLateThreshold := Duration.fromMillis 200
  maxEarlyThreshold := Duration.fromMillis 500
  schedulingInterval := Duration.fromMillis 10
  queueCapacity := 512
  timelineResolution := Duration.fromMillis 1

/-- Non-zero durations and a non-zero queue capacity. -/
def SchedulerConfig.validate (config : SchedulerConfig) : Except SchedulerError Unit :=
  if config.maxLateThreshold.isZero then
    .error (.invalidConfiguration "max_late_threshold must be greater than zero")
  else if config.maxEarlyThreshold.isZero then
    .error (.invalidConfiguration "max_early_threshold must be greater than zero")
  else if config.schedulingInterval.isZero then
    .error (.invalidConfiguration "scheduling_interval must be greater than zero")
  else if config.queueCapacity = 0 then
    .error (.invalidConfiguration "queue_capacity must be greater than zero")
  else if config.timelineResolution.isZero then
    .error (.invalidConfiguration "timeline_resolution must be greater than zero")
  else .ok ()

/-- What the validation of a scheduler configuration guarantees. -/
structure ValidSchedulerConfig (config : SchedulerConfig) : Prop where
  maxLateThreshold_pos : config.maxLateThreshold.isZero = false
  maxEarlyThreshold_pos : config.maxEarlyThreshold.isZero = false
  schedulingInterval_pos : config.schedulingInterval.isZero = false
  queueCapacity_pos : 0 < config.queueCapacity
  timelineResolution_pos : config.timelineResolution.isZero = false

/-- The validation accepts exactly the configurations with these guarantees. -/
theorem SchedulerConfig.validate_eq_ok_iff {config : SchedulerConfig} :
    config.validate = .ok () ↔ ValidSchedulerConfig config := by
  unfold SchedulerConfig.validate
  constructor
  · intro h
    split_ifs at h with hlate hearly hinterval hcapacity hresolution
    exact
      { maxLateThreshold_pos := eq_false_of_ne_true hlate
        maxEarlyThreshold_pos := eq_false_of_ne_true hearly
        schedulingInterval_pos := eq_false_of_ne_true hinterval
        queueCapacity_pos := Nat.pos_of_ne_zero hcapacity
        timelineResolution_pos := eq_false_of_ne_true hresolution }
  · intro h
    rw [if_neg (ne_true_of_eq_false h.maxLateThreshold_pos),
      if_neg (ne_true_of_eq_false h.maxEarlyThreshold_pos),
      if_neg (ne_true_of_eq_false h.schedulingInterval_pos), if_neg h.queueCapacity_pos.ne',
      if_neg (ne_true_of_eq_false h.timelineResolution_pos)]

/-- The production defaults pass their own validation. -/
theorem SchedulerConfig.default_validates : SchedulerConfig.default.validate = .ok () := by
  decide

end Scheduler
end EchoSync
