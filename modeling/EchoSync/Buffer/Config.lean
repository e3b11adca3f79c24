import EchoSync.Runtime.Duration

/-!
# Buffer Layer - Configuration and errors

The tunables of the Buffer Layer with their validation, and the error type its
operations return.

Main results:

- Theorem {lit}`BufferConfig.default_validates`: the production defaults pass
  their own validation.
- Structure {lit}`ValidBufferConfig` and theorem
  {lit}`BufferConfig.validate_eq_ok_iff`: what a configuration accepted by the
  validation guarantees.
-/

namespace EchoSync
namespace Buffer

/-- The errors of the Buffer Layer. -/
inductive BufferError where
  | bufferFull (capacity : Nat)
  | bufferEmpty
  | duplicatePacket (sequenceNumber : U64)
  | alreadyProcessed (sequenceNumber : U64)
  | packetTooOld (sequenceNumber : U64) (maxAgeMs : U64)
  | invalidConfiguration (reason : String)
  | invalidTargetDelay (requestedMs minMs maxMs : U64)
  | operationFailed (reason : String)
deriving DecidableEq

/-- Runtime configuration of the Buffer Layer. -/
structure BufferConfig where
  initialBufferSize : Nat
  maxBufferSize : Nat
  targetDelay : Duration
  minTargetDelay : Duration
  maxTargetDelay : Duration
  maxPacketAge : Duration
  duplicateCacheSize : Nat
  maxMissingPackets : U64
  adaptiveEnabled : Bool
  adaptiveStep : Duration
deriving DecidableEq

/-- The production defaults. -/
def BufferConfig.default : BufferConfig where
  initialBufferSize := 32
  maxBufferSize := 512
  targetDelay := Duration.fromMillis 60
  minTargetDelay := Duration.fromMillis 20
  maxTargetDelay := Duration.fromMillis 400
  maxPacketAge := Duration.fromMillis 1000
  duplicateCacheSize := 256
  maxMissingPackets := 50
  adaptiveEnabled := true
  adaptiveStep := Duration.fromMillis 5

/-- Non-zero sizes, well-ordered delay bounds, and a target delay inside them. -/
def BufferConfig.validate (config : BufferConfig) : Except BufferError Unit :=
  if config.maxBufferSize = 0 then
    .error (.invalidConfiguration "max_buffer_size must be greater than zero")
  else if config.initialBufferSize > config.maxBufferSize then
    .error (.invalidConfiguration "initial_buffer_size cannot exceed max_buffer_size")
  else if config.minTargetDelay > config.maxTargetDelay then
    .error (.invalidConfiguration "min_target_delay cannot exceed max_target_delay")
  else if config.targetDelay < config.minTargetDelay ∨
      config.targetDelay > config.maxTargetDelay then
    .error (.invalidConfiguration
      "target_delay must fall within [min_target_delay, max_target_delay]")
  else if config.duplicateCacheSize = 0 then
    .error (.invalidConfiguration "duplicate_cache_size must be greater than zero")
  else .ok ()

/-- What the validation of a buffer configuration guarantees. -/
structure ValidBufferConfig (config : BufferConfig) : Prop where
  maxBufferSize_pos : 0 < config.maxBufferSize
  initial_le_max : config.initialBufferSize ≤ config.maxBufferSize
  min_le_target : config.minTargetDelay ≤ config.targetDelay
  target_le_max : config.targetDelay ≤ config.maxTargetDelay
  duplicateCacheSize_pos : 0 < config.duplicateCacheSize

/-- The validation accepts exactly the configurations with these guarantees. -/
theorem BufferConfig.validate_eq_ok_iff {config : BufferConfig} :
    config.validate = .ok () ↔ ValidBufferConfig config := by
  unfold BufferConfig.validate
  constructor
  · intro h
    split_ifs at h with hmax hinitial hbounds htarget hcache
    exact
      { maxBufferSize_pos := Nat.pos_of_ne_zero hmax
        initial_le_max := not_lt.mp hinitial
        min_le_target := not_lt.mp fun hlt => htarget (Or.inl hlt)
        target_le_max := not_lt.mp fun hlt => htarget (Or.inr hlt)
        duplicateCacheSize_pos := Nat.pos_of_ne_zero hcache }
  · intro h
    have hbounds : ¬ config.minTargetDelay > config.maxTargetDelay :=
      not_lt.mpr (h.min_le_target.trans h.target_le_max)
    have htarget : ¬ (config.targetDelay < config.minTargetDelay ∨
        config.targetDelay > config.maxTargetDelay) := by
      rintro (hlow | hhigh)
      · exact absurd h.min_le_target (not_le.mpr hlow)
      · exact absurd h.target_le_max (not_le.mpr hhigh)
    rw [if_neg h.maxBufferSize_pos.ne', if_neg (not_lt.mpr h.initial_le_max),
      if_neg hbounds, if_neg htarget, if_neg h.duplicateCacheSize_pos.ne']

/-- The production defaults pass their own validation. -/
theorem BufferConfig.default_validates : BufferConfig.default.validate = .ok () := by
  decide

end Buffer
end EchoSync
