import EchoSync.Sync.Correction

/-!
# Clock Synchronization Engine - Host time

The playback timeline is the local clock plus the applied offset, converted from milliseconds
to a duration.  The conversion refuses a negative number, but one beyond the largest duration
panics.

Main results:

- Theorem {lit}`millisToDuration_converts_iff`: the numbers on which the conversion does
  what it owes.
- Theorem {lit}`ClockManager.hostTime_converts_iff`: the same for the host time in every
  reachable state, and a bound on the configuration that suffices.
-/

namespace EchoSync
namespace Sync

/-- A number of milliseconds as a duration.  The check is on the sign alone, and the
conversion behind it panics on a number out of range. -/
def millisToDuration (millis : ℚ) : Outcome SyncError Duration :=
  if millis < 0 then
    .err (.clockError
      "cannot convert \x7b\x7d ms to a Duration: value must be finite and non-negative" [millis])
  else
    match Duration.fromSecsF64 (millis / 1000) with
    | some d => .ok d
    | none => .panicked

/-- The local time projected onto the host's clock. -/
def ClockManager.hostTime (c : ClockManager) (now : Instant) : Outcome SyncError Duration :=
  let localMs := durationToMillis (c.localTime now)
  match millisToDuration (localMs + c.currentOffsetMs) with
  | .ok d => .ok d
  | .err _ =>
      .err (.clockError
        "playback time would be negative: local=\x7b:.3\x7dms + offset=\x7b:.3\x7dms"
        [localMs, c.currentOffsetMs])
  | .panicked => .panicked

/-- A number of milliseconds that some duration is nearest to, in whole nanoseconds. -/
def Representable (millis : ℚ) : Prop :=
  0 ≤ millis ∧ ∃ d : Duration, |(d.nanos : ℚ) - millis * nanosPerMilli| ≤ 1 / 2

/-- What a conversion owes on a number of milliseconds: the nearest duration, the duration
itself when there is one, and a clock error on any number that is not representable. -/
structure Converts (millis : ℚ) (result : Outcome SyncError Duration) : Prop where
  nearest : Representable millis →
    ∃ d, result = .ok d ∧ |(d.nanos : ℚ) - millis * nanosPerMilli| ≤ 1 / 2
  exact : ∀ d, durationToMillis d = millis → result = .ok d
  refused : ¬ Representable millis →
    ∃ template values, result = .err (.clockError template values)

/-- A number of milliseconds more than half a nanosecond below the limit of durations. -/
def BelowLimit (millis : ℚ) : Prop :=
  millis * nanosPerMilli < (durationLimit : ℚ) - 1 / 2

instance (millis : ℚ) : Decidable (BelowLimit millis) :=
  inferInstanceAs (Decidable (_ < _))

/-! ## The conversion -/

theorem millis_scale (millis : ℚ) : millis / 1000 * nanosPerSec = millis * nanosPerMilli := by
  norm_num [nanosPerSec, nanosPerMilli]
  ring

theorem durationToMillis_mul (d : Duration) : durationToMillis d * nanosPerMilli = d.nanos := by
  norm_num [durationToMillis, Duration.asSecsF64, nanosPerSec, nanosPerMilli]
  ring

/-- Two durations within half a nanosecond of each other's multiple are the same. -/
theorem duration_eq_of_abs_le {d d' : Duration} (h : |(d.nanos : ℚ) - d'.nanos| ≤ 1 / 2) :
    d = d' := by
  rw [abs_le] at h
  have hlow : (d'.nanos : ℚ) < d.nanos + 1 := by linarith
  have hhigh : (d.nanos : ℚ) < d'.nanos + 1 := by linarith
  have hlow' : d'.nanos < d.nanos + 1 := by exact_mod_cast hlow
  have hhigh' : d.nanos < d'.nanos + 1 := by exact_mod_cast hhigh
  exact Duration.ext (by omega)

/-- Everything a conversion can do: it refuses a negative number, it answers the nearest
duration, or it panics on a number beyond the limit. -/
inductive ConversionMove (millis : ℚ) : Outcome SyncError Duration → Prop where
  | negative (hneg : millis < 0) (template : String) (values : List ℚ) :
      ConversionMove millis (.err (.clockError template values))
  | converted (hnonneg : 0 ≤ millis) (hbelow : BelowLimit millis) (d : Duration)
      (hnear : |(d.nanos : ℚ) - millis * nanosPerMilli| ≤ 1 / 2) :
      ConversionMove millis (.ok d)
  | beyond (hbeyond : ¬ BelowLimit millis) : ConversionMove millis .panicked

theorem millisToDuration_move (millis : ℚ) :
    ConversionMove millis (millisToDuration millis) := by
  unfold millisToDuration
  rcases lt_or_ge millis 0 with hneg | hnonneg
  · rw [if_pos hneg]
    exact .negative hneg _ _
  · have hsecs : 0 ≤ millis / 1000 := by positivity
    have hnone := Duration.fromSecsF64_eq_none_iff hsecs
    rw [millis_scale, ← not_lt] at hnone
    rw [if_neg (not_lt.mpr hnonneg)]
    cases hconvert : Duration.fromSecsF64 (millis / 1000) with
    | none => exact .beyond (hnone.mp hconvert)
    | some d =>
        have hnear := Duration.abs_fromSecsF64_sub_le hsecs hconvert
        rw [millis_scale] at hnear
        refine .converted hnonneg ?_ d hnear
        by_contra hbeyond
        rw [hnone.mpr hbeyond] at hconvert
        contradiction

theorem belowLimit_of_neg {millis : ℚ} (hneg : millis < 0) : BelowLimit millis := by
  have hscaled : millis * nanosPerMilli ≤ 0 :=
    mul_nonpos_of_nonpos_of_nonneg hneg.le (Nat.cast_nonneg _)
  have hlimit : (1 : ℚ) ≤ durationLimit := by norm_num [durationLimit, nanosPerSec]
  unfold BelowLimit
  linarith

/-- A conversion does what it owes exactly on the numbers below the limit. -/
theorem ConversionMove.converts_iff {millis : ℚ} {result : Outcome SyncError Duration}
    (h : ConversionMove millis result) : Converts millis result ↔ BelowLimit millis := by
  cases h with
  | negative hneg template values =>
      refine ⟨fun _ => belowLimit_of_neg hneg, fun _ => ⟨?_, ?_, ?_⟩⟩
      · intro hrep
        exact absurd hneg (not_lt.mpr hrep.1)
      · intro d hd
        exact absurd hneg (not_lt.mpr (hd ▸ ClockManager.durationToMillis_nonneg d))
      · intro _
        exact ⟨template, values, rfl⟩
  | converted hnonneg hbelow d hnear =>
      refine ⟨fun _ => hbelow, fun _ => ⟨?_, ?_, ?_⟩⟩
      · intro _
        exact ⟨d, rfl, hnear⟩
      · intro d' hd'
        rw [← hd', durationToMillis_mul] at hnear
        rw [duration_eq_of_abs_le hnear]
      · intro hrep
        exact absurd ⟨hnonneg, d, hnear⟩ hrep
  | beyond hbeyond =>
      refine ⟨fun h => ?_, fun hbelow => absurd hbelow hbeyond⟩
      exfalso
      by_cases hrep : Representable millis
      · rcases h.nearest hrep with ⟨d, hok, -⟩
        contradiction
      · rcases h.refused hrep with ⟨template, values, herr⟩
        contradiction

/-- The numbers on which the conversion does what it owes. -/
theorem millisToDuration_converts_iff (millis : ℚ) :
    Converts millis (millisToDuration millis) ↔ BelowLimit millis :=
  (millisToDuration_move millis).converts_iff

namespace ClockManager

/-! ## The host time -/

/-- The local time plus the applied offset, in milliseconds. -/
def playbackMs (c : ClockManager) (now : Instant) : ℚ :=
  durationToMillis (c.localTime now) + c.currentOffsetMs

theorem hostTime_move (c : ClockManager) (now : Instant) :
    ConversionMove (c.playbackMs now) (c.hostTime now) := by
  have hmove := millisToDuration_move (c.playbackMs now)
  unfold hostTime
  dsimp only
  rw [← playbackMs]
  generalize millisToDuration (c.playbackMs now) = result at hmove
  cases hmove with
  | negative hneg => exact .negative hneg _ _
  | converted hnonneg hbelow d hnear => exact .converted hnonneg hbelow d hnear
  | beyond hbeyond => exact .beyond hbeyond

/-- While the largest offset and the local time together are a duration, the playback time
is below the limit. -/
theorem OffsetInvariant.belowLimit {config : SyncConfig} {c : ClockManager}
    (h : OffsetInvariant config c) {now : Instant}
    (hfits : (c.localTime now).nanos + config.maxAllowedOffset.nanos < durationLimit) :
    BelowLimit (c.playbackMs now) := by
  have hoffset : c.currentOffsetMs * nanosPerMilli ≤ config.maxAllowedOffset.nanos := by
    rw [← durationToMillis_mul]
    exact mul_le_mul_of_nonneg_right (abs_le.mp h.current).2 (Nat.cast_nonneg _)
  have hlimit : ((c.localTime now).nanos : ℚ) + config.maxAllowedOffset.nanos + 1 ≤
      durationLimit := by
    exact_mod_cast hfits
  unfold BelowLimit playbackMs
  rw [add_mul, durationToMillis_mul]
  linarith

/-- On a clock built from a valid configuration, in every run and at every reading of the
local clock: the host time does what it owes on the local time plus the applied offset exactly
while that sum is below the limit of durations, and the largest offset and the local time
together being a duration is enough; and the conversion behind it does what it owes on exactly
the numbers below the limit. -/
theorem hostTime_converts_iff {config : SyncConfig} {c : ClockManager} {start : Instant}
    (hnew : ClockManager.new config start = .ok c) (calls : List ClockCall) (now : Instant) :
    let reached := calls.foldl step c
    (Converts (reached.playbackMs now) (reached.hostTime now) ↔
      BelowLimit (reached.playbackMs now)) ∧
    ((reached.localTime now).nanos + config.maxAllowedOffset.nanos < durationLimit →
      Converts (reached.playbackMs now) (reached.hostTime now)) ∧
    ∀ millis, Converts millis (millisToDuration millis) ↔ BelowLimit millis := by
  dsimp only
  have hiff := ((calls.foldl step c).hostTime_move now).converts_iff
  refine ⟨hiff, ?_, millisToDuration_converts_iff⟩
  intro hfits
  exact hiff.mpr ((run_invariant hnew calls).belowLimit hfits)

/-- Over the default configuration, an offset of ten milliseconds at a local time of one
second. -/
theorem hostTime_converts_iff_default :
    ∃ c, ClockManager.new SyncConfig.default (Instant.ofMillis 0) = .ok c ∧
      let reached := [ClockCall.applyOffset 10 (Instant.ofMillis 0)].foldl step c
      Converts (reached.playbackMs (Instant.ofMillis 1000))
          (reached.hostTime (Instant.ofMillis 1000)) ∧
        reached.hostTime (Instant.ofMillis 1000) = .ok (Duration.fromMillis 1010) := by
  refine ⟨_, new_default _, ?_, by decide +kernel⟩
  exact (hostTime_converts_iff (new_default (Instant.ofMillis 0))
    [.applyOffset 10 (Instant.ofMillis 0)] (Instant.ofMillis 1000)).2.1 (by decide +kernel)

/-- The default configuration with the largest duration as the allowed offset. -/
def unboundedConfig : SyncConfig :=
  { SyncConfig.default with maxAllowedOffset := Duration.max }

/-- The validation does not cap the allowed offset.  With the largest duration for it, an
offset of that size makes the host time panic one second later. -/
theorem hostTime_panics :
    ¬ ∀ (config : SyncConfig) (start : Instant) (c : ClockManager),
      ClockManager.new config start = .ok c → ∀ (calls : List ClockCall) (now : Instant),
        Converts ((calls.foldl step c).playbackMs now) ((calls.foldl step c).hostTime now) := by
  intro h
  have hnew : ClockManager.new unboundedConfig (Instant.ofMillis 0) =
      .ok (ofConfig unboundedConfig (Instant.ofMillis 0)) := by
    rw [ClockManager.new, show unboundedConfig.validate = .ok () by decide +kernel]
  have hconverts := h _ _ _ hnew
    [.applyOffset (durationToMillis Duration.max) (Instant.ofMillis 0)] (Instant.ofMillis 1000)
  rw [(hostTime_move _ _).converts_iff] at hconverts
  exact absurd hconverts (by decide +kernel)

end ClockManager
end Sync
end EchoSync
