import EchoSync.Buffer.Admission

/-!
# Buffer Layer - The adaptive delay

The jitter estimate and the target delay along every run.  The estimate is an average of
distances, the delay follows it by bounded steps within the configured bounds, and of the
duration arithmetic involved only the conversion of the estimate and the addition of a
step can leave the range.

Main results:

- Theorem {lit}`JitterBuffer.adaptTargetDelay_gradual`: one adaptation moves the delay
  towards its candidate, by at most a step and never past it.
- Theorem {lit}`BufferRun.delay_adapts_gradually`: the delay stays within its bounds, the
  estimate is not negative, and every insertion is gradual.
- Theorem {lit}`BufferRun.never_panics_iff`: no insertion of a run panics exactly when each
  of them keeps the arithmetic in range.
- Theorem {lit}`BufferRun.headroom_in_range`: the conversion of the estimate does so for
  clock readings that do not go back.
-/

namespace EchoSync
namespace Buffer

open Streaming

namespace JitterBuffer

variable {b b' : JitterBuffer} {packet : AudioPacket} {now : Instant}

/-! ## One adaptation -/

/-- The configured delay plus four times the jitter estimate, within the bounds. -/
def candidateDelay (b : JitterBuffer) : Option Duration :=
  (Duration.fromSecsF64 (max b.jitterEstimateMs 0 * 4 / 1000)).map fun headroom =>
    (b.config.targetDelay.saturatingAdd headroom).clamp b.config.minTargetDelay
      b.config.maxTargetDelay

/-- The delay is within the configured bounds, and the jitter estimate is not negative. -/
structure DelayBounds (b : JitterBuffer) : Prop where
  target : b.targetDelay ∈ Set.Icc b.config.minTargetDelay b.config.maxTargetDelay
  jitter : 0 ≤ b.jitterEstimateMs

/-- Changing neither the configuration nor the delay nor the estimate. -/
theorem DelayBounds.of_same (h : b.DelayBounds) (hconfig : b'.config = b.config)
    (htarget : b'.targetDelay = b.targetDelay)
    (hjitter : b'.jitterEstimateMs = b.jitterEstimateMs) : b'.DelayBounds where
  target := by
    rw [hconfig, htarget]
    exact h.target
  jitter := by
    rw [hjitter]
    exact h.jitter

/-- How an insertion changes the delay: by at most one adaptive step, towards the candidate
of the estimate that it leaves and never past it; not at all without a candidate. -/
structure Gradual (b b' : JitterBuffer) : Prop where
  up : b'.targetDelay.nanos ≤ b.targetDelay.nanos + b.config.adaptiveStep.nanos
  down : b.targetDelay.nanos ≤ b'.targetDelay.nanos + b.config.adaptiveStep.nanos
  towards : ∀ candidate ∈ b'.candidateDelay,
    b'.targetDelay ∈ Set.uIcc b.targetDelay candidate
  kept : b'.candidateDelay = none → b'.targetDelay = b.targetDelay

/-- Leaving the delay as it is. -/
theorem Gradual.of_kept (hkept : b'.targetDelay = b.targetDelay) : Gradual b b' where
  up := by
    rw [hkept]
    exact Nat.le_add_right _ _
  down := by
    rw [hkept]
    exact Nat.le_add_right _ _
  towards := by
    intro candidate _
    rw [hkept]
    exact Set.left_mem_uIcc
  kept := fun _ => hkept

/-- One step from a delay towards a candidate: upwards the addition may fail, and in both
directions the step ends at the candidate. -/
theorem stepped_spec {delay step candidate stepped : Duration}
    (hstepped : (if candidate > delay then (delay.add step).map (min · candidate)
      else if candidate < delay then some (max (delay.saturatingSub step) candidate)
      else some delay) = some stepped) :
    stepped ∈ Set.uIcc delay candidate ∧ stepped.nanos ≤ delay.nanos + step.nanos ∧
      delay.nanos ≤ stepped.nanos + step.nanos := by
  split_ifs at hstepped with hup hdown
  · rcases Option.map_eq_some_iff.mp hstepped with ⟨sum, hsum, rfl⟩
    have hnanos : sum.nanos = delay.nanos + step.nanos := Duration.add_eq_some_iff.mp hsum
    have hle : delay ≤ sum := by
      rw [Duration.le_iff_nanos]
      omega
    have hmin : min sum candidate ≤ sum := min_le_left _ _
    have hdelay : delay ≤ min sum candidate := le_min hle hup.le
    rw [Set.uIcc_of_le hup.le]
    rw [Duration.le_iff_nanos] at hmin
    refine ⟨⟨hdelay, min_le_right _ _⟩, by omega, ?_⟩
    rw [Duration.le_iff_nanos] at hdelay
    omega
  · cases hstepped
    have hmax : delay.saturatingSub step ≤ max (delay.saturatingSub step) candidate :=
      le_max_left _ _
    have hdelay : max (delay.saturatingSub step) candidate ≤ delay :=
      max_le (Duration.saturatingSub_le _ _) hdown.le
    rw [Set.uIcc_of_ge hdown.le]
    refine ⟨⟨le_max_right _ _, hdelay⟩, ?_, ?_⟩
    · rw [Duration.le_iff_nanos] at hdelay
      omega
    · rw [Duration.le_iff_nanos] at hmax
      simp only [Duration.saturatingSub] at hmax ⊢
      omega
  · cases hstepped
    exact ⟨Set.left_mem_uIcc, Nat.le_add_right _ _, Nat.le_add_right _ _⟩

/-- One adaptation keeps the bounds and moves the delay gradually. -/
theorem adaptTargetDelay_gradual (hbounds : b.DelayBounds) (hadapt : b.adaptTargetDelay = some b') :
    b'.DelayBounds ∧ Gradual b b' := by
  have horder : b.config.minTargetDelay ≤ b.config.maxTargetDelay :=
    hbounds.target.1.trans hbounds.target.2
  have hframe := adaptTargetDelay_eq hadapt
  have hcandidate : b'.candidateDelay = b.candidateDelay := by
    rw [hframe]
    rfl
  unfold adaptTargetDelay at hadapt
  cases hheadroom : Duration.fromSecsF64 (max b.jitterEstimateMs 0 * 4 / 1000) with
  | none =>
      rw [hheadroom] at hadapt
      contradiction
  | some headroom =>
      rw [hheadroom] at hadapt
      dsimp only at hadapt
      have hrange := Duration.clamp_mem_Icc (b.config.targetDelay.saturatingAdd headroom) horder
      have hsome : b.candidateDelay = some ((b.config.targetDelay.saturatingAdd headroom).clamp
          b.config.minTargetDelay b.config.maxTargetDelay) := by
        rw [candidateDelay, hheadroom, Option.map_some]
      rw [hsome] at hcandidate
      split at hadapt
      · contradiction
      · rename_i stepped hstepped
        cases hadapt
        rcases stepped_spec hstepped with ⟨htowards, hup, hdown⟩
        have hwithin := Set.uIcc_subset_Icc hbounds.target hrange htowards
        have hclamp := Duration.clamp_of_mem hwithin
        refine ⟨⟨?_, hbounds.jitter⟩, ⟨?_, ?_, ?_, ?_⟩⟩
        · simpa only [hclamp] using hwithin
        · simpa only [hclamp] using hup
        · simpa only [hclamp] using hdown
        · intro candidate hmem
          rw [hcandidate, Option.mem_some_iff] at hmem
          subst hmem
          simpa only [hclamp] using htowards
        · intro hnone
          rw [hcandidate] at hnone
          contradiction

/-- The end of an insertion, also where it panics. -/
theorem adaptIfEnabled_gradual (hbounds : b.DelayBounds) :
    b.adaptIfEnabled.2.DelayBounds ∧ Gradual b b.adaptIfEnabled.2 := by
  unfold adaptIfEnabled
  split_ifs with henabled
  · cases hadapt : b.adaptTargetDelay with
    | none => exact ⟨hbounds, Gradual.of_kept rfl⟩
    | some adapted => exact adaptTargetDelay_gradual hbounds hadapt
  · exact ⟨hbounds, Gradual.of_kept rfl⟩

/-! ## One call -/

/-- The running average of distances is not negative. -/
theorem updateJitterEstimate_nonneg (h : 0 ≤ b.jitterEstimateMs) (packet : AudioPacket)
    (now : Instant) : 0 ≤ (b.updateJitterEstimate packet now).jitterEstimateMs := by
  unfold updateJitterEstimate
  dsimp only
  split
  · rename_i lastTs lastArrival _ _
    have hdistance := abs_nonneg ((now.elapsedSince lastArrival).asSecsF64 * 1000 -
      ((packet.timestampMs.val : ℚ) - (lastTs.val : ℚ)))
    linarith
  · exact h

@[simp]
theorem makeRoom_targetDelay (b : JitterBuffer) : b.makeRoom.targetDelay = b.targetDelay := by
  rw [makeRoom_eq]

/-- Every insertion keeps the bounds and moves the delay gradually. -/
theorem insertPacket_gradual (hbounds : b.DelayBounds) (packet : AudioPacket) (now : Instant) :
    (b.insertPacket packet now).2.DelayBounds ∧ Gradual b (b.insertPacket packet now).2 := by
  have hmove := insertMove b packet now
  generalize b.insertPacket packet now = outcome at hmove ⊢
  cases hmove with
  | buffered hmem => exact ⟨hbounds, Gradual.of_kept rfl⟩
  | cached hfresh hseen => exact ⟨hbounds.of_same rfl rfl rfl, Gradual.of_kept rfl⟩
  | passed hfresh hunseen hpassed => exact ⟨hbounds.of_same rfl rfl rfl, Gradual.of_kept rfl⟩
  | stored haccepts =>
      have hadmitted : (b.admitted packet.sequenceNumber).DelayBounds := by
        rw [admitted, makeRoom_eq]
        exact hbounds.of_same rfl rfl rfl
      have hjitter := updateJitterEstimate_nonneg hadmitted.jitter packet now
      have hstored : (((b.admitted packet.sequenceNumber).updateJitterEstimate packet now).store
          packet now).DelayBounds := ⟨hadmitted.target, hjitter⟩
      rcases adaptIfEnabled_gradual hstored with ⟨hafter, hgradual⟩
      have htarget : (((b.admitted packet.sequenceNumber).updateJitterEstimate packet now).store
          packet now).targetDelay = b.targetDelay := by
        simp [store, updateJitterEstimate, admitted]
      have hconfig : (((b.admitted packet.sequenceNumber).updateJitterEstimate packet now).store
          packet now).config = b.config := by
        simp [store, updateJitterEstimate, admitted]
      refine ⟨hafter, ⟨?_, ?_, ?_, ?_⟩⟩
      · rw [← htarget, ← hconfig]
        exact hgradual.up
      · rw [← htarget, ← hconfig]
        exact hgradual.down
      · rw [← htarget]
        exact hgradual.towards
      · rw [← htarget]
        exact hgradual.kept

/-- A manual delay is within the bounds, or refused. -/
theorem setTargetDelay_bounds (hbounds : b.DelayBounds) (delay : Duration) :
    (b.setTargetDelay delay).2.DelayBounds := by
  unfold setTargetDelay
  split_ifs with hout
  · exact hbounds
  · rw [not_or, not_lt, not_lt] at hout
    exact ⟨hout, hbounds.jitter⟩

/-! ## The range of the arithmetic -/

/-- Four times the jitter estimate that a packet leaves, in whole nanoseconds. -/
def headroomNanos (b : JitterBuffer) (packet : AudioPacket) (now : Instant) : Nat :=
  (roundTiesEven
    ((b.updateJitterEstimate packet now).jitterEstimateMs * 4 / 1000 * nanosPerSec)).toNat

/-- The arithmetic after an accepted packet stays in the range of durations: the headroom
does, and so does the delay after a step, if the headroom and the bounds let it grow. -/
def AdaptsInRange (b : JitterBuffer) (packet : AudioPacket) (now : Instant) : Prop :=
  b.headroomNanos packet now < durationLimit ∧
    (b.targetDelay < b.config.maxTargetDelay →
      b.targetDelay.nanos < b.config.targetDelay.nanos + b.headroomNanos packet now →
      b.targetDelay.nanos + b.config.adaptiveStep.nanos < durationLimit)

/-- The conversion of the estimate is the headroom. -/
theorem fromSecsF64_eq_some_iff (h : 0 ≤ b.jitterEstimateMs) {headroom : Duration} :
    Duration.fromSecsF64 (max (b.updateJitterEstimate packet now).jitterEstimateMs 0 * 4 / 1000) =
        some headroom ↔ headroom.nanos = b.headroomNanos packet now := by
  have hjitter := updateJitterEstimate_nonneg h packet now
  rw [max_eq_left hjitter, Duration.fromSecsF64_of_nonneg (by positivity),
    Duration.ofNanos?_eq_some_iff, headroomNanos]

/-- The delay has to grow exactly when both the headroom and the bounds let it. -/
theorem lt_candidate_iff (hbounds : b.DelayBounds) (headroom : Duration) :
    b.targetDelay < (b.config.targetDelay.saturatingAdd headroom).clamp b.config.minTargetDelay
        b.config.maxTargetDelay ↔
      b.targetDelay < b.config.maxTargetDelay ∧
        b.targetDelay.nanos < b.config.targetDelay.nanos + headroom.nanos := by
  rw [Duration.lt_clamp_iff hbounds.target, Duration.lt_saturatingAdd_iff]
  constructor
  · rintro ⟨⟨hsum, -⟩, hmax⟩
    exact ⟨hmax, hsum⟩
  · rintro ⟨hmax, hsum⟩
    exact ⟨⟨hsum, hmax.trans_le (Duration.le_max _)⟩, hmax⟩

theorem delayInRange_iff (hbounds : b.DelayBounds) :
    (b.updateJitterEstimate packet now).DelayInRange ↔ b.AdaptsInRange packet now := by
  have hconversion := fun headroom =>
    @fromSecsF64_eq_some_iff b packet now hbounds.jitter headroom
  have hgrows := lt_candidate_iff hbounds
  constructor
  · rintro ⟨headroom, hheadroom, hstep⟩
    have hnanos := (hconversion headroom).mp hheadroom
    refine ⟨hnanos ▸ headroom.lt_limit, ?_⟩
    intro hmax hsum
    exact hstep ((hgrows headroom).mpr ⟨hmax, hnanos.symm ▸ hsum⟩)
  · rintro ⟨hlimit, hstep⟩
    refine ⟨⟨b.headroomNanos packet now, hlimit⟩, (hconversion _).mpr rfl, ?_⟩
    intro hgrow
    rcases (hgrows _).mp hgrow with ⟨hmax, hsum⟩
    exact hstep hmax hsum

/-- An insertion panics exactly when it accepts the packet, the configuration adapts the
delay and the arithmetic leaves the range. -/
theorem insertPacket_ne_panicked_iff (hbounds : b.DelayBounds) :
    (b.insertPacket packet now).1 ≠ .panicked ↔
      (b.Accepts packet.sequenceNumber → b.config.adaptiveEnabled = true →
        b.AdaptsInRange packet now) := by
  rw [Ne, insertPacket_panicked_iff, delayInRange_iff hbounds]
  tauto

end JitterBuffer

namespace BufferRun

open JitterBuffer

/-! ## Every run -/

/-- Every call keeps the bounds of the delay. -/
theorem step_bounds {r : BufferRun} (hvalid : ValidBufferConfig r.buffer.config)
    (h : r.buffer.DelayBounds) (call : BufferCall) : (r.step call).buffer.DelayBounds := by
  cases call with
  | insertPacket packet now => exact (insertPacket_gradual h packet now).1
  | nextPacket clock =>
      change (r.buffer.nextPacket clock).2.DelayBounds
      rw [nextPacket_eq]
      exact h.of_same rfl rfl rfl
  | flush =>
      change r.buffer.flush.2.DelayBounds
      rw [flush_eq]
      exact h.of_same rfl rfl rfl
  | setTargetDelay delay => exact setTargetDelay_bounds h delay
  | reset => exact ⟨⟨hvalid.min_le_target, hvalid.target_le_max⟩, le_rfl⟩

theorem run_bounds {config : BufferConfig} {b : JitterBuffer}
    (hnew : JitterBuffer.new config = .ok b) (calls : List BufferCall) :
    (run b calls).buffer.DelayBounds := by
  induction calls using List.reverseRecOn with
  | nil =>
      rcases JitterBuffer.new_spec hnew with ⟨hvalid, rfl⟩
      exact ⟨⟨hvalid.min_le_target, hvalid.target_le_max⟩, le_rfl⟩
  | append_singleton calls call ih =>
      rcases run_config hnew calls with ⟨hvalid, hconfig⟩
      rw [run_concat]
      exact step_bounds (hconfig ▸ hvalid) ih call

/-- On a buffer built from a valid configuration, after any calls: the target delay is
within the configured bounds, the jitter estimate is not negative, and an insertion moves
the delay by at most one adaptive step towards the clamped candidate of the estimate it
leaves, and never past it. -/
theorem delay_adapts_gradually {config : BufferConfig} {b : JitterBuffer}
    (hnew : JitterBuffer.new config = .ok b) (calls : List BufferCall) :
    (run b calls).buffer.targetDelay ∈ Set.Icc config.minTargetDelay config.maxTargetDelay ∧
      0 ≤ (run b calls).buffer.jitterEstimateMs ∧
      ∀ packet now, Gradual (run b calls).buffer
        ((run b calls).buffer.insertPacket packet now).2 := by
  have hbounds := run_bounds hnew calls
  have hconfig := (run_config hnew calls).2
  refine ⟨?_, hbounds.jitter, ?_⟩
  · rw [← hconfig]
    exact hbounds.target
  · intro packet now
    exact (insertPacket_gradual hbounds packet now).2

/-- The second of two packets captured together arrives a tenth of a second later, and the
delay takes a step. -/
theorem delay_adapts_gradually_default :
    ∃ b, JitterBuffer.new BufferConfig.default = .ok b ∧
      let calls : List BufferCall := [.insertPacket (makePacket 0 0 0) (Instant.ofMillis 0)]
      let b' := ((run b calls).buffer.insertPacket (makePacket 1 1 0) (Instant.ofMillis 100)).2
      b'.targetDelay ≠ (run b calls).buffer.targetDelay ∧ Gradual (run b calls).buffer b' := by
  refine ⟨_, rfl, by decide +kernel, ?_⟩
  exact (@delay_adapts_gradually BufferConfig.default _ rfl _).2.2 _ _

/-! ## Panics -/

/-- On a buffer built from a valid configuration, in every run and for any timestamps and
clock readings: no insertion panics exactly when every accepted packet, where the
configuration adapts the delay, keeps its arithmetic in the range of durations. -/
theorem never_panics_iff {config : BufferConfig} {b : JitterBuffer}
    (hnew : JitterBuffer.new config = .ok b) (calls : List BufferCall) :
    (∀ before packet now, before ++ [.insertPacket packet now] <+: calls →
        ((run b before).buffer.insertPacket packet now).1 ≠ .panicked) ↔
      ∀ before packet now, before ++ [.insertPacket packet now] <+: calls →
        (run b before).buffer.Accepts packet.sequenceNumber → config.adaptiveEnabled = true →
        (run b before).buffer.AdaptsInRange packet now := by
  apply forall_congr'
  intro before
  have hpanic := fun packet now =>
    @insertPacket_ne_panicked_iff (run b before).buffer packet now (run_bounds hnew before)
  have hconfig := (run_config hnew before).2
  simp only [hpanic, hconfig]

instance AdaptsInRange.instDecidable (b : JitterBuffer) (packet : AudioPacket) (now : Instant) :
    Decidable (b.AdaptsInRange packet now) :=
  inferInstanceAs (Decidable (_ ∧ (_ → _ → _)))

/-- Two packets captured together that arrive a tenth of a second apart. -/
def lateArrival : List BufferCall :=
  [.insertPacket (makePacket 0 0 0) (Instant.ofMillis 0),
    .insertPacket (makePacket 1 1 0) (Instant.ofMillis 100)]

/-- The production defaults take a step without leaving the range. -/
theorem never_panics_default :
    ∃ b, JitterBuffer.new BufferConfig.default = .ok b ∧
      ∀ before packet now, before ++ [.insertPacket packet now] <+: lateArrival →
        ((run b before).buffer.insertPacket packet now).1 ≠ .panicked := by
  refine ⟨_, rfl, (@never_panics_iff BufferConfig.default _ rfl lateArrival).mpr ?_⟩
  intro before packet now hwithin
  rcases before with _ | ⟨first, _ | ⟨second, rest⟩⟩
  · simp only [lateArrival, List.nil_append, List.cons_prefix_cons, List.nil_prefix, and_true,
      BufferCall.insertPacket.injEq] at hwithin
    rcases hwithin with ⟨rfl, rfl⟩
    decide +kernel
  · simp only [lateArrival, List.cons_append, List.nil_append, List.cons_prefix_cons,
      List.nil_prefix, and_true, BufferCall.insertPacket.injEq] at hwithin
    rcases hwithin with ⟨rfl, rfl, rfl⟩
    decide +kernel
  · simp [lateArrival] at hwithin

/-- A configuration with the largest adaptive step passes the validation, and the second
of the two packets panics in the addition of that step. -/
theorem leaping_step_panics :
    ∃ b, JitterBuffer.new ManagerRun.leapingConfig = .ok b ∧
      (run b lateArrival).answers = [.ok (), .panicked] ∧
        ¬ ∀ before packet now, before ++ [.insertPacket packet now] <+: lateArrival →
          ((run b before).buffer.insertPacket packet now).1 ≠ .panicked := by
  refine ⟨_, rfl, by decide +kernel, ?_⟩
  intro hnever
  exact hnever [.insertPacket (makePacket 0 0 0) (Instant.ofMillis 0)] (makePacket 1 1 0)
    (Instant.ofMillis 100) List.prefix_rfl (by decide +kernel)

/-! ## Clock readings that do not go back -/

/-- The clock reading of an insertion is not before the one of the insertion before it. -/
def ReadsForward (r : BufferRun) : BufferCall → Prop
  | .insertPacket _ now => ∀ last ∈ r.buffer.lastArrival, last ≤ now
  | _ => True

/-- The jitter estimate is bounded by the time that has passed and the largest difference
of two timestamps. -/
def JitterBound (b : JitterBuffer) : Prop :=
  b.jitterEstimateMs ≤ (b.lastArrival.elim 0 Instant.nanos : Nat) / (16 * 10 ^ 6) + 2 ^ 64

/-- The distance of two gaps, in terms of the two readings. -/
theorem abs_gap_le {now last : Instant} (h : last ≤ now) (timestamp lastTs : U64) :
    |(now.elapsedSince last).asSecsF64 * 1000 - ((timestamp.val : ℚ) - (lastTs.val : ℚ))| ≤
      ((now.nanos : ℚ) - last.nanos) / 10 ^ 6 + 2 ^ 64 := by
  have hgap : (now.elapsedSince last).asSecsF64 * 1000 =
      ((now.nanos : ℚ) - last.nanos) / 10 ^ 6 := by
    rw [Duration.asSecsF64, Instant.elapsedSince_nanos, Nat.cast_sub h, nanosPerSec]
    push_cast
    ring
  have hsmall : ∀ n : U64, (n.val : ℚ) < 2 ^ 64 := fun n => by exact_mod_cast n.isLt
  have hnonneg : (0 : ℚ) ≤ ((now.nanos : ℚ) - last.nanos) / 10 ^ 6 := by
    have hle : (last.nanos : ℚ) ≤ now.nanos := by exact_mod_cast h
    exact div_nonneg (sub_nonneg.mpr hle) (by positivity)
  have htimestamp := hsmall timestamp
  have hlastTs := hsmall lastTs
  have hpos : (0 : ℚ) ≤ timestamp.val := Nat.cast_nonneg _
  have hpos' : (0 : ℚ) ≤ lastTs.val := Nat.cast_nonneg _
  rw [hgap, abs_le]
  constructor <;> linarith

/-- One packet keeps the bound. -/
theorem updateJitterEstimate_bound {b : JitterBuffer} (h : JitterBound b) (packet : AudioPacket)
    {now : Instant} (hforward : ∀ last ∈ b.lastArrival, last ≤ now) :
    JitterBound (b.updateJitterEstimate packet now) := by
  have hpassed : (b.lastArrival.elim 0 Instant.nanos : Nat) ≤ now.nanos := by
    cases harrival : b.lastArrival with
    | none => exact Nat.zero_le _
    | some last => exact hforward last harrival
  have hcast : ((b.lastArrival.elim 0 Instant.nanos : Nat) : ℚ) ≤ now.nanos := by
    exact_mod_cast hpassed
  unfold JitterBound at *
  unfold updateJitterEstimate
  dsimp only [Option.elim_some]
  split
  · rename_i lastTs last _ harrival
    have hdistance := abs_gap_le (hforward last harrival) packet.timestampMs lastTs
    have hpos : (0 : ℚ) ≤ last.nanos := Nat.cast_nonneg _
    rw [harrival, Option.elim_some] at h
    linarith
  · linarith

/-- Readings that do not go back keep the estimate bounded. -/
theorem step_jitterBound {r : BufferRun} (h : JitterBound r.buffer) {call : BufferCall}
    (hforward : r.ReadsForward call) : JitterBound (r.step call).buffer := by
  cases call with
  | insertPacket packet now =>
      have hmove := insertMove r.buffer packet now
      change JitterBound (r.buffer.insertPacket packet now).2
      generalize r.buffer.insertPacket packet now = outcome at hmove ⊢
      cases hmove with
      | buffered hmem => exact h
      | cached hfresh hseen => exact h
      | passed hfresh hunseen hpassed => exact h
      | stored haccepts =>
          rw [adaptIfEnabled_eq, admitted, makeRoom_eq]
          exact updateJitterEstimate_bound (b := { r.buffer with
            entries := r.buffer.makeRoom.entries
            packetsDroppedTotal := r.buffer.makeRoom.packetsDroppedTotal
            window := (r.buffer.window.admitSequence packet.sequenceNumber).2 }) h packet hforward
  | nextPacket clock =>
      change JitterBound (r.buffer.nextPacket clock).2
      rw [nextPacket_eq]
      exact h
  | flush =>
      change JitterBound r.buffer.flush.2
      rw [flush_eq]
      exact h
  | setTargetDelay delay =>
      change JitterBound (r.buffer.setTargetDelay delay).2
      unfold JitterBuffer.setTargetDelay
      split_ifs <;> exact h
  | reset =>
      change (0 : ℚ) ≤ _
      positivity

theorem run_jitterBound {config : BufferConfig} {b : JitterBuffer}
    (hnew : JitterBuffer.new config = .ok b) (calls : List BufferCall)
    (hforward : ∀ before call, before ++ [call] <+: calls → (run b before).ReadsForward call) :
    JitterBound (run b calls).buffer := by
  induction calls using List.reverseRecOn with
  | nil =>
      rcases JitterBuffer.new_spec hnew with ⟨-, rfl⟩
      change (0 : ℚ) ≤ _
      positivity
  | append_singleton calls call ih =>
      rw [run_concat]
      apply step_jitterBound
      · apply ih
        intro before call hwithin
        exact hforward before call (hwithin.trans (List.prefix_append _ _))
      · exact hforward calls call List.prefix_rfl

/-- For clock readings that do not go back, the conversion of the jitter estimate is always
in range: only the addition of an adaptive step can panic. -/
theorem headroom_in_range {config : BufferConfig} {b : JitterBuffer}
    (hnew : JitterBuffer.new config = .ok b) {calls : List BufferCall} {packet : AudioPacket}
    {now : Instant} (hforward : ∀ before call,
      before ++ [call] <+: calls ++ [.insertPacket packet now] →
      (run b before).ReadsForward call) :
    (run b calls).buffer.headroomNanos packet now < durationLimit := by
  have hbound : JitterBound (run b calls).buffer := by
    apply run_jitterBound hnew
    intro before call hwithin
    exact hforward before call (hwithin.trans (List.prefix_append _ _))
  have hjitter := updateJitterEstimate_bound hbound packet
    (hforward calls (.insertPacket packet now) List.prefix_rfl)
  generalize hestimate : ((run b calls).buffer.updateJitterEstimate packet now) = updated
    at hjitter
  have harrival : updated.lastArrival = some now := by
    rw [← hestimate]
    rfl
  rw [JitterBound, harrival, Option.elim_some] at hjitter
  have hnow : (now.nanos : ℚ) < 2 ^ 64 * 10 ^ 9 := by
    have hlimit := now.lt_limit
    rw [durationLimit, nanosPerSec] at hlimit
    exact_mod_cast hlimit
  have hround := (abs_le.mp (abs_roundTiesEven_sub_le
    (updated.jitterEstimateMs * 4 / 1000 * nanosPerSec))).2
  rw [headroomNanos, hestimate, Int.toNat_lt_of_ne_zero (by decide)]
  have hrange : (roundTiesEven (updated.jitterEstimateMs * 4 / 1000 * nanosPerSec) : ℚ) <
      (durationLimit : ℚ) := by
    rw [durationLimit, nanosPerSec] at *
    push_cast at *
    linarith
  exact_mod_cast hrange

end BufferRun

end Buffer
end EchoSync
