import EchoSync.Foundations.Approach
import EchoSync.Sync.Synchronizer

/-!
# Clock Synchronization Engine - Gradual correction

The applied offset follows its target by a clamped proportional approach.  A run of a
clock manager is a list of the bodies that the synchronizer executes under its lock, so
it covers every interleaving of the calls of any number of tasks.

Main results:

- Theorem {lit}`ClockManager.correctDrift_currentOffsetMs`: a correction is one move of
  the approach.
- Theorem {lit}`ClockManager.run_invariant`: both offsets stay within the allowed range.
- Theorem {lit}`ClockManager.offsets_gradual`: the offsets are bounded, the applied one
  moves gradually, and updates alone synchronize the clock.
-/

namespace EchoSync
namespace Sync

theorem durationToMillis_pos {d : Duration} (h : d.isZero = false) : 0 < durationToMillis d := by
  have hnanos : 0 < d.nanos := by
    apply Nat.pos_of_ne_zero
    simpa [Duration.isZero] using h
  have hsecs : (0 : ℚ) < d.nanos / nanosPerSec := by
    apply div_pos
    · exact_mod_cast hnanos
    · norm_num [nanosPerSec]
  unfold durationToMillis Duration.asSecsF64
  linarith

/-- The approach that a valid configuration describes. -/
def ValidSyncConfig.approach {config : SyncConfig} (h : ValidSyncConfig config) : Approach ℚ where
  rate := config.correctionRate
  maxStep := durationToMillis config.maxCorrectionStep
  rate_pos := h.correctionRate_pos
  rate_le_one := h.correctionRate_le_one
  maxStep_pos := durationToMillis_pos h.maxCorrectionStep_pos

namespace ClockManager

/-- A body that is executed on the clock under the lock. -/
inductive ClockCall where
  | applyOffset (offsetMs : ℚ) (now : Instant)
  | synchronize (hostTimestamp localTimestamp : Duration) (now : Instant)
  | correctDrift
  | reset (now : Instant)

/-- Execute one body. -/
def step (c : ClockManager) : ClockCall → ClockManager
  | .applyOffset offsetMs now => (c.applyOffset offsetMs now).2
  | .synchronize hostTimestamp localTimestamp now =>
      (c.synchronizePass hostTimestamp localTimestamp now).2
  | .correctDrift => c.correctDrift.2
  | .reset now => c.reset now

/-! ## One correction -/

/-- A correction changes the applied offset and the counters alone. -/
theorem correctDrift_frame (c : ClockManager) :
    c.correctDrift.2 =
      { c with
        currentOffsetMs := c.correctDrift.2.currentOffsetMs
        stats := c.correctDrift.2.stats } := by
  unfold correctDrift
  split_ifs
  · rfl
  · dsimp only
    split_ifs <;> rfl

/-- A correction adds its step, which is zero at the target. -/
theorem correctDrift_currentOffset (c : ClockManager) :
    c.correctDrift.2.currentOffsetMs = c.currentOffsetMs + c.correctionStep := by
  unfold correctDrift
  split_ifs with hzero
  · have hstep : c.correctionStep = 0 := by
      have hnonneg := durationToMillis_nonneg c.config.maxCorrectionStep
      simp [correctionStep, hzero, hnonneg]
    rw [hstep, add_zero]
  · dsimp only
    split_ifs <;> rfl

/-- A correction is one move of the approach. -/
theorem correctDrift_currentOffsetMs {config : SyncConfig} {c : ClockManager}
    (hvalid : ValidSyncConfig config) (hconfig : c.config = config) :
    c.correctDrift.2.currentOffsetMs =
      hvalid.approach.next c.targetOffsetMs c.currentOffsetMs := by
  subst hconfig
  exact correctDrift_currentOffset c

@[simp]
theorem correctDrift_config (c : ClockManager) : c.correctDrift.2.config = c.config := by
  rw [correctDrift_frame]

@[simp]
theorem correctDrift_targetOffsetMs (c : ClockManager) :
    c.correctDrift.2.targetOffsetMs = c.targetOffsetMs := by
  rw [correctDrift_frame]

@[simp]
theorem correctDrift_hasSynced (c : ClockManager) : c.correctDrift.2.hasSynced = c.hasSynced := by
  rw [correctDrift_frame]

/-- The clock after an accepted offset and a new drift estimate. -/
def measured (c : ClockManager) (offsetMs : ℚ) (now : Instant) : ClockManager :=
  (c.applyOffset offsetMs now).2.estimateDrift.2

theorem applyOffset_of_le {c : ClockManager} {offsetMs : ℚ} (now : Instant)
    (hle : |offsetMs| ≤ durationToMillis c.config.maxAllowedOffset) :
    (c.applyOffset offsetMs now).1 = .ok () ∧
      (c.applyOffset offsetMs now).2.config = c.config ∧
      (c.applyOffset offsetMs now).2.targetOffsetMs = offsetMs ∧
      (c.applyOffset offsetMs now).2.currentOffsetMs =
        (if c.hasSynced then c.currentOffsetMs else offsetMs) ∧
      (c.applyOffset offsetMs now).2.hasSynced = true ∧
      (c.applyOffset offsetMs now).2.driftEstimator =
        c.driftEstimator.recordSample (c.localTime now).asSecsF64 offsetMs := by
  simp [applyOffset, not_lt.mpr hle]

theorem applyOffset_of_lt {c : ClockManager} {offsetMs : ℚ} (now : Instant)
    (hlt : durationToMillis c.config.maxAllowedOffset < |offsetMs|) :
    (c.applyOffset offsetMs now).2 = c := by
  simp [applyOffset, hlt]

/-- An estimate changes the drift and the counters alone. -/
theorem estimateDrift_frame (c : ClockManager) :
    c.estimateDrift.2 =
      { c with
        currentDriftPpm := c.driftEstimator.estimatePpm
        stats := c.stats.recordDrift c.driftEstimator.estimatePpm } := by
  unfold estimateDrift
  dsimp only
  split_ifs <;> rfl

/-- An estimate fails when it is out of range. -/
theorem estimateDrift_cases (c : ClockManager) :
    (c.config.maxDriftPpm < |c.estimateDrift.2.currentDriftPpm| ∧
      c.estimateDrift =
        (.error (.driftOutOfRange c.estimateDrift.2.currentDriftPpm c.config.maxDriftPpm),
          c.estimateDrift.2)) ∨
    c.estimateDrift = (.ok c.estimateDrift.2.currentDriftPpm, c.estimateDrift.2) := by
  rw [estimateDrift_frame]
  by_cases hdrift : c.config.maxDriftPpm < |c.driftEstimator.estimatePpm|
  · left
    exact ⟨hdrift, by simp [estimateDrift, hdrift]⟩
  · right
    simp [estimateDrift, hdrift]

/-- What an accepted measurement does to the offsets. -/
structure Measured (c m : ClockManager) (offsetMs : ℚ) : Prop where
  config : m.config = c.config
  target : m.targetOffsetMs = offsetMs
  current : m.currentOffsetMs = if c.hasSynced then c.currentOffsetMs else offsetMs
  synced : m.hasSynced = true

theorem measured_spec {c : ClockManager} {offsetMs : ℚ} (now : Instant)
    (hle : |offsetMs| ≤ durationToMillis c.config.maxAllowedOffset) :
    Measured c (c.measured offsetMs now) offsetMs := by
  rcases applyOffset_of_le now hle with ⟨-, hconfig, htarget, hcurrent, hsynced, -⟩
  unfold measured
  rw [estimateDrift_frame]
  exact ⟨hconfig, htarget, hcurrent, hsynced⟩

/-- The offset that a pass measures. -/
def measuredOffset (hostTimestamp localTimestamp : Duration) : ℚ :=
  durationToMillis hostTimestamp - durationToMillis localTimestamp

/-- Everything that one pass can do: it fails before it touches the offsets, it fails
after it took the measurement over, or it corrects the clock once. -/
inductive PassMove (c : ClockManager) (offsetMs : ℚ) (now : Instant) :
    Except SyncError Unit × ClockManager → Prop where
  | outOfRange (hlt : durationToMillis c.config.maxAllowedOffset < |offsetMs|) :
      PassMove c offsetMs now
        (.error (.offsetOutOfRange offsetMs (durationToMillis c.config.maxAllowedOffset)),
          c.recordFailure)
  | drifting (hle : |offsetMs| ≤ durationToMillis c.config.maxAllowedOffset)
      (hdrift : c.config.maxDriftPpm < |(c.measured offsetMs now).currentDriftPpm|) :
      PassMove c offsetMs now
        (.error (.driftOutOfRange (c.measured offsetMs now).currentDriftPpm c.config.maxDriftPpm),
          (c.measured offsetMs now).recordFailure)
  | corrected (hle : |offsetMs| ≤ durationToMillis c.config.maxAllowedOffset) :
      PassMove c offsetMs now (.ok (), (c.measured offsetMs now).correctDrift.2.recordSuccess)

theorem synchronizePass_of_lt {c : ClockManager} {hostTimestamp localTimestamp : Duration}
    (now : Instant) (hlt : durationToMillis c.config.maxAllowedOffset <
      |measuredOffset hostTimestamp localTimestamp|) :
    c.synchronizePass hostTimestamp localTimestamp now =
      (.error (.offsetOutOfRange (measuredOffset hostTimestamp localTimestamp)
        (durationToMillis c.config.maxAllowedOffset)), c.recordFailure) := by
  unfold measuredOffset at *
  simp [synchronizePass, calculateOffset, hlt]

theorem synchronizePass_of_le {c : ClockManager} {hostTimestamp localTimestamp : Duration}
    (now : Instant) (hle : |measuredOffset hostTimestamp localTimestamp| ≤
      durationToMillis c.config.maxAllowedOffset) :
    c.synchronizePass hostTimestamp localTimestamp now =
      match (c.applyOffset (measuredOffset hostTimestamp localTimestamp) now).2.estimateDrift with
      | (.error e, m) => (.error e, m.recordFailure)
      | (.ok _, m) => (.ok (), m.correctDrift.2.recordSuccess) := by
  have hok := (applyOffset_of_le now hle).1
  unfold measuredOffset at *
  rcases happly : c.applyOffset (durationToMillis hostTimestamp -
    durationToMillis localTimestamp) now with ⟨result, applied⟩
  rw [happly] at hok
  cases hok
  rcases hestimate : applied.estimateDrift with ⟨result, m⟩
  cases result with
  | error e => simp [synchronizePass, calculateOffset, not_lt.mpr hle, happly, hestimate]
  | ok driftPpm => simp [synchronizePass, calculateOffset, not_lt.mpr hle, happly, hestimate]

theorem passMove (c : ClockManager) (hostTimestamp localTimestamp : Duration) (now : Instant) :
    PassMove c (measuredOffset hostTimestamp localTimestamp) now
      (c.synchronizePass hostTimestamp localTimestamp now) := by
  rcases lt_or_ge (durationToMillis c.config.maxAllowedOffset)
    |measuredOffset hostTimestamp localTimestamp| with hlt | hle
  · rw [synchronizePass_of_lt now hlt]
    exact .outOfRange hlt
  · have hconfig := (applyOffset_of_le now hle).2.1
    have hmeasured : c.measured (measuredOffset hostTimestamp localTimestamp) now =
        (c.applyOffset (measuredOffset hostTimestamp localTimestamp) now).2.estimateDrift.2 := rfl
    rw [synchronizePass_of_le now hle]
    rcases (c.applyOffset (measuredOffset hostTimestamp localTimestamp) now).2.estimateDrift_cases
      with ⟨hdrift, hresult⟩ | hresult
    · rw [hresult, ← hmeasured, hconfig]
      rw [← hmeasured, hconfig] at hdrift
      exact .drifting hle hdrift
    · rw [hresult, ← hmeasured]
      exact .corrected hle

/-! ## Runs -/

/-- The clock has the configuration it was built with, and neither offset leaves the
allowed range. -/
structure OffsetInvariant (config : SyncConfig) (c : ClockManager) : Prop where
  sameConfig : c.config = config
  target : |c.targetOffsetMs| ≤ durationToMillis config.maxAllowedOffset
  current : |c.currentOffsetMs| ≤ durationToMillis config.maxAllowedOffset

section Runs

variable {config : SyncConfig} {c m : ClockManager}

/-- A measurement in range keeps both offsets in range. -/
theorem OffsetInvariant.measured (h : OffsetInvariant config c) {offsetMs : ℚ}
    (hle : |offsetMs| ≤ durationToMillis config.maxAllowedOffset)
    (hmeasured : Measured c m offsetMs) : OffsetInvariant config m where
  sameConfig := hmeasured.config.trans h.sameConfig
  target := by
    rw [hmeasured.target]
    exact hle
  current := by
    rw [hmeasured.current]
    split_ifs
    · exact h.current
    · exact hle

/-- A correction stays between two values in range. -/
theorem OffsetInvariant.correctDrift (hvalid : ValidSyncConfig config)
    (h : OffsetInvariant config c) : OffsetInvariant config c.correctDrift.2 where
  sameConfig := (correctDrift_config c).trans h.sameConfig
  target := by
    rw [correctDrift_targetOffsetMs]
    exact h.target
  current := by
    have hbetween := hvalid.approach.next_mem_uIcc c.targetOffsetMs c.currentOffsetMs
    rw [← correctDrift_currentOffsetMs hvalid h.sameConfig] at hbetween
    exact abs_le.mpr (Set.uIcc_subset_Icc (abs_le.mp h.current) (abs_le.mp h.target) hbetween)

/-- Every body keeps the offsets in range. -/
theorem step_invariant (hvalid : ValidSyncConfig config) (h : OffsetInvariant config c)
    (call : ClockCall) : OffsetInvariant config (c.step call) := by
  cases call with
  | applyOffset offsetMs now =>
      rcases lt_or_ge (durationToMillis c.config.maxAllowedOffset) |offsetMs| with hlt | hle
      · rw [step, applyOffset_of_lt now hlt]
        exact h
      · rcases applyOffset_of_le now hle with ⟨-, hconfig, htarget, hcurrent, hsynced, -⟩
        exact h.measured (h.sameConfig ▸ hle) ⟨hconfig, htarget, hcurrent, hsynced⟩
  | synchronize hostTimestamp localTimestamp now =>
      have hmove := passMove c hostTimestamp localTimestamp now
      rw [step]
      generalize c.synchronizePass hostTimestamp localTimestamp now = pass at hmove
      cases hmove with
      | outOfRange hlt => exact ⟨h.sameConfig, h.target, h.current⟩
      | drifting hle =>
          have hm := h.measured (h.sameConfig ▸ hle) (measured_spec now hle)
          exact ⟨hm.sameConfig, hm.target, hm.current⟩
      | corrected hle =>
          have hm := (h.measured (h.sameConfig ▸ hle) (measured_spec now hle)).correctDrift hvalid
          exact ⟨hm.sameConfig, hm.target, hm.current⟩
  | correctDrift => exact h.correctDrift hvalid
  | reset now =>
      have hzero : |(0 : ℚ)| ≤ durationToMillis config.maxAllowedOffset := by
        rw [abs_zero]
        exact durationToMillis_nonneg _
      exact ⟨h.sameConfig, hzero, hzero⟩

/-! ## Gradual changes -/

/-- Whether a body comes to its correction. -/
def ClockCall.Corrects (c : ClockManager) : ClockCall → Prop
  | .correctDrift => True
  | .synchronize hostTimestamp localTimestamp now =>
      (c.synchronizePass hostTimestamp localTimestamp now).1 = .ok ()
  | _ => False

/-- How one body changes the applied offset: not at all without a correction, and with
one by the step of the correction, no further than the target. -/
structure Gradual (c : ClockManager) (call : ClockCall) : Prop where
  kept : ¬ call.Corrects c → (c.step call).currentOffsetMs = c.currentOffsetMs
  moved : call.Corrects c → (c.step call).currentOffsetMs = c.currentOffsetMs +
    { c with targetOffsetMs := (c.step call).targetOffsetMs }.correctionStep
  size : |(c.step call).currentOffsetMs - c.currentOffsetMs| ≤
    durationToMillis c.config.maxCorrectionStep
  between : (c.step call).currentOffsetMs ∈
    Set.uIcc c.currentOffsetMs (c.step call).targetOffsetMs

/-- A body without a correction. -/
theorem Gradual.of_kept {call : ClockCall} (hcorrects : ¬ call.Corrects c)
    (hkept : (c.step call).currentOffsetMs = c.currentOffsetMs) : Gradual c call where
  kept := fun _ => hkept
  moved := fun h => absurd h hcorrects
  size := by
    rw [hkept, sub_self, abs_zero]
    exact durationToMillis_nonneg _
  between := hkept ▸ Set.left_mem_uIcc

/-- A body with a correction. -/
theorem Gradual.of_moved (hvalid : ValidSyncConfig c.config) {call : ClockCall}
    (hcorrects : call.Corrects c)
    (hmoved : (c.step call).currentOffsetMs = c.currentOffsetMs +
      { c with targetOffsetMs := (c.step call).targetOffsetMs }.correctionStep) :
    Gradual c call where
  kept := fun h => absurd hcorrects h
  moved := fun _ => hmoved
  size := by
    rw [hmoved, add_sub_cancel_left]
    exact abs_correctionStep_le _
  between := by
    rw [hmoved]
    exact hvalid.approach.next_mem_uIcc (c.step call).targetOffsetMs c.currentOffsetMs

/-- After the first accepted offset, every body but a reset is gradual. -/
theorem step_gradual (hvalid : ValidSyncConfig c.config) (hsynced : c.hasSynced = true)
    {call : ClockCall} (hreset : ∀ now, call ≠ .reset now) : Gradual c call := by
  cases call with
  | applyOffset offsetMs now =>
      apply Gradual.of_kept (by nofun)
      rw [step]
      rcases lt_or_ge (durationToMillis c.config.maxAllowedOffset) |offsetMs| with hlt | hle
      · rw [applyOffset_of_lt now hlt]
      · rw [(applyOffset_of_le now hle).2.2.2.1, if_pos hsynced]
  | synchronize hostTimestamp localTimestamp now =>
      have hmove := passMove c hostTimestamp localTimestamp now
      generalize hpass : c.synchronizePass hostTimestamp localTimestamp now = pass at hmove
      cases hmove with
      | outOfRange hlt =>
          apply Gradual.of_kept
          · simp [ClockCall.Corrects, hpass]
          · rw [step, hpass]
            rfl
      | drifting hle =>
          apply Gradual.of_kept
          · simp [ClockCall.Corrects, hpass]
          · rw [step, hpass]
            have hcurrent := (measured_spec now hle).current
            rwa [if_pos hsynced] at hcurrent
      | corrected hle =>
          have hmeasured := measured_spec now hle
          have hcurrent := hmeasured.current
          rw [if_pos hsynced] at hcurrent
          apply Gradual.of_moved hvalid
          · simp [ClockCall.Corrects, hpass]
          · have hsame : { c with targetOffsetMs := (c.measured (measuredOffset hostTimestamp
                localTimestamp) now).targetOffsetMs }.correctionStep =
                (c.measured (measuredOffset hostTimestamp localTimestamp) now).correctionStep := by
              simp only [correctionStep, hmeasured.config, hcurrent]
            rw [step, hpass]
            simp only [recordSuccess, correctDrift_targetOffsetMs, correctDrift_currentOffset,
              hcurrent, hsame]
  | correctDrift =>
      apply Gradual.of_moved hvalid
      · exact trivial
      · rw [step, correctDrift_targetOffsetMs]
        exact correctDrift_currentOffset c
  | reset now => exact absurd rfl (hreset now)

/-! ## Consecutive updates -/

/-- The clock after so many corrections. -/
def corrected (c : ClockManager) (n : ℕ) : ClockManager :=
  (fun c => c.correctDrift.2)^[n] c

/-- Corrections move the applied offset along the approach, and nothing else. -/
theorem corrected_spec (hvalid : ValidSyncConfig config) (hconfig : c.config = config) (n : ℕ) :
    (c.corrected n).config = config ∧ (c.corrected n).targetOffsetMs = c.targetOffsetMs ∧
      (c.corrected n).hasSynced = c.hasSynced ∧
      (c.corrected n).currentOffsetMs =
        (hvalid.approach.next c.targetOffsetMs)^[n] c.currentOffsetMs := by
  induction n with
  | zero => exact ⟨hconfig, rfl, rfl, rfl⟩
  | succ n ih =>
      rcases ih with ⟨hsame, htarget, hsynced, hcurrent⟩
      have hmove := correctDrift_currentOffsetMs hvalid hsame
      have hnext : c.corrected (n + 1) = (c.corrected n).correctDrift.2 :=
        Function.iterate_succ_apply' _ n c
      rw [hnext, Function.iterate_succ_apply']
      refine ⟨?_, ?_, ?_, ?_⟩
      · rw [correctDrift_config, hsame]
      · rw [correctDrift_targetOffsetMs, htarget]
      · rw [correctDrift_hasSynced, hsynced]
      · rw [hmove, htarget, hcurrent]

/-- A synchronized clock after so many corrections, in terms of the approach. -/
theorem corrected_isSynchronized_iff (hvalid : ValidSyncConfig config)
    (hconfig : c.config = config) (hsynced : c.hasSynced = true) (n : ℕ) :
    (c.corrected n).isSynchronized = true ↔
      |c.targetOffsetMs - (hvalid.approach.next c.targetOffsetMs)^[n] c.currentOffsetMs| ≤
        durationToMillis config.resyncThreshold := by
  rcases corrected_spec hvalid hconfig n with ⟨hsame, htarget, hkept, hcurrent⟩
  simp [isSynchronized, hsame, htarget, hkept, hsynced, hcurrent]

/-- Finitely many corrections synchronize a clock that has an offset, and it stays
synchronized under further ones. -/
theorem corrected_converges (hvalid : ValidSyncConfig config) (hconfig : c.config = config)
    (hsynced : c.hasSynced = true) :
    (∃ n, (c.corrected n).isSynchronized = true) ∧
      ∀ n k, (c.corrected n).isSynchronized = true →
        (c.corrected (n + k)).isSynchronized = true := by
  have hthreshold := durationToMillis_pos hvalid.resyncThreshold_pos
  constructor
  · rcases hvalid.approach.exists_iterate_le c.targetOffsetMs c.currentOffsetMs hthreshold with
      ⟨n, hn⟩
    exact ⟨n, (corrected_isSynchronized_iff hvalid hconfig hsynced n).mpr hn⟩
  · intro n k hn
    rw [corrected_isSynchronized_iff hvalid hconfig hsynced] at hn ⊢
    exact (hvalid.approach.iterate_antitone _ _ n k).trans hn

/-- A clock built from a valid configuration. -/
theorem new_spec {now : Instant} (hnew : ClockManager.new config now = .ok c) :
    ValidSyncConfig config ∧ c = ofConfig config now := by
  unfold ClockManager.new at hnew
  cases hvalid : config.validate with
  | error e =>
      rw [hvalid] at hnew
      contradiction
  | ok _ =>
      rw [hvalid] at hnew
      cases hnew
      exact ⟨SyncConfig.validate_eq_ok_iff.mp hvalid, rfl⟩

theorem new_default (now : Instant) :
    ClockManager.new SyncConfig.default now = .ok (ofConfig SyncConfig.default now) := by
  rw [ClockManager.new, SyncConfig.default_validates]

/-- The offsets of a clock stay in range in every run. -/
theorem run_invariant {now : Instant} (hnew : ClockManager.new config now = .ok c)
    (calls : List ClockCall) : OffsetInvariant config (calls.foldl step c) := by
  rcases new_spec hnew with ⟨hvalid, rfl⟩
  have hzero : |(0 : ℚ)| ≤ durationToMillis config.maxAllowedOffset := by
    rw [abs_zero]
    exact durationToMillis_nonneg _
  exact List.foldlRecOn calls step ⟨rfl, hzero, hzero⟩
    fun _ hc call _ => step_invariant hvalid hc call

/-- On a clock built from a valid configuration, in every run: the target and the applied
offset stay within the allowed range; after the first accepted offset of a session the
applied offset changes only through corrections, by at most the largest step, towards the
target and never past it; and then finitely many updates synchronize the clock, which
stays synchronized under any further ones. -/
theorem offsets_gradual {now : Instant} (hnew : ClockManager.new config now = .ok c)
    (calls : List ClockCall) :
    (|(calls.foldl step c).targetOffsetMs| ≤ durationToMillis config.maxAllowedOffset ∧
      |(calls.foldl step c).currentOffsetMs| ≤ durationToMillis config.maxAllowedOffset) ∧
    ((calls.foldl step c).hasSynced = true →
      (∀ call, (∀ now, call ≠ .reset now) → Gradual (calls.foldl step c) call) ∧
      (∃ n, ((calls.foldl step c).corrected n).isSynchronized = true) ∧
      ∀ n k, ((calls.foldl step c).corrected n).isSynchronized = true →
        ((calls.foldl step c).corrected (n + k)).isSynchronized = true) := by
  have hvalid := (new_spec hnew).1
  have hinv := run_invariant hnew calls
  refine ⟨⟨hinv.target, hinv.current⟩, ?_⟩
  intro hsynced
  constructor
  · intro call hreset
    exact step_gradual (hinv.sameConfig.symm ▸ hvalid) hsynced hreset
  · exact corrected_converges hvalid hinv.sameConfig hsynced

/-- Over the default configuration, an offset of ten milliseconds and a new target of a
second: the offsets are in range, and updates synchronize the clock. -/
theorem offsets_gradual_default :
    ∃ c, ClockManager.new SyncConfig.default (Instant.ofMillis 0) = .ok c ∧
      let calls : List ClockCall :=
        [.applyOffset 10 (Instant.ofMillis 0), .applyOffset 1000 (Instant.ofMillis 5000)]
      (calls.foldl step c).isSynchronized = false ∧
        |(calls.foldl step c).targetOffsetMs| ≤ 2000 ∧
        ∃ n, ((calls.foldl step c).corrected n).isSynchronized = true := by
  have hgradual := offsets_gradual (new_default (Instant.ofMillis 0))
    [.applyOffset 10 (Instant.ofMillis 0), .applyOffset 1000 (Instant.ofMillis 5000)]
  refine ⟨_, new_default _, by decide +kernel, by decide +kernel, ?_⟩
  exact (hgradual.2 (by decide +kernel)).2.1

end Runs

end ClockManager
end Sync
end EchoSync
