import EchoSync.Scheduler.Tasks

/-!
# Playback Scheduler - The classification of a deadline

A deadline and the current time are wide numbers of milliseconds; the classification
casts both to signed 64 bits, subtracts and negates there, and compares with thresholds
cast to unsigned 64 bits.  So it works on residues: the distance is read modulo
{lit}`2 ^ 64` as a signed number, the thresholds modulo {lit}`2 ^ 64`.

Main results:

- Theorem {lit}`classify_eq`: the classification in terms of the wrapped distance.
- Theorem {lit}`decidesExactly_iff_wraps`: a distance that wraps is still classified like the
  unbounded one only if it wraps to beyond the same threshold.
- Theorem {lit}`expiry_exact_iff`: exactly when a scheduling call decides expiry and
  earliness like the unbounded integers do.
-/

namespace EchoSync

/-! ## Signed residues -/

/-- The cast to signed 64 bits is the balanced residue. -/
theorem asI64_eq_bmod (n : Nat) : asI64 n = (n : Int).bmod (2 ^ 64) := by
  rw [asI64, Int.bmod_def]
  push_cast
  split_ifs <;> omega

/-- A signed operation has a result unless it overflows in a checked build, and the result is
the balanced residue. -/
theorem i64Result_eq (profile : BuildProfile) (n : Int) :
    i64Result profile n =
      if fitsI64 n = true ∨ profile.overflowChecks = false then some (n.bmod (2 ^ 64))
      else none := by
  unfold i64Result
  by_cases hfits : fitsI64 n = true
  · have hrange := fitsI64_iff.mp hfits
    have hsame : n.bmod (2 ^ 64) = n := Int.bmod_eq_of_le_mul_two (by omega) (by omega)
    rw [if_pos hfits, if_pos (Or.inl hfits), hsame]
  · cases hchecks : profile.overflowChecks <;> simp [hfits]

namespace U64

theorem ofInt_bmod (n : Int) : ofInt (n.bmod (2 ^ 64)) = ofInt n := by
  have hmod : n.bmod (2 ^ 64) % 2 ^ 64 = n % 2 ^ 64 := Int.bmod_emod
  rw [ofInt, ofInt, hmod]

theorem ofInt_val {n : Int} (hlow : 0 ≤ n) (hhigh : n < 2 ^ 64) :
    ((ofInt n).val : Int) = n := by
  have hmod : n % 2 ^ 64 = n := Int.emod_eq_of_lt hlow hhigh
  have hnat : n.toNat < 2 ^ 64 := by omega
  rw [ofInt, hmod, wrap_val_of_lt hnat, Int.toNat_of_nonneg hlow]

theorem lt_ofInt_iff {m : U64} {n : Int} (hlow : 0 ≤ n) (hhigh : n < 2 ^ 64) :
    m < ofInt n ↔ (m.val : Int) < n := by
  have hval := ofInt_val hlow hhigh
  rw [Fin.lt_def]
  omega

end U64

namespace Scheduler

open Streaming Sync

/-! ## The classification on residues -/

/-- The signed distance from the current time to a deadline in whole milliseconds. -/
def distanceMs (deadline now : Duration) : Int :=
  (deadline.asMillis : Int) - now.asMillis

/-- The signed distance modulo {lit}`2 ^ 64`, as the classification sees it. -/
def wrappedDistanceMs (deadline now : Duration) : Int :=
  (distanceMs deadline now).bmod (2 ^ 64)

/-- A threshold in whole milliseconds modulo {lit}`2 ^ 64`, as the classification sees it. -/
def wrappedMs (threshold : Duration) : Nat :=
  threshold.asMillis % 2 ^ 64

/-- The arithmetic of the classification does not panic: either overflow is not checked, or
the difference of the casts fits and has a negation. -/
def Subtracts (profile : BuildProfile) (deadline now : Duration) : Prop :=
  profile.overflowChecks = false ∨
    fitsI64 (asI64 deadline.asMillis - asI64 now.asMillis) = true ∧
      wrappedDistanceMs deadline now ≠ -(2 ^ 63)

instance (profile : BuildProfile) (deadline now : Duration) :
    Decidable (Subtracts profile deadline now) :=
  inferInstanceAs (Decidable (_ ∨ _))

/-- The classification of a signed distance, with the thresholds cast to 64 bits. -/
def latenessAt (config : SchedulerConfig) (diffMs : Int) : Lateness :=
  if diffMs < 0 then
    if (wrappedMs config.maxLateThreshold : Int) < -diffMs then
      .expired (U64.ofInt (-diffMs))
    else .late (U64.ofInt (-diffMs))
  else if (wrappedMs config.maxEarlyThreshold : Int) < diffMs then .early
  else .onTime

theorem wrappedDistanceMs_mem (deadline now : Duration) :
    -(2 ^ 63) ≤ wrappedDistanceMs deadline now ∧ wrappedDistanceMs deadline now < 2 ^ 63 := by
  have hlow := @Int.le_bmod (distanceMs deadline now) (2 ^ 64) (by decide)
  have hhigh := @Int.bmod_lt (distanceMs deadline now) (2 ^ 64) (by decide)
  unfold wrappedDistanceMs
  omega

/-- The difference of the casts is the distance modulo {lit}`2 ^ 64`. -/
theorem asI64_sub_bmod (deadline now : Duration) :
    (asI64 deadline.asMillis - asI64 now.asMillis).bmod (2 ^ 64) =
      wrappedDistanceMs deadline now := by
  rw [asI64_eq_bmod, asI64_eq_bmod, Int.bmod_sub_bmod, Int.sub_bmod_bmod]
  rfl

/-- The classification after the subtraction: the negation of the smallest number overflows,
and every other comparison is made on the exact number. -/
theorem classify_of_subtract {profile : BuildProfile} {config : SchedulerConfig}
    {deadline now : Duration} {diffMs : Int}
    (hsubtract : i64Result profile (asI64 deadline.asMillis - asI64 now.asMillis) = some diffMs)
    (hlow : -(2 ^ 63) ≤ diffMs) (hhigh : diffMs < 2 ^ 63) :
    classify profile config deadline now =
      if profile.overflowChecks = false ∨ diffMs ≠ -(2 ^ 63) then
        some (diffMs, latenessAt config diffMs)
      else none := by
  unfold classify latenessAt
  rw [hsubtract]
  dsimp only
  by_cases hneg : diffMs < 0
  · have hcompare : U64.wrap config.maxLateThreshold.asMillis < U64.ofInt (-diffMs) ↔
        (wrappedMs config.maxLateThreshold : Int) < -diffMs :=
      U64.lt_ofInt_iff (by omega) (by omega)
    have hfits : fitsI64 (-diffMs) = true ∨ profile.overflowChecks = false ↔
        profile.overflowChecks = false ∨ diffMs ≠ -(2 ^ 63) := by
      rw [fitsI64_iff, or_comm]
      exact or_congr_right (by omega)
    rw [if_pos hneg, if_pos hneg, i64Result_eq]
    by_cases hnegates : profile.overflowChecks = false ∨ diffMs ≠ -(2 ^ 63)
    · rw [if_pos (hfits.mpr hnegates), if_pos hnegates]
      simp only [gt_iff_lt, U64.ofInt_bmod, hcompare]
      split_ifs <;> rfl
    · rw [if_neg fun h => hnegates (hfits.mp h), if_neg hnegates]
  · have hcompare : U64.wrap config.maxEarlyThreshold.asMillis < U64.ofInt diffMs ↔
        (wrappedMs config.maxEarlyThreshold : Int) < diffMs :=
      U64.lt_ofInt_iff (by omega) (by omega)
    have hnegates : profile.overflowChecks = false ∨ diffMs ≠ -(2 ^ 63) := Or.inr (by omega)
    rw [if_neg hneg, if_neg hneg, if_pos hnegates]
    simp only [gt_iff_lt, hcompare]
    split_ifs <;> rfl

/-- The classification in terms of the wrapped distance. -/
theorem classify_eq (profile : BuildProfile) (config : SchedulerConfig)
    (deadline now : Duration) :
    classify profile config deadline now =
      if Subtracts profile deadline now then
        some (wrappedDistanceMs deadline now, latenessAt config (wrappedDistanceMs deadline now))
      else none := by
  rcases wrappedDistanceMs_mem deadline now with ⟨hlow, hhigh⟩
  have hsubtract := i64Result_eq profile (asI64 deadline.asMillis - asI64 now.asMillis)
  rw [asI64_sub_bmod] at hsubtract
  by_cases hruns : fitsI64 (asI64 deadline.asMillis - asI64 now.asMillis) = true ∨
      profile.overflowChecks = false
  · rw [if_pos hruns] at hsubtract
    rw [classify_of_subtract hsubtract hlow hhigh]
    refine if_congr ?_ rfl rfl
    unfold Subtracts
    tauto
  · rw [if_neg hruns] at hsubtract
    have hnot : ¬ Subtracts profile deadline now := by
      rintro (hchecks | ⟨hfits, -⟩)
      · exact hruns (Or.inr hchecks)
      · exact hruns (Or.inl hfits)
    rw [if_neg hnot, classify, hsubtract]

/-! ## Exact decisions -/

/-- The residues decide expiry and earliness like the unbounded integers: where the
arithmetic does not panic, each comparison comes out the same, and where it panics, the
deadline is within both thresholds. -/
structure DecidesExactly (profile : BuildProfile) (config : SchedulerConfig)
    (deadline now : Duration) : Prop where
  late : Subtracts profile deadline now →
    ((wrappedMs config.maxLateThreshold : Int) <
        -wrappedDistanceMs deadline now ↔
      (config.maxLateThreshold.asMillis : Int) < -distanceMs deadline now)
  early : Subtracts profile deadline now →
    ((wrappedMs config.maxEarlyThreshold : Int) <
        wrappedDistanceMs deadline now ↔
      (config.maxEarlyThreshold.asMillis : Int) < distanceMs deadline now)
  panics : ¬ Subtracts profile deadline now →
    -distanceMs deadline now ≤ config.maxLateThreshold.asMillis ∧
      distanceMs deadline now ≤ config.maxEarlyThreshold.asMillis

/-- The deadline and the current time lie below half the range of 64 bits, and the thresholds
below the range. -/
structure FitsSigned (config : SchedulerConfig) (deadline now : Duration) : Prop where
  deadline_lt : deadline.asMillis < 2 ^ 63
  now_lt : now.asMillis < 2 ^ 63
  late_lt : config.maxLateThreshold.asMillis < 2 ^ 64
  early_lt : config.maxEarlyThreshold.asMillis < 2 ^ 64

instance (config : SchedulerConfig) (deadline now : Duration) :
    Decidable (FitsSigned config deadline now) :=
  decidable_of_iff (_ ∧ _ ∧ _ ∧ _)
    ⟨fun ⟨hdeadline, hnow, hlate, hearly⟩ => ⟨hdeadline, hnow, hlate, hearly⟩,
      fun h => ⟨h.deadline_lt, h.now_lt, h.late_lt, h.early_lt⟩⟩

/-- A distance within the signed range does not wrap. -/
theorem wrappedDistanceMs_eq_self {deadline now : Duration}
    (hlow : -(2 ^ 63) ≤ distanceMs deadline now) (hhigh : distanceMs deadline now < 2 ^ 63) :
    wrappedDistanceMs deadline now = distanceMs deadline now :=
  Int.bmod_eq_of_le_mul_two (by omega) (by omega)

/-- Where everything fits, the decisions are exact. -/
theorem FitsSigned.decidesExactly {config : SchedulerConfig} {deadline now : Duration}
    (h : FitsSigned config deadline now) (profile : BuildProfile) :
    DecidesExactly profile config deadline now := by
  have hdeadline := h.deadline_lt
  have hnow := h.now_lt
  have hwrapped : wrappedDistanceMs deadline now = distanceMs deadline now :=
    wrappedDistanceMs_eq_self (by unfold distanceMs; omega) (by unfold distanceMs; omega)
  have hsubtracts : Subtracts profile deadline now := by
    refine Or.inr ⟨?_, ?_⟩
    · rw [asI64_of_lt hdeadline, asI64_of_lt hnow, fitsI64_iff]
      omega
    · rw [hwrapped, distanceMs]
      omega
  refine ⟨?_, ?_, fun hnot => absurd hsubtracts hnot⟩
  · intro _
    rw [hwrapped, wrappedMs, Nat.mod_eq_of_lt h.late_lt]
  · intro _
    rw [hwrapped, wrappedMs, Nat.mod_eq_of_lt h.early_lt]

/-- With thresholds below half the range, and where the arithmetic does not panic, the
decisions are exact exactly if the distance does not wrap, or wraps to beyond the threshold
that it is beyond itself. -/
theorem decidesExactly_iff_wraps {profile : BuildProfile} {config : SchedulerConfig}
    {deadline now : Duration} (hlate : config.maxLateThreshold.asMillis < 2 ^ 63)
    (hearly : config.maxEarlyThreshold.asMillis < 2 ^ 63)
    (hruns : Subtracts profile deadline now) :
    DecidesExactly profile config deadline now ↔
      wrappedDistanceMs deadline now = distanceMs deadline now ∨
      (0 < distanceMs deadline now ∧
        config.maxEarlyThreshold.asMillis < wrappedDistanceMs deadline now) ∨
      (distanceMs deadline now < 0 ∧
        config.maxLateThreshold.asMillis < -wrappedDistanceMs deadline now) := by
  have hwrappedLate : wrappedMs config.maxLateThreshold = config.maxLateThreshold.asMillis :=
    Nat.mod_eq_of_lt (by omega)
  have hwrappedEarly : wrappedMs config.maxEarlyThreshold = config.maxEarlyThreshold.asMillis :=
    Nat.mod_eq_of_lt (by omega)
  have hwraps := @wrappedDistanceMs_eq_self deadline now
  constructor
  · intro h
    have hlateSame := h.late hruns
    have hearlySame := h.early hruns
    omega
  · intro hcases
    refine ⟨fun _ => ?_, fun _ => ?_, fun hnot => absurd hruns hnot⟩
    · rw [hwrappedLate]
      omega
    · rw [hwrappedEarly]
      omega

namespace PlaybackScheduler

section Submission

variable {profile : BuildProfile} {s : PlaybackScheduler} {packet : AudioPacket}
  {deadline now : Duration}

theorem assignDeadline_stats (s : PlaybackScheduler) (adjusted : U64) (first second : Instant) :
    (s.assignDeadline adjusted first second).2.stats = s.stats := by
  unfold assignDeadline
  split_ifs
  · rfl
  · rcases s.timeline.calculateDeadline adjusted s.config.playbackLatency first with
      ⟨_ | deadline, timeline⟩
    · rfl
    · dsimp only
      split <;> rfl

theorem accept_ne_expired (s : PlaybackScheduler) (item : ScheduledPacket) (delayMs : ℚ)
    (packetId lateByMs : U64) :
    (s.accept item delayMs).1 ≠ .err (.packetExpired packetId lateByMs) := by
  unfold accept enqueueItem PlaybackQueue.enqueue
  split_ifs <;> simp

theorem accept_earlyPackets (s : PlaybackScheduler) (item : ScheduledPacket) (delayMs : ℚ) :
    (s.accept item delayMs).2.stats.earlyPackets = s.stats.earlyPackets := by
  unfold accept enqueueItem PlaybackQueue.enqueue
  split_ifs <;> rfl

/-- A packet is answered as expired exactly if the wrapped distance is beyond the late
threshold. -/
theorem submit_expired_iff :
    (∃ packetId lateByMs,
      (s.submit profile packet deadline now).1 = .err (.packetExpired packetId lateByMs)) ↔
      Subtracts profile deadline now ∧
        (wrappedMs s.config.maxLateThreshold : Int) <
          -wrappedDistanceMs deadline now := by
  unfold submit
  rw [classify_eq]
  by_cases hruns : Subtracts profile deadline now
  · rw [if_pos hruns]
    unfold latenessAt
    split_ifs with hneg hlate hearly
    · simp [hruns, hlate]
    · simp [hlate, accept_ne_expired]
    · have hnot : ¬ (wrappedMs s.config.maxLateThreshold : Int) <
          -wrappedDistanceMs deadline now := by omega
      simp [hnot, accept_ne_expired]
    · have hnot : ¬ (wrappedMs s.config.maxLateThreshold : Int) <
          -wrappedDistanceMs deadline now := by omega
      simp [hnot, accept_ne_expired]
  · rw [if_neg hruns]
    simp [hruns]

/-- A packet is counted as early exactly if the wrapped distance is beyond the early
threshold. -/
theorem submit_early_iff :
    (s.submit profile packet deadline now).2.stats.earlyPackets = s.stats.earlyPackets + 1 ↔
      Subtracts profile deadline now ∧
        (wrappedMs s.config.maxEarlyThreshold : Int) <
          wrappedDistanceMs deadline now := by
  unfold submit
  rw [classify_eq]
  by_cases hruns : Subtracts profile deadline now
  · rw [if_pos hruns]
    unfold latenessAt
    split_ifs with hneg hlate hearly
    · have hnot : ¬ (wrappedMs s.config.maxEarlyThreshold : Int) <
          wrappedDistanceMs deadline now := by omega
      simp [hnot, recordLateness, StatisticsTracker.recordDropped]
    · have hnot : ¬ (wrappedMs s.config.maxEarlyThreshold : Int) <
          wrappedDistanceMs deadline now := by omega
      simp [hnot, accept_earlyPackets, recordLateness, StatisticsTracker.recordLate]
    · simp [hruns, hearly, accept_earlyPackets, recordLateness, StatisticsTracker.recordEarly]
    · simp [hearly, accept_earlyPackets, recordLateness]
  · rw [if_neg hruns]
    simp [hruns]

end Submission

/-- A scheduling call that assigns a deadline answers that the packet has expired exactly if
the deadline is beyond the late threshold, and counts it as early exactly if the deadline is
beyond the early threshold, if and only if everything fits into 64 bits, or the residues
decide both exactly all the same. -/
theorem expiry_exact_iff {profile : BuildProfile} {s : PlaybackScheduler} {packet : AudioPacket}
    {first second : Instant} {deadline now : Duration} (hrunning : s.running = true)
    (hassign : (s.assignDeadline (adjustedTimestampMs packet s.synchronizer.currentOffset)
      first second).1 = .ok (deadline, now)) :
    (((∃ packetId lateByMs, (s.schedulePacket profile packet first second).1 =
          .err (.packetExpired packetId lateByMs)) ↔
        (s.config.maxLateThreshold.asMillis : Int) < -distanceMs deadline now) ∧
      ((s.schedulePacket profile packet first second).2.stats.earlyPackets =
          s.stats.earlyPackets + 1 ↔
        (s.config.maxEarlyThreshold.asMillis : Int) < distanceMs deadline now)) ↔
      FitsSigned s.config deadline now ∨ DecidesExactly profile s.config deadline now := by
  have hexact : FitsSigned s.config deadline now ∨ DecidesExactly profile s.config deadline now ↔
      DecidesExactly profile s.config deadline now :=
    or_iff_right_of_imp fun h => h.decidesExactly profile
  have hcall : s.schedulePacket profile packet first second =
      (s.assignDeadline (adjustedTimestampMs packet s.synchronizer.currentOffset)
        first second).2.submit profile packet deadline now := by
    rw [schedulePacket, if_pos hrunning]
    dsimp only
    rw [hassign]
  rcases assignDeadline_cases s (adjustedTimestampMs packet s.synchronizer.currentOffset)
    first second with ⟨hsession, -⟩
  have hearly : (s.assignDeadline (adjustedTimestampMs packet s.synchronizer.currentOffset)
      first second).2.stats = s.stats := assignDeadline_stats s _ first second
  rw [hexact, hcall, submit_expired_iff, ← hearly, submit_early_iff, hsession.config]
  by_cases hruns : Subtracts profile deadline now
  · simp only [hruns, true_and]
    constructor
    · rintro ⟨hlate, hbefore⟩
      exact ⟨fun _ => hlate, fun _ => hbefore, fun hnot => absurd hruns hnot⟩
    · intro h
      exact ⟨h.late hruns, h.early hruns⟩
  · simp only [hruns, false_and, false_iff, not_lt]
    constructor
    · intro hwithin
      exact ⟨fun h => absurd h hruns, fun h => absurd h hruns, fun _ => hwithin⟩
    · intro h
      exact h.panics hruns

/-- A started scheduler that has accepted a packet with the timestamp zero. -/
def anchoredAtZero (profile : BuildProfile) : PlaybackScheduler :=
  ((SchedulerTasks.atZero.scheduler.start (Instant.ofMillis 0)).2.schedulePacket profile
    (makePacket 1 0 0) (Instant.ofMillis 0) (Instant.ofMillis 0)).2

/-- A packet whose deadline passed 850 milliseconds ago has expired. -/
theorem expiry_exact_iff_late :
    ∃ packetId lateByMs, ((anchoredAtZero ⟨true⟩).schedulePacket ⟨true⟩ (makePacket 2 1 0)
      (Instant.ofMillis 1000) (Instant.ofMillis 1000)).1 =
        .err (.packetExpired packetId lateByMs) := by
  have hfits : FitsSigned (anchoredAtZero ⟨true⟩).config (Duration.fromMillis 150)
      (Duration.fromMillis 1000) := by
    decide +kernel
  have hdecided := (@expiry_exact_iff ⟨true⟩ (anchoredAtZero ⟨true⟩) (makePacket 2 1 0)
    (Instant.ofMillis 1000) (Instant.ofMillis 1000) _ _ (by decide +kernel)
    (by decide +kernel)).mpr (Or.inl hfits)
  exact hdecided.1.mpr (by decide +kernel)

/-- A packet whose deadline lies {lit}`2 ^ 63 + 150` milliseconds ahead is answered as
expired. -/
theorem far_packet_expires :
    let s := anchoredAtZero ⟨true⟩
    (s.assignDeadline (adjustedTimestampMs (makePacket 2 1 (2 ^ 63)) s.synchronizer.currentOffset)
        (Instant.ofMillis 0) (Instant.ofMillis 0)).1 =
        .ok (Duration.fromMillis (2 ^ 63 + 150), Duration.fromMillis 0) ∧
      (s.schedulePacket ⟨true⟩ (makePacket 2 1 (2 ^ 63)) (Instant.ofMillis 0)
        (Instant.ofMillis 0)).1 = .err (.packetExpired 2 (2 ^ 63 - 150)) ∧
      ¬ (s.config.maxLateThreshold.asMillis : Int) <
        -distanceMs (Duration.fromMillis (2 ^ 63 + 150)) (Duration.fromMillis 0) := by
  decide +kernel

end PlaybackScheduler
end Scheduler
end EchoSync
