import EchoSync.Foundations.LineFit
import EchoSync.Sync.DriftEstimator

/-!
# Clock Synchronization Engine - Least squares

The drift estimator keeps the last samples of a session and answers the slope of their
least-squares line.

Main results:

- Theorem {lit}`DriftEstimator.run_samples`: the window holds the last samples recorded
  since the last reset.
- Theorem {lit}`DriftEstimator.estimatePpm_eq`: the estimate in terms of the line fit.
- Theorem {lit}`DriftEstimator.estimate_least_squares`: the estimate is the slope of the
  best line through the window, and shifting all samples does not change it.
-/

namespace EchoSync
namespace Sync
namespace DriftEstimator

/-- A call on an estimator. -/
inductive EstimatorCall where
  | recordSample (elapsedSecs offsetMs : ℚ)
  | reset

/-- Make one call. -/
def step (d : DriftEstimator) : EstimatorCall → DriftEstimator
  | .recordSample elapsedSecs offsetMs => d.recordSample elapsedSecs offsetMs
  | .reset => d.reset

/-- The samples recorded since the last reset. -/
def sinceReset (calls : List EstimatorCall) : List (ℚ × ℚ) :=
  calls.foldl
    (fun recorded call =>
      match call with
      | .recordSample elapsedSecs offsetMs => recorded ++ [(elapsedSecs, offsetMs)]
      | .reset => [])
    []

/-- The last so many samples. -/
def window (size : Nat) (samples : List (ℚ × ℚ)) : List (ℚ × ℚ) :=
  samples.drop (samples.length - size)

/-- Shift the samples that a call records. -/
def EstimatorCall.shift (dx dy : ℚ) : EstimatorCall → EstimatorCall
  | .recordSample elapsedSecs offsetMs => .recordSample (elapsedSecs + dx) (offsetMs + dy)
  | .reset => .reset

/-! ## The window -/

theorem window_nil (size : Nat) : window size [] = [] :=
  List.drop_nil

/-- One more sample moves the window on. -/
theorem window_append {size : Nat} (hsize : 0 < size) (samples : List (ℚ × ℚ)) (s : ℚ × ℚ) :
    window size (samples ++ [s]) =
      (if (window size samples).length ≥ size then (window size samples).tail
        else window size samples) ++ [s] := by
  have hlength : (window size samples).length = samples.length - (samples.length - size) :=
    List.length_drop
  rw [window, List.length_append, List.length_singleton]
  split_ifs with hfull
  · have hmore : samples.length + 1 - size = samples.length - size + 1 := by omega
    rw [hmore, List.drop_append_of_le_length (by omega), window, List.tail_drop]
  · have hnone : samples.length - size = 0 := by omega
    have hnone' : samples.length + 1 - size = 0 := by omega
    rw [hnone', window, hnone, List.drop_zero, List.drop_zero]

theorem window_map (size : Nat) (f : ℚ × ℚ → ℚ × ℚ) (samples : List (ℚ × ℚ)) :
    window size (samples.map f) = (window size samples).map f := by
  rw [window, window, List.length_map, List.map_drop]

theorem sinceReset_append (calls : List EstimatorCall) (call : EstimatorCall) :
    sinceReset (calls ++ [call]) =
      match call with
      | .recordSample elapsedSecs offsetMs => sinceReset calls ++ [(elapsedSecs, offsetMs)]
      | .reset => [] := by
  rw [sinceReset, List.foldl_append]
  cases call <;> rfl

/-- The window holds the last samples recorded since the last reset. -/
theorem run_samples (windowSize : Nat) (calls : List EstimatorCall) :
    (calls.foldl step (new windowSize)).windowSize = max windowSize 2 ∧
      (calls.foldl step (new windowSize)).samples =
        window (max windowSize 2) (sinceReset calls) := by
  have hpos : 0 < max windowSize 2 := lt_of_lt_of_le Nat.two_pos (le_max_right _ _)
  induction calls using List.reverseRecOn with
  | nil => exact ⟨rfl, (window_nil _).symm⟩
  | append_singleton calls call ih =>
      rcases ih with ⟨hsize, hsamples⟩
      rw [List.foldl_append, List.foldl_cons, List.foldl_nil, sinceReset_append]
      cases call with
      | recordSample elapsedSecs offsetMs =>
          refine ⟨hsize, ?_⟩
          rw [window_append hpos, ← hsamples, ← hsize]
          rfl
      | reset => exact ⟨hsize, (window_nil _).symm⟩

theorem sinceReset_shift (dx dy : ℚ) (calls : List EstimatorCall) :
    sinceReset (calls.map (EstimatorCall.shift dx dy)) =
      (sinceReset calls).map (LineFit.shift dx dy) := by
  induction calls using List.reverseRecOn with
  | nil => rfl
  | append_singleton calls call ih =>
      rw [List.map_append, List.map_singleton, sinceReset_append, sinceReset_append]
      cases call with
      | recordSample elapsedSecs offsetMs =>
          dsimp only [EstimatorCall.shift]
          rw [ih, List.map_append]
          rfl
      | reset => rfl

/-! ## The estimate -/

/-- The estimate in terms of the line fit. -/
theorem estimatePpm_eq (d : DriftEstimator) :
    d.estimatePpm =
      if d.samples.length < 2 then 0
      else if |LineFit.spread d.samples| < f64Epsilon then 0
      else LineFit.slope d.samples * 1000 :=
  rfl

/-- The estimate does not change when the samples are shifted. -/
theorem estimatePpm_shift {d d' : DriftEstimator} {dx dy : ℚ}
    (h : d'.samples = d.samples.map (LineFit.shift dx dy)) : d'.estimatePpm = d.estimatePpm := by
  rw [estimatePpm_eq, estimatePpm_eq, h, List.length_map, LineFit.spread_shift,
    LineFit.slope_shift]

/-- A spread that the estimator does not treat as zero is positive. -/
theorem spread_pos {samples : List (ℚ × ℚ)} (h : f64Epsilon ≤ |LineFit.spread samples|) :
    0 < LineFit.spread samples := by
  have hepsilon : 0 < f64Epsilon := by norm_num [f64Epsilon]
  have hpos := hepsilon.trans_le h
  rwa [abs_of_nonneg (LineFit.spread_nonneg samples)] at hpos

/-- After any calls on an estimator of any window size: the estimate depends only on the last
samples since the last reset that fit into the window; it is zero for fewer than two samples
and for a spread treated as zero; any other spread is positive, and the estimate is 1000 times
the slope of a line that fits the samples best, which all such lines share; and it does not
change when the abscissas or the ordinates of all samples are shifted. -/
theorem estimate_least_squares (windowSize : Nat) (calls : List EstimatorCall) :
    let d := calls.foldl step (new windowSize)
    let kept := window (max windowSize 2) (sinceReset calls)
    (∀ calls', window (max windowSize 2) (sinceReset calls') = kept →
      (calls'.foldl step (new windowSize)).estimatePpm = d.estimatePpm) ∧
    (kept.length < 2 ∨ |LineFit.spread kept| < f64Epsilon → d.estimatePpm = 0) ∧
    (2 ≤ kept.length → f64Epsilon ≤ |LineFit.spread kept| →
      0 < LineFit.spread kept ∧ ∃ a b, d.estimatePpm = 1000 * b ∧
        (∀ a' b', LineFit.residual a b kept ≤ LineFit.residual a' b' kept) ∧
        ∀ a' b', (∀ a'' b'', LineFit.residual a' b' kept ≤ LineFit.residual a'' b'' kept) →
          b' = b) ∧
    ∀ dx dy, ((calls.map (EstimatorCall.shift dx dy)).foldl step (new windowSize)).estimatePpm =
      d.estimatePpm := by
  dsimp only
  have hsamples := (run_samples windowSize calls).2
  refine ⟨?_, ?_, ?_, ?_⟩
  · intro calls' hsame
    rw [estimatePpm_eq, estimatePpm_eq, hsamples, (run_samples windowSize calls').2, hsame]
  · intro hzero
    rw [estimatePpm_eq, hsamples]
    split_ifs with hfew hflat
    · rfl
    · rfl
    · exact absurd hzero (not_or.mpr ⟨hfew, hflat⟩)
  · intro hmany hspread
    have hpos := spread_pos hspread
    refine ⟨hpos, LineFit.intercept _, LineFit.slope _, ?_, LineFit.residual_fit_le hpos, ?_⟩
    · rw [estimatePpm_eq, hsamples, if_neg (not_lt.mpr hmany), if_neg (not_lt.mpr hspread),
        mul_comm]
    · intro a' b' hbest
      exact LineFit.slope_unique hpos hbest
  · intro dx dy
    refine @estimatePpm_shift _ _ dx dy ?_
    rw [(run_samples windowSize _).2, sinceReset_shift, window_map, hsamples]

end DriftEstimator
end Sync
end EchoSync
