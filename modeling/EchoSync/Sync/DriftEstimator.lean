import EchoSync.Runtime.Duration

/-!
# Clock Synchronization Engine - Drift estimation

A bounded sliding window of offset samples and the slope of the least-squares
line through them.

Main results:

- Theorem {lit}`DriftEstimator.recordSample_bounded`: the window never holds
  more samples than its size.
-/

namespace EchoSync
namespace Sync

/-- The smallest distance of a floating-point number from one, below which the
estimator treats its denominator as zero. -/
def f64Epsilon : ℚ := 1 / 2 ^ 52

/-- A sliding window of elapsed seconds and measured offsets, oldest first. -/
structure DriftEstimator where
  windowSize : Nat
  samples : List (ℚ × ℚ)

namespace DriftEstimator

/-- An empty window of at least two samples. -/
def new (windowSize : Nat) : DriftEstimator where
  windowSize := max windowSize 2
  samples := []

/-- Record a sample, dropping the oldest one of a full window. -/
def recordSample (d : DriftEstimator) (elapsedSecs offsetMs : ℚ) : DriftEstimator :=
  let kept := if d.samples.length ≥ d.windowSize then d.samples.tail else d.samples
  { d with samples := kept ++ [(elapsedSecs, offsetMs)] }

/-- The slope of the least-squares line in parts per million, zero for fewer than
two samples and for samples without a spread in time. -/
def estimatePpm (d : DriftEstimator) : ℚ :=
  let n : ℚ := d.samples.length
  let sumX := (d.samples.map fun s => s.1).sum
  let sumY := (d.samples.map fun s => s.2).sum
  let sumXY := (d.samples.map fun s => s.1 * s.2).sum
  let sumXX := (d.samples.map fun s => s.1 * s.1).sum
  let denominator := n * sumXX - sumX * sumX
  if d.samples.length < 2 then 0
  else if |denominator| < f64Epsilon then 0
  else (n * sumXY - sumX * sumY) / denominator * 1000

/-- Forget every sample. -/
def reset (d : DriftEstimator) : DriftEstimator :=
  { d with samples := [] }

/-- The window never grows beyond its size. -/
theorem recordSample_bounded {d : DriftEstimator} (hpos : 0 < d.windowSize)
    (h : d.samples.length ≤ d.windowSize) (elapsedSecs offsetMs : ℚ) :
    (d.recordSample elapsedSecs offsetMs).samples.length ≤ d.windowSize := by
  unfold recordSample
  dsimp only
  split_ifs with hfull
  · simp only [List.length_append, List.length_tail, List.length_singleton]
    omega
  · simp only [List.length_append, List.length_singleton]
    omega

end DriftEstimator
end Sync
end EchoSync
