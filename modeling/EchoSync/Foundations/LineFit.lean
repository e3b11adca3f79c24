import Mathlib

/-!
# Foundations - Fitting a line to samples

The least-squares line through a list of samples, over any ordered field.  The spread of
the abscissas and the covariation of both coordinates are sums over pairs of samples, so
neither changes when a coordinate of all samples is shifted.

Main results:

- Theorems {lit}`spread_nonneg` and {lit}`spread_cons`: the spread is a sum of squares.
- Theorem {lit}`residual_sub`: how much worse another line fits.
- Theorems {lit}`residual_fit_le` and {lit}`slope_unique`: with a positive spread, the line
  of the normal equations fits best, and every line that fits best has its slope.
- Theorem {lit}`slope_shift`: the slope does not change when the samples are shifted.
-/

namespace EchoSync
namespace LineFit

variable {𝕜 : Type*} [Field 𝕜]

/-- The sum of a term over the samples. -/
def total (f : 𝕜 × 𝕜 → 𝕜) (samples : List (𝕜 × 𝕜)) : 𝕜 :=
  (samples.map f).sum

@[simp]
theorem total_nil (f : 𝕜 × 𝕜 → 𝕜) : total f [] = 0 :=
  rfl

@[simp]
theorem total_cons (f : 𝕜 × 𝕜 → 𝕜) (s : 𝕜 × 𝕜) (samples : List (𝕜 × 𝕜)) :
    total f (s :: samples) = f s + total f samples :=
  List.sum_cons

/-- The number of samples times the sum of the products of both coordinates, less the product
of their sums. -/
def covariation (samples : List (𝕜 × 𝕜)) : 𝕜 :=
  samples.length * total (fun s => s.1 * s.2) samples -
    total (fun s => s.1) samples * total (fun s => s.2) samples

/-- The number of samples times the sum of the squares of the abscissas, less the square of
their sum. -/
def spread (samples : List (𝕜 × 𝕜)) : 𝕜 :=
  samples.length * total (fun s => s.1 * s.1) samples -
    total (fun s => s.1) samples * total (fun s => s.1) samples

/-- The slope of the line of the normal equations. -/
def slope (samples : List (𝕜 × 𝕜)) : 𝕜 :=
  covariation samples / spread samples

/-- The intercept of the line of the normal equations. -/
def intercept (samples : List (𝕜 × 𝕜)) : 𝕜 :=
  (total (fun s => s.2) samples - slope samples * total (fun s => s.1) samples) /
    samples.length

/-- The sum of the squared distances of the samples from a line. -/
def residual (a b : 𝕜) (samples : List (𝕜 × 𝕜)) : 𝕜 :=
  total (fun s => (s.2 - a - b * s.1) ^ 2) samples

/-- Shift both coordinates of a sample. -/
def shift (dx dy : 𝕜) (s : 𝕜 × 𝕜) : 𝕜 × 𝕜 :=
  (s.1 + dx, s.2 + dy)

/-! ## Sums over pairs -/

/-- The sum of the products of the distances from one sample. -/
theorem total_sub_mul_sub (s : 𝕜 × 𝕜) (samples : List (𝕜 × 𝕜)) :
    total (fun t => (s.1 - t.1) * (s.2 - t.2)) samples =
      samples.length * (s.1 * s.2) - s.1 * total (fun t => t.2) samples -
        s.2 * total (fun t => t.1) samples + total (fun t => t.1 * t.2) samples := by
  induction samples with
  | nil => simp
  | cons t rest ih =>
      simp only [total_cons, ih, List.length_cons, Nat.cast_add, Nat.cast_one]
      ring

theorem total_sub_sq (s : 𝕜 × 𝕜) (samples : List (𝕜 × 𝕜)) :
    total (fun t => (s.1 - t.1) ^ 2) samples =
      samples.length * (s.1 * s.1) - 2 * s.1 * total (fun t => t.1) samples +
        total (fun t => t.1 * t.1) samples := by
  induction samples with
  | nil => simp
  | cons t rest ih =>
      simp only [total_cons, ih, List.length_cons, Nat.cast_add, Nat.cast_one]
      ring

/-- One more sample adds its products with all others. -/
theorem covariation_cons (s : 𝕜 × 𝕜) (samples : List (𝕜 × 𝕜)) :
    covariation (s :: samples) =
      covariation samples + total (fun t => (s.1 - t.1) * (s.2 - t.2)) samples := by
  rw [total_sub_mul_sub]
  simp only [covariation, total_cons, List.length_cons, Nat.cast_add, Nat.cast_one]
  ring

/-- One more sample adds its squared distances from all others. -/
theorem spread_cons (s : 𝕜 × 𝕜) (samples : List (𝕜 × 𝕜)) :
    spread (s :: samples) = spread samples + total (fun t => (s.1 - t.1) ^ 2) samples := by
  rw [total_sub_sq]
  simp only [spread, total_cons, List.length_cons, Nat.cast_add, Nat.cast_one]
  ring

theorem total_map (f : 𝕜 × 𝕜 → 𝕜) (g : 𝕜 × 𝕜 → 𝕜 × 𝕜) (samples : List (𝕜 × 𝕜)) :
    total f (samples.map g) = total (fun s => f (g s)) samples := by
  rw [total, total, List.map_map]
  rfl

theorem covariation_shift (dx dy : 𝕜) (samples : List (𝕜 × 𝕜)) :
    covariation (samples.map (shift dx dy)) = covariation samples := by
  induction samples with
  | nil => rfl
  | cons s rest ih =>
      rw [List.map_cons, covariation_cons, covariation_cons, ih, total_map]
      simp only [shift, add_sub_add_right_eq_sub]

theorem spread_shift (dx dy : 𝕜) (samples : List (𝕜 × 𝕜)) :
    spread (samples.map (shift dx dy)) = spread samples := by
  induction samples with
  | nil => rfl
  | cons s rest ih =>
      rw [List.map_cons, spread_cons, spread_cons, ih, total_map]
      simp only [shift, add_sub_add_right_eq_sub]

/-- The slope does not change when the samples are shifted. -/
theorem slope_shift (dx dy : 𝕜) (samples : List (𝕜 × 𝕜)) :
    slope (samples.map (shift dx dy)) = slope samples := by
  rw [slope, slope, covariation_shift, spread_shift]

/-! ## The normal equations -/

/-- The residual as a polynomial in the line. -/
theorem residual_eq (a b : 𝕜) (samples : List (𝕜 × 𝕜)) :
    residual a b samples = total (fun s => s.2 * s.2) samples -
      2 * a * total (fun s => s.2) samples - 2 * b * total (fun s => s.1 * s.2) samples +
      samples.length * a ^ 2 + 2 * a * b * total (fun s => s.1) samples +
      b ^ 2 * total (fun s => s.1 * s.1) samples := by
  induction samples with
  | nil => simp [residual]
  | cons s rest ih =>
      rw [residual] at ih
      simp only [residual, total_cons, ih, List.length_cons, Nat.cast_add, Nat.cast_one]
      ring

section Normal

variable {samples : List (𝕜 × 𝕜)}

/-- The line of the normal equations meets the first of them. -/
theorem normal_intercept (hlength : (samples.length : 𝕜) ≠ 0) :
    samples.length * intercept samples + slope samples * total (fun s => s.1) samples =
      total (fun s => s.2) samples := by
  rw [intercept, mul_div_cancel₀ _ hlength]
  ring

/-- The line of the normal equations meets the second of them. -/
theorem normal_slope (hlength : (samples.length : 𝕜) ≠ 0) (hspread : spread samples ≠ 0) :
    intercept samples * total (fun s => s.1) samples +
        slope samples * total (fun s => s.1 * s.1) samples =
      total (fun s => s.1 * s.2) samples := by
  have hslope : slope samples * spread samples = covariation samples :=
    div_mul_cancel₀ _ hspread
  have hnormal := normal_intercept hlength
  refine mul_left_cancel₀ hlength ?_
  calc
    (samples.length : 𝕜) * (intercept samples * total (fun s => s.1) samples +
        slope samples * total (fun s => s.1 * s.1) samples) =
        (samples.length * intercept samples + slope samples * total (fun s => s.1) samples) *
            total (fun s => s.1) samples + slope samples * spread samples := by
      rw [spread]
      ring
    _ = samples.length * total (fun s => s.1 * s.2) samples := by
      rw [hnormal, hslope, covariation]
      ring

/-- How much worse another line fits than the one of the normal equations. -/
theorem residual_sub (hlength : (samples.length : 𝕜) ≠ 0) (hspread : spread samples ≠ 0)
    (a b : 𝕜) :
    samples.length * (residual a b samples - residual (intercept samples) (slope samples) samples)
      = (samples.length * (a - intercept samples) +
          (b - slope samples) * total (fun s => s.1) samples) ^ 2 +
        (b - slope samples) ^ 2 * spread samples := by
  have hfirst := normal_intercept hlength
  have hsecond := normal_slope hlength hspread
  rw [residual_eq, residual_eq, ← hfirst, ← hsecond, spread]
  ring

end Normal

/-! ## The best line -/

section Ordered

variable [LinearOrder 𝕜] [IsStrictOrderedRing 𝕜] {samples : List (𝕜 × 𝕜)}

theorem total_nonneg {f : 𝕜 × 𝕜 → 𝕜} (hf : ∀ s, 0 ≤ f s) (samples : List (𝕜 × 𝕜)) :
    0 ≤ total f samples := by
  induction samples with
  | nil => exact le_rfl
  | cons s rest ih =>
      rw [total_cons]
      exact add_nonneg (hf s) ih

/-- The spread is a sum of squares. -/
theorem spread_nonneg (samples : List (𝕜 × 𝕜)) : 0 ≤ spread samples := by
  induction samples with
  | nil => simp [spread]
  | cons s rest ih =>
      rw [spread_cons]
      exact add_nonneg ih (total_nonneg (fun t => sq_nonneg _) rest)

theorem length_pos_of_spread (h : 0 < spread samples) : (0 : 𝕜) < samples.length := by
  cases samples with
  | nil => simp [spread] at h
  | cons s rest => exact_mod_cast Nat.succ_pos rest.length

/-- The line of the normal equations fits best. -/
theorem residual_fit_le (h : 0 < spread samples) (a b : 𝕜) :
    residual (intercept samples) (slope samples) samples ≤ residual a b samples := by
  have hlength := length_pos_of_spread h
  have hsub := residual_sub hlength.ne' h.ne' a b
  have hright : 0 ≤ (samples.length * (a - intercept samples) +
      (b - slope samples) * total (fun s => s.1) samples) ^ 2 +
        (b - slope samples) ^ 2 * spread samples :=
    add_nonneg (sq_nonneg _) (mul_nonneg (sq_nonneg _) h.le)
  rw [← hsub] at hright
  exact sub_nonneg.mp (nonneg_of_mul_nonneg_right hright hlength)

/-- Every line that fits best has the slope of the normal equations. -/
theorem slope_unique (h : 0 < spread samples) {a b : 𝕜}
    (hbest : ∀ a' b', residual a b samples ≤ residual a' b' samples) : b = slope samples := by
  have hlength := length_pos_of_spread h
  have hsub := residual_sub hlength.ne' h.ne' a b
  have hsame : residual a b samples = residual (intercept samples) (slope samples) samples :=
    le_antisymm (hbest _ _) (residual_fit_le h a b)
  rw [hsame, sub_self, mul_zero] at hsub
  have hzero : (b - slope samples) ^ 2 * spread samples = 0 := by
    have hfirst := sq_nonneg (samples.length * (a - intercept samples) +
      (b - slope samples) * total (fun s => s.1) samples)
    have hsecond := mul_nonneg (sq_nonneg (b - slope samples)) h.le
    linarith
  rcases mul_eq_zero.mp hzero with hsquare | hspread
  · exact sub_eq_zero.mp (pow_eq_zero_iff two_ne_zero |>.mp hsquare)
  · exact absurd hspread h.ne'

end Ordered

end LineFit
end EchoSync
