import Mathlib

/-!
# Foundations - Rounding to nearest

Rounding of rationals to the nearest integer, and to the nearest binary floating-point
number with a given number of fraction bits; in both, ties go to the even neighbour.  The
exponent of a floating-point number is not bounded here.

Main results:

- Theorem {lit}`roundTiesEven_lt_iff`: when a number is rounded to a value below an even
  bound.
- Theorems {lit}`Binary.round_intCast` and {lit}`Binary.exists_round_intCast`: integers
  within the precision are not rounded, and others are rounded to integers.
- Theorem {lit}`Binary.floor_round`: while the unit in the last place is at most a half, the
  integer part of a rounded number is that of the number and half a unit.
- Theorem {lit}`Binary.floor_round_add_le`: the integer parts of rounded numbers are at least
  as far apart as the numbers, in whole steps.
-/

namespace EchoSync

/-! ## The nearest integer -/

/-- Round to the nearest integer, halves to the even neighbour. -/
def roundTiesEven (q : ℚ) : Int :=
  let below := ⌊q⌋
  let fraction := q - below
  if fraction < 1 / 2 then below
  else if 1 / 2 < fraction then below + 1
  else if below % 2 = 0 then below
  else below + 1

@[simp]
theorem roundTiesEven_intCast (n : ℤ) : roundTiesEven n = n := by
  simp [roundTiesEven]

/-- Rounding goes down up to a half over an even number, and up otherwise. -/
theorem roundTiesEven_cases (q : ℚ) :
    (roundTiesEven q = ⌊q⌋ ∧ q - ⌊q⌋ ≤ 1 / 2 ∧ (q - ⌊q⌋ = 1 / 2 → ⌊q⌋ % 2 = 0)) ∨
      (roundTiesEven q = ⌊q⌋ + 1 ∧ 1 / 2 ≤ q - ⌊q⌋) := by
  unfold roundTiesEven
  dsimp only
  split_ifs with hlow hhigh heven
  · exact Or.inl ⟨rfl, hlow.le, fun hhalf => absurd hhalf hlow.ne⟩
  · exact Or.inr ⟨rfl, hhigh.le⟩
  · exact Or.inl ⟨rfl, not_lt.mp hhigh, fun _ => heven⟩
  · exact Or.inr ⟨rfl, not_lt.mp hlow⟩

/-- Rounding moves a number by at most a half. -/
theorem abs_roundTiesEven_sub_le (q : ℚ) : |(roundTiesEven q : ℚ) - q| ≤ 1 / 2 := by
  have hbelow := Int.floor_le q
  have habove := Int.lt_floor_add_one q
  rw [abs_le]
  rcases roundTiesEven_cases q with ⟨hdown, hhalf, -⟩ | ⟨hup, hhalf⟩
  · rw [hdown]
    constructor <;> linarith
  · rw [hup]
    push_cast
    constructor <;> linarith

/-- A number rounds to a value below an even bound exactly when it is more than a half below
the bound: the half itself goes to the bound. -/
theorem roundTiesEven_lt_iff {q : ℚ} {n : Int} (heven : n % 2 = 0) :
    roundTiesEven q < n ↔ q < n - 1 / 2 := by
  have hbelow := Int.floor_le q
  have habove := Int.lt_floor_add_one q
  rcases roundTiesEven_cases q with ⟨hdown, hhalf, htie⟩ | ⟨hup, hhalf⟩
  · rw [hdown]
    constructor
    · intro hlt
      rcases hhalf.lt_or_eq with hlow | htied
      · have hnext : (⌊q⌋ : ℚ) + 1 ≤ n := by exact_mod_cast hlt
        linarith
      · -- between two even numbers there is room for another half
        have hfloor := htie htied
        have hnext : (⌊q⌋ : ℚ) + 2 ≤ n := by
          exact_mod_cast (show ⌊q⌋ + 2 ≤ n by omega)
        linarith
    · intro hlt
      exact_mod_cast (show (⌊q⌋ : ℚ) < n by linarith)
  · rw [hup]
    constructor
    · intro hlt
      have hnext : (⌊q⌋ : ℚ) + 1 + 1 ≤ n := by exact_mod_cast hlt
      linarith
    · intro hlt
      exact_mod_cast (show (⌊q⌋ : ℚ) + 1 < n by linarith)

/-! ## The nearest binary floating-point number -/

namespace Binary

variable {bits : Nat} {q r : ℚ}

/-- The unit in the last place of the floating-point numbers in the binade of a number. -/
def ulp (bits : Nat) (q : ℚ) : ℚ :=
  2 ^ (Int.log 2 |q| - bits)

/-- Round to the nearest number with these many fraction bits, ties to even. -/
def round (bits : Nat) (q : ℚ) : ℚ :=
  roundTiesEven (q / ulp bits q) * ulp bits q

theorem ulp_pos (bits : Nat) (q : ℚ) : 0 < ulp bits q :=
  zpow_pos two_pos _

theorem zpow_log_le_abs (hq : q ≠ 0) : (2 : ℚ) ^ Int.log 2 |q| ≤ |q| := by
  exact_mod_cast Int.zpow_log_le_self one_lt_two (abs_pos.mpr hq)

/-- A number other than zero is at least its unit in the last place. -/
theorem ulp_le_abs (hq : q ≠ 0) : ulp bits q ≤ |q| :=
  (zpow_le_zpow_right₀ one_le_two (by omega)).trans (zpow_log_le_abs hq)

theorem ulp_mono (hq : q ≠ 0) (h : |q| ≤ |r|) : ulp bits q ≤ ulp bits r :=
  zpow_le_zpow_right₀ one_le_two
    (Int.sub_le_sub_right (Int.log_mono_right (abs_pos.mpr hq) h) _)

/-- Half units are resolved below two to the number of fraction bits. -/
theorem ulp_le_half (hbits : 0 < bits) (h : |q| < 2 ^ bits) : ulp bits q ≤ 1 / 2 := by
  have hlog : Int.log 2 |q| < bits := by
    rcases eq_or_ne q 0 with rfl | hq
    · simpa using hbits
    · exact (Int.lt_zpow_iff_log_lt one_lt_two (abs_pos.mpr hq)).mp (by exact_mod_cast h)
  calc ulp bits q ≤ (2 : ℚ) ^ (-1 : ℤ) := zpow_le_zpow_right₀ one_le_two (by omega)
    _ = 1 / 2 := by norm_num

/-- Every number that is a whole number of units in its last place is not rounded. -/
theorem round_eq_self {k : ℤ} (h : q = k * ulp bits q) : round bits q = q := by
  have hunits : q / ulp bits q = k := (div_eq_iff (ulp_pos bits q).ne').mpr h
  rw [round, hunits, roundTiesEven_intCast]
  exact h.symm

/-- An integer in units of a negative power of two. -/
theorem intCast_eq_mul_zpow (n : ℤ) {z : ℤ} (hz : z ≤ 0) :
    (n : ℚ) = ((n * 2 ^ (-z).toNat : ℤ) : ℚ) * 2 ^ z := by
  have hpow : (2 : ℚ) ^ (-z).toNat = 2 ^ (-z) := by
    rw [← zpow_natCast, Int.toNat_of_nonneg (by omega)]
  push_cast
  rw [hpow, mul_assoc, ← zpow_add₀ two_ne_zero, neg_add_cancel, zpow_zero, mul_one]

/-- Integers within the precision are not rounded. -/
theorem round_intCast {n : ℤ} (h : |n| ≤ 2 ^ (bits + 1)) : round bits n = n := by
  rcases le_or_gt (Int.log 2 |(n : ℚ)|) bits with hlog | hlog
  · exact round_eq_self (intCast_eq_mul_zpow n (by omega))
  · -- only the bound itself lies in the next binade, whose unit is two
    have hn : (n : ℚ) ≠ 0 := by
      intro hzero
      rw [hzero, abs_zero, Int.log_zero_right] at hlog
      omega
    have hlow : (2 : ℚ) ^ (bits + 1) ≤ |(n : ℚ)| := by
      refine le_trans ?_ (zpow_log_le_abs hn)
      rw [← zpow_natCast]
      exact zpow_le_zpow_right₀ one_le_two (by omega)
    have habs : |n| = 2 ^ (bits + 1) := le_antisymm h (by exact_mod_cast hlow)
    have hexponent : Int.log 2 |(n : ℚ)| - bits = 1 := by
      have heq : |(n : ℚ)| = (2 : Nat) ^ ((bits : ℤ) + 1) := by exact_mod_cast habs
      rw [heq, Int.log_zpow one_lt_two]
      omega
    have heven : n = n / 2 * 2 := by
      have hdvd : (2 : ℤ) ∣ n := (dvd_abs 2 n).mp (habs ▸ dvd_pow_self 2 (Nat.succ_ne_zero bits))
      omega
    refine round_eq_self (k := n / 2) ?_
    rw [ulp, hexponent, zpow_one]
    exact_mod_cast heven

/-- An integer is rounded to an integer. -/
theorem exists_round_intCast (bits : Nat) (n : ℤ) : ∃ m : ℤ, round bits n = m := by
  rcases le_or_gt (Int.log 2 |(n : ℚ)|) bits with hlog | hlog
  · exact ⟨n, round_eq_self (intCast_eq_mul_zpow n (by omega))⟩
  · have hpow : ulp bits n = ((2 ^ (Int.log 2 |(n : ℚ)| - bits).toNat : ℤ) : ℚ) := by
      rw [ulp, ← Int.toNat_of_nonneg (show 0 ≤ Int.log 2 |(n : ℚ)| - bits by omega)]
      push_cast
      rw [zpow_natCast]
      simp
    refine ⟨roundTiesEven (n / ulp bits n) * 2 ^ (Int.log 2 |(n : ℚ)| - bits).toNat, ?_⟩
    rw [round, Int.cast_mul, ← hpow]

/-- While the unit in the last place is at most a half, a number is rounded to an integer or
beyond exactly if it is at most half a unit below. -/
theorem intCast_le_round_iff (hfine : ulp bits q ≤ 1 / 2) {n : ℤ} :
    (n : ℚ) ≤ round bits q ↔ n ≤ q + ulp bits q / 2 := by
  have hpos := ulp_pos bits q
  have hexponent : Int.log 2 |q| - bits ≤ -1 := by
    refine (zpow_le_zpow_iff_right₀ (one_lt_two (α := ℚ))).mp (hfine.trans ?_)
    norm_num
  have hunits := intCast_eq_mul_zpow n (show Int.log 2 |q| - bits ≤ 0 by omega)
  generalize hm : n * 2 ^ (-(Int.log 2 |q| - bits)).toNat = m at hunits
  have heven : m % 2 = 0 := by
    have hdvd : (2 : ℤ) ∣ 2 ^ (-(Int.log 2 |q| - bits)).toNat := dvd_pow_self 2 (by omega)
    exact Int.emod_eq_zero_of_dvd (hm ▸ hdvd.mul_left n)
  calc (n : ℚ) ≤ round bits q ↔ (m : ℚ) ≤ roundTiesEven (q / ulp bits q) := by
        rw [hunits]
        exact mul_le_mul_iff_left₀ hpos
    _ ↔ ¬q / ulp bits q < m - 1 / 2 := by
        rw [← roundTiesEven_lt_iff heven, not_lt, Int.cast_le]
    _ ↔ (m - 1 / 2) * ulp bits q ≤ q := by
        rw [not_lt, le_div_iff₀ hpos]
    _ ↔ n ≤ q + ulp bits q / 2 := by
        rw [hunits, sub_mul]
        change m * ulp bits q - 1 / 2 * ulp bits q ≤ q ↔ m * ulp bits q ≤ q + ulp bits q / 2
        constructor <;> intro h <;> linarith

/-- While the unit in the last place is at most a half, the integer part of a rounded number
is that of the number and half a unit. -/
theorem floor_round (hfine : ulp bits q ≤ 1 / 2) : ⌊round bits q⌋ = ⌊q + ulp bits q / 2⌋ := by
  refine eq_of_forall_le_iff fun n => ?_
  rw [Int.le_floor, Int.le_floor, intCast_le_round_iff hfine]

/-- Rounding never loses a whole step, -/
theorem floor_le_floor_round (hfine : ulp bits q ≤ 1 / 2) : ⌊q⌋ ≤ ⌊round bits q⌋ := by
  rw [floor_round hfine]
  exact Int.floor_mono (by linarith [ulp_pos bits q])

/-- and it wins at most one. -/
theorem floor_round_le (hfine : ulp bits q ≤ 1 / 2) : ⌊round bits q⌋ ≤ ⌊q⌋ + 1 := by
  rw [floor_round hfine, ← Int.floor_add_one]
  exact Int.floor_mono (by linarith)

/-- A number that is rounded to no negative one is not negative. -/
theorem nonneg_of_round_nonneg (hfine : ulp bits q ≤ 1 / 2) (h : 0 ≤ round bits q) : 0 ≤ q := by
  have hhalf : 0 ≤ q + ulp bits q / 2 := by
    have hround := (intCast_le_round_iff hfine (n := 0)).mp (by exact_mod_cast h)
    exact_mod_cast hround
  by_contra hneg
  have hunit : ulp bits q ≤ |q| := ulp_le_abs (not_le.mp hneg).ne
  rw [abs_of_neg (not_le.mp hneg)] at hunit
  linarith [ulp_pos bits q]

/-- Units grow with the numbers, so rounding keeps the whole steps between two numbers. -/
theorem floor_round_add_le (hnonneg : 0 ≤ q) (h : q ≤ r) (hq : ulp bits q ≤ 1 / 2)
    (hr : ulp bits r ≤ 1 / 2) : ⌊round bits q⌋ + ⌊r - q⌋ ≤ ⌊round bits r⌋ := by
  rcases hnonneg.eq_or_lt with rfl | hpos
  · have hround : round bits ((0 : ℤ) : ℚ) = (0 : ℤ) := round_intCast (by simp)
    have hzero : round bits 0 = 0 := by exact_mod_cast hround
    rw [hzero, Int.floor_zero, zero_add, sub_zero]
    exact floor_le_floor_round hr
  · have hunit : ulp bits q ≤ ulp bits r := by
      refine ulp_mono hpos.ne' ?_
      rwa [abs_of_pos hpos, abs_of_pos (hpos.trans_le h)]
    rw [floor_round hq, floor_round hr]
    calc ⌊q + ulp bits q / 2⌋ + ⌊r - q⌋ ≤ ⌊q + ulp bits q / 2 + (r - q)⌋ := Int.le_floor_add _ _
      _ ≤ ⌊r + ulp bits r / 2⌋ := Int.floor_mono (by linarith)

end Binary
end EchoSync
