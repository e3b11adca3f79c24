import EchoSync.Foundations.NearestRounding

/-!
# Runtime - Machine integers, casts and outcomes

The arithmetic of the source language as far as the modelled code uses it:
64-bit and 32-bit unsigned integers, the wrapping casts between integer types,
the saturating cast from a floating-point number, and the difference between a
build with overflow checks and a build without them.  Floating-point values are
rationals: the timestamps of the scheduler are rounded as the code rounds them,
the estimates of the buffer and of the synchronizer are read as exact.

Main results:

- Theorem {lit}`U64.lt_saturatingSucc`: the saturating successor is larger
  unless the value is already the largest.
- Theorem {lit}`U64.ofRatSaturating_val`: the saturating cast of a rational in
  range is its integer part.
- Theorem {lit}`F64.round_intCast`: integers up to {lit}`2 ^ 53` are not rounded.
-/

namespace EchoSync

/-- Unsigned 64-bit integers, also the {lit}`usize` of the target platforms. -/
abbrev U64 := Fin (2 ^ 64)

/-- Unsigned 32-bit integers. -/
abbrev U32 := Fin (2 ^ 32)

/-- Both types have a zero, by which numerals are read. -/
instance U64.instNeZero : NeZero (2 ^ 64) :=
  ⟨by decide⟩

instance U32.instNeZero : NeZero (2 ^ 32) :=
  ⟨by decide⟩

/-- The two ways the source can be compiled: arithmetic overflow either panics
or wraps around. -/
structure BuildProfile where
  overflowChecks : Bool
deriving DecidableEq

/-- What a call does: return a value, return an error, or unwind. -/
inductive Outcome (ε : Type) (α : Type) where
  | ok (value : α)
  | err (error : ε)
  | panicked
deriving DecidableEq

/-! ## Unsigned integers -/

namespace U64

/-- Rust's {lit}`saturating_add(1)`. -/
def saturatingSucc (n : U64) : U64 :=
  if h : n.val + 1 < 2 ^ 64 then ⟨n.val + 1, h⟩ else n

theorem le_saturatingSucc (n : U64) : n ≤ saturatingSucc n := by
  unfold saturatingSucc
  split
  · exact Fin.le_def.mpr (Nat.le_succ n.val)
  · exact le_rfl

/-- The saturating successor only fails to grow at the largest value. -/
theorem lt_saturatingSucc {n m : U64} (h : n < m) : n < saturatingSucc n := by
  have hval : n.val < m.val := h
  have hlim : n.val + 1 < 2 ^ 64 := lt_of_le_of_lt hval m.isLt
  simp only [saturatingSucc, hlim, dite_true]
  exact Fin.lt_def.mpr (Nat.lt_succ_self n.val)

/-- Below a larger value, the saturating successor is the successor. -/
theorem saturatingSucc_val {n m : U64} (h : n < m) : (saturatingSucc n).val = n.val + 1 := by
  have hval : n.val < m.val := h
  have hlim : n.val + 1 < 2 ^ 64 := lt_of_le_of_lt hval m.isLt
  rw [saturatingSucc, dif_pos hlim]

/-- A value whose saturating successor is itself is the largest value. -/
theorem le_of_saturatingSucc_le {n m : U64} (h : saturatingSucc n ≤ n) : m ≤ n := by
  by_contra hlt
  exact absurd h (not_le.mpr (lt_saturatingSucc (not_le.mp hlt)))

/-- Rust's {lit}`as u64` on a wider unsigned integer: keep the low 64 bits. -/
def wrap (n : Nat) : U64 :=
  ⟨n % 2 ^ 64, Nat.mod_lt n (by decide)⟩

/-- Rust's {lit}`as u64` on a signed integer: its value modulo {lit}`2 ^ 64`. -/
def ofInt (n : Int) : U64 :=
  wrap (n % 2 ^ 64).toNat

theorem wrap_val_of_lt {n : Nat} (h : n < 2 ^ 64) : (wrap n).val = n :=
  Nat.mod_eq_of_lt h

/-- The addition operator: a sum out of range panics in a checked build and wraps
otherwise. -/
def add (profile : BuildProfile) (a b : U64) : Option U64 :=
  if profile.overflowChecks = true ∧ 2 ^ 64 ≤ a.val + b.val then none else some (a + b)

/-- A sum in range. -/
theorem add_of_fits (profile : BuildProfile) {a b : U64} (h : a.val + b.val < 2 ^ 64) :
    add profile a b = some ⟨a.val + b.val, h⟩ := by
  have hnot : ¬ (profile.overflowChecks = true ∧ 2 ^ 64 ≤ a.val + b.val) := by
    rintro ⟨-, hle⟩
    exact absurd h (not_lt.mpr hle)
  rw [add, if_neg hnot]
  exact congrArg some (Fin.ext (Nat.mod_eq_of_lt h))

/-- A sum out of range, if there is one at all, is short of what it should be. -/
theorem add_of_overflow {profile : BuildProfile} {a b c : U64} (h : 2 ^ 64 ≤ a.val + b.val)
    (hsum : add profile a b = some c) : c.val + 2 ^ 64 = a.val + b.val := by
  unfold add at hsum
  split_ifs at hsum
  cases hsum
  rw [Fin.val_add]
  have ha := a.isLt
  have hb := b.isLt
  omega

/-- Rust's {lit}`as u64` on a floating-point number: the integer part, clamped
to the range of the type. -/
def ofRatSaturating (q : ℚ) : U64 :=
  ⟨min ⌊q⌋.toNat (2 ^ 64 - 1), lt_of_le_of_lt (min_le_right _ _) (by decide)⟩

/-- In range, the saturating cast is the integer part. -/
theorem ofRatSaturating_val {q : ℚ} (h : q < 2 ^ 64) :
    (ofRatSaturating q).val = ⌊q⌋.toNat := by
  have hfloor : ⌊q⌋ < 2 ^ 64 := by
    have hle : (⌊q⌋ : ℚ) ≤ q := Int.floor_le q
    exact_mod_cast lt_of_le_of_lt hle h
  have hnat : ⌊q⌋.toNat ≤ 2 ^ 64 - 1 := by omega
  exact min_eq_left hnat

theorem ofRatSaturating_mono {p q : ℚ} (h : p ≤ q) : ofRatSaturating p ≤ ofRatSaturating q :=
  Fin.le_def.mpr (min_le_min_right _ (Int.toNat_le_toNat (Int.floor_mono h)))

end U64

/-! ## Unsigned 32-bit arithmetic -/

namespace U32

/-- The addition operator: a sum out of range panics in a checked build and wraps
otherwise. -/
def add (profile : BuildProfile) (a b : U32) : Option U32 :=
  if profile.overflowChecks = true ∧ 2 ^ 32 ≤ a.val + b.val then none else some (a + b)

/-- The subtraction operator: a negative difference panics in a checked build and
wraps otherwise. -/
def sub (profile : BuildProfile) (a b : U32) : Option U32 :=
  if profile.overflowChecks = true ∧ a.val < b.val then none else some (a - b)

/-- A positive number has a predecessor. -/
theorem sub_one_eq_some (profile : BuildProfile) {n : U32} (h : n ≠ 0) :
    sub profile n 1 = some (n - 1) := by
  have hpos : ¬ n.val < (1 : U32).val := by
    intro hlt
    exact h (Fin.ext (Nat.lt_one_iff.mp hlt))
  rw [sub, if_neg fun hpanic => hpos hpanic.2]

/-- The predecessor of a successor in range. -/
theorem sub_one_of_val (profile : BuildProfile) {n : U32} {k : Nat} (hn : n.val = k + 1) :
    ∃ m, sub profile n 1 = some m ∧ m.val = k := by
  have hne : n ≠ 0 := by
    rintro rfl
    exact absurd hn (Nat.succ_ne_zero k).symm
  have hle : (1 : U32) ≤ n := by
    rw [Fin.le_def, hn]
    exact Nat.le_add_left 1 k
  refine ⟨n - 1, sub_one_eq_some profile hne, ?_⟩
  rw [Fin.sub_val_of_le hle, hn]
  rfl

/-- A number that is not the largest has a successor. -/
theorem add_one_of_fits (profile : BuildProfile) {n : U32} (hfits : n.val + 1 < 2 ^ 32) :
    add profile n 1 = some ⟨n.val + 1, hfits⟩ := by
  have hsum : n + 1 = ⟨n.val + 1, hfits⟩ := Fin.ext (Nat.mod_eq_of_lt hfits)
  have hnot : ¬ (profile.overflowChecks = true ∧ 2 ^ 32 ≤ n.val + (1 : U32).val) := by
    rintro ⟨-, hle⟩
    exact absurd hfits (not_lt.mpr hle)
  rw [add, if_neg hnot, hsum]

end U32

/-! ## Signed 64-bit arithmetic -/

/-- Rust's {lit}`as i64` on a wide unsigned integer: the low 64 bits, read as a
signed number. -/
def asI64 (n : Nat) : Int :=
  if n % 2 ^ 64 < 2 ^ 63 then (n % 2 ^ 64 : Nat) else (n % 2 ^ 64 : Nat) - 2 ^ 64

theorem asI64_of_lt {n : Nat} (h : n < 2 ^ 63) : asI64 n = n := by
  have hmod : n % 2 ^ 64 = n := Nat.mod_eq_of_lt (by omega)
  rw [asI64, hmod, if_pos h]

/-- Whether a number is in the range of signed 64-bit integers. -/
def fitsI64 : Int → Bool
  | .ofNat m => decide (m < 2 ^ 63)
  | .negSucc m => decide (m < 2 ^ 63)

theorem fitsI64_iff {n : Int} : fitsI64 n = true ↔ -(2 ^ 63) ≤ n ∧ n < 2 ^ 63 := by
  cases n with
  | ofNat m =>
      simp only [fitsI64, decide_eq_true_eq, Int.ofNat_eq_natCast]
      omega
  | negSucc m =>
      simp only [fitsI64, decide_eq_true_eq, Int.negSucc_eq]
      omega

/-- The result of a signed 64-bit operation: a value outside the range panics
in a checked build and wraps otherwise. -/
def i64Result (profile : BuildProfile) (n : Int) : Option Int :=
  if fitsI64 n then some n
  else if profile.overflowChecks then none
  else some (n.bmod (2 ^ 64))

theorem i64Result_of_mem {profile : BuildProfile} {n : Int}
    (hlow : -(2 ^ 63) ≤ n) (hhigh : n < 2 ^ 63) : i64Result profile n = some n :=
  if_pos (fitsI64_iff.mpr ⟨hlow, hhigh⟩)

/-- Without overflow checks the operation always has a result. -/
theorem i64Result_ne_none {profile : BuildProfile} (h : profile.overflowChecks = false) (n : Int) :
    i64Result profile n ≠ none := by
  by_cases hfits : fitsI64 n = true
  · simp [i64Result, hfits]
  · simp [i64Result, hfits, h]

/-! ## Floating-point numbers of 64 bits -/

namespace F64

/-- The rounding of a conversion to {lit}`f64` or of a sum of such numbers.  A sum is never
below the normal range without being exact, and none comes near the upper end of the range. -/
def round (q : ℚ) : ℚ :=
  Binary.round 52 q

theorem round_intCast {n : ℤ} (h : |n| ≤ 2 ^ 53) : round n = n :=
  Binary.round_intCast h

theorem round_natCast {n : Nat} (h : n ≤ 2 ^ 53) : round n = n := by
  have hint := round_intCast (n := n) (by rw [abs_of_nonneg (Int.natCast_nonneg n)]; omega)
  exact_mod_cast hint

theorem exists_round_intCast (n : ℤ) : ∃ m : ℤ, round n = m :=
  Binary.exists_round_intCast 52 n

/-- Below {lit}`2 ^ 52`, halves are resolved. -/
theorem ulp_le_half {q : ℚ} (h : |q| < 2 ^ 52) : Binary.ulp 52 q ≤ 1 / 2 :=
  Binary.ulp_le_half (by decide) h

end F64
end EchoSync
