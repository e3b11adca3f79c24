import EchoSync.Runtime.Machine

/-!
# Runtime - Durations and instants

The source measures time with the standard library's unsigned durations, a
64-bit number of seconds and the nanoseconds below one second, and with
instants of a monotonic clock.  Both are stored here as a bounded number of
nanoseconds, so that a duration out of range cannot be built; the operations
that panic on overflow return an option.

Main results:

- Theorem {lit}`Duration.add_eq_some_iff`: the panicking addition succeeds
  exactly when the sum is in range.
- Theorem {lit}`Duration.lt_clamp_iff`: a value within the bounds lies below a clamped
  duration exactly when it lies below the duration and the upper bound.
- Theorem {lit}`Instant.elapsedSince_nanos`: elapsed time is the saturating
  difference of two clock readings.
-/

namespace EchoSync

/-- Nanoseconds in one second. -/
def nanosPerSec : Nat := 10 ^ 9

/-- Nanoseconds in one millisecond. -/
def nanosPerMilli : Nat := 10 ^ 6

/-- One past the largest duration, in nanoseconds. -/
def durationLimit : Nat := 2 ^ 64 * nanosPerSec

/-- A span of time in nanoseconds, below {lit}`2 ^ 64` seconds. -/
@[ext]
structure Duration where
  nanos : Nat
  lt_limit : nanos < durationLimit
deriving DecidableEq

namespace Duration

theorem nanos_injective : Function.Injective Duration.nanos :=
  fun _ _ h => Duration.ext h

instance : LinearOrder Duration :=
  LinearOrder.lift' Duration.nanos nanos_injective

theorem le_iff_nanos {a b : Duration} : a ≤ b ↔ a.nanos ≤ b.nanos :=
  Iff.rfl

/-- The empty span. -/
def zero : Duration where
  nanos := 0
  lt_limit := by decide

/-- A number of nanoseconds as a duration, when it is in range. -/
def ofNanos? (n : Nat) : Option Duration :=
  if h : n < durationLimit then some ⟨n, h⟩ else none

/-- The largest duration. -/
def max : Duration where
  nanos := durationLimit - 1
  lt_limit := by decide

/-- Rust's {lit}`Duration::from_millis`. -/
def fromMillis (ms : U64) : Duration where
  nanos := ms.val * nanosPerMilli
  lt_limit := by
    have hms := ms.isLt
    have hscale : 2 ^ 64 * nanosPerMilli ≤ durationLimit := by decide
    exact lt_of_lt_of_le (Nat.mul_lt_mul_of_pos_right hms (by decide)) hscale

/-- Rust's {lit}`as_millis`: the whole milliseconds, as a wide integer. -/
def asMillis (d : Duration) : Nat :=
  d.nanos / nanosPerMilli

/-- Rust's {lit}`as_secs_f64`, read as an exact rational. -/
def asSecsF64 (d : Duration) : ℚ :=
  d.nanos / nanosPerSec

/-- Rust's {lit}`is_zero`. -/
def isZero (d : Duration) : Bool :=
  d.nanos == 0

/-- The addition operator, which panics on overflow. -/
def add (a b : Duration) : Option Duration :=
  ofNanos? (a.nanos + b.nanos)

/-- Rust's {lit}`saturating_add`. -/
def saturatingAdd (a b : Duration) : Duration :=
  (a.add b).getD max

/-- Rust's {lit}`saturating_sub`. -/
def saturatingSub (a b : Duration) : Duration where
  nanos := a.nanos - b.nanos
  lt_limit := lt_of_le_of_lt (Nat.sub_le _ _) a.lt_limit

/-- Rust's {lit}`clamp`. -/
def clamp (d low high : Duration) : Duration :=
  if d < low then low else if high < d then high else d

/-- Rust's {lit}`from_secs_f64`, which panics on a negative argument and on a
result out of range. -/
def fromSecsF64 (secs : ℚ) : Option Duration :=
  if secs < 0 then none else ofNanos? (roundTiesEven (secs * nanosPerSec)).toNat

theorem ofNanos?_eq_some_iff {n : Nat} {d : Duration} :
    ofNanos? n = some d ↔ d.nanos = n := by
  unfold ofNanos?
  split
  · rename_i h
    simp [Duration.ext_iff, eq_comm]
  · rename_i h
    constructor
    · intro hnone
      contradiction
    · intro heq
      exact absurd (heq ▸ d.lt_limit) h

/-- The panicking addition succeeds exactly on sums in range. -/
theorem add_eq_some_iff {a b d : Duration} :
    a.add b = some d ↔ d.nanos = a.nanos + b.nanos :=
  ofNanos?_eq_some_iff

@[simp]
theorem fromMillis_nanos (ms : U64) : (fromMillis ms).nanos = ms.val * nanosPerMilli :=
  rfl

@[simp]
theorem asMillis_fromMillis (ms : U64) : (fromMillis ms).asMillis = ms.val :=
  Nat.mul_div_cancel _ (by decide)

theorem asMillis_mono {a b : Duration} (h : a ≤ b) : a.asMillis ≤ b.asMillis :=
  Nat.div_le_div_right h

/-- A clamped duration lies within ordered bounds. -/
theorem clamp_mem_Icc (d : Duration) {low high : Duration} (h : low ≤ high) :
    d.clamp low high ∈ Set.Icc low high := by
  unfold clamp
  split_ifs with hlow hhigh
  · exact ⟨le_rfl, h⟩
  · exact ⟨h, le_rfl⟩
  · exact ⟨not_lt.mp hlow, not_lt.mp hhigh⟩

/-- A duration within the bounds is not clamped. -/
theorem clamp_of_mem {d low high : Duration} (h : d ∈ Set.Icc low high) :
    d.clamp low high = d := by
  rw [clamp, if_neg (not_lt.mpr h.1), if_neg (not_lt.mpr h.2)]

/-- A value within the bounds lies below the clamped one exactly when it lies below both
what is clamped and the upper bound. -/
theorem lt_clamp_iff {d x low high : Duration} (hx : x ∈ Set.Icc low high) :
    x < d.clamp low high ↔ x < d ∧ x < high := by
  unfold clamp
  split_ifs with hlow hhigh
  · constructor
    · intro hlt
      exact absurd hx.1 (not_le.mpr hlt)
    · rintro ⟨hlt, -⟩
      exact absurd hx.1 (not_le.mpr (hlt.trans hlow))
  · constructor
    · intro hlt
      exact ⟨hlt.trans hhigh, hlt⟩
    · rintro ⟨-, hlt⟩
      exact hlt
  · constructor
    · intro hlt
      exact ⟨hlt, hlt.trans_le (not_lt.mp hhigh)⟩
    · rintro ⟨hlt, -⟩
      exact hlt

theorem saturatingSub_le (a b : Duration) : a.saturatingSub b ≤ a :=
  Nat.sub_le _ _

/-- The saturating sum lies above a value exactly when the sum does. -/
theorem lt_saturatingAdd_iff {x a b : Duration} :
    x < a.saturatingAdd b ↔ x.nanos < a.nanos + b.nanos ∧ x < max := by
  by_cases hfits : a.nanos + b.nanos < durationLimit
  · have hsum : a.saturatingAdd b = ⟨a.nanos + b.nanos, hfits⟩ := by
      simp [saturatingAdd, add, ofNanos?, hfits]
    have hlimit : x.nanos < a.nanos + b.nanos → x.nanos < durationLimit - 1 := by omega
    rw [hsum]
    exact ⟨fun hlt => ⟨hlt, hlimit hlt⟩, fun h => h.1⟩
  · have hsum : a.saturatingAdd b = max := by
      simp [saturatingAdd, add, ofNanos?, hfits]
    have hlimit := x.lt_limit
    rw [hsum]
    exact ⟨fun hlt => ⟨by omega, hlt⟩, fun h => h.2⟩

theorem le_max (d : Duration) : d ≤ max :=
  Nat.le_sub_one_of_lt d.lt_limit

theorem fromSecsF64_of_nonneg {q : ℚ} (h : 0 ≤ q) :
    fromSecsF64 q = ofNanos? (roundTiesEven (q * nanosPerSec)).toNat :=
  if_neg (not_lt.mpr h)

/-- A converted number of seconds is the nearest number of nanoseconds. -/
theorem abs_fromSecsF64_sub_le {q : ℚ} {d : Duration} (h : 0 ≤ q) (hd : fromSecsF64 q = some d) :
    |(d.nanos : ℚ) - q * nanosPerSec| ≤ 1 / 2 := by
  have hscaled : 0 ≤ q * nanosPerSec := mul_nonneg h (Nat.cast_nonneg _)
  have hround := abs_roundTiesEven_sub_le (q * nanosPerSec)
  have hnonneg : 0 ≤ roundTiesEven (q * nanosPerSec) := by
    by_contra hneg
    have hle : (roundTiesEven (q * nanosPerSec) : ℚ) ≤ -1 := by
      exact_mod_cast Int.le_sub_one_of_lt (not_le.mp hneg)
    have hlow := (abs_le.mp hround).1
    linarith
  have hnanos : (d.nanos : Int) = roundTiesEven (q * nanosPerSec) := by
    rw [fromSecsF64_of_nonneg h, ofNanos?_eq_some_iff] at hd
    rw [hd, Int.toNat_of_nonneg hnonneg]
  rw [← hnanos] at hround
  exact_mod_cast hround

/-- The conversion of a number of seconds that is not negative panics exactly when the number
is within half a nanosecond of the limit or beyond. -/
theorem fromSecsF64_eq_none_iff {q : ℚ} (h : 0 ≤ q) :
    fromSecsF64 q = none ↔ (durationLimit : ℚ) - 1 / 2 ≤ q * nanosPerSec := by
  have hround := roundTiesEven_lt_iff (q := q * nanosPerSec)
    (show (durationLimit : Int) % 2 = 0 by decide +kernel)
  have hpos : 0 < durationLimit := by decide
  rw [fromSecsF64_of_nonneg h, ofNanos?, dite_eq_right_iff]
  push_cast at hround
  rw [← not_lt, ← hround]
  constructor
  · intro hnone hlt
    exact absurd (hnone (by omega)) (Option.some_ne_none _)
  · intro hge hlt
    exact absurd (by omega) hge

end Duration

/-! ## Instants of the monotonic clock -/

/-- A reading of the monotonic clock, in nanoseconds since its zero. -/
@[ext]
structure Instant where
  nanos : Nat
  lt_limit : nanos < durationLimit
deriving DecidableEq

namespace Instant

theorem nanos_injective : Function.Injective Instant.nanos :=
  fun _ _ h => Instant.ext h

instance : LinearOrder Instant :=
  LinearOrder.lift' Instant.nanos nanos_injective

theorem le_iff_nanos {a b : Instant} : a ≤ b ↔ a.nanos ≤ b.nanos :=
  Iff.rfl

/-- The instant a whole number of milliseconds after the zero of the clock. -/
def ofMillis (ms : U64) : Instant where
  nanos := (Duration.fromMillis ms).nanos
  lt_limit := (Duration.fromMillis ms).lt_limit

/-- Rust's {lit}`saturating_duration_since`, and {lit}`elapsed` when {lit}`now`
is the current reading: the time from {lit}`earlier` to {lit}`now`, zero if the
readings are the other way round. -/
def elapsedSince (now earlier : Instant) : Duration where
  nanos := now.nanos - earlier.nanos
  lt_limit := lt_of_le_of_lt (Nat.sub_le _ _) now.lt_limit

@[simp]
theorem elapsedSince_nanos (now earlier : Instant) :
    (now.elapsedSince earlier).nanos = now.nanos - earlier.nanos :=
  rfl

end Instant
end EchoSync
