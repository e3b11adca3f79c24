import EchoSync.Scheduler.PlaybackScheduler

/-!
# Playback Scheduler - Exact deadlines

The arithmetic of a deadline goes through two casts to 64 bits and two additions
that panic on overflow.  This file says what every deadline is as an exact number
of nanoseconds, and from that when the arithmetic of a timeline succeeds and when
its deadlines are ordered like the timestamps.

Main results:

- Theorem {lit}`deadlineFrom_eq_some_iff`: the deadline under an anchor, and when
  there is one.
- Theorem {lit}`calculateDeadline_mono_iff`: two deadlines are ordered and not before
  the anchor exactly when no moment wraps and a multiple of the resolution lies
  between the anchor and each moment.
- Theorem {lit}`timeline_total_iff`: the sections that hold the timeline panic unless
  its arithmetic is in range.
-/

namespace EchoSync
namespace Scheduler
namespace PlaybackTimeline

/-! ## Exact moments -/

/-- The moment of a timestamp under an anchor before any cast, in nanoseconds. -/
def momentNanos (anchor : Anchor) (timestampMs : U64) : Nat :=
  anchor.localOffset.nanos + (timestampMs.val - anchor.timestampMs.val) * nanosPerMilli

/-- The expected moment of a timestamp under an anchor in nanoseconds, if no operation
panics. -/
def expectedNanos (t : PlaybackTimeline) (anchor : Anchor) (timestampMs : U64) : Nat :=
  if anchor.timestampMs ≤ timestampMs then
    (t.roundDown (U64.wrap (momentNanos anchor timestampMs / nanosPerMilli))).val *
      nanosPerMilli
  else anchor.localOffset.nanos

/-- The anchor that a call with this timestamp uses: the one that is set, or the one that
the call sets. -/
def anchorAt (t : PlaybackTimeline) (timestampMs : U64) (now : Instant) : Anchor :=
  t.anchor.getD
    { timestampMs
      localOffset := Duration.fromMillis
        (t.roundDown (U64.wrap (now.elapsedSince t.startedAt).asMillis)) }

theorem momentNanos_div (anchor : Anchor) (timestampMs : U64) :
    momentNanos anchor timestampMs / nanosPerMilli =
      anchor.localOffset.asMillis + (timestampMs.val - anchor.timestampMs.val) :=
  Nat.add_mul_div_right _ _ (by decide)

theorem roundDown_val (t : PlaybackTimeline) (ms : U64) :
    (t.roundDown ms).val = ms.val / t.resolutionMs.val * t.resolutionMs.val :=
  rfl

theorem quantize_eq_some_iff {t : PlaybackTimeline} {d q : Duration} :
    t.quantize d = some q ↔
      t.resolutionMs.val ≠ 0 ∧ q = Duration.fromMillis (t.roundDown (U64.wrap d.asMillis)) := by
  constructor
  · intro h
    rcases quantize_eq_some h with ⟨hpos, hq⟩
    exact ⟨hpos.ne', hq⟩
  · rintro ⟨hne, rfl⟩
    rw [quantize, if_neg hne]

/-- The expected moment under an anchor, and when there is one. -/
theorem expectedFrom_eq_some_iff {t : PlaybackTimeline} {anchor : Anchor} {timestampMs : U64}
    {expected : Duration} :
    t.expectedFrom anchor timestampMs = some expected ↔
      (anchor.timestampMs ≤ timestampMs →
        t.resolutionMs.val ≠ 0 ∧ momentNanos anchor timestampMs < durationLimit) ∧
      expected.nanos = t.expectedNanos anchor timestampMs := by
  unfold expectedFrom expectedNanos
  split_ifs with hafter
  · have hdelta : (timestampMs - anchor.timestampMs).val =
        timestampMs.val - anchor.timestampMs.val := Fin.sub_val_of_le hafter
    constructor
    · intro h
      rcases Option.bind_eq_some_iff.mp h with ⟨sum, hsum, hquantize⟩
      rcases quantize_eq_some_iff.mp hquantize with ⟨hne, rfl⟩
      have hnanos := Duration.add_eq_some_iff.mp hsum
      rw [Duration.fromMillis_nanos, hdelta] at hnanos
      have hmoment : sum.nanos = momentNanos anchor timestampMs := hnanos
      refine ⟨fun _ => ⟨hne, hmoment ▸ sum.lt_limit⟩, ?_⟩
      rw [Duration.fromMillis_nanos, Duration.asMillis, hmoment]
    · rintro ⟨hin, hexpected⟩
      rcases hin hafter with ⟨hne, hlimit⟩
      refine Option.bind_eq_some_iff.mpr ⟨⟨momentNanos anchor timestampMs, hlimit⟩, ?_, ?_⟩
      · rw [Duration.add_eq_some_iff, Duration.fromMillis_nanos, hdelta]
        rfl
      · rw [quantize_eq_some_iff]
        exact ⟨hne, Duration.ext hexpected⟩
  · constructor
    · intro h
      cases h
      exact ⟨fun h => absurd h hafter, rfl⟩
    · rintro ⟨-, hexpected⟩
      exact congrArg some (Duration.ext hexpected.symm)

/-- The deadline under an anchor, and when there is one. -/
theorem deadlineFrom_eq_some_iff {t : PlaybackTimeline} {anchor : Anchor} {timestampMs : U64}
    {latency deadline : Duration} :
    t.deadlineFrom anchor timestampMs latency = some deadline ↔
      (anchor.timestampMs ≤ timestampMs →
        t.resolutionMs.val ≠ 0 ∧ momentNanos anchor timestampMs < durationLimit) ∧
      t.expectedNanos anchor timestampMs < durationLimit ∧
      deadline.nanos = t.expectedNanos anchor timestampMs + latency.nanos := by
  unfold deadlineFrom
  constructor
  · intro h
    rcases Option.bind_eq_some_iff.mp h with ⟨expected, hexpected, hadd⟩
    rcases expectedFrom_eq_some_iff.mp hexpected with ⟨hin, hnanos⟩
    refine ⟨hin, hnanos ▸ expected.lt_limit, ?_⟩
    rw [Duration.add_eq_some_iff.mp hadd, hnanos]
  · rintro ⟨hin, hlimit, hdeadline⟩
    refine Option.bind_eq_some_iff.mpr ⟨⟨t.expectedNanos anchor timestampMs, hlimit⟩, ?_, ?_⟩
    · exact expectedFrom_eq_some_iff.mpr ⟨hin, rfl⟩
    · exact Duration.add_eq_some_iff.mpr hdeadline

theorem currentTime_eq_some_iff {t : PlaybackTimeline} {now : Instant} {current : Duration} :
    t.currentTime now = some current ↔ t.resolutionMs.val ≠ 0 ∧
      current = Duration.fromMillis
        (t.roundDown (U64.wrap (now.elapsedSince t.startedAt).asMillis)) :=
  quantize_eq_some_iff

theorem currentTime_eq_none_iff {t : PlaybackTimeline} {now : Instant} :
    t.currentTime now = none ↔ t.resolutionMs.val = 0 := by
  unfold currentTime quantize
  split_ifs with hzero <;> simp [hzero]

/-- A call answers what is expected under the anchor that it uses. -/
theorem expectedPlaybackTime_fst (t : PlaybackTimeline) (timestampMs : U64) (now : Instant) :
    (t.expectedPlaybackTime timestampMs now).1 =
      if t.resolutionMs.val = 0 then none
      else t.expectedFrom (t.anchorAt timestampMs now) timestampMs := by
  unfold expectedPlaybackTime
  split_ifs with hzero
  · rw [currentTime_eq_none_iff.mpr hzero]
  · rw [currentTime_eq_some_iff.mpr ⟨hzero, rfl⟩]
    dsimp only
    split
    · rename_i hnone
      exact hnone.symm
    · rename_i expected hsome
      exact hsome.symm

theorem calculateDeadline_fst (t : PlaybackTimeline) (timestampMs : U64) (latency : Duration)
    (now : Instant) :
    (t.calculateDeadline timestampMs latency now).1 =
      if t.resolutionMs.val = 0 then none
      else t.deadlineFrom (t.anchorAt timestampMs now) timestampMs latency := by
  have hexpected := t.expectedPlaybackTime_fst timestampMs now
  unfold calculateDeadline deadlineFrom
  rcases hcall : t.expectedPlaybackTime timestampMs now with ⟨answer, timeline⟩
  rw [hcall] at hexpected
  dsimp only at hexpected
  split_ifs at hexpected ⊢ with hzero
  · rw [hexpected]
  · rw [← hexpected]
    cases answer <;> rfl

/-! ## Monotone deadlines -/

/-- A number of the form {lit}`k * r * m` lies between two bounds exactly when rounding the
upper one down does not fall below the lower one. -/
theorem exists_multiple_between_iff {a b r m : Nat} (hr : 0 < r) (hm : 0 < m) :
    (∃ k, a ≤ k * r * m ∧ k * r * m ≤ b) ↔ a ≤ b / m / r * r * m := by
  constructor
  · rintro ⟨k, hlow, hhigh⟩
    have hk : k ≤ b / m / r := by
      rw [Nat.le_div_iff_mul_le hr, Nat.le_div_iff_mul_le hm]
      exact hhigh
    calc
      a ≤ k * r * m := hlow
      _ ≤ b / m / r * r * m := by gcongr
  · intro hle
    refine ⟨b / m / r, hle, ?_⟩
    calc
      b / m / r * r * m ≤ b / m * m := Nat.mul_le_mul_right _ (Nat.div_mul_le_self _ _)
      _ ≤ b := Nat.div_mul_le_self _ _

/-- The deadline of a timestamp is as far from an anchor as the timestamps are: the
resolution survives its cast, the milliseconds of the moment fit in 64 bits, a multiple of
the resolution lies between the anchor and the moment, and the latency does not overflow. -/
structure KeepsPace (t : PlaybackTimeline) (anchor : Anchor) (timestampMs : U64)
    (latency : Duration) : Prop where
  resolution : t.resolutionMs.val ≠ 0
  fits : anchor.timestampMs ≤ timestampMs → FitsFrom anchor timestampMs
  multiple : anchor.timestampMs ≤ timestampMs →
    ∃ k, anchor.localOffset.nanos ≤ k * t.resolutionMs.val * nanosPerMilli ∧
      k * t.resolutionMs.val * nanosPerMilli ≤ momentNanos anchor timestampMs
  latency : t.expectedNanos anchor timestampMs + latency.nanos < durationLimit

section Pace

variable {t : PlaybackTimeline} {anchor : Anchor} {timestampMs : U64} {latency : Duration}

/-- While its milliseconds fit in 64 bits, the moment is rounded down to a multiple of the
resolution. -/
theorem expectedNanos_of_fits (hafter : anchor.timestampMs ≤ timestampMs)
    (hfits : FitsFrom anchor timestampMs) :
    t.expectedNanos anchor timestampMs = momentNanos anchor timestampMs / nanosPerMilli /
      t.resolutionMs.val * t.resolutionMs.val * nanosPerMilli := by
  have hlt : momentNanos anchor timestampMs / nanosPerMilli < 2 ^ 64 := by
    rw [momentNanos_div]
    exact hfits
  rw [expectedNanos, if_pos hafter, roundDown_val, U64.wrap_val_of_lt hlt]

/-- A moment whose milliseconds wrap is expected before the anchor. -/
theorem expectedNanos_lt_of_wrap (hafter : anchor.timestampMs ≤ timestampMs)
    (hwrap : ¬ FitsFrom anchor timestampMs) :
    t.expectedNanos anchor timestampMs < anchor.localOffset.nanos := by
  have hround := t.roundDown_le (U64.wrap (momentNanos anchor timestampMs / nanosPerMilli))
  have hcast : (U64.wrap (momentNanos anchor timestampMs / nanosPerMilli)).val =
      (anchor.localOffset.asMillis + (timestampMs.val - anchor.timestampMs.val)) % 2 ^ 64 := by
    rw [momentNanos_div]
    rfl
  have hlow : (anchor.localOffset.asMillis + (timestampMs.val - anchor.timestampMs.val)) %
      2 ^ 64 < anchor.localOffset.asMillis := by
    have hts := timestampMs.isLt
    have hlimit := not_lt.mp hwrap
    omega
  rw [expectedNanos, if_pos hafter]
  calc
    (t.roundDown (U64.wrap (momentNanos anchor timestampMs / nanosPerMilli))).val *
        nanosPerMilli
        ≤ (U64.wrap (momentNanos anchor timestampMs / nanosPerMilli)).val * nanosPerMilli :=
      Nat.mul_le_mul_right _ hround
    _ < anchor.localOffset.asMillis * nanosPerMilli := by
      rw [hcast]
      exact Nat.mul_lt_mul_of_pos_right hlow (by decide)
    _ ≤ anchor.localOffset.nanos := Nat.div_mul_le_self _ _

/-- A moment whose milliseconds fit in 64 bits is in range. -/
theorem momentNanos_lt_of_fits (hfits : FitsFrom anchor timestampMs) :
    momentNanos anchor timestampMs < durationLimit := by
  have hmillis : momentNanos anchor timestampMs / nanosPerMilli < 2 ^ 64 := by
    rw [momentNanos_div]
    exact hfits
  calc
    momentNanos anchor timestampMs < 2 ^ 64 * nanosPerMilli :=
      (Nat.div_lt_iff_lt_mul (by decide)).mp hmillis
    _ ≤ durationLimit := by decide

/-- A timestamp has a deadline that is not before the anchor exactly when the deadline
keeps pace with the timestamp. -/
theorem deadlineFrom_ge_iff (hresolution : t.resolutionMs.val ≠ 0) :
    (∃ d, t.deadlineFrom anchor timestampMs latency = some d ∧
      anchor.localOffset.nanos + latency.nanos ≤ d.nanos) ↔
      KeepsPace t anchor timestampMs latency := by
  have hpos := Nat.pos_of_ne_zero hresolution
  constructor
  · rintro ⟨d, hdeadline, hge⟩
    rcases deadlineFrom_eq_some_iff.mp hdeadline with ⟨-, -, hnanos⟩
    have hlow : anchor.localOffset.nanos ≤ t.expectedNanos anchor timestampMs := by omega
    have hfits : anchor.timestampMs ≤ timestampMs → FitsFrom anchor timestampMs := by
      intro hafter
      by_contra hwrap
      exact absurd hlow (not_le.mpr (expectedNanos_lt_of_wrap hafter hwrap))
    refine ⟨hresolution, hfits, ?_, hnanos ▸ d.lt_limit⟩
    intro hafter
    rw [exists_multiple_between_iff hpos (by decide),
      ← expectedNanos_of_fits hafter (hfits hafter)]
    exact hlow
  · intro h
    refine ⟨⟨_, h.latency⟩, deadlineFrom_eq_some_iff.mpr ⟨?_, ?_, rfl⟩, ?_⟩
    · intro hafter
      exact ⟨hresolution, momentNanos_lt_of_fits (h.fits hafter)⟩
    · exact lt_of_le_of_lt (Nat.le_add_right _ _) h.latency
    · refine Nat.add_le_add_right ?_ _
      by_cases hafter : anchor.timestampMs ≤ timestampMs
      · rw [expectedNanos_of_fits hafter (h.fits hafter),
          ← exists_multiple_between_iff hpos (by decide)]
        exact h.multiple hafter
      · rw [expectedNanos, if_neg hafter]

/-- Timestamps that keep pace have ordered expected moments. -/
theorem expectedNanos_mono {early late : U64} (hle : early ≤ late)
    (hearly : KeepsPace t anchor early latency) (hlate : KeepsPace t anchor late latency) :
    t.expectedNanos anchor early ≤ t.expectedNanos anchor late := by
  have hpos := Nat.pos_of_ne_zero hlate.resolution
  by_cases hafter : anchor.timestampMs ≤ early
  · have hmoment : momentNanos anchor early ≤ momentNanos anchor late :=
      Nat.add_le_add_left (Nat.mul_le_mul_right _ (Nat.sub_le_sub_right hle _)) _
    rw [expectedNanos_of_fits hafter (hearly.fits hafter),
      expectedNanos_of_fits (hafter.trans hle) (hlate.fits (hafter.trans hle))]
    gcongr
  · rw [expectedNanos, if_neg hafter]
    by_cases hafter' : anchor.timestampMs ≤ late
    · rw [expectedNanos_of_fits hafter' (hlate.fits hafter'),
        ← exists_multiple_between_iff hpos (by decide)]
      exact hlate.multiple hafter'
    · rw [expectedNanos, if_neg hafter']

/-- Under an aligned anchor the anchor itself is the multiple. -/
theorem keepsPace_of_aligned (haligned : t.Aligned anchor) (hresolution : t.resolutionMs.val ≠ 0)
    (hfits : FitsFrom anchor timestampMs)
    (hlatency : t.expectedNanos anchor timestampMs + latency.nanos < durationLimit) :
    KeepsPace t anchor timestampMs latency := by
  rcases haligned with ⟨k, hlocal, j, hj⟩
  refine ⟨hresolution, fun _ => hfits, ?_, hlatency⟩
  intro _
  have hoffset : anchor.localOffset.nanos = j * t.resolutionMs.val * nanosPerMilli := by
    rw [hlocal, Duration.fromMillis_nanos, hj, Nat.mul_comm j]
  exact ⟨j, hoffset.le, hoffset.ge.trans (Nat.le_add_right _ _)⟩

end Pace

/-- On an anchored timeline, two timestamps in order have deadlines in the same order and
not before the anchor exactly when both deadlines keep pace with their timestamps. -/
theorem calculateDeadline_mono_iff {t : PlaybackTimeline} {anchor : Anchor} {early late : U64}
    (hanchor : t.anchor = some anchor) (hle : early ≤ late) (latency : Duration)
    (first second : Instant) :
    (∃ d₁ d₂, (t.calculateDeadline early latency first).1 = some d₁ ∧
      (t.calculateDeadline late latency second).1 = some d₂ ∧ d₁ ≤ d₂ ∧
      anchor.localOffset.nanos + latency.nanos ≤ d₁.nanos ∧
      anchor.localOffset.nanos + latency.nanos ≤ d₂.nanos) ↔
      KeepsPace t anchor early latency ∧ KeepsPace t anchor late latency := by
  have hearly : t.anchorAt early first = anchor := by rw [anchorAt, hanchor, Option.getD_some]
  have hlate : t.anchorAt late second = anchor := by rw [anchorAt, hanchor, Option.getD_some]
  rw [calculateDeadline_fst, calculateDeadline_fst, hearly, hlate]
  split_ifs with hzero
  · constructor
    · rintro ⟨d₁, d₂, hnone, -⟩
      cases hnone
    · rintro ⟨hpace, -⟩
      exact absurd hzero hpace.resolution
  · rw [← deadlineFrom_ge_iff hzero, ← deadlineFrom_ge_iff hzero]
    constructor
    · rintro ⟨d₁, d₂, h₁, h₂, -, hge₁, hge₂⟩
      exact ⟨⟨d₁, h₁, hge₁⟩, ⟨d₂, h₂, hge₂⟩⟩
    · rintro ⟨⟨d₁, h₁, hge₁⟩, ⟨d₂, h₂, hge₂⟩⟩
      have hpace₁ := (deadlineFrom_ge_iff hzero).mp ⟨d₁, h₁, hge₁⟩
      have hpace₂ := (deadlineFrom_ge_iff hzero).mp ⟨d₂, h₂, hge₂⟩
      refine ⟨d₁, d₂, h₁, h₂, ?_, hge₁, hge₂⟩
      rw [Duration.le_iff_nanos, (deadlineFrom_eq_some_iff.mp h₁).2.2,
        (deadlineFrom_eq_some_iff.mp h₂).2.2]
      exact Nat.add_le_add_right (expectedNanos_mono hle hpace₁ hpace₂) _

/-- Deadlines 35 milliseconds apart for timestamps 45 milliseconds apart, at a resolution of
10 milliseconds. -/
theorem calculateDeadline_mono_iff_rounded :
    ∃ d₁ d₂ t, t = ((new (Duration.fromMillis 10) (Instant.ofMillis 0)).calculateDeadline 5
        (Duration.fromMillis 150) (Instant.ofMillis 1000)).2 ∧
      (t.calculateDeadline 5 (Duration.fromMillis 150) (Instant.ofMillis 1000)).1 = some d₁ ∧
      (t.calculateDeadline 50 (Duration.fromMillis 150) (Instant.ofMillis 1010)).1 = some d₂ ∧
      d₁ ≤ d₂ := by
  have hiff := @calculateDeadline_mono_iff
    ((new (Duration.fromMillis 10) (Instant.ofMillis 0)).calculateDeadline 5
      (Duration.fromMillis 150) (Instant.ofMillis 1000)).2
    ⟨5, Duration.fromMillis 1000⟩ 5 50 (by decide) (by decide) (Duration.fromMillis 150)
    (Instant.ofMillis 1000) (Instant.ofMillis 1010)
  rcases hiff.mpr ⟨⟨by decide, fun _ => by decide, fun _ => ⟨100, by decide⟩, by decide⟩,
    ⟨by decide, fun _ => by decide, fun _ => ⟨104, by decide⟩, by decide⟩⟩ with
    ⟨d₁, d₂, h₁, h₂, hle, -⟩
  exact ⟨d₁, d₂, _, rfl, h₁, h₂, hle⟩

/-- A timeline anchored after one second: the deadline of the largest timestamp is before the
deadline of the anchor's. -/
theorem calculateDeadline_wraps :
    let t := ((new (Duration.fromMillis 1) (Instant.ofMillis 0)).calculateDeadline 0
      (Duration.fromMillis 150) (Instant.ofMillis 1000)).2
    t.anchor = some ⟨0, Duration.fromMillis 1000⟩ ∧
      (t.calculateDeadline 0 (Duration.fromMillis 150) (Instant.ofMillis 1000)).1 =
        some (Duration.fromMillis 1150) ∧
      (t.calculateDeadline (2 ^ 64 - 1) (Duration.fromMillis 150) (Instant.ofMillis 1000)).1 =
        some (Duration.fromMillis 1149) := by
  decide

/-! ## Total arithmetic -/

/-- The arithmetic of a timeline is in range for a timestamp: the resolution does not vanish
in the cast to 64 bits, and neither the distance from the anchor nor the latency overflows. -/
structure InRange (t : PlaybackTimeline) (anchor : Anchor) (timestampMs : U64)
    (latency : Duration) : Prop where
  resolution : ¬ 2 ^ 64 ∣ max t.resolution.asMillis 1
  distance : anchor.timestampMs ≤ timestampMs → momentNanos anchor timestampMs < durationLimit
  latency : t.expectedNanos anchor timestampMs + latency.nanos < durationLimit

theorem resolutionMs_eq_zero_iff {t : PlaybackTimeline} :
    t.resolutionMs.val = 0 ↔ 2 ^ 64 ∣ max t.resolution.asMillis 1 :=
  Nat.dvd_iff_mod_eq_zero.symm

/-- A call assigns a deadline exactly if its arithmetic is in range. -/
theorem calculateDeadline_isSome_iff {t : PlaybackTimeline} {timestampMs : U64}
    {latency : Duration} {now : Instant} :
    (t.calculateDeadline timestampMs latency now).1.isSome ↔
      InRange t (t.anchorAt timestampMs now) timestampMs latency := by
  rw [calculateDeadline_fst, Option.isSome_iff_exists]
  split_ifs with hzero
  · constructor
    · rintro ⟨d, hnone⟩
      cases hnone
    · intro h
      exact absurd (resolutionMs_eq_zero_iff.mp hzero) h.resolution
  · constructor
    · rintro ⟨d, hdeadline⟩
      rcases deadlineFrom_eq_some_iff.mp hdeadline with ⟨hin, -, hnanos⟩
      exact ⟨fun hdvd => hzero (resolutionMs_eq_zero_iff.mpr hdvd), fun hafter => (hin hafter).2,
        hnanos ▸ d.lt_limit⟩
    · intro h
      refine ⟨⟨_, h.latency⟩, deadlineFrom_eq_some_iff.mpr ⟨?_, ?_, rfl⟩⟩
      · exact fun hafter => ⟨hzero, h.distance hafter⟩
      · exact lt_of_le_of_lt (Nat.le_add_right _ _) h.latency

/-- Under an aligned anchor, a resolution below and a latency well below the range of the
milliseconds suffice. -/
theorem inRange_of_aligned {t : PlaybackTimeline} {anchor : Anchor} {timestampMs : U64}
    {latency : Duration} (haligned : t.Aligned anchor)
    (hresolution : t.resolution.asMillis < 2 ^ 64)
    (hlatency : latency.nanos + 2 ^ 64 * nanosPerMilli ≤ durationLimit) :
    InRange t anchor timestampMs latency := by
  rcases haligned with ⟨k, hlocal, -⟩
  refine ⟨?_, ?_, ?_⟩
  · intro hdvd
    have hpos : 0 < max t.resolution.asMillis 1 := lt_of_lt_of_le Nat.one_pos (le_max_right _ _)
    have hle := Nat.le_of_dvd hpos hdvd
    have hlt : max t.resolution.asMillis 1 < 2 ^ 64 := Nat.max_lt.mpr ⟨hresolution, by decide⟩
    exact absurd hle (not_le.mpr hlt)
  · intro _
    have hk := k.isLt
    have hts := timestampMs.isLt
    have hscale : (2 ^ 64 + 2 ^ 64) * nanosPerMilli ≤ durationLimit := by decide
    rw [momentNanos, hlocal, Duration.fromMillis_nanos, ← Nat.add_mul]
    refine lt_of_lt_of_le (Nat.mul_lt_mul_of_pos_right ?_ (by decide)) hscale
    omega
  · have hexpected : t.expectedNanos anchor timestampMs < 2 ^ 64 * nanosPerMilli := by
      unfold expectedNanos
      split_ifs
      · exact Nat.mul_lt_mul_of_pos_right (Fin.isLt _) (by decide)
      · rw [hlocal]
        exact Nat.mul_lt_mul_of_pos_right k.isLt (by decide)
    omega

end PlaybackTimeline

namespace PlaybackScheduler

open PlaybackTimeline Streaming Sync

theorem expectedPlaybackTime_isSome {t : PlaybackTimeline} {timestampMs : U64}
    {latency : Duration} {now : Instant}
    (h : (t.calculateDeadline timestampMs latency now).1.isSome) :
    (t.expectedPlaybackTime timestampMs now).1.isSome := by
  rw [Option.isSome_iff_exists] at h ⊢
  rcases h with ⟨deadline, hdeadline⟩
  unfold calculateDeadline at hdeadline
  split at hdeadline
  · cases hdeadline
  · rename_i expected _ hexpected
    exact ⟨expected, congrArg Prod.fst hexpected⟩

/-- The section that assigns a deadline does not panic if the timeline has one to assign and
can tell the time. -/
theorem assignDeadline_ne_panicked {s : PlaybackScheduler} {adjusted : U64}
    {first second : Instant}
    (hsome : (s.timeline.calculateDeadline adjusted s.config.playbackLatency first).1.isSome)
    (hcurrent : ∀ now, s.timeline.currentTime now ≠ none) :
    (s.assignDeadline adjusted first second).1 ≠ .panicked := by
  unfold assignDeadline
  split_ifs
  · simp
  · rcases hcall : s.timeline.calculateDeadline adjusted s.config.playbackLatency first with
      ⟨answer, timeline⟩
    rw [hcall] at hsome
    rcases Option.isSome_iff_exists.mp hsome with ⟨deadline, rfl⟩
    rcases calculateDeadline_spec hcall with ⟨current, -, rfl, -⟩
    dsimp only
    split
    · rename_i hnone
      exact absurd hnone (hcurrent second)
    · simp

theorem readTime_ne_panicked {s : PlaybackScheduler} {now : Instant}
    (hcurrent : s.timeline.currentTime now ≠ none) : (s.readTime now).1 ≠ .panicked := by
  unfold readTime
  split_ifs
  · simp
  · split
    · rename_i hnone
      exact absurd hnone hcurrent
    · simp

/-- The arithmetic of the timeline succeeds, and the sections of the scheduler that hold the
timeline end without a panic, exactly if the arithmetic is in range. -/
theorem timeline_total_iff (s : PlaybackScheduler) (adjusted : U64) (first second : Instant) :
    ((s.timeline.currentTime second).isSome ∧
      (s.timeline.expectedPlaybackTime adjusted first).1.isSome ∧
      (s.timeline.calculateDeadline adjusted s.config.playbackLatency first).1.isSome ∧
      (s.assignDeadline adjusted first second).1 ≠ .panicked ∧
      (s.readTime second).1 ≠ .panicked) ↔
      InRange s.timeline (s.timeline.anchorAt adjusted first) adjusted
        s.config.playbackLatency := by
  rw [← calculateDeadline_isSome_iff]
  constructor
  · rintro ⟨-, -, hdeadline, -⟩
    exact hdeadline
  · intro hsome
    have hrange := calculateDeadline_isSome_iff.mp hsome
    have hcurrent : ∀ now, s.timeline.currentTime now ≠ none := by
      intro now hnone
      exact hrange.resolution (resolutionMs_eq_zero_iff.mp (currentTime_eq_none_iff.mp hnone))
    refine ⟨Option.isSome_iff_ne_none.mpr (hcurrent second), ?_, hsome, ?_, ?_⟩
    · exact expectedPlaybackTime_isSome hsome
    · exact assignDeadline_ne_panicked hsome hcurrent
    · exact readTime_ne_panicked (hcurrent second)

/-- A valid configuration under which the first packet makes the timeline panic, which poisons
it. -/
def PanicsAtOnce (config : SchedulerConfig) : Prop :=
  let s := ((ofConfig config (Synchronizer.ofConfig SyncConfig.default (Instant.ofMillis 0))
    (Instant.ofMillis 0)).start (Instant.ofMillis 0)).2
  config.validate = .ok () ∧
    (s.timeline.calculateDeadline 0 config.playbackLatency (Instant.ofMillis 1)).1 = none ∧
    (s.assignDeadline 0 (Instant.ofMillis 1) (Instant.ofMillis 1)).1 = .panicked ∧
    (s.assignDeadline 0 (Instant.ofMillis 1) (Instant.ofMillis 1)).2.timelinePoisoned = true

instance (config : SchedulerConfig) : Decidable (PanicsAtOnce config) :=
  inferInstanceAs (Decidable (_ ∧ _ ∧ _ ∧ _))

/-- A resolution of {lit}`2 ^ 64` milliseconds makes the first scheduling call divide by zero,
and the largest latency makes it overflow. -/
theorem timeline_panics :
    PanicsAtOnce { SchedulerConfig.default with
        timelineResolution := ⟨2 ^ 64 * nanosPerMilli, by decide⟩ } ∧
      PanicsAtOnce { SchedulerConfig.default with playbackLatency := Duration.max } := by
  decide +kernel

end PlaybackScheduler
end Scheduler
end EchoSync
