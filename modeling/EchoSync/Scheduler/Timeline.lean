import EchoSync.Scheduler.Config

/-!
# Playback Scheduler - The playback timeline

The scheduler's notion of when: a clock of elapsed local time, read in whole
multiples of a resolution, and an anchor that pairs the timestamp of the first
packet with the elapsed time at which it was seen.  A later packet is expected
at the anchor's local time plus the distance of the timestamps.

Functions that can panic return {lit}`none` then, together with the timeline
they leave behind.

Main results:

- Theorems {lit}`quantize_le` and {lit}`le_quantize`: a quantized reading is not
  above the exact one, and no multiple of the resolution lies between them.
- Theorem {lit}`currentTime_mono`: the current time never goes back before its
  milliseconds wrap.
- Theorem {lit}`calculateDeadline_spec`: the deadline a call assigns, and the
  anchor it leaves.
- Theorem {lit}`deadlineFrom_mono`: under one anchor, deadlines are monotone in
  the timestamp as long as the milliseconds do not wrap.
-/

namespace EchoSync
namespace Scheduler

/-- The timestamp of a packet paired with the local elapsed time at which the
packet was first observed. -/
structure Anchor where
  timestampMs : U64
  localOffset : Duration
deriving DecidableEq

/-- The epoch of the elapsed-time clock, its resolution and the anchor.  The
anchor has a lock of its own, which a panic can poison. -/
structure PlaybackTimeline where
  startedAt : Instant
  resolution : Duration
  anchor : Option Anchor
  anchorPoisoned : Bool
deriving DecidableEq

namespace PlaybackTimeline

/-- A timeline without an anchor whose clock starts at the current reading. -/
def new (resolution : Duration) (now : Instant) : PlaybackTimeline where
  startedAt := now
  resolution := if resolution.isZero then Duration.fromMillis 1 else resolution
  anchor := none
  anchorPoisoned := false

/-- The resolution in whole milliseconds, at least one, cast to 64 bits. -/
def resolutionMs (t : PlaybackTimeline) : U64 :=
  U64.wrap (max t.resolution.asMillis 1)

/-- Round a 64-bit number of milliseconds down to a multiple of the resolution. -/
def roundDown (t : PlaybackTimeline) (ms : U64) : U64 :=
  ⟨ms.val / t.resolutionMs.val * t.resolutionMs.val,
    lt_of_le_of_lt (Nat.div_mul_le_self _ _) ms.isLt⟩

/-- Round a duration down to a multiple of the resolution.  The milliseconds are
cast to 64 bits first, and a resolution that the cast turns into zero makes the
division panic. -/
def quantize (t : PlaybackTimeline) (d : Duration) : Option Duration :=
  if t.resolutionMs.val = 0 then none
  else some (Duration.fromMillis (t.roundDown (U64.wrap d.asMillis)))

/-- Elapsed local time since the epoch, quantized. -/
def currentTime (t : PlaybackTimeline) (now : Instant) : Option Duration :=
  t.quantize (now.elapsedSince t.startedAt)

/-- The expected playback moment of a packet relative to an anchor, before the
quantization of the sum; a timestamp before the anchor is clamped to it. -/
def expectedFrom (t : PlaybackTimeline) (anchor : Anchor) (packetTimestampMs : U64) :
    Option Duration :=
  if packetTimestampMs ≥ anchor.timestampMs then
    (anchor.localOffset.add
      (Duration.fromMillis (packetTimestampMs - anchor.timestampMs))).bind t.quantize
  else some anchor.localOffset

/-- The expected playback moment of a packet.  The first call establishes the
anchor, and a panic under the anchor's lock poisons that lock. -/
def expectedPlaybackTime (t : PlaybackTimeline) (packetTimestampMs : U64) (now : Instant) :
    Option Duration × PlaybackTimeline :=
  match t.currentTime now with
  | none => (none, t)
  | some current =>
      let anchor := t.anchor.getD { timestampMs := packetTimestampMs, localOffset := current }
      match t.expectedFrom anchor packetTimestampMs with
      | none => (none, { t with anchor := some anchor, anchorPoisoned := true })
      | some expected => (some expected, { t with anchor := some anchor })

/-- The playback deadline of a packet: its expected playback moment plus the
configured latency. -/
def calculateDeadline (t : PlaybackTimeline) (packetTimestampMs : U64) (latency : Duration)
    (now : Instant) : Option Duration × PlaybackTimeline :=
  match t.expectedPlaybackTime packetTimestampMs now with
  | (none, t) => (none, t)
  | (some expected, t) => (expected.add latency, t)

/-- Forget the anchor and restart the clock at the current reading. -/
def reset (t : PlaybackTimeline) (now : Instant) :
    Except SchedulerError Unit × PlaybackTimeline :=
  if t.anchorPoisoned then
    (.error (.operationFailed "playback timeline anchor lock poisoned"),
      { t with startedAt := now })
  else (.ok (), { t with startedAt := now, anchor := none })

/-! ## Quantization -/

theorem roundDown_le (t : PlaybackTimeline) (ms : U64) : (t.roundDown ms).val ≤ ms.val :=
  Nat.div_mul_le_self _ _

theorem dvd_roundDown (t : PlaybackTimeline) (ms : U64) :
    t.resolutionMs.val ∣ (t.roundDown ms).val :=
  Nat.dvd_mul_left _ _

theorem lt_roundDown_add {t : PlaybackTimeline} (hpos : 0 < t.resolutionMs.val) (ms : U64) :
    ms.val < (t.roundDown ms).val + t.resolutionMs.val :=
  Nat.lt_div_mul_add hpos

theorem roundDown_mono (t : PlaybackTimeline) {a b : U64} (h : a.val ≤ b.val) :
    (t.roundDown a).val ≤ (t.roundDown b).val :=
  Nat.mul_le_mul_right _ (Nat.div_le_div_right h)

/-- A multiple of the resolution survives rounding. -/
theorem le_roundDown_of_dvd {t : PlaybackTimeline} {m : Nat} {ms : U64}
    (hdvd : t.resolutionMs.val ∣ m) (hle : m ≤ ms.val) : m ≤ (t.roundDown ms).val := by
  rcases hdvd with ⟨k, rfl⟩
  rcases Nat.eq_zero_or_pos t.resolutionMs.val with hzero | hpos
  · simp [hzero]
  · have hk : k ≤ ms.val / t.resolutionMs.val :=
      (Nat.le_div_iff_mul_le hpos).mpr (by rwa [Nat.mul_comm] at hle)
    calc
      t.resolutionMs.val * k = k * t.resolutionMs.val := Nat.mul_comm _ _
      _ ≤ ms.val / t.resolutionMs.val * t.resolutionMs.val := Nat.mul_le_mul_right _ hk

theorem quantize_eq_some {t : PlaybackTimeline} {d q : Duration} (h : t.quantize d = some q) :
    0 < t.resolutionMs.val ∧ q = Duration.fromMillis (t.roundDown (U64.wrap d.asMillis)) := by
  unfold quantize at h
  split_ifs at h with hzero
  · exact ⟨Nat.pos_of_ne_zero hzero, (Option.some.inj h).symm⟩

/-- A quantized duration is never above the exact one. -/
theorem quantize_le {t : PlaybackTimeline} {d q : Duration} (h : t.quantize d = some q) :
    q ≤ d := by
  rcases quantize_eq_some h with ⟨-, rfl⟩
  have hround := t.roundDown_le (U64.wrap d.asMillis)
  have hwrap : (U64.wrap d.asMillis).val ≤ d.asMillis := Nat.mod_le _ _
  refine Duration.le_iff_nanos.mpr ?_
  calc
    (t.roundDown (U64.wrap d.asMillis)).val * nanosPerMilli
        ≤ d.asMillis * nanosPerMilli := Nat.mul_le_mul_right _ (hround.trans hwrap)
    _ ≤ d.nanos := Nat.div_mul_le_self _ _

/-- While the milliseconds fit in 64 bits, a multiple of the resolution that is
not above a duration is not above its quantized value either. -/
theorem le_quantize {t : PlaybackTimeline} {d q : Duration} {m : Nat}
    (h : t.quantize d = some q) (hfits : d.asMillis < 2 ^ 64)
    (hdvd : t.resolutionMs.val ∣ m) (hle : m * nanosPerMilli ≤ d.nanos) :
    m * nanosPerMilli ≤ q.nanos := by
  rcases quantize_eq_some h with ⟨-, rfl⟩
  have hmillis : m ≤ d.asMillis := (Nat.le_div_iff_mul_le (by decide)).mpr hle
  have hround : m ≤ (t.roundDown (U64.wrap d.asMillis)).val :=
    le_roundDown_of_dvd hdvd (by rwa [U64.wrap_val_of_lt hfits])
  exact Nat.mul_le_mul_right _ hround

/-- While the milliseconds fit in 64 bits, a quantized duration lies less than one
resolution below the exact one. -/
theorem lt_quantize_add {t : PlaybackTimeline} {d q : Duration} (h : t.quantize d = some q)
    (hfits : d.asMillis < 2 ^ 64) :
    d.nanos < q.nanos + t.resolutionMs.val * nanosPerMilli := by
  rcases quantize_eq_some h with ⟨hpos, rfl⟩
  have hround := lt_roundDown_add hpos (U64.wrap d.asMillis)
  rw [U64.wrap_val_of_lt hfits] at hround
  calc
    d.nanos < (d.asMillis + 1) * nanosPerMilli := by
      rw [Nat.add_mul, Nat.one_mul]
      exact Nat.lt_div_mul_add (by decide)
    _ ≤ ((t.roundDown (U64.wrap d.asMillis)).val + t.resolutionMs.val) * nanosPerMilli :=
      Nat.mul_le_mul_right _ hround
    _ = (Duration.fromMillis (t.roundDown (U64.wrap d.asMillis))).nanos +
        t.resolutionMs.val * nanosPerMilli := Nat.add_mul _ _ _

/-- While the milliseconds fit in 64 bits, a later duration has no earlier quantized
value. -/
theorem quantize_mono {t : PlaybackTimeline} {d e q : Duration} (h : t.quantize d = some q)
    (hle : d ≤ e) (hfits : e.asMillis < 2 ^ 64) : ∃ p, t.quantize e = some p ∧ q ≤ p := by
  rcases quantize_eq_some h with ⟨hpos, rfl⟩
  refine ⟨Duration.fromMillis (t.roundDown (U64.wrap e.asMillis)), ?_, ?_⟩
  · simp [quantize, hpos.ne']
  · have hmillis := Duration.asMillis_mono hle
    have hwrap : (U64.wrap d.asMillis).val ≤ (U64.wrap e.asMillis).val := by
      rw [U64.wrap_val_of_lt hfits, U64.wrap_val_of_lt (hmillis.trans_lt hfits)]
      exact hmillis
    exact Nat.mul_le_mul_right _ (t.roundDown_mono hwrap)

/-- The current time is never above the reading of the clock. -/
theorem currentTime_le {t : PlaybackTimeline} {now : Instant} {current : Duration}
    (h : t.currentTime now = some current) : current.nanos ≤ now.nanos :=
  (Duration.le_iff_nanos.mp (quantize_le h)).trans (Nat.sub_le _ _)

/-- While the elapsed milliseconds fit in 64 bits, the current time never goes back. -/
theorem currentTime_mono {t : PlaybackTimeline} {earlier later : Instant} {current : Duration}
    (h : t.currentTime earlier = some current) (hle : earlier ≤ later)
    (hfits : (later.elapsedSince t.startedAt).asMillis < 2 ^ 64) :
    ∃ current', t.currentTime later = some current' ∧ current ≤ current' :=
  quantize_mono h (Nat.sub_le_sub_right hle _) hfits

/-! ## Deadlines under an anchor -/

/-- The anchor's local time is a multiple of the resolution. -/
def Aligned (t : PlaybackTimeline) (anchor : Anchor) : Prop :=
  ∃ k : U64, anchor.localOffset = Duration.fromMillis k ∧ t.resolutionMs.val ∣ k.val

/-- The sum of the anchor's local time and the distance of a timestamp fits in
64 bits of milliseconds. -/
def FitsFrom (anchor : Anchor) (packetTimestampMs : U64) : Prop :=
  anchor.localOffset.asMillis + (packetTimestampMs.val - anchor.timestampMs.val) < 2 ^ 64

instance (anchor : Anchor) (packetTimestampMs : U64) :
    Decidable (FitsFrom anchor packetTimestampMs) :=
  inferInstanceAs (Decidable (_ < _))

/-- The deadline of a packet relative to an anchor. -/
def deadlineFrom (t : PlaybackTimeline) (anchor : Anchor) (packetTimestampMs : U64)
    (latency : Duration) : Option Duration :=
  (t.expectedFrom anchor packetTimestampMs).bind fun expected => expected.add latency

/-- A quantized reading is aligned. -/
theorem aligned_of_currentTime {t : PlaybackTimeline} {now : Instant} {current : Duration}
    (h : t.currentTime now = some current) (packetTimestampMs : U64) :
    t.Aligned { timestampMs := packetTimestampMs, localOffset := current } := by
  rcases quantize_eq_some h with ⟨-, rfl⟩
  exact ⟨_, rfl, t.dvd_roundDown _⟩

/-- The expected moment lies after an aligned anchor by the distance of the
timestamps, rounded down to the resolution. -/
theorem expectedFrom_nanos {t : PlaybackTimeline} {anchor : Anchor} {timestampMs : U64}
    {expected : Duration} (haligned : t.Aligned anchor) (hfits : FitsFrom anchor timestampMs)
    (h : t.expectedFrom anchor timestampMs = some expected) :
    expected.nanos = anchor.localOffset.nanos +
      (timestampMs.val - anchor.timestampMs.val) / t.resolutionMs.val * t.resolutionMs.val *
        nanosPerMilli := by
  rcases haligned with ⟨k, hlocal, j, hj⟩
  unfold expectedFrom at h
  split_ifs at h with hafter
  · rcases Option.bind_eq_some_iff.mp h with ⟨sum, hsum, hquantize⟩
    have hdelta : (timestampMs - anchor.timestampMs).val =
        timestampMs.val - anchor.timestampMs.val := Fin.sub_val_of_le hafter
    have hnanos := Duration.add_eq_some_iff.mp hsum
    rw [hlocal, Duration.fromMillis_nanos, Duration.fromMillis_nanos, hdelta,
      ← Nat.add_mul] at hnanos
    have hmillis : sum.asMillis = k.val + (timestampMs.val - anchor.timestampMs.val) := by
      unfold Duration.asMillis
      rw [hnanos, Nat.mul_div_cancel _ (by decide)]
    rw [FitsFrom, hlocal, Duration.asMillis_fromMillis] at hfits
    rcases quantize_eq_some hquantize with ⟨hpos, rfl⟩
    have hlt : sum.asMillis < 2 ^ 64 := by
      rw [hmillis]
      exact hfits
    have hwrap : (U64.wrap sum.asMillis).val =
        j * t.resolutionMs.val + (timestampMs.val - anchor.timestampMs.val) := by
      rw [U64.wrap_val_of_lt hlt, hmillis, hj, Nat.mul_comm]
    simp only [Duration.fromMillis_nanos, roundDown, hwrap, hlocal, hj]
    rw [Nat.add_comm (j * _), Nat.add_mul_div_right _ _ hpos, Nat.add_mul, Nat.add_mul,
      Nat.add_comm, Nat.mul_comm j]
  · have hzero : timestampMs.val - anchor.timestampMs.val = 0 :=
      Nat.sub_eq_zero_of_le (le_of_lt (not_le.mp hafter))
    cases h
    simp [hzero]

/-- The deadline under an aligned anchor. -/
theorem deadlineFrom_nanos {t : PlaybackTimeline} {anchor : Anchor} {timestampMs : U64}
    {latency deadline : Duration} (haligned : t.Aligned anchor)
    (hfits : FitsFrom anchor timestampMs)
    (h : t.deadlineFrom anchor timestampMs latency = some deadline) :
    deadline.nanos = anchor.localOffset.nanos +
      (timestampMs.val - anchor.timestampMs.val) / t.resolutionMs.val * t.resolutionMs.val *
        nanosPerMilli + latency.nanos := by
  rcases Option.bind_eq_some_iff.mp h with ⟨expected, hexpected, hadd⟩
  rw [Duration.add_eq_some_iff.mp hadd, expectedFrom_nanos haligned hfits hexpected]

/-- Under one anchor, a later timestamp never has an earlier deadline. -/
theorem deadlineFrom_mono {t : PlaybackTimeline} {anchor : Anchor} {early late : U64}
    {latency d₁ d₂ : Duration} (haligned : t.Aligned anchor) (hle : early ≤ late)
    (hfits : FitsFrom anchor late) (h₁ : t.deadlineFrom anchor early latency = some d₁)
    (h₂ : t.deadlineFrom anchor late latency = some d₂) : d₁ ≤ d₂ := by
  have hdist : early.val - anchor.timestampMs.val ≤ late.val - anchor.timestampMs.val :=
    Nat.sub_le_sub_right hle _
  have hfits' : FitsFrom anchor early :=
    lt_of_le_of_lt (Nat.add_le_add_left hdist _) hfits
  refine Duration.le_iff_nanos.mpr ?_
  rw [deadlineFrom_nanos haligned hfits' h₁, deadlineFrom_nanos haligned hfits h₂]
  gcongr

/-! ## What a call does -/

theorem quantize_withAnchor (t : PlaybackTimeline) (anchor : Option Anchor) :
    { t with anchor := anchor }.quantize = t.quantize :=
  rfl

theorem expectedFrom_withAnchor (t : PlaybackTimeline) (set : Option Anchor) (anchor : Anchor)
    (timestampMs : U64) :
    { t with anchor := set }.expectedFrom anchor timestampMs =
      t.expectedFrom anchor timestampMs := by
  simp only [expectedFrom, quantize_withAnchor]

/-- A call that assigns a deadline reads the clock, sets the anchor if there is
none, and answers the deadline relative to the anchor. -/
theorem calculateDeadline_spec {t t' : PlaybackTimeline} {timestampMs : U64}
    {latency deadline : Duration} {now : Instant}
    (h : t.calculateDeadline timestampMs latency now = (some deadline, t')) :
    ∃ current, t.currentTime now = some current ∧
      let anchor := t.anchor.getD { timestampMs := timestampMs, localOffset := current }
      t' = { t with anchor := some anchor } ∧
        t'.deadlineFrom anchor timestampMs latency = some deadline := by
  unfold calculateDeadline expectedPlaybackTime at h
  cases hcurrent : t.currentTime now with
  | none =>
      rw [hcurrent] at h
      cases h
  | some current =>
      rw [hcurrent] at h
      refine ⟨current, rfl, ?_⟩
      dsimp only at h ⊢
      cases hexpected : t.expectedFrom
          (t.anchor.getD { timestampMs := timestampMs, localOffset := current }) timestampMs with
      | none =>
          rw [hexpected] at h
          cases h
      | some expected =>
          rw [hexpected] at h
          dsimp only at h
          rw [Prod.mk.injEq] at h
          refine ⟨h.2.symm, ?_⟩
          rw [← h.2, deadlineFrom, expectedFrom_withAnchor]
          exact Option.bind_eq_some_iff.mpr ⟨expected, hexpected, h.1⟩

/-- A call that assigns a deadline leaves an anchored timeline as it is. -/
theorem calculateDeadline_anchored {t t' : PlaybackTimeline} {anchor : Anchor} {timestampMs : U64}
    {latency deadline : Duration} {now : Instant} (hanchor : t.anchor = some anchor)
    (h : t.calculateDeadline timestampMs latency now = (some deadline, t')) : t' = t := by
  rcases calculateDeadline_spec h with ⟨current, -, htimeline, -⟩
  rw [hanchor, Option.getD_some] at htimeline
  rw [htimeline, ← hanchor]

end PlaybackTimeline
end Scheduler
end EchoSync
