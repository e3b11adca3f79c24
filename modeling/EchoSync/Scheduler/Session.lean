import EchoSync.Scheduler.Restarts

/-!
# Playback Scheduler - Deadlines within one session

Between a start and the next one the first packet that gets a deadline anchors
the timeline, and every deadline is computed relative to that anchor.

Main results:

- Theorem {lit}`adjusted_distance`: what rounding does to the distance of two shifted
  timestamps.
- Theorem {lit}`deadlines_differ_by_anchoring`: two devices with exact constant
  offsets assign to the same packet deadlines that differ, on the host clock, by
  the difference of the host instants at which they anchored.
- Theorem {lit}`deadline_on_host_iff`: when the offset moves between the anchor
  and a later packet, the later deadline stays put on the host clock exactly if
  the offset did not move at all, as long as nothing is rounded.
-/

namespace EchoSync
namespace Scheduler

open Streaming Sync TransitionSystem
open PlaybackScheduler (SameTimeline)

/-- Whether a call is a start. -/
def SchedulerCall.isStart : SchedulerCall → Bool
  | .start _ => true
  | _ => false

/-! ## The log of a session -/

/-- The first packet with a deadline anchors the timeline at its reading, and every
deadline is relative to that anchor. -/
structure AnchoredLog (t : PlaybackTimeline) (latency : Duration) (first : Offer)
    (offers : List Offer) : Prop where
  anchored : ∃ current, t.currentTime first.reading = some current ∧
    t.anchor = some { timestampMs := first.adjusted, localOffset := current } ∧
    ∀ o ∈ offers, o.epoch = t.startedAt ∧ o.epoch ≤ o.reading ∧
      t.deadlineFrom { timestampMs := first.adjusted, localOffset := current } o.adjusted
        latency = some o.deadline

/-- The log of a session fits its timeline. -/
def SessionLog (t : PlaybackTimeline) (latency : Duration) : List Offer → Prop
  | [] => t.anchor = none
  | first :: rest => AnchoredLog t latency first (first :: rest)

/-- A session that began at some epoch: up to a poisoned lock, the timeline is the
one that the log of the session describes. -/
structure SessionInvariant (config : SchedulerConfig) (epoch : Instant) (r : SchedulerRun) :
    Prop where
  config_eq : r.scheduler.config = config
  epoch_le : epoch ≤ r.clock
  log : ∃ t, (r.scheduler.timelinePoisoned = true ∨ r.scheduler.timeline = t) ∧
    t.startedAt = epoch ∧ t.resolution = config.timelineResolution ∧
    SessionLog t config.playbackLatency r.offers

/-- A new offer extends the log. -/
theorem SessionLog.concat {t t' : PlaybackTimeline} {latency : Duration} {offers : List Offer}
    {offer : Offer} (h : SessionLog t latency offers) (hepoch : offer.epoch = t.startedAt)
    (hreading : offer.epoch ≤ offer.reading)
    (hdeadline : t.calculateDeadline offer.adjusted latency offer.reading =
      (some offer.deadline, t')) :
    SessionLog t' latency (offers ++ [offer]) := by
  rcases PlaybackTimeline.calculateDeadline_spec hdeadline with
    ⟨current, hcurrent, htimeline, hfrom⟩
  cases offers with
  | nil =>
      have hnone : t.anchor = none := h
      rw [hnone, Option.getD_none] at htimeline hfrom
      subst htimeline
      refine ⟨current, hcurrent, rfl, ?_⟩
      intro o ho
      rw [List.mem_singleton.mp ho]
      exact ⟨hepoch, hreading, hfrom⟩
  | cons first rest =>
      rcases h.anchored with ⟨local₀, hlocal, hanchor, hlog⟩
      have hsame := PlaybackTimeline.calculateDeadline_anchored hanchor hdeadline
      subst hsame
      rw [hanchor, Option.getD_some] at hfrom
      refine ⟨local₀, hlocal, hanchor, ?_⟩
      intro o ho
      have hmem : o ∈ (first :: rest) ++ [offer] := ho
      rcases List.mem_append.mp hmem with hold | hnew
      · exact hlog o hold
      · rw [List.mem_singleton.mp hnew]
        exact ⟨hepoch, hreading, hfrom⟩

/-- While the timeline's lock is healthy, a session with an offer is anchored. -/
theorem SessionInvariant.anchored {config : SchedulerConfig} {epoch : Instant} {r : SchedulerRun}
    (h : SessionInvariant config epoch r) (hhealthy : r.scheduler.timelinePoisoned = false)
    {o : Offer} (ho : o ∈ r.offers) :
    ∃ first, AnchoredLog r.scheduler.timeline config.playbackLatency first r.offers := by
  rcases h.log with ⟨t, htimeline, -, -, hlog⟩
  rcases List.exists_cons_of_ne_nil (List.ne_nil_of_mem ho) with ⟨first, rest, hcons⟩
  rw [hcons] at hlog ⊢
  rcases htimeline with hpoison | hsame
  · rw [hhealthy] at hpoison
    contradiction
  · rw [hsame]
    exact ⟨first, hlog⟩

theorem effect_session {config : SchedulerConfig} {epoch : Instant} {r r' : SchedulerRun}
    {call : SchedulerCall} (hcall : call.isStart = false)
    (heffect : SchedulerRun.Effect r r' call) (hreadings : ∀ t ∈ call.readings, epoch ≤ t)
    (hconfig : r'.scheduler.config = r.scheduler.config) (hclock : r'.clock = r.clock)
    (h : SessionInvariant config epoch r) : SessionInvariant config epoch r' := by
  rcases h with ⟨hconfig₀, hepoch, t, htimeline, hstarted, hresolution, hlog⟩
  refine ⟨hconfig.trans hconfig₀, hclock ▸ hepoch, ?_⟩
  have hkeep : SameTimeline r.scheduler r'.scheduler → (r'.scheduler.timelinePoisoned = true ∨
      r'.scheduler.timeline = t) := by
    intro hsame
    rwa [hsame.poisoned, hsame.timeline]
  cases heffect with
  | quiet hrecord hqueue hsame =>
      refine ⟨t, hsame.elim Or.inl hkeep, hstarted, hresolution, ?_⟩
      rw [hrecord.offers]
      exact hlog
  | started now heq =>
      rw [heq] at hcall
      contradiction
  | halfStarted now heq =>
      rw [heq] at hcall
      contradiction
  | offered packet first second offer heq hoffer hsession hoffers hreleased hhealthy hdeadline
      hqueue =>
      have hcurrent : r.scheduler.timeline = t := by
        rcases htimeline with hpoison | hsame
        · rw [hhealthy.1] at hpoison
          contradiction
        · exact hsame
      have hreading : offer.reading = first := by rw [hoffer]
      have hofferEpoch : offer.epoch = t.startedAt := by rw [hoffer, ← hcurrent]
      have hfirst : epoch ≤ first := hreadings first (by rw [heq]; exact List.mem_cons_self)
      have hstay : r'.scheduler.timeline.startedAt = t.startedAt ∧
          r'.scheduler.timeline.resolution = t.resolution := by
        rcases PlaybackTimeline.calculateDeadline_spec hdeadline with ⟨_, -, hnew, -⟩
        rw [hnew, hcurrent]
        exact ⟨rfl, rfl⟩
      refine ⟨_, Or.inr rfl, hstay.1.trans hstarted, hstay.2.trans hresolution, ?_⟩
      rw [hoffers]
      refine hlog.concat hofferEpoch ?_ ?_
      · rw [hofferEpoch, hstarted, hreading]
        exact hfirst
      · rw [← hcurrent, hreading, ← hconfig₀]
        exact hdeadline
  | taken now item heq hsession hoffers haccepted hreleased hqueue hhealthy hsame hdue =>
      refine ⟨t, hkeep hsame, hstarted, hresolution, ?_⟩
      rw [hoffers]
      exact hlog
  | removed hrecord hqueue hsame =>
      refine ⟨t, hkeep hsame, hstarted, hresolution, ?_⟩
      rw [hrecord.offers]
      exact hlog

section Runs

variable {profile : BuildProfile} {config : SchedulerConfig} {r : SchedulerRun}

/-- A run of one started scheduler: a new scheduler over a valid configuration is
started once, and every later call is not a start. -/
structure StartedOnce (profile : BuildProfile) (config : SchedulerConfig) (epoch : Instant)
    (r : SchedulerRun) : Prop where
  run : ∃ synchronizer created s calls,
    PlaybackScheduler.new config synchronizer created = .ok s ∧
    TransitionSystem.run (SchedulerRun.step profile) (SchedulerRun.initial s created)
      (.start epoch :: calls) = some r ∧
    ∀ call ∈ calls, call.isStart = false

theorem started_session {synchronizer : Synchronizer} {created epoch : Instant}
    {r : SchedulerRun} (hvalid : ValidSchedulerConfig config)
    (hstep : SchedulerRun.step profile
      (SchedulerRun.initial (PlaybackScheduler.ofConfig config synchronizer created) created)
      (.start epoch) = some r) :
    SessionInvariant config epoch r := by
  rcases SchedulerRun.step_eq_some.mp hstep with ⟨-, rfl⟩
  refine ⟨rfl, le_rfl, _, Or.inr rfl, rfl, ?_, rfl⟩
  change (PlaybackTimeline.new config.timelineResolution created).resolution = _
  simp [PlaybackTimeline.new, hvalid.timelineResolution_pos]

/-- A call that is not a start keeps the session. -/
theorem step_session {epoch : Instant} {r r' : SchedulerRun} {call : SchedulerCall}
    (hcall : call.isStart = false) (h : SessionInvariant config epoch r)
    (hstep : SchedulerRun.step profile r call = some r') : SessionInvariant config epoch r' := by
  rcases SchedulerRun.step_eq_some.mp hstep with ⟨hclock, rfl⟩
  have hlater : ∀ t ∈ call.readings, epoch ≤ t := by
    intro t ht
    exact h.epoch_le.trans ((List.pairwise_cons.mp hclock).1 t ht)
  have hadvanced : SessionInvariant config epoch (r.advance call) :=
    ⟨h.config_eq, h.epoch_le.trans (SchedulerRun.clock_le_advance hclock), h.log⟩
  exact effect_session hcall (SchedulerRun.perform_effect profile _ call) hlater
    (SchedulerRun.perform_config profile _ call) (SchedulerRun.perform_clock profile _ call)
    hadvanced

/-- Every state of such a run is described by the log of its session. -/
theorem StartedOnce.session {epoch : Instant} (h : StartedOnce profile config epoch r) :
    SessionInvariant config epoch r := by
  rcases h.run with ⟨synchronizer, created, s, calls, hnew, hrun, hcalls⟩
  rcases PlaybackScheduler.new_eq_ok_iff.mp hnew with ⟨hvalid, rfl⟩
  rcases run_cons_eq_some.mp hrun with ⟨r₁, hstart, hrest⟩
  exact run_invariant_of_labels (fun call => call.isStart = false)
    (SessionInvariant config epoch) (fun _ _ _ hcall hr hstep => step_session hcall hr hstep)
    hcalls (started_session hvalid hstart) hrest

end Runs

/-! ## Deadlines in terms of the first packet -/

/-- The shifted timestamps of the first packet and of a later one are in range, so
that neither is clamped, and the expected moment of the later one fits in 64 bits of
milliseconds. -/
structure Unclamped (first o : Offer) : Prop where
  nonneg : 0 ≤ first.shifted
  lt_limit : o.shifted < 2 ^ 64
  fits : (first.reading.elapsedSince first.epoch).asMillis +
    (o.adjusted.val - first.adjusted.val) < 2 ^ 64

instance (first o : Offer) : Decidable (Unclamped first o) :=
  decidable_of_iff (_ ∧ _ ∧ _)
    ⟨fun ⟨hnonneg, hlimit, hfits⟩ => ⟨hnonneg, hlimit, hfits⟩,
      fun h => ⟨h.nonneg, h.lt_limit, h.fits⟩⟩

/-- The adjusted timestamp of a packet in range is the integer part of the shifted
one. -/
theorem Offer.adjusted_val {o : Offer} (hnonneg : 0 ≤ o.shifted) (hlimit : o.shifted < 2 ^ 64) :
    (o.adjusted.val : ℤ) = ⌊o.shifted⌋ := by
  have hfloor : 0 ≤ ⌊o.shifted⌋ := Int.floor_nonneg.mpr hnonneg
  have hclamp : max o.shifted 0 = o.shifted := max_eq_left hnonneg
  unfold Offer.adjusted adjustedTimestampMs
  rw [← Offer.shifted, hclamp, U64.ofRatSaturating_val hlimit, Int.toNat_of_nonneg hfloor]

theorem Offer.adjusted_mono {o o' : Offer} (h : o.shifted ≤ o'.shifted) :
    o.adjusted ≤ o'.adjusted :=
  U64.ofRatSaturating_mono (max_le_max_right 0 h)

/-- Everything the log of a session says about one offer, in nanoseconds: the
first packet was read less than one resolution after the quantized moment of the
anchor, and the deadline lies after that moment by the distance of the adjusted
timestamps, rounded down to the resolution, and the latency. -/
theorem AnchoredLog.due {t : PlaybackTimeline} {latency : Duration} {first o : Offer}
    {offers : List Offer} (h : AnchoredLog t latency first offers) (hfirst : first ∈ offers)
    (ho : o ∈ offers) (hrange : Unclamped first o) :
    ∃ anchorNanos, o.deadline.nanos = anchorNanos +
        (o.adjusted.val - first.adjusted.val) / t.resolutionMs.val * t.resolutionMs.val *
          nanosPerMilli + latency.nanos ∧
      nanosPerMilli ∣ anchorNanos ∧
      o.dueNanos = t.startedAt.nanos + o.deadline.nanos ∧
      t.startedAt.nanos + anchorNanos ≤ first.reading.nanos ∧
      first.reading.nanos < t.startedAt.nanos + anchorNanos +
        t.resolutionMs.val * nanosPerMilli := by
  rcases h.anchored with ⟨current, hcurrent, -, hlog⟩
  rcases hlog o ho with ⟨hepoch, -, hdeadline⟩
  rcases hlog first hfirst with ⟨hfirstEpoch, hfirstReading, -⟩
  have haligned := PlaybackTimeline.aligned_of_currentTime hcurrent first.adjusted
  have hquantized : current.nanos ≤ first.reading.nanos - t.startedAt.nanos :=
    PlaybackTimeline.quantize_le hcurrent
  have hle : t.startedAt.nanos ≤ first.reading.nanos := by
    rw [hfirstEpoch] at hfirstReading
    exact hfirstReading
  have hfits := hrange.fits
  rw [hfirstEpoch] at hfits
  have hmillis : current.asMillis ≤ (first.reading.elapsedSince t.startedAt).asMillis :=
    Duration.asMillis_mono (PlaybackTimeline.quantize_le hcurrent)
  have hfitsFrom : PlaybackTimeline.FitsFrom
      { timestampMs := first.adjusted, localOffset := current } o.adjusted :=
    lt_of_le_of_lt (Nat.add_le_add_right hmillis _) hfits
  have hupper := PlaybackTimeline.lt_quantize_add hcurrent
    (lt_of_le_of_lt (Nat.le_add_right _ _) hfits)
  rw [Instant.elapsedSince_nanos] at hupper
  refine ⟨current.nanos, PlaybackTimeline.deadlineFrom_nanos haligned hfitsFrom hdeadline, ?_, ?_,
    ?_, ?_⟩
  · rcases haligned with ⟨k, hk, -⟩
    have hlocal : current = Duration.fromMillis k := hk
    rw [hlocal, Duration.fromMillis_nanos]
    exact Nat.dvd_mul_left _ _
  · rw [Offer.dueNanos, hepoch]
  · omega
  · omega

/-- The timestamp plus the offset, before anything is rounded. -/
def Offer.sumMs (o : Offer) : ℚ :=
  o.packet.timestampMs.val + o.offsetMs

/-- Nothing is rounded when the timestamp is shifted. -/
def Offer.ExactSum (o : Offer) : Prop :=
  o.shifted = o.sumMs

instance (o : Offer) : Decidable o.ExactSum :=
  inferInstanceAs (Decidable (o.shifted = o.sumMs))

/-- The timestamp is not rounded, and the sum is so small that halves of a millisecond
are resolved. -/
structure Offer.FineSum (o : Offer) : Prop where
  timestamp_le : o.packet.timestampMs.val ≤ 2 ^ 53
  abs_lt : |o.sumMs| < 2 ^ 52

theorem Offer.FineSum.shifted_eq {o : Offer} (h : o.FineSum) :
    o.shifted = Binary.round 52 o.sumMs := by
  rw [Offer.shifted, shiftedTimestampMs, F64.round_natCast h.timestamp_le, F64.round, Offer.sumMs]

theorem Offer.FineSum.ulp_le_half {o : Offer} (h : o.FineSum) : Binary.ulp 52 o.sumMs ≤ 1 / 2 :=
  F64.ulp_le_half h.abs_lt

/-- A whole offset is added exactly while the timestamp and the sum are at most
{lit}`2 ^ 53`. -/
theorem Offer.exactSum_of_intCast {o : Offer} {k : ℤ} (hoffset : o.offsetMs = k)
    (htimestamp : o.packet.timestampMs.val ≤ 2 ^ 53)
    (hsum : |(o.packet.timestampMs.val : ℤ) + k| ≤ 2 ^ 53) : o.ExactSum := by
  have hround := F64.round_intCast hsum
  push_cast at hround
  rw [Offer.ExactSum, Offer.shifted, shiftedTimestampMs, Offer.sumMs,
    F64.round_natCast htimestamp, hoffset, hround]

/-! ## Two devices -/

/-- The reading of the host clock, in milliseconds, at a local instant of a device
whose clock differs from it by a constant offset. -/
def hostMillis (offsetMs : ℚ) (localNanos : Nat) : ℚ :=
  localNanos / nanosPerMilli + offsetMs

/-- Under one constant offset the sums lie apart like the timestamps. -/
theorem sumMs_later {o o' : Offer} (hoffset : o'.offsetMs = o.offsetMs)
    (hle : o.packet.timestampMs.val ≤ o'.packet.timestampMs.val) :
    o'.sumMs = o.sumMs + (o'.packet.timestampMs.val - o.packet.timestampMs.val : Nat) := by
  rw [Offer.sumMs, Offer.sumMs, hoffset, Nat.cast_sub hle]
  ring

/-- Sums that are not rounded lie whole steps apart after the cast. -/
theorem Offer.ExactSum.adjusted_later {o o' : Offer} {n : Nat} (h : o.ExactSum) (h' : o'.ExactSum)
    (hsum : o'.sumMs = o.sumMs + n) (hnonneg : 0 ≤ o.shifted) (hlimit : o'.shifted < 2 ^ 64) :
    o'.adjusted.val = o.adjusted.val + n := by
  have hshifted : o'.shifted = o.shifted + n := by rw [h', h, hsum]
  have hsteps : (0 : ℚ) ≤ n := Nat.cast_nonneg n
  have hvalue := Offer.adjusted_val hnonneg (by linarith)
  have hlater := Offer.adjusted_val (o := o') (by linarith) hlimit
  rw [hshifted, Int.floor_add_natCast] at hlater
  omega

/-- Where halves are resolved, rounding moves the later sum by at most one whole step more
than the earlier one, and never by less: units grow with the sums. -/
theorem Offer.FineSum.adjusted_later {o o' : Offer} {n : Nat} (h : o.FineSum) (h' : o'.FineSum)
    (hsum : o'.sumMs = o.sumMs + n) (hnonneg : 0 ≤ o.shifted) (hlimit : o.shifted < 2 ^ 64)
    (hlimit' : o'.shifted < 2 ^ 64) :
    o.adjusted.val + n ≤ o'.adjusted.val ∧ o'.adjusted.val ≤ o.adjusted.val + n + 1 := by
  have hvalue := Offer.adjusted_val hnonneg hlimit
  rw [h.shifted_eq] at hnonneg hvalue
  have hsumNonneg := Binary.nonneg_of_round_nonneg h.ulp_le_half hnonneg
  have hsteps : (0 : ℚ) ≤ n := Nat.cast_nonneg n
  have hlow := Binary.floor_round_add_le hsumNonneg (by linarith : o.sumMs ≤ o'.sumMs)
    h.ulp_le_half h'.ulp_le_half
  have hhigh := Binary.floor_round_le h'.ulp_le_half
  have hkeep := Binary.floor_le_floor_round h.ulp_le_half
  have hlater : (o'.adjusted.val : ℤ) = ⌊Binary.round 52 o'.sumMs⌋ := by
    rw [← h'.shifted_eq]
    refine Offer.adjusted_val (Int.floor_nonneg.mp ?_) hlimit'
    rw [h'.shifted_eq]
    have hfloor := Int.floor_nonneg.mpr hnonneg
    have hdistance : 0 ≤ ⌊o'.sumMs - o.sumMs⌋ := Int.floor_nonneg.mpr (by linarith)
    omega
  rw [hsum, Int.floor_add_natCast] at hhigh
  rw [hsum, add_sub_cancel_left, Int.floor_natCast] at hlow
  rw [hsum] at hlater
  omega

/-- Under one constant offset the adjusted timestamps of a stream lie apart like its
timestamps if nothing is rounded, and by at most one millisecond more where halves are
resolved. -/
theorem adjusted_distance {first o : Offer} (hoffset : o.offsetMs = first.offsetMs)
    (hfirst : Unclamped first first) (ho : Unclamped first o) :
    (first.ExactSum → o.ExactSum →
      o.adjusted.val - first.adjusted.val =
        o.packet.timestampMs.val - first.packet.timestampMs.val) ∧
      (first.FineSum → o.FineSum →
        o.packet.timestampMs.val - first.packet.timestampMs.val ≤
            o.adjusted.val - first.adjusted.val ∧
          o.adjusted.val - first.adjusted.val ≤
            o.packet.timestampMs.val - first.packet.timestampMs.val + 1) := by
  rcases Nat.le_total first.packet.timestampMs.val o.packet.timestampMs.val with hafter | hbefore
  · have hsum := sumMs_later hoffset hafter
    constructor
    · intro hexact hexact'
      have hlater := hexact.adjusted_later hexact' hsum hfirst.nonneg ho.lt_limit
      omega
    · intro hfine hfine'
      have hlater := hfine.adjusted_later hfine' hsum hfirst.nonneg hfirst.lt_limit ho.lt_limit
      omega
  · -- a packet from before the first one is anchored at the first one
    have hsum := sumMs_later hoffset.symm hbefore
    rw [Nat.sub_eq_zero_of_le hbefore]
    rcases le_or_gt o.shifted 0 with hclamped | hpos
    · have hmono : o.adjusted.val ≤ first.adjusted.val :=
        Offer.adjusted_mono (hclamped.trans hfirst.nonneg)
      omega
    · constructor
      · intro hexact hexact'
        have hearlier := hexact'.adjusted_later hexact hsum hpos.le hfirst.lt_limit
        omega
      · intro hfine hfine'
        have hearlier := hfine'.adjusted_later hfine hsum hpos.le ho.lt_limit hfirst.lt_limit
        omega

theorem packet_eq_of_mem_zip {as bs : List Offer} (h : as.map Offer.packet = bs.map Offer.packet)
    {pair : Offer × Offer} (hpair : pair ∈ as.zip bs) : pair.1.packet = pair.2.packet := by
  induction as generalizing bs with
  | nil => simp at hpair
  | cons a as ih =>
      cases bs with
      | nil => simp at hpair
      | cons b bs =>
          rw [List.map_cons, List.map_cons, List.cons.injEq] at h
          rcases List.mem_cons.mp hpair with rfl | hrest
          · exact h.1
          · exact ih h.2 hrest

/-- A device that assigns deadlines to a stream whose first packet anchors its
timeline: it is started once, its applied offset is constant, and no packet is
clamped. -/
structure DeviceRun (profile : BuildProfile) (config : SchedulerConfig) (epoch : Instant)
    (offsetMs : ℚ) (first : Offer) (r : SchedulerRun) : Prop where
  started : StartedOnce profile config epoch r
  head : r.offers.head? = some first
  constant : ∀ o ∈ r.offers, o.offsetMs = offsetMs
  unclamped : ∀ o ∈ r.offers, Unclamped first o

/-- What a device assigns to a packet, on its own clock: the deadline lies after
the reading that anchored by the distance of the adjusted timestamps, rounded down to
the resolution, and the latency, less an error below one resolution. -/
theorem DeviceRun.due {profile : BuildProfile} {config : SchedulerConfig}
    {epoch : Instant} {r : SchedulerRun} {offsetMs : ℚ} {first o : Offer}
    (h : DeviceRun profile config epoch offsetMs first r) (ho : o ∈ r.offers) :
    let grain := (U64.wrap (max config.timelineResolution.asMillis 1)).val
    ∃ error, error < grain * nanosPerMilli ∧
      o.dueNanos + error = first.reading.nanos +
        (o.adjusted.val - first.adjusted.val) / grain * grain * nanosPerMilli +
        config.playbackLatency.nanos := by
  rcases h.started.session.log with ⟨t, -, -, hresolution, hlog⟩
  rcases List.head?_eq_some_iff.mp h.head with ⟨rest, hoffers⟩
  rw [hoffers] at hlog
  have ho' : o ∈ first :: rest := hoffers ▸ ho
  rcases AnchoredLog.due hlog List.mem_cons_self ho' (h.unclamped o ho) with
    ⟨anchorNanos, hdeadline, -, hdue, hlow, hhigh⟩
  have hgrain : t.resolutionMs = U64.wrap (max config.timelineResolution.asMillis 1) := by
    rw [PlaybackTimeline.resolutionMs, hresolution]
  rw [hgrain] at hdeadline hhigh
  refine ⟨first.reading.nanos - (t.startedAt.nanos + anchorNanos), ?_, ?_⟩
  · omega
  · rw [hdue, hdeadline]
    omega

/-- The distance of a packet from the first one, after both are adjusted. -/
theorem DeviceRun.distance {profile : BuildProfile} {config : SchedulerConfig}
    {epoch : Instant} {r : SchedulerRun} {offsetMs : ℚ} {first o : Offer}
    (h : DeviceRun profile config epoch offsetMs first r) (ho : o ∈ r.offers) :
    (first.ExactSum → o.ExactSum →
      o.adjusted.val - first.adjusted.val =
        o.packet.timestampMs.val - first.packet.timestampMs.val) ∧
      (first.FineSum → o.FineSum →
        o.packet.timestampMs.val - first.packet.timestampMs.val ≤
            o.adjusted.val - first.adjusted.val ∧
          o.adjusted.val - first.adjusted.val ≤
            o.packet.timestampMs.val - first.packet.timestampMs.val + 1) := by
  have hfirst : first ∈ r.offers := List.mem_of_head? h.head
  exact adjusted_distance ((h.constant o ho).trans (h.constant first hfirst).symm)
    (h.unclamped first hfirst) (h.unclamped o ho)

/-- By how much the deadlines that two devices assign to a packet differ on the host
clock, beyond the two host instants at which they scheduled the first packet. -/
def hostSkew (offsetA offsetB : ℚ) (firstA firstB : Offer) (pair : Offer × Offer) : ℚ :=
  (hostMillis offsetA pair.1.dueNanos - hostMillis offsetB pair.2.dueNanos) -
    (hostMillis offsetA firstA.reading.nanos - hostMillis offsetB firstB.reading.nanos)

section Devices

variable {profileA profileB : BuildProfile} {config : SchedulerConfig} {epochA epochB : Instant}
  {A B : SchedulerRun} {offsetA offsetB : ℚ} {firstA firstB : Offer} {pair : Offer × Offer}

/-- The skew is the difference of the distances from the first packet, as both devices
round them down, to within one resolution. -/
theorem abs_hostSkew_sub_lt (hA : DeviceRun profileA config epochA offsetA firstA A)
    (hB : DeviceRun profileB config epochB offsetB firstB B)
    (hpair : pair ∈ A.offers.zip B.offers) :
    let grain := (U64.wrap (max config.timelineResolution.asMillis 1)).val
    |hostSkew offsetA offsetB firstA firstB pair -
      (((pair.1.adjusted.val - firstA.adjusted.val) / grain * grain : Nat) -
        ((pair.2.adjusted.val - firstB.adjusted.val) / grain * grain : Nat))| < grain := by
  rcases hA.due (List.of_mem_zip hpair).1 with ⟨errorA, hltA, hdueA⟩
  rcases hB.due (List.of_mem_zip hpair).2 with ⟨errorB, hltB, hdueB⟩
  intro grain
  change errorA < grain * nanosPerMilli at hltA
  change errorB < grain * nanosPerMilli at hltB
  change _ = _ + (pair.1.adjusted.val - firstA.adjusted.val) / grain * grain * nanosPerMilli + _
    at hdueA
  change _ = _ + (pair.2.adjusted.val - firstB.adjusted.val) / grain * grain * nanosPerMilli + _
    at hdueB
  generalize (pair.1.adjusted.val - firstA.adjusted.val) / grain * grain = stepsA at hdueA ⊢
  generalize (pair.2.adjusted.val - firstB.adjusted.val) / grain * grain = stepsB at hdueB ⊢
  have hmilli : (nanosPerMilli : ℚ) = 1000000 := by norm_num [nanosPerMilli]
  have hdueA' : (pair.1.dueNanos : ℚ) + errorA =
      firstA.reading.nanos + stepsA * nanosPerMilli + config.playbackLatency.nanos := by
    exact_mod_cast hdueA
  have hdueB' : (pair.2.dueNanos : ℚ) + errorB =
      firstB.reading.nanos + stepsB * nanosPerMilli + config.playbackLatency.nanos := by
    exact_mod_cast hdueB
  have hboundA : (errorA : ℚ) < grain * nanosPerMilli := by exact_mod_cast hltA
  have hboundB : (errorB : ℚ) < grain * nanosPerMilli := by exact_mod_cast hltB
  have hnonnegA : (0 : ℚ) ≤ errorA := Nat.cast_nonneg _
  have hnonnegB : (0 : ℚ) ≤ errorB := Nat.cast_nonneg _
  rw [hmilli] at hdueA' hdueB' hboundA hboundB
  rw [abs_lt, hostSkew]
  unfold hostMillis
  rw [hmilli]
  constructor
  · linarith
  · linarith

/-- Distances that differ by at most one are rounded down to multiples that differ by at most
one step. -/
theorem div_mul_le_add {d d' : Nat} (grain : Nat) (h : d ≤ d' + 1) :
    d / grain * grain ≤ d' / grain * grain + grain := by
  rcases Nat.eq_zero_or_pos grain with rfl | hpos
  · simp
  · calc d / grain * grain ≤ (d' + grain) / grain * grain :=
          Nat.mul_le_mul_right _ (Nat.div_le_div_right (by omega))
      _ = d' / grain * grain + grain := by
          rw [Nat.add_div_right _ hpos, Nat.succ_mul]

/-- Two devices with the same configuration, each with a constant offset, that assign
deadlines to the same stream of packets: on the host clock, the two deadlines of one packet
lie apart by as much as the two readings that anchored the timelines.  This is exact to
within the timeline resolution if no timestamp is rounded when it is shifted, and to
within twice the resolution where halves of a millisecond are resolved. -/
theorem deadlines_differ_by_anchoring
    (hA : DeviceRun profileA config epochA offsetA firstA A)
    (hB : DeviceRun profileB config epochB offsetB firstB B)
    (hstream : A.offers.map Offer.packet = B.offers.map Offer.packet) :
    ∀ pair ∈ A.offers.zip B.offers,
      ((∀ o ∈ [firstA, firstB, pair.1, pair.2], o.ExactSum) →
        |hostSkew offsetA offsetB firstA firstB pair| <
          max config.timelineResolution.asMillis 1) ∧
      ((∀ o ∈ [firstA, firstB, pair.1, pair.2], o.FineSum) →
        |hostSkew offsetA offsetB firstA firstB pair| <
          2 * max config.timelineResolution.asMillis 1) := by
  intro pair hpair
  have hpacket : pair.1.packet = pair.2.packet := packet_eq_of_mem_zip hstream hpair
  have hfirst : firstA.packet = firstB.packet := by
    have hheads := congrArg List.head? hstream
    rw [List.head?_map, List.head?_map, hA.head, hB.head] at hheads
    exact Option.some.inj hheads
  have hskew := abs_lt.mp (abs_hostSkew_sub_lt hA hB hpair)
  have hdistanceA := hA.distance (List.of_mem_zip hpair).1
  have hdistanceB := hB.distance (List.of_mem_zip hpair).2
  rw [hpacket, hfirst] at hdistanceA
  generalize pair.1.adjusted.val - firstA.adjusted.val = distanceA at hskew hdistanceA
  generalize pair.2.adjusted.val - firstB.adjusted.val = distanceB at hskew hdistanceB
  have hgrain : ((U64.wrap (max config.timelineResolution.asMillis 1)).val : ℚ) ≤
      max config.timelineResolution.asMillis 1 := by
    exact_mod_cast Nat.mod_le _ _
  generalize (U64.wrap (max config.timelineResolution.asMillis 1)).val = grain at hskew hgrain
  constructor
  · intro hexact
    have hsame : distanceA = distanceB := by
      rw [hdistanceA.1 (hexact _ (by simp)) (hexact _ (by simp)),
        hdistanceB.1 (hexact _ (by simp)) (hexact _ (by simp))]
    rw [hsame, sub_self] at hskew
    rw [abs_lt]
    constructor <;> linarith
  · intro hfine
    have hboundsA := hdistanceA.2 (hfine _ (by simp)) (hfine _ (by simp))
    have hboundsB := hdistanceB.2 (hfine _ (by simp)) (hfine _ (by simp))
    have habove : ((distanceA / grain * grain : Nat) : ℚ) ≤
        (distanceB / grain * grain : Nat) + grain := by
      exact_mod_cast div_mul_le_add grain (by omega : distanceA ≤ distanceB + 1)
    have hbelow : ((distanceB / grain * grain : Nat) : ℚ) ≤
        (distanceA / grain * grain : Nat) + grain := by
      exact_mod_cast div_mul_le_add grain (by omega : distanceB ≤ distanceA + 1)
    rw [abs_lt]
    constructor <;> linarith

end Devices

/-- A run from new production defaults that starts at the zero of the clock. -/
theorem startedOnce_atZero {calls : List SchedulerCall} {r : SchedulerRun}
    {config : SchedulerConfig} (hvalid : config.validate = .ok ())
    (hcalls : calls.all (fun call => !call.isStart) = true)
    (hrun : run (SchedulerRun.step ⟨true⟩) (SchedulerRun.atZero config)
      (.start (Instant.ofMillis 0) :: calls) = some r) :
    StartedOnce ⟨true⟩ config (Instant.ofMillis 0) r := by
  refine ⟨_, _, _, calls, SchedulerRun.atZero_new hvalid, hrun, ?_⟩
  intro call hcall
  have hnot := List.all_eq_true.mp hcalls call hcall
  simpa using hnot

/-- A packet with a timestamp of 10 milliseconds after one at the zero of the
stream, scheduled by a device whose clock is the host clock. -/
def hostDeviceCalls (arrival : U64) : List SchedulerCall :=
  [.schedulePacket (makePacket 1 1 0) (Instant.ofMillis arrival) (Instant.ofMillis arrival),
    .schedulePacket (makePacket 2 2 10) (Instant.ofMillis arrival) (Instant.ofMillis arrival)]

/-- The same packets scheduled by a device whose clock is 100 milliseconds behind
the host clock. -/
def behindDeviceCalls (arrival : U64) : List SchedulerCall :=
  .syncStart (Instant.ofMillis 0) ::
    .synchronize (Duration.fromMillis 100) (Duration.fromMillis 0) (Instant.ofMillis 0) ::
    hostDeviceCalls arrival

/-- What such a device records of a packet that arrives at an instant and is due at
another one. -/
def deviceOffer (offsetMs : ℚ) (arrival : U64) (packet : AudioPacket) (due : U64) : Offer where
  packet := packet
  offsetMs := offsetMs
  reading := Instant.ofMillis arrival
  epoch := Instant.ofMillis 0
  session := 1
  deadline := Duration.fromMillis due
  accepted := true

/-- A run that makes these calls and records these offers is the run of a device. -/
theorem exists_deviceRun (calls : List SchedulerCall) {offsetMs : ℚ} {first : Offer}
    {rest : List Offer} (hcalls : calls.all (fun call => !call.isStart) = true)
    (hrun : (run (SchedulerRun.step ⟨true⟩) (SchedulerRun.atZero .default)
      (.start (Instant.ofMillis 0) :: calls)).any
      (fun r => decide (r.offers = first :: rest)) = true)
    (hconstant : ∀ o ∈ first :: rest, o.offsetMs = offsetMs)
    (hunclamped : ∀ o ∈ first :: rest, Unclamped first o) :
    ∃ r, DeviceRun ⟨true⟩ .default (Instant.ofMillis 0) offsetMs first r ∧
      r.offers = first :: rest := by
  rcases exists_of_any hrun with ⟨r, hr, hoffers⟩
  have hstarted := startedOnce_atZero SchedulerConfig.default_validates hcalls hr
  exact ⟨r, ⟨hstarted, hoffers ▸ rfl, hoffers ▸ hconstant, hoffers ▸ hunclamped⟩, hoffers⟩

/-- A device whose clock is the host clock, and which sees the packets at its zero. -/
theorem exists_hostDevice :
    ∃ r, DeviceRun ⟨true⟩ .default (Instant.ofMillis 0) 0
        (deviceOffer 0 0 (makePacket 1 1 0) 150) r ∧
      r.offers = [deviceOffer 0 0 (makePacket 1 1 0) 150,
        deviceOffer 0 0 (makePacket 2 2 10) 160] :=
  exists_deviceRun (hostDeviceCalls 0) (by decide) (by decide +kernel)
    (by decide +kernel) (by decide +kernel)

/-- Such a device and one 100 milliseconds behind it, which sees the packets 130
milliseconds later. -/
theorem deadlines_differ_by_anchoring_behind :
    ∃ A B firstA firstB,
      DeviceRun ⟨true⟩ .default (Instant.ofMillis 0) 0 firstA A ∧
      DeviceRun ⟨true⟩ .default (Instant.ofMillis 0) 100 firstB B ∧
      ∀ pair ∈ A.offers.zip B.offers, |hostSkew 0 100 firstA firstB pair| <
        max SchedulerConfig.default.timelineResolution.asMillis 1 := by
  have hbehind : ∃ r, DeviceRun ⟨true⟩ .default (Instant.ofMillis 0) 100
        (deviceOffer 100 30 (makePacket 1 1 0) 180) r ∧
      r.offers = [deviceOffer 100 30 (makePacket 1 1 0) 180,
        deviceOffer 100 30 (makePacket 2 2 10) 190] :=
    exists_deviceRun (behindDeviceCalls 30) (by decide) (by decide +kernel)
      (by decide +kernel) (by decide +kernel)
  rcases exists_hostDevice with ⟨A, hA, hoffersA⟩
  rcases hbehind with ⟨B, hB, hoffersB⟩
  refine ⟨A, B, _, _, hA, hB, ?_⟩
  intro pair hpair
  refine (deadlines_differ_by_anchoring hA hB ?_ pair hpair).1 ?_
  · rw [hoffersA, hoffersB]
    rfl
  · rw [hoffersA, hoffersB] at hpair
    revert pair
    decide +kernel

/-- A synchronizer that other tasks left with this offset. -/
def synchronizerAt (offsetMs : ℚ) : Synchronizer :=
  let s := Synchronizer.ofConfig SyncConfig.default (Instant.ofMillis 0)
  { s with inner := { s.inner with currentOffsetMs := offsetMs } }

/-- An offset of 1001 milliseconds as the code measures it, a second and a thousandth in
floating-point numbers: it is just below 1001. -/
def measuredSecond : ℚ :=
  F64.round (F64.round (1 + F64.round (1 / 1000)) * 1000)

/-- Packets at the zero of the stream and a second later. -/
def secondApartCalls : List SchedulerCall :=
  [.schedulePacket (makePacket 1 1 0) (Instant.ofMillis 0) (Instant.ofMillis 0),
    .schedulePacket (makePacket 2 2 1000) (Instant.ofMillis 0) (Instant.ofMillis 0)]

-- Under such an offset the later sum is rounded up to 2001, so that the deadlines lie a whole
-- millisecond apart, and no longer within the resolution.
example :
    ∃ A B firstA firstB,
      DeviceRun ⟨true⟩ .default (Instant.ofMillis 0) 0 firstA A ∧
      DeviceRun ⟨true⟩ .default (Instant.ofMillis 0) measuredSecond firstB B ∧
      A.offers.map Offer.packet = B.offers.map Offer.packet ∧
      ∃ pair ∈ A.offers.zip B.offers, |hostSkew 0 measuredSecond firstA firstB pair| = 1 := by
  have hhost : ∃ r, DeviceRun ⟨true⟩ .default (Instant.ofMillis 0) 0
        (deviceOffer 0 0 (makePacket 1 1 0) 150) r ∧
      r.offers = [deviceOffer 0 0 (makePacket 1 1 0) 150,
        deviceOffer 0 0 (makePacket 2 2 1000) 1150] :=
    exists_deviceRun secondApartCalls (by decide) (by decide +kernel) (by decide +kernel)
      (by decide +kernel)
  have hahead : ∃ r, DeviceRun ⟨true⟩ .default (Instant.ofMillis 0) measuredSecond
        (deviceOffer measuredSecond 0 (makePacket 1 1 0) 150) r ∧
      r.offers = [deviceOffer measuredSecond 0 (makePacket 1 1 0) 150,
        deviceOffer measuredSecond 0 (makePacket 2 2 1000) 1151] :=
    exists_deviceRun (.synchronizer (synchronizerAt measuredSecond) :: secondApartCalls)
      (by decide) (by decide +kernel) (by decide +kernel) (by decide +kernel)
  rcases hhost with ⟨A, hA, hoffersA⟩
  rcases hahead with ⟨B, hB, hoffersB⟩
  refine ⟨A, B, _, _, hA, hB, ?_⟩
  rw [hoffersA, hoffersB]
  decide +kernel

/-- Two devices that run on the host clock and accept the same packets, one 100
milliseconds after the other, assign deadlines 100 milliseconds apart. -/
theorem arrival_moves_deadline :
    ∃ A B firstA firstB,
      DeviceRun ⟨true⟩ .default (Instant.ofMillis 0) 0 firstA A ∧
      DeviceRun ⟨true⟩ .default (Instant.ofMillis 0) 0 firstB B ∧
      A.offers.map Offer.packet = B.offers.map Offer.packet ∧
      (∀ o ∈ A.offers ++ B.offers, o.accepted = true) ∧
      ∃ pair ∈ A.offers.zip B.offers,
        (SchedulerConfig.default.timelineResolution.asMillis : ℚ) <
          |hostMillis 0 pair.1.dueNanos - hostMillis 0 pair.2.dueNanos| := by
  have hlate : ∃ r, DeviceRun ⟨true⟩ .default (Instant.ofMillis 0) 0
        (deviceOffer 0 100 (makePacket 1 1 0) 250) r ∧
      r.offers = [deviceOffer 0 100 (makePacket 1 1 0) 250,
        deviceOffer 0 100 (makePacket 2 2 10) 260] :=
    exists_deviceRun (hostDeviceCalls 100) (by decide) (by decide +kernel)
      (by decide +kernel) (by decide +kernel)
  rcases exists_hostDevice with ⟨A, hA, hoffersA⟩
  rcases hlate with ⟨B, hB, hoffersB⟩
  refine ⟨A, B, _, _, hA, hB, ?_⟩
  rw [hoffersA, hoffersB]
  decide +kernel

/-! ## A moving offset -/

/-- What rounding adds to the shifted timestamp. -/
def Offer.roundoff (o : Offer) : ℚ :=
  o.shifted - o.sumMs

/-- With a whole offset the shifted timestamp is whole, rounded or not. -/
theorem Offer.exists_shifted_intCast {o : Offer} {k : ℤ} (hoffset : o.offsetMs = k) :
    ∃ m : ℤ, o.shifted = m := by
  rcases F64.exists_round_intCast o.packet.timestampMs.val with ⟨timestamp, htimestamp⟩
  rcases F64.exists_round_intCast (timestamp + k) with ⟨m, hm⟩
  refine ⟨m, ?_⟩
  rw [Offer.shifted, shiftedTimestampMs, hoffset, ← hm]
  push_cast at htimestamp ⊢
  rw [htimestamp]

/-- With steps of one millisecond and whole offsets, the deadline of a later packet
lies after the reading that anchored, in whole milliseconds, by the distance of the
shifted timestamps and the latency. -/
theorem deadline_after_anchoring {profile : BuildProfile} {config : SchedulerConfig}
    {epoch : Instant} {r : SchedulerRun} {first o : Offer} {rest : List Offer} {k₀ k₁ : ℤ}
    (hrun : StartedOnce profile config epoch r)
    (hresolution : config.timelineResolution = Duration.fromMillis 1)
    (hoffers : r.offers = first :: rest) (ho : o ∈ rest) (hrange : Unclamped first o)
    (hfirst : first.offsetMs = k₀) (hlater : o.offsetMs = k₁)
    (hafter : first.shifted ≤ o.shifted) :
    (o.deadline.nanos : ℚ) / nanosPerMilli =
      (first.reading.elapsedSince epoch).asMillis + (o.shifted - first.shifted) +
        config.playbackLatency.nanos / nanosPerMilli := by
  rcases hrun.session.log with ⟨t, -, hstarted, hsame, hlog⟩
  rw [hoffers] at hlog
  have hgrain : t.resolutionMs.val = 1 := by
    rw [PlaybackTimeline.resolutionMs, hsame, hresolution]
    decide
  rcases AnchoredLog.due hlog List.mem_cons_self (List.mem_cons_of_mem _ ho) hrange with
    ⟨anchorNanos, hdeadline, ⟨whole, rfl⟩, -, hlow, hhigh⟩
  rw [hgrain, Nat.div_one, Nat.mul_one] at hdeadline
  rw [hgrain, Nat.one_mul] at hhigh
  rw [hstarted] at hlow hhigh
  have hwhole : (first.reading.elapsedSince epoch).asMillis = whole := by
    unfold Duration.asMillis
    rw [Instant.elapsedSince_nanos]
    exact Nat.div_eq_of_lt_le (by rw [Nat.mul_comm]; omega)
      (by rw [Nat.add_mul, Nat.mul_comm]; omega)
  rcases Offer.exists_shifted_intCast hfirst with ⟨m₀, hm₀⟩
  rcases Offer.exists_shifted_intCast hlater with ⟨m₁, hm₁⟩
  have hfirstValue := Offer.adjusted_val hrange.nonneg (hafter.trans_lt hrange.lt_limit)
  have hlaterValue := Offer.adjusted_val (hrange.nonneg.trans hafter) hrange.lt_limit
  rw [hm₀, Int.floor_intCast] at hfirstValue
  rw [hm₁, Int.floor_intCast] at hlaterValue
  have hle : m₀ ≤ m₁ := by
    rw [hm₀, hm₁] at hafter
    exact_mod_cast hafter
  have hdistance :
      ((o.adjusted.val - first.adjusted.val : Nat) : ℚ) = o.shifted - first.shifted := by
    rw [hm₀, hm₁]
    exact_mod_cast (show ((o.adjusted.val - first.adjusted.val : Nat) : ℤ) = m₁ - m₀ by omega)
  rw [hwhole, ← hdistance, hdeadline]
  push_cast [nanosPerMilli]
  ring

/-- The later deadline keeps its place on the host clock: it lies after the host instant at
which the first packet was scheduled by the distance of the timestamps and the latency. -/
def KeepsHostTime (config : SchedulerConfig) (epoch : Instant) (first o : Offer) : Prop :=
  hostMillis o.offsetMs o.deadline.nanos =
    (first.reading.elapsedSince epoch).asMillis + first.offsetMs +
      (o.packet.timestampMs.val - first.packet.timestampMs.val) +
      config.playbackLatency.nanos / nanosPerMilli

instance (config : SchedulerConfig) (epoch : Instant) (first o : Offer) :
    Decidable (KeepsHostTime config epoch first o) :=
  inferInstanceAs (Decidable (hostMillis o.offsetMs o.deadline.nanos = _))

/-- The deadline of a later packet keeps its place on the host clock exactly if twice the
change of the offset is undone by rounding, since the code adds the offset to the
timestamp: if nothing is rounded, exactly if the offset did not change. -/
theorem deadline_on_host_iff {profile : BuildProfile} {config : SchedulerConfig}
    {epoch : Instant} {r : SchedulerRun} {first o : Offer} {rest : List Offer} {k₀ k₁ : ℤ}
    (hrun : StartedOnce profile config epoch r)
    (hresolution : config.timelineResolution = Duration.fromMillis 1)
    (hoffers : r.offers = first :: rest) (ho : o ∈ rest) (hrange : Unclamped first o)
    (hfirst : first.offsetMs = k₀) (hlater : o.offsetMs = k₁)
    (hafter : first.shifted ≤ o.shifted) :
    (KeepsHostTime config epoch first o ↔
      2 * (o.offsetMs - first.offsetMs) = first.roundoff - o.roundoff) ∧
      (first.ExactSum → o.ExactSum →
        (KeepsHostTime config epoch first o ↔ o.offsetMs = first.offsetMs)) := by
  have hdeadline :=
    deadline_after_anchoring hrun hresolution hoffers ho hrange hfirst hlater hafter
  have hkeeps : KeepsHostTime config epoch first o ↔
      2 * (o.offsetMs - first.offsetMs) = first.roundoff - o.roundoff := by
    unfold KeepsHostTime hostMillis Offer.roundoff Offer.sumMs
    rw [hdeadline]
    constructor
    · intro h
      linarith
    · intro h
      linarith
  refine ⟨hkeeps, ?_⟩
  intro hexact hexact'
  rw [hkeeps, Offer.roundoff, Offer.roundoff, hexact, hexact', sub_self, sub_self]
  constructor
  · intro h
    linarith
  · intro h
    linarith

/-- A packet scheduled at the zero of both clocks, a host clock that moves ahead by
100 milliseconds, and a packet with a timestamp one second later. -/
def movingOffsetCalls : List SchedulerCall :=
  [.schedulePacket (makePacket 1 1 1000) (Instant.ofMillis 0) (Instant.ofMillis 0),
    .syncStart (Instant.ofMillis 0),
    .synchronize (Duration.fromMillis 100) (Duration.fromMillis 0) (Instant.ofMillis 0),
    .schedulePacket (makePacket 2 2 2000) (Instant.ofMillis 0) (Instant.ofMillis 0)]

/-- The deadlines assigned before and after the offset moved. -/
def movingOffsetOffers : List Offer :=
  [deviceOffer 0 0 (makePacket 1 1 1000) 150, deviceOffer 100 0 (makePacket 2 2 2000) 1250]

theorem exists_movingOffset :
    ∃ r, StartedOnce ⟨true⟩ .default (Instant.ofMillis 0) r ∧ r.offers = movingOffsetOffers := by
  have hrun : (run (SchedulerRun.step ⟨true⟩) (SchedulerRun.atZero .default)
      (.start (Instant.ofMillis 0) :: movingOffsetCalls)).any
      (fun r => decide (r.offers = movingOffsetOffers)) = true := by
    decide +kernel
  rcases exists_of_any hrun with ⟨r, hr, hoffers⟩
  exact ⟨r, startedOnce_atZero SchedulerConfig.default_validates (by decide) hr, hoffers⟩

/-- In such a run nothing is rounded, and both sides of the equivalence are false. -/
theorem deadline_on_host_iff_moving :
    ∃ r first o, StartedOnce ⟨true⟩ .default (Instant.ofMillis 0) r ∧ r.offers = [first, o] ∧
      (KeepsHostTime .default (Instant.ofMillis 0) first o ↔ o.offsetMs = first.offsetMs) := by
  rcases exists_movingOffset with ⟨r, hstarted, hoffers⟩
  refine ⟨r, _, _, hstarted, hoffers, ?_⟩
  have hbefore : (deviceOffer 0 0 (makePacket 1 1 1000) 150).offsetMs = ((0 : ℤ) : ℚ) := by
    decide +kernel
  have hmoved : (deviceOffer 100 0 (makePacket 2 2 2000) 1250).offsetMs = ((100 : ℤ) : ℚ) := by
    decide +kernel
  exact (deadline_on_host_iff hstarted rfl hoffers (List.mem_singleton.mpr rfl)
    (by decide +kernel) hbefore hmoved (by decide +kernel)).2
    (Offer.exactSum_of_intCast hbefore (by decide) (by decide))
    (Offer.exactSum_of_intCast hmoved (by decide) (by decide))

/-- A deadline that kept its place on the host clock would be 1150 milliseconds there, and the
assigned one is 1350 milliseconds. -/
theorem moving_offset_shifts_deadline :
    ∃ r first o, StartedOnce ⟨true⟩ .default (Instant.ofMillis 0) r ∧ r.offers = [first, o] ∧
      Unclamped first o ∧ first.packet.timestampMs ≤ o.packet.timestampMs ∧
      hostMillis o.offsetMs o.deadline.nanos = 1350 ∧
      (first.reading.elapsedSince (Instant.ofMillis 0)).asMillis + first.offsetMs +
          (o.packet.timestampMs.val - first.packet.timestampMs.val) +
          (SchedulerConfig.default.playbackLatency.nanos : ℚ) / nanosPerMilli = 1150 ∧
      ¬ KeepsHostTime .default (Instant.ofMillis 0) first o := by
  rcases exists_movingOffset with ⟨r, hstarted, hoffers⟩
  refine ⟨r, _, _, hstarted, hoffers, ?_⟩
  decide +kernel

end Scheduler
end EchoSync
