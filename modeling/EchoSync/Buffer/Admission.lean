import EchoSync.Buffer.Accounting
import EchoSync.Buffer.BufferRun

/-!
# Buffer Layer - Admission of packets

What one insertion answers, what it counts and what it drops.  Refusals come from two
layers: the storage refuses a number that is still buffered, the window one that was
delivered or passed over, and only the window has a counter for them.

Main results:

- Theorem {lit}`JitterBuffer.insertMove`: everything that one insertion can do.
- Theorem {lit}`BufferRun.answers_iff`: the answers follow the buffered and the recently
  delivered numbers exactly when the delay arithmetic stays in range.
- Theorem {lit}`BufferRun.arrivals_partition_iff`: the counters of the window partition
  the arrivals exactly when no number arrives while it is still buffered.
- Theorem {lit}`BufferRun.overflow_drops_oldest`: at the capacity the oldest of the
  packets buffered before goes, also when the new one is older.
-/

namespace EchoSync
namespace Buffer

open Streaming

namespace PacketWindow

/-- A window with the admission counters of another one. -/
def SameArrivals (w w' : PacketWindow) : Prop :=
  w'.stats = { w.stats with packetsLost := w'.stats.packetsLost }

theorem SameArrivals.trans {w w' w'' : PacketWindow} (h : w.SameArrivals w')
    (h' : w'.SameArrivals w'') : w.SameArrivals w'' := by
  unfold SameArrivals at *
  rw [h', h]

/-- An admitted number is counted once, as in order or as reordered, and among the late
ones only when it is reordered. -/
theorem admitSequence_counts {w : PacketWindow} {n : U64}
    (h : (w.admitSequence n).1 = .ok ()) :
    (w.admitSequence n).2.stats.packetsInOrder + (w.admitSequence n).2.stats.packetsReordered =
        w.stats.packetsInOrder + w.stats.packetsReordered + 1 ∧
      (w.admitSequence n).2.stats.duplicatesDetected = w.stats.duplicatesDetected ∧
      (w.admitSequence n).2.stats.latePackets + w.stats.packetsReordered ≤
        (w.admitSequence n).2.stats.packetsReordered + w.stats.latePackets := by
  rcases admitSequence_ok_iff.mp h with ⟨hfresh, hahead⟩
  unfold admitSequence
  rw [if_neg hfresh]
  cases hexpected : w.expectedSequence with
  | none =>
      dsimp only
      omega
  | some expected =>
      dsimp only
      rw [if_neg (not_lt.mpr (hahead expected hexpected))]
      split_ifs with heq hlate
      all_goals
        dsimp only
        omega

end PacketWindow

namespace JitterBuffer

variable {b : JitterBuffer} {packet : AudioPacket} {now : Instant}

/-! ## One insertion -/

/-- The number lies below the delivery watermark. -/
def Passed (b : JitterBuffer) (n : U64) : Prop :=
  ∃ expected, b.window.expectedSequence = some expected ∧ n < expected

instance Passed.instDecidable (b : JitterBuffer) (n : U64) : Decidable (b.Passed n) :=
  decidable_of_iff (b.window.expectedSequence.any fun expected => decide (n < expected)) <| by
    cases hexpected : b.window.expectedSequence <;> simp [Passed, hexpected]

/-- The buffer after the window has counted a refused packet. -/
def countDuplicate (b : JitterBuffer) : JitterBuffer :=
  { b with window.stats.duplicatesDetected := b.window.stats.duplicatesDetected + 1 }

/-- The buffer in which an accepted packet is stored. -/
def admitted (b : JitterBuffer) (n : U64) : JitterBuffer :=
  { b.makeRoom with window := (b.window.admitSequence n).2 }

/-- Everything that one insertion can do: the storage refuses the number, the window
refuses it in one of two ways, or the packet is stored. -/
inductive InsertMove (b : JitterBuffer) (packet : AudioPacket) (now : Instant) :
    Outcome BufferError Unit × JitterBuffer → Prop where
  | buffered (hmem : packet.sequenceNumber ∈ b.entries.keys) :
      InsertMove b packet now (.err (.duplicatePacket packet.sequenceNumber), b)
  | cached (hfresh : packet.sequenceNumber ∉ b.entries.keys)
      (hseen : packet.sequenceNumber ∈ b.window.seenSet) :
      InsertMove b packet now
        (.err (.duplicatePacket packet.sequenceNumber), b.countDuplicate)
  | passed (hfresh : packet.sequenceNumber ∉ b.entries.keys)
      (hunseen : packet.sequenceNumber ∉ b.window.seenSet)
      (hpassed : b.Passed packet.sequenceNumber) :
      InsertMove b packet now
        (.err (.alreadyProcessed packet.sequenceNumber), b.countDuplicate)
  | stored (haccepts : b.Accepts packet.sequenceNumber) :
      InsertMove b packet now
        (((b.admitted packet.sequenceNumber).updateJitterEstimate packet now).store packet
          now).adaptIfEnabled

theorem insertMove (b : JitterBuffer) (packet : AudioPacket) (now : Instant) :
    InsertMove b packet now (b.insertPacket packet now) := by
  by_cases hmem : packet.sequenceNumber ∈ b.entries.keys
  · have hrefused : b.insertPacket packet now =
        (.err (.duplicatePacket packet.sequenceNumber), b) := by
      simp [insertPacket, hmem]
    rw [hrefused]
    exact .buffered hmem
  · by_cases hseen : packet.sequenceNumber ∈ b.window.seenSet
    · have hrefused : b.insertPacket packet now =
          (.err (.duplicatePacket packet.sequenceNumber), b.countDuplicate) := by
        simp [insertPacket, hmem, PacketWindow.admitSequence, hseen, countDuplicate]
      rw [hrefused]
      exact .cached hmem hseen
    · by_cases hpassed : b.Passed packet.sequenceNumber
      · rcases hpassed with ⟨expected, hexpected, hlt⟩
        have hrefused : b.insertPacket packet now =
            (.err (.alreadyProcessed packet.sequenceNumber), b.countDuplicate) := by
          simp [insertPacket, hmem, PacketWindow.admitSequence, hseen, hexpected, hlt,
            countDuplicate]
        rw [hrefused]
        exact .passed hmem hseen ⟨expected, hexpected, hlt⟩
      · have haccepts : b.Accepts packet.sequenceNumber := by
          refine ⟨hmem, hseen, ?_⟩
          intro expected hexpected
          exact not_lt.mp fun hlt => hpassed ⟨expected, hexpected, hlt⟩
        rw [insertPacket_of_accepts haccepts]
        exact .stored haccepts

/-- The end of an insertion does not refuse the packet. -/
theorem adaptIfEnabled_ne_err (b : JitterBuffer) (e : BufferError) :
    b.adaptIfEnabled.1 ≠ .err e := by
  unfold adaptIfEnabled
  split_ifs
  · split <;> simp
  · simp

/-- At the capacity an accepted packet takes the place of the oldest of the buffered
ones. -/
theorem insertPacket_overflow (hpos : 0 < b.config.maxBufferSize)
    (hfull : b.entries.length = b.config.maxBufferSize)
    (haccepts : b.Accepts packet.sequenceNumber) :
    ∃ oldest, IsLeast { n | n ∈ b.entries.keys } oldest ∧
      (∀ n, n ∈ (b.insertPacket packet now).2.entries.keys ↔
        n = packet.sequenceNumber ∨ (n ∈ b.entries.keys ∧ n ≠ oldest)) ∧
      (b.insertPacket packet now).2.packetsDroppedTotal = b.packetsDroppedTotal + 1 ∧
      (b.insertPacket packet now).2.entries.length = b.entries.length := by
  cases hfirst : b.entries.first? with
  | none =>
      have hempty : b.entries.toList = [] := List.head?_eq_none_iff.mp hfirst
      simp only [OrderedMap.length, hempty, List.length_nil] at hfull
      omega
  | some first =>
      rcases first with ⟨oldest, entry⟩
      have hmem := OrderedMap.first?_mem hfirst
      have hroom : b.makeRoom =
          { b with
            entries := b.entries.remove oldest
            packetsDroppedTotal := b.packetsDroppedTotal + 1 } := by
        rw [makeRoom, if_pos hfull.ge, hfirst]
      have hentries : (b.insertPacket packet now).2.entries =
          (b.entries.remove oldest).insert packet.sequenceNumber { packet, arrival := now } := by
        rw [insertPacket_of_accepts haccepts, adaptIfEnabled_eq, hroom]
        rfl
      have hfresh : packet.sequenceNumber ∉ (b.entries.remove oldest).keys := by
        intro hkept
        exact haccepts.1 (OrderedMap.mem_keys_remove_iff.mp hkept).1
      refine ⟨oldest, ⟨hmem, fun n hn => OrderedMap.first?_le hfirst hn⟩, ?_, ?_, ?_⟩
      · intro n
        rw [hentries, OrderedMap.mem_keys_insert_iff, OrderedMap.mem_keys_remove_iff]
      · rw [insertPacket_of_accepts haccepts, adaptIfEnabled_eq, hroom]
        rfl
      · rw [hentries, OrderedMap.length_insert _ hfresh, OrderedMap.length_remove hmem]

/-! ## The counters of the window -/

/-- A release changes no counter of the arrivals. -/
theorem release_sameArrivals (b : JitterBuffer) (n : U64) :
    b.window.SameArrivals (b.release n).window := by
  simp [PacketWindow.SameArrivals, release, PacketWindow.advance, PacketWindow.passWatermark]

theorem nextPacket_sameArrivals (b : JitterBuffer) (clock : Nat → Instant) :
    b.window.SameArrivals (b.nextPacket clock).2.window := by
  have hfresh : (b.evictStale clock).window = b.window := by rw [evictStale_eq]
  unfold nextPacket
  dsimp only
  rw [← hfresh]
  split
  · rfl
  · split_ifs
    · exact release_sameArrivals _ _
    · rfl

theorem flush_sameArrivals (b : JitterBuffer) : b.window.SameArrivals b.flush.2.window := by
  unfold flush
  induction b.entries.keys using List.reverseRecOn with
  | nil => rfl
  | append_singleton ns n ih =>
      rw [List.foldl_concat]
      generalize ns.foldl drainOne ([], b) = drained at ih ⊢
      unfold drainOne
      split
      · exact ih.trans (release_sameArrivals drained.2 n)
      · exact ih

end JitterBuffer

namespace BufferRun

variable {r : BufferRun} {packet : AudioPacket} {now : Instant}

/-! ## The answers -/

/-- A duplicate is still buffered, or among the last delivered numbers that the cache has
room for. -/
def Duplicate (r : BufferRun) (n : U64) : Prop :=
  n ∈ r.buffer.entries.keys ∨ n ∈ r.deliveredNumbers.rtake r.buffer.config.duplicateCacheSize

instance Duplicate.instDecidable (r : BufferRun) (n : U64) : Decidable (r.Duplicate n) :=
  inferInstanceAs (Decidable (_ ∨ _))

/-- One delivered packet. -/
def delivery : List BufferCall :=
  [.insertPacket (makePacket 0 7 0) (Instant.ofMillis 0), .nextPacket fun _ => Instant.ofMillis 80]

/-- Whether an answer is a refusal. -/
def isRefusal : Outcome BufferError Unit → Bool
  | .err _ => true
  | _ => false

/-- The number of insertions since the last reset that were refused. -/
def refusals (r : BufferRun) : Nat :=
  r.answers.countP isRefusal

/-- The counters of the window partition the insertions since the last reset. -/
structure PartitionsArrivals (r : BufferRun) : Prop where
  total : r.answers.length = r.buffer.window.stats.packetsInOrder +
    r.buffer.window.stats.packetsReordered + r.buffer.window.stats.duplicatesDetected
  refused : r.buffer.window.stats.duplicatesDetected = r.refusals
  late : r.buffer.window.stats.latePackets ≤ r.buffer.window.stats.packetsReordered

/-- What the counters say in any case: the insertions that were not refused are counted
once. -/
structure CountsAccepted (r : BufferRun) : Prop where
  accepted : r.buffer.window.stats.packetsInOrder + r.buffer.window.stats.packetsReordered +
    r.refusals = r.answers.length
  late : r.buffer.window.stats.latePackets ≤ r.buffer.window.stats.packetsReordered

theorem partitionsArrivals_iff (h : r.CountsAccepted) :
    r.PartitionsArrivals ↔ r.buffer.window.stats.duplicatesDetected = r.refusals := by
  have haccepted := h.accepted
  constructor
  · intro hpartition
    exact hpartition.refused
  · intro hrefused
    exact ⟨by omega, hrefused, h.late⟩

/-- The number of an insertion is not buffered when it arrives. -/
def ArrivesUnbuffered (r : BufferRun) : BufferCall → Prop
  | .insertPacket packet _ => packet.sequenceNumber ∉ r.buffer.entries.keys
  | _ => True

instance ArrivesUnbuffered.instDecidable (r : BufferRun) (call : BufferCall) :
    Decidable (r.ArrivesUnbuffered call) :=
  match call with
  | .insertPacket packet _ =>
      inferInstanceAs (Decidable (packet.sequenceNumber ∉ r.buffer.entries.keys))
  | .nextPacket _ | .flush | .setTargetDelay _ | .reset => isTrue trivial

/-- What one insertion does to the counters of the window: a number that is still buffered
is refused and not counted, another refusal is counted as a duplicate, and an accepted
number is counted once. -/
theorem insertPacket_stats (b : JitterBuffer) (packet : AudioPacket) (now : Instant) :
    (packet.sequenceNumber ∈ b.entries.keys ∧ isRefusal (b.insertPacket packet now).1 = true ∧
      (b.insertPacket packet now).2.window.stats = b.window.stats) ∨
    (packet.sequenceNumber ∉ b.entries.keys ∧ isRefusal (b.insertPacket packet now).1 = true ∧
      (b.insertPacket packet now).2.window.stats = b.countDuplicate.window.stats) ∨
    (packet.sequenceNumber ∉ b.entries.keys ∧ isRefusal (b.insertPacket packet now).1 = false ∧
      (b.insertPacket packet now).2.window.stats =
        (b.window.admitSequence packet.sequenceNumber).2.stats ∧
      (b.window.admitSequence packet.sequenceNumber).1 = .ok ()) := by
  have hmove := JitterBuffer.insertMove b packet now
  generalize b.insertPacket packet now = outcome at hmove ⊢
  cases hmove with
  | buffered hmem => exact Or.inl ⟨hmem, by simp [isRefusal], rfl⟩
  | cached hfresh hseen => exact Or.inr (Or.inl ⟨hfresh, by simp [isRefusal], rfl⟩)
  | passed hfresh hunseen hpassed => exact Or.inr (Or.inl ⟨hfresh, by simp [isRefusal], rfl⟩)
  | stored haccepts =>
      refine Or.inr (Or.inr ⟨haccepts.1, ?_, ?_, (JitterBuffer.accepts_iff.mp haccepts).2⟩)
      · rw [Bool.eq_false_iff]
        intro hrefused
        cases hanswer : (((b.admitted packet.sequenceNumber).updateJitterEstimate packet now).store
          packet now).adaptIfEnabled.1 with
        | ok value => simp [hanswer, isRefusal] at hrefused
        | err e => exact JitterBuffer.adaptIfEnabled_ne_err _ e hanswer
        | panicked => simp [hanswer, isRefusal] at hrefused
      · simp [JitterBuffer.store, JitterBuffer.updateJitterEstimate, JitterBuffer.admitted]

theorem refusals_insertPacket (r : BufferRun) (packet : AudioPacket) (now : Instant) :
    (r.step (.insertPacket packet now)).refusals =
      r.refusals + if isRefusal (r.buffer.insertPacket packet now).1 then 1 else 0 := by
  simp [refusals, step, List.countP_append, List.countP_singleton]

/-- An insertion counts what it accepts, and what it refuses unless the number is still
buffered. -/
theorem insertPacket_counts (h : r.CountsAccepted) (packet : AudioPacket) (now : Instant) :
    (r.step (.insertPacket packet now)).CountsAccepted ∧
      ((r.step (.insertPacket packet now)).buffer.window.stats.duplicatesDetected + r.refusals =
          r.buffer.window.stats.duplicatesDetected +
            (r.step (.insertPacket packet now)).refusals ↔
        packet.sequenceNumber ∉ r.buffer.entries.keys) := by
  have haccepted := h.accepted
  have hlate := h.late
  have hrefusals := refusals_insertPacket r packet now
  have hlength : (r.step (.insertPacket packet now)).answers.length = r.answers.length + 1 := by
    simp [step]
  have hbuffer : (r.step (.insertPacket packet now)).buffer =
      (r.buffer.insertPacket packet now).2 := rfl
  rcases insertPacket_stats r.buffer packet now with
    ⟨hmem, hrefused, hstats⟩ | ⟨hfresh, hrefused, hstats⟩ | ⟨hfresh, haccepts, hstats, hok⟩
  · rw [hrefused, if_pos rfl] at hrefusals
    rw [hbuffer, hstats, hrefusals]
    refine ⟨⟨?_, ?_⟩, ?_⟩
    · rw [hbuffer, hstats]
      omega
    · rw [hbuffer, hstats]
      exact hlate
    · simp [hmem]
  · rw [hrefused, if_pos rfl] at hrefusals
    rw [hbuffer, hstats, hrefusals]
    refine ⟨⟨?_, ?_⟩, ?_⟩
    · rw [hbuffer, hstats]
      simp only [JitterBuffer.countDuplicate]
      omega
    · rw [hbuffer, hstats]
      exact hlate
    · simp only [JitterBuffer.countDuplicate, hfresh, not_false_iff, iff_true]
      omega
  · rcases PacketWindow.admitSequence_counts hok with ⟨hcounted, hduplicates, hlater⟩
    rw [haccepts, if_neg Bool.false_ne_true, Nat.add_zero] at hrefusals
    rw [hbuffer, hstats, hrefusals]
    refine ⟨⟨?_, ?_⟩, ?_⟩
    · rw [hbuffer, hstats]
      omega
    · rw [hbuffer, hstats]
      omega
    · simp [hfresh, hduplicates]

/-- The other calls answer nothing and leave the counters of the arrivals, until a reset
starts over. -/
theorem step_sameArrivals {call : BufferCall} (hinsert : ∀ packet now,
    call ≠ .insertPacket packet now) (hreset : call ≠ .reset) :
    (r.step call).answers = r.answers ∧
      r.buffer.window.SameArrivals (r.step call).buffer.window := by
  cases call with
  | insertPacket packet now => exact absurd rfl (hinsert packet now)
  | nextPacket clock => exact ⟨rfl, JitterBuffer.nextPacket_sameArrivals r.buffer clock⟩
  | flush => exact ⟨rfl, JitterBuffer.flush_sameArrivals r.buffer⟩
  | setTargetDelay delay =>
      refine ⟨rfl, ?_⟩
      have hwindow : (r.step (.setTargetDelay delay)).buffer.window = r.buffer.window := by
        simp only [step, JitterBuffer.setTargetDelay]
        split_ifs <;> rfl
      rw [hwindow]
      rfl
  | reset => exact absurd rfl hreset

/-- Every call counts what it accepts, and keeps the partition of the arrivals exactly
when it does not insert a number that is still buffered. -/
theorem step_arrivals (h : r.CountsAccepted) (call : BufferCall) :
    (r.step call).CountsAccepted ∧
      (r.PartitionsArrivals →
        ((r.step call).PartitionsArrivals ↔ r.ArrivesUnbuffered call)) := by
  by_cases hinsert : ∃ packet now, call = .insertPacket packet now
  · rcases hinsert with ⟨packet, now, rfl⟩
    rcases insertPacket_counts h packet now with ⟨hcounts, hiff⟩
    refine ⟨hcounts, ?_⟩
    intro hpartition
    rw [partitionsArrivals_iff hcounts, ArrivesUnbuffered, ← hiff, hpartition.refused]
    omega
  · by_cases hreset : call = .reset
    · subst hreset
      have hcounts : (r.step .reset).CountsAccepted := ⟨rfl, le_rfl⟩
      refine ⟨hcounts, fun _ => ?_⟩
      rw [partitionsArrivals_iff hcounts]
      exact iff_of_true rfl trivial
    · have hother : ∀ packet now, call ≠ .insertPacket packet now :=
        fun packet now heq => hinsert ⟨packet, now, heq⟩
      rcases @step_sameArrivals r call hother hreset with ⟨hanswers, hsame⟩
      have hrefusals : (r.step call).refusals = r.refusals := by rw [refusals, hanswers, refusals]
      have hcounts : (r.step call).CountsAccepted := by
        constructor
        · rw [hsame, hrefusals, hanswers]
          exact h.accepted
        · rw [hsame]
          exact h.late
      refine ⟨hcounts, ?_⟩
      intro hpartition
      rw [partitionsArrivals_iff hcounts, hsame, hrefusals]
      refine iff_of_true hpartition.refused ?_
      cases call with
      | insertPacket packet now => exact absurd rfl (hother packet now)
      | _ => trivial

/-- On a buffer built from a valid configuration, in every run: after every call the
insertions since the last reset are partitioned by the counters, with every refusal
counted as a duplicate and the late packets among the reordered ones, exactly when no
insertion of the run brings a number that is still buffered. -/
theorem arrivals_partition_iff {config : BufferConfig} {b : JitterBuffer}
    (hnew : JitterBuffer.new config = .ok b) (calls : List BufferCall) :
    (∀ before, before <+: calls → (run b before).PartitionsArrivals) ↔
      ∀ before call, before ++ [call] <+: calls → (run b before).ArrivesUnbuffered call := by
  have hstart : (start b).CountsAccepted ∧ (start b).PartitionsArrivals := by
    rcases JitterBuffer.new_spec hnew with ⟨-, rfl⟩
    exact ⟨⟨rfl, le_rfl⟩, ⟨rfl, rfl, le_rfl⟩⟩
  apply TransitionSystem.foldl_forall_iff CountsAccepted PartitionsArrivals ArrivesUnbuffered
  · intro r call h
    exact (step_arrivals h call).1
  · intro r call h hpartition
    exact (step_arrivals h call).2 hpartition
  · exact hstart.1
  · exact hstart.2

/-- One delivered packet whose number arrives again. -/
def redelivery : List BufferCall :=
  delivery ++ [.insertPacket (makePacket 1 7 0) (Instant.ofMillis 90)]

/-- A delivered number that arrives again is counted as a duplicate. -/
theorem arrivals_partition_delivered :
    ∃ b, JitterBuffer.new BufferConfig.default = .ok b ∧
      (run b redelivery).answers = [.ok (), .err (.duplicatePacket 7)] ∧
      (run b redelivery).buffer.window.stats.duplicatesDetected = 1 ∧
      (run b redelivery).PartitionsArrivals := by
  refine ⟨_, rfl, by decide +kernel, by decide +kernel, ?_⟩
  apply (@arrivals_partition_iff BufferConfig.default _ rfl redelivery).mpr _ _ List.prefix_rfl
  intro before call hwithin
  refine @TransitionSystem.StepsMeet.forall_prefix _ _ ArrivesUnbuffered step _ redelivery ?_
    before call hwithin
  decide +kernel

/-- The second of two insertions of one number is refused while the first is still
buffered, and no counter of the window says so. -/
theorem buffered_duplicate_uncounted :
    ∃ b, JitterBuffer.new BufferConfig.default = .ok b ∧
      let calls : List BufferCall :=
        [.insertPacket (makePacket 0 7 0) (Instant.ofMillis 0),
          .insertPacket (makePacket 1 7 0) (Instant.ofMillis 1)]
      (run b calls).answers = [.ok (), .err (.duplicatePacket 7)] ∧
        (run b calls).buffer.window.stats.duplicatesDetected = 0 ∧
        ¬ (run b calls).PartitionsArrivals := by
  refine ⟨_, rfl, by decide +kernel, by decide +kernel, ?_⟩
  intro hpartition
  exact absurd hpartition.total (by decide +kernel)

/-! ## Overflow -/

/-- On a buffer built from a valid configuration, after any calls that filled it: an
accepted packet takes the place of exactly one packet, the one with the smallest number of
those that were buffered, and the occupancy stays at the capacity.  What is dropped is
smaller than everything buffered afterwards exactly when it is smaller than the new
number. -/
theorem overflow_drops_oldest {config : BufferConfig} {b : JitterBuffer}
    (hnew : JitterBuffer.new config = .ok b) (calls : List BufferCall)
    (hfull : (run b calls).buffer.entries.length = config.maxBufferSize)
    (packet : AudioPacket) (now : Instant)
    (haccepted : ((run b calls).buffer.insertPacket packet now).1 = .ok ()) :
    ∃ oldest, IsLeast { n | n ∈ (run b calls).buffer.entries.keys } oldest ∧
      (∀ n, n ∈ ((run b calls).buffer.insertPacket packet now).2.entries.keys ↔
        n = packet.sequenceNumber ∨ (n ∈ (run b calls).buffer.entries.keys ∧ n ≠ oldest)) ∧
      ((run b calls).buffer.insertPacket packet now).2.packetsDroppedTotal =
        (run b calls).buffer.packetsDroppedTotal + 1 ∧
      ((run b calls).buffer.insertPacket packet now).2.entries.length = config.maxBufferSize ∧
      ((∀ n ∈ ((run b calls).buffer.insertPacket packet now).2.entries.keys, oldest < n) ↔
        oldest < packet.sequenceNumber) := by
  rcases run_config hnew calls with ⟨hvalid, hconfig⟩
  have haccepts : (run b calls).buffer.Accepts packet.sequenceNumber := by
    by_contra hrefused
    have hmove := JitterBuffer.insertMove (run b calls).buffer packet now
    generalize (run b calls).buffer.insertPacket packet now = outcome at haccepted hmove
    cases hmove with
    | buffered hmem => cases haccepted
    | cached hfresh hseen => cases haccepted
    | passed hfresh hunseen hpassed => cases haccepted
    | stored haccepts => exact hrefused haccepts
  rcases @JitterBuffer.insertPacket_overflow _ packet now (hconfig ▸ hvalid.maxBufferSize_pos)
    (hconfig ▸ hfull) haccepts with ⟨oldest, hleast, hkeys, hdropped, hlength⟩
  refine ⟨oldest, hleast, hkeys, hdropped, hlength.trans hfull, ?_⟩
  constructor
  · intro hbelow
    exact hbelow _ ((hkeys _).mpr (Or.inl rfl))
  · intro hlt n hn
    rcases (hkeys n).mp hn with rfl | ⟨hmem, hne⟩
    · exact hlt
    · exact lt_of_le_of_ne (hleast.2 hmem) hne.symm

/-- A configuration with two places. -/
def pairConfig : BufferConfig :=
  { BufferConfig.default with initialBufferSize := 1, maxBufferSize := 2 }

/-- The calls that fill both places. -/
def fillPair : List BufferCall :=
  [.insertPacket (makePacket 0 5 0) (Instant.ofMillis 0),
    .insertPacket (makePacket 1 6 0) (Instant.ofMillis 1)]

/-- A later packet takes the place of the older one. -/
theorem overflow_drops_oldest_pair :
    ∃ b, JitterBuffer.new pairConfig = .ok b ∧
      ∃ oldest, IsLeast { n | n ∈ (run b fillPair).buffer.entries.keys } oldest ∧
        ((∀ n ∈ ((run b fillPair).buffer.insertPacket (makePacket 2 7 0)
            (Instant.ofMillis 2)).2.entries.keys, oldest < n) ↔ oldest < 7) := by
  refine ⟨_, rfl, ?_⟩
  rcases @overflow_drops_oldest pairConfig _ rfl fillPair (by decide +kernel)
    (makePacket 2 7 0) (Instant.ofMillis 2) (by decide +kernel) with
    ⟨oldest, hleast, -, -, -, hiff⟩
  exact ⟨oldest, hleast, hiff⟩

/-- A packet older than both buffered ones is accepted, the older of the two is dropped,
and the new one, which is smaller, stays buffered. -/
theorem overflow_keeps_older :
    ∃ b, JitterBuffer.new pairConfig = .ok b ∧
      ¬ ∀ (calls : List BufferCall) (packet : AudioPacket) (now : Instant),
        (run b calls).buffer.entries.length = pairConfig.maxBufferSize →
        ((run b calls).buffer.insertPacket packet now).1 = .ok () →
        ∀ dropped ∈ (run b calls).buffer.entries.keys,
          dropped ∉ ((run b calls).buffer.insertPacket packet now).2.entries.keys →
          ∀ n ∈ ((run b calls).buffer.insertPacket packet now).2.entries.keys, dropped < n := by
  refine ⟨_, rfl, ?_⟩
  intro hstalest
  have hdropped := hstalest fillPair (makePacket 2 3 0) (Instant.ofMillis 2) (by decide +kernel)
    (by decide +kernel) 5 (by decide +kernel) (by decide +kernel) 3 (by decide +kernel)
  exact absurd hdropped (by decide)

end BufferRun

end Buffer
end EchoSync
