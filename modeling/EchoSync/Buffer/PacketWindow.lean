import EchoSync.Buffer.Config

/-!
# Buffer Layer - Sequence-number bookkeeping

The storage-free part of the jitter buffer: a delivery watermark, a bounded
first-in first-out cache of delivered sequence numbers with its membership set,
and the counters of one packet stream.

Main results:

- Theorem {lit}`PacketWindow.admitSequence_ok_iff`: a sequence number is admitted
  exactly when it is not cached and not below the watermark.
- Theorem {lit}`PacketWindow.lt_of_settled_of_admitted`: an admitted number lies
  above every settled one.
- Theorems {lit}`PacketWindow.advance_settled_self` and
  {lit}`PacketWindow.advance_settled_of_lt`: a delivery settles its number and
  everything below it, also where the saturating watermark stands at the
  largest number.
-/

namespace EchoSync
namespace Buffer

/-- The counters of a packet window. -/
structure WindowStatistics where
  packetsInOrder : Nat
  packetsReordered : Nat
  packetsLost : Nat
  duplicatesDetected : Nat
  latePackets : Nat
deriving DecidableEq

/-- All counters at zero. -/
def WindowStatistics.default : WindowStatistics where
  packetsInOrder := 0
  packetsReordered := 0
  packetsLost := 0
  duplicatesDetected := 0
  latePackets := 0

/-- Expected sequence numbers, the duplicate cache and the counters of a single
packet stream.  The set mirrors the cache for fast membership. -/
structure PacketWindow where
  expectedSequence : Option U64
  seenCache : List U64
  seenSet : Finset U64
  cacheCapacity : Nat
  maxMissingPackets : U64
  stats : WindowStatistics

namespace PacketWindow

/-- A fresh window. -/
def new (cacheCapacity : Nat) (maxMissingPackets : U64) : PacketWindow where
  expectedSequence := none
  seenCache := []
  seenSet := ∅
  cacheCapacity := cacheCapacity
  maxMissingPackets := maxMissingPackets
  stats := WindowStatistics.default

/-- Decide whether a packet may enter the jitter buffer.  Only the counters
change. -/
def admitSequence (w : PacketWindow) (sequenceNumber : U64) :
    Except BufferError Unit × PacketWindow :=
  if sequenceNumber ∈ w.seenSet then
    (.error (.duplicatePacket sequenceNumber),
      { w with stats.duplicatesDetected := w.stats.duplicatesDetected + 1 })
  else
    match w.expectedSequence with
    | some expected =>
        if sequenceNumber < expected then
          (.error (.alreadyProcessed sequenceNumber),
            { w with stats.duplicatesDetected := w.stats.duplicatesDetected + 1 })
        else if sequenceNumber = expected then
          (.ok (), { w with stats.packetsInOrder := w.stats.packetsInOrder + 1 })
        else
          (.ok (),
            { w with
              stats.packetsReordered := w.stats.packetsReordered + 1
              stats.latePackets :=
                if sequenceNumber.val - expected.val > w.maxMissingPackets.val then
                  w.stats.latePackets + 1
                else w.stats.latePackets })
    | none => (.ok (), { w with stats.packetsInOrder := w.stats.packetsInOrder + 1 })

/-- Drop the oldest entry of the duplicate cache. -/
def evictOldest (w : PacketWindow) : PacketWindow :=
  match w.seenCache with
  | [] => w
  | oldest :: rest => { w with seenCache := rest, seenSet := w.seenSet.erase oldest }

/-- Insert a delivered number into the bounded duplicate cache, evicting the
oldest one beyond its capacity. -/
def remember (w : PacketWindow) (sequenceNumber : U64) : PacketWindow :=
  if w.cacheCapacity = 0 then w
  else if sequenceNumber ∈ w.seenSet then w
  else
    let w' : PacketWindow :=
      { w with
        seenCache := w.seenCache ++ [sequenceNumber]
        seenSet := insert sequenceNumber w.seenSet }
    if w'.seenCache.length > w.cacheCapacity then w'.evictOldest else w'

/-- The numbers skipped by a delivery. -/
def skipped (expectedSequence : Option U64) (sequenceNumber : U64) : Nat :=
  match expectedSequence with
  | some expected =>
      if sequenceNumber > expected then sequenceNumber.val - expected.val else 0
  | none => 0

/-- The watermark after a delivery. -/
def nextWatermark (expectedSequence : Option U64) (sequenceNumber : U64) : U64 :=
  match expectedSequence with
  | some expected => max expected sequenceNumber.saturatingSucc
  | none => sequenceNumber.saturatingSucc

/-- Count the numbers skipped by a delivery and move the watermark past it. -/
def passWatermark (w : PacketWindow) (sequenceNumber : U64) : PacketWindow :=
  { w with
    stats.packetsLost := w.stats.packetsLost + skipped w.expectedSequence sequenceNumber
    expectedSequence := some (nextWatermark w.expectedSequence sequenceNumber) }

/-- Record that a packet was just delivered, and report how many sequence
numbers the delivery skipped. -/
def advance (w : PacketWindow) (sequenceNumber : U64) : Nat × PacketWindow :=
  (skipped w.expectedSequence sequenceNumber,
    (w.passWatermark sequenceNumber).remember sequenceNumber)

/-- Forget the watermark, the cache and the counters; keep the configuration. -/
def reset (w : PacketWindow) : PacketWindow :=
  { w with
    expectedSequence := none
    seenCache := []
    seenSet := ∅
    stats := WindowStatistics.default }

/-! ## What each operation leaves unchanged -/

@[simp]
theorem admitSequence_expectedSequence (w : PacketWindow) (n : U64) :
    (w.admitSequence n).2.expectedSequence = w.expectedSequence := by
  unfold admitSequence
  split
  · rfl
  · split
    · split_ifs <;> simp_all
    · simp_all

@[simp]
theorem admitSequence_seenSet (w : PacketWindow) (n : U64) :
    (w.admitSequence n).2.seenSet = w.seenSet := by
  unfold admitSequence
  split
  · rfl
  · split
    · split_ifs <;> rfl
    · rfl

@[simp]
theorem admitSequence_seenCache (w : PacketWindow) (n : U64) :
    (w.admitSequence n).2.seenCache = w.seenCache := by
  unfold admitSequence
  split
  · rfl
  · split
    · split_ifs <;> rfl
    · rfl

@[simp]
theorem admitSequence_cacheCapacity (w : PacketWindow) (n : U64) :
    (w.admitSequence n).2.cacheCapacity = w.cacheCapacity := by
  unfold admitSequence
  split
  · rfl
  · split
    · split_ifs <;> rfl
    · rfl

@[simp]
theorem evictOldest_expectedSequence (w : PacketWindow) :
    w.evictOldest.expectedSequence = w.expectedSequence := by
  unfold evictOldest
  split <;> rfl

@[simp]
theorem evictOldest_cacheCapacity (w : PacketWindow) :
    w.evictOldest.cacheCapacity = w.cacheCapacity := by
  unfold evictOldest
  split <;> rfl

@[simp]
theorem remember_expectedSequence (w : PacketWindow) (n : U64) :
    (w.remember n).expectedSequence = w.expectedSequence := by
  unfold remember
  split_ifs
  · rfl
  · rfl
  · dsimp only
    split_ifs <;> simp

@[simp]
theorem remember_cacheCapacity (w : PacketWindow) (n : U64) :
    (w.remember n).cacheCapacity = w.cacheCapacity := by
  unfold remember
  split_ifs
  · rfl
  · rfl
  · dsimp only
    split_ifs <;> simp

@[simp]
theorem advance_expectedSequence (w : PacketWindow) (n : U64) :
    (w.advance n).2.expectedSequence = some (nextWatermark w.expectedSequence n) := by
  simp [advance, passWatermark]

@[simp]
theorem advance_cacheCapacity (w : PacketWindow) (n : U64) :
    (w.advance n).2.cacheCapacity = w.cacheCapacity := by
  simp [advance, passWatermark]

/-! ## Admission -/

/-- A number is admitted exactly when it is not in the duplicate cache and not
below the watermark. -/
theorem admitSequence_ok_iff {w : PacketWindow} {n : U64} :
    (w.admitSequence n).1 = .ok () ↔
      n ∉ w.seenSet ∧ ∀ expected, w.expectedSequence = some expected → expected ≤ n := by
  unfold admitSequence
  by_cases hseen : n ∈ w.seenSet
  · simp [hseen]
  · cases hexpected : w.expectedSequence with
    | none => simp [hseen]
    | some expected =>
        by_cases hlt : n < expected
        · simp [hseen, hlt]
        · by_cases heq : n = expected
          · subst heq
            simp [hseen]
          · simp [hseen, hlt, heq, not_lt.mp hlt]

/-! ## The duplicate cache -/

/-- The set mirrors the cache, which holds distinct numbers within its
capacity. -/
structure CacheInvariant (w : PacketWindow) : Prop where
  mirrors : w.seenSet = w.seenCache.toFinset
  nodup : w.seenCache.Nodup
  bounded : w.seenCache.length ≤ w.cacheCapacity

theorem new_cacheInvariant (capacity : Nat) (missing : U64) :
    (new capacity missing).CacheInvariant where
  mirrors := rfl
  nodup := List.nodup_nil
  bounded := Nat.zero_le capacity

theorem admitSequence_cacheInvariant {w : PacketWindow} (h : w.CacheInvariant) (n : U64) :
    (w.admitSequence n).2.CacheInvariant where
  mirrors := by simpa using h.mirrors
  nodup := by simpa using h.nodup
  bounded := by simpa using h.bounded

theorem remember_cacheInvariant {w : PacketWindow} (h : w.CacheInvariant) (n : U64) :
    (w.remember n).CacheInvariant := by
  unfold remember
  split_ifs with hzero hseen
  · exact h
  · exact h
  · have hfresh : n ∉ w.seenCache := by
      simpa [h.mirrors] using hseen
    have hnodup : (w.seenCache ++ [n]).Nodup :=
      List.nodup_append'.mpr
        ⟨h.nodup, List.nodup_singleton n, List.disjoint_singleton.mpr hfresh⟩
    have hmirrors : insert n w.seenSet = (w.seenCache ++ [n]).toFinset := by
      ext j
      simp [h.mirrors]
    dsimp only
    split_ifs with hfull
    · cases hcache : w.seenCache with
      | nil =>
          simp [hcache] at hfull
          omega
      | cons oldest rest =>
          rw [hcache, List.cons_append] at hnodup hmirrors
          have hbounded := h.bounded
          refine ⟨?_, ?_, ?_⟩
          · have hrest : oldest ∉ (rest ++ [n]).toFinset :=
              fun hmem => (List.nodup_cons.mp hnodup).1 (List.mem_toFinset.mp hmem)
            simp only [evictOldest, List.cons_append]
            rw [hmirrors, List.toFinset_cons, Finset.erase_insert hrest]
          · exact (List.nodup_cons.mp hnodup).2
          · simp [evictOldest, hcache] at hbounded ⊢
            omega
    · exact ⟨hmirrors, hnodup, not_lt.mp hfull⟩

/-- With room for at least one number, the cache holds what was delivered last. -/
theorem mem_remember {w : PacketWindow} (h : w.CacheInvariant) (hpos : 0 < w.cacheCapacity)
    (n : U64) : n ∈ (w.remember n).seenSet := by
  unfold remember
  rw [if_neg hpos.ne']
  split_ifs with hseen
  · exact hseen
  · dsimp only
    split_ifs with hfull
    · cases hcache : w.seenCache with
      | nil =>
          simp [hcache] at hfull
          omega
      | cons oldest rest =>
          have hold : oldest ∈ w.seenSet := by
            simp [h.mirrors, hcache]
          have hne : n ≠ oldest := fun heq => hseen (heq ▸ hold)
          simp [evictOldest, hne]
    · exact Finset.mem_insert_self n w.seenSet

/-! ## The delivery watermark -/

/-- A delivered number never becomes admissible again: it lies below the
watermark, or the saturated watermark stands at it and the cache remembers it. -/
def Settled (w : PacketWindow) (n : U64) : Prop :=
  ∃ expected, w.expectedSequence = some expected ∧
    (n < expected ∨ (n = expected ∧ n ∈ w.seenSet))

/-- An admitted number lies above every settled one. -/
theorem lt_of_settled_of_admitted {w : PacketWindow} {d n : U64} (hsettled : w.Settled d)
    (hadmission : (w.admitSequence n).1 = .ok ()) : d < n := by
  rcases hsettled with ⟨expected, hexpected, hpassed⟩
  rcases admitSequence_ok_iff.mp hadmission with ⟨hfresh, hahead⟩
  have hle : expected ≤ n := hahead expected hexpected
  rcases hpassed with hlt | ⟨rfl, hseen⟩
  · exact lt_of_lt_of_le hlt hle
  · exact lt_of_le_of_ne hle fun heq => hfresh (heq ▸ hseen)

/-- Admission changes no settled number. -/
theorem admitSequence_settled {w : PacketWindow} {d : U64} (h : w.Settled d) (n : U64) :
    (w.admitSequence n).2.Settled d := by
  simpa [Settled] using h

theorem le_nextWatermark (expected : Option U64) (n : U64) :
    n.saturatingSucc ≤ nextWatermark expected n := by
  cases expected with
  | none => exact le_rfl
  | some e => exact le_max_right e n.saturatingSucc

/-- Everything below a delivered number is settled by that delivery. -/
theorem advance_settled_of_lt {w : PacketWindow} {d n : U64} (hlt : d < n) :
    (w.advance n).2.Settled d := by
  refine ⟨nextWatermark w.expectedSequence n, advance_expectedSequence w n, Or.inl ?_⟩
  exact hlt.trans_le ((U64.le_saturatingSucc n).trans (le_nextWatermark _ n))

theorem passWatermark_cacheInvariant {w : PacketWindow} (h : w.CacheInvariant) (n : U64) :
    (w.passWatermark n).CacheInvariant where
  mirrors := h.mirrors
  nodup := h.nodup
  bounded := h.bounded

theorem advance_cacheInvariant {w : PacketWindow} (h : w.CacheInvariant) (n : U64) :
    (w.advance n).2.CacheInvariant :=
  remember_cacheInvariant (passWatermark_cacheInvariant h n) n

/-- A delivery settles the delivered number. -/
theorem advance_settled_self {w : PacketWindow} (hcache : w.CacheInvariant)
    (hpos : 0 < w.cacheCapacity) (n : U64) : (w.advance n).2.Settled n := by
  refine ⟨nextWatermark w.expectedSequence n, advance_expectedSequence w n, ?_⟩
  by_cases hlt : n < n.saturatingSucc
  · exact Or.inl (hlt.trans_le (le_nextWatermark _ n))
  · -- The watermark saturates, so only the cache tells the number apart.
    have htop : ∀ m : U64, m ≤ n := fun m => U64.le_of_saturatingSucc_le (not_lt.mp hlt)
    have hmark : nextWatermark w.expectedSequence n = n :=
      le_antisymm (htop _) ((U64.le_saturatingSucc n).trans (le_nextWatermark _ n))
    exact Or.inr
      ⟨hmark.symm, mem_remember (passWatermark_cacheInvariant hcache n) hpos n⟩

end PacketWindow
end Buffer
end EchoSync
