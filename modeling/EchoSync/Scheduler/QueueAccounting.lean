import EchoSync.Scheduler.DueRelease

/-!
# Playback Scheduler - Accounting of the queue

The queue and the counters have locks of their own, so they agree only up to the calls
that are between the two.  The log is what both are compared with: it lists the packets
that entered and left the queue and the calls that were counted.

Main results:

- Theorem {lit}`proceed_accounts` and theorem {lit}`run_accounts`: in every state of
  every run, each inserted packet is in the queue or left it once, and the counters lag
  behind by the calls between the two locks.
- Theorem {lit}`accounts_at_rest`: with no call in flight, the counters account for all
  packets.
-/

namespace EchoSync
namespace Scheduler

open Streaming Sync TransitionSystem

namespace PlaybackQueue

/-- A cancelled packet is the only one with its id. -/
theorem cancel_one {q : PlaybackQueue} (hq : q.IdInvariant) {packetId : U64}
    (hmem : packetId ∈ q.ids) :
    (q.heap.toList.filter fun item => decide (item.packet.packetId = packetId)).length = 1 := by
  have hcount : (q.heap.toList.map fun item => item.packet.packetId).count packetId = 1 := by
    rcases (hq.mirrors packetId).mp hmem with ⟨item, hitem, hid⟩
    apply List.count_eq_one_of_mem hq.distinct
    exact List.mem_map.mpr ⟨item, hitem, hid⟩
  rw [← List.countP_eq_length_filter, ← hcount, List.count, List.countP_map]
  apply List.countP_congr
  intro item _
  simp

/-- A cancellation parts the queue. -/
theorem cancel_perm {q : PlaybackQueue} {packetId : U64} (hmem : packetId ∈ q.ids) :
    ((q.heap.toList.filter fun item => decide (item.packet.packetId = packetId)) ++
      (q.cancel packetId).2.heap.toList).Perm q.heap.toList := by
  have hparts := List.filter_append_perm
    (fun item : ScheduledPacket => decide (item.packet.packetId = packetId)) q.heap.toList
  simpa [cancel, hmem, PriorityQueue.filter] using hparts

end PlaybackQueue

namespace SchedulerTasks

/-! ## The log -/

/-- The packets that entered the queue. -/
def inserted (log : List LogEvent) : List ScheduledPacket :=
  log.flatMap LogEvent.inserted

/-- The packets that left the queue. -/
def removed (log : List LogEvent) : List ScheduledPacket :=
  log.flatMap LogEvent.removed

/-- The packets that left the queue when it was cleared. -/
def cleared (log : List LogEvent) : List ScheduledPacket :=
  log.flatMap LogEvent.clearedItems

/-- The packets that left the queue with a call that panicked before it counted them. -/
def lost (log : List LogEvent) : Nat :=
  log.countP LogEvent.isLost

@[simp]
theorem inserted_append (log events : List LogEvent) :
    inserted (log ++ events) = inserted log ++ inserted events :=
  List.flatMap_append

@[simp]
theorem removed_append (log events : List LogEvent) :
    removed (log ++ events) = removed log ++ removed events :=
  List.flatMap_append

@[simp]
theorem cleared_append (log events : List LogEvent) :
    cleared (log ++ events) = cleared log ++ cleared events :=
  List.flatMap_append

/-! ## Accounts -/

/-- The packets in the queue, the counters and the calls in flight agree with the log. -/
structure Accounts (r : SchedulerTasks) : Prop where
  ids : r.scheduler.queue.IdInvariant
  conserved : (inserted r.log : Multiset ScheduledPacket) =
    removed r.log + r.scheduler.queue.heap.toList
  scheduled : r.scheduler.stats.packetsScheduled = r.log.countP LogEvent.isCounted
  played : r.scheduler.stats.packetsPlayed = r.log.countP LogEvent.isPlayed
  uncounted : (inserted r.log).length =
    r.log.countP LogEvent.isCounted + r.calls.countP fun c => c.phase.uncounted
  unplayed : (removed r.log).length =
    r.log.countP LogEvent.isPlayed + lost r.log + (cleared r.log).length +
      r.calls.countP (fun c => c.phase.holding) +
      r.calls.countP fun c => c.phase.cancelledPacket

section Steps

variable {profile : BuildProfile} {r r' : SchedulerTasks} {i : Nat} {c : SchedulerTask}
  {second : Instant} {effect : SectionEffect}

/-- The calls with a property, when one call goes on to its next phase. -/
theorem countP_proceed (hc : r.calls[i]? = some c) (p : SchedulerPhase → Bool) :
    (r.proceed i c second effect).calls.countP (fun c => p c.phase) + (p c.phase).toNat =
      r.calls.countP (fun c => p c.phase) + (p effect.phase).toNat :=
  TaskPool.countP_set_add (fun c : SchedulerTask => p c.phase) hc

/-- The accounts after a section, from what the section adds to the log and what its call
owes to the log before and after it. -/
theorem Accounts.of_section (h : r.Accounts) (hc : r.calls[i]? = some c)
    (hids : effect.scheduler.queue.IdInvariant)
    (hqueue : (inserted effect.events ++ r.scheduler.queue.heap.toList).Perm
      (removed effect.events ++ effect.scheduler.queue.heap.toList))
    (hscheduled : effect.scheduler.stats.packetsScheduled =
      r.scheduler.stats.packetsScheduled + effect.events.countP LogEvent.isCounted)
    (hplayed : effect.scheduler.stats.packetsPlayed =
      r.scheduler.stats.packetsPlayed + effect.events.countP LogEvent.isPlayed)
    (huncounted : (inserted effect.events).length + c.phase.uncounted.toNat =
      effect.events.countP LogEvent.isCounted + effect.phase.uncounted.toNat)
    (hunplayed : (removed effect.events).length + c.phase.holding.toNat +
        c.phase.cancelledPacket.toNat =
      effect.events.countP LogEvent.isPlayed + lost effect.events +
        (cleared effect.events).length + effect.phase.holding.toNat +
        effect.phase.cancelledPacket.toNat) :
    (r.proceed i c second effect).Accounts where
  ids := hids
  conserved := by
    have hboth := Multiset.coe_eq_coe.mpr hqueue
    simp only [← Multiset.coe_add] at hboth
    simp only [proceed, inserted_append, removed_append, ← Multiset.coe_add, h.conserved]
    rw [Multiset.add_assoc, Multiset.add_assoc, ← hboth]
    exact congrArg _ (Multiset.add_comm _ _)
  scheduled := by
    simp only [proceed, List.countP_append, hscheduled, h.scheduled]
  played := by
    simp only [proceed, List.countP_append, hplayed, h.played]
  uncounted := by
    have hbefore := h.uncounted
    have hcalls := @countP_proceed r i c second effect hc SchedulerPhase.uncounted
    have hlog : (r.proceed i c second effect).log = r.log ++ effect.events := rfl
    rw [hlog, inserted_append, List.countP_append, List.length_append]
    omega
  unplayed := by
    have hbefore := h.unplayed
    have hholding := @countP_proceed r i c second effect hc SchedulerPhase.holding
    have hcancelled := @countP_proceed r i c second effect hc SchedulerPhase.cancelledPacket
    have hlog : (r.proceed i c second effect).log = r.log ++ effect.events := rfl
    rw [lost] at hbefore hunplayed ⊢
    rw [hlog, removed_append, cleared_append, List.countP_append, List.countP_append,
      List.length_append, List.length_append]
    omega

/-- Every section keeps the accounts. -/
theorem proceed_accounts (h : r.Accounts) (hc : r.calls[i]? = some c)
    (hexec : Executed profile r second c.phase effect) :
    (r.proceed i c second effect).Accounts := by
  have hsection := @h.of_section _ _ _ second effect hc
  generalize c.phase = phase at hexec hsection
  cases hexec with
  | plain hphase hplain hs =>
      apply hsection
      · exact hs.queue ▸ h.ids
      · exact .of_eq (congrArg (fun q : PlaybackQueue => q.heap.toList) hs.queue.symm)
      · exact hs.scheduled
      · exact hs.played
      · rw [hphase.1, hplain.uncounted]
        rfl
      · rw [hphase.2.1, hphase.2.2, hplain.holding, hplain.cancelledPacket]
        rfl
  | restart =>
      have hqueue : (r.scheduler.resetTimeline second).2.queue = r.scheduler.queue := by
        unfold PlaybackScheduler.resetTimeline
        split_ifs <;> rfl
      have hstats : (r.scheduler.resetTimeline second).2.stats = r.scheduler.stats := by
        unfold PlaybackScheduler.resetTimeline
        split_ifs <;> rfl
      apply hsection
      · exact hqueue ▸ h.ids
      · exact .of_eq (congrArg (fun q : PlaybackQueue => q.heap.toList) hqueue.symm)
      · exact congrArg (fun t : StatisticsTracker => t.packetsScheduled) hstats
      · exact congrArg (fun t : StatisticsTracker => t.packetsPlayed) hstats
      · rfl
      · rfl
  | insert hok =>
      apply hsection
      · exact PlaybackQueue.enqueue_idInvariant h.ids hok
      · rcases PlaybackQueue.enqueue_ok hok with ⟨-, rfl⟩
        exact (r.scheduler.queue.heap.insert_perm _).symm
      · rfl
      · rfl
      · rfl
      · rfl
  | count diffMs => exact hsection h.ids (.refl _) rfl rfl rfl rfl
  | readTime hnow => exact hsection h.ids (.refl _) rfl rfl rfl rfl
  | take htaken hdue =>
      apply hsection
      · exact PlaybackQueue.dequeue_idInvariant h.ids htaken
      · rcases PlaybackQueue.dequeue_some htaken with ⟨hpeek, rfl⟩
        exact .of_eq (PriorityQueue.toList_of_peek hpeek)
      · rfl
      · rfl
      · rfl
      · rfl
  | play offsetMs => exact hsection h.ids (.refl _) rfl rfl rfl rfl
  | lose hnone => exact hsection h.ids (.refl _) rfl rfl rfl rfl
  | @cancel packetId hmem =>
      have hone := PlaybackQueue.cancel_one h.ids hmem
      apply hsection
      · exact PlaybackQueue.cancel_idInvariant h.ids packetId
      · simpa [inserted, removed, LogEvent.inserted, LogEvent.removed,
          PlaybackScheduler.cancelPacket] using (PlaybackQueue.cancel_perm hmem).symm
      · rfl
      · rfl
      · rfl
      · simpa [removed, lost, cleared, LogEvent.removed, LogEvent.isLost, LogEvent.isPlayed,
          LogEvent.clearedItems, SchedulerPhase.holding, SchedulerPhase.cancelledPacket] using hone
  | clear =>
      apply hsection
      · exact r.scheduler.queue.clear_idInvariant
      · simp [inserted, removed, LogEvent.inserted, LogEvent.removed, PlaybackScheduler.clear,
          PlaybackQueue.clear]
      · rfl
      · rfl
      · rfl
      · simp [removed, lost, cleared, LogEvent.removed, LogEvent.isLost, LogEvent.isPlayed,
          LogEvent.clearedItems, SchedulerPhase.holding, SchedulerPhase.cancelledPacket]
  | readOccupancy => exact hsection h.ids (.refl _) rfl rfl rfl rfl
  | readCounters occupancy before => exact hsection h.ids (.refl _) rfl rfl rfl rfl

/-- Every step keeps the accounts. -/
theorem step_accounts {action : Action} (h : r.Accounts)
    (hstep : step profile r action = some r') : r'.Accounts := by
  rcases step_eq_some.mp hstep with ⟨call, -, rfl⟩ | ⟨i, first, second, c, effect, -, -, hc,
    hexecute, rfl⟩ | ⟨s, -, rfl⟩
  · have hplain := entry_plain call
    exact
      { h with
        uncounted := by simpa [List.countP_append, hplain.uncounted] using h.uncounted
        unplayed := by
          simpa [List.countP_append, hplain.holding, hplain.cancelledPacket] using h.unplayed }
  · exact proceed_accounts h hc (execute_executed hexecute)
  · exact ⟨h.ids, h.conserved, h.scheduled, h.played, h.uncounted, h.unplayed⟩

/-! ## Lost packets -/

/-- A release does not panic on a time below half the range. -/
theorem i64Result_of_due {profile : BuildProfile} {deadline now : Duration}
    (hdue : deadline ≤ now) (hnow : now.nanos < 2 ^ 63 * nanosPerMilli) :
    i64Result profile (asI64 now.asMillis - asI64 deadline.asMillis) ≠ none := by
  have hmillis := Duration.asMillis_mono hdue
  have hfits : now.asMillis < 2 ^ 63 := Nat.div_lt_of_lt_mul (by rwa [Nat.mul_comm])
  rw [asI64_of_lt hfits, asI64_of_lt (hmillis.trans_lt hfits),
    i64Result_of_mem (by omega) (by omega)]
  simp

/-- A step loses no packet in a build without overflow checks, nor while the clock is below
half the range. -/
theorem step_lost {action : Action} (hinformed : ∀ c ∈ r.calls, Informed r c)
    (hstep : step profile r action = some r')
    (hsafe : profile.overflowChecks = false ∨ r.clock.nanos < 2 ^ 63 * nanosPerMilli) :
    lost r'.log = lost r.log := by
  rcases step_eq_some.mp hstep with ⟨call, -, rfl⟩ | ⟨i, first, second, c, effect, -, -, hc,
    hexecute, rfl⟩ | ⟨s, -, rfl⟩
  · rfl
  · have hexec := execute_executed hexecute
    have hknows := (hinformed c (List.mem_of_getElem? hc)).knows
    have hlost : lost (r.proceed i c second effect).log = lost r.log + lost effect.events :=
      List.countP_append
    rw [hlost]
    unfold Knows at hknows
    generalize c.phase = phase at hexec hknows
    cases hexec with
    | lose hnone =>
        rcases hsafe with hwraps | hclock
        · exact absurd hnone (i64Result_ne_none hwraps _)
        · exact absurd hnone (i64Result_of_due hknows.2.2 (hknows.1.1.trans_lt hclock))
    | _ => rfl
  · rfl

end Steps

/-! ## Runs -/

section Runs

variable {profile : BuildProfile} {config : SchedulerConfig} {synchronizer : Synchronizer}
  {created : Instant} {s : PlaybackScheduler} {actions : List Action} {r : SchedulerTasks}

theorem initial_accounts (config : SchedulerConfig) (synchronizer : Synchronizer)
    (created : Instant) :
    (initial (PlaybackScheduler.ofConfig config synchronizer created) created).Accounts where
  ids := PlaybackQueue.new_idInvariant _
  conserved := rfl
  scheduled := rfl
  played := rfl
  uncounted := rfl
  unplayed := rfl

/-- In every run, the accounts hold. -/
theorem run_accounts (hnew : PlaybackScheduler.new config synchronizer created = .ok s)
    (hrun : run (step profile) (initial s created) actions = some r) : r.Accounts := by
  rcases PlaybackScheduler.new_eq_ok_iff.mp hnew with ⟨-, rfl⟩
  exact run_invariant Accounts (fun _ _ _ h hstep => step_accounts h hstep)
    (initial_accounts config synchronizer created) hrun

/-- In every run, no packet is lost in a build without overflow checks, nor while the clock
is below half the range of the signed milliseconds. -/
theorem run_lost (hrun : run (step profile) (initial s created) actions = some r)
    (hsafe : profile.overflowChecks = false ∨ r.clock.nanos < 2 ^ 63 * nanosPerMilli) :
    lost r.log = 0 := by
  have hkept : (∀ c ∈ r.calls, Informed r c) ∧
      (profile.overflowChecks = false ∨ r.clock.nanos < 2 ^ 63 * nanosPerMilli →
        lost r.log = 0) := by
    refine run_invariant (fun r => (∀ c ∈ r.calls, Informed r c) ∧
      (profile.overflowChecks = false ∨ r.clock.nanos < 2 ^ 63 * nanosPerMilli →
        lost r.log = 0)) ?_ ⟨by simp [initial], fun _ => rfl⟩ hrun
    rintro r action r' ⟨hinformed, hlost⟩ hstep
    refine ⟨step_informed hinformed hstep, ?_⟩
    intro hsafe
    have hclocks : r.clock.nanos ≤ r'.clock.nanos :=
      Instant.le_iff_nanos.mp (step_later hstep).clock
    have hbefore : profile.overflowChecks = false ∨ r.clock.nanos < 2 ^ 63 * nanosPerMilli :=
      hsafe.imp_right hclocks.trans_lt
    rw [step_lost hinformed hstep hbefore, hlost hbefore]
  exact hkept.2 hsafe

/-- No call in flight. -/
def AtRest (r : SchedulerTasks) : Prop :=
  ∀ c ∈ r.calls, c.phase.finished = true

instance (r : SchedulerTasks) : Decidable r.AtRest :=
  inferInstanceAs (Decidable (∀ c ∈ r.calls, c.phase.finished = true))

/-- At rest, no call owes anything to the log. -/
theorem AtRest.countP_eq_zero (h : r.AtRest) {p : SchedulerPhase → Bool}
    (hp : ∀ phase, phase.finished = true → p phase = false) :
    r.calls.countP (fun c => p c.phase) = 0 := by
  rw [List.countP_eq_zero]
  intro c hc
  simp [hp c.phase (h c hc)]

/-- In every run of any number of calls: the packets that entered the queue are those that
left it, each once, and those in it; with no call in flight, the packets counted as
scheduled are the ones counted as played, cancelled by a call that answered so, removed by
a clear, still queued, or lost by a release that panicked; and no release panics in a build
without overflow checks, nor while the clock is below half the range of the signed
milliseconds. -/
theorem accounts_at_rest (hnew : PlaybackScheduler.new config synchronizer created = .ok s)
    (hrun : run (step profile) (initial s created) actions = some r) :
    ((inserted r.log : Multiset ScheduledPacket) =
        removed r.log + r.scheduler.queue.heap.toList) ∧
      (r.AtRest → r.scheduler.stats.packetsScheduled =
        r.scheduler.stats.packetsPlayed + r.calls.countP (fun c => c.phase.cancelledPacket) +
          (cleared r.log).length + r.scheduler.queue.size + lost r.log) ∧
      (profile.overflowChecks = false ∨ r.clock.nanos < 2 ^ 63 * nanosPerMilli →
        lost r.log = 0) := by
  have haccounts := run_accounts hnew hrun
  refine ⟨haccounts.conserved, ?_, run_lost hrun⟩
  intro hrest
  have huncounted := haccounts.uncounted
  have hunplayed := haccounts.unplayed
  rw [hrest.countP_eq_zero (p := SchedulerPhase.uncounted) (by
    intro phase hfinished
    cases phase <;> first | rfl | contradiction)] at huncounted
  rw [hrest.countP_eq_zero (p := SchedulerPhase.holding) (by
    intro phase hfinished
    cases phase <;> first | rfl | contradiction)] at hunplayed
  have hsizes := congrArg Multiset.card haccounts.conserved
  rw [Multiset.card_add, Multiset.coe_card, Multiset.coe_card, Multiset.coe_card] at hsizes
  rw [haccounts.scheduled, haccounts.played, PlaybackQueue.size, PriorityQueue.length]
  omega

/-- A packet that is taken, cancelled, cleared or left in the queue: four scheduling calls
and one call of each kind. -/
def emptyQueue : List Action :=
  scheduleOne 6 ++ [.invoke (.cancelPacket 1)] ++ sections 2 1 (Instant.ofMillis 0) ++
    [.invoke (.schedulePacket (makePacket 2 1 0))] ++ sections 3 6 (Instant.ofMillis 0) ++
    [.invoke .nextPacket] ++ sections 4 4 (Instant.ofMillis 150) ++
    [.invoke (.schedulePacket (makePacket 3 2 0))] ++ sections 5 6 (Instant.ofMillis 150) ++
    [.invoke .clear] ++ sections 6 1 (Instant.ofMillis 150) ++
    [.invoke (.schedulePacket (makePacket 4 3 0))] ++ sections 7 6 (Instant.ofMillis 150)

/-- The accounts of a run with one packet in each place. -/
theorem accounts_at_rest_each :
    ∃ r, run (step ⟨true⟩) atZero emptyQueue = some r ∧
      (r.scheduler.stats.packetsPlayed = 1 ∧ (cleared r.log).length = 1 ∧
        r.scheduler.queue.size = 1) ∧
      r.scheduler.stats.packetsScheduled =
        1 + r.calls.countP (fun c => c.phase.cancelledPacket) + 1 + 1 := by
  have hrun : (run (step ⟨true⟩) atZero emptyQueue).any
      (fun r => decide (r.AtRest ∧ r.clock.nanos < 2 ^ 63 * nanosPerMilli ∧
        r.scheduler.stats.packetsPlayed = 1 ∧ (cleared r.log).length = 1 ∧
        r.scheduler.queue.size = 1)) = true := by
    decide +kernel
  rcases exists_of_any hrun with ⟨r, hr, hrest, hclock, hplayed, hcleared, hsize⟩
  rcases accounts_at_rest atZero_new hr with ⟨-, hscheduled, hlost⟩
  refine ⟨r, hr, ⟨hplayed, hcleared, hsize⟩, ?_⟩
  rw [hscheduled hrest, hplayed, hcleared, hsize, hlost (Or.inr hclock)]

/-- In a checked build, a packet released half the range after its deadline is lost: no
call is in flight, and nothing accounts for it. -/
theorem release_loses_packet :
    ∃ r, run (step ⟨true⟩) atZero
        (scheduleOne 6 ++ [.invoke .nextPacket] ++ sections 2 4 (Instant.ofMillis (2 ^ 63))) =
          some r ∧
      r.AtRest ∧ r.scheduler.stats.packetsScheduled = 1 ∧
      r.scheduler.stats.packetsPlayed = 0 ∧
      r.calls.countP (fun c => c.phase.cancelledPacket) = 0 ∧ (cleared r.log).length = 0 ∧
      r.scheduler.queue.size = 0 := by
  refine exists_of_any ?_
  decide +kernel

end Runs

end SchedulerTasks
end Scheduler
end EchoSync
