import EchoSync.Scheduler.Tasks

/-!
# Playback Scheduler - Uninterrupted calls

A call of the sequential model is atomic, and a call of a task is cut at its sections.
The two models share the sections; a call whose sections follow each other without a step
of another call does what the sequential call does.

Main results:

- Theorem {lit}`schedulePacket_sections`: scheduling calls.
- Theorem {lit}`nextPacket_sections`: release calls.
-/

namespace EchoSync
namespace Scheduler

open Streaming Sync TransitionSystem

namespace SchedulerTasks

/-- Some sections of one call, not interrupted by other steps, end with this scheduler and
in this phase of the call. -/
def Completes (profile : BuildProfile) (r : SchedulerTasks) (i : Nat) (s : PlaybackScheduler)
    (ends : SchedulerPhase → Prop) : Prop :=
  ∃ actions r', (∀ action ∈ actions, ∃ first second, action = .call i first second) ∧
    run (step profile) r actions = some r' ∧ r'.scheduler = s ∧
    ∃ c, r'.calls[i]? = some c ∧ ends c.phase

section Uninterrupted

variable {profile : BuildProfile} {r : SchedulerTasks} {i : Nat} {c : SchedulerTask}
  {first second : Instant} {s : PlaybackScheduler} {effect : SectionEffect}
  {ends : SchedulerPhase → Prop}

theorem Completes.done (hc : r.calls[i]? = some c) (hends : ends c.phase) :
    Completes profile r i r.scheduler ends :=
  ⟨[], r, by simp, rfl, rfl, c, hc, hends⟩

/-- A call completes if it does so after its next section. -/
theorem Completes.of_section (hc : r.calls[i]? = some c) (hclock : r.clock ≤ first)
    (hle : first ≤ second) (hexecute : r.execute profile c.phase first second = some effect)
    (hrest : Completes profile (r.proceed i c second effect) i s ends) :
    Completes profile r i s ends := by
  rcases hrest with ⟨actions, r', hcalls, hrun, hend⟩
  refine ⟨.call i first second :: actions, r', ?_, ?_, hend⟩
  · intro action haction
    rcases List.mem_cons.mp haction with rfl | hlater
    · exact ⟨first, second, rfl⟩
    · exact hcalls action hlater
  · rw [run_cons_eq_some]
    refine ⟨r.proceed i c second effect, ?_, hrun⟩
    simp [step, hclock, hle, hc, hexecute]

theorem proceed_call (hc : r.calls[i]? = some c) :
    (r.proceed i c second effect).calls[i]? = some { c with phase := effect.phase } := by
  have hlength := (List.getElem?_eq_some_iff.mp hc).1
  simp [proceed, List.getElem?_set_self hlength]

/-- A call completes with its next section. -/
theorem Completes.of_last (hc : r.calls[i]? = some c) (hclock : r.clock ≤ first)
    (hle : first ≤ second) (hexecute : r.execute profile c.phase first second = some effect)
    (hends : ends effect.phase) : Completes profile r i effect.scheduler ends :=
  .of_section hc hclock hle hexecute (.done (proceed_call hc) hends)

/-- How the phase of a scheduling call shows what it answers. -/
def EndsSchedule : Outcome SchedulerError Unit → SchedulerPhase → Prop
  | .ok _, phase => phase = .returned (.unit (.ok ()))
  | .err e, phase => phase = .returned (.unit (.error e))
  | .panicked, phase => phase = .panicked

/-- From its queue section on, an uninterrupted scheduling call accepts or refuses its
packet as the sequential call does. -/
theorem accept_sections {item : ScheduledPacket} {diffMs : Int} (hc : r.calls[i]? = some c)
    (hphase : c.phase = .scheduleEnqueue item diffMs) (hclock : r.clock ≤ second) :
    Completes profile r i (r.scheduler.accept item (diffMs.natAbs : ℚ)).2
      (EndsSchedule (r.scheduler.accept item (diffMs.natAbs : ℚ)).1) := by
  rcases henqueue : r.scheduler.enqueueItem item with ⟨result, s⟩
  cases result with
  | error e =>
      have hexecute : r.execute profile c.phase second second =
          some ⟨s, [], .returned (.unit (.error e))⟩ := by
        simp [hphase, execute, henqueue]
      simp only [PlaybackScheduler.accept, henqueue]
      exact .of_last hc hclock le_rfl hexecute rfl
  | ok _ =>
      have hexecute : r.execute profile c.phase second second =
          some ⟨s, [.accepted item], .scheduleCount diffMs⟩ := by
        simp [hphase, execute, henqueue]
      simp only [PlaybackScheduler.accept, henqueue]
      have hcount : (r.proceed i c second ⟨s, [.accepted item], .scheduleCount diffMs⟩).execute
          profile (.scheduleCount diffMs) second second = some ⟨s.recordScheduled
            (diffMs.natAbs : ℚ), [.counted], .returned (.unit (.ok ()))⟩ := rfl
      apply Completes.of_section hc hclock le_rfl hexecute
      exact .of_last (proceed_call hc) le_rfl le_rfl hcount rfl

/-- From its classification on, an uninterrupted scheduling call treats its packet as the
sequential call does. -/
theorem submit_sections {packet : AudioPacket} {deadline now : Duration}
    (hc : r.calls[i]? = some c) (hphase : c.phase = .scheduleClassify packet deadline now)
    (hclock : r.clock ≤ second) :
    Completes profile r i (r.scheduler.submit profile packet deadline now).2
      (EndsSchedule (r.scheduler.submit profile packet deadline now).1) := by
  rcases hclassify : classify profile r.scheduler.config deadline now with _ | ⟨diffMs, lateness⟩
  · have hexecute : r.execute profile c.phase second second =
        some ⟨r.scheduler, [], .panicked⟩ := by
      simp [hphase, execute, hclassify]
    simp only [PlaybackScheduler.submit, hclassify]
    exact .of_last hc hclock le_rfl hexecute rfl
  · cases lateness with
    | expired lateByMs =>
        have hexecute : r.execute profile c.phase second second =
            some ⟨r.scheduler.recordLateness (.expired lateByMs), [], .returned
              (.unit (.error (.packetExpired packet.packetId lateByMs)))⟩ := by
          simp [hphase, execute, hclassify]
        simp only [PlaybackScheduler.submit, hclassify]
        exact .of_last hc hclock le_rfl hexecute rfl
    | _ =>
        simp only [PlaybackScheduler.submit, hclassify]
        refine Completes.of_section hc hclock le_rfl (by
          simp only [hphase, execute, hclassify]
          rfl) ?_
        exact accept_sections (proceed_call hc) rfl le_rfl

/-- An uninterrupted scheduling call is the sequential one. -/
theorem schedulePacket_sections {packet : AudioPacket} (hc : r.calls[i]? = some c)
    (hphase : c.phase = .scheduleCheck packet) (hclock : r.clock ≤ first) (hle : first ≤ second) :
    Completes profile r i (r.scheduler.schedulePacket profile packet first second).2
      (EndsSchedule (r.scheduler.schedulePacket profile packet first second).1) := by
  cases hrunning : r.scheduler.running with
  | false =>
      have hexecute : r.execute profile c.phase first first =
          some ⟨r.scheduler, [], .returned (.unit (.error .notStarted))⟩ := by
        simp [hphase, execute, hrunning]
      simp only [PlaybackScheduler.schedulePacket, hrunning]
      exact .of_last hc hclock le_rfl hexecute rfl
  | true =>
      have hexecute : r.execute profile c.phase first first =
          some ⟨r.scheduler, [], .scheduleOffset packet⟩ := by
        simp [hphase, execute, hrunning]
      simp only [PlaybackScheduler.schedulePacket, hrunning, if_true]
      apply Completes.of_section hc hclock le_rfl hexecute
      have hoffset : (r.proceed i c first ⟨r.scheduler, [], .scheduleOffset packet⟩).execute profile
          (.scheduleOffset packet) first first = some ⟨r.scheduler, [], .scheduleDeadline packet
            (adjustedTimestampMs packet r.scheduler.synchronizer.currentOffset)⟩ := rfl
      apply Completes.of_section (proceed_call hc) le_rfl le_rfl hoffset
      have hcall := @proceed_call _ i _ first ⟨r.scheduler, [], .scheduleDeadline packet
        (adjustedTimestampMs packet r.scheduler.synchronizer.currentOffset)⟩
        (@proceed_call r i c first ⟨r.scheduler, [], .scheduleOffset packet⟩ hc)
      rcases hassign : r.scheduler.assignDeadline (adjustedTimestampMs packet
        r.scheduler.synchronizer.currentOffset) first second with ⟨result, s⟩
      cases result with
      | err e =>
          refine Completes.of_last hcall le_rfl hle
            (show _ = some (⟨s, [], .returned (.unit (.error e))⟩ : SectionEffect) from ?_) rfl
          simp [proceed, execute, hassign]
      | panicked =>
          refine Completes.of_last hcall le_rfl hle
            (show _ = some (⟨s, [], .panicked⟩ : SectionEffect) from ?_) rfl
          simp [proceed, execute, hassign]
      | ok times =>
          refine Completes.of_section hcall le_rfl hle (show _ = some
            (⟨s, [], .scheduleClassify packet times.1 times.2⟩ : SectionEffect) from ?_) ?_
          · simp [proceed, execute, hassign]
          · exact submit_sections (proceed_call hcall) rfl le_rfl

/-- How the phase of a release call shows what it answers. -/
def EndsNext : Outcome SchedulerError (Option AudioPacket) → SchedulerPhase → Prop
  | .ok none, phase => phase = .returned .nothing
  | .ok (some packet), phase => ∃ x, phase = .returned (.packet x) ∧ x.taken.item.packet = packet
  | .err e, phase => phase = .returned (.refused e)
  | .panicked, phase => phase = .panicked

/-- From its queue section on, an uninterrupted release call takes a packet as the
sequential call does. -/
theorem releaseAt_sections {now : Duration} (hc : r.calls[i]? = some c)
    (hphase : c.phase = .nextTake now) (hclock : r.clock ≤ second) :
    Completes profile r i (r.scheduler.releaseAt profile now).2
      (EndsNext (r.scheduler.releaseAt profile now).1) := by
  rcases htake : r.scheduler.takeDue now with ⟨taken, s⟩
  cases taken with
  | none =>
      have hexecute : r.execute profile c.phase second second =
          some ⟨s, [], .returned .nothing⟩ := by
        simp [hphase, execute, htake]
      simp only [PlaybackScheduler.releaseAt, htake]
      exact .of_last hc hclock le_rfl hexecute rfl
  | some item =>
      have hexecute : r.execute profile c.phase second second = some ⟨s, [.taken item],
          .nextCount ⟨item, r.scheduler.queue.heap.toList⟩ now⟩ := by
        simp [hphase, execute, htake]
      simp only [PlaybackScheduler.releaseAt, htake]
      apply Completes.of_section hc hclock le_rfl hexecute
      have hcall := @proceed_call r i c second ⟨s, [.taken item],
        .nextCount ⟨item, r.scheduler.queue.heap.toList⟩ now⟩ hc
      cases hoffset : i64Result profile
          (asI64 now.asMillis - asI64 item.deadline.asMillis) with
      | none =>
          simp only [PlaybackScheduler.recordPlayed, hoffset]
          refine Completes.of_last hcall le_rfl le_rfl
            (show _ = some (⟨s, [.lost], .panicked⟩ : SectionEffect) from ?_) rfl
          simp [proceed, execute, PlaybackScheduler.recordPlayed, hoffset]
      | some offsetMs =>
          have hplay : ∃ x, (r.proceed i c second ⟨s, [.taken item],
              .nextCount ⟨item, r.scheduler.queue.heap.toList⟩ now⟩).execute profile
                (.nextCount ⟨item, r.scheduler.queue.heap.toList⟩ now) second second =
              some ⟨{ s with stats := s.stats.recordPlayed offsetMs }, [.played],
                .returned (.packet x)⟩ ∧ x.taken.item.packet = item.packet := by
            simp [proceed, execute, PlaybackScheduler.recordPlayed, hoffset]
          rcases hplay with ⟨x, hplay, hpacket⟩
          simp only [PlaybackScheduler.recordPlayed, hoffset]
          exact .of_last hcall le_rfl le_rfl hplay ⟨x, rfl, hpacket⟩

/-- An uninterrupted release call is the sequential one. -/
theorem nextPacket_sections (hc : r.calls[i]? = some c) (hphase : c.phase = .nextCheck)
    (hclock : r.clock ≤ first) :
    Completes profile r i (r.scheduler.nextPacket profile first).2
      (EndsNext (r.scheduler.nextPacket profile first).1) := by
  cases hrunning : r.scheduler.running with
  | false =>
      have hexecute : r.execute profile c.phase first first =
          some ⟨r.scheduler, [], .returned (.refused .notStarted)⟩ := by
        simp [hphase, execute, hrunning]
      simp only [PlaybackScheduler.nextPacket, hrunning]
      exact .of_last hc hclock le_rfl hexecute rfl
  | true =>
      have hexecute : r.execute profile c.phase first first =
          some ⟨r.scheduler, [], .nextTime⟩ := by
        simp [hphase, execute, hrunning]
      simp only [PlaybackScheduler.nextPacket, hrunning, if_true]
      apply Completes.of_section hc hclock le_rfl hexecute
      have hcall := @proceed_call r i c first ⟨r.scheduler, [], .nextTime⟩ hc
      rcases hread : r.scheduler.readTime first with ⟨result, s⟩
      cases result with
      | err e =>
          refine Completes.of_last hcall le_rfl le_rfl
            (show _ = some (⟨s, [], .returned (.refused e)⟩ : SectionEffect) from ?_) rfl
          simp [proceed, execute, hread]
      | panicked =>
          refine Completes.of_last hcall le_rfl le_rfl
            (show _ = some (⟨s, [], .panicked⟩ : SectionEffect) from ?_) rfl
          simp [proceed, execute, hread]
      | ok current =>
          refine Completes.of_section hcall le_rfl le_rfl
            (show _ = some (⟨s, [], .nextTake current⟩ : SectionEffect) from ?_) ?_
          · simp [proceed, execute, hread]
          · exact releaseAt_sections (proceed_call hcall) rfl le_rfl

end Uninterrupted

end SchedulerTasks
end Scheduler
end EchoSync
