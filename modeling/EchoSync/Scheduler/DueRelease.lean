import EchoSync.Scheduler.Tasks

/-!
# Playback Scheduler - Releases of concurrent tasks

A release reads the time under one lock and takes a packet under another, while other
calls go on between the two.  Each call in flight carries what it knows: the time it has
read, and the packet it has taken with the queue it was taken from.

Main results:

- Theorem {lit}`proceed_later`: between two restarts the readings of the timeline stay.
- Theorem {lit}`run_informed`: in every run, what a call in flight knows holds.
- Theorem {lit}`released_first_and_due`: a released packet was the first of the queue, and
  it is due when it is answered.
-/

namespace EchoSync
namespace Scheduler

open Streaming Sync TransitionSystem

/-- No packet queued then has a smaller deadline, sequence number and packet id, compared
in this order. -/
def Taken.IsFirst (t : Taken) : Prop :=
  t.item ∈ t.queued ∧ ∀ other ∈ t.queued, t.item.key ≤ other.key

/-- The time of the timeline has reached the deadline when the packet is answered. -/
def Released.Due (x : Released) : Prop :=
  ∃ current, x.timeline.currentTime x.answeredAt = some current ∧
    x.taken.item.deadline ≤ current

/-- When the packet is answered, the milliseconds of the timeline have not wrapped. -/
def Released.Fits (x : Released) : Prop :=
  (x.answeredAt.elapsedSince x.timeline.startedAt).asMillis < 2 ^ 64

instance (x : Released) : Decidable x.Fits :=
  inferInstanceAs (Decidable (_ < _))

instance (x : Released) : Decidable x.Due :=
  decidable_of_iff ((x.timeline.currentTime x.answeredAt).any
    (fun current => decide (x.taken.item.deadline ≤ current)) = true)
    (by simp [Released.Due, Option.any_eq_true])

/-- The packet that a call has answered. -/
def SchedulerTask.released (c : SchedulerTask) : Option Released :=
  match c.phase with
  | .returned (.packet released) => some released
  | _ => none

theorem SchedulerTask.phase_of_released {c : SchedulerTask} {x : Released}
    (h : c.released = some x) : c.phase = .returned (.packet x) := by
  unfold SchedulerTask.released at h
  split at h
  · rename_i hphase
    cases h
    exact hphase
  · contradiction

namespace SchedulerTasks

/-! ## Between two restarts -/

/-- A later state: the clock and the number of restarts have not gone back, and without
a restart the timeline still reads the same. -/
structure Later (r r' : SchedulerTasks) : Prop where
  clock : r.clock ≤ r'.clock
  restarts : r.restarts ≤ r'.restarts
  readings : r'.restarts = r.restarts →
    r'.scheduler.timeline.currentTime = r.scheduler.timeline.currentTime

section Steps

variable {profile : BuildProfile} {r r' : SchedulerTasks} {i : Nat} {c : SchedulerTask}
  {second : Instant} {effect : SectionEffect}

theorem proceed_restarts (r : SchedulerTasks) (i : Nat) (c : SchedulerTask) (second : Instant)
    (effect : SectionEffect) : (r.proceed i c second effect).restarts =
      r.restarts + effect.events.countP LogEvent.isRestarted :=
  List.countP_append

/-- Every section leads to a later state. -/
theorem proceed_later (hclock : r.clock ≤ second)
    (hexec : Executed profile r second c.phase effect) :
    Later r (r.proceed i c second effect) := by
  have hrestarts := proceed_restarts r i c second effect
  refine ⟨hclock, by omega, ?_⟩
  generalize c.phase = phase at hexec
  cases hexec with
  | plain hphase hplain hs => exact fun _ => hs.readings
  | restart =>
      intro hsame
      rw [hsame] at hrestarts
      exact absurd hrestarts (Nat.ne_of_lt (Nat.lt_succ_self _))
  | _ => exact fun _ => rfl

/-- Every step leads to a later state. -/
theorem step_later {action : Action} (hstep : step profile r action = some r') : Later r r' := by
  rcases step_eq_some.mp hstep with ⟨call, -, rfl⟩ | ⟨i, first, now, c, effect, -, hclock, -,
    hexecute, rfl⟩ | ⟨s, -, rfl⟩
  · exact ⟨le_rfl, le_rfl, fun _ => rfl⟩
  · exact proceed_later (hclock.1.trans hclock.2) (execute_executed hexecute)
  · exact ⟨le_rfl, le_rfl, fun _ => rfl⟩

/-! ## What a call knows -/

/-- The time that a call has read: it is not ahead of the clock, and unless the timeline
was restarted since the call began, it was its current time. -/
def HasRead (r : SchedulerTasks) (c : SchedulerTask) (now : Duration) : Prop :=
  now.nanos ≤ r.clock.nanos ∧ (c.restarts = r.restarts →
    ∃ reading ≤ r.clock, r.scheduler.timeline.currentTime reading = some now)

/-- What a call knows in the phase it is in. -/
def Knows (r : SchedulerTasks) (c : SchedulerTask) : Prop :=
  match c.phase with
  | .nextTake now => HasRead r c now
  | .nextCount taken now => HasRead r c now ∧ taken.IsFirst ∧ taken.item.deadline ≤ now
  | .returned (.packet released) =>
      released.taken.IsFirst ∧ (released.restarts = c.restarts → released.Fits → released.Due)
  | _ => True

/-- A call that began in the past, with what it knows. -/
structure Informed (r : SchedulerTasks) (c : SchedulerTask) : Prop where
  began : c.restarts ≤ r.restarts
  knows : Knows r c

theorem knows_of_plain {r : SchedulerTasks} {c : SchedulerTask}
    (h : c.phase.Plain) : Knows r c := by
  rcases c with ⟨phase, restarts⟩
  cases phase with
  | nextTake now => exact h.elim
  | nextCount taken now => exact h.elim
  | returned answer =>
      cases answer with
      | packet released => exact h.elim
      | _ => exact trivial
  | _ => exact trivial

/-- A reading stays what it is in later states. -/
theorem HasRead.later {now : Duration} (h : HasRead r c now) (hbegan : c.restarts ≤ r.restarts)
    (hlater : Later r r') : HasRead r' c now := by
  refine ⟨h.1.trans hlater.clock, ?_⟩
  intro hsame
  have hrestarts : r'.restarts = r.restarts :=
    Nat.le_antisymm (hsame ▸ hbegan) hlater.restarts
  rcases h.2 (hsame.trans hrestarts) with ⟨reading, hreading, hnow⟩
  exact ⟨reading, hreading.trans hlater.clock, hlater.readings hrestarts ▸ hnow⟩

/-- What a call knows stays true while other calls go on. -/
theorem Informed.later (h : Informed r c) (hlater : Later r r') : Informed r' c := by
  rcases h with ⟨hbegan, hknows⟩
  refine ⟨hbegan.trans hlater.restarts, ?_⟩
  rcases c with ⟨phase, restarts⟩
  cases phase with
  | nextTake now => exact HasRead.later hknows hbegan hlater
  | nextCount taken now => exact ⟨HasRead.later hknows.1 hbegan hlater, hknows.2⟩
  | returned answer =>
      cases answer with
      | packet released => exact hknows
      | _ => exact trivial
  | _ => exact trivial

/-- The packet that a dequeue answers is the first of the queue. -/
theorem isFirst_of_dequeue {q q' : PlaybackQueue} {item : ScheduledPacket}
    (h : q.dequeue = (some item, q')) : Taken.IsFirst ⟨item, q.heap.toList⟩ := by
  rcases PlaybackQueue.dequeue_some h with ⟨hpeek, -⟩
  exact ⟨PriorityQueue.mem_of_peek hpeek, fun other hother =>
    PriorityQueue.key_le_of_peek hpeek hother⟩

/-- A packet that was due at a time read in the session is due when it is answered. -/
theorem HasRead.due {taken : Taken} {now : Duration} (h : HasRead r c now)
    (hdeadline : taken.item.deadline ≤ now) (hclock : r.clock ≤ second)
    (hsame : r.restarts = c.restarts)
    (hfits : Released.Fits ⟨taken, r.scheduler.timeline, second, r.restarts⟩) :
    Released.Due ⟨taken, r.scheduler.timeline, second, r.restarts⟩ := by
  rcases h.2 hsame.symm with ⟨reading, hreading, hnow⟩
  rcases PlaybackTimeline.currentTime_mono hnow (hreading.trans hclock) hfits with
    ⟨current, hcurrent, hle⟩
  exact ⟨current, hcurrent, hdeadline.trans hle⟩

/-- What a call knows after its own section. -/
theorem proceed_knows (h : Informed r c) (hclock : r.clock ≤ second)
    (hexec : Executed profile r second c.phase effect) :
    Knows (r.proceed i c second effect) { c with phase := effect.phase } := by
  have hlater : Later r (r.proceed i c second effect) := proceed_later hclock hexec
  rcases h with ⟨hbegan, hknows⟩
  rcases c with ⟨phase, restarts⟩
  cases hexec with
  | plain hphase hplain hs => exact knows_of_plain hplain
  | readTime hnow =>
      refine ⟨PlaybackTimeline.currentTime_le hnow, fun _ => ⟨second, le_rfl, hnow⟩⟩
  | take htaken hdue =>
      exact ⟨HasRead.later hknows hbegan hlater, isFirst_of_dequeue htaken, hdue⟩
  | play offsetMs =>
      rcases hknows with ⟨hread, hfirst, hdeadline⟩
      exact ⟨hfirst, hread.due hdeadline hclock⟩
  | _ => exact trivial

/-- A step keeps what all calls know. -/
theorem step_informed {action : Action} (h : ∀ c ∈ r.calls, Informed r c)
    (hstep : step profile r action = some r') : ∀ c ∈ r'.calls, Informed r' c := by
  have hlater := step_later hstep
  apply step_forall_calls Informed h hstep
  · intro c hplain hrestarts
    exact ⟨hrestarts.le.trans hlater.restarts, knows_of_plain hplain⟩
  · exact fun c hc => hc.later hlater
  · rintro i now c effect hc hclock hexec rfl
    have hinformed := h c hc
    exact ⟨hinformed.began.trans hlater.restarts, proceed_knows hinformed hclock hexec⟩

end Steps

/-- In every run, what the calls know holds. -/
theorem run_informed {profile : BuildProfile} {s : PlaybackScheduler} {created : Instant}
    {actions : List Action} {r : SchedulerTasks}
    (hrun : run (step profile) (initial s created) actions = some r) :
    ∀ c ∈ r.calls, Informed r c :=
  run_invariant (fun r => ∀ c ∈ r.calls, Informed r c) (fun _ _ _ h hstep => step_informed h hstep)
    (by simp [initial]) hrun

/-- In every run of any number of calls, each released packet was the first of the queue
when it was taken.  Unless the timeline was restarted since its call began, and while the
milliseconds of the timeline fit in 64 bits, it is due when it is answered. -/
theorem released_first_and_due {profile : BuildProfile} {s : PlaybackScheduler}
    {created : Instant} {actions : List Action} {r : SchedulerTasks}
    (hrun : run (step profile) (initial s created) actions = some r) {c : SchedulerTask}
    (hc : c ∈ r.calls) {x : Released} (hreleased : c.released = some x) :
    x.taken.IsFirst ∧ (x.restarts = c.restarts → x.Fits → x.Due) := by
  have hknows := (run_informed hrun c hc).knows
  unfold Knows at hknows
  rw [SchedulerTask.phase_of_released hreleased] at hknows
  exact hknows

/-- A packet due at 150 milliseconds, released by a call that reads the clock at that time
and answers later. -/
def releaseOne (answeredAt : Instant) : List Action :=
  scheduleOne 6 ++ [.invoke .nextPacket] ++ sections 2 3 (Instant.ofMillis 150) ++
    [.call 2 (Instant.ofMillis 150) answeredAt]

/-- It is due when the call answers ten milliseconds later. -/
theorem released_first_and_due_soon :
    ∃ r, run (step ⟨true⟩) atZero (releaseOne (Instant.ofMillis 160)) = some r ∧
      ∃ c ∈ r.calls, ∃ x, c.released = some x ∧ x.taken.IsFirst ∧ x.Due := by
  have hrun : (run (step ⟨true⟩) atZero (releaseOne (Instant.ofMillis 160))).any
      (fun r => decide (∃ c ∈ r.calls, (c.released.any fun x =>
        decide (x.restarts = c.restarts ∧ x.Fits)) = true)) = true := by
    decide +kernel
  rcases exists_of_any hrun with ⟨r, hr, c, hc, hany⟩
  rcases (Option.any_eq_true _ _).mp hany with ⟨x, hx, hsession⟩
  rcases of_decide_eq_true hsession with ⟨hsame, hfits⟩
  have hreleased := released_first_and_due hr hc hx
  exact ⟨r, hr, c, hc, x, hx, hreleased.1, hreleased.2 hsame hfits⟩

/-- It is not due, in one session, when the call answers as the 64-bit milliseconds of the
timeline wrap. -/
theorem released_before_deadline :
    ∃ r, run (step ⟨true⟩) atZero
        (releaseOne { nanos := 2 ^ 64 * nanosPerMilli, lt_limit := by decide }) = some r ∧
      ∃ c ∈ r.calls, (c.released.any fun x =>
        decide (x.restarts = c.restarts ∧ ¬ x.Due)) = true := by
  refine exists_of_any ?_
  decide +kernel

end SchedulerTasks
end Scheduler
end EchoSync
