import EchoSync.Foundations.Ledger
import EchoSync.Foundations.TaskPool
import EchoSync.Streaming.Schedules

/-!
# Streaming Engine - The ledger of the outbound packets

The outbound side of an engine is a buffer with consumers: its channel, the workers
that hold a packet each, and the places that packets go to.  Every step of an engine
is a move of its ledger or leaves the ledger alone.

Main results:

- Theorem {lit}`step_ledger`: an engine simulates its ledger.
- Theorem {lit}`accounted_iff`: every accepted packet is in exactly one place at
  every moment, exactly if the number of attempts does not overflow in a checked
  build.
-/

namespace EchoSync
namespace Streaming

open TransitionSystem

/-- The packet that a worker holds. -/
def WorkerPhase.held : WorkerPhase → Option Ticketed
  | .dequeued p => some p
  | .attempting p _ => some p
  | .backoff p _ => some p
  | .countFailed p => some p
  | _ => none

/-- The packet that a worker held when it panicked. -/
def WorkerPhase.lost : WorkerPhase → Option Ticketed
  | .panicked p => some p
  | _ => none

/-- A phase of a worker that neither has panicked nor is about to. -/
def WorkerPhase.Sound : WorkerPhase → Prop
  | .backoff _ attemptsRemaining => attemptsRemaining ≠ 0
  | .panicked _ => False
  | _ => True

namespace EngineRun

/-- The packets that the workers hold. -/
def held (r : EngineRun) : List Ticketed :=
  r.workers.filterMap fun x => x.phase.held

/-- The packets that were lost with a worker. -/
def lost (r : EngineRun) : List Ticketed :=
  r.workers.filterMap fun x => x.phase.lost

/-- The ledger of the outbound packets. -/
def ledger (r : EngineRun) : Ledger Ticketed where
  accepted := r.accepted
  waiting := r.engine.outboundQueue.channel
  held := r.held
  sent := r.transport
  failed := r.failed
  drained := r.drained
  lost := r.lost

theorem coe_concat (ps : List Ticketed) (p : Ticketed) :
    ((ps ++ [p] : List Ticketed) : Multiset Ticketed) = p ::ₘ ps :=
  Multiset.coe_eq_coe.mpr (List.perm_append_singleton p ps)

/-! ## Simulation -/

section Moves

variable {r r' : EngineRun} {w : Nat} {x y : Worker} {p : Ticketed}

/-- A worker that moves on without its packet changing hands. -/
theorem ledger_worker_same (hx : r.workers[w]? = some x)
    (hworkers : r'.workers = r.workers.set w y) (haccepted : r'.accepted = r.accepted)
    (hchannel : r'.engine.outboundQueue.channel = r.engine.outboundQueue.channel)
    (htransport : r'.transport = r.transport) (hfailed : r'.failed = r.failed)
    (hdrained : r'.drained = r.drained) (hheld : y.phase.held = x.phase.held)
    (hlost : y.phase.lost = x.phase.lost) : r'.ledger = r.ledger := by
  unfold ledger held lost
  rw [haccepted, hchannel, hworkers, htransport, hfailed, hdrained,
    TaskPool.filterMap_set_of_eq hx hheld, TaskPool.filterMap_set_of_eq hx hlost]

/-- A worker that takes a packet off the channel. -/
theorem ledger_take (hx : r.workers[w]? = some x) {q : PacketQueue Ticketed}
    (hchannel : r.engine.outboundQueue.channel = p :: q.channel) (hnone : x.phase.held = none)
    (hheld : y.phase.held = some p) (hlost : y.phase.lost = x.phase.lost) :
    Ledger.Step r.ledger ((r.setOutbound q).setWorker w y).ledger := by
  have hgain := TaskPool.filterMap_set_gain (f := fun x : Worker => x.phase.held) hx hnone hheld
  have hsame := TaskPool.filterMap_set_of_eq (f := fun x : Worker => x.phase.lost) hx hlost
  have hledger : ((r.setOutbound q).setWorker w y).ledger =
      { r.ledger with waiting := q.channel, held := p ::ₘ r.ledger.held } :=
    Ledger.ext rfl rfl hgain rfl rfl rfl (congrArg Multiset.ofList hsame)
  rw [hledger]
  exact .take r.ledger p q.channel hchannel

/-- A worker that begins to deliver its packet keeps it, or panics with it. -/
theorem ledger_begin (hx : r.workers[w]? = some x) {q : PacketQueue Ticketed}
    (hchannel : q.channel = r.engine.outboundQueue.channel) (hheld : x.phase.held = some p)
    (hlost : x.phase.lost = none)
    (hy : (y.phase.held = some p ∧ y.phase.lost = none) ∨
      (y.phase.held = none ∧ y.phase.lost = some p)) :
    Ledger.Step r.ledger ((r.setOutbound q).setWorker w y).ledger ∨
      ((r.setOutbound q).setWorker w y).ledger = r.ledger := by
  rcases hy with ⟨hkeep, hnone⟩ | ⟨hnone, hlose⟩
  · exact Or.inr (ledger_worker_same hx rfl rfl hchannel rfl rfl rfl (hkeep.trans hheld.symm)
      (hnone.trans hlost.symm))
  · have hrelease :=
      TaskPool.filterMap_set_release (f := fun x : Worker => x.phase.held) hx hheld hnone
    have hgain := TaskPool.filterMap_set_gain (f := fun x : Worker => x.phase.lost) hx hlost hlose
    have hledger : ((r.setOutbound q).setWorker w y).ledger =
        { r.ledger with
          held := ((r.workers.set w y).filterMap fun x => x.phase.held : List Ticketed)
          lost := p ::ₘ r.ledger.lost } :=
      Ledger.ext rfl hchannel rfl rfl rfl rfl hgain
    rw [hledger]
    exact Or.inl (.lose r.ledger p _ hrelease)

end Moves

/-- Beginning an attempt keeps the packet or panics with it. -/
theorem beginAttempt_held (profile : BuildProfile) (p : Ticketed) (n : U32) :
    let phase := beginAttempt profile p n
    (phase.held = some p ∧ phase.lost = none) ∨ (phase.held = none ∧ phase.lost = some p) := by
  unfold beginAttempt
  split
  · exact Or.inl ⟨rfl, rfl⟩
  · exact Or.inr ⟨rfl, rfl⟩

/-- Beginning a delivery keeps the packet or panics with it. -/
theorem beginDelivery_held (profile : BuildProfile) (config : StreamingConfig) (p : Ticketed) :
    let phase := beginDelivery profile config p
    (phase.held = some p ∧ phase.lost = none) ∨ (phase.held = none ∧ phase.lost = some p) := by
  unfold beginDelivery
  split
  · exact beginAttempt_held profile p _
  · exact Or.inr ⟨rfl, rfl⟩

theorem workerMove_ledger {profile : BuildProfile} {r r' : EngineRun} {w : Nat} {x : Worker}
    (hx : r.workers[w]? = some x) (h : WorkerMove profile r w x r') :
    Ledger.Step r.ledger r'.ledger ∨ r'.ledger = r.ledger := by
  cases h with
  | enter hphase | exit hphase | pause hphase | wake hphase | pending dequeue hphase
  | park dequeue hphase | countSent hphase =>
      exact Or.inr (ledger_worker_same hx rfl rfl rfl rfl rfl rfl (hphase ▸ rfl) (hphase ▸ rfl))
  | notice dequeue q hphase hseen hchannel | acquire q hphase hchannel =>
      exact Or.inr (ledger_worker_same hx rfl rfl hchannel rfl rfl rfl (hphase ▸ rfl)
        (hphase ▸ rfl))
  | take p q hphase hchannel =>
      exact Or.inl (ledger_take hx hchannel (hphase ▸ rfl) rfl (hphase ▸ rfl))
  | deliver p q hphase hchannel =>
      exact ledger_begin hx hchannel (hphase ▸ rfl) (hphase ▸ rfl)
        (beginDelivery_held profile r.engine.config p)
  | retry p n hphase =>
      exact ledger_begin hx rfl (hphase ▸ rfl) (hphase ▸ rfl) (beginAttempt_held profile p n)
  | countFailed p hphase =>
      have hheld : x.phase.held = some p := hphase ▸ rfl
      have hlost : x.phase.lost = none := hphase ▸ rfl
      have hrelease := TaskPool.filterMap_set_release (f := fun x : Worker => x.phase.held)
        (y := { x with phase := .top }) hx hheld rfl
      have hsame := TaskPool.filterMap_set_of_eq (f := fun x : Worker => x.phase.lost)
        (y := { x with phase := .top }) hx hlost.symm
      have hstep := Ledger.Step.fail r.ledger p _ hrelease
      refine Or.inl ?_
      convert hstep using 1
      exact Ledger.ext rfl rfl rfl rfl (coe_concat r.failed p) rfl
        (congrArg Multiset.ofList hsame)

theorem attemptMove_ledger {r r' : EngineRun} {w : Nat} {x : Worker}
    (hx : r.workers[w]? = some x) (h : AttemptMove r w x r') :
    Ledger.Step r.ledger r'.ledger ∨ r'.ledger = r.ledger := by
  cases h with
  | sent p n hphase =>
      have hheld : x.phase.held = some p := hphase ▸ rfl
      have hlost : x.phase.lost = none := hphase ▸ rfl
      have hrelease := TaskPool.filterMap_set_release (f := fun x : Worker => x.phase.held)
        (y := { x with phase := .countSent }) hx hheld rfl
      have hsame := TaskPool.filterMap_set_of_eq (f := fun x : Worker => x.phase.lost)
        (y := { x with phase := .countSent }) hx hlost.symm
      have hstep := Ledger.Step.send r.ledger p _ hrelease
      refine Or.inl ?_
      convert hstep using 1
      exact Ledger.ext rfl rfl rfl rfl rfl rfl (congrArg Multiset.ofList hsame)
  | giveUp p n hphase | again p n hphase =>
      exact Or.inr (ledger_worker_same hx rfl rfl rfl rfl rfl rfl (hphase ▸ rfl) (hphase ▸ rfl))

theorem callMove_ledger {r r' : EngineRun} {i : Nat} {phase : CallPhase}
    (h : CallMove r i phase r') : Ledger.Step r.ledger r'.ledger ∨ r'.ledger = r.ledger := by
  cases h with
  | refuse op | pass op | publish op | lockHandles | join handle rest | joined => exact Or.inr rfl
  | spawn =>
      refine Or.inr ?_
      simp [ledger, held, lost, spawnWorkers, List.filterMap_append, Worker.spawned,
        WorkerPhase.held, WorkerPhase.lost]
  | accept p q hphase hticket hcaller hchannel =>
      have hstep := Ledger.Step.accept r.ledger p
      refine Or.inl ?_
      convert hstep using 1
      exact Ledger.ext rfl hchannel rfl rfl rfl rfl rfl
  | drain p q drained hphase hchannel =>
      have hstep := Ledger.Step.drain r.ledger p q.channel hchannel
      refine Or.inl ?_
      convert hstep using 1
      exact Ledger.ext rfl rfl rfl rfl rfl (coe_concat r.drained p) rfl
  | other e next hsame => exact Or.inr (Ledger.ext rfl hsame.channel rfl rfl rfl rfl rfl)

/-- Every step of an engine is a move of its ledger, or leaves the ledger alone. -/
theorem step_ledger {profile : BuildProfile} {r r' : EngineRun} {action : Action}
    (hstep : step profile r action = some r') :
    Ledger.Step r.ledger r'.ledger ∨ r'.ledger = r.ledger := by
  rcases step_eq_some.mp hstep with ⟨call, -, rfl⟩ | ⟨i, phase, -, -, hcall⟩ |
    ⟨w, x, -, hx, hworker⟩ | ⟨w, x, outcome, -, hx, hattempt⟩
  · exact Or.inr rfl
  · exact callMove_ledger (callMove hcall)
  · exact workerMove_ledger hx (workerMove hworker)
  · exact attemptMove_ledger hx (attemptMove hattempt)

/-! ## Tickets and counters -/

/-- The configuration never changes. -/
theorem step_config {profile : BuildProfile} {r r' : EngineRun} {action : Action}
    (hstep : step profile r action = some r') : r'.engine.config = r.engine.config := by
  rcases step_eq_some.mp hstep with ⟨call, -, rfl⟩ | ⟨i, phase, -, -, hcall⟩ |
    ⟨w, x, -, hx, hworker⟩ | ⟨w, x, outcome, -, hx, hattempt⟩
  · rfl
  · cases callMove hcall with
    | other e next hsame => exact hsame.config
    | _ => rfl
  · cases workerMove hworker <;> rfl
  · cases attemptMove hattempt <;> rfl

/-- Calls are only added. -/
theorem step_calls_length {profile : BuildProfile} {r r' : EngineRun} {action : Action}
    (hstep : step profile r action = some r') : r.calls.length ≤ r'.calls.length := by
  rcases step_eq_some.mp hstep with ⟨call, -, rfl⟩ | ⟨i, phase, -, -, hcall⟩ |
    ⟨w, x, -, hx, hworker⟩ | ⟨w, x, outcome, -, hx, hattempt⟩
  · change r.calls.length ≤ (r.calls ++ [call.entry]).length
    rw [List.length_append]
    exact Nat.le_add_right _ _
  · cases callMove hcall <;> exact le_of_eq List.length_set.symm
  · cases workerMove hworker <;> exact le_rfl
  · cases attemptMove hattempt <;> exact le_rfl

/-- A step accepts no packet, or one with the next ticket from a call that was made. -/
theorem step_accepted {profile : BuildProfile} {r r' : EngineRun} {action : Action}
    (hstep : step profile r action = some r') :
    r'.accepted = r.accepted ∨
      ∃ p : Ticketed, p.ticket = r.accepted.length ∧ p.caller < r.calls.length ∧
        r'.accepted = r.accepted ++ [p] := by
  rcases step_eq_some.mp hstep with ⟨call, -, rfl⟩ | ⟨i, phase, -, hphase, hcall⟩ |
    ⟨w, x, -, hx, hworker⟩ | ⟨w, x, outcome, -, hx, hattempt⟩
  · exact Or.inl rfl
  · cases callMove hcall with
    | accept p q _ hticket hcaller hchannel =>
        have hlt : i < r.calls.length := (List.getElem?_eq_some_iff.mp hphase).1
        exact Or.inr ⟨p, hticket, hcaller ▸ hlt, rfl⟩
    | _ => exact Or.inl rfl
  · cases workerMove hworker <;> exact Or.inl rfl
  · cases attemptMove hattempt <;> exact Or.inl rfl

/-- A step counts a failed packet exactly when it records one. -/
theorem step_failed {profile : BuildProfile} {r r' : EngineRun} {action : Action}
    (hstep : step profile r action = some r') :
    (r'.failed = r.failed ∧
      r'.engine.metrics.packetsSendFailed = r.engine.metrics.packetsSendFailed) ∨
    ∃ p, r'.failed = r.failed ++ [p] ∧
      r'.engine.metrics.packetsSendFailed = r.engine.metrics.packetsSendFailed + 1 := by
  rcases step_eq_some.mp hstep with ⟨call, -, rfl⟩ | ⟨i, phase, -, -, hcall⟩ |
    ⟨w, x, -, hx, hworker⟩ | ⟨w, x, outcome, -, hx, hattempt⟩
  · exact Or.inl ⟨rfl, rfl⟩
  · cases callMove hcall with
    | other e next hsame => exact Or.inl ⟨rfl, hsame.packetsSendFailed⟩
    | _ => exact Or.inl ⟨rfl, rfl⟩
  · cases workerMove hworker with
    | countFailed p hphase => exact Or.inr ⟨p, rfl, rfl⟩
    | _ => exact Or.inl ⟨rfl, rfl⟩
  · cases attemptMove hattempt <;> exact Or.inl ⟨rfl, rfl⟩

/-- What holds of the outbound packets in every run: the ledger is balanced, the
tickets number the accepted packets, which come from calls that were made, and the
counter of failed packets is right. -/
structure OutboundInvariant (r : EngineRun) : Prop where
  balanced : r.ledger.Balanced
  tickets : r.accepted.map Ticketed.ticket = List.range r.accepted.length
  callers : ∀ p ∈ r.accepted, p.caller < r.calls.length
  counted : r.engine.metrics.packetsSendFailed = U64.wrap r.failed.length

theorem initial_outboundInvariant (config : StreamingConfig) :
    (initial (StreamingEngine.ofConfig config)).OutboundInvariant where
  balanced := ⟨[], rfl, rfl⟩
  tickets := rfl
  callers := by simp [initial]
  counted := rfl

theorem wrap_succ (n : Nat) : U64.wrap (n + 1) = U64.wrap n + 1 := by
  refine Fin.ext ?_
  rw [Fin.val_add]
  change (n + 1) % 2 ^ 64 = (n % 2 ^ 64 + 1) % 2 ^ 64
  omega

theorem step_outboundInvariant {profile : BuildProfile} {r r' : EngineRun} {action : Action}
    (h : r.OutboundInvariant) (hstep : step profile r action = some r') :
    r'.OutboundInvariant := by
  constructor
  · rcases step_ledger hstep with hmove | hsame
    · exact hmove.balanced h.balanced
    · exact hsame ▸ h.balanced
  · rcases step_accepted hstep with hsame | ⟨p, hticket, -, haccepted⟩
    · rw [hsame]
      exact h.tickets
    · rw [haccepted, List.map_append, h.tickets, List.length_append, List.length_singleton,
        List.range_succ, List.map_singleton, hticket]
  · have hcalls := step_calls_length hstep
    intro p hp
    rcases step_accepted hstep with hsame | ⟨new, -, hcaller, haccepted⟩
    · exact lt_of_lt_of_le (h.callers p (hsame ▸ hp)) hcalls
    · rw [haccepted] at hp
      rcases List.mem_append.mp hp with hold | hnew
      · exact lt_of_lt_of_le (h.callers p hold) hcalls
      · rw [List.mem_singleton.mp hnew]
        exact lt_of_lt_of_le hcaller hcalls
  · rcases step_failed hstep with ⟨hfailed, hcount⟩ | ⟨p, hfailed, hcount⟩
    · rw [hfailed, hcount]
      exact h.counted
    · rw [hfailed, hcount, h.counted, List.length_append, List.length_singleton, wrap_succ]

/-- The accepted packets differ in their tickets. -/
theorem OutboundInvariant.accepted_nodup {r : EngineRun} (h : r.OutboundInvariant) :
    r.accepted.Nodup := by
  refine List.Nodup.of_map Ticketed.ticket ?_
  rw [h.tickets]
  exact List.nodup_range

/-! ## Panics -/

/-- In a checked build, the number of attempts for these many retries overflows. -/
def AttemptsOverflow (profile : BuildProfile) (config : StreamingConfig) : Prop :=
  profile.overflowChecks = true ∧ config.maxRetryCount.val + 1 = 2 ^ 32

instance (profile : BuildProfile) (config : StreamingConfig) :
    Decidable (AttemptsOverflow profile config) :=
  inferInstanceAs (Decidable (_ ∧ _))

theorem beginAttempt_sound (profile : BuildProfile) (p : Ticketed) {n : U32} (h : n ≠ 0) :
    (beginAttempt profile p n).Sound := by
  rw [beginAttempt, U32.sub_one_eq_some profile h]
  trivial

/-- Unless the number of attempts overflows, a delivery begins with an attempt. -/
theorem beginDelivery_sound {profile : BuildProfile} {config : StreamingConfig}
    (hfits : ¬ AttemptsOverflow profile config) (p : Ticketed) :
    ∃ n, beginDelivery profile config p = .attempting p n := by
  have hlt := config.maxRetryCount.isLt
  have hone : (1 : U32).val = 1 := rfl
  cases hchecks : profile.overflowChecks with
  | false =>
      refine ⟨config.maxRetryCount + 1 - 1, ?_⟩
      simp [beginDelivery, beginAttempt, U32.add, U32.sub, hchecks]
  | true =>
      have hsmall : config.maxRetryCount.val + 1 < 2 ^ 32 := by
        have hne : config.maxRetryCount.val + 1 ≠ 2 ^ 32 := fun heq => hfits ⟨hchecks, heq⟩
        omega
      have hpos : config.maxRetryCount + 1 ≠ 0 := by
        intro hzero
        have hval := congrArg Fin.val hzero
        rw [Fin.val_add_eq_of_add_lt (by rwa [hone]), hone] at hval
        exact absurd hval (Nat.succ_ne_zero _)
      refine ⟨config.maxRetryCount + 1 - 1, ?_⟩
      rw [beginDelivery, U32.add, if_neg fun hover => absurd hover.2 (not_le.mpr (by rwa [hone]))]
      dsimp only
      rw [beginAttempt, U32.sub_one_eq_some profile hpos]

/-- If the number of attempts overflows, every delivery panics. -/
theorem beginDelivery_overflow {profile : BuildProfile} {config : StreamingConfig}
    (hoverflow : AttemptsOverflow profile config) (p : Ticketed) :
    beginDelivery profile config p = .panicked p := by
  have hone : (1 : U32).val = 1 := rfl
  rw [beginDelivery, U32.add, if_pos ⟨hoverflow.1, le_of_eq (by rw [hone, hoverflow.2])⟩]

/-- Unless the number of attempts overflows, workers stay sound. -/
theorem step_sound {profile : BuildProfile} {r r' : EngineRun} {action : Action}
    (hfits : ¬ AttemptsOverflow profile r.engine.config)
    (h : ∀ x ∈ r.workers, x.phase.Sound) (hstep : step profile r action = some r') :
    ∀ x ∈ r'.workers, x.phase.Sound := by
  rcases step_eq_some.mp hstep with ⟨call, -, rfl⟩ | ⟨i, phase, -, -, hcall⟩ |
    ⟨w, x, -, hx, hworker⟩ | ⟨w, x, outcome, -, hx, hattempt⟩
  · exact h
  · cases callMove hcall with
    | spawn =>
        intro x hx
        rcases List.mem_append.mp hx with hold | hnew
        · exact h x hold
        · rw [List.eq_of_mem_replicate hnew]
          trivial
    | _ => exact h
  · have hsound : x.phase.Sound := h x (List.mem_of_getElem? hx)
    cases workerMove hworker with
    | deliver p q hphase =>
        refine TaskPool.forall_mem_set h ?_
        rcases beginDelivery_sound hfits p with ⟨n, hn⟩
        rw [hn]
        trivial
    | retry p n hphase =>
        refine TaskPool.forall_mem_set h (beginAttempt_sound profile p ?_)
        rwa [hphase] at hsound
    | _ => exact TaskPool.forall_mem_set h trivial
  · cases attemptMove hattempt with
    | again p n hphase hpos => exact TaskPool.forall_mem_set h hpos
    | _ => exact TaskPool.forall_mem_set h trivial

/-- Sound workers have lost no packet. -/
theorem lost_eq_nil {r : EngineRun} (h : ∀ x ∈ r.workers, x.phase.Sound) : r.lost = [] := by
  refine List.filterMap_eq_nil_iff.mpr ?_
  intro x hx
  have hsound := h x hx
  cases hphase : x.phase with
  | panicked p =>
      rw [hphase] at hsound
      contradiction
  | _ => rfl

/-! ## Every packet in one place -/

/-- The number of places in which a packet is: the channel, the workers, the
transport, the failed packets and the drained ones. -/
def places (r : EngineRun) (p : Ticketed) : Nat :=
  r.engine.outboundQueue.channel.count p + r.held.count p + r.transport.count p +
    r.failed.count p + r.drained.count p

/-- Every accepted packet is in exactly one place, and the failed ones are counted. -/
structure Accounted (r : EngineRun) : Prop where
  once : ∀ p ∈ r.accepted, r.places p = 1
  counted : r.engine.metrics.packetsSendFailed = U64.wrap r.failed.length

/-- Without a lost packet, every accepted packet is accounted for. -/
theorem OutboundInvariant.accounted {r : EngineRun} (h : r.OutboundInvariant)
    (hlost : r.lost = []) : r.Accounted := by
  refine ⟨?_, h.counted⟩
  intro p hp
  have hcount := h.balanced.count_eq p
  have hone : r.accepted.count p = 1 :=
    (List.count_eq_one_of_mem h.accepted_nodup hp)
  simp only [ledger, hlost, Multiset.coe_count, List.count_nil, hone] at hcount
  exact hcount

/-- The steps of runs in which packets are enqueued and cleared, and the lifecycle
changes. -/
def Action.isOutbound : Action → Bool
  | .invoke (.receivePacket _) => false
  | .invoke .dequeue => false
  | _ => true

/-- The calls of the lifecycle leave the channel as it is. -/
theorem lifecycle_keeps_channel {r r' : EngineRun} {i : Nat} {phase : CallPhase}
    (hphase : phase.inLifecycle = true) (hstep : r.stepCall i phase = some r') :
    r'.engine.outboundQueue.channel = r.engine.outboundQueue.channel := by
  cases callMove hstep with
  | accept p q heq =>
      rw [heq] at hphase
      contradiction
  | drain p q drained heq =>
      rw [heq] at hphase
      contradiction
  | other e next hsame => exact hsame.channel
  | _ => rfl

/-- The schedule of a new engine that takes its first packet. -/
def firstPacketActions : List Action :=
  startActions ++ handActions 1 firstPacket.packet 0

/-- If the number of attempts overflows, the first packet taken is in no place. -/
theorem exists_lost_packet {profile : BuildProfile} {config : StreamingConfig}
    (hoverflow : AttemptsOverflow profile config) :
    ∃ r, run (step profile) (initial (StreamingEngine.ofConfig config)) firstPacketActions =
        some r ∧ ∃ p ∈ r.accepted, r.places p = 0 := by
  have hpos : 0 < max config.workerCount 1 := lt_of_lt_of_le Nat.one_pos (le_max_right _ _)
  have hfresh : (started config).workers[0]? = some Worker.spawned :=
    List.getElem?_replicate_of_lt hpos
  rcases exists_taken profile (started_idle config) hfresh firstPacket.packet with
    ⟨r, hrun, hidle, -, -, haccepted, htransport, hfailed, hdrained, seen, hworkers⟩
  have hheld : r.held = [] := by
    rw [held, hworkers, List.filterMap_eq_nil_iff]
    refine TaskPool.forall_mem_set ?_ ?_
    · intro x hx
      rw [List.eq_of_mem_replicate hx]
      rfl
    · have hpanic := beginDelivery_overflow hoverflow firstPacket
      exact (congrArg WorkerPhase.held hpanic).trans rfl
  refine ⟨r, run_append_eq_some.mpr ⟨_, run_start profile config, hrun⟩,
    firstPacket, ?_, ?_⟩
  · rw [haccepted]
    exact List.mem_append_right _ List.mem_cons_self
  · rw [places, hidle.empty, hheld, htransport, hfailed, hdrained]
    rfl

/-- Every packet is accounted for in every run, exactly if the number of attempts
does not overflow. -/
theorem accounted_iff {profile : BuildProfile} {config : StreamingConfig}
    {engine : StreamingEngine} (hnew : StreamingEngine.new config = .ok engine) :
    (∀ actions r, (∀ action ∈ actions, action.isOutbound = true) →
      run (step profile) (initial engine) actions = some r →
      r.Accounted ∧ ∀ i phase r', r.calls[i]? = some phase → phase.inLifecycle = true →
        r.stepCall i phase = some r' →
        r'.engine.outboundQueue.channel = r.engine.outboundQueue.channel) ↔
      ¬ AttemptsOverflow profile config := by
  have hengine := StreamingEngine.new_eq_ok hnew
  subst hengine
  constructor
  · intro haccounted hoverflow
    rcases exists_lost_packet hoverflow with ⟨r, hrun, p, hp, hplaces⟩
    have honce := (haccounted _ r (by decide) hrun).1.once p hp
    rw [hplaces] at honce
    contradiction
  · intro hfits actions r _ hrun
    have hinv : r.OutboundInvariant :=
      run_invariant OutboundInvariant (fun _ _ _ h hstep => step_outboundInvariant h hstep)
        (initial_outboundInvariant config) hrun
    have hsound : r.engine.config = config ∧ ∀ x ∈ r.workers, x.phase.Sound := by
      refine run_invariant
        (fun r : EngineRun => r.engine.config = config ∧ ∀ x ∈ r.workers, x.phase.Sound) ?_
        ⟨rfl, by simp [initial]⟩ hrun
      rintro r action r' ⟨hconfig, hworkers⟩ hstep
      exact ⟨(step_config hstep).trans hconfig, step_sound (hconfig ▸ hfits) hworkers hstep⟩
    refine ⟨hinv.accounted (lost_eq_nil hsound.2), ?_⟩
    intro i phase r' _ hphase hstep
    exact lifecycle_keeps_channel hphase hstep

/-- The first packet of an engine with the production defaults is accounted for. -/
theorem accounted_first_packet :
    ∃ r, run (step ⟨true⟩) (initial (StreamingEngine.ofConfig .default)) firstPacketActions =
        some r ∧ r.accepted.length = 1 ∧ r.Accounted := by
  have hnew : StreamingEngine.new .default = .ok (StreamingEngine.ofConfig .default) := by decide
  have hrun : (run (step ⟨true⟩) (initial (StreamingEngine.ofConfig .default))
      firstPacketActions).any (fun r => decide (r.accepted.length = 1)) = true := by
    decide +kernel
  rcases exists_of_any hrun with ⟨r, hr, hlength⟩
  have hfits : ¬ AttemptsOverflow ⟨true⟩ .default := by decide
  exact ⟨r, hr, hlength, ((accounted_iff hnew).mpr hfits _ r (by decide) hr).1⟩

/-- With the largest number of retries, a checked build loses the first packet. -/
theorem overflow_loses_packet :
    ∃ r, run (step ⟨true⟩)
        (initial (StreamingEngine.ofConfig { StreamingConfig.default with
          maxRetryCount := 4294967295 })) firstPacketActions = some r ∧
      ∃ p ∈ r.accepted, r.places p = 0 := by
  refine exists_of_any ?_
  decide +kernel

end EngineRun
end Streaming
end EchoSync
