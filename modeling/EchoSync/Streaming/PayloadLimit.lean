import EchoSync.Streaming.QueueMoves
import EchoSync.Streaming.Schedules

/-!
# Streaming Engine - The payload limit

The configuration limits the size of a packet.  A receive compares the limit with the
size field of the packet, which need not be the length of its payload, and an enqueue
compares nothing.

Main results:

- Theorem {lit}`run_withinLimit`: if the packets offered to the engine respect the
  limit as far as the two calls do not check it, both queues respect it.
- Theorem {lit}`payload_limit_iff`: this condition on the offered packets is exact.
-/

namespace EchoSync
namespace Streaming

open TransitionSystem GuardedChannel

/-- No payload in the queues is longer than the configured limit. -/
structure StreamingEngine.WithinLimit (e : StreamingEngine) : Prop where
  outbound : ∀ p ∈ e.outboundQueue.channel,
    p.packet.opusData.length ≤ e.config.maxPacketSizeBytes
  inbound : ∀ packet ∈ e.inboundQueue.channel,
    packet.opusData.length ≤ e.config.maxPacketSizeBytes

/-- A call carries a packet that may enter its queue. -/
def CallPhase.CarriesWithin (limit : Nat) : CallPhase → Prop
  | .enqueueCheck packet => packet.opusData.length ≤ limit
  | .enqueueSend packet => packet.opusData.length ≤ limit
  | .receiveCheck packet => packet.packetSize ≤ limit → packet.opusData.length ≤ limit
  | .receiveSend packet => packet.opusData.length ≤ limit
  | _ => True

namespace EngineRun

/-- What the callers offer: the packets that enqueues and receives may pass. -/
def Offers (enqueued received : AudioPacket → Prop) : Action → Prop
  | .invoke (.enqueue packet) => enqueued packet
  | .invoke (.receivePacket packet) => received packet
  | _ => True

/-- What is not checked respects the limit: the payloads of enqueues, and those of
receives whose size field does. -/
def RespectsLimit (limit : Nat) (enqueued received : AudioPacket → Prop) : Prop :=
  (∀ packet, enqueued packet → packet.opusData.length ≤ limit) ∧
    ∀ packet, received packet → packet.packetSize ≤ limit → packet.opusData.length ≤ limit

/-- The queues respect the limit, and so do the packets on their way into them. -/
structure LimitInvariant (limit : Nat) (r : EngineRun) : Prop where
  config : r.engine.config.maxPacketSizeBytes = limit
  queues : r.engine.WithinLimit
  calls : ∀ phase ∈ r.calls, CallPhase.CarriesWithin limit phase

section Steps

variable {profile : BuildProfile} {limit : Nat} {r r' : EngineRun}

/-- The next phase of a call carries what its phase carried. -/
theorem carriesWithin_next {phase next : CallPhase}
    (hconfig : r.engine.config.maxPacketSizeBytes = limit)
    (h : CallPhase.CarriesWithin limit phase) (hfollows : FollowsUp r phase next) :
    CallPhase.CarriesWithin limit next := by
  cases next with
  | enqueueCheck packet => exact absurd rfl (hfollows.entered (.enqueue packet))
  | receiveCheck packet => exact absurd rfl (hfollows.entered (.receivePacket packet))
  | enqueueSend packet =>
      rw [hfollows.enqueues packet rfl] at h
      exact h
  | receiveSend packet =>
      rcases hfollows.receives packet rfl with ⟨hphase, hsize⟩
      rw [hphase] at h
      exact h (hconfig ▸ hsize)
  | _ => trivial

/-- A worker only takes packets out. -/
theorem LimitInvariant.worker {w : Nat} {x x' : Worker} (h : r.LimitInvariant limit)
    (hqueues : WorkerQueues r w x r' x') : r'.LimitInvariant limit where
  config := hqueues.config ▸ h.config
  queues := by
    constructor
    · intro p hp
      rw [hqueues.config]
      rcases mem_channel_of_move hqueues.outbound hp with hold | hnone
      · exact h.queues.outbound p hold
      · exact hnone.elim
    · rw [hqueues.inbound, hqueues.config]
      exact h.queues.inbound
  calls := hqueues.calls ▸ h.calls

/-- A call puts in what it carries. -/
theorem LimitInvariant.call {i : Nat} {phase next : CallPhase} (h : r.LimitInvariant limit)
    (hphase : r.calls[i]? = some phase) (hqueues : CallQueues r i phase r' next) :
    r'.LimitInvariant limit where
  config := hqueues.config ▸ h.config
  queues := by
    have hcarries := h.calls phase (List.mem_of_getElem? hphase)
    rw [← h.config] at hcarries
    constructor
    · intro p hp
      rw [hqueues.config]
      rcases mem_channel_of_move hqueues.outbound hp with hold | hoffer
      · exact h.queues.outbound p hold
      · rw [hoffer] at hcarries
        exact hcarries
    · intro packet hpacket
      rw [hqueues.config]
      rcases mem_channel_of_move hqueues.inbound hpacket with hold | hoffer
      · exact h.queues.inbound packet hold
      · rw [hoffer] at hcarries
        exact hcarries
  calls := by
    rw [hqueues.calls]
    apply TaskPool.forall_mem_set h.calls
    exact carriesWithin_next h.config (h.calls phase (List.mem_of_getElem? hphase))
      hqueues.follows

/-- Every step with acceptable offers keeps the limit. -/
theorem step_withinLimit {enqueued received : AudioPacket → Prop} {action : Action}
    (hlimit : RespectsLimit limit enqueued received) (hoffer : Offers enqueued received action)
    (h : r.LimitInvariant limit) (hstep : step profile r action = some r') :
    r'.LimitInvariant limit := by
  rcases stepQueues hstep with ⟨call, rfl, rfl⟩ | ⟨i, phase, next, -, hphase, hqueues⟩ |
    ⟨w, x, x', -, -, hqueues⟩
  · refine ⟨h.config, h.queues, ?_⟩
    intro phase hphase
    rcases List.mem_append.mp hphase with hold | hnew
    · exact h.calls phase hold
    · rw [List.mem_singleton.mp hnew]
      cases call with
      | enqueue packet => exact hlimit.1 packet hoffer
      | receivePacket packet => exact hlimit.2 packet hoffer
      | _ => trivial
  · exact h.call hphase hqueues
  · exact h.worker hqueues

/-- In every run in which the callers offer acceptable packets, the queues respect the
limit. -/
theorem run_withinLimit {config : StreamingConfig} {enqueued received : AudioPacket → Prop}
    {actions : List Action}
    (hlimit : RespectsLimit config.maxPacketSizeBytes enqueued received)
    (hoffers : ∀ action ∈ actions, Offers enqueued received action)
    (hrun : run (step profile) (initial (StreamingEngine.ofConfig config)) actions = some r) :
    r.engine.WithinLimit := by
  have hinitial : (initial (StreamingEngine.ofConfig config)).LimitInvariant
      config.maxPacketSizeBytes :=
    ⟨rfl, ⟨by nofun, by nofun⟩, by nofun⟩
  have hinv := run_invariant_of_labels (Offers enqueued received)
    (LimitInvariant config.maxPacketSizeBytes)
    (fun _ _ _ hoffer h hstep => step_withinLimit hlimit hoffer h hstep) hoffers hinitial hrun
  exact hinv.queues

end Steps

/-! ## The condition is exact -/

section Exactness

variable (profile : BuildProfile) (config : StreamingConfig) (packet : AudioPacket)

/-- Start a new engine, and let a call make its first two steps. -/
def offerActions (call : EngineCall) : List Action :=
  startActions ++ ([.invoke call, .call 1, .call 1] : List Action)

/-- A started engine accepts whatever is enqueued first. -/
theorem run_offer_enqueue :
    let p : Ticketed := { ticket := 0, caller := 1, packet }
    run (step profile) (initial (StreamingEngine.ofConfig config))
        (offerActions (.enqueue packet)) =
      some
        { (started config).setOutbound
            { (started config).engine.outboundQueue with channel := [p] } with
          calls := [.returned (.ok none), .enqueueCount]
          accepted := [p] } := by
  apply run_append_eq_some.mpr
  refine ⟨started config, run_start profile config, ?_⟩
  simp [run, step, stepCall, EngineCall.entry, started, StreamingEngine.ofConfig,
    PacketQueue.trySend, PacketQueue.new, setCall, setOutbound]

/-- A started engine accepts whatever is received first, if its size field says so. -/
theorem run_offer_receive (hsize : packet.packetSize ≤ config.maxPacketSizeBytes) :
    run (step profile) (initial (StreamingEngine.ofConfig config))
        (offerActions (.receivePacket packet)) =
      some
        { (started config).setInbound
            { (started config).engine.inboundQueue with channel := [packet] } with
          calls := [.returned (.ok none), .receiveCount] } := by
  apply run_append_eq_some.mpr
  refine ⟨started config, run_start profile config, ?_⟩
  simp [run, step, stepCall, EngineCall.entry, started, StreamingEngine.ofConfig,
    PacketQueue.trySend, PacketQueue.new, setCall, setInbound, not_lt.mpr hsize]

/-- The actions of a start offer nothing, and then one call is made. -/
theorem offers_offerActions {enqueued received : AudioPacket → Prop} {call : EngineCall}
    (hcall : Offers enqueued received (.invoke call)) :
    ∀ action ∈ offerActions call, Offers enqueued received action := by
  intro action haction
  simp only [offerActions, startActions, lifecycleActions, List.replicate, List.cons_append,
    List.nil_append, List.mem_cons, List.not_mem_nil, or_false] at haction
  rcases haction with rfl | rfl | rfl | rfl | rfl | rfl | rfl
  all_goals first | exact hcall | trivial

end Exactness

/-- On a new engine, whatever packets its callers may offer to an enqueue and to a
receive: no payload longer than the limit is in a queue in any state of any run exactly
when the packets to enqueue respect the limit, and so do those to receive whose size
field does. -/
theorem payload_limit_iff {profile : BuildProfile} {config : StreamingConfig}
    {engine : StreamingEngine} (hnew : StreamingEngine.new config = .ok engine)
    (enqueued received : AudioPacket → Prop) :
    (∀ actions r, (∀ action ∈ actions, Offers enqueued received action) →
        run (step profile) (initial engine) actions = some r → r.engine.WithinLimit) ↔
      RespectsLimit config.maxPacketSizeBytes enqueued received := by
  have hengine := StreamingEngine.new_eq_ok hnew
  subst hengine
  constructor
  · intro hsafe
    constructor
    · intro packet hpacket
      have hwithin := hsafe _ _ (@offers_offerActions _ _ (.enqueue packet) hpacket)
        (run_offer_enqueue profile config packet)
      exact hwithin.outbound _ List.mem_cons_self
    · intro packet hpacket hsize
      have hwithin := hsafe _ _ (@offers_offerActions _ _ (.receivePacket packet) hpacket)
        (run_offer_receive profile config packet hsize)
      exact hwithin.inbound _ List.mem_cons_self
  · intro hlimit actions r hoffers hrun
    exact run_withinLimit hlimit hoffers hrun

/-- Packets whose size field is the length of their payload, and small ones at the
enqueues, keep the default limit. -/
theorem payload_limit_default :
    ∃ engine, StreamingEngine.new StreamingConfig.default = .ok engine ∧
      ∀ actions r,
        (∀ action ∈ actions, Offers (fun packet => packet.opusData.length ≤ 4000)
          (fun packet => packet.packetSize = packet.opusData.length) action) →
        run (step { overflowChecks := true }) (initial engine) actions = some r →
          r.engine.WithinLimit := by
  have hnew : StreamingEngine.new .default = .ok (StreamingEngine.ofConfig .default) := by decide
  refine ⟨_, hnew, (payload_limit_iff hnew _ _).mpr ⟨fun _ hsize => hsize, ?_⟩⟩
  intro packet hfield hsize
  rw [← hfield]
  exact hsize

/-- A limit of four bytes. -/
def narrowConfig : StreamingConfig :=
  { StreamingConfig.default with maxPacketSizeBytes := 4 }

/-- A payload of eight bytes is enqueued as it is, and received under a size field that
says none. -/
theorem oversized_payload_accepted :
    (∃ r, run (step { overflowChecks := true }) (initial (StreamingEngine.ofConfig narrowConfig))
        (offerActions (.enqueue (makePacket 1 1 0))) = some r ∧ ¬ r.engine.WithinLimit) ∧
      ∃ r, run (step { overflowChecks := true }) (initial (StreamingEngine.ofConfig narrowConfig))
        (offerActions (.receivePacket { makePacket 1 1 0 with packetSize := 0 })) = some r ∧
          ¬ r.engine.WithinLimit := by
  constructor
  · refine ⟨_, run_offer_enqueue _ narrowConfig _, ?_⟩
    intro hwithin
    exact absurd (hwithin.outbound _ List.mem_cons_self) (by decide)
  · refine ⟨_, run_offer_receive _ narrowConfig _ (by decide), ?_⟩
    intro hwithin
    exact absurd (hwithin.inbound _ List.mem_cons_self) (by decide)

end EngineRun
end Streaming
end EchoSync
