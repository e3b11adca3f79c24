import EchoSync.Foundations.TaskPool
import EchoSync.Foundations.TransitionSystem
import EchoSync.Streaming.PacketQueue

/-!
# Streaming Engine - The counted length of a queue

Any number of tasks enqueue into, dequeue from and clear one queue.  The channel and the
counted length are updated in separate steps: a producer counts a packet after it has sent
it, and a consumer counts it out after it has taken it, so a packet can be counted out
before it is counted in, and a new one counted in before an old one is counted out.

Main results:

- Theorem {lit}`stepCall_counted`: what one step of a call does to the channel, to the
  length and to the packets that the call has still to count.
- Theorem {lit}`length_possible`: the length is within the capacity in every run in which no
  update falls between the two steps of a call of the other side, and it is the number of
  buffered packets at rest in every run.
-/

namespace EchoSync
namespace Streaming

open TransitionSystem

/-! ## Calls on one queue -/

/-- What a call on a queue answers. -/
inductive QueueAnswer (α : Type) where
  | enqueued (result : Except StreamingError Unit)
  | dequeued (packet : α)
  | cleared

/-- Where a call is: each phase but the last two names the step that it makes next. -/
inductive QueuePhase (α : Type) where
  | enqueueSend (packet : α)
  | enqueueCount
  | dequeueLock
  | dequeueRecv
  | dequeueCount (packet : α)
  | dequeueUnlock (packet : α)
  | clearLock
  | clearDrain (drained : Nat)
  | clearCount (drained : Nat)
  | clearUnlock
  | returned (answer : QueueAnswer α)
  | cancelled

/-- A call on a queue. -/
inductive QueueCall (α : Type) where
  | enqueue (packet : α)
  | dequeue
  | clear

/-- The first step of a call. -/
def QueueCall.entry {α : Type} : QueueCall α → QueuePhase α
  | .enqueue packet => .enqueueSend packet
  | .dequeue => .dequeueLock
  | .clear => .clearLock

namespace QueuePhase

variable {α : Type}

/-- Whether a call has sent a packet and not counted it yet. -/
def sending : QueuePhase α → Bool
  | .enqueueCount => true
  | _ => false

/-- The packets that a call has taken and not counted yet. -/
def taken : QueuePhase α → Nat
  | .dequeueCount _ => 1
  | .clearDrain drained => drained
  | .clearCount drained => drained
  | _ => 0

/-- Whether a call has ended. -/
def finished : QueuePhase α → Bool
  | .returned _ => true
  | .cancelled => true
  | _ => false

end QueuePhase

/-- A queue and the calls made on it. -/
structure QueueTasks (α : Type) where
  queue : PacketQueue α
  calls : List (QueuePhase α)

/-- One step of a run: a task begins a call, a call makes its next step, or a call that waits
is dropped. -/
inductive QueueAction (α : Type) where
  | invoke (call : QueueCall α)
  | call (index : Nat)
  | cancel (index : Nat)

namespace QueueTasks

variable {α : Type}

/-- A new queue without calls. -/
def initial (capacity : Nat) : QueueTasks α where
  queue := PacketQueue.new capacity
  calls := []

/-- The state after a step of this call. -/
def proceed (r : QueueTasks α) (i : Nat) (q : PacketQueue α) (phase : QueuePhase α) :
    QueueTasks α where
  queue := q
  calls := r.calls.set i phase

/-- One step of the call of this number: the queue and the phase after it. -/
def stepCall (q : PacketQueue α) (i : Nat) : QueuePhase α → Option (PacketQueue α × QueuePhase α)
  | .enqueueSend packet =>
      match q.trySend packet with
      | some sent => some (sent, .enqueueCount)
      | none => some (q, .returned (.enqueued (.error (.queueOverflow q.capacity))))
  | .enqueueCount => some (q.countSent, .returned (.enqueued (.ok ())))
  | .dequeueLock => (q.lock (.call i)).map fun locked => (locked, .dequeueRecv)
  | .dequeueRecv => q.recv.map fun received => (received.2, .dequeueCount received.1)
  | .dequeueCount packet => some (q.countTaken 1, .dequeueUnlock packet)
  | .dequeueUnlock packet => some (q.unlock, .returned (.dequeued packet))
  | .clearLock => (q.lock (.call i)).map fun locked => (locked, .clearDrain 0)
  | .clearDrain drained =>
      match q.recv with
      | some (_, rest) => some (rest, .clearDrain (drained + 1))
      | none => some (q, .clearCount drained)
  | .clearCount drained =>
      some (if drained > 0 then q.countTaken drained else q, .clearUnlock)
  | .clearUnlock => some (q.unlock, .returned .cleared)
  | .returned _ => none
  | .cancelled => none

/-- A call that waits for the lock or for a packet is dropped, and releases the lock. -/
def cancelCall (q : PacketQueue α) : QueuePhase α → Option (PacketQueue α × QueuePhase α)
  | .dequeueLock => some (q, .cancelled)
  | .dequeueRecv => some (q.unlock, .cancelled)
  | .clearLock => some (q, .cancelled)
  | _ => none

/-- Make one step. -/
def step (r : QueueTasks α) : QueueAction α → Option (QueueTasks α)
  | .invoke call => some { r with calls := r.calls ++ [call.entry] }
  | .call i =>
      r.calls[i]?.bind fun phase =>
        (stepCall r.queue i phase).map fun next => r.proceed i next.1 next.2
  | .cancel i =>
      r.calls[i]?.bind fun phase =>
        (cancelCall r.queue phase).map fun next => r.proceed i next.1 next.2

/-- No call in flight. -/
def AtRest (r : QueueTasks α) : Prop :=
  ∀ phase ∈ r.calls, phase.finished = true

instance (r : QueueTasks α) : Decidable r.AtRest :=
  inferInstanceAs (Decidable (∀ phase ∈ r.calls, phase.finished = true))

/-- A step begins a call, or it is a step or the cancellation of one call. -/
theorem step_eq_some {r r' : QueueTasks α} {action : QueueAction α} :
    step r action = some r' ↔
      (∃ call, action = .invoke call ∧ { r with calls := r.calls ++ [call.entry] } = r') ∨
      (∃ i phase next, action = .call i ∧ r.calls[i]? = some phase ∧
        stepCall r.queue i phase = some next ∧ r.proceed i next.1 next.2 = r') ∨
      (∃ i phase next, action = .cancel i ∧ r.calls[i]? = some phase ∧
        cancelCall r.queue phase = some next ∧ r.proceed i next.1 next.2 = r') := by
  cases action with
  | invoke call => simp [step]
  | call i => simp [step, Option.bind_eq_some_iff]
  | cancel i => simp [step, Option.bind_eq_some_iff]

/-! ## What a step does to the counts -/

/-- What one step of a call does to the channel, to the length, and to the packets that the
call has sent or taken and not counted. -/
inductive Counted (q : PacketQueue α) (phase : QueuePhase α) (q' : PacketQueue α)
    (phase' : QueuePhase α) : Prop where
  | quiet (hlength : q'.length = q.length) (hchannel : q'.channel = q.channel)
      (hsending : phase'.sending = phase.sending) (htaken : phase'.taken = phase.taken)
  | sent (hroom : q.channel.length < max q.capacity 1) (hlength : q'.length = q.length)
      (hchannel : q'.channel.length = q.channel.length + 1)
      (hsending : phase.sending = false ∧ phase'.sending = true)
      (htaken : phase'.taken = phase.taken)
  | countedIn (hphase : phase = .enqueueCount) (hlength : q'.length = q.length + 1)
      (hchannel : q'.channel = q.channel) (hsending : phase'.sending = false)
      (htaken : phase'.taken = 0)
  | took (hlength : q'.length = q.length)
      (hchannel : q.channel.length = q'.channel.length + 1)
      (hsending : phase'.sending = phase.sending) (htaken : phase'.taken = phase.taken + 1)
  | countedOut (hphase : (∃ packet, phase = .dequeueCount packet) ∨
        ∃ drained, phase = .clearCount drained)
      (hlength : q'.length = q.length - U64.wrap phase.taken)
      (hchannel : q'.channel = q.channel) (hsending : phase'.sending = false)
      (htaken : phase'.taken = 0)

theorem recv_length {q q' : PacketQueue α} {a : α} (h : q.recv = some (a, q')) :
    q'.length = q.length ∧ q'.capacity = q.capacity := by
  unfold PacketQueue.recv at h
  split at h
  · contradiction
  · rw [Option.some.injEq, Prod.mk.injEq] at h
    rw [← h.2]
    exact ⟨rfl, rfl⟩

theorem lock_length {q q' : PacketQueue α} {task : TaskId} (h : q.lock task = some q') :
    q'.length = q.length ∧ q'.capacity = q.capacity := by
  unfold PacketQueue.lock at h
  split_ifs at h
  rw [← Option.some.inj h]
  exact ⟨rfl, rfl⟩

/-- What one step of a call does to the channel, to the length and to what the call has
still to count. -/
theorem stepCall_counted {q q' : PacketQueue α} {i : Nat} {phase phase' : QueuePhase α}
    (h : stepCall q i phase = some (q', phase')) :
    Counted q phase q' phase' ∧ q'.capacity = q.capacity := by
  cases phase with
  | enqueueSend packet =>
      simp only [stepCall, PacketQueue.trySend] at h
      split_ifs at h with hroom
      · cases h
        exact ⟨.sent hroom rfl (by simp) ⟨rfl, rfl⟩ rfl, rfl⟩
      · cases h
        exact ⟨.quiet rfl rfl rfl rfl, rfl⟩
  | enqueueCount =>
      cases h
      exact ⟨.countedIn rfl rfl rfl rfl rfl, rfl⟩
  | dequeueLock =>
      rcases Option.map_eq_some_iff.mp h with ⟨locked, hlock, hnext⟩
      cases hnext
      exact ⟨.quiet (lock_length hlock).1 (PacketQueue.lock_channel hlock) rfl rfl,
        (lock_length hlock).2⟩
  | dequeueRecv =>
      rcases Option.map_eq_some_iff.mp h with ⟨⟨packet, rest⟩, hrecv, hnext⟩
      cases hnext
      have hchannel := congrArg List.length (PacketQueue.recv_eq_some hrecv)
      exact ⟨.took (recv_length hrecv).1 hchannel rfl rfl, (recv_length hrecv).2⟩
  | dequeueCount packet =>
      cases h
      exact ⟨.countedOut (Or.inl ⟨packet, rfl⟩) rfl rfl rfl rfl, rfl⟩
  | dequeueUnlock packet =>
      cases h
      exact ⟨.quiet rfl rfl rfl rfl, rfl⟩
  | clearLock =>
      rcases Option.map_eq_some_iff.mp h with ⟨locked, hlock, hnext⟩
      cases hnext
      exact ⟨.quiet (lock_length hlock).1 (PacketQueue.lock_channel hlock) rfl rfl,
        (lock_length hlock).2⟩
  | clearDrain drained =>
      simp only [stepCall] at h
      split at h
      · rename_i packet rest hrecv
        cases h
        have hchannel := congrArg List.length (PacketQueue.recv_eq_some hrecv)
        exact ⟨.took (recv_length hrecv).1 hchannel rfl rfl, (recv_length hrecv).2⟩
      · cases h
        exact ⟨.quiet rfl rfl rfl rfl, rfl⟩
  | clearCount drained =>
      simp only [stepCall, Option.some.injEq, Prod.mk.injEq] at h
      rcases h with ⟨rfl, rfl⟩
      split_ifs with hdrained
      · exact ⟨.countedOut (Or.inr ⟨drained, rfl⟩) rfl rfl rfl rfl, rfl⟩
      · have hzero : drained = 0 := Nat.eq_zero_of_not_pos hdrained
        exact ⟨.quiet rfl rfl rfl hzero.symm, rfl⟩
  | clearUnlock =>
      cases h
      exact ⟨.quiet rfl rfl rfl rfl, rfl⟩
  | returned answer => contradiction
  | cancelled => contradiction

/-- A cancellation leaves the counts. -/
theorem cancelCall_quiet {q q' : PacketQueue α} {phase phase' : QueuePhase α}
    (h : cancelCall q phase = some (q', phase')) :
    Counted q phase q' phase' ∧ q'.capacity = q.capacity := by
  cases phase with
  | dequeueLock | dequeueRecv | clearLock =>
      cases h
      exact ⟨.quiet rfl rfl rfl rfl, rfl⟩
  | _ => contradiction

/-! ## The length in a run -/

/-- The packets sent into the channel and not counted yet. -/
def uncountedSent (r : QueueTasks α) : Nat :=
  r.calls.countP QueuePhase.sending

/-- The packets taken off the channel and not counted yet. -/
def uncountedTaken (r : QueueTasks α) : Nat :=
  (r.calls.map QueuePhase.taken).sum

/-- The next update of a call falls between the two steps of no call of the other side: a
packet is counted in only while no packet taken is waiting to be counted out, and packets are
counted out only while no packet sent is waiting to be counted in.  A clear that has drained
nothing makes no update. -/
def InOrder (r : QueueTasks α) : QueuePhase α → Prop
  | .enqueueCount => r.uncountedTaken = 0
  | .dequeueCount _ => r.uncountedSent = 0
  | .clearCount drained => drained = 0 ∨ r.uncountedSent = 0
  | _ => True

instance (r : QueueTasks α) : DecidablePred r.InOrder
  | .enqueueCount => inferInstanceAs (Decidable (_ = _))
  | .dequeueCount _ => inferInstanceAs (Decidable (_ = _))
  | .clearCount _ => inferInstanceAs (Decidable (_ ∨ _))
  | .enqueueSend _ | .dequeueLock | .dequeueRecv | .dequeueUnlock _ | .clearLock
  | .clearDrain _ | .clearUnlock | .returned _ | .cancelled => isTrue trivial

/-- The call that makes a step. -/
def stepping (r : QueueTasks α) : QueueAction α → Option (QueuePhase α)
  | .call i => r.calls[i]?
  | _ => none

/-- A step that updates the length does so in order. -/
def StepsInOrder (r : QueueTasks α) (action : QueueAction α) : Prop :=
  ∀ phase ∈ r.stepping action, r.InOrder phase

instance (r : QueueTasks α) (action : QueueAction α) : Decidable (r.StepsInOrder action) :=
  inferInstanceAs (Decidable (∀ phase ∈ r.stepping action, _))

/-- The channel is within the capacity, and the length agrees with it modulo
{lit}`2 ^ 64` up to the packets not counted yet. -/
structure Balanced (capacity : Nat) (r : QueueTasks α) : Prop where
  configured : r.queue.capacity = capacity
  room : r.queue.channel.length ≤ capacity
  balanced : (r.queue.length.val + r.uncountedSent) % 2 ^ 64 =
    (r.queue.channel.length + r.uncountedTaken) % 2 ^ 64

/-- The length agrees with the channel exactly, and is within the capacity. -/
structure Exact (capacity : Nat) (r : QueueTasks α) : Prop where
  exact : r.queue.length.val + r.uncountedSent = r.queue.channel.length + r.uncountedTaken
  within : r.queue.length.val ≤ capacity

section Steps

variable {capacity : Nat} {r r' : QueueTasks α} {i : Nat} {phase phase' : QueuePhase α}
  {q' : PacketQueue α}

theorem proceed_uncounted (hphase : r.calls[i]? = some phase) :
    (r.proceed i q' phase').uncountedSent + phase.sending.toNat =
        r.uncountedSent + phase'.sending.toNat ∧
      (r.proceed i q' phase').uncountedTaken + phase.taken = r.uncountedTaken + phase'.taken :=
  ⟨TaskPool.countP_set_add QueuePhase.sending hphase,
    TaskPool.sum_map_set_add QueuePhase.taken hphase⟩

theorem length_add_one (length : U64) : (length + 1).val = (length.val + 1) % 2 ^ 64 :=
  Fin.val_add length 1

theorem length_sub_wrap (length : U64) (n : Nat) :
    ((length - U64.wrap n).val + n) % 2 ^ 64 = length.val := by
  have hsub : (length - U64.wrap n).val = (2 ^ 64 - n % 2 ^ 64 + length.val) % 2 ^ 64 :=
    Fin.sub_def length (U64.wrap n) ▸ rfl
  have hlt := length.isLt
  omega

/-- What one step of a call does to the length, to the packets buffered and to those not
counted yet. -/
inductive Tallied (r r' : QueueTasks α) (phase : QueuePhase α) : Prop where
  | quiet (hlength : r'.queue.length = r.queue.length)
      (hchannel : r'.queue.channel.length = r.queue.channel.length)
      (hsent : r'.uncountedSent = r.uncountedSent) (htaken : r'.uncountedTaken = r.uncountedTaken)
  | sent (hroom : r.queue.channel.length < max r.queue.capacity 1)
      (hlength : r'.queue.length = r.queue.length)
      (hchannel : r'.queue.channel.length = r.queue.channel.length + 1)
      (hsent : r'.uncountedSent = r.uncountedSent + 1)
      (htaken : r'.uncountedTaken = r.uncountedTaken)
  | countedIn (hphase : phase = .enqueueCount)
      (hlength : r'.queue.length.val = (r.queue.length.val + 1) % 2 ^ 64)
      (hchannel : r'.queue.channel.length = r.queue.channel.length)
      (hsent : r'.uncountedSent + 1 = r.uncountedSent)
      (htaken : r'.uncountedTaken = r.uncountedTaken)
  | took (hlength : r'.queue.length = r.queue.length)
      (hchannel : r.queue.channel.length = r'.queue.channel.length + 1)
      (hsent : r'.uncountedSent = r.uncountedSent)
      (htaken : r'.uncountedTaken = r.uncountedTaken + 1)
  | countedOut (hphase : (∃ packet, phase = .dequeueCount packet) ∨
        ∃ drained, phase = .clearCount drained)
      (hlength : (r'.queue.length.val + phase.taken) % 2 ^ 64 = r.queue.length.val)
      (hchannel : r'.queue.channel.length = r.queue.channel.length)
      (hsent : r'.uncountedSent = r.uncountedSent)
      (htaken : r'.uncountedTaken + phase.taken = r.uncountedTaken)

theorem proceed_tallied (hphase : r.calls[i]? = some phase)
    (hcounted : Counted r.queue phase q' phase') :
    Tallied r (r.proceed i q' phase') phase := by
  rcases @proceed_uncounted _ r i phase phase' q' hphase with ⟨hsent, htaken⟩
  cases hcounted with
  | quiet hlength hchannel hsending hnone =>
      rw [hsending] at hsent
      rw [hnone] at htaken
      exact .quiet hlength (congrArg List.length hchannel) (Nat.add_right_cancel hsent)
        (Nat.add_right_cancel htaken)
  | sent hroom hlength hchannel hsending hnone =>
      rw [hsending.1, hsending.2] at hsent
      rw [hnone] at htaken
      exact .sent hroom hlength hchannel hsent (Nat.add_right_cancel htaken)
  | countedIn hcount hlength hchannel hsending hnone =>
      subst hcount
      rw [hsending] at hsent
      rw [hnone] at htaken
      exact .countedIn rfl (by rw [← length_add_one, ← hlength]; rfl)
        (congrArg List.length hchannel) hsent htaken
  | took hlength hchannel hsending hone =>
      rw [hsending] at hsent
      rw [hone, Nat.add_comm phase.taken, ← Nat.add_assoc] at htaken
      exact .took hlength hchannel (Nat.add_right_cancel hsent) (Nat.add_right_cancel htaken)
  | countedOut hcount hlength hchannel hsending hnone =>
      have hnot : phase.sending = false := by
        rcases hcount with ⟨packet, rfl⟩ | ⟨drained, rfl⟩ <;> rfl
      have hsub := length_sub_wrap r.queue.length phase.taken
      rw [hsending, hnot] at hsent
      rw [hnone] at htaken
      rw [← hlength] at hsub
      exact .countedOut hcount hsub (congrArg List.length hchannel) hsent htaken

/-- Every step of a call keeps the balance. -/
theorem Tallied.balanced (hpos : 0 < capacity) (h : r.Balanced capacity)
    (htallied : Tallied r r' phase) (hcapacity : r'.queue.capacity = r.queue.capacity) :
    r'.Balanced capacity := by
  rcases h with ⟨hsame, hroom, hbalanced⟩
  cases htallied with
  | quiet hlength hchannel hsent htaken =>
      exact ⟨hcapacity.trans hsame, by omega, by rw [hlength, hchannel, hsent, htaken, hbalanced]⟩
  | sent hfree hlength hchannel hsent htaken =>
      exact ⟨hcapacity.trans hsame, by omega, by rw [hlength]; omega⟩
  | countedIn _ hlength hchannel hsent htaken =>
      exact ⟨hcapacity.trans hsame, by omega, by omega⟩
  | took hlength hchannel hsent htaken =>
      exact ⟨hcapacity.trans hsame, by omega, by rw [hlength]; omega⟩
  | countedOut _ hlength hchannel hsent htaken =>
      exact ⟨hcapacity.trans hsame, by omega, by omega⟩

/-- A step whose update is in order keeps the length exact. -/
theorem Tallied.exact (hlimit : capacity < 2 ^ 64) (hbalanced : r.Balanced capacity)
    (h : r.Exact capacity) (htallied : Tallied r r' phase) (horder : r.InOrder phase) :
    r'.Exact capacity := by
  rcases h with ⟨hexact, hwithin⟩
  have hroom := hbalanced.room
  cases htallied with
  | quiet hlength hchannel hsent htaken =>
      exact ⟨by rw [hlength, hchannel, hsent, htaken, hexact], hlength ▸ hwithin⟩
  | sent _ hlength hchannel hsent htaken =>
      exact ⟨by rw [hlength]; omega, hlength ▸ hwithin⟩
  | countedIn hphase hlength hchannel hsent htaken =>
      -- the packets counted in are then among those buffered
      subst hphase
      have hnone : r.uncountedTaken = 0 := horder
      exact ⟨by omega, by omega⟩
  | took hlength hchannel hsent htaken =>
      exact ⟨by rw [hlength]; omega, hlength ▸ hwithin⟩
  | countedOut hphase hlength hchannel hsent htaken =>
      -- the packets counted out are then among those counted in
      have hnone : phase.taken = 0 ∨ r.uncountedSent = 0 := by
        rcases hphase with ⟨packet, rfl⟩ | ⟨drained, rfl⟩
        · exact Or.inr horder
        · exact horder
      have hbound := r'.queue.length.isLt
      rcases hnone with hzero | hnone
      · exact ⟨by omega, by omega⟩
      · exact ⟨by omega, by omega⟩

end Steps

/-- The beginning of a call leaves the counts. -/
theorem invoke_uncounted (r : QueueTasks α) (call : QueueCall α) :
    ({ r with calls := r.calls ++ [call.entry] } : QueueTasks α).uncountedSent =
        r.uncountedSent ∧
      ({ r with calls := r.calls ++ [call.entry] } : QueueTasks α).uncountedTaken =
        r.uncountedTaken := by
  cases call <;>
    simp [uncountedSent, uncountedTaken, QueueCall.entry, QueuePhase.sending, QueuePhase.taken,
      List.countP_append]

theorem step_balanced {capacity : Nat} {r r' : QueueTasks α} {action : QueueAction α}
    (hpos : 0 < capacity) (h : r.Balanced capacity) (hstep : step r action = some r') :
    r'.Balanced capacity := by
  rcases step_eq_some.mp hstep with ⟨call, -, rfl⟩ | ⟨i, phase, next, -, hphase, hcall, rfl⟩ |
    ⟨i, phase, next, -, hphase, hcancel, rfl⟩
  · rcases invoke_uncounted r call with ⟨hsent, htaken⟩
    exact ⟨h.configured, h.room, by rw [hsent, htaken]; exact h.balanced⟩
  · rcases stepCall_counted hcall with ⟨hcounted, hcapacity⟩
    exact (proceed_tallied hphase hcounted).balanced hpos h hcapacity
  · rcases cancelCall_quiet hcancel with ⟨hcounted, hcapacity⟩
    exact (proceed_tallied hphase hcounted).balanced hpos h hcapacity

theorem step_exact {capacity : Nat} {r r' : QueueTasks α} {action : QueueAction α}
    (hlimit : capacity < 2 ^ 64) (hbalanced : r.Balanced capacity) (h : r.Exact capacity)
    (hstep : restrict StepsInOrder step r action = some r') : r'.Exact capacity := by
  rcases restrict_eq_some.mp hstep with ⟨hguard, hstep⟩
  rcases step_eq_some.mp hstep with ⟨call, -, rfl⟩ | ⟨i, phase, next, rfl, hphase, hcall, rfl⟩ |
    ⟨i, phase, next, -, hphase, hcancel, rfl⟩
  · rcases invoke_uncounted r call with ⟨hsent, htaken⟩
    exact ⟨by rw [hsent, htaken]; exact h.exact, h.within⟩
  · rcases stepCall_counted hcall with ⟨hcounted, -⟩
    exact (proceed_tallied hphase hcounted).exact hlimit hbalanced h (hguard phase hphase)
  · rcases cancelCall_quiet hcancel with ⟨hcounted, -⟩
    refine (proceed_tallied hphase hcounted).exact hlimit hbalanced h ?_
    cases phase with
    | enqueueCount | dequeueCount _ | clearCount _ => contradiction
    | _ => trivial

theorem initial_balanced (capacity : Nat) :
    (initial capacity : QueueTasks α).Balanced capacity :=
  ⟨rfl, Nat.zero_le _, rfl⟩

theorem initial_exact (capacity : Nat) : (initial capacity : QueueTasks α).Exact capacity :=
  ⟨rfl, Nat.zero_le _⟩

/-- With no call in flight, every packet is counted. -/
theorem uncounted_at_rest {r : QueueTasks α} (h : r.AtRest) :
    r.uncountedSent = 0 ∧ r.uncountedTaken = 0 := by
  constructor
  · rw [uncountedSent, List.countP_eq_zero]
    intro phase hphase
    have hfinished := h phase hphase
    cases phase <;> simp_all [QueuePhase.sending, QueuePhase.finished]
  · rw [uncountedTaken, List.sum_eq_zero_iff]
    intro n hn
    rcases List.mem_map.mp hn with ⟨phase, hphase, rfl⟩
    have hfinished := h phase hphase
    cases phase <;> first | rfl | contradiction

/-- In every run of any number of calls whose updates of the length are in order, the length
is at most the capacity.  In every run at all, the length is the number of buffered packets
whenever no call is in flight. -/
theorem length_possible (capacity : U64) (hcapacity : 1 ≤ capacity.val) :
    (∀ (actions : List (QueueAction α)) (r : QueueTasks α),
      run (restrict StepsInOrder step) (initial capacity.val) actions = some r →
        r.queue.length.val ≤ capacity.val) ∧
      ∀ (actions : List (QueueAction α)) (r : QueueTasks α),
        run step (initial capacity.val) actions = some r → r.AtRest →
          r.queue.length.val = r.queue.channel.length := by
  constructor
  · intro actions r hrun
    have hkept : r.Balanced capacity.val ∧ r.Exact capacity.val := by
      refine run_invariant (fun r => r.Balanced capacity.val ∧ r.Exact capacity.val) ?_
        ⟨initial_balanced capacity.val, initial_exact capacity.val⟩ hrun
      rintro r action r' ⟨hbalanced, hexact⟩ hstep
      exact ⟨step_balanced hcapacity hbalanced (restrict_eq_some.mp hstep).2,
        step_exact capacity.isLt hbalanced hexact hstep⟩
    exact hkept.2.within
  · intro actions r hrun hrest
    have hbalanced : r.Balanced capacity.val :=
      run_invariant (Balanced capacity.val)
        (fun _ _ _ h hstep => step_balanced hcapacity h hstep)
        (initial_balanced capacity.val) hrun
    rcases uncounted_at_rest hrest with ⟨hsent, htaken⟩
    have hcounts := hbalanced.balanced
    have hroom := hbalanced.room
    have hlimit := capacity.isLt
    have hlength := r.queue.length.isLt
    rw [hsent, htaken] at hcounts
    omega

/-- A packet that is dequeued from a queue of one place and a packet that is cleared from it,
each update in order. -/
theorem length_possible_one :
    ∃ r : QueueTasks Nat, run (restrict StepsInOrder step) (initial 1)
        [.invoke (.enqueue 7), .call 0, .call 0, .invoke .dequeue, .call 1, .call 1, .call 1,
          .call 1, .invoke (.enqueue 8), .call 2, .call 2, .invoke .clear, .call 3, .call 3,
          .call 3, .call 3] = some r ∧
      r.queue.length.val ≤ 1 := by
  have hrun : (run (restrict StepsInOrder step) (initial 1 : QueueTasks Nat)
      [.invoke (.enqueue 7), .call 0, .call 0, .invoke .dequeue, .call 1, .call 1, .call 1,
        .call 1, .invoke (.enqueue 8), .call 2, .call 2, .invoke .clear, .call 3, .call 3,
        .call 3, .call 3]).any (fun _ => true) = true := by
    decide +kernel
  rcases (Option.any_eq_true _ _).mp hrun with ⟨r, hr, -⟩
  exact ⟨r, hr, (length_possible 1 (by decide)).1 _ r hr⟩

/-- A consumer that counts its packet out before the producer has counted it in leaves the
largest length; a producer that counts its packet in before the consumer has counted the one
before it out leaves a length above the capacity. -/
theorem length_impossible :
    (∃ r : QueueTasks Nat, run step (initial 1)
        [.invoke (.enqueue 7), .call 0, .invoke .dequeue, .call 1, .call 1, .call 1] = some r ∧
      r.queue.length.val = 2 ^ 64 - 1) ∧
    ∃ r : QueueTasks Nat, run step (initial 1)
        [.invoke (.enqueue 7), .call 0, .call 0, .invoke .dequeue, .call 1, .call 1,
          .invoke (.enqueue 8), .call 2, .call 2] = some r ∧
      r.queue.length.val = 2 := by
  constructor
  · refine exists_of_any ?_
    decide +kernel
  · refine exists_of_any ?_
    decide +kernel

end QueueTasks
end Streaming
end EchoSync
