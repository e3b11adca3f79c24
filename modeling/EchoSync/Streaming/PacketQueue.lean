import EchoSync.Streaming.Packet

/-!
# Streaming Engine - The packet queue

A bounded first-in first-out queue: a channel, whose receiving half is shared
behind a lock, and an approximate length that is counted beside it.  Every atomic
action on the queue is a function of its own, so that the steps of tasks that
use one queue can interleave.  The queue does not look at its elements.

Main results:

- Theorems {lit}`trySend_eq_some` and {lit}`recv_eq_some`: a packet enters the
  channel at its back and leaves it at its front.
-/

namespace EchoSync
namespace Streaming

/-- A task that can hold the lock of a receiver: a worker, or a caller of the
engine. -/
inductive TaskId where
  | worker (index : Nat)
  | call (index : Nat)
deriving DecidableEq

/-- The buffered packets, the task that holds the lock of the receiver, the
configured capacity and the counted length. -/
structure PacketQueue (α : Type) where
  channel : List α
  receiverLock : Option TaskId
  capacity : Nat
  length : U64
deriving DecidableEq

namespace PacketQueue

variable {α : Type}

/-- An empty queue. -/
def new (capacity : Nat) : PacketQueue α where
  channel := []
  receiverLock := none
  capacity := capacity
  length := 0

/-- Push a packet onto the back of the channel, which holds at least one packet,
unless it is full. -/
def trySend (q : PacketQueue α) (a : α) : Option (PacketQueue α) :=
  if q.channel.length < max q.capacity 1 then some { q with channel := q.channel ++ [a] }
  else none

/-- Take the lock of the receiver, unless it is held. -/
def lock (q : PacketQueue α) (task : TaskId) : Option (PacketQueue α) :=
  if q.receiverLock = none then some { q with receiverLock := some task } else none

/-- Release the lock of the receiver. -/
def unlock (q : PacketQueue α) : PacketQueue α :=
  { q with receiverLock := none }

/-- Pop a packet off the front of the channel, unless it is empty. -/
def recv (q : PacketQueue α) : Option (α × PacketQueue α) :=
  match q.channel with
  | [] => none
  | a :: rest => some (a, { q with channel := rest })

/-- Count one more packet; the count wraps around. -/
def countSent (q : PacketQueue α) : PacketQueue α :=
  { q with length := q.length + 1 }

/-- Count a number of packets less; the count wraps around. -/
def countTaken (q : PacketQueue α) (n : Nat) : PacketQueue α :=
  { q with length := q.length - U64.wrap n }

@[simp]
theorem unlock_channel (q : PacketQueue α) : q.unlock.channel = q.channel :=
  rfl

@[simp]
theorem countSent_channel (q : PacketQueue α) : q.countSent.channel = q.channel :=
  rfl

@[simp]
theorem countTaken_channel (q : PacketQueue α) (n : Nat) :
    (q.countTaken n).channel = q.channel :=
  rfl

/-- A packet enters the channel at its back. -/
theorem trySend_eq_some {q q' : PacketQueue α} {a : α} (h : q.trySend a = some q') :
    q' = { q with channel := q.channel ++ [a] } := by
  unfold trySend at h
  split_ifs at h
  exact (Option.some.inj h).symm

/-- Taking the lock changes nothing else. -/
theorem lock_channel {q q' : PacketQueue α} {task : TaskId} (h : q.lock task = some q') :
    q'.channel = q.channel := by
  unfold lock at h
  split_ifs at h
  rw [← Option.some.inj h]

/-- A packet leaves the channel at its front. -/
theorem recv_eq_some {q q' : PacketQueue α} {a : α} (h : q.recv = some (a, q')) :
    q.channel = a :: q'.channel := by
  unfold recv at h
  split at h
  · contradiction
  · rename_i front rest hchannel
    rw [Option.some.injEq, Prod.mk.injEq] at h
    rw [hchannel, h.1, ← h.2]

end PacketQueue
end Streaming
end EchoSync
