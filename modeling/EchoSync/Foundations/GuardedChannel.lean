import Mathlib

/-!
# Foundations - A channel whose receiver is behind a lock

Any number of tasks push into a channel; to take an element off it, a task has to
hold the lock of the receiving half, and a consumer keeps the lock while it waits for
an element.  What a task does with the receiver is its stance, and one step of a task
changes the channel, the lock and its own stance alone.

Main results:

- Structure {lit}`Owned` and theorem {lit}`Owned.move`: the lock belongs to the only
  task that is not away.
- Theorem {lit}`idleHeld_of_move`: a receiver gets held over an empty channel only by
  a task that takes the lock of an empty channel.
- Theorem {lit}`mem_channel_of_move`: what is in the channel was in it before, or was
  offered.
-/

namespace EchoSync

universe u v

/-- What a task does with the receiver of a channel. -/
inductive Stance where
  /-- The task does not hold the lock. -/
  | away
  /-- The task holds the lock and waits for an element. -/
  | awaiting
  /-- The task holds the lock and waits for nothing. -/
  | busy
deriving DecidableEq

/-- The elements in a channel and the task that holds the lock of its receiver. -/
structure GuardedChannel (ι : Type u) (α : Type v) where
  channel : List α
  lock : Option ι

namespace GuardedChannel

variable {ι : Type u} {α : Type v}

/-- What one step of a task can do to a channel and to its own stance, when it offers
these elements to the channel. -/
inductive Move (task : ι) (offers : α → Prop) (c : GuardedChannel ι α) (s : Stance) :
    GuardedChannel ι α → Stance → Prop where
  /-- The step has nothing to do with the channel. -/
  | stay : Move task offers c s c s
  /-- Push an element onto the back. -/
  | send (a : α) (ha : offers a) : Move task offers c s { c with channel := c.channel ++ [a] } s
  /-- Take the free lock. -/
  | acquire (s' : Stance) (haway : s = .away) (hs' : s' ≠ .away) (hfree : c.lock = none) :
      Move task offers c s { c with lock := some task } s'
  /-- Pop an element off the front. -/
  | take (a : α) (rest : List α) (hs : s ≠ .away) (hchannel : c.channel = a :: rest) :
      Move task offers c s { c with channel := rest } .busy
  /-- Release the lock. -/
  | release (hs : s ≠ .away) : Move task offers c s { c with lock := none } .away

variable {c c' : GuardedChannel ι α} {task : ι} {offers : α → Prop} {s s' : Stance}

/-- What is in the channel after a step was in it before, or was offered. -/
theorem mem_channel_of_move (hmove : Move task offers c s c' s') {a : α} (ha : a ∈ c'.channel) :
    a ∈ c.channel ∨ offers a := by
  cases hmove with
  | stay | acquire | release => exact Or.inl ha
  | send b hb =>
      rcases List.mem_append.mp ha with hold | hnew
      · exact Or.inl hold
      · rw [List.mem_singleton.mp hnew]
        exact Or.inr hb
  | take b rest hs hchannel =>
      left
      rw [hchannel]
      exact List.mem_cons_of_mem b ha

/-- A task that stays away and offers nothing leaves the channel alone. -/
theorem eq_of_move_away (hmove : Move task offers c s c' s') (hs : s = .away)
    (hs' : s' = .away) (hnone : ∀ a, ¬ offers a) : c' = c := by
  cases hmove with
  | stay => rfl
  | send a ha => exact absurd ha (hnone a)
  | acquire s' haway hbusy => exact absurd hs' hbusy
  | take a rest hbusy => exact absurd hs hbusy
  | release hbusy => exact absurd hs hbusy

/-! ## Ownership -/

/-- A task that is not away holds the lock. -/
def Owned (c : GuardedChannel ι α) (stance : ι → Stance) : Prop :=
  ∀ t, stance t ≠ .away → c.lock = some t

/-- The lock is held by a task that waits for an element of an empty channel. -/
def IdleHeld (c : GuardedChannel ι α) (stance : ι → Stance) : Prop :=
  c.channel = [] ∧ ∃ t, c.lock = some t ∧ stance t = .awaiting

instance (c : GuardedChannel ι α) (stance : ι → Stance) : Decidable (IdleHeld c stance) :=
  inferInstanceAs (Decidable (c.channel = [] ∧ ∃ t ∈ c.lock, stance t = .awaiting))

section Moves

variable [DecidableEq ι] {stance : ι → Stance}

/-- Every step of a task keeps the ownership of the lock. -/
theorem Owned.move (h : Owned c stance) (hmove : Move task offers c (stance task) c' s') :
    Owned c' (Function.update stance task s') := by
  intro t ht
  by_cases htask : t = task
  · subst htask
    rw [Function.update_self] at ht
    cases hmove with
    | stay | send => exact h t ht
    | acquire => rfl
    | take a rest hs => exact h t hs
    | release => contradiction
  · rw [Function.update_of_ne htask] at ht
    have hlock := h t ht
    cases hmove with
    | stay | send | take => exact hlock
    | acquire s' haway hs' hfree =>
        rw [hfree] at hlock
        contradiction
    | release hs =>
        rw [h task hs, Option.some.injEq] at hlock
        exact absurd hlock.symm htask

/-- A receiver gets held over an empty channel only by a task that takes the lock of an
empty channel to wait for an element. -/
theorem idleHeld_of_move (h : Owned c stance)
    (hmove : Move task offers c (stance task) c' s')
    (hidle : IdleHeld c' (Function.update stance task s')) :
    IdleHeld c stance ∨ (c.channel = [] ∧ stance task = .away ∧ s' = .awaiting) := by
  rcases hidle with ⟨hempty, t, hlock, hawaiting⟩
  cases hmove with
  | stay =>
      rw [Function.update_eq_self] at hawaiting
      exact Or.inl ⟨hempty, t, hlock, hawaiting⟩
  | send a ha => simp at hempty
  | acquire s' haway hs' hfree =>
      have htask : task = t := Option.some.inj hlock
      subst htask
      rw [Function.update_self] at hawaiting
      exact Or.inr ⟨hempty, haway, hawaiting⟩
  | take a rest hs hchannel =>
      -- the lock is the taker's own, and the taker does not wait any more
      have htask : task = t := Option.some.inj ((h task hs).symm.trans hlock)
      subst htask
      rw [Function.update_self] at hawaiting
      contradiction
  | release hs => contradiction

/-- Taking the lock of an empty channel to wait for an element holds it idle. -/
theorem idleHeld_acquire (hmove : Move task offers c (stance task) c' s')
    (haway : stance task = .away) (hempty : c.channel = []) (hs' : s' = .awaiting) :
    IdleHeld c' (Function.update stance task s') := by
  subst hs'
  generalize hs : stance task = s at hmove haway
  cases hmove with
  | stay | send => contradiction
  | acquire => exact ⟨hempty, task, rfl, Function.update_self _ _ _⟩

end Moves

end GuardedChannel
end EchoSync
