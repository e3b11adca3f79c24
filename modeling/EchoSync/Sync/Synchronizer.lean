import EchoSync.Sync.ClockManager

/-!
# Clock Synchronization Engine - The shared synchronizer

The concurrency-safe entry point of the Clock Synchronization Engine: a clock
manager behind a lock and an atomic running flag.  The lock-held body of a pass
is a function of its own, since a task may hold the lock long after it read the
flag.

Main results:

- Theorem {lit}`Synchronizer.stopped_unchanged`: a stopped synchronizer refuses
  every pass and keeps its state.
-/

namespace EchoSync
namespace Sync

/-- The lock-held body of a synchronization pass: measure, apply, estimate and
correct, counting the pass as failed at the first error. -/
def ClockManager.synchronizePass (c : ClockManager) (hostTimestamp localTimestamp : Duration)
    (now : Instant) : Except SyncError Unit × ClockManager :=
  match c.calculateOffset hostTimestamp localTimestamp with
  | .error e => (.error e, c.recordFailure)
  | .ok offsetMs =>
      match c.applyOffset offsetMs now with
      | (.error e, c) => (.error e, c.recordFailure)
      | (.ok (), c) =>
          match c.estimateDrift with
          | (.error e, c) => (.error e, c.recordFailure)
          | (.ok _, c) => (.ok (), c.correctDrift.2.recordSuccess)

/-- The state shared by the clones of a synchronizer. -/
structure Synchronizer where
  inner : ClockManager
  running : Bool
  config : SyncConfig

namespace Synchronizer

/-- A stopped synchronizer. -/
def ofConfig (config : SyncConfig) (now : Instant) : Synchronizer where
  inner := ClockManager.ofConfig config now
  running := false
  config := config

/-- A stopped synchronizer over a configuration that passes its validation. -/
def new (config : SyncConfig) (now : Instant) : Except SyncError Synchronizer :=
  match ClockManager.new config now with
  | .error e => .error e
  | .ok _ => .ok (ofConfig config now)

/-- Start a session: set the flag, then reset the clock. -/
def start (s : Synchronizer) (now : Instant) : Except SyncError Unit × Synchronizer :=
  if s.running then (.error .alreadyStarted, s)
  else (.ok (), { s with running := true, inner := s.inner.reset now })

/-- Stop the session. -/
def stop (s : Synchronizer) : Except SyncError Unit × Synchronizer :=
  if s.running then (.ok (), { s with running := false }) else (.error .notStarted, s)

/-- Run one full synchronization pass. -/
def synchronize (s : Synchronizer) (hostTimestamp localTimestamp : Duration) (now : Instant) :
    Except SyncError Unit × Synchronizer :=
  if s.running then
    let (result, inner) := s.inner.synchronizePass hostTimestamp localTimestamp now
    (result, { s with inner := inner })
  else (.error .notStarted, s)

/-- Run one correction step without a new measurement. -/
def update (s : Synchronizer) : Except SyncError Unit × Synchronizer :=
  if s.running then (.ok (), { s with inner := s.inner.correctDrift.2 })
  else (.error .notStarted, s)

/-- The applied offset, in milliseconds. -/
def currentOffset (s : Synchronizer) : ℚ :=
  s.inner.currentOffsetMs

/-- A stopped synchronizer refuses every pass and keeps its state. -/
theorem stopped_unchanged {s : Synchronizer} (h : s.running = false)
    (hostTimestamp localTimestamp : Duration) (now : Instant) :
    s.synchronize hostTimestamp localTimestamp now = (.error .notStarted, s) ∧
      s.update = (.error .notStarted, s) := by
  simp [synchronize, update, h]

theorem synchronize_of_running {s : Synchronizer} (hrunning : s.running = true)
    (hostTimestamp localTimestamp : Duration) (now : Instant) :
    s.synchronize hostTimestamp localTimestamp now =
      ((s.inner.synchronizePass hostTimestamp localTimestamp now).1,
        { s with inner := (s.inner.synchronizePass hostTimestamp localTimestamp now).2 }) := by
  simp [synchronize, hrunning]

theorem update_of_running {s : Synchronizer} (hrunning : s.running = true) :
    s.update = (.ok (), { s with inner := s.inner.correctDrift.2 }) := by
  simp [update, hrunning]

end Synchronizer

end Sync
end EchoSync
