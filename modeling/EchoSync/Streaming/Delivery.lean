import EchoSync.Streaming.Engine

/-!
# Streaming Engine - Delivery of one packet

A worker hands a packet to the transport in a loop that counts its attempts down from
one more than the configured retries.  Here the loop is a function of the outcomes of the
attempts; the worker of a run makes the same attempts one step at a time.

Main results:

- Theorem {lit}`deliverLoop_cases`: the loop ends at the first attempt that does not time
  out, or after the last one.
- Theorem {lit}`deliver_once_iff`: the delivery is bounded, counted once and free of
  overflow exactly if the retry count is not the largest number.
- Theorem {lit}`run_delivers`: the steps of a worker leave the engine as the loop does.
-/

namespace EchoSync
namespace Streaming

open TransitionSystem EngineRun

/-! ## The loop -/

/-- How a delivery ends: its answer, the number of attempts made, and the engine with its
counters. -/
structure Delivery where
  result : Outcome StreamingError Unit
  attempts : Nat
  engine : StreamingEngine
deriving DecidableEq

namespace StreamingEngine

/-- The answer after the last attempt has timed out; its text adds one to the retries
again. -/
def exhausted (profile : BuildProfile) (e : StreamingEngine) : Outcome StreamingError Unit :=
  match U32.add profile e.config.maxRetryCount 1 with
  | none => .panicked
  | some n => .err (.sendFailed ("timed out after " ++ toString n.val ++ " attempt(s)"))

/-- The loop of a delivery, given the outcome of every attempt; {lit}`attempts` were made
before. -/
def deliverLoop (profile : BuildProfile) (e : StreamingEngine) (outcomes : Nat → AttemptOutcome) :
    Nat → Nat → U32 → Option Delivery
  | 0, _, _ => none
  | fuel + 1, attempts, attemptsRemaining =>
      match U32.sub profile attemptsRemaining 1 with
      | none => some ⟨.panicked, attempts, e⟩
      | some attemptsRemaining =>
          match outcomes attempts with
          | .sent => some ⟨.ok (), attempts + 1, e.countSent⟩
          | .disconnected =>
              some ⟨.err .transportUnavailable, attempts + 1, e.countSendFailed⟩
          | .timedOut =>
              if attemptsRemaining = 0 then
                some ⟨e.exhausted profile, attempts + 1, e.countSendFailed⟩
              else e.deliverLoop profile outcomes fuel (attempts + 1) attemptsRemaining

/-- Hand a packet to the transport, with one attempt more than the configured retries. -/
def deliverToTransport (profile : BuildProfile) (e : StreamingEngine)
    (outcomes : Nat → AttemptOutcome) (fuel : Nat) : Option Delivery :=
  match U32.add profile e.config.maxRetryCount 1 with
  | none => some ⟨.panicked, 0, e⟩
  | some attemptsRemaining => e.deliverLoop profile outcomes fuel 0 attemptsRemaining

end StreamingEngine

section Loop

variable {profile : BuildProfile} {e : StreamingEngine} {outcomes : Nat → AttemptOutcome}

/-- How the loop ends that begins with so many attempts made and {lit}`last` more attempts
allowed after the next one. -/
inductive Ends (profile : BuildProfile) (e : StreamingEngine) (outcomes : Nat → AttemptOutcome)
    (made last : Nat) : Delivery → Prop where
  | sent (j : Nat) (hj : j ≤ last) (hbefore : ∀ i < j, outcomes (made + i) = .timedOut)
      (hsent : outcomes (made + j) = .sent) :
      Ends profile e outcomes made last ⟨.ok (), made + j + 1, e.countSent⟩
  | disconnected (j : Nat) (hj : j ≤ last) (hbefore : ∀ i < j, outcomes (made + i) = .timedOut)
      (hgone : outcomes (made + j) = .disconnected) :
      Ends profile e outcomes made last
        ⟨.err .transportUnavailable, made + j + 1, e.countSendFailed⟩
  | exhausted (hall : ∀ i ≤ last, outcomes (made + i) = .timedOut) :
      Ends profile e outcomes made last
        ⟨e.exhausted profile, made + last + 1, e.countSendFailed⟩

/-- One attempt that times out before the loop ends. -/
theorem Ends.timedOut {made last : Nat} {d : Delivery} (hnow : outcomes made = .timedOut)
    (h : Ends profile e outcomes (made + 1) last d) :
    Ends profile e outcomes made (last + 1) d := by
  have hshift : ∀ j, made + 1 + j = made + (j + 1) := by
    intro j
    omega
  have hearlier : ∀ j, (∀ i < j, outcomes (made + 1 + i) = .timedOut) →
      ∀ i < j + 1, outcomes (made + i) = .timedOut := by
    intro j hbefore i hi
    cases i with
    | zero => exact hnow
    | succ i =>
        rw [← hshift]
        exact hbefore i (Nat.lt_of_succ_lt_succ hi)
  cases h with
  | sent j hj hbefore hsent =>
      rw [hshift] at hsent ⊢
      exact .sent (j + 1) (Nat.succ_le_succ hj) (hearlier j hbefore) hsent
  | disconnected j hj hbefore hgone =>
      rw [hshift] at hgone ⊢
      exact .disconnected (j + 1) (Nat.succ_le_succ hj) (hearlier j hbefore) hgone
  | exhausted hall =>
      rw [hshift]
      refine .exhausted ?_
      intro i hi
      exact hearlier (last + 1) (fun i hi => hall i (Nat.lt_succ_iff.mp hi)) i
        (Nat.lt_succ_iff.mpr hi)

/-- An attempt that does not time out ends the loop. -/
theorem deliverLoop_first {last made : Nat} {attemptsRemaining : U32}
    (hremaining : attemptsRemaining.val = last + 1) (hnow : outcomes made ≠ .timedOut) :
    ∃ d, Ends profile e outcomes made last d ∧ ∀ fuel, last + 1 ≤ fuel →
      e.deliverLoop profile outcomes fuel made attemptsRemaining = some d := by
  rcases U32.sub_one_of_val profile hremaining with ⟨remaining, hsub, -⟩
  cases houtcome : outcomes made with
  | sent =>
      refine ⟨_, .sent 0 (Nat.zero_le _) (by simp) houtcome, ?_⟩
      intro fuel hfuel
      rcases Nat.exists_eq_add_of_le' hfuel with ⟨fuel, rfl⟩
      simp only [StreamingEngine.deliverLoop, hsub, houtcome, Nat.add_zero]
  | disconnected =>
      refine ⟨_, .disconnected 0 (Nat.zero_le _) (by simp) houtcome, ?_⟩
      intro fuel hfuel
      rcases Nat.exists_eq_add_of_le' hfuel with ⟨fuel, rfl⟩
      simp only [StreamingEngine.deliverLoop, hsub, houtcome, Nat.add_zero]
  | timedOut => exact absurd houtcome hnow

/-- The loop ends at the first attempt that does not time out, or after the last one. -/
theorem deliverLoop_cases (last made : Nat) (attemptsRemaining : U32)
    (hremaining : attemptsRemaining.val = last + 1) :
    ∃ d, Ends profile e outcomes made last d ∧ ∀ fuel, last + 1 ≤ fuel →
      e.deliverLoop profile outcomes fuel made attemptsRemaining = some d := by
  induction last generalizing made attemptsRemaining with
  | zero =>
      by_cases hnow : outcomes made = .timedOut
      · rcases U32.sub_one_of_val profile hremaining with ⟨remaining, hsub, hval⟩
        have hzero : remaining = 0 := Fin.ext hval
        refine ⟨_, .exhausted (by simpa using hnow), ?_⟩
        intro fuel hfuel
        rcases Nat.exists_eq_add_of_le' hfuel with ⟨fuel, rfl⟩
        simp only [StreamingEngine.deliverLoop, hsub, hnow, hzero, if_true, Nat.add_zero]
      · exact deliverLoop_first hremaining hnow
  | succ last ih =>
      by_cases hnow : outcomes made = .timedOut
      · rcases U32.sub_one_of_val profile hremaining with ⟨remaining, hsub, hval⟩
        have hne : remaining ≠ 0 := by
          rintro rfl
          exact absurd hval (Nat.succ_ne_zero last).symm
        rcases ih (made + 1) remaining hval with ⟨d, hends, hloop⟩
        refine ⟨d, hends.timedOut hnow, ?_⟩
        intro fuel hfuel
        rcases Nat.exists_eq_add_of_le' hfuel with ⟨fuel, rfl⟩
        simp only [StreamingEngine.deliverLoop, hsub, hnow, hne, if_false]
        exact hloop _ (Nat.le_add_left _ _)
      · exact deliverLoop_first hremaining hnow

end Loop

/-! ## Bounded and counted once -/

/-- A delivery with so many retries: it makes at most one attempt more, does not panic,
succeeds exactly if an attempt succeeds before a disconnection, reports the first attempt that
finds the transport gone, gives up exactly if every attempt times out, and counts the packet
once, as sent or as failed. -/
structure DeliveredOnce (e : StreamingEngine) (outcomes : Nat → AttemptOutcome) (d : Delivery) :
    Prop where
  bounded : d.attempts ≤ e.config.maxRetryCount.val + 1
  returns : d.result ≠ .panicked
  sent : d.result = .ok () ∧ d.engine = e.countSent ↔
    ∃ j ≤ e.config.maxRetryCount.val, outcomes j = .sent ∧ ∀ i < j, outcomes i ≠ .disconnected
  disconnected : ∀ j ≤ e.config.maxRetryCount.val, outcomes j = .disconnected →
    (∀ i < j, outcomes i = .timedOut) →
      d.result = .err .transportUnavailable ∧ d.attempts = j + 1
  exhausted : (∃ reason, d.result = .err (.sendFailed reason)) ↔
    ∀ j ≤ e.config.maxRetryCount.val, outcomes j = .timedOut
  failed : ∀ error, d.result = .err error → d.engine = e.countSendFailed

section Delivered

variable {profile : BuildProfile} {e : StreamingEngine} {outcomes : Nat → AttemptOutcome}

/-- The text of the last error names all attempts. -/
theorem exhausted_eq (hfits : e.config.maxRetryCount.val + 1 < 2 ^ 32) :
    e.exhausted profile = .err (.sendFailed
      ("timed out after " ++ toString (e.config.maxRetryCount.val + 1) ++ " attempt(s)")) := by
  rw [StreamingEngine.exhausted, U32.add_one_of_fits profile hfits]

/-- There is only one first attempt that does not time out. -/
theorem first_unique {j k : Nat} (hj : ∀ i < j, outcomes i = .timedOut)
    (hk : ∀ i < k, outcomes i = .timedOut) (hend : outcomes j ≠ .timedOut)
    (hend' : outcomes k ≠ .timedOut) : j = k := by
  rcases lt_trichotomy j k with hlt | heq | hgt
  · exact absurd (hk j hlt) hend
  · exact heq
  · exact absurd (hj k hgt) hend'

/-- A packet that is sent after timeouts alone is delivered once. -/
theorem deliveredOnce_of_sent {j : Nat} (hj : j ≤ e.config.maxRetryCount.val)
    (hbefore : ∀ i < j, outcomes i = .timedOut) (hsent : outcomes j = .sent) :
    DeliveredOnce e outcomes ⟨.ok (), j + 1, e.countSent⟩ where
  bounded := Nat.succ_le_succ hj
  returns := by simp
  sent := by
    refine iff_of_true ⟨rfl, rfl⟩ ⟨j, hj, hsent, ?_⟩
    intro i hi
    simp [hbefore i hi]
  disconnected := by
    intro k _ hgone hearlier
    have hsame := first_unique hbefore hearlier (by simp [hsent]) (by simp [hgone])
    rw [hsame, hgone] at hsent
    cases hsent
  exhausted := by
    refine iff_of_false (by simp) ?_
    intro hall
    rw [hall j hj] at hsent
    cases hsent
  failed := by simp

/-- A packet that finds the transport gone after timeouts alone is counted once. -/
theorem deliveredOnce_of_disconnected {j : Nat} (hj : j ≤ e.config.maxRetryCount.val)
    (hbefore : ∀ i < j, outcomes i = .timedOut) (hgone : outcomes j = .disconnected) :
    DeliveredOnce e outcomes ⟨.err .transportUnavailable, j + 1, e.countSendFailed⟩ where
  bounded := Nat.succ_le_succ hj
  returns := by simp
  sent := by
    refine iff_of_false (by simp) ?_
    rintro ⟨k, _, hsent, hconnected⟩
    rcases lt_trichotomy j k with hlt | heq | hgt
    · exact hconnected j hlt hgone
    · rw [← heq, hgone] at hsent
      cases hsent
    · rw [hbefore k hgt] at hsent
      cases hsent
  disconnected := by
    intro k _ hgone' hearlier
    have hsame := first_unique hbefore hearlier (by simp [hgone]) (by simp [hgone'])
    exact ⟨rfl, congrArg Nat.succ hsame⟩
  exhausted := by
    refine iff_of_false (by simp) ?_
    intro hall
    rw [hall j hj] at hgone
    cases hgone
  failed := fun _ _ => rfl

/-- A packet whose attempts all time out is counted once. -/
theorem deliveredOnce_of_exhausted (hfits : e.config.maxRetryCount.val + 1 < 2 ^ 32)
    (hall : ∀ i ≤ e.config.maxRetryCount.val, outcomes i = .timedOut) :
    DeliveredOnce e outcomes
      ⟨e.exhausted profile, e.config.maxRetryCount.val + 1, e.countSendFailed⟩ := by
  rw [exhausted_eq hfits]
  exact
    { bounded := le_rfl
      returns := by simp
      sent := by
        refine iff_of_false (by simp) ?_
        rintro ⟨k, hk, hsent, -⟩
        rw [hall k hk] at hsent
        cases hsent
      disconnected := by
        intro k hk hgone
        rw [hall k hk] at hgone
        cases hgone
      exhausted := iff_of_true ⟨_, rfl⟩ hall
      failed := fun _ _ => rfl }

/-- A loop that ends like this delivers once. -/
theorem Ends.deliveredOnce {d : Delivery} (hfits : e.config.maxRetryCount.val + 1 < 2 ^ 32)
    (h : Ends profile e outcomes 0 e.config.maxRetryCount.val d) : DeliveredOnce e outcomes d := by
  cases h with
  | sent j hj hbefore hsent =>
      simp only [Nat.zero_add] at hbefore hsent ⊢
      exact deliveredOnce_of_sent hj hbefore hsent
  | disconnected j hj hbefore hgone =>
      simp only [Nat.zero_add] at hbefore hgone ⊢
      exact deliveredOnce_of_disconnected hj hbefore hgone
  | exhausted hall =>
      simp only [Nat.zero_add] at hall ⊢
      exact deliveredOnce_of_exhausted hfits hall

/-- For every sequence of outcomes, the delivery ends within one attempt more than the retries
and delivers once in every build, exactly if the retry count is not the largest number. -/
theorem deliver_once_iff (e : StreamingEngine) (outcomes : Nat → AttemptOutcome) :
    (∀ profile, ∃ d, DeliveredOnce e outcomes d ∧
      ∀ fuel, e.config.maxRetryCount.val + 1 ≤ fuel →
        e.deliverToTransport profile outcomes fuel = some d) ↔
      e.config.maxRetryCount.val + 1 < 2 ^ 32 := by
  constructor
  · intro hall
    by_contra hlarge
    rcases hall ⟨true⟩ with ⟨d, hdelivered, hloop⟩
    have hpanics : U32.add ⟨true⟩ e.config.maxRetryCount 1 = none :=
      if_pos ⟨rfl, not_lt.mp hlarge⟩
    have hd := hloop _ le_rfl
    rw [StreamingEngine.deliverToTransport, hpanics, Option.some.injEq] at hd
    exact hdelivered.returns (congrArg Delivery.result hd).symm
  · intro hfits profile
    rcases @deliverLoop_cases profile e outcomes e.config.maxRetryCount.val 0
      ⟨e.config.maxRetryCount.val + 1, hfits⟩ rfl with ⟨d, hends, hloop⟩
    refine ⟨d, hends.deliveredOnce hfits, ?_⟩
    intro fuel hfuel
    rw [StreamingEngine.deliverToTransport, U32.add_one_of_fits profile hfits]
    exact hloop fuel hfuel

/-- With the largest retry count, a checked build panics before the first attempt; an
unchecked build makes the attempt, and would report no attempts at all. -/
theorem deliver_overflows :
    let e := StreamingEngine.ofConfig { StreamingConfig.default with maxRetryCount := 2 ^ 32 - 1 }
    e.deliverToTransport ⟨true⟩ (fun _ => .sent) (2 ^ 32) = some ⟨.panicked, 0, e⟩ ∧
      e.exhausted ⟨false⟩ = .err (.sendFailed "timed out after 0 attempt(s)") := by
  decide +kernel

end Delivered

/-! ## The worker of a run -/

section Worker

variable {profile : BuildProfile} {outcomes : Nat → AttemptOutcome} {w : Nat} {p : Ticketed}
  {seen : Nat}

theorem step_attempt {r : EngineRun} {x : Worker} (hw : r.workers[w]? = some x)
    (outcome : AttemptOutcome) :
    EngineRun.step profile r (.attempt w outcome) = r.stepAttempt w x outcome := by
  simp [EngineRun.step, hw]

theorem step_worker {r : EngineRun} {x : Worker} (hw : r.workers[w]? = some x) :
    EngineRun.step profile r (.worker w) = r.stepWorker profile w x := by
  simp [EngineRun.step, hw]

theorem setWorker_self {r : EngineRun} {x : Worker} (hw : r.workers[w]? = some x) (y : Worker) :
    (r.setWorker w y).workers[w]? = some y := by
  rcases List.getElem?_eq_some_iff.mp hw with ⟨hlt, -⟩
  rw [setWorker_workers, List.getElem?_set_self hlt]

/-- A worker counts a packet that it has sent. -/
theorem run_countSent {r : EngineRun} {remaining : U32}
    (hw : r.workers[w]? = some ⟨.attempting p remaining, seen⟩) :
    ∃ r', run (EngineRun.step profile) r [.attempt w .sent, .worker w] = some r' ∧
      r'.engine = r.engine.countSent ∧ r'.workers[w]? = some ⟨.top, seen⟩ := by
  have hsent := @setWorker_self w { r with transport := r.transport ++ [p] } _ hw
    ⟨.countSent, seen⟩
  refine ⟨_, run_cons_eq_some.mpr ⟨_, step_attempt hw .sent, run_cons_eq_some.mpr
    ⟨_, step_worker hsent, rfl⟩⟩, rfl, ?_⟩
  exact setWorker_self hsent _

/-- A worker counts a packet whose last attempt has failed. -/
theorem run_countFailed {r : EngineRun} {x : Worker} {outcome : AttemptOutcome}
    (hw : r.workers[w]? = some x)
    (hattempt : r.stepAttempt w x outcome = some (r.setWorker w ⟨.countFailed p, seen⟩)) :
    ∃ r', run (EngineRun.step profile) r [.attempt w outcome, .worker w] = some r' ∧
      r'.engine = r.engine.countSendFailed ∧ r'.workers[w]? = some ⟨.top, seen⟩ := by
  have hfailed := setWorker_self hw ⟨.countFailed p, seen⟩
  refine ⟨_, run_cons_eq_some.mpr ⟨_, (step_attempt hw outcome).trans hattempt,
    run_cons_eq_some.mpr ⟨_, step_worker hfailed, rfl⟩⟩, rfl, ?_⟩
  exact setWorker_self hfailed _

/-- A worker that is about to make an attempt makes the attempts of the loop, whatever their
outcomes are, and leaves the engine as the loop does. -/
theorem run_delivers (fuel made : Nat) (attempts : U32) (r : EngineRun) (d : Delivery)
    (hw : r.workers[w]? = some ⟨beginAttempt profile p attempts, seen⟩)
    (hloop : r.engine.deliverLoop profile outcomes fuel made attempts = some d)
    (hreturns : d.result ≠ .panicked) :
    ∃ actions r', run (EngineRun.step profile) r actions = some r' ∧ r'.engine = d.engine ∧
      r'.workers[w]? = some ⟨.top, seen⟩ := by
  induction fuel generalizing made attempts r with
  | zero => cases hloop
  | succ fuel ih =>
      simp only [StreamingEngine.deliverLoop] at hloop
      cases hsub : U32.sub profile attempts 1 with
      | none =>
          rw [hsub] at hloop
          cases hloop
          exact absurd rfl hreturns
      | some remaining =>
          rw [beginAttempt, hsub] at hw
          rw [hsub] at hloop
          dsimp only at hloop hw
          cases houtcome : outcomes made with
          | sent =>
              rw [houtcome] at hloop
              cases hloop
              exact ⟨_, run_countSent hw⟩
          | disconnected =>
              rw [houtcome] at hloop
              cases hloop
              have hattempt : r.stepAttempt w ⟨.attempting p remaining, seen⟩ .disconnected =
                  some (r.setWorker w ⟨.countFailed p, seen⟩) := rfl
              exact ⟨_, run_countFailed hw hattempt⟩
          | timedOut =>
              rw [houtcome] at hloop
              dsimp only at hloop
              split_ifs at hloop with hzero
              · cases hloop
                have hattempt : r.stepAttempt w ⟨.attempting p remaining, seen⟩ .timedOut =
                    some (r.setWorker w ⟨.countFailed p, seen⟩) := if_pos hzero
                exact ⟨_, run_countFailed hw hattempt⟩
              · have hattempt : r.stepAttempt w ⟨.attempting p remaining, seen⟩ .timedOut =
                    some (r.setWorker w ⟨.backoff p remaining, seen⟩) := if_neg hzero
                have hsleeps := setWorker_self hw ⟨.backoff p remaining, seen⟩
                rcases ih (made + 1) remaining _ (setWorker_self hsleeps _) hloop with
                  ⟨actions, r', hrun, hleft⟩
                refine ⟨.attempt w .timedOut :: .worker w :: actions, r', ?_, hleft⟩
                refine run_cons_eq_some.mpr ⟨_, (step_attempt hw .timedOut).trans hattempt, ?_⟩
                exact run_cons_eq_some.mpr ⟨_, step_worker hsleeps, hrun⟩

end Worker

end Streaming
end EchoSync
