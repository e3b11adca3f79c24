import Mathlib

/-!
# Foundations - Finite runs of a labelled step function

A component is described by a partial step function on its states: a label is
one atomic action of its environment or of one of its tasks, and a disabled
label has no successor.  An interleaving of any number of tasks is then one
list of labels.  This file packages the inductions over such lists once.

Main results:

- Theorem {lit}`run_append_eq_some`: a run splits at every prefix.
- Theorem {lit}`run_invariant`: a property preserved by every step is
  preserved by every run.
- Theorem {lit}`run_forall_iff`: a property whose preservation a guard decides holds
  in every state of a run exactly when every step meets the guard.
- Theorem {lit}`foldl_forall_iff`: the same for a step function that is never disabled.
- Theorems {lit}`RunMeets.forall_prefix` and {lit}`StepsMeet.forall_prefix`: on a concrete
  run the guards are evaluated.
- Theorem {lit}`exec_refines`: an object that answers each call like its specification
  answers every list of calls like it.
- Theorem {lit}`restrict_eq_some`: a guarded step is a step that meets its guard.
-/

namespace EchoSync
namespace TransitionSystem

universe u v

variable {σ : Type u} {α : Type v}

/-- Execute a list of labels from left to right; the run fails at the first
disabled label. -/
def run (step : σ → α → Option σ) : σ → List α → Option σ
  | s, [] => some s
  | s, a :: as =>
      match step s a with
      | none => none
      | some s' => run step s' as

@[simp]
theorem run_nil (step : σ → α → Option σ) (s : σ) : run step s [] = some s :=
  rfl

theorem run_cons_eq_some {step : σ → α → Option σ} {s t : σ} {a : α} {as : List α} :
    run step s (a :: as) = some t ↔
      ∃ s', step s a = some s' ∧ run step s' as = some t := by
  cases hstep : step s a with
  | none => simp [run, hstep]
  | some s' => simp [run, hstep]

/-- Runs compose: a run over a concatenation passes through a middle state. -/
theorem run_append_eq_some {step : σ → α → Option σ} {s t : σ} {as bs : List α} :
    run step s (as ++ bs) = some t ↔
      ∃ m, run step s as = some m ∧ run step m bs = some t := by
  induction as generalizing s with
  | nil => simp
  | cons a as ih =>
      rw [List.cons_append, run_cons_eq_some]
      constructor
      · rintro ⟨s', hstep, hrest⟩
        rcases ih.mp hrest with ⟨m, hleft, hright⟩
        exact ⟨m, run_cons_eq_some.2 ⟨s', hstep, hleft⟩, hright⟩
      · rintro ⟨m, hleft, hright⟩
        rcases run_cons_eq_some.1 hleft with ⟨s', hstep, hrest⟩
        exact ⟨s', hstep, ih.mpr ⟨m, hrest, hright⟩⟩

/-- A run followed by one step is a run. -/
theorem run_concat {step : σ → α → Option σ} {s m t : σ} {as : List α} {a : α}
    (hrun : run step s as = some m) (hstep : step m a = some t) :
    run step s (as ++ [a]) = some t := by
  refine run_append_eq_some.2 ⟨m, hrun, ?_⟩
  rw [run_cons_eq_some]
  exact ⟨t, hstep, rfl⟩

/-- A property preserved by every step is preserved by every run. -/
theorem run_invariant {step : σ → α → Option σ} (P : σ → Prop)
    (hpreserve : ∀ s a s', P s → step s a = some s' → P s')
    {s t : σ} {as : List α} (hs : P s) (hrun : run step s as = some t) : P t := by
  induction as generalizing s with
  | nil =>
      cases hrun
      exact hs
  | cons a as ih =>
      rcases run_cons_eq_some.1 hrun with ⟨s', hstep, hrest⟩
      exact ih (hpreserve s a s' hs hstep) hrest

/-- A property preserved by the steps whose labels are allowed is preserved by
every run over allowed labels. -/
theorem run_invariant_of_labels {step : σ → α → Option σ} (allowed : α → Prop)
    (P : σ → Prop)
    (hpreserve : ∀ s a s', allowed a → P s → step s a = some s' → P s')
    {s t : σ} {as : List α} (hall : ∀ a ∈ as, allowed a) (hs : P s)
    (hrun : run step s as = some t) : P t := by
  induction as generalizing s with
  | nil =>
      cases hrun
      exact hs
  | cons a as ih =>
      rcases run_cons_eq_some.1 hrun with ⟨s', hstep, hrest⟩
      have hs' : P s' := hpreserve s a s' (hall a List.mem_cons_self) hs hstep
      exact ih (fun b hb => hall b (List.mem_cons_of_mem a hb)) hs' hrest

/-! ## Every state of a run -/

/-- A prefix of a run is a run. -/
theorem run_prefix {step : σ → α → Option σ} {s t : σ} {as bs : List α}
    (hrun : run step s as = some t) (hwithin : bs <+: as) : ∃ m, run step s bs = some m := by
  rcases hwithin with ⟨rest, rfl⟩
  rcases run_append_eq_some.1 hrun with ⟨m, hleft, -⟩
  exact ⟨m, hleft⟩

/-- The last step of a prefix of a run. -/
theorem run_prefix_step {step : σ → α → Option σ} {s t m : σ} {as bs : List α} {a : α}
    (hrun : run step s as = some t) (hwithin : bs ++ [a] <+: as)
    (hm : run step s bs = some m) :
    ∃ m', step m a = some m' ∧ run step s (bs ++ [a]) = some m' := by
  rcases run_prefix hrun hwithin with ⟨m', hm'⟩
  rcases run_append_eq_some.1 hm' with ⟨n, hn, hstep⟩
  rw [hm, Option.some.injEq] at hn
  subst hn
  rcases run_cons_eq_some.1 hstep with ⟨k, hk, hend⟩
  cases hend
  exact ⟨m', hk, hm'⟩

/-- If the guard of a step decides whether the step keeps a property, then the property
holds in every state of a run exactly when every step of the run meets its guard. -/
theorem run_forall_iff {step : σ → α → Option σ} (inv P : σ → Prop) (guard : σ → α → Prop)
    (hinv : ∀ s a s', inv s → step s a = some s' → inv s')
    (hguard : ∀ s a s', inv s → P s → step s a = some s' → (P s' ↔ guard s a))
    {s t : σ} {as : List α} (hs : inv s) (hP : P s) (hrun : run step s as = some t) :
    (∀ before m, before <+: as → run step s before = some m → P m) ↔
      ∀ before a m, before ++ [a] <+: as → run step s before = some m → guard m a := by
  constructor
  · intro hall before a m hwithin hm
    rcases run_prefix_step hrun hwithin hm with ⟨m', hstep, hm'⟩
    have hbefore : P m := hall before m ((List.prefix_append before [a]).trans hwithin) hm
    exact (hguard m a m' (run_invariant inv hinv hs hm) hbefore hstep).mp
      (hall (before ++ [a]) m' hwithin hm')
  · intro hall before
    induction before using List.reverseRecOn with
    | nil =>
        intro m _ hm
        cases hm
        exact hP
    | append_singleton before a ih =>
        intro m' hwithin hm'
        have hshort := (List.prefix_append before [a]).trans hwithin
        rcases run_prefix hrun hshort with ⟨m, hm⟩
        rcases run_prefix_step hrun hwithin hm with ⟨n, hstep, hn⟩
        rw [hm', Option.some.injEq] at hn
        subst hn
        exact (hguard m a m' (run_invariant inv hinv hs hm) (ih m hshort hm) hstep).mpr
          (hall before a m hwithin hm)

/-- The same for a step function that is never disabled. -/
theorem foldl_forall_iff {step : σ → α → σ} (inv P : σ → Prop) (guard : σ → α → Prop)
    (hinv : ∀ s a, inv s → inv (step s a))
    (hguard : ∀ s a, inv s → P s → (P (step s a) ↔ guard s a))
    {s : σ} (hs : inv s) (hP : P s) (as : List α) :
    (∀ before, before <+: as → P (before.foldl step s)) ↔
      ∀ before a, before ++ [a] <+: as → guard (before.foldl step s) a := by
  have hreach : ∀ before : List α, inv (before.foldl step s) := by
    intro before
    exact List.foldlRecOn before step hs fun m hm a _ => hinv m a hm
  constructor
  · intro hall before a hwithin
    have hbefore := hall before ((List.prefix_append before [a]).trans hwithin)
    have hafter := hall (before ++ [a]) hwithin
    rw [List.foldl_concat] at hafter
    exact (hguard _ a (hreach before) hbefore).mp hafter
  · intro hall before
    induction before using List.reverseRecOn with
    | nil =>
        intro _
        exact hP
    | append_singleton before a ih =>
        intro hwithin
        have hbefore := ih ((List.prefix_append before [a]).trans hwithin)
        rw [List.foldl_concat]
        exact (hguard _ a (hreach before) hbefore).mpr (hall before a hwithin)

/-- Every step of a run meets its guard. -/
def StepsMeet (guard : σ → α → Prop) (step : σ → α → σ) : σ → List α → Prop
  | _, [] => True
  | s, a :: as => guard s a ∧ StepsMeet guard step (step s a) as

instance StepsMeet.instDecidable (guard : σ → α → Prop) [∀ s a, Decidable (guard s a)]
    (step : σ → α → σ) : (s : σ) → (as : List α) → Decidable (StepsMeet guard step s as)
  | _, [] => isTrue trivial
  | s, a :: as =>
      have := StepsMeet.instDecidable guard step (step s a) as
      inferInstanceAs (Decidable (_ ∧ _))

/-- On a concrete run the guards are checked by evaluating them. -/
theorem StepsMeet.forall_prefix {guard : σ → α → Prop} {step : σ → α → σ} {s : σ} {as : List α}
    (h : StepsMeet guard step s as) {before : List α} {a : α} (hwithin : before ++ [a] <+: as) :
    guard (before.foldl step s) a := by
  induction as generalizing s before with
  | nil =>
      rw [List.prefix_nil] at hwithin
      simp at hwithin
  | cons b bs ih =>
      cases before with
      | nil =>
          rw [List.nil_append, List.cons_prefix_cons] at hwithin
          rw [hwithin.1]
          exact h.1
      | cons c before =>
          rw [List.cons_append, List.cons_prefix_cons] at hwithin
          rw [hwithin.1, List.foldl_cons]
          exact ih h.2 hwithin.2

/-- Every step that a run takes meets its guard. -/
def RunMeets (guard : σ → α → Prop) (step : σ → α → Option σ) : σ → List α → Prop
  | _, [] => True
  | s, a :: as => guard s a ∧ ∀ s' ∈ step s a, RunMeets guard step s' as

instance RunMeets.instDecidable (guard : σ → α → Prop) [∀ s a, Decidable (guard s a)]
    (step : σ → α → Option σ) : ∀ s as, Decidable (RunMeets guard step s as)
  | _, [] => isTrue trivial
  | s, a :: as =>
      have := fun s' => RunMeets.instDecidable guard step s' as
      inferInstanceAs (Decidable (guard s a ∧ ∀ s' ∈ step s a, RunMeets guard step s' as))

/-- On a concrete run the guards are checked by evaluating them. -/
theorem RunMeets.forall_prefix {guard : σ → α → Prop} {step : σ → α → Option σ} {s m : σ}
    {as : List α} (h : RunMeets guard step s as) {before : List α} {a : α}
    (hwithin : before ++ [a] <+: as) (hm : run step s before = some m) : guard m a := by
  induction as generalizing s before with
  | nil =>
      rw [List.prefix_nil] at hwithin
      simp at hwithin
  | cons b bs ih =>
      cases before with
      | nil =>
          rw [List.nil_append, List.cons_prefix_cons] at hwithin
          cases hm
          rw [hwithin.1]
          exact h.1
      | cons c before =>
          rw [List.cons_append, List.cons_prefix_cons] at hwithin
          rw [hwithin.1] at hm
          rcases run_cons_eq_some.1 hm with ⟨s', hstep, hrest⟩
          exact ih (h.2 s' hstep) hwithin.2 hrest

/-- A concrete run that ends in a state with a decidable property is found by
evaluating it. -/
theorem exists_of_any {o : Option σ} {P : σ → Prop} [DecidablePred P]
    (h : o.any (fun s => decide (P s)) = true) : ∃ s, o = some s ∧ P s := by
  rcases (Option.any_eq_true _ _).mp h with ⟨s, hs, hP⟩
  exact ⟨s, hs, of_decide_eq_true hP⟩

/-! ## Runs with answers -/

/-- Execute a list of calls of an object, each of which answers: the answers in the order of
the calls, and the state that is left. -/
def exec {β : Type*} (step : σ → α → β × σ) : σ → List α → List β × σ
  | s, [] => ([], s)
  | s, a :: as =>
      let (answer, s') := step s a
      let (answers, t) := exec step s' as
      (answer :: answers, t)

/-- If each call answers the same in related states and relates the states that it leaves,
every list of calls does. -/
theorem exec_refines {β τ : Type*} {step : σ → α → β × σ} {spec : τ → α → β × τ}
    (R : σ → τ → Prop)
    (hstep : ∀ s t a, R s t → (step s a).1 = (spec t a).1 ∧ R (step s a).2 (spec t a).2)
    {s : σ} {t : τ} (h : R s t) (as : List α) :
    (exec step s as).1 = (exec spec t as).1 ∧ R (exec step s as).2 (exec spec t as).2 := by
  induction as generalizing s t with
  | nil => exact ⟨rfl, h⟩
  | cons a as ih =>
      rcases hstep s t a h with ⟨hanswer, hnext⟩
      rcases ih hnext with ⟨hanswers, hend⟩
      simp only [exec]
      exact ⟨by rw [hanswer, hanswers], hend⟩

/-! ## Guarded runs -/

/-- The step function that only takes the steps whose source state and label
satisfy a guard. -/
def restrict (guard : σ → α → Prop) [∀ s a, Decidable (guard s a)]
    (step : σ → α → Option σ) (s : σ) (a : α) : Option σ :=
  if guard s a then step s a else none

theorem restrict_eq_some {guard : σ → α → Prop} [∀ s a, Decidable (guard s a)]
    {step : σ → α → Option σ} {s t : σ} {a : α} :
    restrict guard step s a = some t ↔ guard s a ∧ step s a = some t := by
  by_cases hguard : guard s a <;> simp [restrict, hguard]

end TransitionSystem
end EchoSync
