import Mathlib

/-!
# Foundations - Pools of tasks

The states of a number of tasks are a list, and a step replaces the state of one of
them.  What the tasks hold together, and how many of them are in some state, then
changes by what the task at that place held and holds now.

Main results:

- Theorems {lit}`filterMap_set_of_eq`, {lit}`filterMap_set_gain` and
  {lit}`filterMap_set_release`: the items held by the pool when one task keeps, gains
  or releases an item.
- Theorems {lit}`countP_set_add` and {lit}`sum_map_set_add`: the number of tasks with a
  property, and a measure summed over the tasks.
- Theorem {lit}`filter_set_of_singleton`: a task with a property that no other task
  has.
-/

namespace EchoSync
namespace TaskPool

universe u v

variable {α : Type u} {β : Type v} {xs : List α} {w : Nat} {x : α}

/-- A pool split at one of its tasks. -/
theorem exists_split (h : xs[w]? = some x) :
    ∃ before after, xs = before ++ x :: after ∧ ∀ y, xs.set w y = before ++ y :: after := by
  induction xs generalizing w with
  | nil => simp at h
  | cons head rest ih =>
      cases w with
      | zero =>
          rw [List.getElem?_cons_zero, Option.some.injEq] at h
          subst h
          exact ⟨[], rest, rfl, fun _ => rfl⟩
      | succ w =>
          rw [List.getElem?_cons_succ] at h
          rcases ih h with ⟨before, after, hrest, hset⟩
          refine ⟨head :: before, after, ?_, ?_⟩
          · rw [hrest, List.cons_append]
          · intro y
            rw [List.set_cons_succ, hset, List.cons_append]

/-- A task that keeps what it holds. -/
theorem filterMap_set_of_eq {f : α → Option β} {y : α} (h : xs[w]? = some x) (hf : f y = f x) :
    (xs.set w y).filterMap f = xs.filterMap f := by
  rcases exists_split h with ⟨before, after, hxs, hset⟩
  rw [hset, hxs, List.filterMap_append, List.filterMap_append, List.filterMap_cons,
    List.filterMap_cons, hf]

/-- A task that gains an item. -/
theorem filterMap_set_gain {f : α → Option β} {y : α} {b : β} (h : xs[w]? = some x)
    (hx : f x = none) (hy : f y = some b) :
    ((xs.set w y).filterMap f : Multiset β) = b ::ₘ (xs.filterMap f : Multiset β) := by
  rcases exists_split h with ⟨before, after, hxs, hset⟩
  rw [hset, hxs, List.filterMap_append, List.filterMap_append, List.filterMap_cons_some hy,
    List.filterMap_cons_none hx, Multiset.cons_coe]
  exact Multiset.coe_eq_coe.mpr List.perm_middle

/-- A task that releases its item. -/
theorem filterMap_set_release {f : α → Option β} {y : α} {b : β} (h : xs[w]? = some x)
    (hx : f x = some b) (hy : f y = none) :
    (xs.filterMap f : Multiset β) = b ::ₘ ((xs.set w y).filterMap f : Multiset β) := by
  rcases exists_split h with ⟨before, after, hxs, hset⟩
  rw [hset, hxs, List.filterMap_append, List.filterMap_append, List.filterMap_cons_some hx,
    List.filterMap_cons_none hy, Multiset.cons_coe]
  exact Multiset.coe_eq_coe.mpr List.perm_middle

/-- The number of tasks with a property changes by the task replaced. -/
theorem countP_set_add (p : α → Bool) {y : α} (h : xs[w]? = some x) :
    (xs.set w y).countP p + (p x).toNat = xs.countP p + (p y).toNat := by
  rcases exists_split h with ⟨before, after, hxs, hset⟩
  rw [hset, hxs, List.countP_append, List.countP_append, List.countP_cons, List.countP_cons]
  cases p x <;> cases p y <;> simp <;> omega

/-- A measure summed over the tasks changes by the task replaced. -/
theorem sum_map_set_add (f : α → Nat) {y : α} (h : xs[w]? = some x) :
    ((xs.set w y).map f).sum + f x = (xs.map f).sum + f y := by
  rcases exists_split h with ⟨before, after, hxs, hset⟩
  rw [hset, hxs]
  simp only [List.map_append, List.map_cons, List.sum_append, List.sum_cons]
  omega

/-- A task without a property that does not get it. -/
theorem filter_set_of_false {f : α → Bool} {y : α} (h : xs[w]? = some x) (hx : f x = false)
    (hy : f y = false) : (xs.set w y).filter f = xs.filter f := by
  rcases exists_split h with ⟨before, after, hxs, hset⟩
  rw [hset, hxs, List.filter_append, List.filter_append,
    List.filter_cons_of_neg (Bool.eq_false_iff.mp hx),
    List.filter_cons_of_neg (Bool.eq_false_iff.mp hy)]

/-- The only task with a property moves on. -/
theorem filter_set_of_singleton {f : α → Bool} {y z : α} (h : xs[w]? = some x)
    (hone : xs.filter f = [z]) (hx : f x = true) :
    x = z ∧ (xs.set w y).filter f = [y].filter f := by
  rcases exists_split h with ⟨before, after, hxs, hset⟩
  rw [hxs, List.filter_append, List.filter_cons_of_pos hx] at hone
  rcases List.append_eq_singleton_iff.mp hone with ⟨hbefore, hrest⟩ | ⟨-, hnil⟩
  · rw [List.cons.injEq] at hrest
    refine ⟨hrest.1, ?_⟩
    rw [hset, List.filter_append, hbefore, List.filter_cons, List.filter_cons, hrest.2]
    rfl
  · contradiction

/-- What holds of every task and of the new state of one of them holds of every task
after the step. -/
theorem forall_mem_set {P : α → Prop} {y : α} (h : ∀ x ∈ xs, P x) (hy : P y) :
    ∀ x ∈ xs.set w y, P x := by
  intro x hx
  rcases List.mem_or_eq_of_mem_set hx with hold | rfl
  · exact h x hold
  · exact hy

/-- A step of one task leaves the other tasks in the pool. -/
theorem mem_set_of_ne {y z : α} (h : xs[w]? = some x) (hz : z ∈ xs) (hne : z ≠ x) :
    z ∈ xs.set w y := by
  rcases exists_split h with ⟨before, after, hxs, hset⟩
  rw [hxs, List.mem_append, List.mem_cons] at hz
  rw [hset, List.mem_append, List.mem_cons]
  rcases hz with hbefore | heq | hafter
  · exact Or.inl hbefore
  · exact absurd heq hne
  · exact Or.inr (Or.inr hafter)

end TaskPool
end EchoSync
