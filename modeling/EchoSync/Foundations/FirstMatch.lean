import Mathlib

/-!
# Foundations - First occurrences of a pattern

The split of a list at the first occurrence of a pattern, and the scan of its windows that
finds the position of that occurrence.

Main results:

- Theorem {lit}`splitFirst_eq_some_iff`: a split is the first occurrence.
- Theorem {lit}`splitFirst_append_of_some`, {lit}`splitFirst_take`: what an extension and a
  prefix of the list have for a first occurrence.
- Theorem {lit}`findIdx?_windows`: the scan of the windows finds the split.
-/

namespace EchoSync
namespace FirstMatch

variable {α : Type*} [DecidableEq α] {pattern xs before after : List α}

/-- What is before and behind the first occurrence of a pattern. -/
def splitFirst (pattern : List α) : List α → Option (List α × List α)
  | [] => if pattern = [] then some ([], []) else none
  | x :: xs =>
      if pattern <+: x :: xs then some ([], (x :: xs).drop pattern.length)
      else (splitFirst pattern xs).map fun parts => (x :: parts.1, parts.2)

theorem splitFirst_append_self (hne : pattern ≠ []) (after : List α) :
    splitFirst pattern (pattern ++ after) = some ([], after) := by
  cases pattern with
  | nil => exact absurd rfl hne
  | cons p pattern =>
      have hbegins : p :: pattern <+: p :: (pattern ++ after) :=
        List.prefix_append (p :: pattern) after
      rw [List.cons_append, splitFirst, if_pos hbegins, ← List.cons_append, List.drop_left]

theorem splitFirst_cons_of_not {x : α} (h : ¬ pattern <+: x :: xs) :
    splitFirst pattern (x :: xs) =
      (splitFirst pattern xs).map fun parts => (x :: parts.1, parts.2) := by
  rw [splitFirst, if_neg h]

/-- A split puts the list together. -/
theorem eq_append_of_splitFirst (h : splitFirst pattern xs = some (before, after)) :
    xs = before ++ (pattern ++ after) := by
  induction xs generalizing before with
  | nil =>
      rw [splitFirst] at h
      split_ifs at h with hnil
      cases h
      rw [hnil]
      rfl
  | cons x xs ih =>
      rw [splitFirst] at h
      split_ifs at h with hbegins
      · cases h
        rcases hbegins with ⟨rest, hrest⟩
        rw [← hrest, List.drop_left, List.nil_append]
      · rcases Option.map_eq_some_iff.mp h with ⟨⟨front, back⟩, hfound, heq⟩
        cases heq
        rw [List.cons_append, ← ih hfound]

/-- No occurrence is before the one that the split finds, and one is found if there is one. -/
theorem exists_splitFirst_le (hne : pattern ≠ []) (before after : List α) :
    ∃ front back, splitFirst pattern (before ++ (pattern ++ after)) = some (front, back) ∧
      front.length ≤ before.length := by
  induction before with
  | nil => exact ⟨[], after, splitFirst_append_self hne after, le_rfl⟩
  | cons x before ih =>
      rw [List.cons_append, splitFirst]
      split_ifs with hbegins
      · exact ⟨_, _, rfl, Nat.zero_le _⟩
      · rcases ih with ⟨front, back, hfound, hle⟩
        rw [hfound]
        exact ⟨x :: front, back, rfl, Nat.succ_le_succ hle⟩

/-- A split is the first occurrence. -/
theorem splitFirst_eq_some_iff (hne : pattern ≠ []) :
    splitFirst pattern xs = some (before, after) ↔
      xs = before ++ (pattern ++ after) ∧
        ∀ front back, xs = front ++ (pattern ++ back) → before.length ≤ front.length := by
  constructor
  · intro h
    refine ⟨eq_append_of_splitFirst h, ?_⟩
    rintro front back rfl
    rcases exists_splitFirst_le hne front back with ⟨first, rest, hfound, hle⟩
    rw [h, Option.some.injEq, Prod.mk.injEq] at hfound
    rw [hfound.1]
    exact hle
  · rintro ⟨rfl, hfirst⟩
    rcases exists_splitFirst_le hne before after with ⟨front, back, hfound, hle⟩
    have hsame := eq_append_of_splitFirst hfound
    have hlength : before.length = front.length := le_antisymm (hfirst front back hsame) hle
    rcases List.append_inj hsame hlength with ⟨rfl, hrest⟩
    rw [hfound, List.append_cancel_left hrest]

theorem splitFirst_eq_none_iff (hne : pattern ≠ []) :
    splitFirst pattern xs = none ↔ ∀ before after, xs ≠ before ++ (pattern ++ after) := by
  constructor
  · rintro h before after rfl
    rcases exists_splitFirst_le hne before after with ⟨front, back, hfound, -⟩
    rw [h] at hfound
    cases hfound
  · intro h
    cases hsplit : splitFirst pattern xs with
    | none => rfl
    | some parts => exact absurd (eq_append_of_splitFirst hsplit) (h _ _)

/-! ## Extensions and prefixes of the list -/

/-- The first occurrence stays the first one when the list grows. -/
theorem splitFirst_append_of_some (hne : pattern ≠ [])
    (h : splitFirst pattern xs = some (before, after)) (more : List α) :
    splitFirst pattern (xs ++ more) = some (before, after ++ more) := by
  have heq := eq_append_of_splitFirst h
  rw [splitFirst_eq_some_iff hne]
  refine ⟨by rw [heq]; simp only [List.append_assoc], ?_⟩
  intro front back hother
  by_contra hlt
  -- an earlier occurrence would end within the shorter list
  have hends : (front ++ pattern).length ≤ xs.length := by
    have hlength := congrArg List.length heq
    simp only [List.length_append] at hlength ⊢
    omega
  have hwithin : front ++ pattern <+: xs := by
    apply List.prefix_of_prefix_length_le _ (List.prefix_append xs more) hends
    rw [hother, ← List.append_assoc]
    exact List.prefix_append _ _
  rcases hwithin with ⟨rest, hrest⟩
  rw [List.append_assoc] at hrest
  exact hlt (((splitFirst_eq_some_iff hne).mp h).2 front rest hrest.symm)

/-- What is found in a prefix of the list is the first occurrence in the list. -/
theorem splitFirst_take (hne : pattern ≠ []) {received : List α} (hwithin : received <+: xs)
    (h : splitFirst pattern xs = some (before, after)) :
    splitFirst pattern received = none ∨
      ∃ rest, splitFirst pattern received = some (before, rest) := by
  cases hfound : splitFirst pattern received with
  | none => exact Or.inl rfl
  | some parts =>
      right
      rcases hwithin with ⟨more, rfl⟩
      have hextended := splitFirst_append_of_some hne hfound more
      rw [h, Option.some.injEq, Prod.mk.injEq] at hextended
      exact ⟨parts.2, by rw [hextended.1]⟩

/-! ## The scan of the windows -/

/-- The sections of a given length, from left to right. -/
def windows (n : Nat) : List α → List (List α)
  | [] => []
  | x :: xs => if n ≤ (x :: xs).length then (x :: xs).take n :: windows n xs else []

omit [DecidableEq α] in
theorem windows_of_length_lt {n : Nat} (h : xs.length < n) : windows n xs = [] := by
  cases xs with
  | nil => rfl
  | cons x xs => rw [windows, if_neg (not_le.mpr h)]

/-- The scan of the windows finds the split. -/
theorem findIdx?_windows (hne : pattern ≠ []) (xs : List α) :
    (windows pattern.length xs).findIdx? (fun window => decide (window = pattern)) =
      (splitFirst pattern xs).map fun parts => parts.1.length := by
  induction xs with
  | nil =>
      rw [windows, splitFirst, if_neg hne]
      rfl
  | cons x xs ih =>
      by_cases hbegins : pattern <+: x :: xs
      · have htake : (x :: xs).take pattern.length = pattern :=
          (List.prefix_iff_eq_take.mp hbegins).symm
        rw [windows, if_pos hbegins.length_le, splitFirst, if_pos hbegins, List.findIdx?_cons,
          decide_eq_true htake]
        rfl
      · rw [splitFirst_cons_of_not hbegins, Option.map_map]
        by_cases hfits : pattern.length ≤ (x :: xs).length
        · have htake : (x :: xs).take pattern.length ≠ pattern := by
            intro heq
            exact hbegins (List.prefix_iff_eq_take.mpr heq.symm)
          rw [windows, if_pos hfits, List.findIdx?_cons, decide_eq_false htake, ih]
          cases splitFirst pattern xs <;> rfl
        · have hshort : xs.length < pattern.length :=
            lt_of_le_of_lt (Nat.le_succ _) (not_le.mp hfits)
          rw [windows_of_length_lt hshort] at ih
          rw [windows, if_neg hfits]
          cases hsplit : splitFirst pattern xs with
          | none => rfl
          | some parts =>
              rw [hsplit] at ih
              cases ih

end FirstMatch
end EchoSync
