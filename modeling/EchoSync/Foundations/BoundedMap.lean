import Mathlib

/-!
# Foundations - Maps of bounded size

A finite map from identifiers to items that holds at most a given number of entries, with a
rank on the items: what a bounded queue with cancellation is for.  The bound is a field of
the structure.

Main results:

- Theorem {lit}`first?_eq_some_iff`: the first item is the one whose rank is strictly below
  the rank of every other.
- Theorem {lit}`insert_eq_error_present_iff` and theorem {lit}`insert_eq_error_full_iff`: an
  insertion is refused for a present identifier, and otherwise when the map is full.
-/

namespace EchoSync

universe u v w

/-- A finite map of at most {lit}`capacity` entries. -/
structure BoundedMap (ι : Type u) (α : Type v) (capacity : Nat) where
  entries : Finmap fun _ : ι => α
  card_le : entries.keys.card ≤ capacity

namespace BoundedMap

variable {ι : Type u} {α : Type v} {capacity : Nat}

/-- Why an insertion is refused. -/
inductive Refusal where
  | present
  | full
deriving DecidableEq

/-- The map without entries. -/
def empty : BoundedMap ι α capacity where
  entries := ∅
  card_le := by simp

/-- The identifiers of the entries. -/
def keys (m : BoundedMap ι α capacity) : Finset ι :=
  m.entries.keys

variable [DecidableEq ι]

/-- The item under an identifier. -/
def lookup (m : BoundedMap ι α capacity) (i : ι) : Option α :=
  m.entries.lookup i

@[simp]
theorem lookup_empty (i : ι) : (empty : BoundedMap ι α capacity).lookup i = none :=
  Finmap.lookup_empty i

theorem mem_keys {m : BoundedMap ι α capacity} {i : ι} :
    i ∈ m.keys ↔ ∃ a, m.lookup i = some a := by
  rw [keys, Finmap.mem_keys, Finmap.mem_iff]
  rfl

/-! ## Insertion and removal -/

/-- Add an item under a fresh identifier, if there is room. -/
def insert (m : BoundedMap ι α capacity) (i : ι) (a : α) :
    Except Refusal (BoundedMap ι α capacity) :=
  if i ∈ m.keys then .error .present
  else if hroom : m.keys.card < capacity then
    .ok
      { entries := m.entries.insert i a
        card_le := by
          have hkeys : (m.entries.insert i a).keys = Insert.insert i m.keys := by
            ext j
            simp [keys, Finmap.mem_keys]
          rw [hkeys]
          exact (Finset.card_insert_le i m.keys).trans hroom }
  else .error .full

theorem insert_eq_error_present_iff {m : BoundedMap ι α capacity} {i : ι} {a : α} :
    m.insert i a = .error .present ↔ i ∈ m.keys := by
  unfold insert
  split_ifs with hpresent hroom <;> simp [hpresent]

theorem insert_eq_error_full_iff {m : BoundedMap ι α capacity} {i : ι} {a : α} :
    m.insert i a = .error .full ↔ i ∉ m.keys ∧ m.keys.card = capacity := by
  have hle := m.card_le
  rw [← keys] at hle
  unfold insert
  split_ifs with hpresent hroom
  · simp [hpresent]
  · simp [hpresent, hroom.ne]
  · simp [hpresent, le_antisymm hle (not_lt.mp hroom)]

/-- An insertion adds its entry and leaves the others. -/
theorem lookup_of_insert {m m' : BoundedMap ι α capacity} {i : ι} {a : α}
    (h : m.insert i a = .ok m') (j : ι) :
    m'.lookup j = if j = i then some a else m.lookup j := by
  unfold insert at h
  split_ifs at h with hpresent hroom
  cases h
  split_ifs with heq
  · rw [heq]
    exact Finmap.lookup_insert m.entries
  · exact Finmap.lookup_insert_of_ne m.entries heq

/-- Remove the entry under an identifier, if there is one. -/
def erase (m : BoundedMap ι α capacity) (i : ι) : BoundedMap ι α capacity where
  entries := m.entries.erase i
  card_le := by
    rw [Finmap.keys_erase]
    exact (Finset.card_erase_le).trans m.card_le

theorem lookup_erase (m : BoundedMap ι α capacity) (i j : ι) :
    (m.erase i).lookup j = if j = i then none else m.lookup j := by
  split_ifs with heq
  · rw [heq]
    exact Finmap.lookup_erase i m.entries
  · exact Finmap.lookup_erase_ne heq

/-! ## The first item -/

section First

variable {κ : Type w} [LinearOrder κ] (key : α → κ)

/-- The item is in the map, and its rank is strictly below that of every other. -/
def IsFirst (m : BoundedMap ι α capacity) (a : α) : Prop :=
  (∃ i, m.lookup i = some a) ∧ ∀ j b, m.lookup j = some b → b ≠ a → key a < key b

theorem IsFirst.unique {m : BoundedMap ι α capacity} {a b : α} (ha : m.IsFirst key a)
    (hb : m.IsFirst key b) : a = b := by
  rcases ha with ⟨⟨i, hi⟩, hbelow⟩
  rcases hb with ⟨⟨j, hj⟩, habove⟩
  by_contra hne
  exact lt_asymm (hbelow j b hj (Ne.symm hne)) (habove i a hi hne)

open Classical in
/-- The item of smallest rank. -/
noncomputable def first? (m : BoundedMap ι α capacity) : Option α :=
  if h : ∃ a, m.IsFirst key a then some h.choose else none

theorem first?_eq_some_iff {m : BoundedMap ι α capacity} {a : α} :
    m.first? key = some a ↔ m.IsFirst key a := by
  unfold first?
  constructor
  · intro h
    split_ifs at h with hexists
    cases h
    exact hexists.choose_spec
  · intro ha
    have hexists : ∃ a, m.IsFirst key a := ⟨a, ha⟩
    rw [dif_pos hexists, hexists.choose_spec.unique key ha]

theorem first?_eq_none_of_empty {m : BoundedMap ι α capacity} (h : ∀ i, m.lookup i = none) :
    m.first? key = none := by
  unfold first?
  rw [dif_neg]
  rintro ⟨a, ⟨i, hi⟩, -⟩
  rw [h i] at hi
  contradiction

end First

end BoundedMap
end EchoSync
