import Mathlib

/-!
# Foundations - Priority queues

A priority queue over elements with a key in a linear order: the elements are
kept in key order, so the first one is the one that an extraction removes.  The
order is a field of the structure.  Elements with equal keys leave in the
reverse order of their insertion; a user with distinct keys cannot observe it.

Main results:

- Theorem {lit}`key_le_of_peek`: an extraction removes an element of smallest
  key.
- Theorem {lit}`toList_insert_of_forall_lt`: an element whose key is larger than
  every queued key goes to the end, so a priority queue fed in key order is a
  first-in first-out queue.
-/

namespace EchoSync

universe u v

/-- A finite collection of elements, listed in the order of their keys. -/
structure PriorityQueue (α : Type u) {κ : Type v} [LinearOrder κ] (key : α → κ) where
  toList : List α
  sorted : toList.Pairwise (fun a b => key a ≤ key b)

namespace PriorityQueue

variable {α : Type u} {κ : Type v} [LinearOrder κ] {key : α → κ}

/-- The queue without elements. -/
def empty : PriorityQueue α key where
  toList := []
  sorted := List.Pairwise.nil

/-- The number of elements. -/
def length (q : PriorityQueue α key) : Nat :=
  q.toList.length

/-- An element of smallest key. -/
def peek (q : PriorityQueue α key) : Option α :=
  q.toList.head?

/-- The queue without the element that {lit}`peek` answers. -/
def dropFirst (q : PriorityQueue α key) : PriorityQueue α key where
  toList := q.toList.tail
  sorted := q.sorted.tail

/-- The elements that satisfy a predicate. -/
def filter (q : PriorityQueue α key) (p : α → Bool) : PriorityQueue α key where
  toList := q.toList.filter p
  sorted := q.sorted.filter p

theorem orderedInsert_sorted (a : α) {as : List α}
    (has : as.Pairwise (fun a b => key a ≤ key b)) :
    (as.orderedInsert (fun a b => key a ≤ key b) a).Pairwise (fun a b => key a ≤ key b) := by
  have htotal : Std.Total (fun a b : α => key a ≤ key b) := ⟨fun a b => le_total (key a) (key b)⟩
  have htrans : IsTrans α (fun a b => key a ≤ key b) := ⟨fun _ _ _ => le_trans⟩
  exact has.orderedInsert a as

/-- Add an element. -/
def insert (q : PriorityQueue α key) (a : α) : PriorityQueue α key where
  toList := q.toList.orderedInsert (fun a b => key a ≤ key b) a
  sorted := orderedInsert_sorted a q.sorted

/-! ## Elements -/

@[simp]
theorem toList_empty : (empty : PriorityQueue α key).toList = [] :=
  rfl

@[simp]
theorem mem_insert {q : PriorityQueue α key} {a b : α} :
    b ∈ (q.insert a).toList ↔ b = a ∨ b ∈ q.toList :=
  List.mem_orderedInsert _

@[simp]
theorem mem_filter {q : PriorityQueue α key} {p : α → Bool} {a : α} :
    a ∈ (q.filter p).toList ↔ a ∈ q.toList ∧ p a = true :=
  List.mem_filter

theorem insert_perm (q : PriorityQueue α key) (a : α) : (q.insert a).toList.Perm (a :: q.toList) :=
  List.perm_orderedInsert _ a q.toList

theorem toList_of_peek {q : PriorityQueue α key} {a : α} (h : q.peek = some a) :
    q.toList = a :: q.dropFirst.toList :=
  (List.cons_head?_tail h).symm

theorem mem_of_peek {q : PriorityQueue α key} {a : α} (h : q.peek = some a) : a ∈ q.toList :=
  List.mem_of_head? h

theorem mem_of_mem_dropFirst {q : PriorityQueue α key} {a : α} (h : a ∈ q.dropFirst.toList) :
    a ∈ q.toList :=
  List.mem_of_mem_tail h

theorem peek_eq_none {q : PriorityQueue α key} : q.peek = none ↔ q.toList = [] :=
  List.head?_eq_none_iff

/-! ## Order -/

/-- An extraction removes an element of smallest key. -/
theorem key_le_of_peek {q : PriorityQueue α key} {a b : α} (h : q.peek = some a)
    (hb : b ∈ q.toList) : key a ≤ key b := by
  have hsorted := q.sorted
  rw [toList_of_peek h] at hsorted hb
  rcases List.mem_cons.mp hb with rfl | hrest
  · exact le_rfl
  · exact (List.pairwise_cons.mp hsorted).1 b hrest

theorem orderedInsert_of_forall_lt {a : α} {as : List α} (h : ∀ b ∈ as, key b < key a) :
    as.orderedInsert (fun a b => key a ≤ key b) a = as ++ [a] := by
  induction as with
  | nil => rfl
  | cons b bs ih =>
      have hhead : ¬ key a ≤ key b := not_le.mpr (h b List.mem_cons_self)
      have htail := ih fun c hc => h c (List.mem_cons_of_mem b hc)
      rw [List.orderedInsert_of_not_le _ bs hhead, htail, List.cons_append]

/-- An element whose key is larger than every queued key goes to the end. -/
theorem toList_insert_of_forall_lt {q : PriorityQueue α key} {a : α}
    (h : ∀ b ∈ q.toList, key b < key a) : (q.insert a).toList = q.toList ++ [a] :=
  orderedInsert_of_forall_lt h

end PriorityQueue
end EchoSync
