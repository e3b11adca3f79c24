import Mathlib

/-!
# Foundations - Maps kept in key order

A finite map whose bindings are stored in strictly increasing key order, the
view that an ordered tree map offers to its iterators.  The order is a field of
the structure, so a map with two bindings for one key, or with bindings out of
order, cannot be built.

Main results:

- Theorems {lit}`mem_keys_insert_iff` and {lit}`mem_keys_remove_iff`: the keys
  after an insertion and after a removal.
- Theorem {lit}`first?_le`: the first binding has the smallest key.
- Theorem {lit}`lt_of_mem_remove_first`: removing the first binding leaves only
  larger keys.
- Theorems {lit}`length_insert` and {lit}`length_remove`: a fresh key adds one
  binding, and removing a bound key takes one away.
-/

namespace EchoSync

universe u v

/-- A finite map whose bindings are listed in strictly increasing key order. -/
structure OrderedMap (K : Type u) (V : Type v) [LinearOrder K] where
  toList : List (K × V)
  sorted : toList.Pairwise (fun a b => a.1 < b.1)

namespace OrderedMap

variable {K : Type u} {V : Type v} [LinearOrder K]

/-- The map without bindings. -/
def empty : OrderedMap K V where
  toList := []
  sorted := List.Pairwise.nil

/-- The keys, in increasing order. -/
def keys (m : OrderedMap K V) : List K :=
  m.toList.map Prod.fst

/-- The number of bindings. -/
def length (m : OrderedMap K V) : Nat :=
  m.toList.length

/-- Whether some binding has this key. -/
def containsKey (m : OrderedMap K V) (k : K) : Bool :=
  decide (k ∈ m.keys)

/-- The binding with the smallest key. -/
def first? (m : OrderedMap K V) : Option (K × V) :=
  m.toList.head?

/-- The value bound to a key. -/
def get? (m : OrderedMap K V) (k : K) : Option V :=
  (m.toList.find? fun e => decide (e.1 = k)).map Prod.snd

/-! ## Insertion -/

/-- Insert a binding into an ordered list, replacing a binding of the same key. -/
def insertEntry (k : K) (v : V) : List (K × V) → List (K × V)
  | [] => [(k, v)]
  | e :: es =>
      if k < e.1 then (k, v) :: e :: es
      else if k = e.1 then (k, v) :: es
      else e :: insertEntry k v es

theorem mem_insertEntry {k : K} {v : V} {e : K × V} {es : List (K × V)}
    (he : e ∈ insertEntry k v es) : e = (k, v) ∨ e ∈ es := by
  induction es with
  | nil => simpa [insertEntry] using he
  | cons d ds ih =>
      simp only [insertEntry] at he
      split_ifs at he with hlt heq
      · simpa using he
      · rcases List.mem_cons.mp he with rfl | he
        · exact Or.inl rfl
        · exact Or.inr (List.mem_cons_of_mem d he)
      · rcases List.mem_cons.mp he with rfl | he
        · exact Or.inr List.mem_cons_self
        · rcases ih he with hnew | hold
          · exact Or.inl hnew
          · exact Or.inr (List.mem_cons_of_mem d hold)

theorem self_mem_insertEntry (k : K) (v : V) (es : List (K × V)) :
    (k, v) ∈ insertEntry k v es := by
  induction es with
  | nil => simp [insertEntry]
  | cons d ds ih =>
      simp only [insertEntry]
      split_ifs
      · exact List.mem_cons_self
      · exact List.mem_cons_self
      · exact List.mem_cons_of_mem d ih

theorem mem_insertEntry_of_ne {k : K} {v : V} {e : K × V} {es : List (K × V)}
    (he : e ∈ es) (hne : e.1 ≠ k) : e ∈ insertEntry k v es := by
  induction es with
  | nil => simp at he
  | cons d ds ih =>
      simp only [insertEntry]
      split_ifs with hlt heq
      · exact List.mem_cons_of_mem _ he
      · rcases List.mem_cons.mp he with rfl | he
        · exact absurd heq.symm hne
        · exact List.mem_cons_of_mem _ he
      · rcases List.mem_cons.mp he with rfl | he
        · exact List.mem_cons_self
        · exact List.mem_cons_of_mem _ (ih he)

theorem insertEntry_sorted (k : K) (v : V) {es : List (K × V)}
    (hes : es.Pairwise (fun a b => a.1 < b.1)) :
    (insertEntry k v es).Pairwise (fun a b => a.1 < b.1) := by
  induction es with
  | nil => simp [insertEntry]
  | cons d ds ih =>
      have hhead := (List.pairwise_cons.mp hes).1
      have htail := (List.pairwise_cons.mp hes).2
      simp only [insertEntry]
      split_ifs with hlt heq
      · refine List.pairwise_cons.mpr ⟨?_, hes⟩
        intro e he
        rcases List.mem_cons.mp he with rfl | he
        · exact hlt
        · exact hlt.trans (hhead e he)
      · refine List.pairwise_cons.mpr ⟨?_, htail⟩
        intro e he
        have hkd : k = d.1 := heq
        simpa [hkd] using hhead e he
      · refine List.pairwise_cons.mpr ⟨?_, ih htail⟩
        intro e he
        rcases mem_insertEntry he with rfl | he
        · exact lt_of_le_of_ne (not_lt.mp hlt) (Ne.symm heq)
        · exact hhead e he

/-- Bind a key to a value, replacing its previous binding. -/
def insert (m : OrderedMap K V) (k : K) (v : V) : OrderedMap K V where
  toList := insertEntry k v m.toList
  sorted := insertEntry_sorted k v m.sorted

/-- Remove the binding of a key, if there is one. -/
def remove (m : OrderedMap K V) (k : K) : OrderedMap K V where
  toList := m.toList.filter fun e => decide (e.1 ≠ k)
  sorted := m.sorted.filter _

/-! ## Keys and bindings -/

theorem mem_keys_iff {m : OrderedMap K V} {k : K} :
    k ∈ m.keys ↔ ∃ v, (k, v) ∈ m.toList := by
  simp [keys]

@[simp]
theorem containsKey_eq_true_iff {m : OrderedMap K V} {k : K} :
    m.containsKey k = true ↔ k ∈ m.keys := by
  simp [containsKey]

theorem mem_keys_of_get? {m : OrderedMap K V} {k : K} {v : V} (h : m.get? k = some v) :
    k ∈ m.keys := by
  rcases Option.map_eq_some_iff.mp h with ⟨e, hfind, rfl⟩
  have hkey : e.1 = k := by simpa using List.find?_some hfind
  exact hkey ▸ mem_keys_iff.mpr ⟨e.2, List.mem_of_find?_eq_some hfind⟩

theorem get?_eq_none_iff {m : OrderedMap K V} {k : K} : m.get? k = none ↔ k ∉ m.keys := by
  simp only [get?, keys, Option.map_eq_none_iff, List.find?_eq_none, decide_eq_true_eq,
    List.mem_map, not_exists, not_and]

@[simp]
theorem keys_empty : (empty : OrderedMap K V).keys = [] :=
  rfl

/-- The keys are listed in strictly increasing order. -/
theorem keys_sorted (m : OrderedMap K V) : m.keys.Pairwise (· < ·) :=
  List.pairwise_map.mpr m.sorted

theorem mem_keys_insert_iff {m : OrderedMap K V} {k j : K} {v : V} :
    j ∈ (m.insert k v).keys ↔ j = k ∨ j ∈ m.keys := by
  simp only [mem_keys_iff]
  constructor
  · rintro ⟨w, hw⟩
    rcases mem_insertEntry hw with heq | hold
    · exact Or.inl (Prod.ext_iff.mp heq).1
    · exact Or.inr ⟨w, hold⟩
  · rintro (rfl | ⟨w, hw⟩)
    · exact ⟨v, self_mem_insertEntry j v m.toList⟩
    · by_cases hjk : j = k
      · exact ⟨v, hjk ▸ self_mem_insertEntry k v m.toList⟩
      · exact ⟨w, mem_insertEntry_of_ne hw hjk⟩

theorem mem_keys_remove_iff {m : OrderedMap K V} {k j : K} :
    j ∈ (m.remove k).keys ↔ j ∈ m.keys ∧ j ≠ k := by
  simp [mem_keys_iff, remove]

/-! ## The first binding -/

theorem first?_mem {m : OrderedMap K V} {k : K} {v : V} (h : m.first? = some (k, v)) :
    k ∈ m.keys :=
  mem_keys_iff.mpr ⟨v, List.mem_of_head? h⟩

/-- The first binding has the smallest key. -/
theorem first?_le {m : OrderedMap K V} {k j : K} {v : V}
    (h : m.first? = some (k, v)) (hj : j ∈ m.keys) : k ≤ j := by
  rcases m with ⟨es, hsorted⟩
  cases es with
  | nil => simp [first?] at h
  | cons e es =>
      have he : e = (k, v) := by simpa [first?] using h
      subst he
      have hhead := (List.pairwise_cons.mp hsorted).1
      rcases mem_keys_iff.mp hj with ⟨w, hw⟩
      rcases List.mem_cons.mp hw with heq | hw
      · exact le_of_eq (Prod.ext_iff.mp heq).1.symm
      · exact le_of_lt (hhead (j, w) hw)

/-- The first of the keys is bound by the first binding. -/
theorem first?_of_keys {m : OrderedMap K V} {k : K} {ks : List K} (h : m.keys = k :: ks) :
    ∃ v, m.first? = some (k, v) ∧ m.get? k = some v := by
  rcases m with ⟨es, hsorted⟩
  cases es with
  | nil => simp [keys] at h
  | cons e es =>
      have he : e.1 = k := (List.cons.inj h).1
      subst he
      exact ⟨e.2, rfl, by simp [get?]⟩

/-- Once the first binding is removed, every key lies strictly above it. -/
theorem lt_of_mem_remove_first {m : OrderedMap K V} {k j : K} {v : V}
    (h : m.first? = some (k, v)) (hj : j ∈ (m.remove k).keys) : k < j := by
  rcases mem_keys_remove_iff.mp hj with ⟨hmem, hne⟩
  exact lt_of_le_of_ne (first?_le h hmem) (Ne.symm hne)

/-! ## The number of bindings -/

/-- A list without a key grows by one binding. -/
theorem length_insertEntry {k : K} (v : V) {es : List (K × V)} (h : k ∉ es.map Prod.fst) :
    (insertEntry k v es).length = es.length + 1 := by
  induction es with
  | nil => simp [insertEntry]
  | cons d ds ih =>
      rw [List.map_cons, List.mem_cons, not_or] at h
      rw [insertEntry]
      split_ifs with hlt heq
      · simp
      · exact absurd heq h.1
      · simp [ih h.2]

/-- A fresh key adds one binding. -/
theorem length_insert {m : OrderedMap K V} {k : K} (v : V) (h : k ∉ m.keys) :
    (m.insert k v).length = m.length + 1 :=
  length_insertEntry v h

theorem keys_remove (m : OrderedMap K V) (k : K) :
    (m.remove k).keys = m.keys.filter fun j => decide (j ≠ k) := by
  simp only [keys, remove, List.filter_map]
  rfl

@[simp]
theorem length_keys (m : OrderedMap K V) : m.keys.length = m.length := by
  simp [keys, length]

theorem keys_nodup (m : OrderedMap K V) : m.keys.Nodup :=
  m.keys_sorted.imp fun h => ne_of_lt h

/-- Removing a bound key takes one binding away. -/
theorem length_remove {m : OrderedMap K V} {k : K} (h : k ∈ m.keys) :
    (m.remove k).length + 1 = m.length := by
  have hcount : m.keys.countP (fun j => decide (j = k)) = 1 := by
    have hone := List.count_eq_one_of_mem m.keys_nodup h
    simpa [List.count, beq_eq_decide] using hone
  have hsplit := m.keys.length_eq_countP_add_countP fun j => decide (j = k)
  rw [← length_keys, ← length_keys, keys_remove, ← List.countP_eq_length_filter, hsplit, hcount]
  simp [Nat.add_comm]

/-- Removing the first key leaves the rest of the keys. -/
theorem keys_remove_first {m : OrderedMap K V} {k : K} {ks : List K} (h : m.keys = k :: ks) :
    (m.remove k).keys = ks := by
  have hnodup := m.keys_nodup
  rw [h, List.nodup_cons] at hnodup
  rw [keys_remove, h, List.filter_cons_of_neg (by simp), List.filter_eq_self]
  intro j hj
  rw [decide_eq_true_eq]
  rintro rfl
  exact hnodup.1 hj

end OrderedMap
end EchoSync
