import Mathlib

/-!
# Foundations - Ledgers of a buffer with consumers

Items are accepted into a first-in first-out buffer.  Consumers take them from its
front, and hold each of them until they send it on, give it up, or are lost with
it; the front of the buffer can also be drained.  A ledger lists the items by the
place they are in, and a step moves one item.

Main results:

- Theorem {lit}`Step.balanced`: the items that left the buffer are an initial part
  of those accepted, and they are exactly the ones in the other places.
- Theorem {lit}`Balanced.count_eq`: every item is in as many places as often as it
  was accepted.
- Theorem {lit}`Step.inOrder`: while at most one item is held at a time, items are
  sent on in the order in which they were accepted.
-/

namespace EchoSync

universe u

/-- The items accepted so far, by place. -/
@[ext]
structure Ledger (α : Type u) where
  accepted : List α
  waiting : List α
  held : Multiset α
  sent : List α
  failed : Multiset α
  drained : Multiset α
  lost : Multiset α

namespace Ledger

variable {α : Type u}

/-- The moves of one item. -/
inductive Step : Ledger α → Ledger α → Prop where
  | accept (l : Ledger α) (a : α) :
      Step l { l with accepted := l.accepted ++ [a], waiting := l.waiting ++ [a] }
  | take (l : Ledger α) (a : α) (rest : List α) (hwaiting : l.waiting = a :: rest) :
      Step l { l with waiting := rest, held := a ::ₘ l.held }
  | send (l : Ledger α) (a : α) (rest : Multiset α) (hheld : l.held = a ::ₘ rest) :
      Step l { l with held := rest, sent := l.sent ++ [a] }
  | fail (l : Ledger α) (a : α) (rest : Multiset α) (hheld : l.held = a ::ₘ rest) :
      Step l { l with held := rest, failed := a ::ₘ l.failed }
  | drain (l : Ledger α) (a : α) (rest : List α) (hwaiting : l.waiting = a :: rest) :
      Step l { l with waiting := rest, drained := a ::ₘ l.drained }
  | lose (l : Ledger α) (a : α) (rest : Multiset α) (hheld : l.held = a ::ₘ rest) :
      Step l { l with held := rest, lost := a ::ₘ l.lost }

/-- The items in any place other than the buffer. -/
def gone (l : Ledger α) : Multiset α :=
  l.held + l.sent + l.failed + l.drained + l.lost

/-! ## Conservation -/

/-- The items accepted before those that wait are the ones that left the buffer. -/
def Balanced (l : Ledger α) : Prop :=
  ∃ front : List α, l.accepted = front ++ l.waiting ∧ (front : Multiset α) = l.gone

/-- An item that leaves the front of the buffer goes to another place. -/
theorem Balanced.leave {l : Ledger α} (h : l.Balanced) {a : α} {rest : List α}
    (hwaiting : l.waiting = a :: rest) {l' : Ledger α} (haccepted : l'.accepted = l.accepted)
    (hrest : l'.waiting = rest) (hgone : l'.gone = a ::ₘ l.gone) : l'.Balanced := by
  rcases h with ⟨front, hfront, heq⟩
  refine ⟨front ++ [a], ?_, ?_⟩
  · rw [haccepted, hfront, hwaiting, hrest, List.append_assoc, List.singleton_append]
  · rw [hgone, ← heq, ← Multiset.coe_add, Multiset.coe_singleton, Multiset.add_comm,
      Multiset.singleton_add]

/-- An item that changes its place outside the buffer stays accounted for. -/
theorem Balanced.move {l l' : Ledger α} (h : l.Balanced) (haccepted : l'.accepted = l.accepted)
    (hwaiting : l'.waiting = l.waiting) (hgone : l'.gone = l.gone) : l'.Balanced := by
  rcases h with ⟨front, hfront, heq⟩
  exact ⟨front, by rw [haccepted, hwaiting, hfront], by rw [hgone, heq]⟩

/-- Every move keeps the balance. -/
theorem Step.balanced {l l' : Ledger α} (hstep : Step l l') (h : l.Balanced) : l'.Balanced := by
  cases hstep with
  | accept a =>
      rcases h with ⟨front, hfront, heq⟩
      refine ⟨front, ?_, heq⟩
      change l.accepted ++ [a] = front ++ (l.waiting ++ [a])
      rw [hfront, List.append_assoc]
  | take a rest hwaiting =>
      refine h.leave hwaiting rfl rfl ?_
      simp only [gone, Multiset.cons_add]
  | send a rest hheld =>
      refine h.move rfl rfl ?_
      simp only [gone, hheld, ← Multiset.coe_add, Multiset.coe_singleton,
        ← Multiset.singleton_add]
      abel
  | fail a rest hheld =>
      refine h.move rfl rfl ?_
      simp only [gone, hheld, Multiset.cons_add, Multiset.add_cons]
  | drain a rest hwaiting =>
      refine h.leave hwaiting rfl rfl ?_
      simp only [gone, Multiset.cons_add, Multiset.add_cons]
  | lose a rest hheld =>
      refine h.move rfl rfl ?_
      simp only [gone, hheld, Multiset.cons_add, Multiset.add_cons]

/-- In a balanced ledger every item is in the places together as often as it was
accepted. -/
theorem Balanced.count_eq [DecidableEq α] {l : Ledger α} (h : l.Balanced) (a : α) :
    l.waiting.count a + l.held.count a + l.sent.count a + l.failed.count a + l.drained.count a +
      l.lost.count a = l.accepted.count a := by
  rcases h with ⟨front, hfront, heq⟩
  have hcount := congrArg (Multiset.count a) heq
  simp only [gone, Multiset.count_add, Multiset.coe_count] at hcount
  rw [hfront, List.count_append, hcount]
  omega

/-- Nothing is in any place unless it was accepted. -/
theorem Balanced.gone_eq_zero {l : Ledger α} (h : l.Balanced) (haccepted : l.accepted = []) :
    l.gone = 0 := by
  rcases h with ⟨front, hfront, heq⟩
  rw [haccepted] at hfront
  rw [← heq, (List.append_eq_nil_iff.mp hfront.symm).1]
  rfl

/-- An item outside the buffer was accepted. -/
theorem Balanced.mem_accepted {l : Ledger α} (h : l.Balanced) {a : α} (ha : a ∈ l.gone) :
    a ∈ l.accepted := by
  rcases h with ⟨front, hfront, heq⟩
  rw [← heq, Multiset.mem_coe] at ha
  rw [hfront]
  exact List.mem_append_left _ ha

/-! ## Order -/

/-- At most one item is held, and what was sent, is held and waits are in the order
in which the items were accepted. -/
def InOrder (l : Ledger α) : Prop :=
  ∃ current : Option α, l.held = current.toList ∧
    (l.sent ++ current.toList ++ l.waiting).Sublist l.accepted

/-- In order, the item held is the one that a move names. -/
theorem held_eq_singleton {l : Ledger α} {current : Option α} {a : α} {rest : Multiset α}
    (hcurrent : l.held = current.toList) (hheld : l.held = a ::ₘ rest) :
    current = some a ∧ rest = 0 := by
  rw [hheld] at hcurrent
  cases current with
  | none => exact absurd hcurrent (Multiset.cons_ne_zero)
  | some b =>
      rw [Option.toList_some, Multiset.coe_singleton] at hcurrent
      rcases (Multiset.singleton_eq_cons_iff rest).mp hcurrent.symm with ⟨heq, hrest⟩
      exact ⟨congrArg some heq, hrest⟩

/-- Every move that leaves at most one item held keeps the order. -/
theorem Step.inOrder {l l' : Ledger α} (hstep : Step l l') (hcard : l'.held.card ≤ 1)
    (h : l.InOrder) : l'.InOrder := by
  rcases h with ⟨current, hcurrent, horder⟩
  cases hstep with
  | accept a =>
      refine ⟨current, hcurrent, ?_⟩
      change (l.sent ++ current.toList ++ (l.waiting ++ [a])).Sublist (l.accepted ++ [a])
      rw [← List.append_assoc]
      exact horder.append (List.Sublist.refl _)
  | take a rest hwaiting =>
      rw [Multiset.card_cons] at hcard
      have hempty : l.held = 0 := Multiset.card_eq_zero.mp (by omega)
      have hnone : current = none := by
        rw [hempty] at hcurrent
        cases current with
        | none => rfl
        | some b => exact absurd hcurrent.symm (Multiset.singleton_ne_zero b)
      subst hnone
      refine ⟨some a, ?_, ?_⟩
      · simp [hempty]
      · simpa [hwaiting] using horder
  | send a rest hheld =>
      rcases held_eq_singleton hcurrent hheld with ⟨rfl, rfl⟩
      exact ⟨none, rfl, by simpa using horder⟩
  | fail a rest hheld =>
      rcases held_eq_singleton hcurrent hheld with ⟨rfl, rfl⟩
      refine ⟨none, rfl, List.Sublist.trans ?_ horder⟩
      simp
  | drain a rest hwaiting =>
      refine ⟨current, hcurrent, List.Sublist.trans ?_ horder⟩
      rw [hwaiting]
      exact (List.Sublist.refl _).append (List.sublist_cons_self _ _)
  | lose a rest hheld =>
      rcases held_eq_singleton hcurrent hheld with ⟨rfl, rfl⟩
      refine ⟨none, rfl, List.Sublist.trans ?_ horder⟩
      simp

/-- In order, the items sent are a part of the accepted ones. -/
theorem InOrder.sent_sublist {l : Ledger α} (h : l.InOrder) : l.sent.Sublist l.accepted := by
  rcases h with ⟨current, -, horder⟩
  refine List.Sublist.trans ?_ horder
  rw [List.append_assoc]
  exact List.sublist_append_left _ _

end Ledger
end EchoSync
