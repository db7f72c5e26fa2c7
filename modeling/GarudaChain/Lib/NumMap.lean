import Mathlib.Algebra.BigOperators.Group.Finset.Basic
import Mathlib.Tactic.Abel

/-!
# Maps of numbers

A map from keys to numbers that gives zero where nothing is stored. It knows the keys it holds, so its
numbers have a sum.
-/

/-- The keys that are stored, and the number of each key. -/
structure NumMap (κ β : Type) [Zero β] where
  keys : Finset κ
  get : κ → β
  get_of_notMem : ∀ k ∉ keys, get k = 0

namespace NumMap

section

variable {κ β : Type} [DecidableEq κ] [Zero β]

def empty : NumMap κ β := ⟨∅, fun _ => 0, fun _ _ => rfl⟩

/-- Store a number under a key. -/
def set (m : NumMap κ β) (k : κ) (x : β) : NumMap κ β where
  keys := insert k m.keys
  get := Function.update m.get k x
  get_of_notMem k' hk' := by
    rw [Finset.mem_insert, not_or] at hk'
    rw [Function.update_of_ne hk'.1, m.get_of_notMem k' hk'.2]

omit [DecidableEq κ] in
@[simp] theorem get_empty (k : κ) : (empty : NumMap κ β).get k = 0 := rfl

@[simp] theorem get_set_self (m : NumMap κ β) (k : κ) (x : β) : (m.set k x).get k = x :=
  Function.update_self ..

theorem get_set_of_ne (m : NumMap κ β) {k k' : κ} (h : k' ≠ k) (x : β) :
    (m.set k x).get k' = m.get k' :=
  Function.update_of_ne h ..

theorem get_set (m : NumMap κ β) (k k' : κ) (x : β) :
    (m.set k x).get k' = if k' = k then x else m.get k' := by
  split_ifs with h
  · rw [h, get_set_self]
  · exact m.get_set_of_ne h x

theorem forall_get_set {P : κ → β → Prop} {m : NumMap κ β} (hm : ∀ k, P k (m.get k)) {k : κ} {x : β}
    (hx : P k x) (k' : κ) : P k' ((m.set k x).get k') := by
  rw [get_set]
  split_ifs with h
  · rw [h]
    exact hx
  · exact hm k'

end

section

variable {κ β : Type} [DecidableEq κ] [AddCommGroup β]

/-- The sum of the numbers. -/
def total (m : NumMap κ β) : β := ∑ k ∈ m.keys, m.get k

omit [DecidableEq κ] in
@[simp] theorem total_empty : (empty : NumMap κ β).total = 0 := Finset.sum_empty

theorem total_set (m : NumMap κ β) (k : κ) (x : β) : (m.set k x).total = m.total - m.get k + x := by
  have hinsert : m.total = ∑ k' ∈ insert k m.keys, m.get k' := by
    refine Finset.sum_subset (Finset.subset_insert k m.keys) ?_
    intro k' _ hk'
    exact m.get_of_notMem k' hk'
  have hrest : ∑ k' ∈ (insert k m.keys).erase k, (m.set k x).get k' =
      ∑ k' ∈ (insert k m.keys).erase k, m.get k' := by
    refine Finset.sum_congr rfl ?_
    intro k' hk'
    exact m.get_set_of_ne (Finset.ne_of_mem_erase hk') x
  have hmem : k ∈ insert k m.keys := Finset.mem_insert_self k m.keys
  rw [hinsert, total, set, ← Finset.add_sum_erase _ _ hmem, ← Finset.add_sum_erase _ m.get hmem]
  change (m.set k x).get k + ∑ k' ∈ (insert k m.keys).erase k, (m.set k x).get k' = _
  rw [hrest, get_set_self]
  abel

end

end NumMap
