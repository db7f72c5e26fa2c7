import Mathlib.Data.List.Sort
import Mathlib.Tactic.Common

/-!
# The middle of a sorted list

Where most of the elements of a sorted list lie in an interval, so do those in its middle.
-/

namespace Median

variable {α : Type} [LinearOrder α] {l : List α} {i : Nat}

theorem le_getElem_of_lt_countP (hl : l.Pairwise (· ≤ ·)) (hi : i < l.length) {lo : α}
    (hcount : l.length - (i + 1) < l.countP fun x => lo ≤ x) : lo ≤ l[i] := by
  by_contra hlt
  rw [not_le] at hlt
  have hfirst : (l.take (i + 1)).countP (fun x => lo ≤ x) = 0 := by
    rw [List.countP_eq_zero]
    intro x hx
    obtain ⟨j, hj, rfl⟩ := List.getElem_of_mem hx
    rw [List.getElem_take]
    rw [List.length_take] at hj
    have hle : l[j] ≤ l[i] := by
      rcases Nat.lt_or_ge j i with hji | hji
      · exact List.pairwise_iff_getElem.mp hl j i (by omega) hi hji
      · obtain rfl : j = i := by omega
        exact le_refl _
    simpa using hle.trans_lt hlt
  have hrest := List.countP_le_length (p := fun x => decide (lo ≤ x)) (l := l.drop (i + 1))
  rw [← List.take_append_drop (i + 1) l, List.countP_append, hfirst] at hcount
  rw [List.length_drop] at hrest
  simp only [List.length_append, List.length_take, List.length_drop] at hcount
  omega

theorem getElem_le_of_lt_countP (hl : l.Pairwise (· ≤ ·)) (hi : i < l.length) {hi' : α}
    (hcount : i < l.countP fun x => x ≤ hi') : l[i] ≤ hi' := by
  by_contra hlt
  rw [not_le] at hlt
  have hlast : (l.drop i).countP (fun x => x ≤ hi') = 0 := by
    rw [List.countP_eq_zero]
    intro x hx
    obtain ⟨j, hj, rfl⟩ := List.getElem_of_mem hx
    rw [List.getElem_drop]
    rw [List.length_drop] at hj
    have hle : l[i] ≤ l[i + j] := by
      rcases Nat.eq_zero_or_pos j with rfl | hj0
      · exact le_refl _
      · exact List.pairwise_iff_getElem.mp hl i (i + j) hi (by omega) (by omega)
    simpa using hlt.trans_le hle
  have hfirst := List.countP_le_length (p := fun x => decide (x ≤ hi')) (l := l.take i)
  rw [← List.take_append_drop i l, List.countP_append, hlast] at hcount
  rw [List.length_take] at hfirst
  omega

theorem getElem_mem_of_majority (hl : l.Pairwise (· ≤ ·)) (hi : i < l.length) {lo hi' : α}
    (hbefore : 2 * i ≤ l.length) (hafter : l.length ≤ 2 * i + 2)
    (hmajority : l.length < 2 * l.countP fun x => lo ≤ x ∧ x ≤ hi') : lo ≤ l[i] ∧ l[i] ≤ hi' := by
  have hlo : (l.countP fun x => lo ≤ x ∧ x ≤ hi') ≤ l.countP fun x => lo ≤ x :=
    List.countP_mono_left fun x _ h => by
      rw [decide_eq_true_eq] at h ⊢
      exact h.1
  have hhi : (l.countP fun x => lo ≤ x ∧ x ≤ hi') ≤ l.countP fun x => x ≤ hi' :=
    List.countP_mono_left fun x _ h => by
      rw [decide_eq_true_eq] at h ⊢
      exact h.2
  exact ⟨le_getElem_of_lt_countP hl hi (by omega), getElem_le_of_lt_countP hl hi (by omega)⟩

end Median
