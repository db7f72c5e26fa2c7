import Mathlib.Algebra.Order.Ring.Int
import Mathlib.Tactic.Common

/-!
# Two's complement arithmetic on 64 bits

`wrap64 x` is the value a signed 64-bit variable holds after the exact integer `x` is stored in it.
-/

/-- The signed 64-bit value with the same residue modulo `2 ^ 64` as `x`. -/
def wrap64 (x : Int) : Int := x.bmod (2 ^ 64)

namespace Int64Lib

theorem wrap64_eq (x : Int) :
    wrap64 x = if x % 18446744073709551616 < 9223372036854775808
      then x % 18446744073709551616 else x % 18446744073709551616 - 18446744073709551616 := by
  simp [wrap64, Int.bmod_def]

theorem wrap64_of_range {x : Int} (hlo : -9223372036854775808 ≤ x)
    (hhi : x < 9223372036854775808) : wrap64 x = x := by
  rw [wrap64_eq]
  split_ifs <;> omega

theorem wrap64_range (x : Int) :
    -9223372036854775808 ≤ wrap64 x ∧ wrap64 x < 9223372036854775808 := by
  rw [wrap64_eq]
  split_ifs <;> omega

theorem wrap64_eq_sub (x : Int) : ∃ k : Int, wrap64 x = x - 18446744073709551616 * k := by
  have hdiv := Int.emod_def x 18446744073709551616
  rw [wrap64_eq]
  split_ifs
  · exact ⟨x / 18446744073709551616, hdiv⟩
  · exact ⟨x / 18446744073709551616 + 1, by omega⟩

theorem wrap64_le {x : Int} (hlo : -9223372036854775808 ≤ x) : wrap64 x ≤ x := by
  rw [wrap64_eq]
  split_ifs <;> omega

theorem wrap64_neg {x : Int} (hlo : 9223372036854775808 ≤ x) (hhi : x < 18446744073709551616) :
    wrap64 x < 0 := by
  rw [wrap64_eq]
  split_ifs <;> omega

theorem wrap64_add_wrap64 (x y : Int) : wrap64 (wrap64 x + y) = wrap64 (x + y) := by
  rw [wrap64, wrap64, wrap64, Int.bmod_add_bmod]

theorem wrap64_add_ne {x d : Int} (hd : d ≠ 0) (hlo : -18446744073709551616 < d)
    (hhi : d < 18446744073709551616) : wrap64 (x + d) ≠ x := by
  rw [wrap64_eq]
  split_ifs <;> omega

theorem foldl_wrap64_add {α : Type} (f : α → Int) (xs : List α) : ∀ total : Int,
    xs.foldl (fun total x => wrap64 (total + f x)) (wrap64 total) =
      wrap64 (total + (xs.map f).sum) := by
  induction xs with
  | nil => intro total; simp
  | cons x xs ih =>
    intro total
    rw [List.foldl_cons, wrap64_add_wrap64, ih, List.map_cons, List.sum_cons, Int.add_assoc]

end Int64Lib
