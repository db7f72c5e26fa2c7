import Mathlib.Algebra.Order.Ring.Int
import Mathlib.Data.Nat.Digits.Defs
import Mathlib.Tactic.Common
import Mathlib.Tactic.Linarith
import Mathlib.Tactic.Ring

/-!
# Multiple precision arithmetic

Numbers kept as a list of limbs, the lowest first: multiplication by one limb with a carry, division by
shifting and subtracting, the position of the highest bit, and the loss of precision when only the
highest bits are kept.
-/

namespace Limbs

/-- The lowest `n` limbs of `a` in base `B`. -/
def limbs (B : Nat) : Nat → Nat → List Nat
  | 0, _ => []
  | n + 1, a => a % B :: limbs B n (a / B)

@[simp] theorem length_limbs (B n a : Nat) : (limbs B n a).length = n := by
  induction n generalizing a with
  | zero => rfl
  | succ n ih => simp [limbs, ih]

theorem limbs_lt {B : Nat} (hB : 0 < B) (n a : Nat) : ∀ x ∈ limbs B n a, x < B := by
  induction n generalizing a with
  | zero => intro x hx; cases hx
  | succ n ih =>
    intro x hx
    rcases List.mem_cons.mp hx with rfl | hx
    · exact Nat.mod_lt _ hB
    · exact ih (a / B) x hx

theorem ofDigits_limbs (B n a : Nat) : Nat.ofDigits B (limbs B n a) = a % B ^ n := by
  induction n generalizing a with
  | zero => simp [limbs, Nat.mod_one]
  | succ n ih =>
    rw [limbs, Nat.ofDigits_cons, ih, pow_succ', Nat.mod_mul]

/-- Multiplication by `b` from the lowest limb on, in words of two limbs. -/
def mulLoop (B b : Nat) : List Nat → Nat → List Nat
  | [], _ => []
  | x :: xs, carry =>
    let n := (carry + b * x) % (B * B)
    n % B :: mulLoop B b xs (n / B)

theorem word_lt {B b x c : Nat} (hb : b < B) (hx : x < B) (hc : c < B) : c + b * x < B * B := by
  obtain ⟨B, rfl⟩ := Nat.exists_eq_add_one_of_ne_zero (Nat.ne_of_gt (Nat.zero_lt_of_lt hb))
  have hmul : b * x ≤ B * B := Nat.mul_le_mul (Nat.le_of_lt_succ hb) (Nat.le_of_lt_succ hx)
  have hsq : (B + 1) * (B + 1) = B * B + 2 * B + 1 := by ring
  omega

theorem ofDigits_mulLoop {B b : Nat} (hb : b < B) (xs : List Nat) :
    ∀ c, (∀ x ∈ xs, x < B) → c < B →
      Nat.ofDigits B (mulLoop B b xs c) = (Nat.ofDigits B xs * b + c) % B ^ xs.length := by
  have hB : 0 < B := Nat.zero_lt_of_lt hb
  induction xs with
  | nil => intro c _ _; simp [mulLoop, Nat.mod_one]
  | cons x xs ih =>
    intro c hxs hc
    have hword : c + b * x < B * B := word_lt hb (hxs x List.mem_cons_self) hc
    have hcarry : (c + b * x) / B < B := Nat.div_lt_of_lt_mul hword
    have htail := ih ((c + b * x) / B) (fun y hy => hxs y (List.mem_cons_of_mem _ hy)) hcarry
    -- the whole product is the low word plus `B` times the product of the upper limbs
    have hsplit : Nat.ofDigits B (x :: xs) * b + c
        = (c + b * x) + B * (Nat.ofDigits B xs * b) := by
      rw [Nat.ofDigits_cons]
      ring
    have hlow : (Nat.ofDigits B (x :: xs) * b + c) % B = (c + b * x) % B := by
      rw [hsplit, Nat.add_mul_mod_self_left]
    have hhigh : (Nat.ofDigits B (x :: xs) * b + c) / B
        = Nat.ofDigits B xs * b + (c + b * x) / B := by
      rw [hsplit, Nat.add_mul_div_left _ _ hB, Nat.add_comm]
    rw [mulLoop]
    simp only [Nat.mod_eq_of_lt hword]
    rw [Nat.ofDigits_cons, htail, List.length_cons, pow_succ', Nat.mod_mul, hlow, hhigh]

/-- Division by shifting and subtracting: `n` quotient bits are still to be found, the highest
    first, and `div` is the divisor aligned with the next one. -/
def divLoop : Nat → Nat → Nat → Nat → Nat
  | 0, _, _, quotient => quotient
  | n + 1, num, div, quotient =>
    if div ≤ num then divLoop n (num - div) (div / 2) (quotient ||| 2 ^ n)
    else divLoop n num (div / 2) quotient

theorem or_two_pow (k n : Nat) : k * 2 ^ (n + 1) ||| 2 ^ n = (2 * k + 1) * 2 ^ n := by
  have h := Nat.two_pow_add_eq_or_of_lt (Nat.pow_lt_pow_right (by omega) (Nat.lt_succ_self n)) k
  rw [Nat.mul_comm, ← h, pow_succ]
  ring

theorem divLoop_eq {b : Nat} (hb : 0 < b) (n : Nat) : ∀ num k, num < b * 2 ^ (n + 1) →
    divLoop (n + 1) num (b * 2 ^ n) (k * 2 ^ (n + 1)) = k * 2 ^ (n + 1) + num / b := by
  induction n with
  | zero =>
    intro num k hnum
    have hor : k * 2 ||| 1 = (2 * k + 1) * 1 := by simpa using or_two_pow k 0
    by_cases hle : b ≤ num
    · have hone : num / b = 1 := by
        rw [Nat.div_eq_iff hb]
        omega
      simp [divLoop, hle, hor, hone]
      omega
    · have hzero : num / b = 0 := Nat.div_eq_of_lt (by omega)
      simp [divLoop, hle, hzero]
  | succ n ih =>
    intro num k hnum
    have hhalf : b * 2 ^ (n + 1) / 2 = b * 2 ^ n := by
      rw [pow_succ, ← Nat.mul_assoc, Nat.mul_div_cancel _ (by omega)]
    have hdouble : b * 2 ^ (n + 1 + 1) = b * 2 ^ (n + 1) + b * 2 ^ (n + 1) := by ring
    rw [divLoop]
    by_cases hle : b * 2 ^ (n + 1) ≤ num
    · rw [if_pos hle, or_two_pow, hhalf, ih _ _ (by omega)]
      have hdiv : num / b = (num - b * 2 ^ (n + 1)) / b + 2 ^ (n + 1) := by
        conv_lhs => rw [← Nat.sub_add_cancel hle, Nat.add_mul_div_left _ _ hb]
      rw [hdiv, pow_succ 2 (n + 1)]
      ring
    · have hk : k * 2 ^ (n + 1 + 1) = 2 * k * 2 ^ (n + 1) := by ring
      rw [if_neg hle, hhalf, hk, ih _ _ (by omega)]

/-- The position of the highest bit set plus one, zero for zero. -/
def bits (a : Nat) : Nat := if a = 0 then 0 else a.log2 + 1

theorem bits_le_iff {a n : Nat} : bits a ≤ n ↔ a < 2 ^ n := by
  unfold bits
  by_cases ha : a = 0
  · simp [ha]
  · rw [if_neg ha, Nat.succ_le_iff, Nat.log2_lt ha]

theorem lt_two_pow_bits (a : Nat) : a < 2 ^ bits a := bits_le_iff.mp (Nat.le_refl _)

theorem lt_bits_iff {a n : Nat} : n < bits a ↔ 2 ^ n ≤ a := by
  rw [← Nat.not_le, bits_le_iff, Nat.not_lt]

theorem bits_pos {a : Nat} : 0 < bits a ↔ 0 < a := by
  rw [lt_bits_iff, pow_zero, Nat.one_le_iff_ne_zero, Nat.pos_iff_ne_zero]

theorem bits_mono {a b : Nat} (h : a ≤ b) : bits a ≤ bits b :=
  bits_le_iff.mpr (Nat.lt_of_le_of_lt h (lt_two_pow_bits b))

/-- The number with its lowest bits cleared; how many are cleared depends on its size only. -/
def trunc (drop : Nat → Nat) (x : Nat) : Nat := x / 2 ^ drop (bits x) * 2 ^ drop (bits x)

variable {drop : Nat → Nat}

theorem trunc_le (x : Nat) : trunc drop x ≤ x := Nat.div_mul_le_self _ _

theorem two_pow_le_trunc (hdrop : ∀ b, drop (b + 1) ≤ b) {x n : Nat} (hx : bits x = n + 1) :
    2 ^ n ≤ trunc drop x := by
  have hn : 2 ^ n ≤ x := lt_bits_iff.mp (by omega)
  have hsplit : 2 ^ n = 2 ^ (n - drop (n + 1)) * 2 ^ drop (n + 1) := by
    rw [← pow_add, Nat.sub_add_cancel (hdrop n)]
  rw [trunc, hx, hsplit]
  apply Nat.mul_le_mul_right
  rw [Nat.le_div_iff_mul_le (by positivity), ← hsplit]
  exact hn

theorem trunc_mono (hdrop : ∀ b, drop (b + 1) ≤ b) {x y : Nat} (h : x ≤ y) :
    trunc drop x ≤ trunc drop y := by
  rcases Nat.lt_or_eq_of_le (bits_mono h) with hlt | heq
  · -- a longer number keeps a bit that the shorter one does not reach
    obtain ⟨n, hn⟩ := Nat.exists_eq_add_one_of_ne_zero (Nat.ne_of_gt (Nat.zero_lt_of_lt hlt))
    have hx : x < 2 ^ n := bits_le_iff.mp (by omega)
    exact (trunc_le x).trans (hx.le.trans (two_pow_le_trunc hdrop hn))
  · unfold trunc
    rw [heq]
    exact Nat.mul_le_mul_right _ (Nat.div_le_div_right h)

end Limbs
