import Mathlib.Data.Nat.Log
import Mathlib.Tactic.Common
import Mathlib.Tactic.Positivity
import Mathlib.Tactic.Ring

/-!
# Double precision numbers

Nonnegative IEEE 754 binary64 numbers as whole multiples of the smallest one, `2 ^ (-1074)`.
-/

namespace Double

/-- The whole number nearest to `n / d`, a tie going to the even one. -/
def roundDiv (n d : ℕ) : ℕ :=
  if 2 * (n % d) < d ∨ (2 * (n % d) = d ∧ n / d % 2 = 0) then n / d else n / d + 1

theorem roundDiv_bounds (n : ℕ) {d : ℕ} (hd : 0 < d) :
    2 * n ≤ 2 * (d * roundDiv n d) + d ∧ 2 * (d * roundDiv n d) ≤ 2 * n + d := by
  have hn : d * (n / d) + n % d = n := Nat.div_add_mod n d
  have hr : n % d < d := Nat.mod_lt n hd
  unfold roundDiv
  split_ifs with h
  · omega
  · rw [mul_add, mul_one]
    omega

theorem roundDiv_eq {n d q : ℕ} (hlow : 2 * n < 2 * (d * q) + d) (hhigh : 2 * (d * q) < 2 * n + d) :
    roundDiv n d = q := by
  have hd : 0 < d := by
    by_contra h
    obtain rfl : d = 0 := by omega
    omega
  obtain ⟨h₁, h₂⟩ := roundDiv_bounds n hd
  -- the two multiples are less than one divisor apart
  have hlt : d * roundDiv n d < d * (q + 1) := by rw [mul_add, mul_one]; omega
  have hgt : d * q < d * (roundDiv n d + 1) := by rw [mul_add, mul_one]; omega
  have hle := Nat.lt_of_mul_lt_mul_left hlt
  have hge := Nat.lt_of_mul_lt_mul_left hgt
  omega

theorem roundDiv_mul (q : ℕ) {d : ℕ} (hd : 0 < d) : roundDiv (d * q) d = q :=
  roundDiv_eq (by omega) (by omega)

def one : ℕ := 2 ^ 1074

/-- The unit in the last place of a quotient. -/
def ulp (n d : ℕ) : ℕ := 2 ^ (Nat.log 2 (n * one / d) - 52)

/-- The double nearest to `n / d`. -/
def ofRatio (n d : ℕ) : ℕ := roundDiv (n * one) (d * ulp n d) * ulp n d

/-- The double nearest to a whole number. -/
def ofNat (n : ℕ) : ℕ := ofRatio n 1

/-- The quotient and the product of a double and a whole number that is a double. -/
def div (x c : ℕ) : ℕ := ofRatio x (one * c)

def mul (x c : ℕ) : ℕ := ofRatio (x * c) one

/-- Conversion to a whole number cuts the fraction off. -/
def trunc (x : ℕ) : ℕ := x / one

/-- What `%.8f` shows, in units of the last digit. -/
def fixed8 (x : ℕ) : ℕ := roundDiv (x * 10 ^ 8) one

theorem one_pos : 0 < one := by
  rw [one]
  positivity

theorem ulp_pos (n d : ℕ) : 0 < ulp n d := Nat.two_pow_pos _

theorem ulp_le {n d k : ℕ} (h : n * one / d < 2 ^ (k + 53)) : ulp n d ≤ 2 ^ k := by
  refine Nat.pow_le_pow_right (by decide) ?_
  rcases Nat.eq_zero_or_pos (n * one / d) with hzero | hpos
  · simp [hzero]
  · have hlog := Nat.log_lt_of_lt_pow hpos.ne' h
    omega

theorem ofNat_eq {n : ℕ} (h : n < 2 ^ 53) : ofNat n = n * one := by
  have hulp : Nat.log 2 (n * one / 1) - 52 ≤ 1074 := by
    rcases Nat.eq_zero_or_pos n with rfl | hpos
    · rw [zero_mul, Nat.zero_div, Nat.log_zero_right]
      omega
    · have hlt : n * one / 1 < 2 ^ (53 + 1074) := by
        rw [Nat.div_one, pow_add, ← one]
        exact Nat.mul_lt_mul_of_pos_right h one_pos
      have hlog := Nat.log_lt_of_lt_pow (by rw [Nat.div_one]; exact (Nat.mul_pos hpos one_pos).ne') hlt
      omega
  have hdvd : ulp n 1 ∣ one := by
    rw [ulp, one]
    exact pow_dvd_pow 2 hulp
  obtain ⟨q, hq⟩ : ulp n 1 ∣ n * one := hdvd.mul_left n
  rw [ofNat, ofRatio, one_mul, hq, roundDiv_mul q (ulp_pos n 1), mul_comm]

theorem ofRatio_bounds (n : ℕ) {d : ℕ} (hd : 0 < d) :
    2 * (n * one) ≤ 2 * (d * ofRatio n d) + d * ulp n d ∧
      2 * (d * ofRatio n d) ≤ 2 * (n * one) + d * ulp n d := by
  have h := roundDiv_bounds (n * one) (Nat.mul_pos hd (ulp_pos n d))
  have hmul : d * ulp n d * roundDiv (n * one) (d * ulp n d) = d * ofRatio n d := by
    rw [ofRatio]
    ring
  rwa [hmul] at h

theorem fixed8_div_ofNat {n : ℕ} (h : n < 2 ^ 26 * 10 ^ 8) :
    fixed8 (div (ofNat n) (10 ^ 8)) = n := by
  have hone : 0 < one * 10 ^ 8 := Nat.mul_pos one_pos (by decide)
  rw [ofNat_eq (lt_trans h (by decide)), div]
  obtain ⟨hlow, hhigh⟩ := ofRatio_bounds (n * one) hone
  have hquot : n * one * one / (one * 10 ^ 8) < 2 ^ (1047 + 53) := by
    rw [Nat.div_lt_iff_lt_mul hone]
    calc n * one * one < 2 ^ 26 * 10 ^ 8 * one * one :=
          Nat.mul_lt_mul_of_pos_right (Nat.mul_lt_mul_of_pos_right h one_pos) one_pos
      _ = 2 ^ 26 * one * (one * 10 ^ 8) := by ring
      _ = 2 ^ (1047 + 53) * (one * 10 ^ 8) := by rw [one, ← pow_add]
  have hulp := ulp_le hquot
  generalize ofRatio (n * one) (one * 10 ^ 8) = y at *
  generalize ulp (n * one) (one * 10 ^ 8) = u at *
  -- half a unit is less than half of the last digit shown
  have hunit : 10 ^ 8 * u < one := by
    calc 10 ^ 8 * u ≤ 10 ^ 8 * 2 ^ 1047 := Nat.mul_le_mul_left _ hulp
      _ < 2 ^ 27 * 2 ^ 1047 := Nat.mul_lt_mul_of_pos_right (by decide) (by positivity)
      _ = one := by rw [one, ← pow_add]
  have hlow' : 2 * (n * one) ≤ 2 * (y * 10 ^ 8) + 10 ^ 8 * u := by
    refine Nat.le_of_mul_le_mul_left ?_ one_pos
    calc one * (2 * (n * one)) = 2 * (n * one * one) := by ring
      _ ≤ 2 * (one * 10 ^ 8 * y) + one * 10 ^ 8 * u := hlow
      _ = one * (2 * (y * 10 ^ 8) + 10 ^ 8 * u) := by ring
  have hhigh' : 2 * (y * 10 ^ 8) ≤ 2 * (n * one) + 10 ^ 8 * u := by
    refine Nat.le_of_mul_le_mul_left ?_ one_pos
    calc one * (2 * (y * 10 ^ 8)) = 2 * (one * 10 ^ 8 * y) := by ring
      _ ≤ 2 * (n * one * one) + one * 10 ^ 8 * u := hhigh
      _ = one * (2 * (n * one) + 10 ^ 8 * u) := by ring
  refine roundDiv_eq ?_ ?_
  · rw [mul_comm one n]
    omega
  · rw [mul_comm one n]
    omega

end Double
