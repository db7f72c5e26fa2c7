import GarudaChain.Node.Pow

/-!
# The arithmetic of targets
-/

namespace GarudaChain

open Limbs

theorem mulAssign_eq {a : Nat} {b : Int} (ha : a < 2 ^ 256) (hb0 : 0 ≤ b) (hb : b < 2 ^ 32) :
    mulAssign a b = a * b.toNat % 2 ^ 256 := by
  have hmod : b % 2 ^ 32 = b := Int.emod_eq_of_lt hb0 hb
  have hfactor : b.toNat < 2 ^ 32 := by omega
  have hwidth : (2 ^ 32 : Nat) ^ 8 = 2 ^ 256 := by norm_num
  rw [mulAssign, hmod, ofDigits_mulLoop hfactor _ 0 (limbs_lt (by norm_num) 8 a) (by norm_num),
    ofDigits_limbs, length_limbs, hwidth, Nat.mod_eq_of_lt ha, Nat.add_zero]

theorem divAssign_eq {a b : Nat} (ha : a < 2 ^ 256) (hb : 0 < b) :
    divAssign a b = .ok (a / b) := by
  have hbits : bits b ≠ 0 := Nat.ne_of_gt (bits_pos.mpr hb)
  unfold divAssign
  simp only [beq_iff_eq, hbits, if_false]
  by_cases hlt : bits b > bits a
  · have hab : a < b := by
      by_contra hle
      exact Nat.not_lt.mpr (bits_mono (Nat.not_lt.mp hle)) hlt
    rw [if_pos hlt, Nat.div_eq_of_lt hab]
  · rw [if_neg hlt]
    have hle : bits b ≤ bits a := Nat.not_lt.mp hlt
    -- the shift aligns the highest bits, so the divisor still fits and its double exceeds `a`
    have hfits : b * 2 ^ (bits a - bits b) < 2 ^ 256 := by
      have hlow : b * 2 ^ (bits a - bits b) < 2 ^ bits b * 2 ^ (bits a - bits b) :=
        Nat.mul_lt_mul_of_pos_right (lt_two_pow_bits b) (by positivity)
      rw [← pow_add, Nat.add_sub_cancel' hle] at hlow
      exact hlow.trans_le (Nat.pow_le_pow_right (by norm_num) (bits_le_iff.mpr ha))
    have hhigh : a < b * 2 ^ (bits a - bits b + 1) := by
      have htop : 2 ^ (bits b - 1) ≤ b := lt_bits_iff.mp (by omega)
      have hexp : bits b - 1 + (bits a - bits b + 1) = bits a := by omega
      calc a < 2 ^ bits a := lt_two_pow_bits a
        _ = 2 ^ (bits b - 1) * 2 ^ (bits a - bits b + 1) := by rw [← pow_add, hexp]
        _ ≤ b * 2 ^ (bits a - bits b + 1) := Nat.mul_le_mul_right _ htop
    have hloop := divLoop_eq hb (bits a - bits b) a 0 hhigh
    rw [Nat.mod_eq_of_lt hfits]
    simp only [Nat.zero_mul, Nat.zero_add] at hloop
    rw [hloop]

def compactSize (a : Nat) : Nat := bits a / 8 + 1

/-- The mantissa of the compact form. -/
def compactMantissa (a : Nat) : Nat :=
  if compactSize a ≤ 3 then a * 2 ^ (8 * (3 - compactSize a))
  else a / 2 ^ (8 * (compactSize a - 3))

theorem testBit_23 {n : Nat} (h : n < 2 ^ 24) : n.testBit 23 = decide (2 ^ 23 ≤ n) := by
  rw [Nat.testBit_eq_decide_div_mod_eq]
  apply Bool.decide_congr
  norm_num at h ⊢
  omega

theorem mantissa_range {a n : Nat} (ha : 0 < a) (hn : (bits a + 7) / 8 = n) :
    let m := if n ≤ 3 then a * 2 ^ (8 * (3 - n)) else a / 2 ^ (8 * (n - 3))
    m < 2 ^ (bits a + 24 - 8 * n) ∧ 2 ^ (bits a + 23 - 8 * n) ≤ m := by
  have hpos : 0 < bits a := bits_pos.mpr ha
  have hlt : a < 2 ^ bits a := lt_two_pow_bits a
  have hge : 2 ^ (bits a - 1) ≤ a := lt_bits_iff.mp (by omega)
  intro m
  by_cases hle : n ≤ 3
  · have hm : m = a * 2 ^ (8 * (3 - n)) := if_pos hle
    have hup : bits a + 24 - 8 * n = bits a + 8 * (3 - n) := by omega
    have hlow : bits a + 23 - 8 * n = bits a - 1 + 8 * (3 - n) := by omega
    rw [hm, hup, hlow, pow_add, pow_add]
    exact ⟨Nat.mul_lt_mul_of_pos_right hlt (by positivity), Nat.mul_le_mul_right _ hge⟩
  · have hm : m = a / 2 ^ (8 * (n - 3)) := if_neg hle
    have hup : bits a = bits a + 24 - 8 * n + 8 * (n - 3) := by omega
    have hlow : bits a - 1 = bits a + 23 - 8 * n + 8 * (n - 3) := by omega
    rw [hm, Nat.div_lt_iff_lt_mul (by positivity), Nat.le_div_iff_mul_le (by positivity),
      ← pow_add, ← pow_add, ← hup, ← hlow]
    exact ⟨hlt, hge⟩

theorem low_word_eq {a n : Nat}
    (h : (if n ≤ 3 then a * 2 ^ (8 * (3 - n)) else a / 2 ^ (8 * (n - 3))) < 2 ^ 24) :
    (if n ≤ 3 then a % 2 ^ 64 * 2 ^ (8 * (3 - n)) % 2 ^ 64 % 2 ^ 32
      else a / 2 ^ (8 * (n - 3)) % 2 ^ 64 % 2 ^ 32)
      = if n ≤ 3 then a * 2 ^ (8 * (3 - n)) else a / 2 ^ (8 * (n - 3)) := by
  have h64 : (2 : Nat) ^ 24 < 2 ^ 64 := by norm_num
  have h32 : (2 : Nat) ^ 24 < 2 ^ 32 := by norm_num
  by_cases hle : n ≤ 3
  · simp only [if_pos hle] at h ⊢
    have ha : a ≤ a * 2 ^ (8 * (3 - n)) := Nat.le_mul_of_pos_right _ (by positivity)
    rw [Nat.mod_eq_of_lt (by omega : a < 2 ^ 64), Nat.mod_eq_of_lt (h.trans h64),
      Nat.mod_eq_of_lt (h.trans h32)]
  · simp only [if_neg hle] at h ⊢
    rw [Nat.mod_eq_of_lt (h.trans h64), Nat.mod_eq_of_lt (h.trans h32)]

theorem compactParts_eq {a : Nat} (ha : 0 < a) :
    compactParts a = (compactMantissa a, compactSize a) := by
  have hpos : 0 < bits a := bits_pos.mpr ha
  obtain ⟨hlt, hge⟩ := mantissa_range ha rfl
  have h24 : (2 : Nat) ^ (bits a + 24 - 8 * ((bits a + 7) / 8)) ≤ 2 ^ 24 :=
    Nat.pow_le_pow_right (by norm_num) (by omega)
  unfold compactParts
  simp only [low_word_eq (hlt.trans_le h24), testBit_23 (hlt.trans_le h24), decide_eq_true_eq]
  by_cases hmod : bits a % 8 = 0
  · -- a full highest byte has the sign bit set, so the mantissa loses its lowest byte
    have hn : (bits a + 7) / 8 = bits a / 8 := by omega
    have hexp : bits a + 23 - 8 * ((bits a + 7) / 8) = 23 := by omega
    rw [hexp] at hge
    rw [if_pos hge, hn]
    unfold compactMantissa compactSize
    refine Prod.ext ?_ rfl
    simp only
    by_cases h3 : bits a / 8 + 1 ≤ 3
    · have hsplit : 8 * (3 - bits a / 8) = 8 * (3 - (bits a / 8 + 1)) + 8 := by omega
      rw [if_pos (by omega), if_pos h3, hsplit, pow_add, ← Nat.mul_assoc,
        Nat.mul_div_cancel _ (by positivity)]
    · rw [if_neg h3]
      by_cases h4 : bits a / 8 ≤ 3
      · have h0 : 8 * (3 - bits a / 8) = 0 := by omega
        have h8 : 8 * (bits a / 8 + 1 - 3) = 8 := by omega
        rw [if_pos h4, h0, h8, pow_zero, Nat.mul_one]
      · have hsplit : 8 * (bits a / 8 + 1 - 3) = 8 * (bits a / 8 - 3) + 8 := by omega
        rw [if_neg h4, Nat.div_div_eq_div_mul, ← pow_add, hsplit]
  · have hn : (bits a + 7) / 8 = bits a / 8 + 1 := by omega
    have h23 : (2 : Nat) ^ (bits a + 24 - 8 * ((bits a + 7) / 8)) ≤ 2 ^ 23 :=
      Nat.pow_le_pow_right (by norm_num) (by omega)
    rw [if_neg (Nat.not_le.mpr (hlt.trans_le h23)), hn]
    rfl

theorem compactMantissa_lt {a : Nat} (ha : 0 < a) : compactMantissa a < 2 ^ 23 := by
  have hpos : 0 < bits a := bits_pos.mpr ha
  have hlt : a < 2 ^ bits a := lt_two_pow_bits a
  unfold compactMantissa compactSize
  by_cases h3 : bits a / 8 + 1 ≤ 3
  · rw [if_pos h3]
    calc a * 2 ^ (8 * (3 - (bits a / 8 + 1)))
        < 2 ^ bits a * 2 ^ (8 * (3 - (bits a / 8 + 1))) :=
          Nat.mul_lt_mul_of_pos_right hlt (by positivity)
      _ = 2 ^ (bits a + 8 * (3 - (bits a / 8 + 1))) := (pow_add _ _ _).symm
      _ ≤ 2 ^ 23 := Nat.pow_le_pow_right (by norm_num) (by omega)
  · rw [if_neg h3, Nat.div_lt_iff_lt_mul (by positivity), ← pow_add]
    exact hlt.trans_le (Nat.pow_le_pow_right (by norm_num) (by omega))

theorem getCompact_eq {a : Nat} (ha : 0 < a) :
    getCompact a = compactMantissa a + compactSize a * 2 ^ 24 := by
  have hlt : compactMantissa a < 2 ^ 24 := (compactMantissa_lt ha).trans (by norm_num)
  have hor := Nat.two_pow_add_eq_or_of_lt hlt (compactSize a)
  rw [getCompact, compactParts_eq ha]
  simp only
  rw [Nat.or_comm, Nat.mul_comm, ← hor, Nat.add_comm]

theorem setCompact_fst (n : Nat) :
    (setCompact n).1 = if n / 2 ^ 24 ≤ 3 then n % 2 ^ 23 / 2 ^ (8 * (3 - n / 2 ^ 24))
      else n % 2 ^ 23 * 2 ^ (8 * (n / 2 ^ 24 - 3)) % 2 ^ 256 := rfl

/-- How many bits of a number of `b` bits a compact form has no room for. -/
def compactDrop (b : Nat) : Nat := 8 * (b / 8 - 2)

theorem compactDrop_le (b : Nat) : compactDrop (b + 1) ≤ b := by
  unfold compactDrop
  omega

theorem roundTarget_eq {a : Nat} (ha : a < 2 ^ 256) : roundTarget a = trunc compactDrop a := by
  rcases Nat.eq_zero_or_pos a with rfl | hpos
  · decide
  have hlt := compactMantissa_lt hpos
  have hsize : (compactMantissa a + compactSize a * 2 ^ 24) / 2 ^ 24 = compactSize a := by
    rw [Nat.add_mul_div_right _ _ (by norm_num), Nat.div_eq_of_lt (hlt.trans (by norm_num)),
      Nat.zero_add]
  have hword : (compactMantissa a + compactSize a * 2 ^ 24) % 2 ^ 23 = compactMantissa a := by
    have h : compactSize a * 2 ^ 24 = compactSize a * 2 * 2 ^ 23 := by ring
    rw [h, Nat.add_mul_mod_self_right, Nat.mod_eq_of_lt hlt]
  rw [roundTarget, getCompact_eq hpos, setCompact_fst, hsize, hword, compactMantissa]
  by_cases h3 : compactSize a ≤ 3
  · have hdrop : compactDrop (bits a) = 0 := by
      unfold compactSize at h3
      unfold compactDrop
      omega
    rw [if_pos h3, if_pos h3, Nat.mul_div_cancel _ (by positivity), trunc, hdrop]
    simp
  · have hdrop : 8 * (compactSize a - 3) = compactDrop (bits a) := by
      unfold compactSize compactDrop
      omega
    have hle : a / 2 ^ compactDrop (bits a) * 2 ^ compactDrop (bits a) ≤ a :=
      Nat.div_mul_le_self _ _
    rw [if_neg h3, if_neg h3, hdrop, Nat.mod_eq_of_lt (hle.trans_lt ha), trunc]

theorem roundTarget_mono {a b : Nat} (h : a ≤ b) (hb : b < 2 ^ 256) :
    roundTarget a ≤ roundTarget b := by
  rw [roundTarget_eq (h.trans_lt hb), roundTarget_eq hb]
  exact trunc_mono compactDrop_le h

end GarudaChain
