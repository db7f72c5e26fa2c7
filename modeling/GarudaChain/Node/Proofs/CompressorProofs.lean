import GarudaChain.Node.Compressor
import GarudaChain.Node.Primitives

/-!
# Amounts that the coins database gives back

The code of an amount is nine times as large, so it leaves 64 bits before the amount does.
-/

namespace GarudaChain

theorem dropZeros_spec {left n : Nat} (hn : 0 < n) :
    (dropZeros left n).2 ≤ left ∧ 0 < (dropZeros left n).1 ∧
      n = (dropZeros left n).1 * 10 ^ (left - (dropZeros left n).2) ∧
      (0 < (dropZeros left n).2 → (dropZeros left n).1 % 10 ≠ 0) := by
  induction left generalizing n with
  | zero => simp [dropZeros, hn]
  | succ left ih =>
    rw [dropZeros]
    split
    · rename_i hzero
      obtain ⟨hle, hpos, heq, hlast⟩ := ih (n := n / 10) (by omega)
      refine ⟨by omega, hpos, ?_, hlast⟩
      rw [Nat.succ_sub hle, pow_succ, ← mul_assoc, ← heq]
      omega
    · exact ⟨le_refl _, hn, by simp, fun _ => ‹_›⟩

theorem appendZeros_eq {e n : Nat} (h : n * 10 ^ e < 2 ^ 64) : appendZeros e n = n * 10 ^ e := by
  induction e generalizing n with
  | zero => simp [appendZeros]
  | succ e ih =>
    have hten : n * 10 * 10 ^ e = n * 10 ^ (e + 1) := by rw [pow_succ, mul_assoc, mul_comm 10]
    have hle : n * 10 ≤ n * 10 * 10 ^ e := Nat.le_mul_of_pos_right _ (Nat.pow_pos (by omega))
    rw [appendZeros, Nat.mod_eq_of_lt (by omega), ih (by omega), hten]

/-- The code of an amount that ends with `e < 9` zeros. -/
theorem decompress_short {m e : Nat} (he : e < 9) (hm : m % 10 ≠ 0) (hsmall : m * 10 ^ e < 2 ^ 64)
    (hcode : 9 * m + m % 10 + e < 2 ^ 64 + 9) :
    decompressAmount ((1 + (m / 10 * 9 + m % 10 - 1) * 10 + e) % 2 ^ 64) = m * 10 ^ e := by
  have hle : m ≤ m * 10 ^ e := Nat.le_mul_of_pos_right _ (Nat.pow_pos (by omega))
  have hdigit : (1 + (m / 10 * 9 + m % 10 - 1) * 10 + e - 1) % 10 = e := by omega
  have hrest : (1 + (m / 10 * 9 + m % 10 - 1) * 10 + e - 1) / 10 = m / 10 * 9 + m % 10 - 1 := by omega
  have hvalue : (m / 10 * 9 + m % 10 - 1) / 9 * 10 + ((m / 10 * 9 + m % 10 - 1) % 9 + 1) = m := by omega
  rw [Nat.mod_eq_of_lt (by omega), decompressAmount, if_neg (by omega)]
  simp only [hdigit, hrest, if_pos he, hvalue]
  rw [Nat.mod_eq_of_lt (by omega), appendZeros_eq hsmall]

/-- The code of an amount that ends with nine zeros. -/
theorem decompress_long {m : Nat} (hm : 0 < m) (hsmall : m * 10 ^ 9 < 2 ^ 64) :
    decompressAmount ((1 + (m - 1) * 10 + 9) % 2 ^ 64) = m * 10 ^ 9 := by
  have hdigit : (1 + (m - 1) * 10 + 9 - 1) % 10 = 9 := by omega
  have hrest : (1 + (m - 1) * 10 + 9 - 1) / 10 + 1 = m := by omega
  rw [Nat.mod_eq_of_lt (by omega), decompressAmount, if_neg (by omega)]
  simp only [hdigit, hrest, if_neg (lt_irrefl 9)]
  rw [Nat.mod_eq_of_lt (by omega), appendZeros_eq hsmall]

/-- The largest amount up to which every amount is stored as it is. -/
def largestStored : Nat := 2049638230412172402

theorem decompressAmount_compressAmount_of_le {n : Nat} (hn : n ≤ largestStored) :
    decompressAmount (compressAmount n) = n := by
  rw [largestStored] at hn
  by_cases hzero : n = 0
  · subst hzero
    rfl
  obtain ⟨hle, hpos, heq, hlast⟩ := @dropZeros_spec 9 n (Nat.pos_of_ne_zero hzero)
  rw [compressAmount, if_neg hzero]
  generalize dropZeros 9 n = r at *
  obtain ⟨m, left⟩ := r
  dsimp only at *
  split
  · rename_i he
    rw [decompress_short he (hlast (by omega)) (by omega) ?_, ← heq]
    -- only without zeros at its end is the amount itself what is multiplied by nine
    rcases Nat.eq_zero_or_pos (9 - left) with h0 | h0
    · rw [h0, pow_zero] at heq
      omega
    · have := Nat.mul_le_mul_left m (Nat.pow_le_pow_right (show 0 < 10 by omega) h0)
      omega
  · have hleft : left = 0 := by omega
    subst hleft
    rw [decompress_long hpos (by omega), heq]

/-- Every amount up to 20.4 billion GRD is read back as it was written; the next one, less than a quarter
    of `MAX_MONEY`, is read back as a ten thousandth of a GRD. -/
theorem decompressAmount_compressAmount :
    (∀ n ≤ largestStored, decompressAmount (compressAmount n) = n) ∧
      decompressAmount (compressAmount (largestStored + 1)) = 10000 ∧
      4 * (largestStored + 1 : Int) < maxMoney := by
  exact ⟨fun n hn => decompressAmount_compressAmount_of_le hn, by decide, by decide⟩

end GarudaChain
