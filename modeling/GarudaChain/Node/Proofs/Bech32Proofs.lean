import GarudaChain.Node.Bech32
import Mathlib.Algebra.Order.Ring.Int

/-!
# What was encoded is decoded
-/

namespace GarudaChain.Bech32

theorem xorIf_xor (a b : Bool) (k c d : BitVec 32) :
    xorIf (a ^^ b) k (c ^^^ d) = xorIf a k c ^^^ xorIf b k d := by
  have hcancel : c ^^^ k ^^^ (d ^^^ k) = c ^^^ d := by
    rw [BitVec.xor_comm d k, BitVec.xor_assoc, ← BitVec.xor_assoc k k d, BitVec.xor_self,
      BitVec.zero_xor]
  cases a <;> cases b
  · rfl
  · exact (BitVec.xor_assoc c d k)
  · change c ^^^ d ^^^ k = c ^^^ k ^^^ d
    rw [BitVec.xor_assoc, BitVec.xor_comm d k, BitVec.xor_assoc]
  · exact hcancel.symm

theorem polyModStep_xor (c d v w : BitVec 32) :
    polyModStep (c ^^^ d) (v ^^^ w) = polyModStep c v ^^^ polyModStep d w := by
  have hshift : (((c ^^^ d) &&& 0x1ffffff) <<< 5) ^^^ (v ^^^ w) =
      (((c &&& 0x1ffffff) <<< 5) ^^^ v) ^^^ (((d &&& 0x1ffffff) <<< 5) ^^^ w) := by
    ext i hi
    simp only [BitVec.getElem_xor, BitVec.getElem_shiftLeft, BitVec.getElem_and]
    grind
  simp only [polyModStep, BitVec.ushiftRight_xor_distrib, BitVec.getLsbD_xor, hshift, xorIf_xor]

theorem polyModFrom_xor (values : List Nat) (c d : BitVec 32) :
    polyModFrom (c ^^^ d) values =
      polyModFrom c (List.replicate values.length 0) ^^^ polyModFrom d values := by
  induction values generalizing c d with
  | nil => rfl
  | cons v values ih =>
    have hstep : polyModStep (c ^^^ d) (BitVec.ofNat 32 v) =
        polyModStep c (BitVec.ofNat 32 0) ^^^ polyModStep d (BitVec.ofNat 32 v) := by
      rw [← polyModStep_xor, BitVec.zero_xor]
    change polyModFrom (polyModStep (c ^^^ d) (BitVec.ofNat 32 v)) values = _
    rw [hstep, ih]
    rfl

theorem polyMod_append (values values' : List Nat) :
    polyMod (values ++ values') = polyModFrom (polyMod values) values' := List.foldl_append

theorem xorIf_lt {cond : Bool} {k c : BitVec 32} (hk : k.toNat < 2 ^ 30) (hc : c.toNat < 2 ^ 30) :
    (xorIf cond k c).toNat < 2 ^ 30 := by
  cases cond
  · exact hc
  · exact BitVec.toNat_xor .. ▸ Nat.xor_lt_two_pow hc hk

theorem polyModStep_lt (c : BitVec 32) {v : BitVec 32} (hv : v.toNat < 2 ^ 30) :
    (polyModStep c v).toNat < 2 ^ 30 := by
  have hmask : (c &&& 0x1ffffff).toNat < 2 ^ 25 := by
    rw [BitVec.toNat_and]
    exact Nat.and_lt_two_pow _ (by decide)
  have hshift : ((c &&& 0x1ffffff) <<< 5).toNat < 2 ^ 30 := by
    rw [BitVec.toNat_shiftLeft, Nat.shiftLeft_eq]
    omega
  have hstart : (((c &&& 0x1ffffff) <<< 5) ^^^ v).toNat < 2 ^ 30 :=
    BitVec.toNat_xor .. ▸ Nat.xor_lt_two_pow hshift hv
  exact xorIf_lt (by decide) (xorIf_lt (by decide) (xorIf_lt (by decide)
    (xorIf_lt (by decide) (xorIf_lt (by decide) hstart))))

variable {values : List Nat} {hrp : List Char} {encoding : Encoding}

theorem polyModFrom_lt (hvalues : ∀ v ∈ values, v < 32) {c : BitVec 32}
    (hc : c.toNat < 2 ^ 30) : (polyModFrom c values).toNat < 2 ^ 30 := by
  induction values generalizing c with
  | nil => exact hc
  | cons v values ih =>
    obtain ⟨hv, hvalues⟩ := List.forall_mem_cons.mp hvalues
    exact ih hvalues (polyModStep_lt c (by rw [BitVec.toNat_ofNat]; omega))

theorem polyModStep_shift {y : BitVec 32} (hy : y.toNat < 2 ^ 30) :
    polyModStep (y >>> 5) (y &&& 31) = y := by
  have hhigh : (y >>> 5) >>> 25 = 0#32 := by
    apply BitVec.eq_of_toNat_eq
    rw [BitVec.toNat_ushiftRight, BitVec.toNat_ushiftRight, Nat.shiftRight_eq_div_pow,
      Nat.shiftRight_eq_div_pow, Nat.div_div_eq_div_mul, Nat.div_eq_of_lt (by omega)]
    rfl
  have hmask : (y >>> 5) &&& (0x1ffffff : BitVec 32) = y >>> 5 := by
    apply BitVec.eq_of_toNat_eq
    rw [BitVec.toNat_and, BitVec.toNat_ushiftRight, Nat.shiftRight_eq_div_pow]
    change _ &&& (2 ^ 25 - 1) = _
    rw [Nat.and_two_pow_sub_one_eq_mod, Nat.mod_eq_of_lt (by omega)]
  have hlow : ∀ i < 32, (31 : BitVec 32).getLsbD i = decide (i < 5) := by decide
  have hbits : (((y >>> 5) &&& 0x1ffffff) <<< 5) ^^^ (y &&& 31) = y := by
    rw [hmask]
    refine BitVec.eq_of_getLsbD_eq fun i hi => ?_
    simp only [BitVec.getLsbD_xor, BitVec.getLsbD_shiftLeft, BitVec.getLsbD_and, hlow i hi,
      BitVec.getLsbD_ushiftRight, hi, decide_true, Bool.true_and]
    by_cases h5 : i < 5
    · simp [h5]
    · simp [h5, Nat.add_sub_cancel' (Nat.le_of_not_lt h5)]
  simp only [polyModStep, hhigh, BitVec.getLsbD_zero, hbits, xorIf]
  rfl

theorem polyModFrom_groups {y : BitVec 32} (hy : y.toNat < 2 ^ 30) :
    polyModFrom 0#32 ((List.range checksumSize).map fun i =>
      ((y >>> (5 * (5 - i))) &&& 31).toNat) = y := by
  have hstep : ∀ k, polyModStep (y >>> (5 * (k + 1)))
      (BitVec.ofNat 32 ((y >>> (5 * k)) &&& 31).toNat) = y >>> (5 * k) := by
    intro k
    rw [BitVec.ofNat_toNat, BitVec.setWidth_eq, Nat.mul_succ, BitVec.shiftRight_add]
    apply polyModStep_shift
    rw [BitVec.toNat_ushiftRight]
    exact Nat.lt_of_le_of_lt (Nat.shiftRight_le _ _) hy
  have htop : y >>> (5 * 6) = 0#32 := by
    apply BitVec.eq_of_toNat_eq
    rw [BitVec.toNat_ushiftRight, Nat.shiftRight_eq_div_pow, Nat.div_eq_of_lt hy]
    rfl
  have hrange : List.range checksumSize = [0, 1, 2, 3, 4, 5] := by decide
  rw [hrange, ← htop]
  simp only [polyModFrom, List.map_cons, List.map_nil, List.foldl_cons, List.foldl_nil, Nat.sub_zero,
    Nat.sub_self, Nat.reduceSub, hstep 5, hstep 4, hstep 3, hstep 2, hstep 1, hstep 0]
  rfl

theorem preparePolynomialCoefficients_append (hrp : List Char) (values values' : List Nat) :
    preparePolynomialCoefficients hrp (values ++ values') =
      preparePolynomialCoefficients hrp values ++ values' := by
  simp only [preparePolynomialCoefficients, List.append_assoc]

theorem preparePolynomialCoefficients_lt (hhrp : ∀ c ∈ hrp, c.toNat ≤ 126) (hvalues : ∀ v ∈ values, v < 32) :
    ∀ v ∈ preparePolynomialCoefficients hrp values, v < 32 := by
  intro v hv
  simp only [preparePolynomialCoefficients, List.mem_append, List.mem_map, List.mem_singleton] at hv
  rcases hv with ((⟨c, hc, rfl⟩ | rfl) | ⟨c, -, rfl⟩) | hv
  · have := hhrp c hc
    rw [Nat.shiftRight_eq_div_pow]
    omega
  · decide
  · exact Nat.lt_of_le_of_lt Nat.and_le_right (by decide)
  · exact hvalues v hv

theorem length_createChecksum (encoding : Encoding) (hrp : List Char) (values : List Nat) :
    (createChecksum encoding hrp values).length = checksumSize := by
  simp [createChecksum]

theorem encodingConstant_lt (encoding : Encoding) : (encodingConstant encoding).toNat < 2 ^ 30 := by
  cases encoding <;> decide

theorem polyMod_createChecksum (encoding : Encoding)
    (hhrp : ∀ c ∈ hrp, c.toNat ≤ 126) (hvalues : ∀ v ∈ values, v < 32) :
    polyMod (preparePolynomialCoefficients hrp (values ++ createChecksum encoding hrp values)) =
      encodingConstant encoding := by
  have hlt : (polyMod (preparePolynomialCoefficients hrp values)).toNat < 2 ^ 30 :=
    polyModFrom_lt (preparePolynomialCoefficients_lt hhrp hvalues) (by decide)
  have hzeros : (polyModFrom (polyMod (preparePolynomialCoefficients hrp values))
      (List.replicate checksumSize 0)).toNat < 2 ^ 30 :=
    polyModFrom_lt (by simp) hlt
  have hstart := polyModFrom_xor (createChecksum encoding hrp values)
    (polyMod (preparePolynomialCoefficients hrp values)) 0#32
  rw [BitVec.xor_zero, length_createChecksum] at hstart
  rw [preparePolynomialCoefficients_append, polyMod_append, hstart, createChecksum, polyMod_append,
    polyModFrom_groups, ← BitVec.xor_assoc, BitVec.xor_self, BitVec.zero_xor]
  rw [BitVec.toNat_xor]
  exact Nat.xor_lt_two_pow hzeros (encodingConstant_lt encoding)

theorem verifyChecksum_createChecksum
    (henc : encoding ≠ .invalid) (hhrp : ∀ c ∈ hrp, c.toNat ≤ 126) (hvalues : ∀ v ∈ values, v < 32) :
    verifyChecksum hrp (values ++ createChecksum encoding hrp values) = encoding := by
  rw [verifyChecksum, polyMod_createChecksum encoding hhrp hvalues]
  cases encoding with
  | invalid => exact absurd rfl henc
  | bech32 => rfl
  | bech32m => rfl

theorem createChecksum_lt (encoding : Encoding) (hrp : List Char) (values : List Nat) :
    ∀ v ∈ createChecksum encoding hrp values, v < 32 := by
  intro v hv
  obtain ⟨i, -, rfl⟩ := List.mem_map.mp hv
  rw [BitVec.toNat_and]
  exact Nat.lt_of_le_of_lt Nat.and_le_right (by decide)

/-- A character that `CheckCharacters` lets pass in a lower case text. -/
def Plain (c : Char) : Prop := isUpper c = false ∧ 33 ≤ c.toNat ∧ c.toNat ≤ 126

theorem checkCharactersLoop_plain {str : List Char} (h : ∀ c ∈ str, Plain c) (i : Nat) (lower : Bool) :
    checkCharactersLoop str i lower false = [] := by
  induction str generalizing i lower with
  | nil => rfl
  | cons c str ih =>
    obtain ⟨⟨hupper, hlow, hhigh⟩, hstr⟩ := List.forall_mem_cons.mp h
    have hrange : ¬ (c.toNat < 33 ∨ 126 < c.toNat) := by omega
    simp only [checkCharactersLoop, hupper, hrange, ih hstr, Bool.false_eq_true, if_false, ite_self]

theorem charOf_spec : ∀ v < 32, (charsetRev.getD (charOf v).toNat (-1) = v ∧ charOf v ≠ '1') ∧
    isUpper (charOf v) = false ∧ 33 ≤ (charOf v).toNat ∧ (charOf v).toNat ≤ 126 := by
  decide +kernel

theorem readValues_map_charOf (h : ∀ v ∈ values, v < 32) :
    readValues (values.map charOf) = some values := by
  induction values with
  | nil => rfl
  | cons v values ih =>
    obtain ⟨hv, hvalues⟩ := List.forall_mem_cons.mp h
    have hrev := (charOf_spec v hv).1.1
    have hne : ((v : Nat) : Int) ≠ -1 := by omega
    rw [List.map_cons, readValues, hrev, ih hvalues]
    simp only [if_neg hne, Int.toNat_natCast]

theorem lowerCase_of_plain {c : Char} (h : Plain c) : lowerCase c = c := by
  rw [lowerCase, h.1]
  rfl

theorem length_encode (encoding : Encoding) (hrp : List Char) (values : List Nat) :
    (encode encoding hrp values).length = hrp.length + values.length + 7 := by
  simp only [encode, List.length_append, List.length_cons, List.length_map, length_createChecksum, checksumSize]
  omega

theorem one_not_mem_map_charOf (h : ∀ v ∈ values, v < 32) :
    '1' ∉ values.map charOf := by
  intro hmem
  obtain ⟨v, hv, h1⟩ := List.mem_map.mp hmem
  exact (charOf_spec v (h v hv)).1.2 h1

theorem lastIndexOf_encode (hvalues : ∀ v ∈ values, v < 32) :
    Text.lastIndexOf '1' (encode encoding hrp values) = some hrp.length :=
  Text.lastIndexOf_append hrp (one_not_mem_map_charOf
    (List.forall_mem_append.mpr ⟨hvalues, createChecksum_lt encoding hrp values⟩))

theorem decode_encode (henc : encoding ≠ .invalid) (hhrp : ∀ c ∈ hrp, Plain c) (hempty : hrp ≠ [])
    (hvalues : ∀ v ∈ values, v < 32) (hlength : hrp.length + values.length + 7 ≤ charLimit) :
    decode (encode encoding hrp values) = ⟨encoding, hrp, values⟩ := by
  have hsum := createChecksum_lt encoding hrp values
  have hall : ∀ v ∈ values ++ createChecksum encoding hrp values, v < 32 :=
    List.forall_mem_append.mpr ⟨hvalues, hsum⟩
  have hplain : ∀ c ∈ encode encoding hrp values, Plain c := by
    intro c hc
    rcases List.mem_append.mp hc with hc | hc
    · exact hhrp c hc
    · rcases List.mem_cons.mp hc with rfl | hc
      · exact ⟨by decide, by decide, by decide⟩
      · obtain ⟨v, hv, rfl⟩ := List.mem_map.mp hc
        exact (charOf_spec v (hall v hv)).2
  have hchars : checkCharacters (encode encoding hrp values) = [] :=
    checkCharactersLoop_plain hplain 0 false
  have hsize : ¬ ((encode encoding hrp values).length > charLimit ∨ hrp.length = 0 ∨
      hrp.length + checksumSize ≥ (encode encoding hrp values).length) := by
    have hne : hrp.length ≠ 0 := fun h0 => hempty (List.length_eq_zero_iff.mp h0)
    rw [length_encode, checksumSize]
    omega
  have hdrop : (encode encoding hrp values).drop (hrp.length + 1) =
      (values ++ createChecksum encoding hrp values).map charOf := by
    rw [encode, List.append_cons, List.drop_left' (by simp)]
  have htake : ((encode encoding hrp values).take hrp.length).map lowerCase = hrp := by
    rw [encode, List.take_left]
    exact (List.map_congr_left fun c hc => lowerCase_of_plain (hhrp c hc)).trans (List.map_id hrp)
  have hverify := verifyChecksum_createChecksum henc (fun c hc => (hhrp c hc).2.2) hvalues
  have hdata : (values ++ createChecksum encoding hrp values).take
      ((values ++ createChecksum encoding hrp values).length - checksumSize) = values := by
    rw [List.length_append, length_createChecksum, Nat.add_sub_cancel, List.take_left]
  simp only [decode, hchars, lastIndexOf_encode hvalues, hsize, hdrop, readValues_map_charOf hall, htake, hverify, hdata,
    List.isEmpty_nil, Bool.not_true, Bool.false_eq_true, if_false]

end GarudaChain.Bech32
