import Mathlib.Data.Nat.Bitwise
import Mathlib.Tactic.Common

/-!
# Bits in groups

A list of numbers of `w` bits stands for the bits that are written one number after the other.
-/

namespace BitGroups

/-- The low `w` bits of a number, the most significant one first. -/
def bits : Nat → Nat → List Bool
  | 0, _ => []
  | w + 1, v => v.testBit w :: bits w v

@[simp] theorem length_bits (w v : Nat) : (bits w v).length = w := by
  induction w with
  | zero => rfl
  | succ w ih => rw [bits, List.length_cons, ih]

variable {frombits m tobits u v w : Nat} {out vs vs' : List Nat} {keep : Nat → Nat}

theorem bits_eq_iff : bits w u = bits w v ↔ ∀ i < w, u.testBit i = v.testBit i := by
  induction w with
  | zero => simp [bits]
  | succ w ih =>
    rw [bits, bits, List.cons.injEq, ih]
    constructor
    · rintro ⟨htop, hlow⟩ i hi
      rcases Nat.lt_succ_iff_lt_or_eq.mp hi with hi | rfl
      · exact hlow i hi
      · exact htop
    · exact fun h => ⟨h w (Nat.lt_succ_self w), fun i hi => h i (Nat.lt_succ_of_lt hi)⟩

theorem bits_eq_of_mod (h : u % 2 ^ m = v % 2 ^ m) (hw : w ≤ m) :
    bits w u = bits w v := by
  rw [bits_eq_iff]
  intro i hi
  have hbit := congrArg (Nat.testBit · i) h
  simpa [Nat.testBit_mod_two_pow, Nat.lt_of_lt_of_le hi hw] using hbit

theorem eq_of_bits_eq (h : bits w u = bits w v) (hu : u < 2 ^ w) (hv : v < 2 ^ w) :
    u = v := by
  rw [bits_eq_iff] at h
  refine Nat.eq_of_testBit_eq fun i => ?_
  by_cases hi : i < w
  · exact h i hi
  · have hle : 2 ^ w ≤ 2 ^ i := Nat.pow_le_pow_right (by decide) (by omega)
    rw [Nat.testBit_lt_two_pow (by omega), Nat.testBit_lt_two_pow (by omega)]

theorem bits_add (a b v : Nat) : bits (a + b) v = bits a (v / 2 ^ b) ++ bits b v := by
  induction a with
  | zero => simp [bits]
  | succ a ih =>
    rw [Nat.succ_add, bits, bits, ih, Nat.testBit_div_two_pow]
    rfl

theorem bits_zero (w : Nat) : bits w 0 = List.replicate w false := by
  induction w with
  | zero => rfl
  | succ w ih => rw [bits, ih, Nat.zero_testBit, List.replicate_succ]

theorem bits_shift_or (n w acc : Nat) (hv : v < 2 ^ w) :
    bits (n + w) (acc <<< w ||| v) = bits n acc ++ bits w v := by
  have hsum : acc <<< w ||| v = acc * 2 ^ w + v := by
    rw [← Nat.shiftLeft_add_eq_or_of_lt hv, Nat.shiftLeft_eq]
  rw [hsum, bits_add, Nat.mul_comm, Nat.mul_add_div (Nat.two_pow_pos w), Nat.div_eq_of_lt hv,
    Nat.add_zero]
  congr 1
  exact bits_eq_of_mod (by rw [Nat.mul_add_mod]) (Nat.le_refl w)

/-- All bits of a list of numbers of `w` bits. -/
def groups (w : Nat) (vs : List Nat) : List Bool := vs.flatMap (bits w)

@[simp] theorem length_groups (w : Nat) (vs : List Nat) : (groups w vs).length = vs.length * w := by
  induction vs with
  | nil => simp [groups]
  | cons v vs ih =>
    rw [groups, List.flatMap_cons, List.length_append, ← groups, ih, length_bits, List.length_cons,
      Nat.succ_mul, Nat.add_comm]

theorem groups_append (w : Nat) (vs vs' : List Nat) :
    groups w (vs ++ vs') = groups w vs ++ groups w vs' := List.flatMap_append

theorem eq_of_groups_eq (hlen : vs.length = vs'.length)
    (h : groups w vs = groups w vs') (hvs : ∀ v ∈ vs, v < 2 ^ w) (hvs' : ∀ v ∈ vs', v < 2 ^ w) :
    vs = vs' := by
  induction vs generalizing vs' with
  | nil =>
    rw [List.length_nil] at hlen
    exact (List.length_eq_zero_iff.mp hlen.symm).symm
  | cons v vs ih =>
    cases vs' with
    | nil => simp at hlen
    | cons v' vs' =>
      obtain ⟨hhead, htail⟩ := List.append_inj h (by simp)
      rw [eq_of_bits_eq hhead (hvs v (by simp)) (hvs' v' (by simp)),
        ih (by simpa using hlen) htail (fun x hx => hvs x (by simp [hx]))
          (fun x hx => hvs' x (by simp [hx]))]

theorem eq_of_groups_append_eq {t t' : List Bool}
    (h : groups w vs ++ t = groups w vs' ++ t') (ht : t.length < w) (ht' : t'.length < w)
    (hvs : ∀ v ∈ vs, v < 2 ^ w) (hvs' : ∀ v ∈ vs', v < 2 ^ w) : vs = vs' ∧ t = t' := by
  have hlength : w * vs.length + t.length = w * vs'.length + t'.length := by
    simpa [Nat.mul_comm] using congrArg List.length h
  have hlen : vs.length = vs'.length := by
    have hdiv := congrArg (· / w) hlength
    simpa [Nat.mul_add_div (show 0 < w by omega), Nat.div_eq_of_lt ht, Nat.div_eq_of_lt ht'] using hdiv
  obtain ⟨hgroups, hrest⟩ := List.append_inj h (by simp [hlen])
  exact ⟨eq_of_groups_eq hlen hgroups hvs hvs', hrest⟩

/-- The groups of `tobits` bits that can be taken from the lowest `n` bits of `acc`, and how many bits
    are left. -/
def drain (tobits acc : Nat) : Nat → Nat → List Nat × Nat
  | 0, n => ([], n)
  | fuel + 1, n =>
    if tobits ≤ n then
      let (out, left) := drain tobits acc fuel (n - tobits)
      (((acc >>> (n - tobits)) &&& (2 ^ tobits - 1)) :: out, left)
    else ([], n)

theorem drain_spec (hpos : 0 < tobits) (acc : Nat) (fuel : Nat) :
    ∀ {n left : Nat} {out : List Nat}, drain tobits acc fuel n = (out, left) → n ≤ fuel →
      bits n acc = groups tobits out ++ bits left acc ∧ left < tobits ∧
        ∀ v ∈ out, v < 2 ^ tobits := by
  induction fuel with
  | zero =>
    intro n left out h hn
    obtain ⟨rfl, rfl⟩ := Prod.mk.inj h
    obtain rfl : n = 0 := by omega
    exact ⟨rfl, hpos, by simp⟩
  | succ fuel ih =>
    intro n left out h hn
    rw [drain] at h
    by_cases hle : tobits ≤ n
    · rw [if_pos hle] at h
      rcases hdrain : drain tobits acc fuel (n - tobits) with ⟨out', left'⟩
      rw [hdrain] at h
      obtain ⟨rfl, rfl⟩ := Prod.mk.inj h
      obtain ⟨hbits, hleft, hout⟩ := ih hdrain (by omega)
      have hmask : (acc >>> (n - tobits)) &&& (2 ^ tobits - 1) =
          acc / 2 ^ (n - tobits) % 2 ^ tobits := by
        rw [Nat.and_two_pow_sub_one_eq_mod, Nat.shiftRight_eq_div_pow]
      have hgroup : bits tobits ((acc >>> (n - tobits)) &&& (2 ^ tobits - 1)) =
          bits tobits (acc / 2 ^ (n - tobits)) :=
        bits_eq_of_mod (by rw [hmask, Nat.mod_mod]) (Nat.le_refl _)
      have hsplit : bits n acc = bits tobits (acc / 2 ^ (n - tobits)) ++ bits (n - tobits) acc := by
        rw [← bits_add, Nat.add_sub_cancel' hle]
      refine ⟨?_, hleft, List.forall_mem_cons.mpr ⟨?_, hout⟩⟩
      · rw [hsplit, hbits, groups, groups, List.flatMap_cons, hgroup, List.append_assoc]
      · rw [hmask]
        exact Nat.mod_lt _ (Nat.two_pow_pos _)
    · rw [if_neg hle] at h
      obtain ⟨rfl, rfl⟩ := Prod.mk.inj h
      exact ⟨by simp [groups], by omega, by simp⟩

/-- Shift every number into an accumulator and take groups from it; `keep` is what the accumulator
    keeps of its bits. -/
def convert (keep : Nat → Nat) (frombits tobits : Nat) : List Nat → Nat → Nat → List Nat × Nat × Nat
  | [], acc, n => ([], acc, n)
  | v :: vs, acc, n =>
    let acc := keep (acc <<< frombits ||| v)
    let (out, n) := drain tobits acc (n + frombits) (n + frombits)
    let (rest, acc, n) := convert keep frombits tobits vs acc n
    (out ++ rest, acc, n)

/-- The bits stay the same, as long as the accumulator keeps those that are still to be taken. -/
theorem convert_spec (hpos : 0 < tobits)
    (hkeep : ∀ x, keep x % 2 ^ m = x % 2 ^ m) (hm : tobits - 1 + frombits ≤ m) (vs : List Nat) :
    ∀ {acc acc' n left : Nat} {out : List Nat},
      convert keep frombits tobits vs acc n = (out, acc', left) → n < tobits →
      (∀ v ∈ vs, v < 2 ^ frombits) →
      bits n acc ++ groups frombits vs = groups tobits out ++ bits left acc' ∧ left < tobits ∧
        ∀ v ∈ out, v < 2 ^ tobits := by
  induction vs with
  | nil =>
    intro acc acc' n left out h hn _
    cases h
    exact ⟨by simp [groups], hn, by simp⟩
  | cons v vs ih =>
    intro acc acc' n left out h hn hvs
    obtain ⟨hv, hvs⟩ := List.forall_mem_cons.mp hvs
    rcases hdrain : drain tobits (keep (acc <<< frombits ||| v)) (n + frombits) (n + frombits) with
      ⟨out₁, left₁⟩
    rcases hrest : convert keep frombits tobits vs (keep (acc <<< frombits ||| v)) left₁ with
      ⟨out₂, acc₂, left₂⟩
    simp only [convert, hdrain, hrest, Prod.mk.injEq] at h
    obtain ⟨rfl, rfl, rfl⟩ := h
    obtain ⟨hbits, hleft, hsmall⟩ := drain_spec hpos _ _ hdrain (Nat.le_refl _)
    obtain ⟨hbits', hleft', hsmall'⟩ := ih hrest hleft hvs
    have hshift : bits (n + frombits) (keep (acc <<< frombits ||| v)) =
        bits n acc ++ bits frombits v := by
      rw [bits_eq_of_mod (hkeep _) (by omega), bits_shift_or n frombits acc hv]
    refine ⟨?_, hleft', List.forall_mem_append.mpr ⟨hsmall, hsmall'⟩⟩
    calc bits n acc ++ groups frombits (v :: vs)
        = (bits n acc ++ bits frombits v) ++ groups frombits vs := by
          rw [groups, List.flatMap_cons, List.append_assoc, groups]
      _ = groups tobits out₁ ++ (bits left₁ (keep (acc <<< frombits ||| v)) ++
            groups frombits vs) := by rw [← hshift, hbits, List.append_assoc]
      _ = groups tobits (out₁ ++ out₂) ++ bits left₂ acc₂ := by
          rw [hbits', groups_append, List.append_assoc]

theorem bits_fill {n : Nat} (h : n ≤ w) (acc : Nat) :
    bits w (acc <<< (w - n) &&& (2 ^ w - 1)) = bits n acc ++ List.replicate (w - n) false := by
  have hzero := bits_shift_or n (w - n) acc (Nat.two_pow_pos (w - n))
  rw [Nat.or_zero, Nat.add_sub_cancel' h, bits_zero] at hzero
  rw [← hzero]
  exact bits_eq_of_mod (by rw [Nat.and_two_pow_sub_one_eq_mod, Nat.mod_mod]) (Nat.le_refl w)

/-- Whole groups in front of less than one group of zeros are read, and the zeros are left over. -/
theorem convert_whole {z : Nat} (hpos : 0 < tobits)
    (hkeep : ∀ x, keep x % 2 ^ m = x % 2 ^ m) (hm : tobits - 1 + frombits ≤ m)
    (hvs : ∀ v ∈ vs, v < 2 ^ frombits) (hout : ∀ v ∈ out, v < 2 ^ tobits) (hz : z < tobits)
    (h : groups frombits vs = groups tobits out ++ List.replicate z false) :
    ∃ acc, convert keep frombits tobits vs 0 0 = (out, acc, z) ∧ bits z acc = List.replicate z false := by
  rcases hconvert : convert keep frombits tobits vs 0 0 with ⟨out', acc, left⟩
  obtain ⟨hbits, hleft, hout'⟩ := convert_spec hpos hkeep hm vs hconvert hpos hvs
  have hsame : groups tobits out' ++ bits left acc =
      groups tobits out ++ List.replicate z false := hbits.symm.trans h
  obtain ⟨rfl, hrest⟩ :=
    eq_of_groups_append_eq hsame (by simpa using hleft) (by simpa using hz) hout' hout
  obtain rfl : left = z := by simpa using congrArg List.length hrest
  exact ⟨acc, rfl, hrest⟩

/-- What was put out, and the bits that are left as a last group that is filled up with zeros. -/
def padded (tobits : Nat) (out : List Nat) (acc left : Nat) : List Nat :=
  if left = 0 then out else out ++ [(acc <<< (tobits - left)) &&& (2 ^ tobits - 1)]

/-- With padding, the bits are kept and zeros are added that do not make up a group of their own. -/
theorem padded_spec (hpos : 0 < tobits)
    (hkeep : ∀ x, keep x % 2 ^ m = x % 2 ^ m) (hm : tobits - 1 + frombits ≤ m)
    {acc left : Nat} (hconvert : convert keep frombits tobits vs 0 0 = (out, acc, left))
    (hvs : ∀ v ∈ vs, v < 2 ^ frombits) :
    ∃ z < tobits, groups tobits (padded tobits out acc left) =
        groups frombits vs ++ List.replicate z false ∧
      ∀ v ∈ padded tobits out acc left, v < 2 ^ tobits := by
  obtain ⟨hbits, hleft, hout⟩ := convert_spec hpos hkeep hm vs hconvert hpos hvs
  by_cases hzero : left = 0
  · rw [padded, if_pos hzero]
    refine ⟨0, hpos, ?_, hout⟩
    simpa [hzero, bits] using hbits.symm
  · rw [padded, if_neg hzero]
    refine ⟨tobits - left, by omega, ?_, List.forall_mem_append.mpr ⟨hout, ?_⟩⟩
    · have hlast : groups tobits [(acc <<< (tobits - left)) &&& (2 ^ tobits - 1)] =
          bits left acc ++ List.replicate (tobits - left) false := by
        rw [groups, List.flatMap_cons, List.flatMap_nil, List.append_nil,
          bits_fill (Nat.le_of_lt hleft)]
      rw [groups_append, hlast, ← List.append_assoc, ← hbits]
      rfl
    · intro v hv
      rw [List.mem_singleton.mp hv, Nat.and_two_pow_sub_one_eq_mod]
      exact Nat.mod_lt _ (Nat.two_pow_pos _)

theorem eq_of_groups_padded {z z' : Nat} {t : List Bool}
    (h : groups w vs = t ++ List.replicate z false) (h' : groups w vs' = t ++ List.replicate z' false)
    (hz : z < w) (hz' : z' < w) (hvs : ∀ v ∈ vs, v < 2 ^ w) (hvs' : ∀ v ∈ vs', v < 2 ^ w) :
    vs = vs' := by
  have hlength := congrArg List.length h
  have hlength' := congrArg List.length h'
  simp only [length_groups, List.length_append, List.length_replicate] at hlength hlength'
  have hlen : vs.length = vs'.length := by
    rcases Nat.lt_trichotomy vs.length vs'.length with hlt | heq | hlt
    · have := Nat.mul_le_mul_right w (Nat.succ_le_of_lt hlt)
      rw [Nat.succ_mul] at this
      omega
    · exact heq
    · have := Nat.mul_le_mul_right w (Nat.succ_le_of_lt hlt)
      rw [Nat.succ_mul] at this
      omega
  obtain rfl : z = z' := by
    rw [hlen] at hlength
    omega
  exact eq_of_groups_eq hlen (h.trans h'.symm) hvs hvs'

/-- With padding it does not matter what the accumulator keeps, if only it keeps enough. -/
theorem padded_convert_eq {keep' : Nat → Nat} (hpos : 0 < tobits)
    (hkeep : ∀ x, keep x % 2 ^ m = x % 2 ^ m) (hkeep' : ∀ x, keep' x % 2 ^ m = x % 2 ^ m)
    (hm : tobits - 1 + frombits ≤ m) {out' : List Nat} {acc acc' left left' : Nat}
    (hconvert : convert keep frombits tobits vs 0 0 = (out, acc, left))
    (hconvert' : convert keep' frombits tobits vs 0 0 = (out', acc', left'))
    (hvs : ∀ v ∈ vs, v < 2 ^ frombits) : padded tobits out acc left = padded tobits out' acc' left' := by
  obtain ⟨z, hz, hgroups, hsmall⟩ := padded_spec hpos hkeep hm hconvert hvs
  obtain ⟨z', hz', hgroups', hsmall'⟩ := padded_spec hpos hkeep' hm hconvert' hvs
  exact eq_of_groups_padded hgroups hgroups' hz hz' hsmall hsmall'

/-! ## Signed accumulators

On a signed number of `w` bits a shift to the right copies the sign. The copies lie above the bits that
are taken.
-/

section Signed

variable {w : Nat}

/-- `drain` with a signed accumulator. -/
def drainSigned (tobits : Nat) (acc : BitVec w) : Nat → Nat → List Nat × Nat
  | 0, n => ([], n)
  | fuel + 1, n =>
    if tobits ≤ n then
      let (out, left) := drainSigned tobits acc fuel (n - tobits)
      ((acc.sshiftRight (n - tobits) &&& BitVec.ofNat w (2 ^ tobits - 1)).toNat :: out, left)
    else ([], n)

theorem toNat_and_mask {k : Nat} (hk : k ≤ w) (x : BitVec w) :
    (x &&& BitVec.ofNat w (2 ^ k - 1)).toNat = x.toNat &&& (2 ^ k - 1) := by
  have hpow : 2 ^ k ≤ 2 ^ w := Nat.pow_le_pow_right (by decide) hk
  have hpos := Nat.two_pow_pos k
  rw [BitVec.toNat_and, BitVec.toNat_ofNat, Nat.mod_eq_of_lt (by omega)]

theorem sshiftRight_and_mask {k s : Nat} (h : s + k ≤ w) (x : BitVec w) :
    (x.sshiftRight s &&& BitVec.ofNat w (2 ^ k - 1)).toNat = (x.toNat >>> s) &&& (2 ^ k - 1) := by
  have hlogical : x.sshiftRight s &&& BitVec.ofNat w (2 ^ k - 1) =
      x >>> s &&& BitVec.ofNat w (2 ^ k - 1) := by
    refine BitVec.eq_of_getLsbD_eq fun i hi => ?_
    simp only [BitVec.getLsbD_and, BitVec.getLsbD_sshiftRight, BitVec.getLsbD_ushiftRight,
      BitVec.getLsbD_ofNat, Nat.testBit_two_pow_sub_one]
    by_cases hik : i < k
    · have hlow : s + i < w := by omega
      have hnot : ¬ w ≤ i := by omega
      simp [hlow, hnot]
    · simp [hik]
  rw [hlogical, toNat_and_mask (by omega), BitVec.toNat_ushiftRight]

theorem drainSigned_eq (acc : BitVec w) (fuel : Nat) :
    ∀ {n : Nat}, n ≤ w → drainSigned tobits acc fuel n = drain tobits acc.toNat fuel n := by
  induction fuel with
  | zero => exact fun _ => rfl
  | succ fuel ih =>
    intro n hn
    rw [drainSigned, drain]
    by_cases hle : tobits ≤ n
    · rw [if_pos hle, if_pos hle, ih (by omega), sshiftRight_and_mask (by omega)]
    · rw [if_neg hle, if_neg hle]

/-- `convert` with a signed accumulator. -/
def convertSigned (frombits tobits : Nat) : List Nat → BitVec w → Nat → List Nat × BitVec w × Nat
  | [], acc, n => ([], acc, n)
  | v :: vs, acc, n =>
    let acc := acc <<< frombits ||| BitVec.ofNat w v
    let (out, n) := drainSigned tobits acc (n + frombits) (n + frombits)
    let (rest, acc, n) := convertSigned frombits tobits vs acc n
    (out ++ rest, acc, n)

/-- A signed accumulator keeps its lowest `w` bits. -/
theorem convertSigned_eq (hpos : 0 < tobits)
    (hw : tobits - 1 + frombits ≤ w) (vs : List Nat) :
    ∀ {acc acc' : BitVec w} {n left : Nat} {out : List Nat}, n < tobits →
      convertSigned frombits tobits vs acc n = (out, acc', left) →
      convert (· % 2 ^ w) frombits tobits vs acc.toNat n = (out, acc'.toNat, left) := by
  induction vs with
  | nil =>
    intro acc acc' n left out _ h
    cases h
    rfl
  | cons v vs ih =>
    intro acc acc' n left out hn h
    have hacc : (acc <<< frombits ||| BitVec.ofNat w v).toNat =
        (acc.toNat <<< frombits ||| v) % 2 ^ w := by
      rw [BitVec.toNat_or, BitVec.toNat_shiftLeft, BitVec.toNat_ofNat, Nat.or_mod_two_pow]
    rcases hdrain : drainSigned tobits (acc <<< frombits ||| BitVec.ofNat w v) (n + frombits)
      (n + frombits) with ⟨out₁, left₁⟩
    rcases hrest : convertSigned frombits tobits vs (acc <<< frombits ||| BitVec.ofNat w v) left₁ with
      ⟨out₂, acc₂, left₂⟩
    simp only [convertSigned, hdrain, hrest, Prod.mk.injEq] at h
    obtain ⟨rfl, rfl, rfl⟩ := h
    rw [drainSigned_eq _ _ (by omega), hacc] at hdrain
    have hconvert := ih (drain_spec hpos _ _ hdrain (Nat.le_refl _)).2.1 hrest
    rw [hacc] at hconvert
    simp only [convert, hdrain, hconvert]

end Signed

end BitGroups
