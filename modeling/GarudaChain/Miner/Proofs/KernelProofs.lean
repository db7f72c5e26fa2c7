import GarudaChain.Miner.Kernel
import GarudaChain.Node.Serialize
import Mathlib.Tactic.Ring

/-!
# The miner's target is the node's

The limit of the chain is below `2 ^ 236`, so a target that the node takes has a size of at most 32 bytes and
no sign, and all its bytes are placed.
-/

namespace GarudaChain.GpuMiner

theorem readLE_append_singleton (bs : Bytes) (b : UInt8) :
    readLE (bs ++ [b]) = readLE bs + 256 ^ bs.length * b.toNat := by
  induction bs with
  | nil => simp [readLE]
  | cons c bs ih =>
    rw [List.cons_append, readLE, readLE, ih, List.length_cons, pow_succ]
    ring

theorem writeLE_zero (width : Nat) : writeLE width 0 = List.replicate width 0 := by
  induction width with
  | zero => rfl
  | succ width ih =>
    rw [writeLE, Nat.zero_div, ih, List.replicate_succ]
    rfl

/-- Shifting by bytes puts zero bytes in front. -/
theorem writeLE_mul_pow (n k width : Nat) :
    writeLE (k + width) (n * 256 ^ k) = List.replicate k 0 ++ writeLE width n := by
  induction k with
  | zero => simp
  | succ k ih =>
    have hpow : n * 256 ^ (k + 1) = n * 256 ^ k * 256 := by ring
    rw [show k + 1 + width = k + width + 1 by omega, writeLE, hpow, Nat.mul_mod_left,
      Nat.mul_div_cancel _ (by decide : 0 < 256), ih, List.replicate_succ, List.cons_append]
    rfl

theorem writeLE_three (n k : Nat) (h : n < 2 ^ 24) :
    writeLE (3 + k) n = [byteOf n, byteOf (n / 2 ^ 8), byteOf (n / 2 ^ 16)] ++ List.replicate k 0 := by
  have hzero : n / 256 / 256 / 256 = 0 := by omega
  rw [show 3 + k = k + 1 + 1 + 1 by omega, writeLE, writeLE, writeLE, hzero, writeLE_zero,
    Nat.div_div_eq_div_mul]
  rfl

theorem set_replicate (a b : Nat) (x y z : UInt8) :
    (((List.replicate (a + (3 + b)) 0).set a x).set (a + 1) y).set (a + 2) z =
      List.replicate a 0 ++ x :: y :: z :: List.replicate b 0 := by
  induction a with
  | zero => rw [show 0 + (3 + b) = b + 1 + 1 + 1 by omega]; rfl
  | succ a ih =>
    rw [show a + 1 + (3 + b) = a + (3 + b) + 1 by omega, List.replicate_succ, List.replicate_succ,
      List.set_cons_succ, List.set_cons_succ, show a + 1 + 2 = a + 2 + 1 by omega, List.set_cons_succ, ih,
      List.cons_append]

/-- `nBits` as `getblocktemplate` prints it. -/
def bitsText (nBits : Nat) : List Char := hexStr (writeLE 4 nBits).reverse

theorem hexChar_spec : ∀ d : Fin 16, hexDigit (hexChar d) = some d.val ∧ isSpace (hexChar d) = false ∧
    hexChar d ≠ '-' ∧ hexChar d ≠ '+' ∧ hexChar d ≠ 'x' ∧ hexChar d ≠ 'X' := by
  decide

theorem hexValue_hexStr (bs : Bytes) : ∀ acc,
    hexValue (hexStr bs) acc = acc * 256 ^ bs.length + readLE bs.reverse := by
  induction bs with
  | nil => intro acc; simp [hexStr, hexValue, readLE]
  | cons b bs ih =>
    intro acc
    have hb := b.toNat_lt
    have hhigh := (hexChar_spec ⟨b.toNat / 16, by omega⟩).1
    have hlow := (hexChar_spec ⟨b.toNat % 16, by omega⟩).1
    have hcons : hexStr (b :: bs) = hexChar (b.toNat / 16) :: hexChar (b.toNat % 16) :: hexStr bs := rfl
    have hbyte : (acc * 16 + b.toNat / 16) * 16 + b.toNat % 16 = acc * 256 + b.toNat := by omega
    simp only [hcons, hexValue, hhigh, hlow, hbyte, ih, List.reverse_cons, readLE_append_singleton,
      List.length_cons, List.length_reverse, pow_succ]
    ring

theorem readSign_hexChar (d : Fin 16) (cs : List Char) :
    readSign (hexChar d :: cs) = (false, hexChar d :: cs) := by
  obtain ⟨-, -, hminus, hplus, -, -⟩ := hexChar_spec d
  unfold readSign
  split
  · exact absurd (List.cons.inj ‹_›).1 hminus
  · exact absurd (List.cons.inj ‹_›).1 hplus
  · rfl

/-- The second digit is not an `x`. -/
theorem skipBase_hexChar (c : Char) (d : Fin 16) (cs : List Char) :
    skipBase (c :: hexChar d :: cs) = c :: hexChar d :: cs := by
  obtain ⟨-, -, -, -, hx, hX⟩ := hexChar_spec d
  unfold skipBase
  split
  · rename_i heq
    obtain ⟨rfl, heq'⟩ := List.cons.inj heq
    obtain ⟨rfl, rfl⟩ := List.cons.inj heq'
    exact if_neg fun h => h.1.elim hx hX
  · rfl

theorem strtoul_hexStr (b : UInt8) {bs : Bytes} (hlength : bs.length < 8) :
    strtoul (hexStr (b :: bs)) = readLE (b :: bs).reverse := by
  have hb := b.toNat_lt
  have hvalue := hexValue_hexStr (b :: bs) 0
  have hlt := readLE_lt (b :: bs).reverse
  have hle : 256 ^ (b :: bs).reverse.length ≤ 256 ^ 8 := Nat.pow_le_pow_right (by decide) (by simp; omega)
  have hspace := (hexChar_spec ⟨b.toNat / 16, by omega⟩).2.1
  have hsign := readSign_hexChar ⟨b.toNat / 16, by omega⟩ (hexChar (b.toNat % 16) :: hexStr bs)
  have hbase := skipBase_hexChar (hexChar (b.toNat / 16)) ⟨b.toNat % 16, by omega⟩ (hexStr bs)
  have hcons : hexStr (b :: bs) = hexChar (b.toNat / 16) :: hexChar (b.toNat % 16) :: hexStr bs := rfl
  rw [strtoul, hcons, List.dropWhile_cons_of_neg (by simpa using hspace), hsign]
  simp only [hbase]
  rw [← hcons, hvalue, Nat.zero_mul, Nat.zero_add, if_neg (by omega)]
  rfl

theorem strtoul_bitsText {nBits : Nat} (h : nBits < 2 ^ 32) : strtoul (bitsText nBits) = nBits := by
  have hlength : (writeLE 4 nBits).reverse.length = 4 := by simp
  obtain ⟨b, bs, hbytes⟩ := List.exists_cons_of_length_pos (by omega : 0 < (writeLE 4 nBits).reverse.length)
  rw [hbytes, List.length_cons] at hlength
  rw [bitsText, hbytes, strtoul_hexStr b (by omega), ← hbytes, List.reverse_reverse, readLE_writeLE 4 _ (by omega)]

theorem checkProofOfWork_iff {nBits : Nat} {hash : Uint256} :
    checkProofOfWork hash nBits mainParams.powLimit = true ↔
      ((setCompact nBits).2.1 = false ∧ (setCompact nBits).1 ≠ 0 ∧ (setCompact nBits).2.2 = false ∧
        (setCompact nBits).1 < 2 ^ 236) ∧ hash.toNat ≤ (setCompact nBits).1 := by
  have hlimit : mainParams.powLimit = 2 ^ 236 - 1 := by decide
  simp only [checkProofOfWork, Bool.and_eq_true, Bool.not_eq_true', Bool.or_eq_false_iff, beq_eq_false_iff_ne,
    decide_eq_false_iff_not, decide_eq_true_eq, hlimit, and_assoc]
  refine and_congr_right fun _ => and_congr_right fun _ => and_congr_right fun _ => and_congr_left fun _ => ?_
  omega

/-- What the node has found of bits that it takes. -/
structure ValidBits (nBits : Nat) : Prop where
  size_le : nBits / 2 ^ 24 ≤ 32
  unsigned : nBits % 2 ^ 24 = nBits % 2 ^ 23
  limit : ∀ hash : Uint256, hash.toNat ≤ (setCompact nBits).1 →
    checkProofOfWork hash nBits mainParams.powLimit = true

theorem word_ne_zero {nBits : Nat} (hsize : ¬ nBits / 2 ^ 24 ≤ 3) (h : (setCompact nBits).1 ≠ 0) :
    nBits % 2 ^ 23 ≠ 0 := by
  intro hword
  simp only [setCompact, if_neg hsize] at h
  rw [hword, Nat.zero_mul, Nat.zero_mod] at h
  exact h rfl

/-- Of the sizes above 32 that do not overflow, every target is above the limit. -/
theorem size_le_of_limit {nBits : Nat} (hzero : (setCompact nBits).1 ≠ 0)
    (hoverflow : (setCompact nBits).2.2 = false) (hlimit : (setCompact nBits).1 < 2 ^ 236) :
    nBits / 2 ^ 24 ≤ 32 := by
  by_contra hsize
  have hsmall : ¬ nBits / 2 ^ 24 ≤ 3 := by omega
  have hword := word_ne_zero hsmall hzero
  simp only [setCompact, if_neg hsmall] at hoverflow hlimit
  simp only [Bool.and_eq_false_iff, Bool.or_eq_false_iff, bne_eq_false_iff_eq, hword, false_or,
    decide_eq_false_iff_not] at hoverflow
  obtain ⟨⟨h34, h33⟩, h32⟩ := hoverflow
  have hcases : nBits / 2 ^ 24 = 33 ∨ nBits / 2 ^ 24 = 34 := by omega
  rcases hcases with hs | hs
  · have hle : nBits % 2 ^ 23 ≤ 0xffff := by omega
    rw [hs] at hlimit
    omega
  · have hle : nBits % 2 ^ 23 ≤ 0xff := by omega
    rw [hs] at hlimit
    omega

theorem testBit_of_unsigned {nBits : Nat} (hsign : (setCompact nBits).2.1 = false)
    (hzero : (setCompact nBits).1 ≠ 0) : nBits.testBit 23 = false := by
  by_cases hsize : nBits / 2 ^ 24 ≤ 3
  · simp only [setCompact, if_pos hsize, Bool.and_eq_false_iff, bne_eq_false_iff_eq] at hsign hzero
    exact hsign.resolve_left hzero
  · have hword := word_ne_zero hsize hzero
    simp only [setCompact, if_neg hsize, Bool.and_eq_false_iff, bne_eq_false_iff_eq] at hsign
    exact hsign.resolve_left hword

theorem validBits {nBits : Nat} {hash : Uint256}
    (h : checkProofOfWork hash nBits mainParams.powLimit = true) : ValidBits nBits := by
  have htarget := (checkProofOfWork_iff.mp h).1
  refine ⟨size_le_of_limit htarget.2.1 htarget.2.2.1 htarget.2.2.2, ?_, ?_⟩
  · have hbit := testBit_of_unsigned htarget.1 htarget.2.1
    rw [Nat.testBit_eq_decide_div_mod_eq, decide_eq_false_iff_not] at hbit
    omega
  · exact fun _ hle => checkProofOfWork_iff.mpr ⟨htarget, hle⟩

theorem bitsToTarget_eq {nBits : Nat} (hbits : nBits < 2 ^ 32) (h : ValidBits nBits) :
    bitsToTarget (bitsText nBits) = (writeLE 32 (setCompact nBits).1).reverse := by
  have hsize := h.size_le
  have hword : nBits % 2 ^ 23 < 2 ^ 23 := Nat.mod_lt _ (by decide)
  simp only [bitsToTarget, strtoul_bitsText hbits, Nat.mod_eq_of_lt hbits, h.unsigned, setCompact]
  by_cases hsmall : nBits / 2 ^ 24 ≤ 3
  · have hlt : nBits % 2 ^ 23 / 2 ^ (8 * (3 - nBits / 2 ^ 24)) < 2 ^ 24 :=
      (Nat.div_le_self _ _).trans_lt (by omega)
    rw [if_pos hsmall, if_pos hsmall, show 32 = 3 + 29 from rfl, writeLE_three _ 29 hlt, List.reverse_append,
      List.reverse_replicate]
    rfl
  · obtain ⟨k, hk⟩ : ∃ k, nBits / 2 ^ 24 = k + 3 := ⟨nBits / 2 ^ 24 - 3, by omega⟩
    have hpow : 2 ^ (8 * k) = 256 ^ k := by rw [pow_mul]; norm_num
    have hfits : nBits % 2 ^ 23 * 256 ^ k < 2 ^ 256 := by
      have hle : 256 ^ k ≤ 256 ^ 29 := Nat.pow_le_pow_right (by decide) (by omega)
      calc nBits % 2 ^ 23 * 256 ^ k ≤ 2 ^ 23 * 256 ^ 29 := Nat.mul_le_mul hword.le hle
        _ < 2 ^ 256 := by decide
    have hoff : (32 : Int) - ((k + 3 : Nat) : Int) = ((29 - k : Nat) : Int) := by omega
    rw [hk] at hsmall
    rw [hk, if_neg hsmall, if_neg hsmall, hoff, if_pos (by omega), Int.toNat_natCast, Nat.add_sub_cancel, hpow,
      Nat.mod_eq_of_lt hfits]
    obtain ⟨b, hb⟩ : ∃ b, 29 = k + b := ⟨29 - k, by omega⟩
    have htarget : writeLE 32 (nBits % 2 ^ 23 * 256 ^ k) = List.replicate k 0 ++
        ([byteOf (nBits % 2 ^ 23), byteOf (nBits % 2 ^ 23 / 2 ^ 8), byteOf (nBits % 2 ^ 23 / 2 ^ 16)] ++
          List.replicate b 0) := by
      rw [show 32 = k + (3 + b) by omega, writeLE_mul_pow, writeLE_three _ b (by omega)]
    have hset := set_replicate b k (byteOf (nBits % 2 ^ 23 / 2 ^ 16)) (byteOf (nBits % 2 ^ 23 / 2 ^ 8))
      (byteOf (nBits % 2 ^ 23))
    rw [show b + (3 + k) = 32 by omega] at hset
    rw [show 29 - k = b by omega, hset, htarget]
    simp

theorem bytesBelow_iff (hs : Bytes) : ∀ ts : Bytes, hs.length = ts.length →
    (bytesBelow (hs.zip ts) = true ↔ readLE hs.reverse < readLE ts.reverse) := by
  induction hs with
  | nil =>
    intro ts hlength
    obtain rfl := List.length_eq_zero_iff.mp hlength.symm
    simp [bytesBelow, readLE]
  | cons h hs ih =>
    intro ts hlength
    obtain ⟨t, ts, rfl⟩ := List.exists_cons_of_length_pos (l := ts) (by rw [← hlength]; simp)
    have hlen : hs.length = ts.length := by simpa using hlength
    have hh := readLE_lt hs.reverse
    have ht := readLE_lt ts.reverse
    rw [List.length_reverse] at hh ht
    rw [List.zip_cons_cons, bytesBelow, List.reverse_cons, List.reverse_cons, readLE_append_singleton,
      readLE_append_singleton, List.length_reverse, List.length_reverse, ← hlen]
    rw [← hlen] at ht
    rcases Nat.lt_trichotomy h.toNat t.toNat with hlt | heq | hgt
    · have hmul : 256 ^ hs.length * (h.toNat + 1) ≤ 256 ^ hs.length * t.toNat := Nat.mul_le_mul_left _ hlt
      rw [Nat.mul_add, Nat.mul_one] at hmul
      simp only [if_pos (UInt8.lt_iff_toNat_lt.mpr hlt), true_iff]
      omega
    · obtain rfl := UInt8.toNat_inj.mp heq
      rw [if_neg (UInt8.lt_irrefl h), if_neg (UInt8.lt_irrefl h), ih ts hlen]
      omega
    · have hmul : 256 ^ hs.length * (t.toNat + 1) ≤ 256 ^ hs.length * h.toNat := Nat.mul_le_mul_left _ hgt
      rw [Nat.mul_add, Nat.mul_one] at hmul
      rw [if_neg fun hlt => absurd (UInt8.lt_iff_toNat_lt.mp hlt) (by omega),
        if_pos (UInt8.lt_iff_toNat_lt.mpr hgt)]
      simp only [Bool.false_eq_true, false_iff]
      omega

theorem hashBelow_iff {hash target32 : Bytes} (hhash : hash.length = 32) (htarget : target32.length = 32) :
    hashBelow hash target32 = true ↔ readLE hash < readLE target32.reverse := by
  have hzip : ((List.range 32).map fun k => (hash.getD (31 - k) 0, target32.getD k 0)) =
      hash.reverse.zip target32 := by
    refine List.ext_getElem (by simp [hhash, htarget]) ?_
    intro k hk hk'
    have hk : k < 32 := by simpa using hk
    simp [hhash, htarget, hk, List.getD_eq_getElem?_getD, show 31 - k < 32 by omega]
  rw [hashBelow, hzip, bytesBelow_iff _ _ (by rw [List.length_reverse, hhash, htarget]), List.reverse_reverse]

section

variable {sha3 : Bytes → Bytes} {k : Launch}

/-- A nonce whose header hashes below the target. -/
def Launch.Wins (sha3 : Bytes → Bytes) (k : Launch) (nonce : Nat) : Prop :=
  hashBelow (sha3 (k.header nonce)) k.target32 = true

/-- Only winning nonces are written, and `d_found` is set after one has been written. -/
structure KernelThread.Sound (sha3 : Bytes → Bytes) (k : Launch) (s : Found) (t : KernelThread) : Prop where
  winner : ∀ nonce, t = .winner nonce → k.Wins sha3 nonce
  stored : t = .stored → k.Wins sha3 s.foundNonce

theorem mineKernel_sound (tid : Nat) (e : Unit) {s : Found} {t : KernelThread}
    (hs : s.found = true → k.Wins sha3 s.foundNonce) (ht : t.Sound sha3 k s) :
    ((mineKernel sha3 k tid s t e).1.found = true → k.Wins sha3 (mineKernel sha3 k tid s t e).1.foundNonce) ∧
      (mineKernel sha3 k tid s t e).2.Sound sha3 k (mineKernel sha3 k tid s t e).1 ∧
      ∀ t' : KernelThread, t'.Sound sha3 k s → t'.Sound sha3 k (mineKernel sha3 k tid s t e).1 := by
  cases t with
  | round i =>
    simp only [mineKernel]
    split_ifs with hi hfound hbelow
    · exact ⟨hs, ⟨nofun, nofun⟩, fun _ => id⟩
    · refine ⟨hs, ⟨?_, nofun⟩, fun _ => id⟩
      rintro nonce ⟨⟩
      exact hbelow
    · exact ⟨hs, ⟨nofun, nofun⟩, fun _ => id⟩
    · exact ⟨hs, ⟨nofun, nofun⟩, fun _ => id⟩
  | winner nonce =>
    have hwins := ht.winner nonce rfl
    exact ⟨fun _ => hwins, ⟨nofun, fun _ => hwins⟩, fun t' ht' => ⟨ht'.winner, fun _ => hwins⟩⟩
  | stored => exact ⟨fun _ => ht.stored rfl, ⟨nofun, nofun⟩, fun t' ht' => ⟨ht'.winner, ht'.stored⟩⟩
  | returned => exact ⟨hs, ht, fun _ => id⟩

/-- In every interleaving of the threads, what is reported as found wins. -/
theorem kernelRun_wins (oldNonce : Nat) (steps : List (Nat × Unit))
    (hfound : (Run.run (Threads.step (mineKernel sha3 k)) (Launch.start oldNonce) steps).shared.found = true) :
    k.Wins sha3 (Run.run (Threads.step (mineKernel sha3 k)) (Launch.start oldNonce) steps).shared.foundNonce := by
  have hinv : Threads.Inv (fun s => s.found = true → k.Wins sha3 s.foundNonce) (fun _ s t => t.Sound sha3 k s)
      (Run.run (Threads.step (mineKernel sha3 k)) (Launch.start oldNonce) steps) := by
    refine Run.run_inv ?_ ⟨nofun, fun _ => ⟨nofun, nofun⟩⟩ steps
    intro c x hc
    obtain ⟨hown, hthread, hother⟩ := mineKernel_sound x.1 x.2 hc.shared (hc.threads x.1)
    exact hc.step x ⟨hown, hthread⟩ fun j t _ ht => hother t ht
  exact hinv.shared hfound

end

theorem header_eq (block : CBlock) (nonce : Nat) :
    (serializeHeader block).take 76 ++ writeLE 4 nonce = serializeHeader { block with nNonce := nonce } := by
  unfold serializeHeader
  rw [List.take_left' (by simp [uint256Bytes_eq])]

/-- For all bits that the node takes, the miner's target is the node's, and the node takes the hash of every
    header with a nonce that the kernel reports. -/
theorem mineKernel_checkProofOfWork {nBits : Nat} (hbits : nBits < 2 ^ 32)
    (hvalid : ∃ hash, checkProofOfWork hash nBits mainParams.powLimit = true) :
    bitsToTarget (bitsText nBits) = (writeLE 32 (setCompact nBits).1).reverse ∧
    ∀ (sha3 : Bytes → Bytes), (∀ bs, (sha3 bs).length = 32) →
      ∀ (block : CBlock) (startNonce noncesPerThread oldNonce : Nat) (steps : List (Nat × Unit)),
        let k : Launch :=
          ⟨(serializeHeader block).take 76, bitsToTarget (bitsText nBits), startNonce, noncesPerThread⟩
        let s := (Run.run (Threads.step (mineKernel sha3 k)) (Launch.start oldNonce) steps).shared
        s.found = true → checkProofOfWork
          (uint256OfBytes (sha3 (serializeHeader { block with nNonce := s.foundNonce }))) nBits
            mainParams.powLimit = true := by
  obtain ⟨hash, hhash⟩ := hvalid
  have hbitsOk := validBits hhash
  have htarget := bitsToTarget_eq hbits hbitsOk
  refine ⟨htarget, ?_⟩
  intro sha3 hsha block startNonce noncesPerThread oldNonce steps k s hfound
  have hwins := kernelRun_wins oldNonce steps hfound
  have hheader : k.header s.foundNonce = serializeHeader { block with nNonce := s.foundNonce } := by
    rw [← header_eq block s.foundNonce]
    simp [Launch.header, k]
  have hsize : (setCompact nBits).1 < 2 ^ 256 := by
    unfold setCompact
    simp only
    split_ifs
    · exact (Nat.div_le_self _ _).trans_lt ((Nat.mod_lt _ (by decide)).trans (by decide))
    · exact Nat.mod_lt _ (by decide)
  rw [Launch.Wins, hheader, show k.target32 = bitsToTarget (bitsText nBits) from rfl, htarget,
    hashBelow_iff (hsha _) (by simp), List.reverse_reverse, readLE_writeLE 32 _ (by simpa using hsize)] at hwins
  refine hbitsOk.limit _ ?_
  have hlt := readLE_lt (sha3 (serializeHeader { block with nNonce := s.foundNonce }))
  rw [hsha] at hlt
  rw [uint256OfBytes, BitVec.toNat_ofNat, Nat.mod_eq_of_lt (by omega)]
  exact hwins.le

/-- A block whose header meets the target of the first blocks. -/
def minedBlock : CBlock where
  nVersion := 0x20000000
  hashPrevBlock := 0x10
  hashMerkleRoot := uint256OfBytes
    [0x25, 0xff, 0x2b, 0x8d, 0xcf, 0x17, 0xe3, 0x82, 0xf6, 0x8f, 0x4f, 0xc9, 0x67, 0xa1, 0xbb, 0x21,
      0x82, 0xca, 0x37, 0xba, 0x3a, 0xa5, 0xe5, 0x74, 0x0d, 0x62, 0xa7, 0xd6, 0x44, 0xe4, 0xa6, 0xad]
  nTime := 1700000600
  nBits := 0x1e0fffff
  nNonce := 172793
  hash := 0
  vtx := []

/-- The SHA3-256 digest of that header; no other header is looked at. -/
def minedDigest (header : Bytes) : Bytes :=
  if header = serializeHeader minedBlock then
    [0x71, 0xd9, 0x99, 0xbe, 0xbf, 0x03, 0x47, 0xf1, 0xab, 0x34, 0x17, 0x23, 0x6b, 0xcc, 0xfb, 0xf3,
      0x6b, 0x93, 0xbe, 0x53, 0x68, 0xf0, 0xd6, 0x7c, 0xf9, 0x62, 0x30, 0x7d, 0xd1, 0x01, 0x00, 0x00]
  else List.replicate 32 0xff

/-- The launch for that block from its nonce on. -/
def minedLaunch : Launch :=
  ⟨(serializeHeader minedBlock).take 76, bitsToTarget (bitsText minedBlock.nBits), 172793, 1⟩

theorem mineKernel_checkProofOfWork_minedBlock :
    (Run.run (Threads.step (mineKernel minedDigest minedLaunch)) (Launch.start 0)
      [(0, ()), (0, ()), (0, ())]).shared = ⟨true, 172793⟩ ∧
    checkProofOfWork (uint256OfBytes (minedDigest (serializeHeader minedBlock))) minedBlock.nBits
      mainParams.powLimit = true := by
  have hrun : (Run.run (Threads.step (mineKernel minedDigest minedLaunch)) (Launch.start 0)
      [(0, ()), (0, ()), (0, ())]).shared = ⟨true, 172793⟩ := by
    decide +kernel
  have hlength : ∀ bs, (minedDigest bs).length = 32 := by
    intro bs
    unfold minedDigest
    split_ifs <;> rfl
  have haccepted := (mineKernel_checkProofOfWork (by decide : minedBlock.nBits < 2 ^ 32)
    ⟨0, by decide +kernel⟩).2 minedDigest hlength minedBlock 172793 1 0 [(0, ()), (0, ()), (0, ())]
  exact ⟨hrun, haccepted (congrArg Found.found hrun)⟩

end GarudaChain.GpuMiner
