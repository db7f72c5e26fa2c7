import GarudaChain.Node.Serialize

/-!
# What was written is read back
-/

namespace GarudaChain

open Reader

theorem uint256Bytes_uint256OfBytes {bs : Bytes} (h : bs.length = 32) :
    uint256Bytes (uint256OfBytes bs) = bs := by
  have hlt := readLE_lt bs
  rw [h] at hlt
  rw [uint256OfBytes, uint256Bytes_eq, BitVec.toNat_ofNat, Nat.mod_eq_of_lt (by simpa using hlt), ← h,
    writeLE_readLE]

theorem reads_number {w n : Nat} (h : n < 256 ^ w) : Reads (readNumber w) (writeLE w n) n := by
  have hread := (Reads.bytes "DataStream::read(): end of data" (length_writeLE w n)).map
    (f := readLE)
  rwa [readLE_writeLE w n h] at hread

theorem reads_uint256 (h : Uint256) : Reads readUint256 (uint256Bytes h) h := by
  have hread := (Reads.bytes "DataStream::read(): end of data" (length_uint256Bytes h)).map
    (f := uint256OfBytes)
  rwa [uint256OfBytes_uint256Bytes] at hread

theorem signedOf_emod {w : Nat} {x : Int} (hlo : -2 ^ w ≤ x) (hhi : x < 2 ^ w) :
    signedOf (w + 1) (x % 2 ^ (w + 1)).toNat = x := by
  have hpos : (0 : Int) < 2 ^ (w + 1) := Int.pow_pos (by decide)
  have hdouble : (2 : Int) ^ (w + 1) = 2 * 2 ^ w := by rw [pow_succ]; omega
  have hcast : ((2 ^ (w + 1) : Nat) : Int) = 2 ^ (w + 1) := by push_cast; rfl
  rw [signedOf, Int.toNat_of_nonneg (Int.emod_nonneg _ (Int.ne_of_gt hpos)), ← hcast, Int.emod_bmod]
  exact Int.bmod_eq_of_le (by omega) (by omega)

theorem reads_canonical {width least n : Nat} (hleast : least ≤ n) (h : n < 256 ^ width) :
    Reads (readCanonical width least) (writeLE width n) n := by
  have hread := (reads_number h).bind (f := fun n => do
    Reader.check (decide (least ≤ n)) "non-canonical ReadCompactSize()"
    return n) (Reads.check_bind _ (decide_eq_true hleast) (Reads.pure n))
  rwa [List.append_nil] at hread

theorem reads_sized {r : Reader String Nat} {bs : Bytes} {n : Nat} (hr : Reads r bs n)
    (h : n ≤ maxSize) :
    Reads (do
      let nSizeRet ← r
      Reader.check (decide (nSizeRet ≤ maxSize)) "ReadCompactSize(): size too large"
      return nSizeRet) bs n := by
  have hread := hr.bind (f := fun nSizeRet => do
    Reader.check (decide (nSizeRet ≤ maxSize)) "ReadCompactSize(): size too large"
    return nSizeRet) (Reads.check_bind _ (decide_eq_true h) (Reads.pure n))
  rwa [List.append_nil] at hread

theorem reads_compactSize {n : Nat} (h : n ≤ maxSize) :
    Reads readCompactSize (compactSizeBytes n) n := by
  have hmax : n < 0x100000000 := by rw [maxSize] at h; omega
  rw [compactSizeBytes]
  by_cases h1 : n < 253
  · rw [if_pos h1, ← List.append_nil (writeLE 1 n)]
    refine (reads_number (by omega)).bind ?_
    rw [if_pos h1]
    exact reads_sized (Reads.pure n) h
  · rw [if_neg h1]
    by_cases h2 : n ≤ 0xffff
    · rw [if_pos h2]
      exact (reads_number (w := 1) (n := 253) (by decide)).bind
        (reads_sized (reads_canonical (by omega) (by omega)) h)
    · rw [if_neg h2, if_pos (by omega)]
      exact (reads_number (w := 1) (n := 254) (by decide)).bind
        (reads_sized (reads_canonical (by omega) (by omega)) h)

theorem fails_compactSize {n : Nat} (h : maxSize < n) (hn : n < 2 ^ 32) :
    Fails readCompactSize (compactSizeBytes n) "ReadCompactSize(): size too large" := by
  rw [maxSize] at h
  rw [compactSizeBytes, if_neg (by omega), if_neg (by omega), if_pos (by omega)]
  refine (reads_number (w := 1) (n := 254) (by decide)).bind_fails ?_
  have hsize : Reads (readCanonical 4 0x10000) (writeLE 4 n) n := reads_canonical (by omega) (by omega)
  have hlarge : decide (n ≤ maxSize) = false := by
    rw [maxSize, decide_eq_false_iff_not]
    omega
  have hfail := hsize.bind_fails (f := fun nSizeRet => do
    Reader.check (decide (nSizeRet ≤ maxSize)) "ReadCompactSize(): size too large"
    return nSizeRet) (check_fails _ hlarge).bind
  rwa [List.append_nil] at hfail

theorem reads_varBytes {bs : Bytes} (h : bs.length ≤ maxSize) :
    Reads readVarBytes (serializeBytes bs) bs :=
  (reads_compactSize h).bind (Reads.bytes _ rfl)

theorem reads_vector {α : Type} {read : Reader String α} {e : α → Bytes} {v : List α}
    (hlen : v.length ≤ maxSize) (h : ∀ a ∈ v, Reads read (e a) a) :
    Reads (readVector read) (serializeVector e v) v :=
  (reads_compactSize hlen).bind (Reads.many h)

structure CTxIn.Fits (txin : CTxIn) : Prop where
  n : txin.prevout.n < 2 ^ 32
  scriptSig : txin.scriptSig.length ≤ maxSize
  nSequence : txin.nSequence < 2 ^ 32
  witness : txin.scriptWitness.length ≤ maxSize
  items : ∀ item ∈ txin.scriptWitness, item.length ≤ maxSize

structure CTxOut.Fits (txout : CTxOut) : Prop where
  low : -2 ^ 63 ≤ txout.nValue
  high : txout.nValue < 2 ^ 63
  scriptPubKey : txout.scriptPubKey.length ≤ maxSize

structure CTransaction.Fits (tx : CTransaction) : Prop where
  version : tx.version < 2 ^ 32
  nLockTime : tx.nLockTime < 2 ^ 32
  vin_ne_nil : tx.vin ≠ []
  vin_length : tx.vin.length ≤ maxSize
  vin : ∀ txin ∈ tx.vin, txin.Fits
  vout_length : tx.vout.length ≤ maxSize
  vout : ∀ txout ∈ tx.vout, txout.Fits

def CTxIn.bare (txin : CTxIn) : CTxIn := { txin with scriptWitness := [] }

theorem reads_txIn {txin : CTxIn} (h : txin.Fits) :
    Reads readTxIn (serializeTxIn txin) txin.bare := by
  rw [serializeTxIn, serializeOutPoint, List.append_assoc]
  exact ((reads_uint256 _).bind ((reads_number h.n).map)).bind
    ((reads_varBytes h.scriptSig).bind (reads_number h.nSequence).map)

theorem reads_txOut {txout : CTxOut} (h : txout.Fits) :
    Reads readTxOut (serializeTxOut txout) txout := by
  have hvalue : (txout.nValue % 2 ^ 64).toNat < 256 ^ 8 := by omega
  have hread := (reads_number hvalue).bind (f := fun nValue => do
    let scriptPubKey ← readVarBytes
    return (⟨signedOf 64 nValue, scriptPubKey⟩ : CTxOut)) (reads_varBytes h.scriptPubKey).map
  rwa [signedOf_emod (w := 63) h.low h.high] at hread

theorem reads_vin {vin : List CTxIn} (hlen : vin.length ≤ maxSize) (h : ∀ txin ∈ vin, txin.Fits) :
    Reads (readVector readTxIn) (serializeVector serializeTxIn vin) (vin.map CTxIn.bare) := by
  have hbytes : serializeVector serializeTxIn vin =
      serializeVector serializeTxIn (vin.map CTxIn.bare) := by
    rw [serializeVector, serializeVector, List.length_map, List.flatMap_map]
    rfl
  rw [hbytes]
  refine reads_vector (by rwa [List.length_map]) fun txin htxin => ?_
  obtain ⟨t, ht, rfl⟩ := List.mem_map.mp htxin
  exact (reads_txIn (h t ht) : Reads readTxIn (serializeTxIn t) t.bare)

theorem reads_witnesses {vin : List CTxIn} (h : ∀ txin ∈ vin, txin.Fits) :
    Reads (readWitnesses (vin.map CTxIn.bare))
      (vin.flatMap fun txin => serializeVector serializeBytes txin.scriptWitness) vin := by
  induction vin with
  | nil => exact Reads.pure []
  | cons txin vin ih =>
    obtain ⟨hd, htl⟩ := List.forall_mem_cons.mp h
    have hstack := reads_vector hd.witness fun item hitem => reads_varBytes (hd.items item hitem)
    exact hstack.bind (ih htl).map

/-- The transaction before its hashes are computed. -/
def CTransaction.unhashed (tx : CTransaction) : CTransaction := { tx with hash := 0, witnessHash := 0 }

theorem reads_transaction_witness {tx : CTransaction} (h : tx.Fits) (hwitness : tx.hasWitness = true) :
    Reads (unserializeTransaction true) (serializeTransaction true tx) tx.unhashed := by
  have hbody : Reads (readTxBody true) ([0, 1] ++ (serializeVector serializeTxIn tx.vin ++
      serializeVector serializeTxOut tx.vout)) (tx.vin.map CTxIn.bare, tx.vout, 1) := by
    -- the dummy is read as a vector without elements
    have hdummy : Reads (readVector readTxIn) [0] [] :=
      reads_vector (e := serializeTxIn) (v := []) (by decide) (by simp)
    have hflags : Reads (readNumber 1) [1] 1 := reads_number (w := 1) (n := 1) (by decide)
    exact hdummy.bind (hflags.bind ((reads_vin h.vin_length h.vin).bind
      (reads_vector h.vout_length fun out hout => reads_txOut (h.vout out hout)).map))
  have hvin : Reads (do
      let vin ← readWitnesses (tx.vin.map CTxIn.bare)
      Reader.check (vin.any fun txin => !txin.scriptWitness.isEmpty) "Superfluous witness record"
      return vin) (tx.vin.flatMap fun txin => serializeVector serializeBytes txin.scriptWitness)
      tx.vin := by
    have hread := (reads_witnesses h.vin).bind (f := fun vin => do
      Reader.check (vin.any fun txin => !txin.scriptWitness.isEmpty) "Superfluous witness record"
      return vin) (Reads.check_bind _ hwitness (Reads.pure tx.vin))
    rwa [List.append_nil] at hread
  have hbytes : serializeTransaction true tx = writeLE 4 tx.version ++ (([0, 1] ++
      (serializeVector serializeTxIn tx.vin ++ serializeVector serializeTxOut tx.vout)) ++
        ((tx.vin.flatMap fun txin => serializeVector serializeBytes txin.scriptWitness) ++
          writeLE 4 tx.nLockTime)) := by
    simp only [serializeTransaction, hwitness, Bool.and_self, if_true, List.append_assoc]
  rw [hbytes]
  refine (reads_number h.version).bind (hbody.bind (hvin.bind ?_))
  exact Reads.check_bind _ rfl (reads_number h.nLockTime).map

theorem fails_transaction_witness {tx : CTransaction} (hversion : tx.version < 2 ^ 32)
    (hwitness : tx.hasWitness = true) (h : maxSize < tx.vin.length) (hvin : tx.vin.length < 2 ^ 32) :
    Fails (unserializeTransaction true) (serializeTransaction true tx)
      "ReadCompactSize(): size too large" := by
  have hdummy : Reads (readVector readTxIn) [0] [] :=
    reads_vector (e := serializeTxIn) (v := []) (by decide) (by simp)
  have hflags : Reads (readNumber 1) [1] 1 := reads_number (w := 1) (n := 1) (by decide)
  have hcount : Fails (readVector readTxIn) (compactSizeBytes tx.vin.length)
      "ReadCompactSize(): size too large" := (fails_compactSize h hvin).bind
  have hbody : Fails (readTxBody true) ([0] ++ ([1] ++ compactSizeBytes tx.vin.length))
      "ReadCompactSize(): size too large" := hdummy.bind_fails (hflags.bind_fails hcount.bind)
  have hbytes : serializeTransaction true tx = writeLE 4 tx.version ++
      ([0] ++ ([1] ++ compactSizeBytes tx.vin.length)) ++ (tx.vin.flatMap serializeTxIn ++
        (serializeVector serializeTxOut tx.vout ++
          ((tx.vin.flatMap fun txin => serializeVector serializeBytes txin.scriptWitness) ++
            writeLE 4 tx.nLockTime))) := by
    simp only [serializeTransaction, hwitness, Bool.and_self, if_true, List.append_assoc,
      serializeVector, List.cons_append, List.nil_append]
  rw [hbytes]
  exact ((reads_number hversion).bind_fails hbody.bind).append _

theorem bare_eq_self {txin : CTxIn} (h : txin.scriptWitness = []) : txin.bare = txin := by
  cases txin
  cases h
  rfl

theorem reads_transaction_basic {tx : CTransaction} (h : tx.Fits) (hwitness : tx.hasWitness = false) :
    Reads (unserializeTransaction true) (serializeTransaction true tx) tx.unhashed := by
  have hbare : tx.vin.map CTxIn.bare = tx.vin := by
    refine (List.map_congr_left fun txin htxin => ?_).trans (List.map_id tx.vin)
    simp only [CTransaction.hasWitness, List.any_eq_false, Bool.not_eq_true', Bool.not_eq_false,
      List.isEmpty_iff] at hwitness
    exact bare_eq_self (hwitness txin htxin)
  have hbody : Reads (readTxBody true) (serializeVector serializeTxIn tx.vin ++
      serializeVector serializeTxOut tx.vout) (tx.vin, tx.vout, 0) := by
    have hvin := reads_vin h.vin_length h.vin
    rw [hbare] at hvin
    refine hvin.bind ?_
    have hne : (tx.vin.isEmpty && true) = false := by simpa using h.vin_ne_nil
    rw [hne, if_neg (by decide)]
    exact (reads_vector h.vout_length fun out hout => reads_txOut (h.vout out hout)).map
  have hbytes : serializeTransaction true tx = writeLE 4 tx.version ++
      ((serializeVector serializeTxIn tx.vin ++ serializeVector serializeTxOut tx.vout) ++
        ([] ++ writeLE 4 tx.nLockTime)) := by
    simp only [serializeTransaction, hwitness, Bool.and_false, Bool.false_eq_true, if_false,
      List.append_assoc, List.nil_append]
  rw [hbytes]
  refine (reads_number h.version).bind (hbody.bind ((Reads.pure tx.vin).bind ?_))
  exact Reads.check_bind _ rfl (reads_number h.nLockTime).map

theorem reads_transaction {tx : CTransaction} (h : tx.Fits) :
    Reads (unserializeTransaction true) (serializeTransaction true tx) tx.unhashed := by
  cases hwitness : tx.hasWitness with
  | true => exact reads_transaction_witness h hwitness
  | false => exact reads_transaction_basic h hwitness

end GarudaChain
