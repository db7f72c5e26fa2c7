import GarudaChain.Extension.Proofs.TransactionProofs
import GarudaChain.Lib.Hex
import GarudaChain.Node.Chain

/-!
# Quantum-safe transactions of the extension
-/

namespace GarudaChain.Extension

theorem ofNat_mod_byte (n : Nat) : UInt8.ofNat (n % 256) = UInt8.ofNat n := by
  apply UInt8.toNat_inj.mp
  simp

theorem writeLE32_eq (n : Nat) : writeLE32 n = writeLE 4 n := by
  simp only [writeLE32, writeLE, ofNat_mod_byte, Nat.shiftRight_eq_div_pow, Nat.div_div_eq_div_mul]

theorem writeLE64_eq (n : Nat) : writeLE64 n = writeLE 8 n := by
  rw [writeLE_eq_map, writeLE64]
  refine List.map_congr_left fun i _ => ?_
  have hshift : (n : Int) >>> (8 * i) = ((n / 256 ^ i : Nat) : Int) := by
    rw [Int.shiftRight_eq_div_pow]
    push_cast
    rw [pow_mul]
    norm_num
  rw [hshift]
  norm_cast

theorem writeLE_sequenceFinal : writeLE 4 sequenceFinal = finalSequence := by decide

theorem writeVarInt_eq {n : Nat} (h : n < 2 ^ 32) : writeVarInt n = compactSizeBytes n := by
  have hsmall : n ≤ 0xffffffff := by omega
  simp only [writeVarInt, compactSizeBytes, writeLE, ofNat_mod_byte, Nat.shiftRight_eq_div_pow,
    Nat.div_div_eq_div_mul, hsmall, if_true]

theorem hexByte_spec : ∀ b : UInt8, hexByte b = [(hexByte b).headD ' ', (hexByte b).getD 1 ' '] ∧
    isHexSpace ((hexByte b).headD ' ') = false ∧
    hexDigit ((hexByte b).headD ' ') = some (b.toNat / 16) ∧
    hexDigit ((hexByte b).getD 1 ' ') = some (b.toNat % 16) :=
  Hex.forall_byte (by decide +kernel)

theorem parseHex_toHex (bytes : Bytes) : parseHex (toHex bytes) = bytes := by
  have htry : tryParseHex (toHex bytes) = some bytes := by
    induction bytes with
    | nil => rfl
    | cons b bytes ih =>
      obtain ⟨hbyte, hspace, hhigh, hlow⟩ := hexByte_spec b
      have hb := b.toNat_lt
      have hvalue : 16 * (b.toNat / 16) + b.toNat % 16 = b.toNat := Nat.div_add_mod _ _
      rw [toHex, List.flatMap_cons, hbyte, ← toHex]
      simp only [List.cons_append, List.nil_append, tryParseHex, hspace, hhigh, hlow, ih, hvalue,
        Bool.false_eq_true, if_false, UInt8.ofNat_toNat]
  rw [parseHex, htry]
  rfl

theorem isHexSpace_of_hexDigit {c : Char} (h : (hexDigit c).isSome = true) : isHexSpace c = false := by
  by_contra hspace
  rw [Bool.not_eq_false] at hspace
  simp only [isHexSpace, Bool.or_eq_true, beq_iff_eq] at hspace
  rcases hspace with ((((rfl | rfl) | rfl) | rfl) | rfl) | rfl <;> exact absurd h (by decide)

theorem tryParseHex_eq_fromHex (n : Nat) : ∀ hex : List Char, hex.length = 2 * n →
    (∀ c ∈ hex, (hexDigit c).isSome = true) →
    tryParseHex hex = some (fromHex hex) ∧ (fromHex hex).length = n := by
  induction n with
  | zero =>
    intro hex hlen _
    rw [List.length_eq_zero_iff.mp hlen]
    exact ⟨rfl, rfl⟩
  | succ n ih =>
    intro hex hlen hdigits
    match hex, hlen, hdigits with
    | c1 :: c2 :: hex, hlen, hdigits =>
      obtain ⟨h1, hdigits⟩ := List.forall_mem_cons.mp hdigits
      obtain ⟨h2, hdigits⟩ := List.forall_mem_cons.mp hdigits
      obtain ⟨hparse, hcount⟩ := ih hex (by simp only [List.length_cons] at hlen; omega) hdigits
      have hspace := isHexSpace_of_hexDigit h1
      obtain ⟨d1, hd1⟩ := Option.isSome_iff_exists.mp h1
      obtain ⟨d2, hd2⟩ := Option.isSome_iff_exists.mp h2
      simp [tryParseHex, hspace, hd1, hd2, hparse, fromHex, parseIntHex, hcount]

/-- An input as a wallet knows it: the id in hexadecimal digits, and numbers in their ranges. -/
structure UTXO.Spendable (u : UTXO) : Prop where
  txid_length : u.txid.toList.length = 64
  txid_digits : ∀ c ∈ u.txid.toList, (hexDigit c).isSome = true
  vout_lt : u.vout < 2 ^ 32
  value_nonneg : 0 ≤ u.value
  value_lt : u.value < 2 ^ 53

def UTXO.prevout (u : UTXO) : COutPoint := ⟨uint256OfBytes (parseHex u.txid.toList).reverse, u.vout⟩

/-- A payment to the address of a witness destination. -/
structure Payment where
  chain : ChainType
  dest : WitnessDestination
  value : Nat
  value_lt : value < 2 ^ 53

namespace Payment

variable (codecs : TextCodecs) (p : Payment)

def address : List Char := encodeDestination codecs p.chain p.dest.destination

def output : TxOutput := { address := some (String.ofList (p.address codecs)), value := p.value }

def txOut : CTxOut :=
  ⟨p.value, getScriptForDestination (decodeDestination codecs p.chain (p.address codecs)).1⟩

theorem length_script : (p.txOut codecs).scriptPubKey.length ≤ 42 := by
  have hsizes := p.dest.sizes
  have hscript := p.dest.script_decodeDestination codecs p.chain
  rw [txOut, address, hscript, List.length_cons, List.length_cons]
  omega

theorem outScript_output :
    outScript (fun address => .ok (quantumAddressToScript address)) (p.output codecs) =
      .ok (p.txOut codecs).scriptPubKey := by
  have hscript := p.dest.script_decodeDestination codecs p.chain
  simp only [outScript, output, address, txOut, String.toList_ofList, quantumAddressToScript_eq,
    hscript]

theorem encodeOutput_output :
    encodeOutput (p.output codecs) (p.txOut codecs).scriptPubKey =
      .ok (serializeTxOut (p.txOut codecs)) := by
  have hlength := p.length_script codecs
  have hvalue := p.value_lt
  have hbig : toBigInt (p.output codecs).value = .ok (p.value : Int) := by
    simp [toBigInt, output]
  have hbytes : int64Bytes (p.txOut codecs).nValue = writeLE 8 p.value := by
    have hnat : ((p.value : Int) % 2 ^ 64).toNat = p.value := by omega
    rw [int64Bytes, txOut, hnat]
  rw [encodeOutput, hbig, Result.ok_bind, serializeTxOut, serializeBytes, hbytes, writeLE64_eq,
    writeVarInt_eq (by omega), List.append_assoc]
  rfl

end Payment

theorem UTXO.Spendable.outpoint_eq {u : UTXO} (h : u.Spendable) :
    outpoint u = serializeOutPoint u.prevout := by
  obtain ⟨hparse, hlength⟩ := tryParseHex_eq_fromHex 32 u.txid.toList h.txid_length h.txid_digits
  have hhex : parseHex u.txid.toList = fromHex u.txid.toList := by
    rw [parseHex, hparse]
    rfl
  rw [outpoint, serializeOutPoint, UTXO.prevout, hhex,
    uint256Bytes_uint256OfBytes (by rw [List.length_reverse, hlength]), writeLE32_eq]

section Transaction

variable (libs : WalletLibs) (codecs : TextCodecs) (inputs : List UTXO) (payments : List Payment)
  (secretKey publicKey : Bytes)

/-- The outputs as the extension serialises them. -/
def encodedPayments : List Bytes := payments.map fun p => serializeTxOut (p.txOut codecs)

/-- The message that the extension signs for an input. -/
def signedMessage (u : UTXO) : Bytes :=
  libs.sha256d (preimage libs inputs (encodedPayments codecs payments)
    (quantumScriptCode libs publicKey) u)

/-- The transaction with these inputs and outputs. -/
def quantumTx : CTransaction where
  vin := inputs.zipIdx.map fun (u, i) => ⟨u.prevout, [], sequenceFinal,
    [libs.mlDsa87Sign i (signedMessage libs codecs inputs payments publicKey u) secretKey, publicKey]⟩
  vout := payments.map fun p => p.txOut codecs
  version := 2
  nLockTime := 0
  hash := 0
  witnessHash := 0

theorem flatMap_vin {f : CTxIn → Bytes} {g : UTXO → Bytes}
    (h : ∀ u ∈ inputs, ∀ witness, f ⟨u.prevout, [], sequenceFinal, witness⟩ = g u) :
    (quantumTx libs codecs inputs payments secretKey publicKey).vin.flatMap f = inputs.flatMap g := by
  have hfst : inputs.flatMap g = inputs.zipIdx.flatMap fun ui => g ui.1 := by
    nth_rewrite 1 [← List.zipIdx_map_fst 0 inputs]
    rw [List.flatMap_map]
  rw [quantumTx, List.flatMap_map, hfst]
  refine List.flatMap_congr fun ui hui => ?_
  exact h ui.1 (List.fst_mem_of_mem_zipIdx hui) _

variable {libs codecs inputs payments secretKey publicKey}

theorem hasWitness_quantumTx (hne : inputs ≠ []) :
    (quantumTx libs codecs inputs payments secretKey publicKey).hasWitness = true := by
  cases inputs with
  | nil => exact absurd rfl hne
  | cons u inputs => rfl

theorem get_vin {nIn : Fin (quantumTx libs codecs inputs payments secretKey publicKey).vin.length}
    {u : UTXO} (hu : inputs[nIn.val]? = some u) :
    (quantumTx libs codecs inputs payments secretKey publicKey).vin.get nIn =
      ⟨u.prevout, [], sequenceFinal, [libs.mlDsa87Sign nIn
        (signedMessage libs codecs inputs payments publicKey u) secretKey, publicKey]⟩ := by
  have hsome : (quantumTx libs codecs inputs payments secretKey publicKey).vin[nIn.val]? =
      some ⟨u.prevout, [], sequenceFinal, [libs.mlDsa87Sign nIn
        (signedMessage libs codecs inputs payments publicKey u) secretKey, publicKey]⟩ := by
    simp only [quantumTx, List.getElem?_map, List.getElem?_zipIdx, hu, Option.map_some, Nat.zero_add]
  rw [List.get_eq_getElem]
  exact List.getElem_of_getElem? hsome |>.2

/-- What the libraries and the keys are assumed to do: both sides hash with SHA-256, and a signature
    has its size and is valid. -/
structure SigningKeys (crypto : Crypto) (libs : WalletLibs) (secretKey publicKey : Bytes) : Prop where
  sha256_eq : libs.sha256 = crypto.sha256
  digest_length : ∀ bs, (crypto.sha256 bs).length = 32
  publicKey_length : publicKey.length = 2592
  signature_length : ∀ i msg, (libs.mlDsa87Sign i msg secretKey).length = 4627
  valid : ∀ i msg, crypto.mldsa87Verify msg (libs.mlDsa87Sign i msg secretKey) publicKey = true

variable {crypto : Crypto}

theorem fits_quantumTx (hkeys : SigningKeys crypto libs secretKey publicKey) (hne : inputs ≠ [])
    (hinputs : ∀ u ∈ inputs, u.Spendable) (hcount : inputs.length ≤ maxSize)
    (hcount' : payments.length ≤ maxSize) :
    (quantumTx libs codecs inputs payments secretKey publicKey).Fits where
  version := by simp [quantumTx]
  nLockTime := by simp [quantumTx]
  vin_ne_nil := by simpa [quantumTx] using hne
  vin_length := by simpa [quantumTx] using hcount
  vin := by
    intro txin htxin
    obtain ⟨ui, hui, rfl⟩ := List.mem_map.mp htxin
    have hu := hinputs ui.1 (List.fst_mem_of_mem_zipIdx hui)
    refine ⟨hu.vout_lt, by simp, (by decide : sequenceFinal < 2 ^ 32), by simp [maxSize],
      fun item hitem => ?_⟩
    rcases List.mem_cons.mp hitem with rfl | hitem
    · rw [hkeys.signature_length, maxSize]
      omega
    · rw [List.mem_singleton.mp hitem, hkeys.publicKey_length, maxSize]
      omega
  vout_length := by simpa [quantumTx] using hcount'
  vout := by
    intro out hout
    obtain ⟨p, -, rfl⟩ := List.mem_map.mp hout
    have hvalue := p.value_lt
    have hscript := p.length_script codecs
    refine ⟨?_, ?_, by rw [maxSize]; omega⟩ <;> simp only [Payment.txOut] <;> omega

theorem rawTx_eq (hkeys : SigningKeys crypto libs secretKey publicKey) (hne : inputs ≠ [])
    (hinputs : ∀ u ∈ inputs, u.Spendable) (hcount : inputs.length < 2 ^ 32)
    (hcount' : payments.length < 2 ^ 32) :
    rawTx inputs (encodedPayments codecs payments) (inputs.zipIdx.map fun (u, i) =>
        [libs.mlDsa87Sign i (signedMessage libs codecs inputs payments publicKey u) secretKey,
          publicKey]) =
      serializeTransaction true (quantumTx libs codecs inputs payments secretKey publicKey) := by
  have hvin : inputs.flatMap (fun inp => outpoint inp ++ [0x00] ++ finalSequence) =
      (quantumTx libs codecs inputs payments secretKey publicKey).vin.flatMap serializeTxIn := by
    refine (flatMap_vin libs codecs inputs payments secretKey publicKey fun u hu witness => ?_).symm
    rw [(hinputs u hu).outpoint_eq, serializeTxIn, writeLE_sequenceFinal]
    rfl
  have hvout : (encodedPayments codecs payments).flatten =
      (quantumTx libs codecs inputs payments secretKey publicKey).vout.flatMap serializeTxOut := by
    rw [encodedPayments, quantumTx, List.flatMap_map, List.flatMap]
  have hwitness : (inputs.zipIdx.map fun (u, i) =>
        [libs.mlDsa87Sign i (signedMessage libs codecs inputs payments publicKey u) secretKey,
          publicKey]).flatMap (fun w =>
        writeVarInt w.length ++ w.flatMap fun item => writeVarInt item.length ++ item) =
      (quantumTx libs codecs inputs payments secretKey publicKey).vin.flatMap fun txin =>
        serializeVector serializeBytes txin.scriptWitness := by
    rw [quantumTx, List.flatMap_map, List.flatMap_map]
    refine List.flatMap_congr fun ui _ => ?_
    have hsig := hkeys.signature_length ui.2
      (signedMessage libs codecs inputs payments publicKey ui.1)
    have hpub := hkeys.publicKey_length
    simp only [serializeVector, List.flatMap_cons, List.flatMap_nil, List.length_cons,
      List.length_nil, serializeBytes]
    rw [writeVarInt_eq (by omega), writeVarInt_eq (by omega), writeVarInt_eq (by omega)]
  have hlenIn : inputs.length =
      (quantumTx libs codecs inputs payments secretKey publicKey).vin.length := by simp [quantumTx]
  have hlenOut : (encodedPayments codecs payments).length =
      (quantumTx libs codecs inputs payments secretKey publicKey).vout.length := by
    simp [quantumTx, encodedPayments]
  rw [rawTx, serializeTransaction, hasWitness_quantumTx hne, Bool.and_self, if_pos rfl, if_pos rfl,
    hvin, hvout, hwitness, writeVarInt_eq (by omega), writeVarInt_eq (by simp [encodedPayments]; omega),
    hlenIn, hlenOut, writeLE32_eq, writeLE32_eq]
  rfl

theorem buildAndSignQuantumTx_eq (hkeys : SigningKeys crypto libs secretKey publicKey)
    (hne : inputs ≠ []) (hinputs : ∀ u ∈ inputs, u.Spendable) (hcount : inputs.length < 2 ^ 32)
    (hcount' : payments.length < 2 ^ 32) :
    buildAndSignQuantumTx libs inputs (payments.map fun p => p.output codecs) secretKey publicKey =
      .ok (toHex (serializeTransaction true
        (quantumTx libs codecs inputs payments secretKey publicKey))) := by
  have hscripts : (payments.map fun p => p.output codecs).mapM
      (outScript fun address => .ok (quantumAddressToScript address)) =
        .ok (payments.map fun p => (p.txOut codecs).scriptPubKey) := by
    rw [List.mapM_map]
    exact Result.mapM_eq_ok fun p _ => p.outScript_output codecs
  have hzip : (payments.map fun p => p.output codecs).zip
      (payments.map fun p => (p.txOut codecs).scriptPubKey) =
        payments.map fun p => (p.output codecs, (p.txOut codecs).scriptPubKey) :=
    List.zip_map'
  have hencoded : ∀ encode, (∀ o script, encode (o, script) = encodeOutput o script) →
      (payments.map fun p => (p.output codecs, (p.txOut codecs).scriptPubKey)).mapM encode =
        .ok (encodedPayments codecs payments) := by
    intro encode hencode
    rw [List.mapM_map]
    exact Result.mapM_eq_ok fun p _ => (hencode _ _).trans (p.encodeOutput_output codecs)
  rw [buildAndSignQuantumTx, buildTx, hscripts, Result.ok_bind, hzip, hencoded _ fun _ _ => rfl, Result.ok_bind,
    Result.mapM_eq_ok fun _ _ => rfl, Result.ok_bind, ← rawTx_eq hkeys hne hinputs hcount hcount']
  rfl

theorem signedMessage_eq (hkeys : SigningKeys crypto libs secretKey publicKey)
    (hinputs : ∀ u ∈ inputs, u.Spendable) (checker : SignatureChecker crypto)
    (htx : checker.txTo = quantumTx libs codecs inputs payments secretKey publicKey) {u : UTXO}
    (hu : inputs[checker.nIn.val]? = some u) (hamount : checker.amount = u.value) :
    signedMessage libs codecs inputs payments publicKey u =
      signatureHash checker (op2 :: 32 :: crypto.sha256 publicKey) := by
  obtain ⟨tx, nIn, amount, missingData, txdata, hof⟩ := checker
  subst htx
  simp only at hu hamount
  have hspendable := hinputs u (List.mem_of_getElem? hu)
  have hhash : ∀ bs, libs.sha256d bs = crypto.hash256 bs := by
    intro bs
    rw [WalletLibs.sha256d, Crypto.hash256, hkeys.sha256_eq]
  have hprevouts : inputs.flatMap outpoint =
      (quantumTx libs codecs inputs payments secretKey publicKey).vin.flatMap fun txin =>
        serializeOutPoint txin.prevout :=
    (flatMap_vin libs codecs inputs payments secretKey publicKey
      fun u hu _ => (hinputs u hu).outpoint_eq.symm).symm
  have hsequence : (inputs.flatMap fun _ => finalSequence) =
      (quantumTx libs codecs inputs payments secretKey publicKey).vin.flatMap fun txin =>
        writeLE 4 txin.nSequence :=
    (flatMap_vin libs codecs inputs payments secretKey publicKey
      fun _ _ _ => writeLE_sequenceFinal).symm
  have houtputs : (encodedPayments codecs payments).flatten =
      (quantumTx libs codecs inputs payments secretKey publicKey).vout.flatMap serializeTxOut := by
    rw [encodedPayments, quantumTx, List.flatMap_map, List.flatMap]
  have hvalue : writeLE64 u.value = int64Bytes u.value := by
    have hnonneg := hspendable.value_nonneg
    have hlt := hspendable.value_lt
    obtain ⟨n, hn⟩ := Int.eq_ofNat_of_zero_le hnonneg
    rw [hn, writeLE64_eq, int64Bytes]
    congr 1
    omega
  have hscript : writeVarInt (quantumScriptCode libs publicKey).length ++
      quantumScriptCode libs publicKey = serializeBytes (op2 :: 32 :: crypto.sha256 publicKey) := by
    have hlength : (quantumScriptCode libs publicKey).length = 34 := by
      rw [quantumScriptCode, hkeys.sha256_eq, List.length_cons, List.length_cons,
        hkeys.digest_length]
    rw [writeVarInt_eq (by omega), serializeBytes]
    rw [quantumScriptCode, hkeys.sha256_eq]
    rfl
  rw [signatureHash_eq, bip143Digest, bip143Preimage, get_vin hu, hamount, signedMessage, preimage, hhash,
    hhash, hhash, hhash, hprevouts, hsequence, houtputs, hvalue, hspendable.outpoint_eq,
    writeLE32_eq, writeLE32_eq, ← writeLE_sequenceFinal]
  simp only [← hscript, List.append_assoc]
  rfl

theorem buildAndSignQuantumTx_refused (hkeys : SigningKeys crypto libs secretKey publicKey)
    (hinputs : ∀ u ∈ inputs, u.Spendable) (hlarge : maxSize < inputs.length)
    (hcount : inputs.length < 2 ^ 32) (hcount' : payments.length < 2 ^ 32) :
    ∃ hex, buildAndSignQuantumTx libs inputs (payments.map fun p => p.output codecs) secretKey
        publicKey = .ok hex ∧
      unserializeTransaction true (parseHex hex) = .error "ReadCompactSize(): size too large" := by
  have hne : inputs ≠ [] := by
    rintro rfl
    simp at hlarge
  have hlength : (quantumTx libs codecs inputs payments secretKey publicKey).vin.length =
      inputs.length := by simp [quantumTx]
  have hfail := @fails_transaction_witness
    (quantumTx libs codecs inputs payments secretKey publicKey) (by simp [quantumTx])
    (hasWitness_quantumTx hne) (by rwa [hlength]) (by rwa [hlength]) []
  refine ⟨_, buildAndSignQuantumTx_eq hkeys hne hinputs hcount hcount', ?_⟩
  rw [parseHex_toHex]
  rwa [List.append_nil] at hfail

end Transaction

def sampleSignature (msg : Bytes) : Bytes := (msg ++ List.replicate 4627 0).take 4627

def sampleLibs : WalletLibs where
  sha256 := GarudaChain.sampleCrypto.sha256
  ripemd160 _ := List.replicate 20 0
  signDer _ _ _ := .error "sig.toDERRawBytes is not a function"
  mlDsa87Sign _ msg _ := sampleSignature msg

def quantumCrypto : Crypto :=
  { GarudaChain.sampleCrypto with mldsa87Verify := fun msg sig _ => sig == sampleSignature msg }

def samplePublicKey : Bytes := List.replicate 2592 5

theorem signingKeys_sample : SigningKeys quantumCrypto sampleLibs [] samplePublicKey where
  sha256_eq := rfl
  digest_length _ := List.length_replicate
  publicKey_length := List.length_replicate
  signature_length _ msg := by
    change (sampleSignature msg).length = 4627
    rw [sampleSignature, List.length_take, List.length_append, List.length_replicate]
    omega
  valid _ msg := beq_self_eq_true (sampleSignature msg)

def sampleTxid : String := String.ofList (List.replicate 64 '7')

theorem toList_sampleTxid : sampleTxid.toList = List.replicate 64 '7' := by
  unfold sampleTxid
  rw [String.toList_ofList]

def sampleUtxo : UTXO := ⟨sampleTxid, 1, 50000⟩

theorem spendable_sampleUtxo : sampleUtxo.Spendable where
  txid_length := by
    change sampleTxid.toList.length = 64
    rw [toList_sampleTxid, List.length_replicate]
  txid_digits := by
    change ∀ c ∈ sampleTxid.toList, (hexDigit c).isSome = true
    rw [toList_sampleTxid]
    intro c hc
    rw [List.eq_of_mem_replicate hc]
    decide
  vout_lt := by decide
  value_nonneg := by decide
  value_lt := by decide

def samplePayment : Payment := ⟨.main, quantumDestination, 49000, by decide⟩

end GarudaChain.Extension
