import GarudaChain.Node.MintRpc
import GarudaChain.Node.Proofs.AssemblyProofs
import GarudaChain.Node.Proofs.SerializeProofs

/-!
# Minting through the RPC
-/

namespace GarudaChain

open Int64Lib Result

/-- The outputs of a mint transaction that burn the fee. -/
def mintFeeOutputs (tx : CTransaction) : List CTxOut :=
  tx.vout.filter fun out => isMintFeeScript out.scriptPubKey

structure MintRule (ppm : Int) (tx : CTransaction) : Prop where
  vout_ne_nil : tx.vout ≠ []
  positive : ∀ out ∈ mintedOutputs tx, 0 < out.nValue
  limit : outputsValue (mintedOutputs tx) ≤ maxMintPerTx
  fee : ppm = 0 ∨ outputsValue (mintedOutputs tx) = 0 ∨
    max 1 (outputsValue (mintedOutputs tx) * ppm / 1000000) ≤ outputsValue (mintFeeOutputs tx)

theorem requiredMintFee_eq {total ppm : Int} (htotal : 0 ≤ total) (hlimit : total ≤ maxMintPerTx)
    (hppm : 0 ≤ ppm) (hmax : ppm ≤ 100000) :
    requiredMintFee total ppm = max 1 (total * ppm / 1000000) := by
  have hnonneg : 0 ≤ total * ppm := Int.mul_nonneg htotal hppm
  have hle : total * ppm ≤ maxMintPerTx * 100000 :=
    Int.mul_le_mul hlimit hmax hppm (by decide)
  rw [maxMintPerTx] at hle
  rw [requiredMintFee, Int.tdiv_eq_ediv_of_nonneg hnonneg, Int.max_comm]
  exact wrap64_of_range (by omega) (by omega)

variable {tx : CTransaction} {entropy : MintEntropy} {env : Env} {hasher : Hasher} {nAmount : Int}
  {request : MintRequest} {scriptPubKey : Bytes}

theorem mintFeeOutputs_foldl (hrange : ∀ out ∈ tx.vout, moneyRange out.nValue = true)
    (hfees : outputsValue (mintFeeOutputs tx) < 2 ^ 63) :
    (mintFeeOutputs tx).foldl (fun total out => wrap64 (total + out.nValue)) 0 =
      outputsValue (mintFeeOutputs tx) := by
  have hnonneg : 0 ≤ outputsValue (mintFeeOutputs tx) :=
    outputsValue_nonneg fun out hout =>
      ((moneyRange_iff _).mp (hrange out (List.mem_of_mem_filter hout))).1
  have hsum := foldl_wrap64 (mintFeeOutputs tx) 0
  rw [wrap64_of_range (by decide) (by decide), Int.zero_add,
    wrap64_of_range (by omega) (by omega)] at hsum
  exact hsum

theorem checkCBDCMintInBlock_eq_ok {crypto : Crypto} {auth : AuthorityState}
    (hppm : 0 ≤ auth.mintFeePpm) (hmax : auth.mintFeePpm ≤ 100000)
    (hsigned : verifyCBDCMintSigHybrid crypto auth tx = .ok ())
    (hrange : ∀ out ∈ tx.vout, moneyRange out.nValue = true)
    (hfees : outputsValue (mintFeeOutputs tx) < 2 ^ 63) :
    checkCBDCMintInBlock crypto auth tx = .ok () ↔ MintRule auth.mintFeePpm tx := by
  have hloop := fun totals =>
    mintOutputsLoop_eq_ok tx.vout 0 0 totals (by decide) (by decide)
  simp only [Int.zero_add] at hloop
  have hfold := mintFeeOutputs_foldl hrange hfees
  rw [checkCBDCMintInBlock, hsigned]
  simp only [bind_eq_ok, rejectBlockIf_eq_ok, exists_const, hloop]
  constructor
  · rintro ⟨hne, totals, ⟨hpos, hlimit, rfl⟩, -, hfee⟩
    rw [← mintFeeOutputs, hfold] at hfee
    rw [← mintedOutputs] at hpos hlimit hfee
    have htotal : 0 ≤ outputsValue (mintedOutputs tx) :=
      outputsValue_nonneg fun out hout => (hpos out hout).le
    rw [requiredMintFee_eq htotal hlimit hppm hmax] at hfee
    refine ⟨by simpa using hne, hpos, hlimit, ?_⟩
    simp only [Bool.and_eq_false_iff, decide_eq_false_iff_not] at hfee
    omega
  · rintro ⟨hne, hpos, hlimit, hfee⟩
    have htotal : 0 ≤ outputsValue (mintedOutputs tx) :=
      outputsValue_nonneg fun out hout => (hpos out hout).le
    refine ⟨by simpa using hne, _, ⟨hpos, hlimit, rfl⟩, decide_eq_false (not_lt.mpr hlimit), ?_⟩
    rw [← mintFeeOutputs, hfold, ← mintedOutputs, requiredMintFee_eq htotal hlimit hppm hmax]
    simp only [Bool.and_eq_false_iff, decide_eq_false_iff_not]
    omega

/-- The script of a destination that `DecodeDestination` returns pays someone. -/
def PaysSomeone (dest : CTxDestination) : Prop :=
  isValidDestination dest = true → (getScriptForDestination dest).head? ≠ some opReturn

theorem paysSomeone_noDestination (errorStr : String) : PaysSomeone (noDestination errorStr).1 :=
  nofun

theorem paysSomeone_decodeProgram (version : Nat) (data : Bytes) :
    PaysSomeone (decodeProgram version data).1 := by
  have hversion : ∀ v : Nat, v < 17 → encodeOpN v ≠ opReturn := by decide
  unfold decodeProgram
  split_ifs
  · exact fun _ => by simp [getScriptForDestination, opReturn]
  · exact fun _ => by simp [getScriptForDestination, opReturn]
  · exact paysSomeone_noDestination _
  · exact fun _ => by simp [getScriptForDestination, opReturn, op1]
  · exact fun _ => by simp [getScriptForDestination, encodeOpN, opReturn, op1]
  · exact paysSomeone_noDestination _
  · exact paysSomeone_noDestination _
  · intro _
    simpa [getScriptForDestination] using hversion version (by omega)

theorem paysSomeone_decodeBase58Data (chain : ChainType) (data : Bytes) :
    PaysSomeone (decodeBase58Data chain data).1 := by
  unfold decodeBase58Data
  simp only
  split_ifs
  · exact fun _ => by simp [getScriptForDestination, opReturn, opDup]
  · exact fun _ => by simp [getScriptForDestination, opReturn, opHash160]
  · exact paysSomeone_noDestination _
  · exact paysSomeone_noDestination _

theorem paysSomeone_decodeBech32Data (chain : ChainType) (dec : Bech32.DecodeResult) :
    PaysSomeone (decodeBech32Data chain dec).1 := by
  unfold decodeBech32Data
  split
  · exact paysSomeone_noDestination _
  · simp only
    split_ifs
    · exact paysSomeone_noDestination _
    · exact paysSomeone_noDestination _
    · exact paysSomeone_noDestination _
    · exact paysSomeone_decodeProgram _ _
    · exact paysSomeone_noDestination _

theorem paysSomeone_decodeDestination (codecs : TextCodecs) (chain : ChainType) (str : List Char) :
    PaysSomeone (decodeDestination codecs chain str).1 := by
  unfold decodeDestination
  simp only
  split_ifs
  · cases codecs.decodeBase58Check str 21 with
    | some data => exact paysSomeone_decodeBase58Data chain data
    | none =>
      cases codecs.decodeBase58 str 100 with
      | some data => exact paysSomeone_noDestination _
      | none => exact paysSomeone_noDestination _
  · exact paysSomeone_decodeBech32Data chain _
  · exact paysSomeone_noDestination _

theorem isMintFeeScript_of_head {script : Bytes} (h : script.head? ≠ some opReturn) :
    isMintFeeScript script = false := by
  cases script with
  | nil => rfl
  | cons op script =>
    have hop : op ≠ opReturn := by simpa using h
    simp [isMintFeeScript, hop]

/-- What is known of a transaction that `mintgaruda` has signed. -/
structure BuiltMint (env : Env) (hasher : Hasher) (request : MintRequest) (entropy : MintEntropy)
    (scriptPubKey : Bytes) (tx : CTransaction) (nAmount : Int) (witness : List Bytes) : Prop where
  amount : request.amount = some nAmount
  positive : 0 < nAmount
  script : scriptPubKey.head? ≠ some opReturn
  signed : witness ≠ []
  tx_eq : tx = mintTx hasher entropy (mintVout nAmount env.authority.mintFeePpm scriptPubKey).1 witness

theorem buildMint_spec {codecs : TextCodecs} {chain : ChainType}
    {mode : WalletMode} {feeAmount : Int}
    (h : buildMint env hasher codecs chain mode request entropy = .ok (scriptPubKey, tx, feeAmount)) :
    ∃ nAmount witness, BuiltMint env hasher request entropy scriptPubKey tx nAmount witness := by
  unfold buildMint at h
  obtain ⟨_, -, h⟩ := bind_ok_iff.mp h
  obtain ⟨nAmount, hamount, h⟩ := bind_ok_iff.mp h
  obtain ⟨_, hpositive, h⟩ := bind_ok_iff.mp h
  obtain ⟨_, hvalid, h⟩ := bind_ok_iff.mp h
  obtain ⟨_, -, h⟩ := bind_ok_iff.mp h
  obtain ⟨sig, -, h⟩ := bind_ok_iff.mp h
  obtain ⟨pqc, -, h⟩ := bind_ok_iff.mp h
  simp only [throwIf_eq_ok, decide_eq_false_iff_not, Bool.not_eq_false'] at hpositive hvalid
  cases h
  exact ⟨nAmount, sig :: pqc, (amountFromValue_eq_ok hamount).1, by omega,
    paysSomeone_decodeDestination codecs chain _ hvalid, by simp, rfl⟩

theorem mintFeeAmount_eq {ppm : Int} (hamount : 0 < nAmount) (hlimit : nAmount ≤ maxMintPerTx)
    (hppm : 0 ≤ ppm) (hmax : ppm ≤ 100000) :
    mintFeeAmount nAmount ppm = max 1 (nAmount * ppm / 1000000) := by
  have hnonneg : 0 ≤ nAmount * ppm := Int.mul_nonneg hamount.le hppm
  have hle : nAmount * ppm ≤ maxMintPerTx * 100000 := Int.mul_le_mul hlimit hmax hppm (by decide)
  rw [maxMintPerTx] at hle
  rw [mintFeeAmount, Int.tdiv_eq_ediv_of_nonneg hnonneg, wrap64_of_range (by omega) (by omega)]
  split_ifs <;> omega

theorem BuiltMint.outputs {witness : List Bytes}
    (h : BuiltMint env hasher request entropy scriptPubKey tx nAmount witness) :
    mintedOutputs tx = [⟨nAmount, scriptPubKey⟩] ∧
      mintFeeOutputs tx = if env.authority.mintFeePpm > 0
        then [⟨mintFeeAmount nAmount env.authority.mintFeePpm, mintFeeScript⟩] else [] := by
  have hscript := isMintFeeScript_of_head h.script
  have hfee : isMintFeeScript mintFeeScript = true := by decide
  have hvout : tx.vout = (mintVout nAmount env.authority.mintFeePpm scriptPubKey).1 := by
    rw [h.tx_eq]
    rfl
  rw [mintedOutputs, mintFeeOutputs, hvout, mintVout]
  by_cases hppm : env.authority.mintFeePpm > 0
  · simp [hppm, hscript, hfee]
  · simp [hppm, hscript]

theorem outputsValue_filter_add (p : CTxOut → Bool) (vout : List CTxOut) :
    outputsValue (vout.filter fun out => !p out) + outputsValue (vout.filter p) =
      outputsValue vout := by
  induction vout with
  | nil => rfl
  | cons out vout ih =>
    rw [outputsValue_cons]
    cases hp : p out with
    | true =>
      rw [List.filter_cons_of_neg (by simp [hp]), List.filter_cons_of_pos hp, outputsValue_cons]
      omega
    | false =>
      rw [List.filter_cons_of_pos (by simp [hp]), List.filter_cons_of_neg (by simp [hp]),
        outputsValue_cons]
      omega

theorem BuiltMint.rule {witness : List Bytes}
    (h : BuiltMint env hasher request entropy scriptPubKey tx nAmount witness)
    (hlimit : nAmount ≤ maxMintPerTx) (hppm : 0 ≤ env.authority.mintFeePpm)
    (hmax : env.authority.mintFeePpm ≤ 100000) :
    MintRule env.authority.mintFeePpm tx ∧ outputsValue tx.vout ≤ maxMintPerBlock := by
  obtain ⟨hminted, hfees⟩ := h.outputs
  have hpositive := h.positive
  have htotal : outputsValue (mintedOutputs tx) = nAmount := by simp [hminted]
  have hsplit : outputsValue (mintedOutputs tx) + outputsValue (mintFeeOutputs tx) =
      outputsValue tx.vout := outputsValue_filter_add _ _
  have hnonneg : 0 ≤ nAmount * env.authority.mintFeePpm := Int.mul_nonneg hpositive.le hppm
  have hle : nAmount * env.authority.mintFeePpm ≤ maxMintPerTx * 100000 :=
    Int.mul_le_mul hlimit hmax hppm (by decide)
  have hfee : (env.authority.mintFeePpm = 0 ∧ outputsValue (mintFeeOutputs tx) = 0) ∨
      outputsValue (mintFeeOutputs tx) =
        max 1 (nAmount * env.authority.mintFeePpm / 1000000) := by
    by_cases hpos : env.authority.mintFeePpm > 0
    · right
      rw [hfees, if_pos hpos, outputsValue_cons, outputsValue_nil,
        mintFeeAmount_eq hpositive hlimit hppm hmax, Int.add_zero]
    · left
      rw [hfees, if_neg hpos]
      exact ⟨by omega, rfl⟩
  refine ⟨⟨?_, ?_, by rwa [htotal], ?_⟩, ?_⟩
  · rintro hnil
    simp [mintedOutputs, hnil] at hminted
  · simpa [hminted] using hpositive
  · rw [htotal]
    rcases hfee with ⟨hzero, -⟩ | hfee
    · exact .inl hzero
    · exact .inr (.inr hfee.ge)
  · rw [maxMintPerTx] at hlimit hle
    rw [← hsplit, htotal, maxMintPerBlock]
    rcases hfee with ⟨-, hfee⟩ | hfee <;> rw [hfee] <;> omega

/-- A signed transaction whose fee outputs add up to a 64-bit value passes `CheckCBDCMintInBlock` if
    and only if it satisfies the rule in exact arithmetic, as every transaction that `mintgaruda`
    builds for an amount within the limit does. -/
theorem mintRule_agrees (env : Env) (hppm : 0 ≤ env.authority.mintFeePpm)
    (hmax : env.authority.mintFeePpm ≤ 100000) :
    (∀ tx : CTransaction, verifyCBDCMintSigHybrid env.crypto env.authority tx = .ok () →
      (∀ out ∈ tx.vout, moneyRange out.nValue = true) →
      outputsValue (mintFeeOutputs tx) < 2 ^ 63 →
      (checkCBDCMintInBlock env.crypto env.authority tx = .ok () ↔
        MintRule env.authority.mintFeePpm tx)) ∧
    ∀ (hasher : Hasher) (codecs : TextCodecs) (chain : ChainType) (mode : WalletMode)
      (request : MintRequest) (entropy : MintEntropy) (scriptPubKey : Bytes) (tx : CTransaction)
      (feeAmount : Int),
      (∀ nAmount, request.amount = some nAmount → nAmount ≤ maxMintPerTx) →
      buildMint env hasher codecs chain mode request entropy = .ok (scriptPubKey, tx, feeAmount) →
      MintRule env.authority.mintFeePpm tx ∧ outputsValue tx.vout ≤ maxMintPerBlock := by
  refine ⟨fun tx hsigned hrange hfees => checkCBDCMintInBlock_eq_ok hppm hmax hsigned hrange hfees,
    ?_⟩
  intro hasher codecs chain mode request entropy scriptPubKey tx feeAmount hlimit hbuild
  obtain ⟨nAmount, witness, hmint⟩ := buildMint_spec hbuild
  exact hmint.rule (hlimit nAmount hmint.amount) hppm hmax

def sampleMintRequest : MintRequest where
  amount := some 100000
  strAddr := encodeDestination sampleCodecs .main (.witnessV0KeyHash ⟨List.replicate 20 0x11, rfl⟩)
  privKeyHex := List.replicate 64 '1'
  pqcSkHex := none

def sampleMintEntropy : MintEntropy := ⟨1234567, 42, true, []⟩

theorem mintRule_agrees_sample :
    checkCBDCMintInBlock sampleCrypto (sampleAuthority '1') (relayedMint [List.replicate 64 0x11]) =
        .ok () ∧
      ∃ scriptPubKey tx feeAmount, buildMint (sampleEnv none) sampleHasher sampleCodecs .main .cbdc
          sampleMintRequest sampleMintEntropy = .ok (scriptPubKey, tx, feeAmount) ∧
        MintRule 1000 tx ∧ outputsValue tx.vout ≤ maxMintPerBlock := by
  have hagrees := mintRule_agrees (sampleEnv none) (by decide) (by decide)
  constructor
  · refine (hagrees.1 (relayedMint [List.replicate 64 0x11]) (by decide +kernel) (by decide)
      (by decide)).mpr ⟨by decide, by decide, by decide, by decide⟩
  · have hbuild : (buildMint (sampleEnv none) sampleHasher sampleCodecs .main .cbdc sampleMintRequest
        sampleMintEntropy).toOption.isSome = true := by decide +kernel
    cases hresult : buildMint (sampleEnv none) sampleHasher sampleCodecs .main .cbdc sampleMintRequest
        sampleMintEntropy with
    | error err => simp [hresult, Except.toOption] at hbuild
    | ok r =>
      obtain ⟨scriptPubKey, tx, feeAmount⟩ := r
      refine ⟨scriptPubKey, tx, feeAmount, rfl, ?_⟩
      refine hagrees.2 _ _ _ _ _ _ scriptPubKey tx feeAmount ?_ hresult
      intro nAmount hamount
      cases hamount
      decide

/-- Two fee outputs whose sum does not fit into 64 bits: the counter of the burned fees is negative.
    -/
theorem mintRule_feesWrap :
    ∃ tx : CTransaction,
      verifyCBDCMintSigHybrid sampleCrypto (sampleAuthority '1') tx = .ok () ∧
      (∀ out ∈ tx.vout, moneyRange out.nValue = true) ∧
      MintRule 1000 tx ∧
      checkCBDCMintInBlock sampleCrypto (sampleAuthority '1') tx =
        .error (.blockInvalid .consensus "cbdc-mint-insufficient-fee") := by
  refine ⟨sampleMint 0x20 [] [sampleOut 100000, sampleFeeOut 9000000000000000000,
    sampleFeeOut 9000000000000000000], by decide, by decide, ⟨by decide, by decide, by decide,
    by decide⟩, by decide⟩

/-- The header with this nonce meets the target. -/
def NonceSolves (env : Env) (hasher : Hasher) (block : CBlock) (nonce : Nat) : Prop :=
  checkProofOfWork (hasher.headerHash { block with nNonce := nonce, hash := 0 }) block.nBits
    env.params.powLimit = true

theorem grindNonce_isSome_iff (env : Env) (hasher : Hasher) (rounds : Nat) :
    ∀ block : CBlock, block.nNonce < 2 ^ 32 →
      ((grindNonce env hasher rounds block).isSome = true ↔
        ∃ k < rounds, NonceSolves env hasher block ((block.nNonce + k) % 2 ^ 32)) := by
  induction rounds with
  | zero => simp [grindNonce]
  | succ rounds ih =>
    intro block hnonce
    have hfirst : NonceSolves env hasher block ((block.nNonce + 0) % 2 ^ 32) ↔
        checkProofOfWork (hasher.headerHash { block with hash := 0 }) block.nBits
          env.params.powLimit = true := by
      rw [Nat.add_zero, Nat.mod_eq_of_lt hnonce]
      rfl
    have hrest : ∀ k, (block.nNonce + (k + 1)) % 2 ^ 32 =
        ((block.nNonce + 1) % 2 ^ 32 + k) % 2 ^ 32 := by
      intro k
      rw [Nat.mod_add_mod]
      congr 1
      omega
    have hround : grindNonce env hasher (rounds + 1) block =
        if checkProofOfWork (hasher.headerHash { block with hash := 0 }) block.nBits
            env.params.powLimit = true then
          some { block with hash := hasher.headerHash { block with hash := 0 } }
        else grindNonce env hasher rounds { block with
          hash := hasher.headerHash { block with hash := 0 }
          nNonce := (block.nNonce + 1) % 2 ^ 32 } := rfl
    rw [hround, Nat.exists_lt_succ_left, hfirst]
    by_cases hsolved : checkProofOfWork (hasher.headerHash { block with hash := 0 }) block.nBits
        env.params.powLimit = true
    · rw [if_pos hsolved]
      exact ⟨fun _ => .inl hsolved, fun _ => rfl⟩
    · rw [if_neg hsolved, ih _ (Nat.mod_lt _ (by decide))]
      constructor
      · rintro ⟨k, hk, hsolves⟩
        refine .inr ⟨k, hk, ?_⟩
        rw [hrest]
        exact hsolves
      · rintro (hnow | ⟨k, hk, hsolves⟩)
        · exact absurd hnow hsolved
        · rw [hrest] at hsolves
          exact ⟨k, hk, hsolves⟩

/-- The loop ends, within `2 ^ 32` rounds, exactly where some nonce meets the target. -/
theorem grindNonce_ends_iff (env : Env) (hasher : Hasher) (block : CBlock)
    (hnonce : block.nNonce < 2 ^ 32) :
    ((∃ rounds, (grindNonce env hasher rounds block).isSome = true) ↔
        ∃ nonce < 2 ^ 32, NonceSolves env hasher block nonce) ∧
      ((∃ nonce < 2 ^ 32, NonceSolves env hasher block nonce) →
        (grindNonce env hasher (2 ^ 32) block).isSome = true) := by
  have hwithin : (∃ nonce < 2 ^ 32, NonceSolves env hasher block nonce) →
      (grindNonce env hasher (2 ^ 32) block).isSome = true := by
    rintro ⟨nonce, hlt, hsolves⟩
    rw [grindNonce_isSome_iff env hasher (2 ^ 32) block hnonce]
    -- the round in which the counter has come to this nonce
    refine ⟨(nonce + 2 ^ 32 - block.nNonce) % 2 ^ 32, Nat.mod_lt _ (by decide), ?_⟩
    have hround : (block.nNonce + (nonce + 2 ^ 32 - block.nNonce) % 2 ^ 32) % 2 ^ 32 = nonce := by
      omega
    rw [hround]
    exact hsolves
  refine ⟨⟨?_, fun h => ⟨2 ^ 32, hwithin h⟩⟩, hwithin⟩
  rintro ⟨rounds, hended⟩
  obtain ⟨k, -, hsolves⟩ := (grindNonce_isSome_iff env hasher rounds block hnonce).mp hended
  exact ⟨_, Nat.mod_lt _ (by decide), hsolves⟩

def sampleHeader : CBlock := ⟨4, 0, 0, 1700000600, 0x1e0fffff, 0, 0, []⟩

def luckyHasher (nonce : Nat) : Hasher :=
  { sampleHasher with headerHash := fun block => if block.nNonce = nonce then 0 else -1 }

theorem grindNonce_ends_sample :
    (grindNonce (sampleEnv none) (luckyHasher 3) (2 ^ 32) sampleHeader).isSome = true :=
  (grindNonce_ends_iff (sampleEnv none) (luckyHasher 3) sampleHeader (by decide)).2
    ⟨3, by decide, by unfold NonceSolves; decide⟩

/-- Where no nonce meets the target, the loop goes on after any number of rounds. -/
theorem grindNonce_neverEnds :
    ¬ ∃ rounds, (grindNonce (sampleEnv none) (luckyHasher (2 ^ 32)) rounds sampleHeader).isSome = true := by
  rintro ⟨rounds, hended⟩
  obtain ⟨k, -, hsolves⟩ := (grindNonce_isSome_iff _ _ _ _ (by decide)).mp hended
  have hlt : (sampleHeader.nNonce + k) % 2 ^ 32 ≠ 2 ^ 32 := (Nat.mod_lt _ (by decide)).ne
  unfold NonceSolves luckyHasher at hsolves
  simp only [if_neg hlt] at hsolves
  exact absurd hsolves (by decide)

end GarudaChain
