import GarudaChain.Node.Miner
import GarudaChain.Node.Proofs.ConnectProofs

/-!
# What a block template looks like
-/

namespace GarudaChain

theorem getScriptOp_pushData {data : Bytes} (rest : Bytes) (h : data.length < 76) :
    getScriptOp (pushData data ++ rest) = some (UInt8.ofNat data.length, data, rest) := by
  have hop : (UInt8.ofNat data.length).toNat = data.length := by
    simp only [UInt8.toNat_ofNat']
    omega
  have hlt : UInt8.ofNat data.length < opPushData1 := by
    rw [UInt8.lt_iff_toNat_lt, hop]
    exact h
  have hsize : pushSize (UInt8.ofNat data.length) (data ++ rest) = some (data.length, data ++ rest) := by
    rw [pushSize, if_pos hlt, hop]
  simp [pushData, getScriptOp, hsize]

theorem isWitnessCommitment_apbnScript : isWitnessCommitment apbnScript = false := by decide

theorem isWitnessCommitment_stateScript (host : Host) :
    isWitnessCommitment (stateScript host) = false := by
  have htag : (stateScript host).take 6 ≠ witnessCommitmentTag := by
    simp [stateScript, pushData, witnessCommitmentTag]
  simp [isWitnessCommitment, htag]

theorem witnessCommitmentLoop_none (vout : List CTxOut) : ∀ (o : Nat) (commitpos : Option Nat),
    (∀ out ∈ vout, isWitnessCommitment out.scriptPubKey = false) →
      witnessCommitmentLoop o vout commitpos = commitpos := by
  induction vout with
  | nil => intro o commitpos _; rfl
  | cons out vout ih =>
    intro o commitpos hno
    have hout := hno out List.mem_cons_self
    rw [witnessCommitmentLoop, hout]
    exact ih (o + 1) commitpos fun t ht => hno t (List.mem_cons_of_mem _ ht)

theorem witnessCommitmentLoop_last (vout : List CTxOut) {out : CTxOut}
    (hout : isWitnessCommitment out.scriptPubKey = true) :
    ∀ (o : Nat) (commitpos : Option Nat),
      witnessCommitmentLoop o (vout ++ [out]) commitpos = some (o + vout.length) := by
  induction vout with
  | nil => intro o commitpos; simp [witnessCommitmentLoop, hout]
  | cons a vout ih =>
    intro o commitpos
    rw [List.cons_append, witnessCommitmentLoop, ih, List.length_cons]
    congr 1
    omega

def payouts (host : Host) (nSubsidy nFees : Int) (scriptPubKeyIn : Bytes) : List CTxOut :=
  ⟨minerReward nSubsidy nFees, scriptPubKeyIn⟩ ::
    (if apbnFee nFees > 0 then [⟨apbnFee nFees, apbnScript⟩] else []) ++ [⟨0, stateScript host⟩]

theorem notCommitment_of_mem_tail {host : Host} {nFees : Int} {out : CTxOut}
    (h : out ∈ (if apbnFee nFees > 0 then [⟨apbnFee nFees, apbnScript⟩] else []) ++
      [(⟨0, stateScript host⟩ : CTxOut)]) : isWitnessCommitment out.scriptPubKey = false := by
  rcases List.mem_append.mp h with h | h
  · split at h
    · rw [List.mem_singleton.mp h]
      exact isWitnessCommitment_apbnScript
    · cases h
  · rw [List.mem_singleton.mp h]
    exact isWitnessCommitment_stateScript host

theorem witnessCommitmentLoop_payouts (host : Host) (nSubsidy nFees : Int)
    (scriptPubKeyIn : Bytes) :
    witnessCommitmentLoop 0 (payouts host nSubsidy nFees scriptPubKeyIn) none =
      if isWitnessCommitment scriptPubKeyIn then some 0 else none := by
  rw [payouts, List.cons_append, witnessCommitmentLoop]
  exact witnessCommitmentLoop_none _ _ _ fun out hout => notCommitment_of_mem_tail hout

def commitmentOut (crypto : Crypto) (hasher : Hasher) (vtx : List CTransaction) : CTxOut :=
  ⟨0, witnessCommitmentTag ++ uint256Bytes (hasher.hash256 (uint256Bytes
    (computeMerkleRoot crypto.sha256D64 (0 :: vtx.map CTransaction.witnessHash)).1 ++ witnessNonce))⟩

theorem isWitnessCommitment_commitmentOut (crypto : Crypto) (hasher : Hasher)
    (vtx : List CTransaction) :
    isWitnessCommitment (commitmentOut crypto hasher vtx).scriptPubKey = true := by
  simp [isWitnessCommitment, commitmentOut, witnessCommitmentTag]

/-- What the coinbase of a template looks like. Its hash is that of some coinbase of the same height. -/
structure TemplateCoinbase (env : Env) (host : Host) (tip : CBlockIndex) (nSubsidy nFees : Int)
    (scriptPubKeyIn : Bytes) (vtx : List CTransaction) (coinbase : CTransaction) : Prop where
  vin : coinbase.vin = [⟨⟨0, nullIndex⟩, pushInt64 (tip.nHeight + 1) ++ [0], sequenceFinal,
    if deploymentActiveAfter env.params tip .segwit then [witnessNonce] else []⟩]
  vout : coinbase.vout = payouts host nSubsidy nFees scriptPubKeyIn ++
    if isWitnessCommitment scriptPubKeyIn then [] else [commitmentOut env.crypto host.hasher vtx]
  nLockTime : coinbase.nLockTime = 0
  hash : ∃ cb : CTransaction, cb.isCoinBase = true ∧
    coinbaseScriptSig [cb] = pushInt64 (tip.nHeight + 1) ++ [0] ∧
    coinbase.hash = host.hasher.computeHash cb

theorem updateUncommittedBlockStructures_spec {env : Env} {host : Host} {tip : CBlockIndex}
    {nSubsidy nFees : Int} {scriptPubKeyIn : Bytes} {vtx : List CTransaction}
    {coinbase : CTransaction}
    (hvin : coinbase.vin =
      [⟨⟨0, nullIndex⟩, pushInt64 (tip.nHeight + 1) ++ [0], sequenceFinal, []⟩])
    (hvout : coinbase.vout = payouts host nSubsidy nFees scriptPubKeyIn ++
      if isWitnessCommitment scriptPubKeyIn then [] else [commitmentOut env.crypto host.hasher vtx])
    (hlock : coinbase.nLockTime = 0)
    (hhash : ∃ cb : CTransaction, cb.isCoinBase = true ∧
      coinbaseScriptSig [cb] = pushInt64 (tip.nHeight + 1) ++ [0] ∧
      coinbase.hash = host.hasher.computeHash cb)
    (hsome : (getWitnessCommitmentIndex [coinbase]).isSome = true) :
    TemplateCoinbase env host tip nSubsidy nFees scriptPubKeyIn vtx
      (updateUncommittedBlockStructures env.params host.hasher tip coinbase) := by
  have hnowit : coinbase.hasWitness = false := by simp [CTransaction.hasWitness, hvin]
  unfold updateUncommittedBlockStructures
  by_cases hseg : deploymentActiveAfter env.params tip .segwit = true
  · rw [hsome, hseg, hnowit, if_pos (by decide), hvin]
    refine ⟨by simp [Hasher.makeTransactionRef, hseg], hvout, hlock, _, ?_, ?_, rfl⟩
    · rfl
    · rfl
  · rw [Bool.not_eq_true] at hseg
    rw [hsome, hseg, if_neg (by simp)]
    exact ⟨by rw [hvin, hseg]; rfl, hvout, hlock, hhash⟩

theorem generateCoinbaseCommitment_spec (env : Env) (host : Host) (tip : CBlockIndex)
    (nSubsidy nFees : Int) (scriptPubKeyIn : Bytes) (vtx : List CTransaction) :
    TemplateCoinbase env host tip nSubsidy nFees scriptPubKeyIn vtx
      (generateCoinbaseCommitment env host.hasher tip
        (coinbaseTx host (tip.nHeight + 1) nSubsidy nFees scriptPubKeyIn) vtx).1 := by
  have hindex : getWitnessCommitmentIndex
      [coinbaseTx host (tip.nHeight + 1) nSubsidy nFees scriptPubKeyIn] =
        if isWitnessCommitment scriptPubKeyIn then some 0 else none :=
    witnessCommitmentLoop_payouts host nSubsidy nFees scriptPubKeyIn
  unfold generateCoinbaseCommitment
  by_cases hcommit : isWitnessCommitment scriptPubKeyIn = true
  · rw [hindex, if_pos hcommit]
    refine updateUncommittedBlockStructures_spec rfl ?_ rfl ⟨_, ?_, ?_, rfl⟩ ?_
    · rw [if_pos hcommit, List.append_nil]
      rfl
    · rfl
    · rfl
    · rw [hindex, if_pos hcommit]
      rfl
  · rw [hindex, if_neg hcommit]
    refine updateUncommittedBlockStructures_spec rfl ?_ rfl ⟨_, ?_, ?_, rfl⟩ ?_
    · rw [if_neg hcommit]
      rfl
    · rfl
    · rfl
    · have hlast := witnessCommitmentLoop_last (payouts host nSubsidy nFees scriptPubKeyIn)
        (isWitnessCommitment_commitmentOut env.crypto host.hasher vtx) 0 none
      exact Option.isSome_of_eq_some hlast

/-- The total that a coinbase pays out. -/
def coinbaseTotal (nSubsidy nFees : Int) : Int :=
  minerReward nSubsidy nFees + max (apbnFee nFees) 0

theorem stateScript_length (host : Host) : (stateScript host).length = 70 := by
  simp [stateScript, pushData]

namespace TemplateCoinbase

variable {env : Env} {host : Host} {tip : CBlockIndex} {nSubsidy nFees : Int}
  {scriptPubKeyIn : Bytes} {vtx : List CTransaction} {coinbase : CTransaction}

theorem outputsValue (h : TemplateCoinbase env host tip nSubsidy nFees scriptPubKeyIn vtx coinbase) :
    outputsValue coinbase.vout = coinbaseTotal nSubsidy nFees := by
  have hcommit : (commitmentOut env.crypto host.hasher vtx).nValue = 0 := rfl
  rw [h.vout, payouts, coinbaseTotal]
  by_cases hfee : apbnFee nFees > 0
  · have hmax : max (apbnFee nFees) 0 = apbnFee nFees := by omega
    by_cases hc : isWitnessCommitment scriptPubKeyIn = true <;>
      simp [GarudaChain.outputsValue, hfee, hc, hcommit, hmax]
  · have hmax : max (apbnFee nFees) 0 = 0 := by omega
    by_cases hc : isWitnessCommitment scriptPubKeyIn = true <;>
      simp [GarudaChain.outputsValue, hfee, hc, hcommit, hmax]

theorem value_cases (h : TemplateCoinbase env host tip nSubsidy nFees scriptPubKeyIn vtx coinbase)
    {out : CTxOut} (hout : out ∈ coinbase.vout) : out.nValue = minerReward nSubsidy nFees ∨
      out.nValue = 0 ∨ apbnFee nFees > 0 ∧ out.nValue = apbnFee nFees := by
  rw [h.vout, payouts] at hout
  rcases List.mem_append.mp hout with hout | hout
  · rcases List.mem_append.mp hout with hout | hout
    · rcases List.mem_cons.mp hout with rfl | hout
      · exact Or.inl rfl
      · split at hout
        · next hfee =>
          rw [List.mem_singleton.mp hout]
          exact Or.inr (Or.inr ⟨hfee, rfl⟩)
        · cases hout
    · rw [List.mem_singleton.mp hout]
      exact Or.inr (Or.inl rfl)
  · split at hout
    · cases hout
    · rw [List.mem_singleton.mp hout]
      exact Or.inr (Or.inl rfl)

theorem amounts_iff
    (h : TemplateCoinbase env host tip nSubsidy nFees scriptPubKeyIn vtx coinbase) :
    (∀ out ∈ coinbase.vout, moneyRange out.nValue = true) ∧
        moneyRange (GarudaChain.outputsValue coinbase.vout) = true ↔
      0 ≤ minerReward nSubsidy nFees ∧ coinbaseTotal nSubsidy nFees ≤ maxMoney := by
  rw [h.outputsValue]
  constructor
  · rintro ⟨hall, htotal⟩
    have hminer := hall ⟨minerReward nSubsidy nFees, scriptPubKeyIn⟩ (by simp [h.vout, payouts])
    rw [moneyRange_iff] at hminer htotal
    exact ⟨hminer.1, by rw [maxMoney_eq]; exact htotal.2⟩
  · rintro ⟨hminer, htotal⟩
    rw [maxMoney_eq, coinbaseTotal] at htotal
    refine ⟨fun out hout => ?_, by rw [moneyRange_iff, coinbaseTotal]; omega⟩
    rw [moneyRange_iff]
    rcases h.value_cases hout with heq | heq | ⟨hfee, heq⟩ <;> omega

end TemplateCoinbase

end GarudaChain
