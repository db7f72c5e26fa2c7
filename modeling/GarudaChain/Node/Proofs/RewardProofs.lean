import GarudaChain.Node.Proofs.AssemblyProofs

/-!
# What the coinbase of a template pays
-/

namespace GarudaChain

open Int64Lib

def apbnOutput (coinbase : CTransaction) : Option CTxOut :=
  coinbase.vout[1]?.filter fun out => out.scriptPubKey == apbnScript

/-- The coinbase pays exactly the subsidy and the fees, 30% of these to the state budget. -/
structure ExactSplit (nSubsidy nFees : Int) (coinbase : CTransaction) : Prop where
  nonneg : ∀ out ∈ coinbase.vout, 0 ≤ out.nValue
  total : outputsValue coinbase.vout = nSubsidy + nFees
  apbn : ∀ out, apbnOutput coinbase = some out → out.nValue = 30 * nFees / 100

theorem apbnFee_eq {nFees : Int} (hfees : 0 ≤ nFees) (hfits : 30 * nFees < 2 ^ 63) :
    apbnFee nFees = 30 * nFees / 100 := by
  rw [apbnFee, Int.mul_comm, wrap64_of_range (by omega) (by omega),
    Int.tdiv_eq_ediv_of_nonneg (by omega)]

/-- The share of the state budget, a quotient that is cut towards zero. -/
theorem apbnFee_cases (nFees : Int) :
    (0 ≤ wrap64 (30 * nFees) ∧ apbnFee nFees = wrap64 (30 * nFees) / 100) ∨
      (wrap64 (30 * nFees) < 0 ∧ apbnFee nFees = -(-wrap64 (30 * nFees) / 100)) := by
  have hfee : apbnFee nFees = (wrap64 (30 * nFees)).tdiv 100 := by
    rw [apbnFee, Int.mul_comm 30]
  rw [hfee]
  rcases le_or_gt 0 (wrap64 (30 * nFees)) with hpos | hneg
  · exact .inl ⟨hpos, Int.tdiv_eq_ediv_of_nonneg hpos⟩
  · refine .inr ⟨hneg, ?_⟩
    rw [← Int.tdiv_eq_ediv_of_nonneg (by omega), Int.neg_tdiv, neg_neg]

section Coinbase

variable {env : Env} {host : Host} {tip : CBlockIndex} {nSubsidy nFees : Int}
  {scriptPubKeyIn : Bytes} {vtx : List CTransaction} {coinbase : CTransaction}

theorem TemplateCoinbase.apbnOutput_eq
    (h : TemplateCoinbase env host tip nSubsidy nFees scriptPubKeyIn vtx coinbase) :
    apbnOutput coinbase =
      if apbnFee nFees > 0 then some ⟨apbnFee nFees, apbnScript⟩ else none := by
  have hstate : stateScript host ≠ apbnScript := by
    intro heq
    have hlen := congrArg List.length heq
    rw [stateScript_length] at hlen
    exact absurd hlen (by decide)
  rw [apbnOutput, h.vout, payouts]
  by_cases hfee : apbnFee nFees > 0
  · simp [hfee]
  · simp [hfee, hstate]

theorem TemplateCoinbase.nonneg_iff
    (h : TemplateCoinbase env host tip nSubsidy nFees scriptPubKeyIn vtx coinbase) :
    (∀ out ∈ coinbase.vout, 0 ≤ out.nValue) ↔ 0 ≤ minerReward nSubsidy nFees := by
  constructor
  · intro hall
    exact hall ⟨minerReward nSubsidy nFees, scriptPubKeyIn⟩ (by simp [h.vout, payouts])
  · intro hminer out hout
    rcases h.value_cases hout with heq | heq | ⟨hfee, heq⟩ <;> omega

theorem TemplateCoinbase.exactSplit_iff
    (h : TemplateCoinbase env host tip nSubsidy nFees scriptPubKeyIn vtx coinbase)
    (hfees : 0 ≤ nFees) (hlow : -2 ^ 63 ≤ nSubsidy + nFees) (hhigh : nSubsidy + nFees < 2 ^ 63) :
    ExactSplit nSubsidy nFees coinbase ↔
      (30 * nFees < 2 ^ 63 ∧ 30 * nFees / 100 ≤ nSubsidy + nFees) ∨
        (|wrap64 (30 * nFees)| < 100 ∧ 0 ≤ nSubsidy + nFees) := by
  have hsum : wrap64 (nSubsidy + nFees) = nSubsidy + nFees := wrap64_of_range hlow hhigh
  have hreward : minerReward nSubsidy nFees = wrap64 (nSubsidy + nFees - apbnFee nFees) := by
    rw [minerReward, hsum]
  have hsplit : ExactSplit nSubsidy nFees coinbase ↔ 0 ≤ minerReward nSubsidy nFees ∧
      coinbaseTotal nSubsidy nFees = nSubsidy + nFees ∧
      (0 < apbnFee nFees → apbnFee nFees = 30 * nFees / 100) := by
    constructor
    · intro hexact
      refine ⟨h.nonneg_iff.mp hexact.nonneg, h.outputsValue.symm.trans hexact.total, fun hpos => ?_⟩
      exact hexact.apbn ⟨apbnFee nFees, apbnScript⟩ (by rw [h.apbnOutput_eq, if_pos hpos])
    · rintro ⟨hminer, htotal, hapbn⟩
      refine ⟨h.nonneg_iff.mpr hminer, h.outputsValue.trans htotal, fun out hout => ?_⟩
      rw [h.apbnOutput_eq] at hout
      split at hout
      · cases hout
        exact hapbn ‹_›
      · cases hout
  have hfee := apbnFee_cases nFees
  obtain ⟨k, hcast⟩ := wrap64_eq_sub (30 * nFees)
  have hcast64 := wrap64_range (30 * nFees)
  have hrange := wrap64_range (nSubsidy + nFees - apbnFee nFees)
  obtain ⟨l, hwrap⟩ := wrap64_eq_sub (nSubsidy + nFees - apbnFee nFees)
  rw [hsplit, coinbaseTotal, hreward, abs_lt]
  clear hsplit hreward hsum
  rcases hfee with ⟨hpos, hfee⟩ | ⟨hneg, hfee⟩ <;>
    rcases lt_trichotomy k 0 with hk | rfl | hk <;>
    rcases lt_trichotomy l 0 with hl | rfl | hl <;> omega

end Coinbase

/-- The coinbase of `CreateNewBlock` splits the subsidy and the fees exactly just where thirty times
    the fees fit in `int64_t` and the share of the state budget is covered, or where the cast of that
    product leaves less than a satoshi to be shared. -/
theorem coinbase_exactSplit_iff (env : Env) (host : Host) (tip : CBlockIndex) {nSubsidy nFees : Int}
    (scriptPubKeyIn : Bytes) (vtx : List CTransaction) (hrange : moneyRange nFees = true)
    (hlow : -2 ^ 63 ≤ nSubsidy + nFees) (hhigh : nSubsidy + nFees < 2 ^ 63) :
    ExactSplit nSubsidy nFees (generateCoinbaseCommitment env host.hasher tip
        (coinbaseTx host (tip.nHeight + 1) nSubsidy nFees scriptPubKeyIn) vtx).1 ↔
      (30 * nFees < 2 ^ 63 ∧ 30 * nFees / 100 ≤ nSubsidy + nFees) ∨
        (|wrap64 (30 * nFees)| < 100 ∧ 0 ≤ nSubsidy + nFees) :=
  (generateCoinbaseCommitment_spec env host tip nSubsidy nFees scriptPubKeyIn vtx).exactSplit_iff
    ((moneyRange_iff _).mp hrange).1 hlow hhigh

theorem coinbase_exactSplit_sample :
    ExactSplit 1000000 1000 (generateCoinbaseCommitment (sampleEnv none) sampleHasher relayTip
      (coinbaseTx sampleHost (relayTip.nHeight + 1) 1000000 1000 sampleKeyhash) [relayedSpend]).1 :=
  (coinbase_exactSplit_iff (sampleEnv none) sampleHost relayTip sampleKeyhash [relayedSpend]
    (by decide) (by decide) (by decide)).mpr (.inl (by decide))

/-- For fees just above the range of the product, the miner is to get more than there is. -/
theorem coinbase_split_wraps :
    moneyRange 307445734561825861 = true ∧ (1000000 + 307445734561825861 : Int) < 2 ^ 63 ∧
    ¬ ExactSplit 1000000 307445734561825861 (generateCoinbaseCommitment (sampleEnv none) sampleHasher
      relayTip (coinbaseTx sampleHost (relayTip.nHeight + 1) 1000000 307445734561825861 sampleKeyhash)
        []).1 := by
  refine ⟨by decide, by decide, fun hsplit => absurd hsplit.total ?_⟩
  decide

end GarudaChain
