import GarudaChain.Node.Chain
import GarudaChain.Node.Proofs.ConnectProofs

/-!
# The limits on mint transactions
-/

namespace GarudaChain

open Int64Lib

def mintedOutputs (tx : CTransaction) : List CTxOut :=
  tx.vout.filter fun out => !isMintFeeScript out.scriptPubKey

/-- The outputs of all the mint transactions of a list. -/
def mintOutputs (vtx : List CTransaction) : List CTxOut :=
  (vtx.filter isCBDCMintTx).flatMap CTransaction.vout

def connectedVtx (env : Env) (block : CBlock) : List CTransaction :=
  if isGenesis env block then [] else block.vtx

theorem mintOutputsLoop_eq_ok (vout : List CTxOut) : ∀ (totalMint fee : Int) (totals : Int × Int),
    0 ≤ totalMint → totalMint ≤ maxMintPerTx →
    (mintOutputsLoop vout (totalMint, fee) = .ok totals ↔
      (∀ out ∈ vout.filter fun out => !isMintFeeScript out.scriptPubKey, 0 < out.nValue) ∧
      totalMint + outputsValue (vout.filter fun out => !isMintFeeScript out.scriptPubKey) ≤
        maxMintPerTx ∧
      totals = (totalMint + outputsValue (vout.filter fun out => !isMintFeeScript out.scriptPubKey),
        (vout.filter fun out => isMintFeeScript out.scriptPubKey).foldl
          (fun total out => wrap64 (total + out.nValue)) fee)) := by
  induction vout with
  | nil =>
    intro totalMint fee totals _ hle
    simp [mintOutputsLoop, hle, eq_comm]
  | cons out vout ih =>
    intro totalMint fee totals hge hle
    rw [mintOutputsLoop]
    split
    · next hfee =>
      rw [ih _ _ _ hge hle, List.filter_cons_of_neg (by simp [hfee]),
        List.filter_cons_of_pos (by simp [hfee]), List.foldl_cons]
    · next hfee =>
      rw [List.filter_cons_of_pos (by simp [hfee]), List.filter_cons_of_neg (by simp [hfee]),
        List.forall_mem_cons, outputsValue_cons]
      simp only [bind_eq_ok, rejectBlockIf_eq_ok, decide_eq_false_iff_not, exists_const]
      rw [maxMintPerTx] at hle ⊢
      -- neither the difference nor the new total leaves the range
      rw [wrap64_of_range (by omega) (by omega), Int.not_le]
      by_cases hpos : 0 < out.nValue
      · by_cases hexceeds : out.nValue > 100000000000000000 - totalMint
        · constructor
          · rintro ⟨-, hle, -⟩
            exact absurd hexceeds hle
          · rintro ⟨⟨-, hall⟩, hle, -⟩
            have := outputsValue_nonneg fun o ho => (hall o ho).le
            omega
        · rw [wrap64_of_range (by omega) (by omega),
            ih _ _ _ (by omega) (by rw [maxMintPerTx]; omega), maxMintPerTx, Int.add_assoc]
          simp [hpos, hexceeds]
      · simp [hpos]

/-- What `CheckCBDCMintInBlock` establishes about the amounts and the signatures. -/
structure CheckedMint (crypto : Crypto) (auth : AuthorityState) (tx : CTransaction) : Prop where
  signed : verifyCBDCMintSigHybrid crypto auth tx = .ok ()
  positive : ∀ out ∈ mintedOutputs tx, 0 < out.nValue
  limit : outputsValue (mintedOutputs tx) ≤ maxMintPerTx

theorem checkCBDCMintInBlock_spec {crypto : Crypto} {auth : AuthorityState} {tx : CTransaction}
    {u : Unit} (h : checkCBDCMintInBlock crypto auth tx = .ok u) : CheckedMint crypto auth tx := by
  rw [checkCBDCMintInBlock] at h
  split at h
  · cases h
  · next hsig =>
    obtain ⟨_, -, h⟩ := bind_eq_ok.mp h
    obtain ⟨totals, hloop, -⟩ := bind_eq_ok.mp h
    obtain ⟨hpos, hlimit, -⟩ :=
      (mintOutputsLoop_eq_ok tx.vout 0 0 totals (by decide) (by decide)).mp hloop
    rw [Int.zero_add] at hlimit
    exact ⟨hsig, hpos, hlimit⟩

theorem isUnspendable_of_isMintFeeScript {s : Bytes} (h : isMintFeeScript s = true) :
    isUnspendable s = true := by
  cases s with
  | nil => simp [isMintFeeScript] at h
  | cons op s =>
    simp only [isMintFeeScript, List.take_succ_cons, beq_iff_eq, List.cons.injEq] at h
    simp [isUnspendable, h.1]

theorem foldl_wrap64 (vout : List CTxOut) (total : Int) :
    vout.foldl (fun total out => wrap64 (total + out.nValue)) (wrap64 total) =
      wrap64 (total + outputsValue vout) := foldl_wrap64_add CTxOut.nValue vout total

theorem TxsConnected.mint_counters {env : Env} {pindex : CBlockIndex} {vtx : List CTransaction}
    {st st' : ConnectState} {vtxundo : List CTxUndo}
    (h : TxsConnected env pindex vtx st st' vtxundo) : ∀ total : Int,
      st.cbdcMintCount ≤ maxMintTxsPerBlock → st.cbdcMintTotal = wrap64 total →
      st.cbdcMintTotal ≤ maxMintPerBlock →
      st'.cbdcMintCount = st.cbdcMintCount + (vtx.filter isCBDCMintTx).length ∧
      st'.cbdcMintCount ≤ maxMintTxsPerBlock ∧
      st'.cbdcMintTotal = wrap64 (total + outputsValue (mintOutputs vtx)) ∧
      st'.cbdcMintTotal ≤ maxMintPerBlock := by
  induction h with
  | nil st => intro total hcount htotal hlimit; exact ⟨by simp, hcount, by simpa [mintOutputs], hlimit⟩
  | @cons tx vtx st st₁ st₂ txundo vtxundo hd tl ih =>
    intro total hcount htotal hlimit
    have hother : isCBDCMintTx tx = false → st₁.cbdcMintCount = st.cbdcMintCount →
        st₁.cbdcMintTotal = st.cbdcMintTotal →
        st₂.cbdcMintCount = st.cbdcMintCount + ((tx :: vtx).filter isCBDCMintTx).length ∧
        st₂.cbdcMintCount ≤ maxMintTxsPerBlock ∧
        st₂.cbdcMintTotal = wrap64 (total + outputsValue (mintOutputs (tx :: vtx))) ∧
        st₂.cbdcMintTotal ≤ maxMintPerBlock := by
      intro hmint hc ht
      rw [mintOutputs, List.filter_cons_of_neg (by simp [hmint])]
      rw [← hc]
      rw [← ht] at htotal hlimit
      exact ih total (by omega) htotal hlimit
    cases hd.passed with
    | coinbase hcb hfees hc ht => exact hother (isCBDCMintTx_of_isCoinBase hcb) hc ht
    | ordinary hord txfee hcheck hfees hrange hc ht =>
      refine hother ?_ hc ht
      simp only [isOrdinary, Bool.and_eq_true, Bool.not_eq_true'] at hord
      exact hord.2
    | mint hmint hcheck hfees hc hmax ht hlim =>
      rw [htotal, foldl_wrap64] at ht
      obtain ⟨h1, h2, h3, h4⟩ := ih _ hmax ht hlim
      rw [mintOutputs, List.filter_cons_of_pos hmint, List.flatMap_cons, List.length_cons]
      refine ⟨by push_cast; omega, h2, ?_, h4⟩
      rw [h3, mintOutputs, outputsValue_append]
      congr 1
      omega

/-- What an accepted block's mint transactions satisfy, their sum being wrapped. -/
structure MintsAccepted (env : Env) (vtx : List CTransaction) : Prop where
  checked : ∀ tx ∈ vtx, isCBDCMintTx tx = true → CheckedMint env.crypto env.authority tx
  amounts : ∀ out ∈ mintOutputs vtx, moneyRange out.nValue = true
  count : ((vtx.filter isCBDCMintTx).length : Int) ≤ maxMintTxsPerBlock
  total : wrap64 (outputsValue (mintOutputs vtx)) ≤ maxMintPerBlock

theorem mintsAccepted_of_connectBlock {env : Env} {block : CBlock} {pindex : CBlockIndex}
    {view view' : CCoinsView} {fJustCheck : Bool} {undo : Option CBlockUndo}
    (h : connectBlock env block pindex view fJustCheck = .ok (view', undo)) :
    MintsAccepted env (connectedVtx env block) := by
  rcases connectBlock_cases h with ⟨hgen, -, -⟩ | ⟨hgen, vtxundo, prev, coinbase, vtx, st₀, st,
    undo₀, -, hb⟩
  · rw [connectedVtx, isGenesis, if_pos (by simpa using hgen)]
    exact ⟨by simp, by simp [mintOutputs], by decide, by decide⟩
  · rw [connectedVtx, isGenesis, if_neg (by simpa using hgen), hb.vtx_eq]
    have hall : TxsConnected env pindex (coinbase :: vtx) (.init view.coins) st (undo₀ :: vtxundo) :=
      .cons hb.first hb.rest
    obtain ⟨hcount, hmax, htotal, hlimit⟩ := hall.mint_counters 0
      (by simp [ConnectState.init, maxMintTxsPerBlock]) (by simp [ConnectState.init, wrap64])
      (by simp [ConnectState.init, maxMintPerBlock])
    refine ⟨fun tx htx hmint => checkCBDCMintInBlock_spec (hall.mintsPass tx htx hmint), ?_, ?_, ?_⟩
    · intro out hout
      obtain ⟨tx, htx, hmem⟩ := List.mem_flatMap.mp hout
      exact (hb.checked tx (hb.vtx_eq ▸ List.mem_of_mem_filter htx)).amounts out hmem
    · simp only [ConnectState.init] at hcount
      omega
    · rw [Int.zero_add] at htotal
      rwa [← htotal]

/-- The limits that the constants state, with exact sums. -/
structure MintLimits (vtx : List CTransaction) : Prop where
  count : ((vtx.filter isCBDCMintTx).length : Int) ≤ maxMintTxsPerBlock
  perTx : ∀ tx ∈ vtx, isCBDCMintTx tx = true →
    (∀ out ∈ mintedOutputs tx, 0 < out.nValue) ∧ outputsValue (mintedOutputs tx) ≤ maxMintPerTx
  perBlock : outputsValue (mintOutputs vtx) ≤ maxMintPerBlock
  noOverflow : ∀ outs rest, mintOutputs vtx = outs ++ rest →
    outs.foldl (fun total out => wrap64 (total + out.nValue)) 0 = outputsValue outs

/-- The mint limits hold of an accepted block if and only if the exact sum of all the outputs of its
    mint transactions fits into 64 bits. -/
theorem mintLimits_iff {env : Env} {block : CBlock} {pindex : CBlockIndex} {view view' : CCoinsView}
    {fJustCheck : Bool} {undo : Option CBlockUndo}
    (h : connectBlock env block pindex view fJustCheck = .ok (view', undo)) :
    MintLimits (connectedVtx env block) ↔
      outputsValue (mintOutputs (connectedVtx env block)) < 2 ^ 63 := by
  have hacc := mintsAccepted_of_connectBlock h
  have hnonneg : ∀ out ∈ mintOutputs (connectedVtx env block), 0 ≤ out.nValue :=
    fun out hout => ((moneyRange_iff _).mp (hacc.amounts out hout)).1
  constructor
  · intro hlim
    have := hlim.perBlock
    rw [maxMintPerBlock] at this
    omega
  · intro hfits
    have hsum := outputsValue_nonneg hnonneg
    refine ⟨hacc.count, ?_, ?_, ?_⟩
    · intro tx htx hmint
      have hc := hacc.checked tx htx hmint
      exact ⟨hc.positive, hc.limit⟩
    · have htotal := hacc.total
      rwa [wrap64_of_range (by omega) (by omega)] at htotal
    · intro outs rest heq
      -- every partial sum lies between zero and the whole
      rw [heq] at hnonneg hfits
      have hpre : 0 ≤ outputsValue outs :=
        outputsValue_nonneg fun out hout => hnonneg out (List.mem_append_left _ hout)
      have hpost : 0 ≤ outputsValue rest :=
        outputsValue_nonneg fun out hout => hnonneg out (List.mem_append_right _ hout)
      rw [outputsValue_append] at hfits
      have hfold := foldl_wrap64 outs 0
      rw [wrap64_of_range (by omega) (by omega), Int.zero_add] at hfold
      rw [hfold, wrap64_of_range (by omega) (by omega)]

def smallMintBlock : CBlock :=
  sampleBlock 0x10 mainParams.hashGenesisBlock
    [sampleCoinbase 0x30 1000000, sampleMint 0x20 [] [sampleOut 100000, sampleFeeOut 100]]

theorem mintLimits_smallMintBlock : MintLimits (connectedVtx (sampleEnv none) smallMintBlock) := by
  have hok : okAnd (connectBlock (sampleEnv none) smallMintBlock (sampleIndex smallMintBlock)
      sampleView false) (fun _ => true) = true := by decide
  obtain ⟨⟨view', undo⟩, hconnect, -⟩ := okAnd_iff.mp hok
  exact (mintLimits_iff hconnect).mpr (by decide)

def wrappedMintBlock : CBlock :=
  sampleBlock 0x10 mainParams.hashGenesisBlock
    [sampleCoinbase 0x30 1000000,
      sampleMint 0x20 [] [sampleOut 100000000000000000, sampleFeeOut 400000000000000000],
      sampleMint 0x21 [] [sampleOut 100000000000000000, sampleFeeOut 8900000000000000000]]

/-- The block is accepted with nineteen times what the block limit allows. -/
theorem wrappedMintBlock_accepted :
    (∃ view' undo, connectBlock (sampleEnv none) wrappedMintBlock (sampleIndex wrappedMintBlock)
      sampleView false = .ok (view', undo)) ∧
    outputsValue (mintOutputs wrappedMintBlock.vtx) = 19 * maxMintPerBlock := by
  have hok : okAnd (connectBlock (sampleEnv none) wrappedMintBlock (sampleIndex wrappedMintBlock)
      sampleView false) (fun _ => true) = true := by decide
  obtain ⟨⟨view', undo⟩, hconnect, -⟩ := okAnd_iff.mp hok
  exact ⟨⟨view', undo, hconnect⟩, by decide⟩

end GarudaChain
