import GarudaChain.Node.Mining
import GarudaChain.Node.Proofs.RewardProofs
import GarudaChain.Node.Proofs.SupplyProofs
import Mathlib.Order.Bounds.Basic

/-!
# What `getblocktemplate` offers
-/

namespace GarudaChain

open Int64Lib

theorem TxPassed.moneyRange_nFees {env : Env} {pindex : CBlockIndex} {tx : CTransaction} {st st' : ConnectState}
    (h : TxPassed env pindex tx st st') (hfees : moneyRange st.nFees = true) : moneyRange st'.nFees = true := by
  cases h with
  | coinbase _ heq _ _ => rwa [heq]
  | mint _ _ heq _ _ _ _ => rwa [heq]
  | ordinary _ _ _ _ hrange _ _ => exact hrange

theorem TxsConnected.moneyRange_nFees {env : Env} {pindex : CBlockIndex} {vtx : List CTransaction}
    {st st' : ConnectState} {vtxundo : List CTxUndo} (h : TxsConnected env pindex vtx st st' vtxundo)
    (hfees : moneyRange st.nFees = true) : moneyRange st'.nFees = true := by
  induction h with
  | nil st => exact hfees
  | cons hd tl ih => exact ih (hd.passed.moneyRange_nFees hfees)

def feeOn (book : Book) (tx : CTransaction) : Int :=
  if isOrdinary tx then valueOf book (tx.vin.map CTxIn.prevout) - outputsValue tx.vout else 0

/-- The fees on record in the pool are those that the transactions pay, each on the coins that those
    before it leave. -/
def FeesRecorded (nHeight : Nat) : List CTxMemPoolEntry → Book → Prop
  | [], _ => True
  | entry :: inBlock, book => entry.nFee = feeOn book entry.tx ∧
      FeesRecorded nHeight inBlock ((txMove nHeight entry.tx).apply book)

/-- A coin of the coinbase at this height. -/
def Coin.Immature (nHeight : Nat) (c : Coin) : Prop := c.fCoinBase = true ∧ c.nHeight = nHeight

theorem checkTxInputsLoop_mature (coins : Coins) (nSpendHeight : Nat) (vin : List CTxIn) :
    ∀ acc v : Int, checkTxInputsLoop coins nSpendHeight vin acc = .ok v →
      ∀ txin ∈ vin, ∀ c, coins.map.lookup txin.prevout = some c → ¬ c.Immature nSpendHeight := by
  induction vin with
  | nil => intro acc v _ txin htxin; cases htxin
  | cons txin vin ih =>
    intro acc v h t ht c hc
    rw [checkTxInputsLoop] at h
    split at h
    · cases h
    · next d hd =>
      obtain ⟨_, hmature, h⟩ := bind_eq_ok.mp h
      obtain ⟨_, -, h⟩ := bind_eq_ok.mp h
      rcases List.mem_cons.mp ht with rfl | ht
      · have hcd : c = d := Option.some.inj (hc.symm.trans hd)
        rintro ⟨hcb, hheight⟩
        simp only [rejectTxIf_eq_ok, ← hcd, hcb, hheight, coinbaseMaturity] at hmature
        simp at hmature
      · exact ih _ v h t ht c hc

theorem feeOn_covers {nHeight : Nat} {book : Book} {coins : Coins} {tx : CTransaction} {txfee : Int}
    (hcovers : Ledger.Covers (Coin.Immature nHeight) book coins.map) (hord : isOrdinary tx = true)
    (hcheck : checkTxInputs tx coins nHeight = .ok txfee) : txfee = feeOn book tx := by
  have hcb : tx.isCoinBase = false := by
    rw [isOrdinary, Bool.and_eq_true, Bool.not_eq_true'] at hord
    exact hord.1
  obtain ⟨-, -, hfee⟩ := checkTxInputs_spec hcb hcheck
  obtain ⟨_, -, hrest⟩ := bind_eq_ok.mp hcheck
  obtain ⟨nValueIn, hloop, -⟩ := bind_eq_ok.mp hrest
  have hmature := checkTxInputsLoop_mature coins nHeight tx.vin 0 nValueIn hloop
  have hsame : valueOf coins.map (tx.vin.map CTxIn.prevout) =
      valueOf book (tx.vin.map CTxIn.prevout) := by
    rw [valueOf, valueOf, List.map_map, List.map_map]
    refine congrArg List.sum (List.map_congr_left fun txin htxin => ?_)
    rcases hcovers txin.prevout with heq | ⟨c, hc, himmature⟩
    · simp only [Function.comp_apply, Ledger.valueAt, heq]
    · exact absurd himmature (hmature txin htxin c hc)
  rw [hfee, hsame, feeOn, if_pos hord]

variable {env : Env} {inBlock : List CTxMemPoolEntry} {tip : CBlockIndex} {view : CCoinsView} {host : Host}

theorem TxsConnected.nFees_recorded {pindex : CBlockIndex} {vtx : List CTransaction}
    {st st' : ConnectState} {vtxundo : List CTxUndo}
    (h : TxsConnected env pindex vtx st st' vtxundo) :
    ∀ (inBlock : List CTxMemPoolEntry) (book : Book), vtx = inBlock.map CTxMemPoolEntry.tx →
      (∀ tx ∈ vtx, tx.isCoinBase = false) → moneyRange st.nFees = true →
      Ledger.Covers (Coin.Immature pindex.nHeight) book st.coins.map →
      FeesRecorded pindex.nHeight inBlock book →
      st'.nFees = st.nFees + (inBlock.map CTxMemPoolEntry.nFee).sum := by
  induction h with
  | nil st =>
    intro inBlock book hvtx _ _ _ _
    rw [List.map_eq_nil_iff.mp hvtx.symm]
    simp
  | @cons tx vtx st st₁ st₂ txundo vtxundo hd tl ih =>
    intro inBlock book hvtx hncb hrange hcovers hrecorded
    obtain ⟨entry, inBlock, rfl, rfl, rfl⟩ := List.map_eq_cons_iff.mp hvtx.symm
    obtain ⟨hfee, hrecorded⟩ := hrecorded
    have hnext : Ledger.Covers (Coin.Immature pindex.nHeight)
        ((txMove pindex.nHeight entry.tx).apply book) st₁.coins.map := by
      rw [hd.update.book]
      exact hcovers.apply (txCreates_nodup entry.tx pindex.nHeight)
    have hstep : st₁.nFees = st.nFees + entry.nFee := by
      cases hd.passed with
      | coinbase hcb _ _ _ => exact absurd hcb (by simp [hncb entry.tx List.mem_cons_self])
      | mint hmint _ hfees _ _ _ _ =>
        rw [hfees, hfee, feeOn, if_neg (by simp [isOrdinary_eq_false_of_mint hmint]), Int.add_zero]
      | ordinary hord txfee hcheck hfees hinRange _ _ =>
        have hcb := hncb entry.tx List.mem_cons_self
        have hfeeRange := (checkTxInputs_spec hcb hcheck).2.1
        rw [hfees] at hinRange
        rw [hfees, wrap64_add_of_moneyRange hrange hfeeRange hinRange,
          feeOn_covers hcovers hord hcheck, hfee]
    rw [ih inBlock _ rfl (fun tx htx => hncb tx (List.mem_cons_of_mem _ htx))
      (hd.passed.moneyRange_nFees hrange) hnext hrecorded, hstep, List.map_cons, List.sum_cons]
    omega

theorem BlockConnected.nFees_recorded {block : CBlock} {pindex prev : CBlockIndex} {coins' : Coins} {vtxundo : CBlockUndo} {coinbase : CTransaction} {st₀ st : ConnectState} {undo₀ : CTxUndo}
    (h : BlockConnected env block pindex view coins' vtxundo prev coinbase
      (inBlock.map CTxMemPoolEntry.tx) st₀ st undo₀)
    (hrecorded : FeesRecorded pindex.nHeight inBlock view.coins.map) :
    st.nFees = (inBlock.map CTxMemPoolEntry.nFee).sum ∧ moneyRange st.nFees = true := by
  have hfees : st₀.nFees = 0 := by
    cases h.first.passed with
    | coinbase _ hf _ _ => exact hf
    | mint hmint _ _ _ _ _ _ => simp [isCBDCMintTx_of_isCoinBase h.isCoinBase] at hmint
    | ordinary hord _ _ _ _ _ _ => simp [isOrdinary, h.isCoinBase] at hord
  have hrange : moneyRange st₀.nFees = true := by rw [hfees]; decide
  have hbook : st₀.coins.map =
      Ledger.createAll view.coins.map (txCreates coinbase pindex.nHeight) := by
    rw [h.first.update.book, txMove_apply, txSpends,
      if_neg (by simp [isOrdinary_eq_false_of_coinBase h.isCoinBase])]
    rfl
  have hcovers : Ledger.Covers (Coin.Immature pindex.nHeight) view.coins.map st₀.coins.map := by
    rw [hbook]
    refine Ledger.Covers.createAll _ fun e he => ?_
    obtain ⟨hheight, hcb, -⟩ := createsFrom_coin coinbase pindex.nHeight coinbase.vout 0 e he
    exact ⟨hcb.trans h.isCoinBase, hheight⟩
  have hsum := h.rest.nFees_recorded inBlock view.coins.map rfl h.notCoinBase hrange hcovers hrecorded
  exact ⟨by rw [hsum, hfees, Int.zero_add], h.rest.moneyRange_nFees hrange⟩

theorem describeTemplate_spec {template : CBlockTemplate} {result : TemplateResult}
    (h : describeTemplate env host tip template = .ok result) :
    (result.coinbasevalue =
        (template.block.vtx.head?.bind fun coinbase => coinbase.vout.head?).elim 0 CTxOut.nValue ∧
      result.previousblockhash = template.block.hashPrevBlock) ∧
      result.height = tip.nHeight + 1 ∧
      result.defaultWitnessCommitment = if template.vchCoinbaseCommitment.isEmpty then none
        else some template.vchCoinbaseCommitment := by
  rw [describeTemplate] at h
  obtain ⟨transactions, -, h⟩ := Result.bind_ok_iff.mp h
  obtain ⟨nSigOpLimit, -, h⟩ := Result.bind_ok_iff.mp h
  obtain ⟨nSizeLimit, -, h⟩ := Result.bind_ok_iff.mp h
  cases h
  exact ⟨⟨rfl, rfl⟩, rfl, rfl⟩

theorem getblocktemplate_spec {setClientRules : List String} {result : TemplateResult}
    (h : getblocktemplate env host tip view setClientRules inBlock = .ok result) :
    testBlockValidity env host (assembleTemplate env host tip [op1] inBlock).block tip view = .ok () ∧
      describeTemplate env host tip (assembleTemplate env host tip [op1] inBlock) = .ok result := by
  rw [getblocktemplate] at h
  split at h
  · cases h
  · split at h
    · cases h
    · split at h
      · cases h
      · next template hcreate =>
        obtain ⟨rfl, hvalid⟩ := createNewBlockOf_eq_ok.mp hcreate
        exact ⟨hvalid, h⟩

theorem coinbaseTotal_eq {nSubsidy nFees : Int} (hlow : 0 ≤ nSubsidy + nFees)
    (hhigh : nSubsidy + nFees < 2 ^ 63) (hminer : 0 ≤ minerReward nSubsidy nFees)
    (hle : coinbaseTotal nSubsidy nFees ≤ nSubsidy + nFees) :
    coinbaseTotal nSubsidy nFees = nSubsidy + nFees ∧
      minerReward nSubsidy nFees = nSubsidy + nFees - apbnFee nFees := by
  have hfee : -100000000000000000 < apbnFee nFees ∧ apbnFee nFees < 100000000000000000 := by
    have hrange := wrap64_range (nFees * 30)
    have hdiv := Int.tmod_add_mul_tdiv (wrap64 (nFees * 30)) 100
    have hmod := Int.tmod_lt_of_pos (wrap64 (nFees * 30)) (b := 100) (by decide)
    have hmod' := Int.lt_tmod_of_pos (wrap64 (nFees * 30)) (b := 100) (by decide)
    rw [apbnFee]
    omega
  have hsum : wrap64 (nSubsidy + nFees) = nSubsidy + nFees := wrap64_of_range (by omega) (by omega)
  rw [coinbaseTotal, minerReward, hsum] at hle
  rw [minerReward, hsum] at hminer
  rw [coinbaseTotal, minerReward, hsum]
  -- a share of the state budget below zero makes the miner's too large, or negative after the wrap
  by_cases hneg : apbnFee nFees < 0
  · by_cases hfits : nSubsidy + nFees - apbnFee nFees < 2 ^ 63
    · rw [wrap64_of_range (by omega) (by omega)] at hle
      omega
    · have hwrap := wrap64_neg (x := nSubsidy + nFees - apbnFee nFees) (by omega) (by omega)
      omega
  · rw [wrap64_of_range (by omega) (by omega)]
    omega

def RewardAccepted (env : Env) (tip : CBlockIndex) (view : CCoinsView) (vtx : List CTransaction)
    (total : Int) : Prop :=
  ∃ block entry fJustCheck r coinbase, block.getHash ≠ env.params.hashGenesisBlock ∧
    connectBlock env block (tip.next entry) view fJustCheck = .ok r ∧
    block.vtx = coinbase :: vtx ∧ outputsValue coinbase.vout = total

theorem RewardAccepted.le {total : Int}
    (h : RewardAccepted env tip view (inBlock.map CTxMemPoolEntry.tx) total)
    (hfees : FeesRecorded (tip.nHeight + 1) inBlock view.coins.map) :
    total ≤ wrap64 (getBlockSubsidy env.mintFile (tip.nHeight + 1) +
      (inBlock.map CTxMemPoolEntry.nFee).sum) := by
  obtain ⟨block, entry, fJustCheck, ⟨view', undo⟩, coinbase, hgen, hconnect, hvtx, rfl⟩ := h
  rcases connectBlock_cases hconnect with ⟨heq, -⟩ | ⟨-, vtxundo, prev, coinbase', vtx, st₀, st, undo₀,
    -, hb⟩
  · exact absurd heq hgen
  · have heq := hb.vtx_eq
    rw [hvtx] at heq
    cases heq
    have hreward := hb.reward
    rwa [(hb.nFees_recorded hfees).1, Int.add_comm] at hreward

/-- What `TestBlockValidity` has found of a template: its coinbase pays out the subsidy and the fees
    on record, whose sum fits into 64 bits. -/
structure TemplateAccepted (env : Env) (host : Host) (tip : CBlockIndex) (view : CCoinsView)
    (scriptPubKeyIn : Bytes) (inBlock : List CTxMemPoolEntry) (nSubsidy nFees : Int)
    (coinbase : CTransaction) : Prop where
  vtx_eq : (assembleTemplate env host tip scriptPubKeyIn inBlock).block.vtx =
    coinbase :: inBlock.map CTxMemPoolEntry.tx
  coinbase : TemplateCoinbase env host tip nSubsidy nFees scriptPubKeyIn
    (inBlock.map CTxMemPoolEntry.tx) coinbase
  fits : wrap64 (nSubsidy + nFees) = nSubsidy + nFees
  miner : minerReward nSubsidy nFees = nSubsidy + nFees - apbnFee nFees
  accepted : RewardAccepted env tip view (inBlock.map CTxMemPoolEntry.tx) (nSubsidy + nFees)

theorem testBlockValidity_template {scriptPubKeyIn : Bytes}
    (hvalid : testBlockValidity env host (assembleTemplate env host tip scriptPubKeyIn inBlock).block
      tip view = .ok ())
    (hfees : FeesRecorded (tip.nHeight + 1) inBlock view.coins.map)
    (hgenesis : (assembleTemplate env host tip scriptPubKeyIn inBlock).block.getHash ≠
      env.params.hashGenesisBlock) :
    ∃ coinbase, TemplateAccepted env host tip view scriptPubKeyIn inBlock
      (getBlockSubsidy env.mintFile (tip.nHeight + 1)) (inBlock.map CTxMemPoolEntry.nFee).sum
      coinbase := by
  obtain ⟨coinbase, htemplate⟩ := assembleTemplate_spec env host tip scriptPubKeyIn inBlock
  have hsubsidy := getBlockSubsidy_range env.mintFile (tip.nHeight + 1)
  obtain ⟨_, -, hvalid⟩ := bind_eq_ok.mp hvalid
  obtain ⟨_, -, hvalid⟩ := bind_eq_ok.mp hvalid
  obtain ⟨_, -, hvalid⟩ := bind_eq_ok.mp hvalid
  obtain ⟨⟨view', undo⟩, hconnect, -⟩ := bind_eq_ok.mp hvalid
  rcases connectBlock_cases hconnect with ⟨heq, -⟩ | ⟨-, vtxundo, prev, coinbase', vtx, st₀, st, undo₀,
    -, hb⟩
  · exact absurd heq hgenesis
  have hvtx := hb.vtx_eq
  rw [htemplate.vtx_eq] at hvtx
  cases hvtx
  have hchecked := hb.checked coinbase (by rw [hb.vtx_eq]; exact List.mem_cons_self)
  have haccepted : RewardAccepted env tip view (inBlock.map CTxMemPoolEntry.tx)
      (outputsValue coinbase.vout) :=
    ⟨_, _, true, _, coinbase, hgenesis, hconnect, htemplate.vtx_eq, rfl⟩
  have hle := haccepted.le hfees
  obtain ⟨hcount, hrange⟩ := hb.nFees_recorded hfees
  rw [hcount, moneyRange_iff] at hrange
  have hcoinbase := htemplate.coinbase
  have hsum := foldl_wrap64_add CTxMemPoolEntry.nFee inBlock 0
  rw [wrap64_of_range (by omega) (by omega), Int.zero_add, wrap64_of_range (by omega) (by omega)]
    at hsum
  rw [hsum] at hcoinbase
  generalize (inBlock.map CTxMemPoolEntry.nFee).sum = nFees at *
  generalize getBlockSubsidy env.mintFile (tip.nHeight + 1) = nSubsidy at *
  -- the total is not negative, so the subsidy and the fees fit into 64 bits
  have hnonneg := ((moneyRange_iff _).mp hchecked.total).1
  have hhigh : nSubsidy + nFees < 2 ^ 63 := by
    by_contra hover
    have hwrap := wrap64_neg (x := nSubsidy + nFees) (by omega) (by omega)
    omega
  have hfits : wrap64 (nSubsidy + nFees) = nSubsidy + nFees := wrap64_of_range (by omega) (by omega)
  obtain ⟨hminer, -⟩ := hcoinbase.amounts_iff.mp ⟨hchecked.amounts, hchecked.total⟩
  rw [hfits, hcoinbase.outputsValue] at hle
  rw [hcoinbase.outputsValue] at hnonneg
  obtain ⟨htotal, hreward⟩ := coinbaseTotal_eq (by omega) hhigh hminer hle
  rw [hcoinbase.outputsValue, htotal] at haccepted
  exact ⟨coinbase, htemplate.vtx_eq, hcoinbase, hfits, hreward, haccepted⟩

/-- The largest total that `ConnectBlock` accepts for the coinbase of a template is the subsidy and
    the fees, and the share of the state budget is missing from what `getblocktemplate` offers. -/
theorem getblocktemplate_offersReward_iff {env : Env} {host : Host} {tip : CBlockIndex}
    {view : CCoinsView} {setClientRules : List String} {inBlock : List CTxMemPoolEntry}
    {result : TemplateResult}
    (hcall : getblocktemplate env host tip view setClientRules inBlock = .ok result)
    (hfees : FeesRecorded (tip.nHeight + 1) inBlock view.coins.map)
    (hgenesis : (assembleTemplate env host tip [op1] inBlock).block.getHash ≠
      env.params.hashGenesisBlock) :
    IsGreatest {total | RewardAccepted env tip view (inBlock.map CTxMemPoolEntry.tx) total}
        (getBlockSubsidy env.mintFile (tip.nHeight + 1) + (inBlock.map CTxMemPoolEntry.nFee).sum) ∧
      (result.coinbasevalue = getBlockSubsidy env.mintFile (tip.nHeight + 1) +
          (inBlock.map CTxMemPoolEntry.nFee).sum ↔
        apbnFee (inBlock.map CTxMemPoolEntry.nFee).sum = 0) := by
  obtain ⟨hvalid, hdescribe⟩ := getblocktemplate_spec hcall
  obtain ⟨coinbase, haccepted⟩ := testBlockValidity_template hvalid hfees hgenesis
  refine ⟨⟨haccepted.accepted, fun total htotal => ?_⟩, ?_⟩
  · have hle := htotal.le hfees
    rwa [haccepted.fits] at hle
  · rw [(describeTemplate_spec hdescribe).1.1, haccepted.vtx_eq]
    simp only [List.head?_cons, Option.bind_some, haccepted.coinbase.vout, payouts, List.cons_append,
      Option.elim_some, haccepted.miner]
    omega

def cheapSpend : CTransaction := { relayedSpend with vout := [⟨49997, sampleKeyhash⟩] }

def cheapEntry : CTxMemPoolEntry := ⟨cheapSpend, 3, 3, 82, 0⟩

theorem exists_coinbasevalue {r : Except RpcFailure TemplateResult} {v : Int}
    (h : r.toOption.map TemplateResult.coinbasevalue = some v) :
    ∃ result, r = .ok result ∧ result.coinbasevalue = v := by
  cases r with
  | error err => cases h
  | ok result => exact ⟨result, rfl, Option.some.inj h⟩

theorem getblocktemplate_offersReward_sample : ∃ result,
    getblocktemplate (sampleEnv none) sampleHost relayTip relayView ["segwit"] [cheapEntry] =
        .ok result ∧
      IsGreatest {total | RewardAccepted (sampleEnv none) relayTip relayView [cheapSpend] total}
        1000003 ∧ result.coinbasevalue = 1000003 := by
  obtain ⟨result, hcall, -⟩ := exists_coinbasevalue (v := 1000003)
    (r := getblocktemplate (sampleEnv none) sampleHost relayTip relayView ["segwit"] [cheapEntry])
    (by decide +kernel)
  obtain ⟨hgreatest, hoffers⟩ := getblocktemplate_offersReward_iff hcall
    ⟨by decide, trivial⟩ (by decide)
  exact ⟨result, hcall, hgreatest, hoffers.mpr (by decide)⟩

/-- With a fee of 1000 satoshis, 300 of them are missing. -/
theorem getblocktemplate_withholds : ∃ result,
    getblocktemplate (sampleEnv none) sampleHost relayTip relayView ["segwit"] [spendEntry] =
        .ok result ∧
      FeesRecorded (relayTip.nHeight + 1) [spendEntry] relayView.coins.map ∧
      RewardAccepted (sampleEnv none) relayTip relayView [relayedSpend] (1000000 + 1000) ∧
      result.coinbasevalue = 1000700 := by
  obtain ⟨result, hcall, hvalue⟩ := exists_coinbasevalue (v := 1000700)
    (r := getblocktemplate (sampleEnv none) sampleHost relayTip relayView ["segwit"] [spendEntry])
    (by decide +kernel)
  have hfees : FeesRecorded (relayTip.nHeight + 1) [spendEntry] relayView.coins.map :=
    ⟨by decide, trivial⟩
  obtain ⟨coinbase, haccepted⟩ := testBlockValidity_template (getblocktemplate_spec hcall).1 hfees
    (by decide)
  exact ⟨result, hcall, hfees, haccepted.accepted, hvalue⟩

end GarudaChain
