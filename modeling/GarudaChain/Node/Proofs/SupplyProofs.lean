import GarudaChain.Node.Proofs.ChainProofs
import GarudaChain.Node.Proofs.MintProofs
import GarudaChain.Node.Proofs.SubsidyProofs

/-!
# The supply
-/

namespace GarudaChain

open Int64Lib

def AmountsNonneg (coins : Coins) : Prop := Ledger.Forall (fun c => 0 ≤ coinValue c) coins.map

def mintedBy (env : Env) (tx : CTransaction) : Int :=
  if isCBDCMintTx tx && (verifyCBDCMintSigHybrid env.crypto env.authority tx).isOk then
    spendableValue tx.vout
  else 0

def mintedValue (env : Env) (block : CBlock) : Int :=
  ((connectedVtx env block).map (mintedBy env)).sum

/-- The subsidy of a block: what `GetBlockSubsidy` returns, which is not called for the genesis
    block. -/
def subsidyPaid (env : Env) (block : CBlock) (nHeight : Nat) : Int :=
  if isGenesis env block then 0 else getBlockSubsidy env.mintFile nHeight

/-- `ConnectBlock` looks for overwritten coins in a block with this index entry. -/
def bip30Enforced (env : Env) (pindex : CBlockIndex) : Bool :=
  match pindex.pprev with
  | none => true
  | some prev => enforceBIP30 env.params pindex prev

variable {env : Env} {pindex : CBlockIndex} {tx : CTransaction} {coins coins' : Coins} {block : CBlock}
  {view view' : CCoinsView} {fJustCheck : Bool} {st : ConnectState} {txundo : CTxUndo}
  {undo : Option CBlockUndo}

theorem coinTotal_update {nHeight : Nat} (h : UpdateSpec tx nHeight coins coins' txundo)
    (hfresh : ¬ overwrites nHeight tx coins.map) :
    coinTotal coins' = coinTotal coins - valueOf coins.map (txSpends tx) + spendableValue tx.vout := by
  rw [coinTotal, h.book, txMove_apply, Ledger.total_createAll _ _ _ (txCreates_nodup tx nHeight)
    fun k hk hmem => hfresh ⟨k, hk, hmem⟩, Ledger.total_spendAll _ _ _ h.nodup, txCreates,
    createsFrom_value]
  rfl

theorem spendableValue_le {vout : List CTxOut} (h : ∀ out ∈ vout, 0 ≤ out.nValue) :
    spendableValue vout ≤ outputsValue vout := by
  induction vout with
  | nil => exact le_refl _
  | cons out vout ih =>
    have hout := h out List.mem_cons_self
    have hrest := ih fun o ho => h o (List.mem_cons_of_mem _ ho)
    rw [spendableValue] at hrest ⊢
    rw [List.filter_cons, outputsValue_cons]
    split
    · rw [outputsValue_cons]
      omega
    · omega

theorem CheckedTx.nonneg (h : CheckedTx tx) : ∀ out ∈ tx.vout, 0 ≤ out.nValue :=
  fun out hout => ((moneyRange_iff _).mp (h.amounts out hout)).1

theorem TxConnected.total_le {st' : ConnectState} (h : TxConnected env pindex tx st st' txundo)
    (hchecked : CheckedTx tx) (hcb : tx.isCoinBase = false) (hrange : moneyRange st.nFees = true) :
    coinTotal st'.coins + st'.nFees ≤ coinTotal st.coins + st.nFees + mintedBy env tx ∧
      moneyRange st'.nFees = true := by
  have htotal := coinTotal_update h.update (h.update.fresh hcb)
  cases h.passed with
  | coinbase hcb' _ _ _ => simp [hcb] at hcb'
  | mint hmint hcheck hfees _ _ _ _ =>
    have hspends : txSpends tx = [] := by simp [txSpends, isOrdinary_eq_false_of_mint hmint]
    have hminted : mintedBy env tx = spendableValue tx.vout := by
      rw [mintedBy, hmint, (checkCBDCMintInBlock_spec hcheck).signed]
      rfl
    rw [hspends, show valueOf st.coins.map [] = 0 from rfl] at htotal
    exact ⟨by omega, by rw [hfees]; exact hrange⟩
  | ordinary hord txfee hcheck hfees hrange' _ _ =>
    have hspends : txSpends tx = tx.vin.map CTxIn.prevout := by simp [txSpends, hord]
    have hmint : isCBDCMintTx tx = false := by
      simp only [isOrdinary, Bool.and_eq_true, Bool.not_eq_true'] at hord
      exact hord.2
    have hminted : mintedBy env tx = 0 := by simp [mintedBy, hmint]
    obtain ⟨-, hfee, hvalue⟩ := checkTxInputs_spec hcb hcheck
    rw [hfees] at hrange'
    have hexact := wrap64_add_of_moneyRange hrange hfee hrange'
    have hspendable := spendableValue_le hchecked.nonneg
    rw [hspends] at htotal
    rw [hfees]
    exact ⟨by omega, hrange'⟩

theorem TxsConnected.total_le {vtx : List CTransaction}
    {st' : ConnectState} {vtxundo : List CTxUndo}
    (h : TxsConnected env pindex vtx st st' vtxundo) (hchecked : ∀ tx ∈ vtx, CheckedTx tx)
    (hncb : ∀ tx ∈ vtx, tx.isCoinBase = false) (hrange : moneyRange st.nFees = true) :
    coinTotal st'.coins + st'.nFees ≤ coinTotal st.coins + st.nFees + (vtx.map (mintedBy env)).sum ∧
      moneyRange st'.nFees = true := by
  induction h with
  | nil st => exact ⟨by simp, hrange⟩
  | @cons tx vtx st st₁ st₂ txundo vtxundo hd tl ih =>
    obtain ⟨hle, hr⟩ := hd.total_le (hchecked tx List.mem_cons_self) (hncb tx List.mem_cons_self) hrange
    obtain ⟨hle', hr'⟩ := ih (fun t ht => hchecked t (List.mem_cons_of_mem _ ht))
      (fun t ht => hncb t (List.mem_cons_of_mem _ ht)) hr
    rw [List.map_cons, List.sum_cons]
    exact ⟨by omega, hr'⟩

theorem not_overwrites_of_haveAnyOutput (nHeight : Nat)
    (hno : haveAnyOutput coins tx = false) : ¬ overwrites nHeight tx coins.map := by
  rintro ⟨k, hk, hmem⟩
  obtain ⟨e, he, rfl⟩ := List.mem_map.mp hk
  obtain ⟨hhash, -, hn⟩ := createsFrom_key tx nHeight tx.vout 0 e he
  rw [haveAnyOutput, List.any_eq_false] at hno
  refine hno e.1.n (List.mem_range.mpr (by omega)) ?_
  rw [Coins.haveCoin_iff, ← hhash]
  exact ((Ledger.mem_spendAll _ _ _).mp hmem).1

theorem BlockConnected.coinbase_total_le {vtxundo : CBlockUndo} {prev : CBlockIndex}
    {coinbase : CTransaction} {vtx : List CTransaction} {st₀ : ConnectState} {undo₀ : CTxUndo}
    (hb : BlockConnected env block pindex view coins' vtxundo prev coinbase vtx st₀ st undo₀)
    (hover : bip30Enforced env pindex = true ∨ AmountsNonneg view.coins) :
    coinTotal st₀.coins ≤ coinTotal view.coins + outputsValue coinbase.vout := by
  have hchecked : CheckedTx coinbase := hb.checked _ (by rw [hb.vtx_eq]; exact List.mem_cons_self)
  have hspendable := spendableValue_le hchecked.nonneg
  have hspends : txSpends coinbase = [] := by
    simp [txSpends, isOrdinary_eq_false_of_coinBase hb.isCoinBase]
  rcases hover with henforced | hnonneg
  · rw [bip30Enforced, hb.pprev] at henforced
    have hno := hb.bip30 henforced coinbase (by rw [hb.vtx_eq]; exact List.mem_cons_self)
    have htotal := coinTotal_update hb.first.update
      (not_overwrites_of_haveAnyOutput pindex.nHeight hno)
    rw [hspends, ConnectState.init_coins, show valueOf view.coins.map [] = 0 from rfl] at htotal
    omega
  · have hbook := hb.first.update.book
    have hle := Ledger.total_createAll_le coinValue (txCreates coinbase pindex.nHeight)
      view.coins.map hnonneg (by
        intro e he
        exact hchecked.nonneg _ (createsFrom_coin coinbase pindex.nHeight coinbase.vout 0 e he).2.2)
    rw [txCreates, createsFrom_value] at hle
    rw [coinTotal, coinTotal, hbook, txMove_apply, hspends]
    exact hle.trans (by omega)

theorem connectBlock_total_le (h : connectBlock env block pindex view fJustCheck = .ok (view', undo))
    (hover : bip30Enforced env pindex = true ∨ AmountsNonneg view.coins) :
    coinTotal view'.coins ≤
      coinTotal view.coins + subsidyPaid env block pindex.nHeight + mintedValue env block := by
  rcases connectBlock_cases h with ⟨hgen, hcoins, -⟩ | ⟨hgen, vtxundo, prev, coinbase, vtx, st₀, st,
    undo₀, -, hb⟩
  · have hg : isGenesis env block = true := by simpa [isGenesis] using hgen
    simp [hcoins, subsidyPaid, mintedValue, connectedVtx, hg]
  · have hg : isGenesis env block = false := by simpa [isGenesis] using hgen
    have hcb := hb.coinbase_total_le hover
    have hfees : st₀.nFees = 0 := by
      cases hb.first.passed with
      | coinbase _ hf _ _ => exact hf
      | mint hmint _ _ _ _ _ _ => simp [isCBDCMintTx_of_isCoinBase hb.isCoinBase] at hmint
      | ordinary hord _ _ _ _ _ _ => simp [isOrdinary, hb.isCoinBase] at hord
    obtain ⟨hle, hrange⟩ := hb.rest.total_le
      (fun tx htx => hb.checked tx (by rw [hb.vtx_eq]; exact List.mem_cons_of_mem _ htx))
      hb.notCoinBase (by rw [hfees]; decide)
    have hreward := hb.reward
    have hsubsidy := getBlockSubsidy_ge env.mintFile pindex.nHeight
    rw [moneyRange_iff] at hrange
    have hwrap := wrap64_le (x := st.nFees + getBlockSubsidy env.mintFile pindex.nHeight) (by omega)
    have hminted : mintedValue env block = (vtx.map (mintedBy env)).sum := by
      rw [mintedValue, connectedVtx, hg, if_neg (by simp), hb.vtx_eq, List.map_cons, List.sum_cons]
      simp [mintedBy, isCBDCMintTx_of_isCoinBase hb.isCoinBase]
    rw [hb.coins_eq, hminted, subsidyPaid, hg, if_neg (by simp)]
    omega

theorem amounts_update {P : Int → Prop} {nHeight : Nat} (h : UpdateSpec tx nHeight coins coins' txundo)
    (hcoins : Ledger.Forall (fun c => P (coinValue c)) coins.map) (htx : ∀ out ∈ tx.vout, P out.nValue) :
    Ledger.Forall (fun c => P (coinValue c)) coins'.map := by
  rw [h.book]
  refine Ledger.Forall.apply hcoins fun e he => ?_
  exact htx _ (createsFrom_coin tx nHeight tx.vout 0 e he).2.2

def AmountsInRange (coins : Coins) : Prop :=
  Ledger.Forall (fun c => moneyRange (coinValue c) = true) coins.map

theorem AmountsInRange.nonneg (h : AmountsInRange coins) : AmountsNonneg coins :=
  fun o c hc => ((moneyRange_iff _).mp (h o c hc)).1

theorem TxRun.amountsInRange {txs : List (Nat × CTransaction)}
    (h : TxRun txs coins coins') (hchecked : ∀ t ∈ txs, CheckedTx t.2) (hcoins : AmountsInRange coins) :
    AmountsInRange coins' := by
  induction h with
  | nil coins => exact hcoins
  | cons hd tl ih =>
    refine ih (fun t ht => hchecked t (List.mem_cons_of_mem _ ht)) ?_
    exact amounts_update (P := fun v => moneyRange v = true) hd hcoins
      (hchecked _ List.mem_cons_self).amounts

theorem connectBlock_amountsInRange (h : connectBlock env block pindex view fJustCheck = .ok (view', undo))
    (hcoins : AmountsInRange view.coins) : AmountsInRange view'.coins := by
  refine (connectBlock_txRun h).amountsInRange ?_ hcoins
  rcases connectBlock_cases h with ⟨hgen, -, -⟩ | ⟨hgen, vtxundo, prev, coinbase, vtx, st₀, st,
    undo₀, -, hb⟩
  · rw [blockTxs, isGenesis, if_pos (by simpa using hgen)]
    simp
  · rw [blockTxs, isGenesis, if_neg (by simpa using hgen)]
    intro t ht
    obtain ⟨tx, htx, rfl⟩ := List.mem_map.mp ht
    exact hb.checked tx htx

/-- The subsidies of a run of blocks, the first one at `nHeight`. -/
def chainSubsidies : List (Env × CBlock) → Nat → Int
  | [], _ => 0
  | (env, block) :: steps, nHeight =>
    subsidyPaid env block nHeight + chainSubsidies steps (nHeight + 1)

def chainMints (steps : List (Env × CBlock)) : Int := (steps.map fun t => mintedValue t.1 t.2).sum

theorem connectChain_total_le (steps : List (Env × CBlock)) : ∀ {s s' : ChainState},
    connectChain steps s = .ok s' → AmountsInRange s.view.coins →
      coinTotal s'.view.coins ≤
        coinTotal s.view.coins + chainSubsidies steps s.nextHeight + chainMints steps ∧
      AmountsInRange s'.view.coins := by
  induction steps with
  | nil =>
    intro s s' h hcoins
    cases h
    exact ⟨by simp [chainSubsidies, chainMints], hcoins⟩
  | cons step steps ih =>
    intro s s' h hcoins
    obtain ⟨env, block⟩ := step
    rw [connectChain] at h
    obtain ⟨s₁, htip, hrest⟩ := bind_eq_ok.mp h
    obtain ⟨undo, hconnect, -, hheight⟩ := connectTip_spec htip
    have hblock := connectBlock_total_le hconnect (Or.inr hcoins.nonneg)
    obtain ⟨htail, hin⟩ := ih hrest (connectBlock_amountsInRange hconnect hcoins)
    refine ⟨?_, hin⟩
    rw [ChainState.nextIndex_nHeight] at hblock
    rw [hheight] at htail
    simp only [chainSubsidies, chainMints, List.map_cons, List.sum_cons] at htail ⊢
    omega

theorem amountsInRange_empty : AmountsInRange Coins.empty := by
  intro o c hc
  simp [Coins.empty] at hc

/-- No value from nowhere. -/
theorem no_value_from_nowhere :
    (∀ (env : Env) (block : CBlock) (pindex : CBlockIndex) (view view' : CCoinsView)
      (fJustCheck : Bool) (undo : Option CBlockUndo),
      connectBlock env block pindex view fJustCheck = .ok (view', undo) →
      (bip30Enforced env pindex = true ∨ AmountsNonneg view.coins) →
      coinTotal view'.coins ≤
        coinTotal view.coins + subsidyPaid env block pindex.nHeight + mintedValue env block) ∧
    (∀ (steps : List (Env × CBlock)) (s : ChainState), connectChain steps .empty = .ok s →
      coinTotal s.view.coins ≤ chainSubsidies steps 0 + chainMints steps) := by
  refine ⟨fun env block pindex view view' fJustCheck undo => connectBlock_total_le, ?_⟩
  intro steps s hrun
  have h := (connectChain_total_le steps hrun amountsInRange_empty).1
  rw [show coinTotal ChainState.empty.view.coins = 0 from rfl, Int.zero_add] at h
  exact h

theorem no_value_from_nowhere_smallMintBlock :
    (∃ view' undo, connectBlock (sampleEnv none) smallMintBlock (sampleIndex smallMintBlock)
        sampleView false = .ok (view', undo) ∧ coinTotal view'.coins ≤ 1100000) ∧
    (∃ s, connectChain [(sampleEnv none, sampleGenesis), (sampleEnv none, smallMintBlock)] .empty =
        .ok s ∧ coinTotal s.view.coins ≤ 1100000) := by
  constructor
  · have hok : okAnd (connectBlock (sampleEnv none) smallMintBlock (sampleIndex smallMintBlock)
        sampleView false) (fun _ => true) = true := by decide
    obtain ⟨⟨view', undo⟩, hconnect, -⟩ := okAnd_iff.mp hok
    refine ⟨view', undo, hconnect, ?_⟩
    exact (no_value_from_nowhere.1 _ _ _ _ _ _ _ hconnect (Or.inl (by decide))).trans
      (by decide)
  · have hok : okAnd (connectChain [(sampleEnv none, sampleGenesis),
        (sampleEnv none, smallMintBlock)] .empty) (fun _ => true) = true := by decide
    obtain ⟨s, hrun, -⟩ := okAnd_iff.mp hok
    exact ⟨s, hrun, (no_value_from_nowhere.2 _ _ hrun).trans (by decide)⟩

theorem spendableValue_mintedOutputs (tx : CTransaction) :
    spendableValue tx.vout = spendableValue (mintedOutputs tx) := by
  rw [spendableValue, spendableValue, mintedOutputs, List.filter_filter]
  congr 1
  refine List.filter_congr fun out _ => ?_
  cases hfee : isMintFeeScript out.scriptPubKey with
  | false => simp
  | true => simp [isUnspendable_of_isMintFeeScript hfee]

theorem mintedBy_le (h : isCBDCMintTx tx = true → CheckedMint env.crypto env.authority tx) :
    mintedBy env tx ≤ if isCBDCMintTx tx then maxMintPerTx else 0 := by
  cases hmint : isCBDCMintTx tx with
  | false => simp [mintedBy, hmint]
  | true =>
    have hc := h hmint
    have hle : spendableValue tx.vout ≤ outputsValue (mintedOutputs tx) := by
      rw [spendableValue_mintedOutputs]
      exact spendableValue_le fun out hout => Int.le_of_lt (hc.positive out hout)
    rw [mintedBy, hmint, hc.signed]
    exact hle.trans hc.limit

theorem sum_mintedBy_le (vtx : List CTransaction)
    (h : ∀ tx ∈ vtx, isCBDCMintTx tx = true → CheckedMint env.crypto env.authority tx) :
    (vtx.map (mintedBy env)).sum ≤ (vtx.filter isCBDCMintTx).length * maxMintPerTx := by
  induction vtx with
  | nil => simp
  | cons tx vtx ih =>
    have htx := mintedBy_le (h tx List.mem_cons_self)
    have hrest := ih fun t ht => h t (List.mem_cons_of_mem _ ht)
    rw [List.map_cons, List.sum_cons]
    cases hmint : isCBDCMintTx tx with
    | false =>
      rw [List.filter_cons_of_neg (by simp [hmint])]
      rw [hmint, if_neg (by simp)] at htx
      omega
    | true =>
      rw [List.filter_cons_of_pos hmint, List.length_cons]
      rw [hmint, if_pos rfl] at htx
      push_cast
      rw [Int.add_mul]
      omega

theorem mintedValue_le (h : connectBlock env block pindex view fJustCheck = .ok (view', undo)) :
    mintedValue env block ≤ maxMintTxsPerBlock * maxMintPerTx := by
  have hacc := mintsAccepted_of_connectBlock h
  refine (sum_mintedBy_le (connectedVtx env block) hacc.checked).trans ?_
  exact Int.mul_le_mul_of_nonneg_right hacc.count (by decide)

theorem chainMints_le (steps : List (Env × CBlock)) : ∀ {s s' : ChainState},
    connectChain steps s = .ok s' →
      chainMints steps ≤ steps.length * (maxMintTxsPerBlock * maxMintPerTx) := by
  induction steps with
  | nil => intro s s' _; simp [chainMints]
  | cons step steps ih =>
    intro s s' h
    obtain ⟨env, block⟩ := step
    rw [connectChain] at h
    obtain ⟨s₁, htip, hrest⟩ := bind_eq_ok.mp h
    obtain ⟨undo, hconnect, -, -⟩ := connectTip_spec htip
    have hblock := mintedValue_le hconnect
    have htail := ih hrest
    simp only [chainMints, List.map_cons, List.sum_cons, List.length_cons] at htail ⊢
    push_cast
    rw [Int.add_mul]
    omega

/-- What bounds the supply: every coin is within `MAX_MONEY`, and all the coins of a chain within
    the subsidies and, for each block, the largest number of the largest mint transactions. -/
theorem supply_le {steps : List (Env × CBlock)} {s : ChainState}
    (hrun : connectChain steps .empty = .ok s) :
    (∀ o c, s.view.coins.getCoin o = some c → 0 ≤ coinValue c ∧ coinValue c ≤ maxMoney) ∧
    coinTotal s.view.coins ≤
      chainSubsidies steps 0 + steps.length * (maxMintTxsPerBlock * maxMintPerTx) := by
  obtain ⟨htotal, hrange⟩ := connectChain_total_le steps hrun amountsInRange_empty
  have hmints := chainMints_le steps hrun
  constructor
  · intro o c hc
    have := (moneyRange_iff _).mp (hrange o c hc)
    rw [maxMoney_eq]
    exact this
  · rw [show coinTotal ChainState.empty.view.coins = 0 from rfl,
      show ChainState.empty.nextHeight = 0 from rfl] at htotal
    omega

def twoHeightsFile : List Char := "1 90000000000\n2 90000000000\n".toList

def twoHeightsRun : List (Env × CBlock) :=
  [(sampleEnv (some twoHeightsFile), sampleGenesis),
    (sampleEnv (some twoHeightsFile), sampleBlock 0x11 mainParams.hashGenesisBlock
      [sampleCoinbase 0x31 9000000000000000000]),
    (sampleEnv (some twoHeightsFile), sampleBlock 0x12 0x11
      [sampleCoinbase 0x32 9000000000000000000])]

theorem supply_le_twoHeightsRun : ∃ s, connectChain twoHeightsRun .empty = .ok s ∧
    coinTotal s.view.coins ≤ 18000000000000000000 + 3 * 1000000000000000000 := by
  have hok : okAnd (connectChain twoHeightsRun .empty) (fun _ => true) = true := by decide
  obtain ⟨s, hrun, -⟩ := okAnd_iff.mp hok
  exact ⟨s, hrun, (supply_le hrun).2.trans (by decide)⟩

/-- Two sovereign mint heights take the supply to twice `MAX_MONEY`. -/
theorem supply_exceeds_maxMoney : ∃ s, connectChain twoHeightsRun .empty = .ok s ∧
    coinTotal s.view.coins = 2 * maxMoney := by
  have hok : okAnd (connectChain twoHeightsRun .empty)
      (fun s => decide (coinTotal s.view.coins = 2 * maxMoney)) = true := by decide
  obtain ⟨s, hrun, htotal⟩ := okAnd_iff.mp hok
  exact ⟨s, hrun, by simpa using htotal⟩

end GarudaChain
