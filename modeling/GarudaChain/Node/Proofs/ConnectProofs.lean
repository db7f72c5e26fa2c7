import GarudaChain.Node.Proofs.TxProofs

/-!
# What an accepted block has passed
-/

namespace GarudaChain

/-- What `CheckBlock` establishes about the transactions of a block. -/
structure CheckedBlock (block : CBlock) : Prop where
  coinbase_first : ∃ coinbase vtx, block.vtx = coinbase :: vtx ∧ coinbase.isCoinBase = true ∧
    ∀ tx ∈ vtx, tx.isCoinBase = false
  txs : ∀ tx ∈ block.vtx, CheckedTx tx

theorem checkTransactions_spec (vtx : List CTransaction) : ∀ u : Unit,
    checkTransactions vtx = .ok u → ∀ tx ∈ vtx, CheckedTx tx := by
  induction vtx with
  | nil => intro u _ tx htx; cases htx
  | cons tx vtx ih =>
    intro u h t ht
    rw [checkTransactions] at h
    obtain ⟨_, htx, hrest⟩ := bind_eq_ok.mp h
    rcases List.mem_cons.mp ht with rfl | ht
    · exact checkTransaction_spec (asBlockFailure_eq_ok.mp htx)
    · exact ih u hrest t ht

variable {env : Env} {pindex : CBlockIndex} {st st' : ConnectState} {tx : CTransaction} {block : CBlock}
  {vtx : List CTransaction} {vtxundo : List CTxUndo}

theorem checkBlock_spec {fCheckPOW fCheckMerkleRoot : Bool} {u : Unit}
    (h : checkBlock env block fCheckPOW fCheckMerkleRoot = .ok u) : CheckedBlock block := by
  rw [checkBlock] at h
  obtain ⟨_, -, h⟩ := bind_eq_ok.mp h
  obtain ⟨_, -, h⟩ := bind_eq_ok.mp h
  obtain ⟨_, -, h⟩ := bind_eq_ok.mp h
  obtain ⟨_, hlength, h⟩ := bind_eq_ok.mp h
  obtain ⟨_, hmissing, h⟩ := bind_eq_ok.mp h
  obtain ⟨_, hmultiple, h⟩ := bind_eq_ok.mp h
  obtain ⟨_, htxs, -⟩ := bind_eq_ok.mp h
  refine ⟨?_, checkTransactions_spec block.vtx _ htxs⟩
  cases hvtx : block.vtx with
  | nil => simp [hvtx] at hlength
  | cons coinbase vtx => exact ⟨coinbase, vtx, rfl, by simpa [hvtx] using hmissing,
      by simpa [hvtx] using hmultiple⟩

theorem recheckBlock_spec {fJustCheck : Bool} {u : Unit}
    (h : recheckBlock env block fJustCheck = .ok u) : CheckedBlock block := by
  rw [recheckBlock] at h
  split at h
  · cases h
  · exact checkBlock_spec h

@[simp] theorem ConnectState.init_coins (coins : Coins) : (ConnectState.init coins).coins = coins :=
  rfl

/-- How a transaction passed the checks of the loop, and what the loop's counters became. -/
inductive TxPassed (env : Env) (pindex : CBlockIndex) (tx : CTransaction) (st st' : ConnectState) :
    Prop
  | coinbase (hcb : tx.isCoinBase = true) (hfees : st'.nFees = st.nFees)
      (hcount : st'.cbdcMintCount = st.cbdcMintCount)
      (htotal : st'.cbdcMintTotal = st.cbdcMintTotal)
  | mint (hmint : isCBDCMintTx tx = true)
      (hcheck : checkCBDCMintInBlock env.crypto env.authority tx = .ok ())
      (hfees : st'.nFees = st.nFees) (hcount : st'.cbdcMintCount = st.cbdcMintCount + 1)
      (hmax : st'.cbdcMintCount ≤ maxMintTxsPerBlock)
      (htotal : st'.cbdcMintTotal =
        tx.vout.foldl (fun total out => wrap64 (total + out.nValue)) st.cbdcMintTotal)
      (hlimit : st'.cbdcMintTotal ≤ maxMintPerBlock)
  | ordinary (hord : isOrdinary tx = true) (txfee : Int)
      (hcheck : checkTxInputs tx st.coins pindex.nHeight = .ok txfee)
      (hfees : st'.nFees = wrap64 (st.nFees + txfee)) (hrange : moneyRange st'.nFees = true)
      (hcount : st'.cbdcMintCount = st.cbdcMintCount)
      (htotal : st'.cbdcMintTotal = st.cbdcMintTotal)

structure SameCounters (st st' : ConnectState) : Prop where
  coins : st'.coins = st.coins
  nFees : st'.nFees = st.nFees
  count : st'.cbdcMintCount = st.cbdcMintCount
  total : st'.cbdcMintTotal = st.cbdcMintTotal

theorem connectSigOps_spec (h : connectSigOps env pindex tx st = .ok st') : SameCounters st st' := by
  rw [connectSigOps] at h
  obtain ⟨_, -, h⟩ := bind_eq_ok.mp h
  obtain ⟨_, -, hret⟩ := bind_eq_ok.mp h
  cases hret
  exact ⟨rfl, rfl, rfl, rfl⟩

theorem connectScripts_spec (h : connectScripts env pindex tx st = .ok st') :
    SameCounters st st' := by
  rw [connectScripts] at h
  split at h
  · obtain ⟨_, -, hret⟩ := bind_eq_ok.mp h
    cases hret
    exact ⟨rfl, rfl, rfl, rfl⟩
  · cases h
    exact ⟨rfl, rfl, rfl, rfl⟩

theorem connectMint_spec (h : connectMint env tx st = .ok st') :
    checkCBDCMintInBlock env.crypto env.authority tx = .ok () ∧
      st'.cbdcMintCount ≤ maxMintTxsPerBlock ∧ st'.cbdcMintTotal ≤ maxMintPerBlock ∧
      st' = { st with
        cbdcMintCount := st.cbdcMintCount + 1
        cbdcMintTotal :=
          tx.vout.foldl (fun total out => wrap64 (total + out.nValue)) st.cbdcMintTotal } := by
  rw [connectMint] at h
  obtain ⟨_, hcheck, h⟩ := bind_eq_ok.mp h
  obtain ⟨_, hcount, h⟩ := bind_eq_ok.mp h
  obtain ⟨_, htotal, hret⟩ := bind_eq_ok.mp h
  cases hret
  exact ⟨hcheck, by simpa using hcount, by simpa using htotal, rfl⟩

theorem connectInputs_spec (h : connectInputs env pindex tx st = .ok st') :
    ∃ txfee, checkTxInputs tx st.coins pindex.nHeight = .ok txfee ∧
      moneyRange st'.nFees = true ∧ st' = { st with nFees := wrap64 (st.nFees + txfee) } := by
  rw [connectInputs] at h
  obtain ⟨txfee, hcheck, h⟩ := bind_eq_ok.mp h
  obtain ⟨_, hrange, h⟩ := bind_eq_ok.mp h
  obtain ⟨_, -, h⟩ := bind_eq_ok.mp h
  obtain ⟨_, -, hret⟩ := bind_eq_ok.mp h
  cases hret
  exact ⟨txfee, asBlockFailure_eq_ok.mp hcheck, by simpa using hrange, rfl⟩

theorem checkTx_spec (h : checkTx env pindex tx st = .ok st') :
    st'.coins = st.coins ∧ TxPassed env pindex tx st st' := by
  rw [checkTx] at h
  obtain ⟨st₁, hbranch, h⟩ := bind_eq_ok.mp h
  obtain ⟨st₂, hsig, hscripts⟩ := bind_eq_ok.mp h
  have hsame₂ := connectSigOps_spec hsig
  have hsame₃ : SameCounters st₂ st' := by
    split at hscripts
    · exact connectScripts_spec hscripts
    · cases hscripts
      exact ⟨rfl, rfl, rfl, rfl⟩
  have hcoins := hsame₃.coins.trans hsame₂.coins
  have hnFees := hsame₃.nFees.trans hsame₂.nFees
  have hcount := hsame₃.count.trans hsame₂.count
  have htotal := hsame₃.total.trans hsame₂.total
  split at hbranch
  · next hcb =>
    cases hbranch
    exact ⟨hcoins, .coinbase hcb hnFees hcount htotal⟩
  · next hcb =>
    split at hbranch
    · next hmint =>
      obtain ⟨hcheck, hmax, hlimit, rfl⟩ := connectMint_spec hbranch
      exact ⟨hcoins, .mint hmint hcheck hnFees hcount (hcount ▸ hmax) htotal (htotal ▸ hlimit)⟩
    · next hmint =>
      obtain ⟨txfee, hcheck, hrange, rfl⟩ := connectInputs_spec hbranch
      have hord : isOrdinary tx = true := by simp [isOrdinary, hcb, hmint]
      exact ⟨hcoins, .ordinary hord txfee hcheck hnFees (hnFees ▸ hrange) hcount htotal⟩

structure TxConnected (env : Env) (pindex : CBlockIndex) (tx : CTransaction)
    (st st' : ConnectState) (txundo : CTxUndo) : Prop where
  passed : TxPassed env pindex tx st st'
  update : UpdateSpec tx pindex.nHeight st.coins st'.coins txundo

theorem connectTx_spec {txundo : CTxUndo} (h : connectTx env pindex tx st = .ok (st', txundo)) :
    TxConnected env pindex tx st st' txundo := by
  rw [connectTx] at h
  obtain ⟨st₁, hcheck, h⟩ := bind_eq_ok.mp h
  obtain ⟨⟨coins, undo⟩, hupdate, hret⟩ := bind_eq_ok.mp h
  cases hret
  obtain ⟨hcoins, hpassed⟩ := checkTx_spec hcheck
  rw [hcoins] at hupdate
  refine ⟨?_, updateCoins_spec hupdate⟩
  cases hpassed with
  | coinbase hcb hfees hcount htotal => exact .coinbase hcb hfees hcount htotal
  | mint hmint hc hfees hcount hmax htotal hlimit =>
    exact .mint hmint hc hfees hcount hmax htotal hlimit
  | ordinary hord txfee hc hfees hrange hcount htotal =>
    exact .ordinary hord txfee hc hfees hrange hcount htotal

/-- A run of the loop over some transactions. -/
inductive TxsConnected (env : Env) (pindex : CBlockIndex) :
    List CTransaction → ConnectState → ConnectState → List CTxUndo → Prop
  | nil (st : ConnectState) : TxsConnected env pindex [] st st []
  | cons {tx : CTransaction} {vtx : List CTransaction} {st st₁ st₂ : ConnectState}
      {txundo : CTxUndo} {vtxundo : List CTxUndo}
      (hd : TxConnected env pindex tx st st₁ txundo)
      (tl : TxsConnected env pindex vtx st₁ st₂ vtxundo) :
      TxsConnected env pindex (tx :: vtx) st st₂ (txundo :: vtxundo)

theorem connectTxs_spec (vtx : List CTransaction) :
    ∀ (st st' : ConnectState) (vtxundo : List CTxUndo),
      connectTxs env pindex vtx st = .ok (st', vtxundo) →
        TxsConnected env pindex vtx st st' vtxundo := by
  induction vtx with
  | nil =>
    intro st st' vtxundo h
    cases h
    exact .nil st
  | cons tx vtx ih =>
    intro st st' vtxundo h
    rw [connectTxs] at h
    obtain ⟨⟨st₁, txundo⟩, hd, h⟩ := bind_eq_ok.mp h
    obtain ⟨⟨st₂, rest⟩, htl, hret⟩ := bind_eq_ok.mp h
    cases hret
    exact .cons (connectTx_spec hd) (ih _ _ _ htl)

theorem TxsConnected.length
    (h : TxsConnected env pindex vtx st st' vtxundo) : vtxundo.length = vtx.length := by
  induction h with
  | nil st => rfl
  | cons hd tl ih => rw [List.length_cons, List.length_cons, ih]

theorem TxsConnected.book (h : TxsConnected env pindex vtx st st' vtxundo) :
    st'.coins.map = bookAfter pindex.nHeight vtx st.coins.map := by
  induction h with
  | nil st => rfl
  | cons hd tl ih => rw [ih, bookAfter_cons, hd.update.book]

theorem TxsConnected.mintsPass
    (h : TxsConnected env pindex vtx st st' vtxundo) : ∀ tx ∈ vtx, isCBDCMintTx tx = true →
      checkCBDCMintInBlock env.crypto env.authority tx = .ok () := by
  induction h with
  | nil st => intro tx htx; cases htx
  | @cons tx vtx st st₁ st₂ txundo vtxundo hd tl ih =>
    intro t ht hmint
    rcases List.mem_cons.mp ht with rfl | ht
    · cases hd.passed with
      | coinbase hcb _ _ _ => simp [isCoinBase_of_isCBDCMintTx hmint] at hcb
      | ordinary hord _ _ _ _ _ _ => simp [isOrdinary, hmint] at hord
      | mint _ hcheck _ _ _ _ _ => exact hcheck
    · exact ih t ht hmint

/-- What `ConnectBlock` has done with a block, other than the genesis block, that it accepted. -/
structure BlockConnected (env : Env) (block : CBlock) (pindex : CBlockIndex)
    (view : CCoinsView) (coins' : Coins) (vtxundo : CBlockUndo) (prev : CBlockIndex)
    (coinbase : CTransaction) (vtx : List CTransaction) (st₀ st : ConnectState)
    (undo₀ : CTxUndo) : Prop where
  pprev : pindex.pprev = some prev
  best : prev.getBlockHash = view.hashBlock
  vtx_eq : block.vtx = coinbase :: vtx
  isCoinBase : coinbase.isCoinBase = true
  notCoinBase : ∀ tx ∈ vtx, tx.isCoinBase = false
  checked : ∀ tx ∈ block.vtx, CheckedTx tx
  bip30 : enforceBIP30 env.params pindex prev = true →
    ∀ tx ∈ block.vtx, haveAnyOutput view.coins tx = false
  first : TxConnected env pindex coinbase (.init view.coins) st₀ undo₀
  rest : TxsConnected env pindex vtx st₀ st vtxundo
  reward : outputsValue coinbase.vout ≤
    wrap64 (st.nFees + getBlockSubsidy env.mintFile pindex.nHeight)
  coins_eq : coins' = st.coins

theorem connectBlock_cases {view view' : CCoinsView} {fJustCheck : Bool} {undo : Option CBlockUndo}
    (h : connectBlock env block pindex view fJustCheck = .ok (view', undo)) :
    (block.getHash = env.params.hashGenesisBlock ∧ view'.coins = view.coins ∧ undo = none) ∨
    (block.getHash ≠ env.params.hashGenesisBlock ∧
      ∃ vtxundo prev coinbase vtx st₀ st undo₀, undo = (if fJustCheck then none else some vtxundo) ∧
        BlockConnected env block pindex view view'.coins vtxundo prev coinbase vtx st₀ st undo₀) := by
  rw [connectBlock] at h
  obtain ⟨_, -, h⟩ := bind_eq_ok.mp h
  obtain ⟨_, hcheck, h⟩ := bind_eq_ok.mp h
  obtain ⟨_, hbest, h⟩ := bind_eq_ok.mp h
  have hblock := recheckBlock_spec hcheck
  obtain ⟨coinbase, vtx, hvtx, hcb, hncb⟩ := hblock.coinbase_first
  split at h
  · next hgen =>
    left
    cases h
    refine ⟨by simpa using hgen, ?_, rfl⟩
    cases fJustCheck <;> rfl
  · next hgen =>
    right
    refine ⟨by simpa using hgen, ?_⟩
    split at h
    · cases h
    · next prev hprev =>
      obtain ⟨⟨coins, vtxundo⟩, hbody, hret⟩ := bind_eq_ok.mp h
      rw [connectBlockBody] at hbody
      obtain ⟨_, hbip30, hbody⟩ := bind_eq_ok.mp hbody
      obtain ⟨⟨st, vtxundo'⟩, hloop, hbody⟩ := bind_eq_ok.mp hbody
      obtain ⟨_, hreward, hbody⟩ := bind_eq_ok.mp hbody
      cases hbody
      rw [hvtx, connectVtx] at hloop
      obtain ⟨⟨st₀, undo₀⟩, hfirst, hrest⟩ := bind_eq_ok.mp hloop
      rw [hvtx, checkReward] at hreward
      obtain ⟨valueOut, hvalue, hreward⟩ := bind_eq_ok.mp hreward
      obtain ⟨_, hamount, -⟩ := bind_eq_ok.mp hreward
      obtain ⟨hexact, -⟩ := getValueOut_spec hvalue
      refine ⟨vtxundo, prev, coinbase, vtx, st₀, st, undo₀, ?_, hprev, ?_, hvtx, hcb, hncb,
        hblock.txs, ?_, connectTx_spec hfirst, connectTxs_spec _ _ _ _ hrest, ?_, ?_⟩
      · cases fJustCheck <;> cases hret <;> rfl
      · simpa [hprev] using hbest
      · intro henf tx htx
        simp only [rejectBlockIf_eq_ok, henf, Bool.true_and, List.any_eq_false] at hbip30
        simpa using hbip30 tx htx
      · rw [← hexact]
        simpa using hamount
      · cases fJustCheck <;> cases hret <;> rfl

end GarudaChain
