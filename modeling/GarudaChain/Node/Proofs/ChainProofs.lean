import GarudaChain.Node.Chain
import GarudaChain.Node.Proofs.ConnectProofs

/-!
# Runs of accepted blocks
-/

namespace GarudaChain

/-- A run of transactions through `UpdateCoins`, each at the height of its block. -/
inductive TxRun : List (Nat × CTransaction) → Coins → Coins → Prop
  | nil (coins : Coins) : TxRun [] coins coins
  | cons {nHeight : Nat} {tx : CTransaction} {txs : List (Nat × CTransaction)}
      {coins coins₁ coins₂ : Coins} {txundo : CTxUndo}
      (hd : UpdateSpec tx nHeight coins coins₁ txundo) (tl : TxRun txs coins₁ coins₂) :
      TxRun ((nHeight, tx) :: txs) coins coins₂

theorem TxRun.append {txs txs' : List (Nat × CTransaction)} {coins coins₁ coins₂ : Coins}
    (h : TxRun txs coins coins₁) (h' : TxRun txs' coins₁ coins₂) :
    TxRun (txs ++ txs') coins coins₂ := by
  induction h with
  | nil coins => exact h'
  | cons hd tl ih => exact .cons hd (ih h')

theorem TxRun.book {txs : List (Nat × CTransaction)} {coins coins' : Coins}
    (h : TxRun txs coins coins') : coins'.map = chainBook txs coins.map := by
  induction h with
  | nil coins => rfl
  | cons hd tl ih => rw [ih, hd.book]; rfl

theorem TxRun.split {nHeight : Nat} {tx : CTransaction} {post : List (Nat × CTransaction)} :
    ∀ {pre : List (Nat × CTransaction)} {coins coins' : Coins},
      TxRun (pre ++ (nHeight, tx) :: post) coins coins' →
      ∃ coins₁ coins₂ txundo, coins₁.map = chainBook pre coins.map ∧
        UpdateSpec tx nHeight coins₁ coins₂ txundo := by
  intro pre
  induction pre with
  | nil =>
    intro coins coins' h
    cases h with
    | cons hd tl => exact ⟨coins, _, _, rfl, hd⟩
  | cons t pre ih =>
    intro coins coins' h
    cases h with
    | cons hd tl =>
      obtain ⟨coins₁, coins₂, txundo, hbook, hup⟩ := ih tl
      refine ⟨coins₁, coins₂, txundo, ?_, hup⟩
      rw [hbook, hd.book]
      rfl

theorem TxsConnected.txRun {env : Env} {pindex : CBlockIndex} {vtx : List CTransaction}
    {st st' : ConnectState} {vtxundo : List CTxUndo}
    (h : TxsConnected env pindex vtx st st' vtxundo) :
    TxRun (vtx.map (Prod.mk pindex.nHeight)) st.coins st'.coins := by
  induction h with
  | nil st => exact .nil st.coins
  | cons hd tl ih => exact .cons hd.update ih

theorem connectBlock_txRun {env : Env} {block : CBlock} {pindex : CBlockIndex}
    {view view' : CCoinsView} {fJustCheck : Bool} {undo : Option CBlockUndo}
    (h : connectBlock env block pindex view fJustCheck = .ok (view', undo)) :
    TxRun (blockTxs env block pindex.nHeight) view.coins view'.coins := by
  rcases connectBlock_cases h with ⟨hgen, hcoins, -⟩ | ⟨hgen, vtxundo, prev, coinbase, vtx, st₀, st,
    undo₀, -, hb⟩
  · rw [blockTxs, isGenesis, if_pos (by simpa using hgen), hcoins]
    exact .nil view.coins
  · rw [blockTxs, isGenesis, if_neg (by simpa using hgen), hb.vtx_eq, List.map_cons, hb.coins_eq]
    exact .cons hb.first.update hb.rest.txRun

theorem connectTip_spec {env : Env} {block : CBlock} {s s' : ChainState}
    (h : connectTip env block s = .ok s') :
    ∃ undo, connectBlock env block (s.nextIndex block) s.view false = .ok (s'.view, undo) ∧
      s'.tip = some (s.nextIndex block) ∧ s'.nextHeight = s.nextHeight + 1 := by
  rw [connectTip] at h
  obtain ⟨⟨view, undo⟩, hconnect, hret⟩ := bind_eq_ok.mp h
  cases hret
  refine ⟨undo, hconnect, rfl, ?_⟩
  rw [ChainState.nextHeight, ← ChainState.nextIndex_nHeight s block]

theorem connectChain_txRun (steps : List (Env × CBlock)) : ∀ {s s' : ChainState},
    connectChain steps s = .ok s' →
      TxRun (chainTxs steps s.nextHeight) s.view.coins s'.view.coins := by
  induction steps with
  | nil =>
    intro s s' h
    cases h
    exact .nil s.view.coins
  | cons step steps ih =>
    intro s s' h
    obtain ⟨env, block⟩ := step
    rw [connectChain] at h
    obtain ⟨s₁, htip, hrest⟩ := bind_eq_ok.mp h
    obtain ⟨undo, hconnect, -, hheight⟩ := connectTip_spec htip
    have hblock := connectBlock_txRun hconnect
    have htail := ih hrest
    rw [ChainState.nextIndex_nHeight] at hblock
    rw [hheight] at htail
    exact hblock.append htail

/-- The transaction is the mint transaction `mint`: it has the same txid, and the same outputs, to
    which the txid commits. -/
def isCopyOf (mint tx : CTransaction) : Bool :=
  isCBDCMintTx tx && tx.getHash == mint.getHash && tx.vout == mint.vout

def createsCoins (tx : CTransaction) : Bool :=
  tx.vout.any fun out => !isUnspendable out.scriptPubKey

def timesConnected (mint : CTransaction) (txs : List (Nat × CTransaction)) : Nat :=
  (txs.filter fun t => isCopyOf mint t.2).length

theorem exists_split_of_two_le_length_filter {α : Type} (p : α → Bool) : ∀ l : List α,
    2 ≤ (l.filter p).length →
      ∃ pre x post, l = pre ++ x :: post ∧ p x = true ∧ ∃ y ∈ pre, p y = true := by
  intro l
  induction l with
  | nil => intro h; simp at h
  | cons a l ih =>
    intro h
    cases ha : p a with
    | false =>
      rw [List.filter_cons_of_neg (by simp [ha])] at h
      obtain ⟨pre, x, post, rfl, hx, y, hy, hpy⟩ := ih h
      exact ⟨a :: pre, x, post, rfl, hx, y, List.mem_cons_of_mem _ hy, hpy⟩
    | true =>
      rw [List.filter_cons_of_pos ha, List.length_cons] at h
      -- any other element that passes the test has `a` before it
      obtain ⟨x, hx⟩ := List.exists_mem_of_length_pos (l := l.filter p) (by omega)
      obtain ⟨hmem, hpx⟩ := List.mem_filter.mp hx
      obtain ⟨pre, post, rfl⟩ := List.append_of_mem hmem
      exact ⟨a :: pre, x, post, rfl, hpx, a, List.mem_cons_self, ha⟩

theorem TxRun.mint_fresh {nHeight : Nat} {tx : CTransaction} {pre post : List (Nat × CTransaction)}
    {coins coins' : Coins} (h : TxRun (pre ++ (nHeight, tx) :: post) coins coins')
    (hmint : isCBDCMintTx tx = true) :
    ∀ k ∈ (txCreates tx nHeight).map Prod.fst, k ∉ chainBook pre coins.map := by
  intro k hk hmem
  obtain ⟨coins₁, coins₂, txundo, hbook, hup⟩ := h.split
  refine hup.fresh (isCoinBase_of_isCBDCMintTx hmint) ⟨k, hk, ?_⟩
  have hspends : txSpends tx = [] := by simp [txSpends, isOrdinary_eq_false_of_mint hmint]
  rw [hspends, hbook]
  exact hmem

theorem createsFrom_keys {tx tx' : CTransaction} (hhash : tx.getHash = tx'.getHash)
    (nHeight nHeight' : Nat) (vout : List CTxOut) : ∀ i,
    (createsFrom tx nHeight i vout).map Prod.fst = (createsFrom tx' nHeight' i vout).map Prod.fst := by
  induction vout with
  | nil => exact fun _ => rfl
  | cons out vout ih =>
    intro i
    rw [createsFrom, createsFrom]
    split_ifs
    · exact ih (i + 1)
    · rw [List.map_cons, List.map_cons, ih (i + 1), hhash]

theorem isCopyOf.keys {mint tx : CTransaction} (h : isCopyOf mint tx = true) (nHeight nHeight' : Nat) :
    (txCreates tx nHeight).map Prod.fst = (txCreates mint nHeight').map Prod.fst := by
  simp only [isCopyOf, Bool.and_eq_true, beq_iff_eq] at h
  rw [txCreates, txCreates, h.2]
  exact createsFrom_keys h.1.2 nHeight nHeight' mint.vout 0

/-- A coin that no transaction spends is there once it was created. -/
theorem mem_chainBook_of_unspent {k : COutPoint} (txs : List (Nat × CTransaction)) :
    ∀ book : Ledger.Book COutPoint Coin, (∀ t ∈ txs, k ∉ txSpends t.2) →
      (k ∈ book ∨ ∃ t ∈ txs, k ∈ (txCreates t.2 t.1).map Prod.fst) → k ∈ chainBook txs book := by
  induction txs with
  | nil =>
    rintro book - (hk | ⟨t, ht, -⟩)
    · exact hk
    · cases ht
  | cons t txs ih =>
    intro book hspends hk
    obtain ⟨hhead, htail⟩ := List.forall_mem_cons.mp hspends
    refine ih ((txMove t.1 t.2).apply book) htail ?_
    rw [Ledger.Move.apply, Ledger.mem_createAll, Ledger.mem_spendAll]
    rcases hk with hk | ⟨t', ht', hcreates⟩
    · exact .inl (.inl ⟨hk, hhead⟩)
    · rcases List.mem_cons.mp ht' with rfl | ht'
      · exact .inl (.inr hcreates)
      · exact .inr ⟨t', ht', hcreates⟩

/-- An accepted chain of which no transaction spends a certain coin of a mint transaction connects this
    mint at most once. -/
theorem mint_connected_once {steps : List (Env × CBlock)} {s : ChainState}
    (hrun : connectChain steps .empty = .ok s) (mint : CTransaction)
    (hunspent : ∃ k ∈ (txCreates mint 0).map Prod.fst, ∀ t ∈ chainTxs steps 0, k ∉ txSpends t.2) :
    timesConnected mint (chainTxs steps 0) ≤ 1 := by
  have htxs : TxRun (chainTxs steps 0) Coins.empty s.view.coins := connectChain_txRun steps hrun
  obtain ⟨k, hk, hspends⟩ := hunspent
  by_contra hmany
  obtain ⟨pre, ⟨nHeight, tx⟩, post, heq, hcopy, t, ht, htcopy⟩ :=
    exists_split_of_two_le_length_filter (fun t => isCopyOf mint t.2) (chainTxs steps 0)
      (by rw [timesConnected] at hmany; omega)
  rw [heq] at htxs hspends
  -- the coin of the first copy is still there when the second one comes
  have hthere : k ∈ chainBook pre Coins.empty.map := by
    refine mem_chainBook_of_unspent pre _ (fun t ht => hspends t (List.mem_append_left _ ht))
      (.inr ⟨t, ht, ?_⟩)
    rw [isCopyOf.keys htcopy t.1 0]
    exact hk
  have hmint : isCBDCMintTx tx = true := by
    simp only [isCopyOf, Bool.and_eq_true] at hcopy
    exact hcopy.1.1
  exact htxs.mint_fresh hmint k (by rw [isCopyOf.keys hcopy nHeight 0]; exact hk) hthere

def repeatedMint : CTransaction := sampleMint 0x20 [] [sampleOut 100000, sampleFeeOut 100]

/-- Genesis and a block with the mint transaction. -/
def singleMintRun : List (Env × CBlock) :=
  [(sampleEnv none, sampleGenesis),
    (sampleEnv none, sampleBlock 0x11 mainParams.hashGenesisBlock
      [sampleCoinbase 0x31 1000000, repeatedMint])]

def doubleMintRun : List (Env × CBlock) := singleMintRun ++
  [(sampleEnv none, sampleBlock 0x12 0x11
      [sampleCoinbase 0x32 1000000, sampleSpend 0x42 ⟨0x20, 0⟩ 100000]),
    (sampleEnv none, sampleBlock 0x13 0x12 [sampleCoinbase 0x33 1000000, repeatedMint])]

theorem mint_connected_once_singleMintRun :
    timesConnected repeatedMint (chainTxs singleMintRun 0) ≤ 1 := by
  have hok : okAnd (connectChain singleMintRun .empty) (fun _ => true) = true := by decide
  obtain ⟨s, hrun, -⟩ := okAnd_iff.mp hok
  exact mint_connected_once hrun repeatedMint ⟨⟨0x20, 0⟩, by decide, by decide⟩

/-- A mint transaction whose coin was spent is accepted a second time. -/
theorem mint_connected_twice : ∃ s, connectChain doubleMintRun .empty = .ok s ∧
    createsCoins repeatedMint = true ∧
    timesConnected repeatedMint (chainTxs doubleMintRun 0) = 2 := by
  have hok : okAnd (connectChain doubleMintRun .empty) (fun _ => true) = true := by decide
  obtain ⟨s, hrun, -⟩ := okAnd_iff.mp hok
  exact ⟨s, hrun, by decide, by decide⟩

end GarudaChain
