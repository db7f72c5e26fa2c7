import GarudaChain.Node.Disconnect
import GarudaChain.Node.Proofs.ChainProofs

/-!
# Replaying a connected block

`RollforwardBlock` treats a mint transaction as an ordinary one and spends whatever its inputs name.
-/

namespace GarudaChain

/-- Every coin that an input of a mint transaction names, and that is there at this point of the
    block, is spent by a later transaction of the block. -/
def furtherInputsSpent (nHeight : Nat) : List CTransaction → Book → Prop
  | [], _ => True
  | tx :: vtx, book =>
    (isCBDCMintTx tx = true → ∀ txin ∈ tx.vin, txin.prevout ∈ book →
      ∃ t ∈ vtx, txin.prevout ∈ txSpends t) ∧
    furtherInputsSpent nHeight vtx ((txMove nHeight tx).apply book)

def rollforwardSpends (tx : CTransaction) : List COutPoint :=
  if tx.isCoinBase then [] else tx.vin.map CTxIn.prevout

theorem discardCoin_map (coins : Coins) (o : COutPoint) :
    (discardCoin coins o).map = coins.map.erase o := by
  rw [discardCoin]
  cases hspend : coins.spendCoin o with
  | none =>
    have hnot := Coins.spendCoin_eq_none_iff.mp hspend
    refine Finmap.ext_lookup fun k => ?_
    by_cases hk : k = o
    · subst hk
      rw [Finmap.lookup_erase, Finmap.lookup_eq_none.mpr hnot]
    · rw [Finmap.lookup_erase_ne hk]
  | some r =>
    obtain ⟨c, coins'⟩ := r
    rw [(Coins.spendCoin_eq_some_iff.mp hspend).2]
    rfl

theorem foldl_discardCoin_map (vin : List CTxIn) : ∀ coins : Coins,
    (vin.foldl (fun coins txin => discardCoin coins txin.prevout) coins).map =
      Ledger.spendAll coins.map (vin.map CTxIn.prevout) := by
  induction vin with
  | nil => intro coins; rfl
  | cons txin vin ih =>
    intro coins
    rw [List.foldl_cons, ih, discardCoin_map]
    rfl

theorem rollforwardTxs_cons {tx : CTransaction} (hnull : ∀ out ∈ tx.vout, out.isNull = false)
    (nHeight : Nat) (vtx : List CTransaction) (coins : Coins) :
    ∃ coins', rollforwardTxs nHeight (tx :: vtx) coins = rollforwardTxs nHeight vtx coins' ∧
      coins'.map = (⟨rollforwardSpends tx, txCreates tx nHeight⟩ : Ledger.Move _ _).apply coins.map := by
  have hspend : (if tx.isCoinBase then coins
      else tx.vin.foldl (fun coins txin => discardCoin coins txin.prevout) coins).map =
      Ledger.spendAll coins.map (rollforwardSpends tx) := by
    rw [rollforwardSpends]
    split
    · rfl
    · exact foldl_discardCoin_map tx.vin coins
  obtain ⟨coins', hok, hmap⟩ := Coins.addCoinsFrom_ok tx nHeight true tx.vout 0
    (if tx.isCoinBase then coins
      else tx.vin.foldl (fun coins txin => discardCoin coins txin.prevout) coins) hnull
    (fun h => by cases h)
  refine ⟨coins', ?_, ?_⟩
  · rw [rollforwardTxs, Coins.addCoins, hok]
    rfl
  · rw [hmap, hspend]
    rfl

theorem mem_rollforwardSpends {tx : CTransaction} : ∀ k ∈ txSpends tx, k ∈ rollforwardSpends tx := by
  intro k hk
  rw [txSpends] at hk
  split at hk
  · next hord =>
    simp only [isOrdinary, Bool.and_eq_true, Bool.not_eq_true'] at hord
    rwa [rollforwardSpends, hord.1, if_neg (by simp)]
  · cases hk

theorem rollforwardTxs_connected {env : Env} {pindex : CBlockIndex} {vtx : List CTransaction}
    {st st' : ConnectState} {vtxundo : List CTxUndo}
    (h : TxsConnected env pindex vtx st st' vtxundo) (hncb : ∀ tx ∈ vtx, tx.isCoinBase = false) :
    ∀ (P : COutPoint → Prop) (coins : Coins), Ledger.Lags P st.coins.map coins.map →
      (rollforwardTxs pindex.nHeight vtx coins = .ok st'.coins ↔
        (∀ k, P k → ∃ t ∈ vtx, k ∈ txSpends t) ∧
          furtherInputsSpent pindex.nHeight vtx st.coins.map) := by
  induction h with
  | nil st =>
    intro P coins hlag
    have heq : rollforwardTxs pindex.nHeight [] coins = .ok st.coins ↔ coins.map = st.coins.map := by
      rw [rollforwardTxs, Except.ok.injEq]
      exact ⟨fun h => h ▸ rfl, Coins.ext_map⟩
    rw [heq, hlag.eq_iff]
    simp [furtherInputsSpent]
  | @cons tx vtx st st₁ st₂ txundo vtxundo hd tl ih =>
    intro P coins hlag
    have hcb := hncb tx List.mem_cons_self
    obtain ⟨coins', hroll, hmap⟩ := rollforwardTxs_cons hd.update.notNull pindex.nHeight vtx coins
    have hstep := hlag.apply (t := txMove pindex.nHeight tx)
      mem_rollforwardSpends (txCreates_nodup tx pindex.nHeight)
      (fun k hk hmem => hd.update.fresh hcb ⟨k, hk, hmem⟩)
    rw [← hd.update.book] at hstep
    have hrest := ih (fun t ht => hncb t (List.mem_cons_of_mem _ ht)) _ coins' (by rw [hmap]; exact hstep)
    rw [hroll, hrest, furtherInputsSpent, ← hd.update.book]
    have hspends : rollforwardSpends tx = tx.vin.map CTxIn.prevout := by
      simp [rollforwardSpends, hcb]
    constructor
    · rintro ⟨hlater, hfurther⟩
      refine ⟨?_, ?_, hfurther⟩
      · intro k hk
        by_cases hks : k ∈ txSpends tx
        · exact ⟨tx, List.mem_cons_self, hks⟩
        · obtain ⟨t, ht, hkt⟩ := hlater k ⟨Or.inl hk, hks⟩
          exact ⟨t, List.mem_cons_of_mem _ ht, hkt⟩
      · intro hmint txin htxin hmem
        have hnone : txin.prevout ∉ txSpends tx := by
          simp [txSpends, isOrdinary_eq_false_of_mint hmint]
        exact hlater _ ⟨Or.inr ⟨by rw [hspends]; exact List.mem_map_of_mem htxin, hmem⟩, hnone⟩
    · rintro ⟨hP, hmint, hfurther⟩
      refine ⟨?_, hfurther⟩
      rintro k ⟨hPk | ⟨hk, hmem⟩, hks⟩
      · obtain ⟨t, ht, hkt⟩ := hP k hPk
        rcases List.mem_cons.mp ht with rfl | ht
        · exact absurd hkt hks
        · exact ⟨t, ht, hkt⟩
      · -- an input that the transaction itself does not spend is one of a mint transaction
        rw [hspends] at hk
        have hm : isCBDCMintTx tx = true := by
          cases hm : isCBDCMintTx tx with
          | true => rfl
          | false =>
            have hord : isOrdinary tx = true := by simp [isOrdinary, hcb, hm]
            have hmine : txSpends tx = tx.vin.map CTxIn.prevout := by simp [txSpends, hord]
            rw [← hmine] at hk
            exact absurd hk hks
        obtain ⟨txin, htxin, rfl⟩ := List.mem_map.mp hk
        exact hmint hm txin htxin hmem

/-- Replaying an accepted block gives the coins that connecting it gave, if and only if every coin that
    a mint transaction of it names as an input is spent later in the block. -/
theorem rollforwardBlock_connectBlock_iff {env : Env} {block : CBlock} {pindex : CBlockIndex}
    {view view' : CCoinsView} {fJustCheck : Bool} {undo : Option CBlockUndo}
    (hok : connectBlock env block pindex view fJustCheck = .ok (view', undo))
    (hgen : isGenesis env block = false) :
    rollforwardBlock block pindex view.coins = .ok view'.coins ↔
      furtherInputsSpent pindex.nHeight block.vtx view.coins.map := by
  rcases connectBlock_cases hok with ⟨hg, -, -⟩ | ⟨-, vtxundo, prev, coinbase, vtx, st₀, st,
    undo₀, -, hb⟩
  · simp [isGenesis, hg] at hgen
  · have hcb := hb.isCoinBase
    -- the coinbase spends nothing and may overwrite in both loops
    obtain ⟨coins', hroll, hmap⟩ :=
      rollforwardTxs_cons hb.first.update.notNull pindex.nHeight vtx view.coins
    have hsame : coins'.map = st₀.coins.map := by
      rw [hmap, hb.first.update.book, rollforwardSpends, hcb, txMove, txSpends,
        isOrdinary_eq_false_of_coinBase hcb]
      rfl
    have hlag : Ledger.Lags (fun _ => False) st₀.coins.map coins'.map := by
      rw [hsame]
      exact Ledger.Lags.refl _
    have hrest := rollforwardTxs_connected hb.rest hb.notCoinBase _ coins' hlag
    rw [rollforwardBlock, hb.vtx_eq, hroll, hb.coins_eq, hrest, furtherInputsSpent,
      isCBDCMintTx_of_isCoinBase hcb, hb.first.update.book]
    simp

/-- A coin of 50000 satoshis on top of the genesis block. -/
def coinView : CCoinsView :=
  ⟨Coins.empty.insert ⟨0x77, 0⟩ ⟨sampleOut 50000, false, 1⟩ ⟨by decide, by decide⟩,
    mainParams.hashGenesisBlock⟩

def spendingBlock : CBlock :=
  sampleBlock 0x10 mainParams.hashGenesisBlock
    [sampleCoinbase 0x30 1000000, sampleSpend 0x40 ⟨0x77, 0⟩ 50000]

def furtherInputBlock : CBlock :=
  sampleBlock 0x10 mainParams.hashGenesisBlock
    [sampleCoinbase 0x30 1000000,
      sampleMint 0x20 [⟨0x77, 0⟩] [sampleOut 100000, sampleFeeOut 100]]

theorem rollforwardBlock_spendingBlock : ∃ view' undo,
    connectBlock (sampleEnv none) spendingBlock (sampleIndex spendingBlock) coinView false =
      .ok (view', undo) ∧
    rollforwardBlock spendingBlock (sampleIndex spendingBlock) coinView.coins = .ok view'.coins := by
  have hok : okAnd (connectBlock (sampleEnv none) spendingBlock (sampleIndex spendingBlock) coinView
      false) (fun _ => true) = true := by decide
  obtain ⟨⟨view', undo⟩, hconnect, -⟩ := okAnd_iff.mp hok
  refine ⟨view', undo, hconnect, (rollforwardBlock_connectBlock_iff hconnect (by decide)).mpr ?_⟩
  refine ⟨fun h => absurd h (by decide), fun h => absurd h (by decide), trivial⟩

/-- The coin survives when the block with the mint transaction is connected, and is lost when it is
    replayed. -/
theorem rollforwardBlock_furtherInputBlock : ∃ view' undo coins,
    connectBlock (sampleEnv none) furtherInputBlock (sampleIndex furtherInputBlock) coinView false =
      .ok (view', undo) ∧
    rollforwardBlock furtherInputBlock (sampleIndex furtherInputBlock) coinView.coins = .ok coins ∧
    view'.coins.haveCoin ⟨0x77, 0⟩ = true ∧ coins.haveCoin ⟨0x77, 0⟩ = false := by
  have hok : okAnd (connectBlock (sampleEnv none) furtherInputBlock (sampleIndex furtherInputBlock)
      coinView false) (fun r => r.1.coins.haveCoin ⟨0x77, 0⟩) = true := by decide
  have hroll : okAnd (rollforwardBlock furtherInputBlock (sampleIndex furtherInputBlock)
      coinView.coins) (fun coins => !coins.haveCoin ⟨0x77, 0⟩) = true := by decide
  obtain ⟨⟨view', undo⟩, hconnect, hhave⟩ := okAnd_iff.mp hok
  obtain ⟨coins, hcoins, hgone⟩ := okAnd_iff.mp hroll
  exact ⟨view', undo, coins, hconnect, hcoins, hhave, by simpa using hgone⟩

end GarudaChain
