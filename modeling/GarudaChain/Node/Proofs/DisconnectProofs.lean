import GarudaChain.Node.Disconnect
import GarudaChain.Node.Proofs.ChainProofs
import GarudaChain.Node.Proofs.CompressorProofs
import GarudaChain.Node.Proofs.SupplyProofs

/-!
# Disconnecting what was connected
-/

namespace GarudaChain

def HeightsPos (coins : Coins) : Prop := Ledger.Forall (fun c : Coin => 0 < c.nHeight) coins.map

/-- The undo data is read back as it was written. -/
def UndoKept (undo : Option CBlockUndo) : Prop :=
  ∀ vtxundo ∈ undo, ∀ txundo ∈ vtxundo, ∀ c ∈ txundo, c.reread = c

instance (undo : Option CBlockUndo) : Decidable (UndoKept undo) :=
  inferInstanceAs (Decidable (∀ vtxundo ∈ undo, _))

theorem Coin.reread_eq {c : Coin} (hpos : 0 ≤ c.out.nValue) (hle : c.out.nValue ≤ largestStored) :
    c.reread = c := by
  rw [largestStored] at hle
  have hmod : c.out.nValue % 2 ^ 64 = c.out.nValue := Int.emod_eq_of_lt hpos (by omega)
  rw [Coin.reread, hmod, decompressAmount_compressAmount_of_le (by rw [largestStored]; omega),
    Int.toNat_of_nonneg hpos, Int64Lib.wrap64_of_range (by omega) (by omega)]

theorem UndoKept.readUndo_eq {vtxundo : CBlockUndo} (h : UndoKept (some vtxundo)) :
    readUndo vtxundo = vtxundo := by
  have hkept : ∀ txundo ∈ vtxundo, txundo.map Coin.reread = txundo := by
    intro txundo htx
    exact (List.map_congr_left fun c hc => h _ rfl _ htx c hc).trans (List.map_id _)
  exact (List.map_congr_left hkept).trans (List.map_id _)

theorem disconnectOutputsFrom_created (tx : CTransaction) (nHeight : Nat) (exc : Bool)
    (vout : List CTxOut) : ∀ (i : Nat) (coins : Coins) (fClean : Bool),
      (∀ e ∈ createsFrom tx nHeight i vout, coins.map.lookup e.1 = some e.2) →
      ∃ coins', disconnectOutputsFrom tx nHeight exc i vout (coins, fClean) = (coins', fClean) ∧
        coins'.map = Ledger.spendAll coins.map ((createsFrom tx nHeight i vout).map Prod.fst) := by
  induction vout with
  | nil => intro i coins fClean _; exact ⟨coins, rfl, rfl⟩
  | cons out vout ih =>
    intro i coins fClean hthere
    cases hu : isUnspendable out.scriptPubKey with
    | true =>
      rw [createsFrom, if_pos hu] at hthere ⊢
      rw [disconnectOutputsFrom, if_pos hu]
      exact ih (i + 1) coins fClean hthere
    | false =>
      have hnd := createsFrom_nodup tx nHeight (out :: vout) i
      rw [createsFrom, if_neg (by simp [hu])] at hnd hthere ⊢
      rw [List.map_cons, List.nodup_cons] at hnd
      have hspend : coins.spendCoin ⟨tx.getHash, i⟩ =
          some (⟨out, tx.isCoinBase, nHeight⟩, coins.erase ⟨tx.getHash, i⟩) :=
        Coins.spendCoin_eq_some_iff.mpr ⟨hthere _ List.mem_cons_self, rfl⟩
      -- the other created coins stay where they are
      obtain ⟨coins', hok, hmap⟩ := ih (i + 1) (coins.erase ⟨tx.getHash, i⟩) fClean (by
        intro e he
        have hne : e.1 ≠ ⟨tx.getHash, i⟩ := fun heq => hnd.1 (List.mem_map.mpr ⟨e, he, heq⟩)
        rw [Coins.erase_map, Finmap.lookup_erase_ne hne]
        exact hthere e (List.mem_cons_of_mem _ he))
      refine ⟨coins', ?_, by rw [hmap]; rfl⟩
      simp [disconnectOutputsFrom, hu, hspend, hok]

variable {pindex : CBlockIndex} {coins coins' : Coins} {tx : CTransaction} {txundo : CTxUndo} {env : Env}
  {st : ConnectState} {vtx : List CTransaction}

theorem disconnectOutputs_update (h : UpdateSpec tx pindex.nHeight coins coins' txundo) (fClean : Bool) :
    ∃ mid, disconnectOutputs pindex tx (coins', fClean) = (mid, fClean) ∧
      mid.map = Ledger.spendAll (Ledger.createAll (Ledger.spendAll coins.map (txSpends tx))
        (txCreates tx pindex.nHeight)) ((txCreates tx pindex.nHeight).map Prod.fst) := by
  have hbook := h.book
  obtain ⟨mid, hok, hmap⟩ := disconnectOutputsFrom_created tx pindex.nHeight
    (tx.isCoinBase && isBIP30Unspendable pindex) tx.vout 0 coins' fClean (by
      intro e he
      rw [hbook]
      exact Ledger.lookup_createAll_of_mem _ (txCreates_nodup tx pindex.nHeight) _ _ _ he)
  exact ⟨mid, hok, by rw [hmap, hbook]; rfl⟩

theorem disconnectOutputs_fresh (h : UpdateSpec tx pindex.nHeight coins coins' txundo)
    (hfresh : ¬ overwrites pindex.nHeight tx coins.map) (fClean : Bool) :
    ∃ mid, disconnectOutputs pindex tx (coins', fClean) = (mid, fClean) ∧
      mid.map = Ledger.spendAll coins.map (txSpends tx) := by
  obtain ⟨mid, hok, hmap⟩ := disconnectOutputs_update h fClean
  refine ⟨mid, hok, ?_⟩
  rw [hmap, Ledger.spendAll_createAll_iff.mpr fun k hk hmem => hfresh ⟨k, hk, hmem⟩]

theorem applyTxInUndo_clean {undo : Coin} {out : COutPoint} (hstored : undo.Stored)
    (hpos : 0 < undo.nHeight) (hfree : out ∉ coins.map) :
    applyTxInUndo undo coins out = .ok (coins.insert out undo hstored, true) := by
  have hhave := (Coins.haveCoin_eq_false_iff coins out).mpr hfree
  have hundo : undoCoin undo coins out = .ok undo := by
    rw [undoCoin, if_neg (by simp; omega)]
  have hadd : coins.addCoin out undo false = .ok (coins.insert out undo hstored) :=
    Coins.addCoin_insert hstored fun _ => hfree
  simp [applyTxInUndo, hhave, hundo, hadd, bind, Except.bind]

theorem restoreInputs_clean (inputs : List (CTxIn × Coin)) : ∀ (coins : Coins) (fClean : Bool),
    (inputs.map fun e => e.1.prevout).Nodup → (∀ e ∈ inputs, e.2.Stored ∧ 0 < e.2.nHeight) →
    (∀ e ∈ inputs, e.1.prevout ∉ coins.map) →
    ∃ coins', restoreInputs inputs (coins, fClean) = .ok (coins', fClean) ∧
      coins'.map =
        Ledger.createAll coins.map (inputs.map fun e => (e.1.prevout, e.2)).reverse := by
  induction inputs with
  | nil => intro coins fClean _ _ _; exact ⟨coins, rfl, rfl⟩
  | cons e inputs ih =>
    intro coins fClean hnd hcoin hfree
    rw [List.map_cons, List.nodup_cons] at hnd
    obtain ⟨mid, hok, hmap⟩ := ih coins fClean hnd.2
      (fun e he => hcoin e (List.mem_cons_of_mem _ he))
      (fun e he => hfree e (List.mem_cons_of_mem _ he))
    have hmid : e.1.prevout ∉ mid.map := by
      rw [hmap, Ledger.mem_createAll, not_or]
      refine ⟨hfree e List.mem_cons_self, fun hmem => hnd.1 ?_⟩
      simpa [List.mem_map] using hmem
    obtain ⟨hstored, hpos⟩ := hcoin e List.mem_cons_self
    refine ⟨mid.insert e.1.prevout e.2 hstored, ?_, ?_⟩
    · obtain ⟨txin, undo⟩ := e
      simp [restoreInputs, hok, applyTxInUndo_clean hstored hpos hmid, bind, Except.bind]
    · rw [Coins.insert_map, hmap, List.map_cons, List.reverse_cons, Ledger.createAll,
        Ledger.createAll, List.foldl_append]
      rfl

theorem disconnectTx_ordinary (h : UpdateSpec tx pindex.nHeight coins coins' txundo)
    (hord : isOrdinary tx = true) (hpos : HeightsPos coins) (fClean : Bool) :
    disconnectTx pindex tx txundo (coins', fClean) = .ok (coins, fClean) := by
  have hspends : txSpends tx = tx.vin.map CTxIn.prevout := by simp [txSpends, hord]
  have hcb : tx.isCoinBase = false := by
    simp only [isOrdinary, Bool.and_eq_true, Bool.not_eq_true'] at hord
    exact hord.1
  obtain ⟨mid, houts, hmid⟩ := disconnectOutputs_fresh h (h.fresh hcb) fClean
  have hlen : txundo.length = tx.vin.length := by simpa [hspends] using h.undo_length
  -- the inputs with their coins, as pairs of the ledger
  have hzip : (tx.vin.zip txundo).map (fun e => (e.1.prevout, e.2)) = (txSpends tx).zip txundo := by
    rw [hspends, List.zip_map_left]
    rfl
  have hfst : ((txSpends tx).zip txundo).map Prod.fst = txSpends tx :=
    List.map_fst_zip (by rw [hspends, List.length_map, hlen])
  have hkeys : (tx.vin.zip txundo).map (fun e => e.1.prevout) = txSpends tx := by
    rw [← hfst, ← hzip, List.map_map]
    rfl
  have hmem : ∀ e ∈ tx.vin.zip txundo, (e.1.prevout, e.2) ∈ (txSpends tx).zip txundo := by
    intro e he
    rw [← hzip]
    exact List.mem_map_of_mem he
  obtain ⟨last, hrestore, hlast⟩ := restoreInputs_clean (tx.vin.zip txundo) mid fClean
    (by rw [hkeys]; exact h.nodup)
    (by
      intro e he
      have hlook := h.undo_coin _ (hmem e he)
      exact ⟨coins.stored _ _ hlook, hpos _ _ hlook⟩)
    (by
      intro e he hin
      rw [hmid, Ledger.mem_spendAll] at hin
      exact hin.2 (hkeys ▸ List.mem_map_of_mem he))
  have hback : last = coins := by
    refine Coins.ext_map ?_
    rw [hlast, hmid, hzip]
    refine Ledger.createAll_spendAll ?_ ?_ ?_
    · rw [List.map_reverse, List.nodup_reverse, hfst]
      exact h.nodup
    · intro k
      rw [List.map_reverse, List.mem_reverse, hfst]
    · intro e he
      exact h.undo_coin e (List.mem_reverse.mp he)
  simp [disconnectTx, hlen, houts, hrestore, hback]

theorem disconnectTx_mint (h : UpdateSpec tx pindex.nHeight coins coins' txundo)
    (hmint : isCBDCMintTx tx = true) (acc : Coins × Bool) :
    disconnectTx pindex tx txundo acc = .error .disconnectFailed := by
  have hundo : txundo.length = 0 := by
    simpa [txSpends, isOrdinary_eq_false_of_mint hmint] using h.undo_length
  have hvin : tx.vin.length ≠ 0 := by
    intro hnil
    rw [List.length_eq_zero_iff] at hnil
    simp [isCBDCMintTx, hnil] at hmint
  rw [disconnectTx, hundo, if_pos (by simpa using Ne.symm hvin)]

theorem HeightsPos.update {nHeight : Nat} (hpos : HeightsPos coins) (h : UpdateSpec tx nHeight coins coins' txundo)
    (hheight : 0 < nHeight) : HeightsPos coins' := by
  rw [HeightsPos, h.book]
  refine Ledger.Forall.apply hpos fun e he => ?_
  rw [(createsFrom_coin tx nHeight tx.vout 0 e he).1]
  exact hheight

theorem TxsConnected.heightsPos {st' : ConnectState} {vtxundo : List CTxUndo}
    (h : TxsConnected env pindex vtx st st' vtxundo) (hheight : 0 < pindex.nHeight)
    (hpos : HeightsPos st.coins) : HeightsPos st'.coins := by
  induction h with
  | nil st => exact hpos
  | cons hd tl ih => exact ih (hpos.update hd.update hheight)

theorem connectChain_heightsPos (steps : List (Env × CBlock)) : ∀ {s s' : ChainState},
    connectChain steps s = .ok s' → HeightsPos s.view.coins → HeightsPos s'.view.coins := by
  induction steps with
  | nil => intro s s' h hpos; cases h; exact hpos
  | cons step steps ih =>
    intro s s' h hpos
    obtain ⟨env, block⟩ := step
    rw [connectChain] at h
    obtain ⟨s₁, htip, hrest⟩ := bind_eq_ok.mp h
    obtain ⟨undo, hconnect, -, -⟩ := connectTip_spec htip
    refine ih hrest ?_
    rcases connectBlock_cases hconnect with ⟨-, hcoins, -⟩ | ⟨-, vtxundo, prev, coinbase, vtx, st₀, st,
      undo₀, -, hb⟩
    · rw [hcoins]
      exact hpos
    · have hheight := CBlockIndex.nHeight_pos_of_pprev hb.pprev
      rw [hb.coins_eq]
      exact hb.rest.heightsPos hheight (hpos.update hb.first.update hheight)

/-- An amount that the undo file gives back. -/
def CTxOut.Kept (out : CTxOut) : Prop := 0 ≤ out.nValue ∧ out.nValue ≤ largestStored

instance (out : CTxOut) : Decidable out.Kept := inferInstanceAs (Decidable (_ ∧ _))

/-- The coins of the view that the block spends, and its own outputs, have amounts that the undo file
    gives back. -/
structure SpendsKept (block : CBlock) (coins : Coins) : Prop where
  view : ∀ tx ∈ block.vtx, ∀ k ∈ txSpends tx, ∀ c, coins.map.lookup k = some c → c.out.Kept
  outputs : ∀ tx ∈ block.vtx, ∀ out ∈ tx.vout, out.Kept

/-- A coin is one of the first view or an output whose amount is kept. -/
def FromView (coins₀ coins : Coins) : Prop :=
  ∀ k c, coins.map.lookup k = some c → coins₀.map.lookup k = some c ∨ c.out.Kept

theorem FromView.update {coins₀ : Coins} {nHeight : Nat} (h : FromView coins₀ coins)
    (hup : UpdateSpec tx nHeight coins coins' txundo) (hkept : ∀ out ∈ tx.vout, out.Kept) :
    FromView coins₀ coins' := by
  intro k c hk
  rw [hup.book] at hk
  rcases Ledger.lookup_createAll_cases _ _ k c hk with hmem | hlook
  · exact .inr (hkept _ (createsFrom_coin tx nHeight tx.vout 0 _ hmem).2.2)
  · rw [Ledger.lookup_spendAll] at hlook
    split at hlook
    · cases hlook
    · exact h k c hlook

theorem UpdateSpec.mem_undo {nHeight : Nat} {c : Coin}
    (h : UpdateSpec tx nHeight coins coins' txundo) (hc : c ∈ txundo) :
    ∃ k ∈ txSpends tx, coins.map.lookup k = some c := by
  have hsnd : ((txSpends tx).zip txundo).map Prod.snd = txundo := List.map_snd_zip h.undo_length.le
  rw [← hsnd] at hc
  obtain ⟨e, he, rfl⟩ := List.mem_map.mp hc
  exact ⟨e.1, (List.of_mem_zip he).1, h.undo_coin e he⟩

/-- Every coin of the undo data is one that the block spends. -/
theorem TxsConnected.undoKept {st' : ConnectState} {vtxundo : List CTxUndo} {coins₀ : Coins}
    (h : TxsConnected env pindex vtx st st' vtxundo) (hfrom : FromView coins₀ st.coins)
    (hview : ∀ tx ∈ vtx, ∀ k ∈ txSpends tx, ∀ c, coins₀.map.lookup k = some c → c.out.Kept)
    (houts : ∀ tx ∈ vtx, ∀ out ∈ tx.vout, out.Kept) : UndoKept (some vtxundo) := by
  induction h with
  | nil st =>
    intro vtxundo hsome txundo htx
    cases hsome
    cases htx
  | @cons tx vtx st st₁ st₂ txundo vtxundo hd tl ih =>
    obtain ⟨hview₁, hviews⟩ := List.forall_mem_cons.mp hview
    obtain ⟨houts₁, houtss⟩ := List.forall_mem_cons.mp houts
    have hrest := ih (hfrom.update hd.update houts₁) hviews houtss
    intro all hsome txundo' htx c hc
    cases hsome
    rcases List.mem_cons.mp htx with rfl | htx
    · obtain ⟨k, hk, hlook⟩ := hd.update.mem_undo hc
      have hkept : c.out.Kept := (hfrom k c hlook).elim (hview₁ k hk c) id
      exact Coin.reread_eq hkept.1 hkept.2
    · exact hrest vtxundo rfl txundo' htx c hc

theorem SpendsKept.undoKept {block : CBlock} {view : CCoinsView} {coins' : Coins}
    {vtxundo : CBlockUndo} {prev : CBlockIndex} {coinbase : CTransaction} {st₀ : ConnectState}
    {undo₀ : CTxUndo} (h : SpendsKept block view.coins)
    (hb : BlockConnected env block pindex view coins' vtxundo prev coinbase vtx st₀ st undo₀) :
    UndoKept (some vtxundo) := by
  have hmem : ∀ tx ∈ vtx, tx ∈ block.vtx := fun tx htx => hb.vtx_eq ▸ List.mem_cons_of_mem _ htx
  have hfirst : FromView view.coins st₀.coins :=
    FromView.update (fun _ _ hlook => .inl hlook) hb.first.update
      (h.outputs coinbase (hb.vtx_eq ▸ List.mem_cons_self))
  exact hb.rest.undoKept hfirst (fun tx htx => h.view tx (hmem tx htx))
    fun tx htx => h.outputs tx (hmem tx htx)

theorem disconnectTxs_connected {st' : ConnectState} {vtxundo : List CTxUndo}
    (h : TxsConnected env pindex vtx st st' vtxundo) (hheight : 0 < pindex.nHeight)
    (hncb : ∀ tx ∈ vtx, tx.isCoinBase = false) (hpos : HeightsPos st.coins) :
    disconnectTxs pindex (vtx.zip vtxundo) (st'.coins, true) =
      if vtx.any isCBDCMintTx then .error .disconnectFailed else .ok (st.coins, true) := by
  induction h with
  | nil st => rfl
  | @cons tx vtx st st₁ st₂ txundo vtxundo hd tl ih =>
    have hrest := ih (fun t ht => hncb t (List.mem_cons_of_mem _ ht)) (hpos.update hd.update hheight)
    have hcb := hncb tx List.mem_cons_self
    rw [List.zip_cons_cons, disconnectTxs, hrest, List.any_cons]
    cases hany : vtx.any isCBDCMintTx with
    | true => simp [bind, Except.bind]
    | false =>
      cases hmint : isCBDCMintTx tx with
      | true => simp [bind, Except.bind, disconnectTx_mint hd.update hmint]
      | false =>
        have hord : isOrdinary tx = true := by simp [isOrdinary, hcb, hmint]
        simp [bind, Except.bind, disconnectTx_ordinary hd.update hord hpos]

theorem disconnectBlock_connected {block : CBlock}
    {view view' : CCoinsView} {vtxundo : CBlockUndo} {prev : CBlockIndex} {coinbase : CTransaction} {st₀ : ConnectState} {undo₀ : CTxUndo}
    (hb : BlockConnected env block pindex view view'.coins vtxundo prev coinbase vtx st₀ st undo₀)
    (hpos : HeightsPos view.coins) (hkept : UndoKept (some vtxundo)) :
    ∃ coins, disconnectBlock block pindex (some vtxundo) view' =
        (if vtx.any isCBDCMintTx then .error .disconnectFailed
          else .ok (.ok, ⟨coins, view.hashBlock⟩)) ∧
      (coins = view.coins ↔ ¬ overwrites pindex.nHeight coinbase view.coins.map) := by
  have hheight : 0 < pindex.nHeight := CBlockIndex.nHeight_pos_of_pprev hb.pprev
  have htxs := disconnectTxs_connected hb.rest hheight hb.notCoinBase
    (hpos.update hb.first.update hheight)
  have hspends : txSpends coinbase = [] := by
    simp [txSpends, isOrdinary_eq_false_of_coinBase hb.isCoinBase]
  obtain ⟨coins, houts, hcoins⟩ := disconnectOutputs_update hb.first.update true
  refine ⟨coins, ?_, ?_⟩
  · simp only [disconnectBlock, hkept.readUndo_eq, hb.vtx_eq, hb.rest.length, hb.coins_eq, htxs, bne_self_eq_false,
      Bool.false_eq_true, if_false]
    split
    · rfl
    · simp [bind, Except.bind, houts, hb.pprev, hb.best, disconnectResult]
  · have hback : coins = view.coins ↔ coins.map = view.coins.map :=
      ⟨fun h => h ▸ rfl, Coins.ext_map⟩
    rw [hback, hcoins, hspends, overwrites, hspends]
    simp only [Ledger.spendAll, List.foldl_nil]
    rw [← Ledger.spendAll, ConnectState.init, Ledger.spendAll_createAll_iff]
    simp

def plainBlock : CBlock :=
  sampleBlock 0x10 mainParams.hashGenesisBlock
    [sampleCoinbase 0x30 1000000, sampleSpend 0x40 ⟨0x77, 0⟩ 50000]

def plainCoin : Coin := ⟨sampleOut 50000, false, 1⟩

theorem plainCoin_stored : plainCoin.Stored := ⟨by decide, by decide⟩

def plainView : CCoinsView :=
  ⟨Coins.empty.insert ⟨0x77, 0⟩ plainCoin plainCoin_stored, mainParams.hashGenesisBlock⟩

theorem plainView_lookup {k : COutPoint} {c : Coin} (h : plainView.coins.map.lookup k = some c) :
    c = plainCoin := by
  rcases eq_or_ne k ⟨0x77, 0⟩ with rfl | hne
  · exact (Option.some.inj ((Finmap.lookup_insert _).symm.trans h)).symm
  · have hnone := (Finmap.lookup_insert_of_ne _ hne).symm.trans h
    simp [Coins.empty] at hnone

theorem plainView_heightsPos : HeightsPos plainView.coins := by
  intro k c hlook
  rw [plainView_lookup hlook]
  decide

def mintBlock : CBlock :=
  sampleBlock 0x10 mainParams.hashGenesisBlock
    [sampleCoinbase 0x30 1000000, sampleMint 0x20 [] [sampleOut 100000, sampleFeeOut 100]]

end GarudaChain
