import GarudaChain.Node.Proofs.DisconnectProofs
import GarudaChain.Node.Proofs.SupplyProofs
import GarudaChain.Node.Reorg

/-!
# The coins depend on the active chain, not on the way to it
-/

namespace GarudaChain

variable {env : Env} {block : CBlock} {s s' s₀ : Chainstate}

/-- A block that can be disconnected again: without mint transactions, with a coinbase that is new, as
    BIP30 asks, and which spends no coin whose amount is lost on disk. -/
def Chainstate.undoable (s : Chainstate) : TipChange → Bool
  | .connect env block => block.getHash != env.params.hashGenesisBlock &&
      block.vtx.all (fun tx => !isCBDCMintTx tx) &&
      (block.vtx.all fun tx => !tx.isCoinBase || !haveAnyOutput s.chain.view.coins tx) &&
      match connectBlock env block (s.chain.nextIndex block) s.chain.view false with
      | .ok (_, undo) => decide (UndoKept undo)
      | .error _ => true
  | .disconnect => true

def Chainstate.undoableAll : List TipChange → Chainstate → Bool
  | [], _ => true
  | change :: changes, s => s.undoable change &&
      match s.apply change with
      | .ok s => undoableAll changes s
      | .error _ => true

theorem connectBlock_hashBlock {pindex : CBlockIndex} {view view' : CCoinsView}
    {undo : Option CBlockUndo} (h : connectBlock env block pindex view false = .ok (view', undo)) :
    view'.hashBlock = pindex.getBlockHash := by
  rw [connectBlock] at h
  obtain ⟨_, -, h⟩ := bind_eq_ok.mp h
  obtain ⟨_, -, h⟩ := bind_eq_ok.mp h
  obtain ⟨_, -, h⟩ := bind_eq_ok.mp h
  split at h
  · cases h
    rfl
  · split at h
    · cases h
    · obtain ⟨⟨coins, blockundo⟩, -, h⟩ := bind_eq_ok.mp h
      cases h
      rfl

theorem connectTip_chain (h : s.connectTip env block = .ok s') :
    GarudaChain.connectTip env block s.chain = .ok s'.chain := by
  obtain ⟨⟨view, undo⟩, hconnect, hret⟩ := bind_eq_ok.mp h
  cases hret
  rw [GarudaChain.connectTip, hconnect]
  rfl

theorem nextIndex_pprev (t : ChainState) (block : CBlock) : (t.nextIndex block).pprev = t.tip := by
  obtain ⟨tip, view⟩ := t
  cases tip <;> rfl

/-- The step lemma: `DisconnectTip` goes back to where `ConnectTip` came from. -/
theorem disconnectTip_connectTip (hpos : HeightsPos s.chain.view.coins)
    (h : s.connectTip env block = .ok s') (hundo : s.undoable (.connect env block) = true) :
    s'.disconnectTip = .ok s := by
  simp only [Chainstate.undoable, Bool.and_eq_true, List.all_eq_true, bne_iff_ne] at hundo
  obtain ⟨⟨⟨hgen, hmints⟩, hfree⟩, hkept⟩ := hundo
  obtain ⟨⟨view, undo⟩, hconnect, hret⟩ := bind_eq_ok.mp h
  cases hret
  simp only [hconnect, decide_eq_true_eq] at hkept
  have hbest := connectBlock_hashBlock hconnect
  rcases connectBlock_cases hconnect with ⟨hgen', -, -⟩ | ⟨-, vtxundo, prev, coinbase, vtx, st₀, st,
    undo₀, rfl, hb⟩
  · exact absurd hgen' hgen
  · obtain ⟨coins, hdis, hback⟩ := disconnectBlock_connected hb hpos hkept
    have hmem : coinbase ∈ block.vtx := hb.vtx_eq ▸ List.mem_cons_self
    have hnone : vtx.any isCBDCMintTx = false := by
      rw [List.any_eq_false]
      intro tx htx
      simpa using hmints tx (hb.vtx_eq ▸ List.mem_cons_of_mem _ htx)
    have hcoins := hback.mpr (not_overwrites_of_haveAnyOutput _
      (by simpa [hb.isCoinBase] using hfree coinbase hmem))
    have hok : disconnectBlock block (s.chain.nextIndex block) (some vtxundo) view =
        .ok (.ok, s.chain.view) := by
      rw [hdis, hnone, hcoins]
      rfl
    simp only [Chainstate.disconnectTip, assertThat, hbest, beq_self_eq_true, if_true,
      Bool.false_eq_true, if_false, hok]
    rw [hb.pprev]
    change Except.ok (⟨⟨some prev, s.chain.view⟩, s.disk⟩ : Chainstate) = _
    rw [← hb.pprev, nextIndex_pprev]

/-- The states that are reached by connecting blocks that can be disconnected again. -/
inductive Built (s₀ : Chainstate) : List (Env × CBlock) → Chainstate → Prop
  | start : Built s₀ [] s₀
  | connect {steps : List (Env × CBlock)} {s s' : Chainstate} {env : Env} {block : CBlock}
      (hs : Built s₀ steps s) (h : s.connectTip env block = .ok s')
      (hundo : s.undoable (.connect env block) = true) : Built s₀ (steps ++ [(env, block)]) s'

theorem connectChain_append (steps : List (Env × CBlock)) (t : ChainState) :
    connectChain (steps ++ [(env, block)]) t =
      connectChain steps t >>= GarudaChain.connectTip env block := by
  induction steps generalizing t with
  | nil =>
    rw [List.nil_append, connectChain]
    cases hstep : GarudaChain.connectTip env block t <;> simp [connectChain, hstep, bind, Except.bind]
  | cons step steps ih =>
    rw [List.cons_append, connectChain, connectChain]
    cases GarudaChain.connectTip step.1 step.2 t with
    | error e => rfl
    | ok t => exact ih t

theorem Built.chain {steps : List (Env × CBlock)} (h : Built s₀ steps s) :
    connectChain steps s₀.chain = .ok s.chain ∧
      s.disk.map Prod.fst = (steps.map Prod.snd).reverse ++ s₀.disk.map Prod.fst := by
  induction h with
  | start => exact ⟨rfl, rfl⟩
  | connect hs h hundo ih =>
    refine ⟨?_, ?_⟩
    · rw [connectChain_append, ih.1]
      exact connectTip_chain h
    · obtain ⟨⟨view, undo⟩, -, hret⟩ := bind_eq_ok.mp h
      cases hret
      simp [ih.2]

/-- The coins after any reorganisations are those of the blocks of the active chain, connected one after
    the other. -/
theorem applyAll_replays {changes : List TipChange} (hpos : HeightsPos s₀.chain.view.coins)
    (hdisk : s₀.disk = []) (hundo : s₀.undoableAll changes = true)
    (hrun : s₀.applyAll changes = .ok s) :
    ∃ steps, s.disk.map Prod.fst = (steps.map Prod.snd).reverse ∧
      connectChain steps s₀.chain = .ok s.chain := by
  suffices h : ∀ {t : Chainstate} {steps : List (Env × CBlock)}, Built s₀ steps t →
      t.undoableAll changes = true → t.applyAll changes = .ok s → ∃ steps, Built s₀ steps s by
    obtain ⟨steps, hbuilt⟩ := h .start hundo hrun
    exact ⟨steps, by simpa [hdisk] using hbuilt.chain.2, hbuilt.chain.1⟩
  clear hundo hrun
  induction changes with
  | nil =>
    intro t steps hbuilt _ hrun
    cases hrun
    exact ⟨steps, hbuilt⟩
  | cons change changes ih =>
    intro t steps hbuilt hundo hrun
    obtain ⟨t', hstep, hrest⟩ := bind_eq_ok.mp hrun
    simp only [Chainstate.undoableAll, hstep, Bool.and_eq_true] at hundo
    cases change with
    | connect env block => exact ih (hbuilt.connect hstep hundo.1) hundo.2 hrest
    | disconnect =>
      cases hbuilt with
      | start =>
        simp only [Chainstate.apply, Chainstate.disconnectTip, hdisk] at hstep
        cases htip : s₀.chain.tip <;> simp [htip] at hstep
      | connect hs h hprev =>
        have hheights := connectChain_heightsPos _ hs.chain.1 hpos
        have hback := disconnectTip_connectTip hheights h hprev
        cases hback.symm.trans hstep
        exact ih hs hundo.2 hrest

def reorgChanges : List TipChange :=
  [.connect (sampleEnv none) plainBlock, .disconnect,
    .connect (sampleEnv none)
      (sampleBlock 0x11 mainParams.hashGenesisBlock [sampleCoinbase 0x31 1000000])]

theorem applyAll_replays_sample : ∃ s steps,
    Chainstate.applyAll reorgChanges ⟨⟨some sampleGenesisIndex, plainView⟩, []⟩ = .ok s ∧
      s.disk.map Prod.fst = (steps.map Prod.snd).reverse ∧
      connectChain steps ⟨some sampleGenesisIndex, plainView⟩ = .ok s.chain := by
  have hok : okAnd (Chainstate.applyAll reorgChanges ⟨⟨some sampleGenesisIndex, plainView⟩, []⟩)
      (fun _ => true) = true := by decide
  obtain ⟨s, hrun, -⟩ := okAnd_iff.mp hok
  obtain ⟨steps, hsteps⟩ := applyAll_replays plainView_heightsPos rfl (by decide) hrun
  exact ⟨s, steps, hrun, hsteps⟩

end GarudaChain
