import GarudaChain.Node.Proofs.ChainProofs
import GarudaChain.Node.Rotation

/-!
# Connecting the blocks again after a rotation

The authority's keys and fee enter `ConnectBlock` only through the check of each mint transaction, and
always with the values of the moment.
-/

namespace GarudaChain

def MintsPass (crypto : Crypto) (authority : AuthorityState) (vtx : List CTransaction) : Prop :=
  ∀ tx ∈ vtx, isCBDCMintTx tx = true → checkCBDCMintInBlock crypto authority tx = .ok ()

instance (crypto : Crypto) (authority : AuthorityState) (vtx : List CTransaction) :
    Decidable (MintsPass crypto authority vtx) :=
  inferInstanceAs (Decidable (∀ tx ∈ vtx, _ → _))

/-- The transactions that the blocks of a run connect. -/
def eventTxs (env : Env) : List NodeEvent → List CTransaction
  | [] => []
  | .block _ block :: events =>
    (if isGenesis env block then [] else block.vtx) ++ eventTxs env events
  | .rotate _ _ :: events => eventTxs env events
  | .setFee _ :: events => eventTxs env events

section

variable {env : Env} {auth auth' : AuthorityState} {mintFile : Option (List Char)}

theorem checkTx_withState {tx : CTransaction} (pindex : CBlockIndex) (st : ConnectState)
    (h : isCBDCMintTx tx = true → checkCBDCMintInBlock env.crypto auth tx = .ok ())
    (h' : isCBDCMintTx tx = true → checkCBDCMintInBlock env.crypto auth' tx = .ok ()) :
    checkTx (env.withState auth mintFile) pindex tx st =
      checkTx (env.withState auth' mintFile) pindex tx st := by
  have hmint : isCBDCMintTx tx = true → connectMint (env.withState auth mintFile) tx st =
      connectMint (env.withState auth' mintFile) tx st := by
    intro hm
    simp only [connectMint, Env.withState, h hm, h' hm]
  cases hm : isCBDCMintTx tx with
  | true =>
    simp only [checkTx, hm, hmint hm]
    rfl
  | false =>
    simp only [checkTx, hm, Bool.false_eq_true, if_false]
    rfl

theorem connectTxs_withState (pindex : CBlockIndex) (vtx : List CTransaction) :
    ∀ st : ConnectState, MintsPass env.crypto auth vtx → MintsPass env.crypto auth' vtx →
      connectTxs (env.withState auth mintFile) pindex vtx st =
        connectTxs (env.withState auth' mintFile) pindex vtx st := by
  induction vtx with
  | nil => intro st _ _; rfl
  | cons tx vtx ih =>
    intro st h h'
    have hrest := fun st => ih st (fun t ht => h t (List.mem_cons_of_mem _ ht))
      (fun t ht => h' t (List.mem_cons_of_mem _ ht))
    simp only [connectTxs, connectTx, hrest,
      checkTx_withState pindex st (h tx List.mem_cons_self) (h' tx List.mem_cons_self)]

theorem recheckBlock_withState (block : CBlock) (fJustCheck : Bool) :
    recheckBlock (env.withState auth mintFile) block fJustCheck = recheckBlock env block fJustCheck :=
  rfl

theorem connectBlock_withState {block : CBlock} (pindex : CBlockIndex) (view : CCoinsView)
    (h : isGenesis env block = false → MintsPass env.crypto auth block.vtx)
    (h' : isGenesis env block = false → MintsPass env.crypto auth' block.vtx) :
    connectBlock (env.withState auth mintFile) block pindex view false =
      connectBlock (env.withState auth' mintFile) block pindex view false := by
  cases hgen : isGenesis env block with
  | true =>
    rw [isGenesis] at hgen
    have hparams (a : AuthorityState) : (env.withState a mintFile).params = env.params := rfl
    simp only [connectBlock, recheckBlock_withState, hparams, hgen, if_true]
  | false =>
    have hloop : connectVtx (env.withState auth mintFile) pindex block.vtx view.coins =
        connectVtx (env.withState auth' mintFile) pindex block.vtx view.coins := by
      have hm := h hgen
      have hm' := h' hgen
      cases hvtx : block.vtx with
      | nil => rfl
      | cons tx vtx =>
        rw [hvtx] at hm hm'
        have hrest : ∀ st, connectTxs (env.withState auth mintFile) pindex vtx st =
            connectTxs (env.withState auth' mintFile) pindex vtx st := fun st =>
          connectTxs_withState pindex vtx st (fun t ht => hm t (List.mem_cons_of_mem _ ht))
            (fun t ht => hm' t (List.mem_cons_of_mem _ ht))
        simp only [connectVtx, connectTx, hrest,
          checkTx_withState pindex _ (hm tx List.mem_cons_self) (hm' tx List.mem_cons_self)]
    have hbody : ∀ prev,
        connectBlockBody (env.withState auth mintFile) block pindex prev view.coins =
          connectBlockBody (env.withState auth' mintFile) block pindex prev view.coins := by
      intro prev
      simp only [connectBlockBody, hloop]
      rfl
    simp only [connectBlock, hbody, recheckBlock_withState]
    rfl

end

theorem mintsPass_of_connectBlock {env : Env} {block : CBlock} {pindex : CBlockIndex}
    {view view' : CCoinsView} {fJustCheck : Bool} {undo : Option CBlockUndo}
    (h : connectBlock env block pindex view fJustCheck = .ok (view', undo))
    (hgen : isGenesis env block = false) : MintsPass env.crypto env.authority block.vtx := by
  rcases connectBlock_cases h with ⟨hg, -, -⟩ | ⟨-, vtxundo, prev, coinbase, vtx, st₀, st, undo₀, -,
    hb⟩
  · simp [isGenesis, hg] at hgen
  · rw [hb.vtx_eq]
    exact (TxsConnected.cons hb.first hb.rest).mintsPass

theorem mintsPass_of_connectTip {env : Env} {auth : AuthorityState} {mintFile : Option (List Char)}
    {block : CBlock} {s s' : ChainState}
    (h : connectTip (env.withState auth mintFile) block s = .ok s')
    (hgen : isGenesis env block = false) : MintsPass env.crypto auth block.vtx := by
  obtain ⟨undo, hconnect, -⟩ := connectTip_spec h
  have hg : isGenesis (env.withState auth mintFile) block = false := hgen
  have hpass := mintsPass_of_connectBlock hconnect hg
  exact hpass

theorem connectTip_withState {env : Env} {auth auth' : AuthorityState}
    {mintFile : Option (List Char)} {block : CBlock} {s s' : ChainState}
    (h : connectTip (env.withState auth mintFile) block s = .ok s')
    (hpass : isGenesis env block = false → MintsPass env.crypto auth' block.vtx) :
    connectTip (env.withState auth' mintFile) block s = .ok s' := by
  have hsame : connectBlock (env.withState auth mintFile) block (s.nextIndex block) s.view false =
      connectBlock (env.withState auth' mintFile) block (s.nextIndex block) s.view false :=
    connectBlock_withState (s.nextIndex block) s.view (mintsPass_of_connectTip h) hpass
  rw [connectTip] at h ⊢
  rwa [← hsame]

theorem toOption_eq_some {ε α : Type} {x : Except ε α} {a : α} (h : x.toOption = some a) :
    x = .ok a := by
  cases x with
  | error e => cases h
  | ok b => cases h; rfl

theorem mintsPass_append {crypto : Crypto} {authority : AuthorityState}
    {vtx vtx' : List CTransaction} : MintsPass crypto authority (vtx ++ vtx') ↔
      MintsPass crypto authority vtx ∧ MintsPass crypto authority vtx' := by
  simp only [MintsPass, List.mem_append]
  exact ⟨fun h => ⟨fun tx htx => h tx (Or.inl htx), fun tx htx => h tx (Or.inr htx)⟩,
    fun h tx htx => htx.elim (h.1 tx) (h.2 tx)⟩

theorem connectChain_replaySteps_iff {env : Env} {mode : WalletMode} (authority : AuthorityState)
    (events : List NodeEvent) : ∀ {s s' : NodeState}, nodeRun env mode events s = some s' →
      ((∃ chain, connectChain (replaySteps env authority events) s.chain = .ok chain) ↔
        MintsPass env.crypto authority (eventTxs env events)) := by
  induction events with
  | nil =>
    intro s s' _
    simp [replaySteps, eventTxs, connectChain, MintsPass]
  | cons event events ih =>
    intro s s' h
    rw [nodeRun] at h
    split at h
    · cases h
    · next s₁ hstep =>
      have hrest := ih h
      cases event with
      | rotate request aux =>
        rw [nodeStep, Option.map_eq_some_iff] at hstep
        obtain ⟨a, -, rfl⟩ := hstep
        exact hrest
      | setFee ppm =>
        cases hstep
        exact hrest
      | block mintFile block =>
        rw [nodeStep, Option.map_eq_some_iff] at hstep
        obtain ⟨chain₁, htip, rfl⟩ := hstep
        have hfirst := toOption_eq_some htip
        have hpass : MintsPass env.crypto authority (if isGenesis env block then [] else block.vtx) ↔
            (isGenesis env block = false → MintsPass env.crypto authority block.vtx) := by
          cases isGenesis env block <;> simp [MintsPass]
        rw [eventTxs, mintsPass_append, hpass, ← hrest]
        constructor
        · rintro ⟨chain, hchain⟩
          rw [replaySteps, connectChain] at hchain
          obtain ⟨chain₂, htip₂, hchain⟩ := bind_eq_ok.mp hchain
          have hmints := mintsPass_of_connectTip htip₂
          -- the block leads to the same chain as the first time
          rw [connectTip_withState hfirst hmints] at htip₂
          cases htip₂
          exact ⟨hmints, chain, hchain⟩
        · rintro ⟨hmints, chain, hchain⟩
          refine ⟨chain, ?_⟩
          rw [replaySteps, connectChain, connectTip_withState hfirst hmints]
          exact hchain

/-- The blocks of a run with rotations and changes of the fee are all accepted again under the final
    authority state, if and only if all their mint transactions pass under it. -/
theorem replay_accepted_iff {env : Env} {mode : WalletMode} {events : List NodeEvent}
    {auth : AuthorityState} {s : NodeState}
    (hrun : nodeRun env mode events ⟨.empty, auth⟩ = some s) :
    (∃ chain, connectChain (replaySteps env s.authority events) .empty = .ok chain) ↔
      MintsPass env.crypto s.authority (eventTxs env events) :=
  connectChain_replaySteps_iff s.authority events hrun

def mintEvents : List NodeEvent :=
  [.block none sampleGenesis,
    .block none (sampleBlock 0x11 mainParams.hashGenesisBlock
      [sampleCoinbase 0x31 1000000, sampleMint 0x20 [] [sampleOut 100000, sampleFeeOut 100]])]

/-- A rotation from the key of bytes `0x11` to the key of bytes `0x22`. -/
def rotateTo22 : NodeEvent :=
  .rotate ⟨List.replicate 64 '2', List.replicate 64 '1', none, none⟩ []

theorem replay_accepted_mintEvents : ∃ s, nodeRun (sampleEnv none) .cbdc mintEvents
      ⟨.empty, sampleAuthority '1'⟩ = some s ∧
    ∃ chain, connectChain (replaySteps (sampleEnv none) s.authority mintEvents) .empty =
      .ok chain := by
  have hsome : ((nodeRun (sampleEnv none) .cbdc mintEvents ⟨.empty, sampleAuthority '1'⟩).elim false
      fun s => decide (s.authority = sampleAuthority '1')) = true := by decide
  cases hrun : nodeRun (sampleEnv none) .cbdc mintEvents ⟨.empty, sampleAuthority '1'⟩ with
  | none => simp [hrun] at hsome
  | some s =>
    refine ⟨s, rfl, (replay_accepted_iff hrun).mpr ?_⟩
    have hauth : s.authority = sampleAuthority '1' := by simpa [hrun] using hsome
    rw [hauth]
    decide

/-- After the rotation the block with the mint transaction is rejected. -/
theorem replay_rejected_after_rotation : ∃ s, nodeRun (sampleEnv none) .cbdc
      (mintEvents ++ [rotateTo22]) ⟨.empty, sampleAuthority '1'⟩ = some s ∧
    (connectChain (replaySteps (sampleEnv none) s.authority (mintEvents ++ [rotateTo22])) .empty).isOk =
      false := by
  have hsome : ((nodeRun (sampleEnv none) .cbdc (mintEvents ++ [rotateTo22])
      ⟨.empty, sampleAuthority '1'⟩).elim false fun s => !(connectChain (replaySteps (sampleEnv none)
        s.authority (mintEvents ++ [rotateTo22])) .empty).isOk) = true := by decide
  cases hrun : nodeRun (sampleEnv none) .cbdc (mintEvents ++ [rotateTo22])
      ⟨.empty, sampleAuthority '1'⟩ with
  | none => simp [hrun] at hsome
  | some s => exact ⟨s, rfl, by simpa [hrun] using hsome⟩

end GarudaChain
