import GarudaChain.Node.Chain
import GarudaChain.Node.Disconnect

/-!
# Reorganisations

`ConnectTip` and `DisconnectTip` of `validation.cpp`, by which `ActivateBestChainStep` goes from one
branch to another, without the mempool.
-/

namespace GarudaChain

/-- The chain state, and on disk the connected blocks with their undo data, the tip first. -/
structure Chainstate where
  chain : ChainState
  disk : List (CBlock × Option CBlockUndo)

namespace Chainstate

def connectTip (env : Env) (block : CBlock) (s : Chainstate) : Outcome Chainstate := do
  let pindexNew := s.chain.nextIndex block
  let (view, undo) ← connectBlock env block pindexNew s.chain.view false
  .ok ⟨⟨some pindexNew, view⟩, (block, undo) :: s.disk⟩

/-- `DisconnectTip`, which returns false for every result but `DISCONNECT_OK`. -/
def disconnectTip (s : Chainstate) : Outcome Chainstate :=
  match s.chain.tip, s.disk with
  | some pindexDelete, (block, undo) :: disk => do
    assertThat pindexDelete.pprev.isSome .hasPrev
    assertThat (s.chain.view.hashBlock == pindexDelete.getBlockHash) .bestBlock
    let (result, view) ← disconnectBlock block pindexDelete undo s.chain.view
    if result = .ok then .ok ⟨⟨pindexDelete.pprev, view⟩, disk⟩ else .error .disconnectFailed
  | _, _ => .error .disconnectFailed

end Chainstate

inductive TipChange
  | connect (env : Env) (block : CBlock)
  | disconnect

def Chainstate.apply (s : Chainstate) : TipChange → Outcome Chainstate
  | .connect env block => s.connectTip env block
  | .disconnect => s.disconnectTip

def Chainstate.applyAll : List TipChange → Chainstate → Outcome Chainstate
  | [], s => .ok s
  | change :: changes, s => do
    let s ← s.apply change
    applyAll changes s

end GarudaChain
