import GarudaChain.Node.Compressor
import GarudaChain.Node.Validation

/-!
# Disconnecting and replaying a block

`ApplyTxInUndo` and `DisconnectBlock`, which take a block's effect on the coins back, and the loop of
`RollforwardBlock`, which applies it again after an interrupted flush.
-/

namespace GarudaChain

/-- `DisconnectResult`; `DISCONNECT_FAILED` is the abort of that name. -/
inductive DisconnectResult
  | ok
  | unclean
  deriving DecidableEq, Repr

/-- `fClean ? DISCONNECT_OK : DISCONNECT_UNCLEAN`. -/
def disconnectResult (fClean : Bool) : DisconnectResult := if fClean then .ok else .unclean

def undoCoin (undo : Coin) (coins : Coins) (out : COutPoint) : Outcome Coin :=
  if undo.nHeight == 0 then
    match coins.accessByTxid out.hash with
    | some alternate =>
      .ok { undo with nHeight := alternate.nHeight, fCoinBase := alternate.fCoinBase }
    | none => .error .disconnectFailed
  else .ok undo

/-- `ApplyTxInUndo`: the view, and whether the coin was not there (`fClean`). -/
def applyTxInUndo (undo : Coin) (coins : Coins) (out : COutPoint) : Outcome (Coins × Bool) := do
  let fClean := !coins.haveCoin out
  let undo ← undoCoin undo coins out
  let coins ← coins.addCoin out undo (!fClean)
  .ok (coins, fClean)

/-- The loop of `DisconnectBlock` over the outputs of a transaction, from the `o`-th on. -/
def disconnectOutputsFrom (tx : CTransaction) (nHeight : Nat) (isBip30Exception : Bool) :
    Nat → List CTxOut → Coins × Bool → Coins × Bool
  | _, [], acc => acc
  | o, txout :: vout, (coins, fClean) =>
    if isUnspendable txout.scriptPubKey then
      disconnectOutputsFrom tx nHeight isBip30Exception (o + 1) vout (coins, fClean)
    else
      match coins.spendCoin ⟨tx.getHash, o⟩ with
      | none =>
        disconnectOutputsFrom tx nHeight isBip30Exception (o + 1) vout
          (coins, fClean && isBip30Exception)
      | some (c, coins) =>
        let mismatch := txout != c.out || nHeight != c.nHeight || tx.isCoinBase != c.fCoinBase
        disconnectOutputsFrom tx nHeight isBip30Exception (o + 1) vout
          (coins, fClean && (!mismatch || isBip30Exception))

/-- The loop of `DisconnectBlock` over the inputs of a transaction, the last input first. -/
def restoreInputs : List (CTxIn × Coin) → Coins × Bool → Outcome (Coins × Bool)
  | [], acc => .ok acc
  | (txin, undo) :: inputs, acc => do
    let (coins, fClean) ← restoreInputs inputs acc
    let (coins, res) ← applyTxInUndo undo coins txin.prevout
    .ok (coins, fClean && res)

/-- Whether the coinbase of the block may have been overwritten (`!fEnforceBIP30`). -/
def isBIP30Unspendable (index : CBlockIndex) : Bool :=
  (index.nHeight == 91722 && index.getBlockHash ==
      0x00000000000271a2dc26e7667f8419f2e15416dc6955e5a6c6cdf3f2574dd08e) ||
    (index.nHeight == 91812 && index.getBlockHash ==
      0x00000000000af0aed4792b1acee3d966af36cf5def14935db8de83d6f9306f2f)

/-- The outputs of one transaction in `DisconnectBlock`. -/
def disconnectOutputs (pindex : CBlockIndex) (tx : CTransaction) (acc : Coins × Bool) :
    Coins × Bool :=
  disconnectOutputsFrom tx pindex.nHeight (tx.isCoinBase && isBIP30Unspendable pindex) 0 tx.vout acc

/-- The body of the loop of `DisconnectBlock` for a transaction after the first. -/
def disconnectTx (pindex : CBlockIndex) (tx : CTransaction) (txundo : CTxUndo)
    (acc : Coins × Bool) : Outcome (Coins × Bool) :=
  let acc := disconnectOutputs pindex tx acc
  if txundo.length != tx.vin.length then .error .disconnectFailed
  else restoreInputs (tx.vin.zip txundo) acc

/-- The loop of `DisconnectBlock` over the transactions after the first, the last one first. -/
def disconnectTxs (pindex : CBlockIndex) :
    List (CTransaction × CTxUndo) → Coins × Bool → Outcome (Coins × Bool)
  | [], acc => .ok acc
  | (tx, txundo) :: rest, acc => do
    let acc ← disconnectTxs pindex rest acc
    disconnectTx pindex tx txundo acc

/-- A coin of the undo data after `TxInUndoFormatter` has written it and read it back: the amount goes
    through `AmountCompression`. -/
def Coin.reread (c : Coin) : Coin :=
  { c with out := { c.out with
      nValue := wrap64 (decompressAmount (compressAmount (c.out.nValue % 2 ^ 64).toNat)) } }

/-- `UndoReadFromDisk`, on what `WriteUndoDataForBlock` was given. -/
def readUndo (vtxundo : CBlockUndo) : CBlockUndo := vtxundo.map fun txundo => txundo.map Coin.reread

/-- `DisconnectBlock`, with the undo data that `ConnectBlock` wrote (`none` where there is none to
    read). -/
def disconnectBlock (block : CBlock) (pindex : CBlockIndex) (blockUndo : Option CBlockUndo)
    (view : CCoinsView) : Outcome (DisconnectResult × CCoinsView) :=
  match blockUndo, block.vtx with
  | none, _ => .error .disconnectFailed
  | some _, [] => .error .disconnectFailed
  | some written, coinbase :: vtx =>
    let vtxundo := readUndo written
    if vtxundo.length != vtx.length then .error .disconnectFailed
    else do
      let acc ← disconnectTxs pindex (vtx.zip vtxundo) (view.coins, true)
      let (coins, fClean) := disconnectOutputs pindex coinbase acc
      match pindex.pprev with
      | none => .error (.assertFailed .hasPrev)
      | some prev => .ok (disconnectResult fClean, ⟨coins, prev.getBlockHash⟩)

/-- `SpendCoin` where its result is not looked at. -/
def discardCoin (coins : Coins) (outpoint : COutPoint) : Coins :=
  match coins.spendCoin outpoint with
  | none => coins
  | some (_, coins) => coins

/-- The loop of `RollforwardBlock`. -/
def rollforwardTxs (nHeight : Nat) : List CTransaction → Coins → Outcome Coins
  | [], coins => .ok coins
  | tx :: vtx, coins => do
    let coins := if tx.isCoinBase then coins
      else tx.vin.foldl (fun coins txin => discardCoin coins txin.prevout) coins
    let coins ← coins.addCoins tx nHeight true
    rollforwardTxs nHeight vtx coins

/-- `RollforwardBlock`, on the block that was read from disk. -/
def rollforwardBlock (block : CBlock) (pindex : CBlockIndex) (coins : Coins) : Outcome Coins :=
  rollforwardTxs pindex.nHeight block.vtx coins

end GarudaChain
