import GarudaChain.Node.Contextual
import GarudaChain.Node.Solver

/-!
# Assembling a block

`BlockAssembler` of `node/miner.cpp`, once the transactions are chosen: the coinbase with the shares of
the miner and of the state budget, and the test of the finished block.
-/

namespace GarudaChain

/-- `nApbnFee`: 30% of the fees. -/
def apbnFee (nFees : Int) : Int := (wrap64 (nFees * 30)).tdiv 100

/-- `nMinerReward`. -/
def minerReward (nSubsidy nFees : Int) : Int := wrap64 (wrap64 (nSubsidy + nFees) - apbnFee nFees)

def apbnScript : Bytes :=
  [0, 20, 0x20, 0x17, 0x55, 0x5d, 0x41, 0xb7, 0xda, 0xf7, 0x77, 0xbf, 0x16, 0xa2, 0x4b, 0x74, 0x9d,
    0x94, 0x69, 0x1e, 0x08, 0x5f]

def stateScript (host : Host) : Bytes :=
  opReturn :: pushData
    ([0x47, 0x52, 0x44, 0x01] ++ uint256Bytes host.dexStateRoot ++ uint256Bytes host.assetStateRoot)

/-- `coinbaseTx`, before the witness commitment. -/
def coinbaseTx (host : Host) (nHeight : Nat) (nSubsidy nFees : Int) (scriptPubKeyIn : Bytes) :
    CTransaction :=
  host.hasher.makeTransactionRef
    { vin := [⟨⟨0, nullIndex⟩, pushInt64 nHeight ++ [0], sequenceFinal, []⟩]
      vout := ⟨minerReward nSubsidy nFees, scriptPubKeyIn⟩ ::
        (if apbnFee nFees > 0 then [⟨apbnFee nFees, apbnScript⟩] else []) ++ [⟨0, stateScript host⟩]
      version := 2
      nLockTime := 0
      hash := 0
      witnessHash := 0 }

/-- `CTxMemPoolEntry`: what the assembly of a block reads of it. -/
structure CTxMemPoolEntry where
  tx : CTransaction
  nFee : Int
  modifiedFee : Int
  txSize : Nat
  sigOpCost : Nat
  deriving DecidableEq, Repr

/-- `ComputeBlockVersion`, or the version that `-blockversion` asks for. -/
def computeBlockVersion (host : Host) : Int :=
  host.blockVersionArg.getD ((0x20000000 ||| host.signalledBits.toNat : Nat) : Int)

/-- `UpdateTime`: the new time of the header. -/
def updateTime (params : ConsensusParams) (prev : CBlockIndex) (now nOldTime : Nat) : Nat :=
  let nNewTime : Int := max (prev.getMedianTimePast + 1) now
  let nNewTime := if isTimewarpBlock params prev then max nNewTime (prev.entry.nTime - maxTimewarp)
    else nNewTime
  if (nOldTime : Int) < nNewTime then nNewTime.toNat else nOldTime

structure CBlockTemplate where
  block : CBlock
  vTxFees : List Int
  vTxSigOpsCost : List Nat
  vchCoinbaseCommitment : Bytes
  deriving DecidableEq, Repr

/-- The block of `CreateNewBlock`, with the entries that were chosen for it. -/
def assembleTemplate (env : Env) (host : Host) (tip : CBlockIndex) (scriptPubKeyIn : Bytes)
    (inBlock : List CTxMemPoolEntry) : CBlockTemplate :=
  let nHeight := tip.nHeight + 1
  let nFees := inBlock.foldl (fun nFees entry => wrap64 (nFees + entry.nFee)) 0
  let nSubsidy := getBlockSubsidy env.mintFile nHeight
  let vtx := inBlock.map CTxMemPoolEntry.tx
  let (coinbase, commitment) := generateCoinbaseCommitment env host.hasher tip
    (coinbaseTx host nHeight nSubsidy nFees scriptPubKeyIn) vtx
  let nTime := updateTime env.params tip host.now host.now
  let block : CBlock :=
    { nVersion := computeBlockVersion host
      hashPrevBlock := tip.getBlockHash
      hashMerkleRoot := 0
      nTime := nTime
      nBits := host.getNextWorkRequired tip nTime
      nNonce := 0
      hash := 0
      vtx := coinbase :: vtx }
  { block := { block with hash := host.hasher.headerHash block }
    vTxFees := wrap64 (-nFees) :: inBlock.map CTxMemPoolEntry.nFee
    vTxSigOpsCost :=
      witnessScaleFactor * getLegacySigOpCount coinbase :: inBlock.map CTxMemPoolEntry.sigOpCost
    vchCoinbaseCommitment := commitment }

/-- `BlockAssembler::CreateNewBlock`, once `addPackageTxs` has chosen these entries. -/
def createNewBlockOf (env : Env) (host : Host) (tip : CBlockIndex) (view : CCoinsView)
    (scriptPubKeyIn : Bytes) (inBlock : List CTxMemPoolEntry) : Outcome CBlockTemplate :=
  let template := assembleTemplate env host tip scriptPubKeyIn inBlock
  match testBlockValidity env host template.block tip view with
  | .ok _ => .ok template
  | .error (.blockInvalid _ _) => .error (.thrown .testBlockValidityFailed)
  | .error (.fatalError _) => .error (.thrown .testBlockValidityFailed)
  | .error e => .error e

theorem createNewBlockOf_eq_ok {env : Env} {host : Host} {tip : CBlockIndex} {view : CCoinsView}
    {scriptPubKeyIn : Bytes} {inBlock : List CTxMemPoolEntry} {template : CBlockTemplate} :
    createNewBlockOf env host tip view scriptPubKeyIn inBlock = .ok template ↔
      template = assembleTemplate env host tip scriptPubKeyIn inBlock ∧
        testBlockValidity env host template.block tip view = .ok () := by
  dsimp only [createNewBlockOf]
  cases hvalid : testBlockValidity env host
      (assembleTemplate env host tip scriptPubKeyIn inBlock).block tip view with
  | ok u =>
    constructor
    · rintro ⟨⟩
      exact ⟨rfl, hvalid⟩
    · rintro ⟨rfl, -⟩
      rfl
  | error err =>
    constructor
    · intro h
      cases err <;> cases h
    · rintro ⟨rfl, h⟩
      rw [hvalid] at h
      cases h

end GarudaChain
