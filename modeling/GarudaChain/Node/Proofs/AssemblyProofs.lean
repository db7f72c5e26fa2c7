import GarudaChain.Node.Proofs.AbortProofs
import GarudaChain.Node.Proofs.MintProofs
import GarudaChain.Node.Proofs.TemplateProofs

/-!
# The block of a template

What `CreateNewBlock` makes of the entries that were chosen, and a host, a tip and a view for instances.
-/

namespace GarudaChain

open Int64Lib

structure TemplateBlock (env : Env) (host : Host) (tip : CBlockIndex) (scriptPubKeyIn : Bytes)
    (nFees : Int) (vtx : List CTransaction) (block : CBlock) (coinbase : CTransaction) : Prop where
  vtx_eq : block.vtx = coinbase :: vtx
  coinbase : TemplateCoinbase env host tip (getBlockSubsidy env.mintFile (tip.nHeight + 1)) nFees
    scriptPubKeyIn vtx coinbase
  version : block.nVersion = computeBlockVersion host
  time : block.nTime = updateTime env.params tip host.now host.now
  bits : block.nBits = host.getNextWorkRequired tip block.nTime
  hash : ∃ header : CBlock, header.hashPrevBlock = tip.getBlockHash ∧
    block.getHash = host.hasher.headerHash header

theorem assembleTemplate_spec (env : Env) (host : Host) (tip : CBlockIndex) (scriptPubKeyIn : Bytes)
    (chosen : List CTxMemPoolEntry) :
    ∃ coinbase, TemplateBlock env host tip scriptPubKeyIn
      (chosen.foldl (fun nFees entry => wrap64 (nFees + entry.nFee)) 0)
      (chosen.map CTxMemPoolEntry.tx) (assembleTemplate env host tip scriptPubKeyIn chosen).block
      coinbase :=
  ⟨_, rfl, generateCoinbaseCommitment_spec env host tip _ _ scriptPubKeyIn _, rfl, rfl, rfl,
    _, rfl, rfl⟩

def sampleHasher : Hasher where
  computeHash tx := (tx.vin.foldl (fun h txin => h * 31 + txin.prevout.hash) 7 +
    BitVec.ofInt 256 (outputsValue tx.vout)) ||| 1
  computeWitnessHash tx := (tx.vin.foldl (fun h txin => h * 31 + txin.prevout.hash) 11 +
    BitVec.ofInt 256 (outputsValue tx.vout)) ||| 1
  headerHash block := block.vtx.foldl (fun h tx => h * 31 + tx.hash) block.hashPrevBlock &&& ~~~1
  hash256 bs := bs.foldl (fun h b => h * 31 + BitVec.ofNat 256 b.toNat) 7

def sampleHost : Host where
  hasher := sampleHasher
  now := 1700000600
  lastCheckpoint := none
  getNextWorkRequired _ _ := 0x1e0fffff
  signalledBits := 0
  blockVersionArg := none
  dexStateRoot := 0
  assetStateRoot := 0

def sampleKeyhash : Bytes := 0 :: 20 :: List.replicate 20 0x11

def sampleAnchor : Bytes := [op1, 2, 0x4e, 0x73]

def relayTip : CBlockIndex := sampleGenesisIndex.next ⟨0x10, 1700000300⟩

def relayView : CCoinsView :=
  ⟨Coins.empty.insert ⟨0x78, 0⟩ ⟨⟨50000, sampleAnchor⟩, false, 1⟩ ⟨by decide, by decide⟩, 0x10⟩

def relayedMint (scriptWitness : List Bytes) : CTransaction where
  vin := [⟨⟨cbdcMintMarker, 0⟩, [], sequenceFinal, scriptWitness⟩]
  vout := [⟨100000, sampleKeyhash⟩, sampleFeeOut 100]
  version := cbdcMintVersion
  nLockTime := 0
  hash := 0x20
  witnessHash := if scriptWitness.isEmpty then 0x20 else 0x22

def relayedSpend : CTransaction where
  vin := [⟨⟨0x78, 0⟩, [], sequenceFinal, []⟩]
  vout := [⟨49000, sampleKeyhash⟩]
  version := 2
  nLockTime := 0
  hash := 0x40
  witnessHash := 0x40

def spendEntry : CTxMemPoolEntry := ⟨relayedSpend, 1000, 1000, 82, 0⟩

end GarudaChain
