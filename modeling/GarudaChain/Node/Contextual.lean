import GarudaChain.Node.Validation

/-!
# Checks of a block in its context

The functions of `validation.cpp` around `ConnectBlock` that look at a block with the chain behind it:
`ContextualCheckBlockHeader`, `ContextualCheckBlock` with the witness commitment, and
`TestBlockValidity`.
-/

namespace GarudaChain

/-- The hashes that are computed over serialized objects. -/
structure Hasher where
  /-- `CTransaction::ComputeHash`. -/
  computeHash : CTransaction → Uint256
  /-- `CTransaction::ComputeWitnessHash`. -/
  computeWitnessHash : CTransaction → Uint256
  /-- `CBlockHeader::GetHash`. -/
  headerHash : CBlock → Uint256
  /-- `CHash256`. -/
  hash256 : Bytes → Uint256

/-- What a node brings to a new block besides the chain. -/
structure Host where
  hasher : Hasher
  now : Nat
  lastCheckpoint : Option Nat
  getNextWorkRequired : CBlockIndex → Nat → Nat
  signalledBits : BitVec 29
  blockVersionArg : Option Int
  dexStateRoot : Uint256
  assetStateRoot : Uint256

/-- `MakeTransactionRef`, whose constructor computes the hashes. -/
def Hasher.makeTransactionRef (hasher : Hasher) (tx : CTransaction) : CTransaction :=
  { tx with hash := hasher.computeHash tx, witnessHash := hasher.computeWitnessHash tx }

/-- The little-endian bytes of a number, without leading zeros. Eight bytes hold an `int64_t`. -/
def leBytes : Nat → Nat → Bytes
  | 0, _ => []
  | fuel + 1, n => if n == 0 then [] else UInt8.ofNat (n % 256) :: leBytes fuel (n / 256)

/-- `CScriptNum::serialize` on a number that is not negative. -/
def scriptNumSerialize (n : Nat) : Bytes :=
  let result := leBytes 8 n
  if (result.getLast?.any fun b => decide (b.toNat ≥ 128)) then result ++ [0] else result

/-- `CScript::operator<<` on data that fits a direct push. -/
def pushData (data : Bytes) : Bytes := UInt8.ofNat data.length :: data

/-- `CScript::push_int64` on a number that is not negative. -/
def pushInt64 (n : Nat) : Bytes :=
  if n == 0 then [0]
  else if n ≤ 16 then [UInt8.ofNat (n + (op1.toNat - 1))]
  else pushData (scriptNumSerialize n)

def maxTimewarp : Int := 600
def maxFutureBlockTime : Int := 7200

def isTimewarpBlock (params : ConsensusParams) (prev : CBlockIndex) : Bool :=
  params.enforceBIP94 && (prev.nHeight + 1) % params.difficultyAdjustmentInterval == 0

def outdatedVersion (params : ConsensusParams) (prev : CBlockIndex) (nVersion : Int) : Bool :=
  (decide (nVersion < 2) && deploymentActiveAfter params prev .heightInCb) ||
    (decide (nVersion < 3) && deploymentActiveAfter params prev .dersig) ||
    (decide (nVersion < 4) && deploymentActiveAfter params prev .cltv)

/-- The text of a number as eight hexadecimal digits (`%08x`). -/
def hex8 (n : Int) : String :=
  String.ofList (List.leftpad 8 '0' (Nat.toDigits 16 (n % 2 ^ 32).toNat))

def contextualCheckBlockHeader (params : ConsensusParams) (host : Host) (block : CBlock)
    (prev : CBlockIndex) : Outcome Unit := do
  rejectBlockIf (block.nBits != host.getNextWorkRequired prev block.nTime) .invalidHeader
    "bad-diffbits"
  rejectBlockIf (host.lastCheckpoint.any fun height => decide (prev.nHeight + 1 < height))
    .checkpoint "bad-fork-prior-to-checkpoint"
  rejectBlockIf (decide ((block.nTime : Int) ≤ prev.getMedianTimePast)) .invalidHeader
    "time-too-old"
  rejectBlockIf (isTimewarpBlock params prev &&
      decide ((block.nTime : Int) < prev.entry.nTime - maxTimewarp)) .invalidHeader
    "time-timewarp-attack"
  rejectBlockIf (decide ((block.nTime : Int) > host.now + maxFutureBlockTime)) .timeFuture
    "time-too-new"
  rejectBlockIf (outdatedVersion params prev block.nVersion) .invalidHeader
    ("bad-version(0x" ++ hex8 block.nVersion ++ ")")

/-- The bytes in front of a commitment: `OP_RETURN`, a push of 36 bytes, and a tag. -/
def witnessCommitmentTag : Bytes := [opReturn, 0x24, 0xaa, 0x21, 0xa9, 0xed]

/-- The test of `GetWitnessCommitmentIndex` on one output. -/
def isWitnessCommitment (script : Bytes) : Bool :=
  decide (script.length ≥ 38) && script.take 6 == witnessCommitmentTag

/-- The loop of `GetWitnessCommitmentIndex`, which keeps the last match. -/
def witnessCommitmentLoop : Nat → List CTxOut → Option Nat → Option Nat
  | _, [], commitpos => commitpos
  | o, out :: vout, commitpos =>
    witnessCommitmentLoop (o + 1) vout
      (if isWitnessCommitment out.scriptPubKey then some o else commitpos)

def getWitnessCommitmentIndex (vtx : List CTransaction) : Option Nat :=
  match vtx with
  | [] => none
  | coinbase :: _ => witnessCommitmentLoop 0 coinbase.vout none

/-- `BlockWitnessMerkleRoot`: the witness hash of the coinbase is zero. -/
def blockWitnessMerkleRoot (crypto : Crypto) (vtx : List CTransaction) : Uint256 :=
  (computeMerkleRoot crypto.sha256D64 (0 :: (vtx.drop 1).map CTransaction.witnessHash)).1

/-- The hash that a block commits to. -/
def witnessCommitmentHash (crypto : Crypto) (hasher : Hasher) (vtx : List CTransaction)
    (nonce : Bytes) : Bytes :=
  uint256Bytes (hasher.hash256 (uint256Bytes (blockWitnessMerkleRoot crypto vtx) ++ nonce))

def checkWitnessMalleation (crypto : Crypto) (hasher : Hasher) (vtx : List CTransaction)
    (expectWitnessCommitment : Bool) : Outcome Unit :=
  let unexpected :=
    rejectBlockIf (vtx.any CTransaction.hasWitness) .mutated "unexpected-witness"
  if expectWitnessCommitment then
    match vtx, getWitnessCommitmentIndex vtx with
    | coinbase :: _, some commitpos => do
      let witnessStack := (coinbase.vin.headD ⟨⟨0, 0⟩, [], 0, []⟩).scriptWitness
      rejectBlockIf (witnessStack.length != 1 || (witnessStack.headD []).length != 32) .mutated
        "bad-witness-nonce-size"
      let script := (coinbase.vout.getD commitpos ⟨0, []⟩).scriptPubKey
      rejectBlockIf (witnessCommitmentHash crypto hasher vtx (witnessStack.headD []) !=
          (script.drop 6).take 32) .mutated "bad-witness-merkle-match"
    | _, _ => unexpected
  else unexpected

/-- The witness reserved value that `UpdateUncommittedBlockStructures` puts into the coinbase. -/
def witnessNonce : Bytes := List.replicate 32 0

/-- `UpdateUncommittedBlockStructures`, on the coinbase of a block. -/
def updateUncommittedBlockStructures (params : ConsensusParams) (hasher : Hasher)
    (prev : CBlockIndex) (coinbase : CTransaction) : CTransaction :=
  if (getWitnessCommitmentIndex [coinbase]).isSome && deploymentActiveAfter params prev .segwit &&
      !coinbase.hasWitness then
    match coinbase.vin with
    | [] => coinbase
    | txin :: vin => hasher.makeTransactionRef
        { coinbase with vin := { txin with scriptWitness := [witnessNonce] } :: vin }
  else coinbase

/-- `GenerateCoinbaseCommitment`: the coinbase, and the script of the new output. -/
def generateCoinbaseCommitment (env : Env) (hasher : Hasher) (prev : CBlockIndex)
    (coinbase : CTransaction) (vtx : List CTransaction) : CTransaction × Bytes :=
  match getWitnessCommitmentIndex [coinbase] with
  | some _ => (updateUncommittedBlockStructures env.params hasher prev coinbase, [])
  | none =>
    let commitment := witnessCommitmentTag ++
      witnessCommitmentHash env.crypto hasher (coinbase :: vtx) witnessNonce
    let coinbase := hasher.makeTransactionRef
      { coinbase with vout := coinbase.vout ++ [⟨0, commitment⟩] }
    (updateUncommittedBlockStructures env.params hasher prev coinbase, commitment)

def coinbaseScriptSig (vtx : List CTransaction) : Bytes :=
  match vtx with
  | [] => []
  | coinbase :: _ => (coinbase.vin.map CTxIn.scriptSig).headD []

def contextualCheckBlock (env : Env) (host : Host) (block : CBlock) (prev : CBlockIndex) :
    Outcome Unit := do
  let nHeight := prev.nHeight + 1
  let nLockTimeCutoff : Int :=
    if deploymentActiveAfter env.params prev .csv then prev.getMedianTimePast else block.nTime
  rejectBlockIf (!block.vtx.all fun tx => isFinalTx tx nHeight nLockTimeCutoff) .consensus
    "bad-txns-nonfinal"
  rejectBlockIf (deploymentActiveAfter env.params prev .heightInCb &&
      !(pushInt64 nHeight).isPrefixOf (coinbaseScriptSig block.vtx)) .consensus "bad-cb-height"
  checkWitnessMalleation env.crypto host.hasher block.vtx
    (deploymentActiveAfter env.params prev .segwit)
  rejectBlockIf (decide (getBlockWeight block > maxBlockWeight)) .consensus "bad-blk-weight"

/-- `TestBlockValidity`, without proof of work and Merkle root, as `CreateNewBlock` calls it. -/
def testBlockValidity (env : Env) (host : Host) (block : CBlock) (prev : CBlockIndex)
    (view : CCoinsView) : Outcome Unit := do
  contextualCheckBlockHeader env.params host block prev
  checkBlock env block false false
  contextualCheckBlock env host block prev
  let _ ← connectBlock env block (prev.next ⟨block.getHash, block.nTime⟩) view true
  .ok ()

end GarudaChain
