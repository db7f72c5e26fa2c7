import GarudaChain.Node.Script

/-!
# The block index and the consensus parameters

`chain.h` and `consensus/params.h`.
-/

namespace GarudaChain

/-- What the block index keeps of one block. -/
structure BlockEntry where
  hash : Uint256
  nTime : Nat
  deriving DecidableEq, Repr

/-- `CBlockIndex`: an entry and the entries behind it, the parent first. -/
structure CBlockIndex where
  entry : BlockEntry
  ancestors : List BlockEntry
  deriving DecidableEq, Repr

namespace CBlockIndex

def nHeight (pindex : CBlockIndex) : Nat := pindex.ancestors.length

def getBlockHash (pindex : CBlockIndex) : Uint256 := pindex.entry.hash

def pprev (pindex : CBlockIndex) : Option CBlockIndex :=
  match pindex.ancestors with
  | [] => none
  | e :: es => some ⟨e, es⟩

/-- The entry of a block on top of this one. -/
def next (pindex : CBlockIndex) (e : BlockEntry) : CBlockIndex :=
  ⟨e, pindex.entry :: pindex.ancestors⟩

def getAncestor (pindex : CBlockIndex) (height : Nat) : Option CBlockIndex :=
  if height > pindex.nHeight then none
  else match (pindex.entry :: pindex.ancestors).drop (pindex.nHeight - height) with
    | [] => none
    | e :: es => some ⟨e, es⟩

/-- `GetMedianTimePast`: the median of the times of up to eleven blocks. -/
def getMedianTimePast (pindex : CBlockIndex) : Int :=
  let times := ((pindex.entry :: pindex.ancestors).take 11).map fun e => (e.nTime : Int)
  (times.insertionSort (· ≤ ·)).getD (times.length / 2) 0

theorem nHeight_pos_of_pprev {pindex prev : CBlockIndex} (h : pindex.pprev = some prev) :
    0 < pindex.nHeight := by
  obtain ⟨e, as⟩ := pindex
  cases as with
  | nil => simp [pprev] at h
  | cons a as => simp [nHeight]

end CBlockIndex

/-- `Consensus::Params`, the members the modelled code reads. -/
structure ConsensusParams where
  hashGenesisBlock : Uint256
  bip34Height : Nat
  bip34Hash : Uint256
  bip65Height : Nat
  bip66Height : Nat
  csvHeight : Nat
  segwitHeight : Nat
  scriptFlagExceptions : List (Uint256 × ScriptFlags)
  powLimit : Nat
  nPowTargetTimespan : Nat
  nPowTargetSpacing : Nat
  enforceBIP94 : Bool
  signetBlocks : Bool

inductive BuriedDeployment
  | heightInCb
  | cltv
  | dersig
  | csv
  | segwit
  deriving DecidableEq, Repr

def ConsensusParams.deploymentHeight (params : ConsensusParams) : BuriedDeployment → Nat
  | .heightInCb => params.bip34Height
  | .cltv => params.bip65Height
  | .dersig => params.bip66Height
  | .csv => params.csvHeight
  | .segwit => params.segwitHeight

/-- `DeploymentActiveAt` for a buried deployment. -/
def deploymentActiveAt (params : ConsensusParams) (index : CBlockIndex) (dep : BuriedDeployment) :
    Bool :=
  decide (params.deploymentHeight dep ≤ index.nHeight)

/-- `DeploymentActiveAfter` for a buried deployment: it is active for the next block. -/
def deploymentActiveAfter (params : ConsensusParams) (prev : CBlockIndex) (dep : BuriedDeployment) :
    Bool :=
  decide (params.deploymentHeight dep ≤ prev.nHeight + 1)

def ConsensusParams.difficultyAdjustmentInterval (params : ConsensusParams) : Nat :=
  params.nPowTargetTimespan / params.nPowTargetSpacing

def getBlockScriptFlags (params : ConsensusParams) (index : CBlockIndex) : ScriptFlags :=
  let base := verifyP2SH ||| verifyWitness ||| verifyTaproot ||| verifyQuantum
  let flags := (params.scriptFlagExceptions.lookup index.getBlockHash).getD base
  let flags :=
    if deploymentActiveAt params index .dersig then flags ||| verifyDerSig else flags
  let flags :=
    if deploymentActiveAt params index .cltv then flags ||| verifyCheckLockTimeVerify else flags
  let flags :=
    if deploymentActiveAt params index .csv then flags ||| verifyCheckSequenceVerify else flags
  if deploymentActiveAt params index .segwit then flags ||| verifyNullDummy else flags

/-- The parameters `CMainParams` sets. -/
def mainParams : ConsensusParams where
  hashGenesisBlock := 0x00000398481367a3ebb1d38a4c1eca9dd030cee4f29c4c1aded4dbf9cc124ecb
  bip34Height := 1
  bip34Hash := 0
  bip65Height := 1
  bip66Height := 1
  csvHeight := 1
  segwitHeight := 1
  scriptFlagExceptions := []
  powLimit := 0x00000fffffffffffffffffffffffffffffffffffffffffffffffffffffffffff
  nPowTargetTimespan := 14 * 24 * 60 * 60
  nPowTargetSpacing := 5 * 60
  enforceBIP94 := false
  signetBlocks := false

end GarudaChain
