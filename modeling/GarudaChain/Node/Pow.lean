import GarudaChain.Lib.Int64
import GarudaChain.Lib.Limbs
import GarudaChain.Node.BlockIndex
import GarudaChain.Node.Hashing

/-!
# Difficulty adjustment

`pow.cpp` and the operations of `arith_uint256.cpp` it calls.
-/

namespace GarudaChain

open Limbs

def mulAssign (a : Nat) (b : Int) : Nat :=
  Nat.ofDigits (2 ^ 32) (mulLoop (2 ^ 32) (b % 2 ^ 32).toNat (limbs (2 ^ 32) 8 a) 0)

/-- `base_uint::operator/=`; dividing by zero throws. -/
def divAssign (a b : Nat) : Except String Nat :=
  let numBits := bits a
  let divBits := bits b
  if divBits == 0 then .error "Division by zero"
  else if divBits > numBits then .ok 0
  else
    let shift := numBits - divBits
    .ok (divLoop (shift + 1) a (b * 2 ^ shift % 2 ^ 256) 0)

/-- The mantissa and the size that `GetCompact` puts together. -/
def compactParts (a : Nat) : Nat × Nat :=
  let nSize := (bits a + 7) / 8
  let nCompact :=
    if nSize ≤ 3 then a % 2 ^ 64 * 2 ^ (8 * (3 - nSize)) % 2 ^ 64 % 2 ^ 32
    else a / 2 ^ (8 * (nSize - 3)) % 2 ^ 64 % 2 ^ 32
  -- bit 23 is the sign, so a mantissa that has it moves one byte down
  if nCompact.testBit 23 then (nCompact / 2 ^ 8, nSize + 1) else (nCompact, nSize)

/-- `arith_uint256::GetCompact` of a number that is not negative. -/
def getCompact (a : Nat) : Nat :=
  let (nCompact, nSize) := compactParts a
  nCompact ||| nSize * 2 ^ 24

/-- What `pow.cpp` reads of a `CBlockIndex`. -/
structure PowEntry where
  nTime : UInt32
  nBits : UInt32
  deriving DecidableEq, Repr

def PowEntry.getBlockTime (e : PowEntry) : Int := e.nTime.toNat

/-- A `CBlockIndex`: an entry and the entries behind it, the parent first. -/
structure PowIndex where
  entry : PowEntry
  ancestors : List PowEntry
  deriving DecidableEq, Repr

namespace PowIndex

def nHeight (pindex : PowIndex) : Nat := pindex.ancestors.length

def nBits (pindex : PowIndex) : Nat := pindex.entry.nBits.toNat

def getBlockTime (pindex : PowIndex) : Int := pindex.entry.getBlockTime

/-- The entry at a height that is not above this one. -/
def getAncestor (pindex : PowIndex) (height : Int) : Option PowEntry :=
  if height < 0 ∨ height > pindex.nHeight then none
  else (pindex.entry :: pindex.ancestors)[pindex.nHeight - height.toNat]?

end PowIndex

/-- The members of `Consensus::Params` that only `pow.cpp` reads. -/
structure PowParams extends ConsensusParams where
  fPowAllowMinDifficultyBlocks : Bool
  fPowNoRetargeting : Bool

/-- The parameters `CMainParams` sets. -/
def mainPowParams : PowParams :=
  { mainParams with fPowAllowMinDifficultyBlocks := false, fPowNoRetargeting := false }

/-- `nActualTimespan`: the time between two blocks, limited to a factor of four both ways. -/
def actualTimespan (params : PowParams) (nLastBlockTime nFirstBlockTime : Int) : Int :=
  let nActualTimespan := wrap64 (nLastBlockTime - nFirstBlockTime)
  let nActualTimespan :=
    if nActualTimespan < (params.nPowTargetTimespan : Int) / 4 then
      (params.nPowTargetTimespan : Int) / 4
    else nActualTimespan
  if nActualTimespan > (params.nPowTargetTimespan : Int) * 4 then
    (params.nPowTargetTimespan : Int) * 4
  else nActualTimespan

def scaledTarget (params : PowParams) (nBits : Nat) (timespan : Int) : Except String Nat := do
  let bnNew ← divAssign (mulAssign (setCompact nBits).1 timespan) params.nPowTargetTimespan
  return if bnNew > params.powLimit then params.powLimit else bnNew

def calculateNextWorkRequired (params : PowParams) (pindexLast : PowIndex)
    (nFirstBlockTime : Int) : Except String Nat :=
  if params.fPowNoRetargeting then .ok pindexLast.nBits
  else do
    let timespan := actualTimespan params pindexLast.getBlockTime nFirstBlockTime
    let nBits ← (
      -- the first block of a period keeps the real difficulty (BIP94)
      if params.enforceBIP94 then
        let nHeightFirst :=
          (pindexLast.nHeight : Int) - ((params.difficultyAdjustmentInterval : Int) - 1)
        match pindexLast.getAncestor nHeightFirst with
        | some pindexFirst => .ok pindexFirst.nBits.toNat
        | none => .error "pindexFirst"
      else .ok pindexLast.nBits)
    return getCompact (← scaledTarget params nBits timespan)

def lastRealDifficulty (params : PowParams) (nProofOfWorkLimit : Nat) :
    PowEntry → List PowEntry → Nat
  | e, [] => e.nBits.toNat
  | e, p :: ps =>
    if (ps.length + 1) % params.difficultyAdjustmentInterval ≠ 0 ∧
        e.nBits.toNat = nProofOfWorkLimit then
      lastRealDifficulty params nProofOfWorkLimit p ps
    else e.nBits.toNat

def getNextWorkRequired (params : PowParams) (pindexLast : PowIndex) (nBlockTime : Int) :
    Except String Nat :=
  let nProofOfWorkLimit := getCompact params.powLimit
  if (pindexLast.nHeight + 1) % params.difficultyAdjustmentInterval ≠ 0 then
    if params.fPowAllowMinDifficultyBlocks then
      if nBlockTime > pindexLast.getBlockTime + params.nPowTargetSpacing * 2 then
        .ok nProofOfWorkLimit
      else .ok (lastRealDifficulty params nProofOfWorkLimit pindexLast.entry pindexLast.ancestors)
    else .ok pindexLast.nBits
  else
    let nHeightFirst :=
      (pindexLast.nHeight : Int) - ((params.difficultyAdjustmentInterval : Int) - 1)
    match pindexLast.getAncestor nHeightFirst with
    | none => .error "pindexFirst"
    | some pindexFirst => calculateNextWorkRequired params pindexLast pindexFirst.getBlockTime

/-- The target that a compact form stands for after the rounding of `GetCompact`. -/
def roundTarget (a : Nat) : Nat := (setCompact (getCompact a)).1

def permittedDifficultyTransition (params : PowParams) (height : Int) (oldNbits newNbits : Nat) :
    Except String Bool :=
  if params.fPowAllowMinDifficultyBlocks then .ok true
  else if height.tmod params.difficultyAdjustmentInterval = 0 then do
    let smallestTimespan : Int := (params.nPowTargetTimespan : Int) / 4
    let largestTimespan : Int := (params.nPowTargetTimespan : Int) * 4
    let observedNewTarget := (setCompact newNbits).1
    let largestDifficultyTarget ← scaledTarget params oldNbits largestTimespan
    if roundTarget largestDifficultyTarget < observedNewTarget then return false
    let smallestDifficultyTarget ← scaledTarget params oldNbits smallestTimespan
    if roundTarget smallestDifficultyTarget > observedNewTarget then return false
    return true
  else .ok (oldNbits == newNbits)

end GarudaChain
