import GarudaChain.Node.Primitives

/-!
# Merkle roots and proof of work

`consensus/merkle.cpp` and the target test of `pow.cpp`. The hash of two nodes is a parameter.
-/

namespace GarudaChain

def levelMutated : List Uint256 → Bool
  | a :: b :: hashes => a == b || levelMutated hashes
  | _ => false

/-- One level of the tree, where an odd last hash is paired with itself (`SHA256D64`). -/
def merkleLevel (sha256D64 : Uint256 → Uint256 → Uint256) : List Uint256 → List Uint256
  | [] => []
  | [a] => [sha256D64 a a]
  | a :: b :: hashes => sha256D64 a b :: merkleLevel sha256D64 hashes

def computeMerkleRootLoop (sha256D64 : Uint256 → Uint256 → Uint256) :
    Nat → List Uint256 → Bool → Uint256 × Bool
  | 0, hashes, mutation => (hashes.headD 0, mutation)
  | fuel + 1, hashes, mutation =>
    if hashes.length > 1 then
      computeMerkleRootLoop sha256D64 fuel (merkleLevel sha256D64 hashes)
        (mutation || levelMutated hashes)
    else (hashes.headD 0, mutation)

/-- `ComputeMerkleRoot`: the root, and whether the list repeats a sequence of hashes. -/
def computeMerkleRoot (sha256D64 : Uint256 → Uint256 → Uint256) (hashes : List Uint256) :
    Uint256 × Bool :=
  computeMerkleRootLoop sha256D64 hashes.length hashes false

def blockMerkleRoot (sha256D64 : Uint256 → Uint256 → Uint256) (block : CBlock) : Uint256 × Bool :=
  computeMerkleRoot sha256D64 (block.vtx.map CTransaction.getHash)

/-- `arith_uint256::SetCompact`: the target, the sign and the overflow of a compact form. -/
def setCompact (nCompact : Nat) : Nat × Bool × Bool :=
  let nSize := nCompact / 2 ^ 24
  let nWord := nCompact % 2 ^ 23
  let value := if nSize ≤ 3 then nWord / 2 ^ (8 * (3 - nSize))
    else nWord * 2 ^ (8 * (nSize - 3)) % 2 ^ 256
  let nWord := if nSize ≤ 3 then nWord / 2 ^ (8 * (3 - nSize)) else nWord
  let fNegative := nWord != 0 && nCompact.testBit 23
  let fOverflow := nWord != 0 &&
    (decide (nSize > 34) || (decide (nWord > 0xff) && decide (nSize > 33)) ||
      (decide (nWord > 0xffff) && decide (nSize > 32)))
  (value, fNegative, fOverflow)

def checkProofOfWork (hash : Uint256) (nBits powLimit : Nat) : Bool :=
  let (bnTarget, fNegative, fOverflow) := setCompact nBits
  !(fNegative || bnTarget == 0 || fOverflow || decide (bnTarget > powLimit)) &&
    decide (hash.toNat ≤ bnTarget)

end GarudaChain
