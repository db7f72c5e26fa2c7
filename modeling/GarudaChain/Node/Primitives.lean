import Mathlib.Algebra.Order.BigOperators.Group.List
import Mathlib.Algebra.Order.Ring.Int
import Mathlib.Data.List.Sort
import Mathlib.Tactic.Common

/-!
# Transactions, blocks and validation results

The data types of `primitives/transaction.h`, `primitives/block.h`, `consensus/amount.h` and
`consensus/validation.h`.
-/

namespace GarudaChain

/-- `uint256`, as the number its hexadecimal form writes. -/
abbrev Uint256 := BitVec 256

/-- A byte string (`std::vector<unsigned char>`, `CScript`). -/
abbrev Bytes := List UInt8

def oneCoin : Int := 100000000

/-- `MAX_MONEY` of `consensus/amount.h`. -/
def maxMoney : Int := 90000000000 * oneCoin

def moneyRange (nValue : Int) : Bool := decide (0 ≤ nValue) && decide (nValue ≤ maxMoney)

theorem maxMoney_eq : maxMoney = 9000000000000000000 := by decide

@[simp] theorem moneyRange_iff (v : Int) :
    moneyRange v = true ↔ 0 ≤ v ∧ v ≤ 9000000000000000000 := by
  simp [moneyRange, maxMoney_eq]

/-- `COutPoint`: the `n`-th output of the transaction with this hash. -/
structure COutPoint where
  hash : Uint256
  n : Nat
  deriving DecidableEq, Repr

def nullIndex : Nat := 4294967295

def COutPoint.isNull (o : COutPoint) : Bool := o.hash == 0 && o.n == nullIndex

structure CTxIn where
  prevout : COutPoint
  scriptSig : Bytes
  nSequence : Nat
  scriptWitness : List Bytes
  deriving DecidableEq, Repr

structure CTxOut where
  nValue : Int
  scriptPubKey : Bytes
  deriving DecidableEq, Repr

/-- `CTxOut::IsNull`: the value `-1` marks an output that is not there. -/
def CTxOut.isNull (o : CTxOut) : Bool := o.nValue == -1

/-- `CTransaction`, with the hashes its constructor caches (`hash` and `m_witness_hash`). -/
structure CTransaction where
  vin : List CTxIn
  vout : List CTxOut
  version : Nat
  nLockTime : Nat
  hash : Uint256
  witnessHash : Uint256
  deriving DecidableEq, Repr

def CTransaction.getHash (tx : CTransaction) : Uint256 := tx.hash

def CTransaction.isCoinBase (tx : CTransaction) : Bool :=
  match tx.vin with
  | [txin] => txin.prevout.isNull
  | _ => false

def CTransaction.hasWitness (tx : CTransaction) : Bool :=
  tx.vin.any fun txin => !txin.scriptWitness.isEmpty

/-- `CBlock`: the header, with the value of `GetHash()` on it, and the transactions. -/
structure CBlock where
  nVersion : Int
  hashPrevBlock : Uint256
  hashMerkleRoot : Uint256
  nTime : Nat
  nBits : Nat
  nNonce : Nat
  hash : Uint256
  vtx : List CTransaction
  deriving DecidableEq, Repr

def CBlock.getHash (block : CBlock) : Uint256 := block.hash

/-- `TxValidationResult`, the members the modelled code sets. -/
inductive TxValidationResult
  | consensus
  | inputsNotStandard
  | notStandard
  | missingInputs
  | prematureSpend
  | witnessMutated
  | witnessStripped
  | conflict
  | mempoolPolicy
  | reconsiderable
  deriving DecidableEq, Repr

/-- `BlockValidationResult`, the members the modelled code sets. -/
inductive BlockValidationResult
  | consensus
  | invalidHeader
  | mutated
  | timeFuture
  | checkpoint
  deriving DecidableEq, Repr

inductive AssertSite
  /-- `assert(!coin.IsSpent())` of `CCoinsViewCache::AddCoin`. -/
  | addCoinNotSpent
  /-- `assert(is_spent)` of `UpdateCoins`. -/
  | updateCoinsIsSpent
  /-- `assert(!coin.IsSpent())` of the functions that read the inputs of a transaction. -/
  | inputNotSpent
  /-- `assert(*pindex->phashBlock == block_hash)` of `ConnectBlock`. -/
  | indexHash
  /-- `assert(hashPrevBlock == view.GetBestBlock())` of `ConnectBlock`. -/
  | bestBlock
  /-- `assert(pindex->pprev)` of `ConnectBlock`. -/
  | hasPrev
  /-- `assert((flags & SCRIPT_VERIFY_P2SH) != 0)` of `CountWitnessSigOps`. -/
  | witnessNeedsP2SH
  /-- `Assert(block.GetAncestor(..))` of `CalculateSequenceLocks`. -/
  | sequenceAncestor
  /-- `assert(LookupBlockIndex(m_view.GetBestBlock()) == Tip())` of `PreChecks`. -/
  | bestBlockAtTip
  /-- `Assert(tip->GetAncestor(max_input_height))` of `CalculateLockPointsAtTip`. -/
  | lockPointsAncestor
  /-- The two `Assert`s of `ClampOptions`. -/
  | clampOptions
  /-- `assert(vch.size() == WIDTH)` of the constructor of `base_blob`. -/
  | blobSize
  /-- `assert(false)` behind the cases of `ExtractDestination`. -/
  | extractDestination
  deriving DecidableEq, Repr

/-- The exceptions of the modelled code. -/
inductive Exception
  /-- `std::logic_error("Attempted to overwrite an unspent coin (when possible_overwrite is
      false)")` of `CCoinsViewCache::AddCoin`. -/
  | overwriteUnspentCoin
  /-- `std::runtime_error("GetValueOut: value out of range")`. -/
  | valueOutOfRange
  /-- `std::runtime_error("CreateNewBlock: TestBlockValidity failed: ..")`. -/
  | testBlockValidityFailed
  deriving DecidableEq, Repr

/-- How a modelled call ends when it does not return a value. -/
inductive Abort
  | blockInvalid (result : BlockValidationResult) (reason : String)
  | txInvalid (result : TxValidationResult) (reason : String)
  | fatalError (message : String)
  | disconnectFailed
  | assertFailed (site : AssertSite)
  | thrown (ex : Exception)
  deriving DecidableEq, Repr

/-- The result of a modelled call. -/
abbrev Outcome (α : Type) := Except Abort α

/-- `assert(cond)`. -/
def assertThat (cond : Bool) (site : AssertSite) : Outcome Unit :=
  if cond then .ok () else .error (.assertFailed site)

/-- `if (cond) return state.Invalid(result, reason)` on a block. -/
def rejectBlockIf (cond : Bool) (result : BlockValidationResult) (reason : String) :
    Outcome Unit :=
  if cond then .error (.blockInvalid result reason) else .ok ()

/-- `if (cond) return state.Invalid(result, reason)` on a transaction. -/
def rejectTxIf (cond : Bool) (result : TxValidationResult) (reason : String) : Outcome Unit :=
  if cond then .error (.txInvalid result reason) else .ok ()

@[simp] theorem assertThat_eq_ok (cond : Bool) (site : AssertSite) (u : Unit) :
    assertThat cond site = .ok u ↔ cond = true := by
  cases cond <;> simp [assertThat]

@[simp] theorem rejectBlockIf_eq_ok (cond : Bool) (result : BlockValidationResult)
    (reason : String) (u : Unit) :
    rejectBlockIf cond result reason = .ok u ↔ cond = false := by
  cases cond <;> simp [rejectBlockIf]

@[simp] theorem rejectTxIf_eq_ok (cond : Bool) (result : TxValidationResult) (reason : String)
    (u : Unit) : rejectTxIf cond result reason = .ok u ↔ cond = false := by
  cases cond <;> simp [rejectTxIf]

theorem bind_eq_ok {α β : Type} {x : Outcome α} {f : α → Outcome β} {b : β} :
    (x >>= f) = .ok b ↔ ∃ a, x = .ok a ∧ f a = .ok b := by
  cases x with
  | error e => simp [bind, Except.bind]
  | ok a => simp [bind, Except.bind]

def okAnd {α : Type} (x : Outcome α) (p : α → Bool) : Bool :=
  match x with
  | .ok a => p a
  | .error _ => false

theorem okAnd_iff {α : Type} {x : Outcome α} {p : α → Bool} :
    okAnd x p = true ↔ ∃ a, x = .ok a ∧ p a = true := by
  cases x with
  | error e => simp [okAnd]
  | ok a => simp [okAnd]

end GarudaChain
