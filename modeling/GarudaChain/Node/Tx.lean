import GarudaChain.Lib.Int64
import GarudaChain.Node.BlockIndex
import GarudaChain.Node.Coins

/-!
# Checks on single transactions

`consensus/tx_check.cpp` and `consensus/tx_verify.cpp`, with the serialized sizes they measure.
-/

namespace GarudaChain

def witnessScaleFactor : Nat := 4
def maxBlockWeight : Nat := 4000000
def maxBlockSigOpsCost : Nat := 80000
def coinbaseMaturity : Int := 1

def getSizeOfCompactSize (n : Nat) : Nat :=
  if n < 253 then 1 else if n ≤ 0xffff then 3 else if n ≤ 0xffffffff then 5 else 9

/-- The serialized size of a byte string. -/
def bytesSize (bs : Bytes) : Nat := getSizeOfCompactSize bs.length + bs.length

/-- `GetSerializeSize(TX_NO_WITNESS(tx))`. -/
def serializeSizeNoWitness (tx : CTransaction) : Nat :=
  4 + getSizeOfCompactSize tx.vin.length +
    (tx.vin.map fun txin => 36 + bytesSize txin.scriptSig + 4).sum +
    getSizeOfCompactSize tx.vout.length +
    (tx.vout.map fun txout => 8 + bytesSize txout.scriptPubKey).sum + 4

/-- `GetSerializeSize(TX_WITH_WITNESS(tx))`. -/
def serializeSizeWithWitness (tx : CTransaction) : Nat :=
  if tx.hasWitness then
    serializeSizeNoWitness tx + 2 +
      (tx.vin.map fun txin =>
        getSizeOfCompactSize txin.scriptWitness.length + (txin.scriptWitness.map bytesSize).sum).sum
  else serializeSizeNoWitness tx

/-- `GetSerializeSize(TX_NO_WITNESS(block))`. -/
def blockSizeNoWitness (block : CBlock) : Nat :=
  80 + getSizeOfCompactSize block.vtx.length + (block.vtx.map serializeSizeNoWitness).sum

/-- `GetSerializeSize(TX_WITH_WITNESS(block))`. -/
def blockSizeWithWitness (block : CBlock) : Nat :=
  80 + getSizeOfCompactSize block.vtx.length + (block.vtx.map serializeSizeWithWitness).sum

def getTransactionWeight (tx : CTransaction) : Nat :=
  serializeSizeNoWitness tx * (witnessScaleFactor - 1) + serializeSizeWithWitness tx

def getBlockWeight (block : CBlock) : Nat :=
  blockSizeNoWitness block * (witnessScaleFactor - 1) + blockSizeWithWitness block

/-- The loop of `CheckTransaction` over the outputs. -/
def checkOutputs : List CTxOut → Int → Outcome Unit
  | [], _ => .ok ()
  | txout :: vout, nValueOut => do
    rejectTxIf (decide (txout.nValue < 0)) .consensus "bad-txns-vout-negative"
    rejectTxIf (decide (txout.nValue > maxMoney)) .consensus "bad-txns-vout-toolarge"
    let nValueOut := wrap64 (nValueOut + txout.nValue)
    rejectTxIf (!moneyRange nValueOut) .consensus "bad-txns-txouttotal-toolarge"
    checkOutputs vout nValueOut

def checkTransaction (tx : CTransaction) : Outcome Unit := do
  rejectTxIf tx.vin.isEmpty .consensus "bad-txns-vin-empty"
  rejectTxIf tx.vout.isEmpty .consensus "bad-txns-vout-empty"
  rejectTxIf (decide (serializeSizeNoWitness tx * witnessScaleFactor > maxBlockWeight)) .consensus
    "bad-txns-oversize"
  checkOutputs tx.vout 0
  rejectTxIf (!decide (tx.vin.map CTxIn.prevout).Nodup) .consensus "bad-txns-inputs-duplicate"
  if tx.isCoinBase then
    rejectTxIf (tx.vin.any fun txin =>
        decide (txin.scriptSig.length < 2) || decide (txin.scriptSig.length > 100)) .consensus
      "bad-cb-length"
  else
    rejectTxIf (tx.vin.any fun txin => txin.prevout.isNull) .consensus "bad-txns-prevout-null"

def getValueOutLoop : List CTxOut → Int → Outcome Int
  | [], nValueOut => .ok nValueOut
  | txout :: vout, nValueOut =>
    if !moneyRange txout.nValue || !moneyRange (wrap64 (nValueOut + txout.nValue)) then
      .error (.thrown .valueOutOfRange)
    else getValueOutLoop vout (wrap64 (nValueOut + txout.nValue))

def getValueOut (tx : CTransaction) : Outcome Int := getValueOutLoop tx.vout 0

def checkTxInputsLoop (coins : Coins) (nSpendHeight : Nat) : List CTxIn → Int → Outcome Int
  | [], nValueIn => .ok nValueIn
  | txin :: vin, nValueIn =>
    match coins.getCoin txin.prevout with
    | none => .error (.assertFailed .inputNotSpent)
    | some c => do
      rejectTxIf (c.fCoinBase && decide ((nSpendHeight : Int) - c.nHeight < coinbaseMaturity))
        .prematureSpend "bad-txns-premature-spend-of-coinbase"
      let nValueIn := wrap64 (nValueIn + c.out.nValue)
      rejectTxIf (!moneyRange c.out.nValue || !moneyRange nValueIn) .consensus
        "bad-txns-inputvalues-outofrange"
      checkTxInputsLoop coins nSpendHeight vin nValueIn

/-- `Consensus::CheckTxInputs`: the fee of the transaction. -/
def checkTxInputs (tx : CTransaction) (coins : Coins) (nSpendHeight : Nat) : Outcome Int := do
  rejectTxIf (!coins.haveInputs tx) .missingInputs "bad-txns-inputs-missingorspent"
  let nValueIn ← checkTxInputsLoop coins nSpendHeight tx.vin 0
  let valueOut ← getValueOut tx
  rejectTxIf (decide (nValueIn < valueOut)) .consensus "bad-txns-in-belowout"
  let txfee := wrap64 (nValueIn - valueOut)
  rejectTxIf (!moneyRange txfee) .consensus "bad-txns-fee-outofrange"
  .ok txfee

def getLegacySigOpCount (tx : CTransaction) : Nat :=
  (tx.vin.map fun txin => getSigOpCount txin.scriptSig false).sum +
    (tx.vout.map fun txout => getSigOpCount txout.scriptPubKey false).sum

/-- The coin an input spends, behind `assert(!coin.IsSpent())`. -/
def spentCoin (coins : Coins) (txin : CTxIn) : Outcome Coin :=
  match coins.getCoin txin.prevout with
  | none => .error (.assertFailed .inputNotSpent)
  | some c => .ok c

def getP2SHSigOpCountLoop (coins : Coins) : List CTxIn → Outcome Nat
  | [] => .ok 0
  | txin :: vin => do
    let c ← spentCoin coins txin
    let n ← getP2SHSigOpCountLoop coins vin
    .ok ((if isPayToScriptHash c.out.scriptPubKey then
      getSigOpCountP2SH c.out.scriptPubKey txin.scriptSig else 0) + n)

/-- The loop of `GetTransactionSigOpCost` over the witnesses. -/
def witnessSigOpCostLoop (coins : Coins) (flags : ScriptFlags) : List CTxIn → Outcome Nat
  | [] => .ok 0
  | txin :: vin => do
    let c ← spentCoin coins txin
    let n ← countWitnessSigOps txin.scriptSig c.out.scriptPubKey txin.scriptWitness flags
    let m ← witnessSigOpCostLoop coins flags vin
    .ok (n + m)

def getTransactionSigOpCost (tx : CTransaction) (coins : Coins) (flags : ScriptFlags) :
    Outcome Nat :=
  let nSigOps := getLegacySigOpCount tx * witnessScaleFactor
  if tx.isCoinBase then .ok nSigOps
  else do
    let p2sh ← (if flags.has verifyP2SH then getP2SHSigOpCountLoop coins tx.vin else .ok 0)
    let witness ← witnessSigOpCostLoop coins flags tx.vin
    .ok (nSigOps + p2sh * witnessScaleFactor + witness)

def sequenceFinal : Nat := 0xffffffff

def isFinalTx (tx : CTransaction) (nBlockHeight : Nat) (nBlockTime : Int) : Bool :=
  tx.nLockTime == 0 ||
    decide ((tx.nLockTime : Int) <
      if tx.nLockTime < 500000000 then (nBlockHeight : Int) else nBlockTime) ||
    tx.vin.all fun txin => txin.nSequence == sequenceFinal

/-- The loop of `CalculateSequenceLocks`, over the inputs with the heights of their coins. -/
def calculateSequenceLocksLoop (block : CBlockIndex) :
    List (CTxIn × Nat) → Int × Int → Outcome (Int × Int)
  | [], locks => .ok locks
  | (txin, nCoinHeight) :: rest, (nMinHeight, nMinTime) =>
    -- bit 31 disables the lock, bit 22 selects a lock by time
    if txin.nSequence.testBit 31 then calculateSequenceLocksLoop block rest (nMinHeight, nMinTime)
    else if txin.nSequence.testBit 22 then
      match block.getAncestor (nCoinHeight - 1) with
      | none => .error (.assertFailed .sequenceAncestor)
      | some a =>
        let lock := a.getMedianTimePast + ((txin.nSequence % 65536) * 512 : Nat) - 1
        calculateSequenceLocksLoop block rest (nMinHeight, max nMinTime lock)
    else
      let lock := (nCoinHeight : Int) + (txin.nSequence % 65536 : Nat) - 1
      calculateSequenceLocksLoop block rest (max nMinHeight lock, nMinTime)

/-- `CalculateSequenceLocks`, with `verifySequence` for the flag `LOCKTIME_VERIFY_SEQUENCE`. -/
def calculateSequenceLocks (tx : CTransaction) (verifySequence : Bool) (prevHeights : List Nat)
    (block : CBlockIndex) : Outcome (Int × Int) :=
  if decide (2 ≤ tx.version) && verifySequence then
    calculateSequenceLocksLoop block (tx.vin.zip prevHeights) (-1, -1)
  else .ok (-1, -1)

def evaluateSequenceLocks (block : CBlockIndex) (lockPair : Int × Int) : Outcome Bool :=
  match block.pprev with
  | none => .error (.assertFailed .hasPrev)
  | some prev =>
    .ok !(decide (lockPair.1 ≥ block.nHeight) || decide (lockPair.2 ≥ prev.getMedianTimePast))

def sequenceLocks (tx : CTransaction) (verifySequence : Bool) (prevHeights : List Nat)
    (block : CBlockIndex) : Outcome Bool := do
  let lockPair ← calculateSequenceLocks tx verifySequence prevHeights block
  evaluateSequenceLocks block lockPair

end GarudaChain
