import GarudaChain.Lib.Reader
import GarudaChain.Node.Contextual
import GarudaChain.Node.Interpreter

/-!
# Transactions and headers on the wire

The formats of `serialize.h`, `primitives/transaction.h` and `primitives/block.h`: transactions and headers
are written, transactions are read.
-/

namespace GarudaChain

def serializeVector {α : Type} (serialize : α → Bytes) (v : List α) : Bytes :=
  compactSizeBytes v.length ++ v.flatMap serialize

def serializeTxIn (txin : CTxIn) : Bytes :=
  serializeOutPoint txin.prevout ++ serializeBytes txin.scriptSig ++ writeLE 4 txin.nSequence

/-- `SerializeTransaction`. -/
def serializeTransaction (fAllowWitness : Bool) (tx : CTransaction) : Bytes :=
  let flags := fAllowWitness && tx.hasWitness
  writeLE 4 tx.version ++
    -- an empty vector stands where the inputs are expected
    (if flags then [0, 1] else []) ++
    serializeVector serializeTxIn tx.vin ++
    serializeVector serializeTxOut tx.vout ++
    (if flags then
      tx.vin.flatMap fun txin => serializeVector serializeBytes txin.scriptWitness else []) ++
    writeLE 4 tx.nLockTime

def serializeHeader (block : CBlock) : Bytes :=
  writeLE 4 (block.nVersion % 2 ^ 32).toNat ++ uint256Bytes block.hashPrevBlock ++
    uint256Bytes block.hashMerkleRoot ++ writeLE 4 block.nTime ++ writeLE 4 block.nBits ++
    writeLE 4 block.nNonce

def readBytes (n : Nat) : Reader String Bytes := Reader.bytes "DataStream::read(): end of data" n

/-- An unsigned number in a field of fixed width. -/
def readNumber (width : Nat) : Reader String Nat := do
  let bs ← readBytes width
  return readLE bs

def signedOf (width n : Nat) : Int := (n : Int).bmod (2 ^ width)

def readUint256 : Reader String Uint256 := do
  let bs ← readBytes 32
  return uint256OfBytes bs

def maxSize : Nat := 0x02000000

/-- A number of the longer forms of `ReadCompactSize`, which the shorter ones cannot hold. -/
def readCanonical (width least : Nat) : Reader String Nat := do
  let nSizeRet ← readNumber width
  Reader.check (decide (least ≤ nSizeRet)) "non-canonical ReadCompactSize()"
  return nSizeRet

/-- `ReadCompactSize`, with the check of the range. -/
def readCompactSize : Reader String Nat := do
  let chSize ← readNumber 1
  let nSizeRet ← (
    if chSize < 253 then pure chSize
    else if chSize = 253 then readCanonical 2 253
    else if chSize = 254 then readCanonical 4 0x10000
    else readCanonical 8 0x100000000)
  Reader.check (decide (nSizeRet ≤ maxSize)) "ReadCompactSize(): size too large"
  return nSizeRet

def readVector {α : Type} (read : Reader String α) : Reader String (List α) := do
  let n ← readCompactSize
  read.many n

def readVarBytes : Reader String Bytes := do
  let n ← readCompactSize
  readBytes n

def readOutPoint : Reader String COutPoint := do
  let hash ← readUint256
  let n ← readNumber 4
  return ⟨hash, n⟩

def readTxIn : Reader String CTxIn := do
  let prevout ← readOutPoint
  let scriptSig ← readVarBytes
  let nSequence ← readNumber 4
  return ⟨prevout, scriptSig, nSequence, []⟩

def readTxOut : Reader String CTxOut := do
  let nValue ← readNumber 8
  let scriptPubKey ← readVarBytes
  return ⟨signedOf 64 nValue, scriptPubKey⟩

/-- The loop over the inputs that reads their witnesses. -/
def readWitnesses : List CTxIn → Reader String (List CTxIn)
  | [] => pure []
  | txin :: vin => do
    let stack ← readVector readVarBytes
    let vin ← readWitnesses vin
    return { txin with scriptWitness := stack } :: vin

def readTxBody (fAllowWitness : Bool) : Reader String (List CTxIn × List CTxOut × Nat) := do
  let vin ← readVector readTxIn
  if vin.isEmpty && fAllowWitness then
    -- a dummy, or a transaction without inputs
    let flags ← readNumber 1
    if flags = 0 then return ([], [], 0)
    else
      let vin ← readVector readTxIn
      let vout ← readVector readTxOut
      return (vin, vout, flags)
  else
    let vout ← readVector readTxOut
    return (vin, vout, 0)

/-- `UnserializeTransaction`: a transaction whose hashes are not computed yet. -/
def unserializeTransaction (fAllowWitness : Bool) : Reader String CTransaction := do
  let version ← readNumber 4
  let (vin, vout, flags) ← readTxBody fAllowWitness
  let vin ← (
    if flags.testBit 0 && fAllowWitness then do
      let vin ← readWitnesses vin
      Reader.check (vin.any fun txin => !txin.scriptWitness.isEmpty) "Superfluous witness record"
      return vin
    else pure vin)
  let flags := if flags.testBit 0 && fAllowWitness then flags ^^^ 1 else flags
  Reader.check (decide (flags = 0)) "Unknown transaction optional data"
  let nLockTime ← readNumber 4
  return ⟨vin, vout, version, nLockTime, 0, 0⟩

end GarudaChain
