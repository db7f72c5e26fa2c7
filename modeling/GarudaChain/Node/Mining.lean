import GarudaChain.Node.Miner
import GarudaChain.Node.Rotation
import GarudaChain.Node.Serialize

/-!
# `getblocktemplate`

The part of `rpc/mining.cpp` that makes a template and describes it to a miner.
-/

namespace GarudaChain

/-- How a call fails. -/
inductive RpcFailure
  | rpcError (err : JSONRPCError)
  | nonFatalCheck (cond : String)
  | aborted (abort : Abort)
  deriving DecidableEq, Repr

/-- One of the `transactions` of a template. -/
structure TemplateTransaction where
  data : Bytes
  txid : Uint256
  hash : Uint256
  depends : List Nat
  fee : Int
  sigops : Nat
  weight : Nat
  deriving DecidableEq, Repr

/-- What `getblocktemplate` returns, without the parts that are the same in every answer. -/
structure TemplateResult where
  version : Int
  previousblockhash : Uint256
  transactions : List TemplateTransaction
  coinbasevalue : Int
  target : Nat
  mintime : Int
  sigoplimit : Nat
  sizelimit : Nat
  weightlimit : Option Nat
  curtime : Nat
  bits : Nat
  height : Nat
  defaultWitnessCommitment : Option Bytes
  deriving DecidableEq, Repr

def maxBlockSerializedSize : Nat := 4000000

/-- `CHECK_NONFATAL(n % WITNESS_SCALE_FACTOR == 0); n /= WITNESS_SCALE_FACTOR`, before segwit. -/
def preSegwitLimit (fPreSegWit : Bool) (n : Nat) (cond : String) : Except RpcFailure Nat :=
  if fPreSegWit then
    if n % witnessScaleFactor = 0 then .ok (n / witnessScaleFactor) else .error (.nonFatalCheck cond)
  else .ok n

/-- The loop over the transactions of the block. -/
def templateTransactions (template : CBlockTemplate) (fPreSegWit : Bool) :
    List CTransaction → Nat → List (Uint256 × Nat) → Except RpcFailure (List TemplateTransaction)
  | [], _, _ => .ok []
  | tx :: vtx, i, setTxIndex =>
    let setTxIndex := (tx.getHash, i) :: setTxIndex
    if tx.isCoinBase then templateTransactions template fPreSegWit vtx (i + 1) setTxIndex
    else do
      let nTxSigOps ← preSegwitLimit fPreSegWit (template.vTxSigOpsCost.getD i 0)
        "nTxSigOps % WITNESS_SCALE_FACTOR == 0"
      let rest ← templateTransactions template fPreSegWit vtx (i + 1) setTxIndex
      return { data := serializeTransaction true tx
               txid := tx.getHash
               hash := tx.witnessHash
               depends := tx.vin.filterMap fun txin => setTxIndex.lookup txin.prevout.hash
               fee := template.vTxFees.getD i 0
               sigops := nTxSigOps
               weight := getTransactionWeight tx } :: rest

def describeTemplate (env : Env) (host : Host) (tip : CBlockIndex) (template : CBlockTemplate) :
    Except RpcFailure TemplateResult := do
  let block := template.block
  let nTime := updateTime env.params tip host.now block.nTime
  let nBits := host.getNextWorkRequired tip nTime
  let fPreSegWit := !deploymentActiveAfter env.params tip .segwit
  let transactions ← templateTransactions template fPreSegWit block.vtx 0 []
  let nSigOpLimit ← preSegwitLimit fPreSegWit maxBlockSigOpsCost
    "nSigOpLimit % WITNESS_SCALE_FACTOR == 0"
  let nSizeLimit ← preSegwitLimit fPreSegWit maxBlockSerializedSize
    "nSizeLimit % WITNESS_SCALE_FACTOR == 0"
  return { version := block.nVersion
           previousblockhash := block.hashPrevBlock
           transactions := transactions
           coinbasevalue :=
            (block.vtx.head?.bind fun coinbase => coinbase.vout.head?).elim 0 CTxOut.nValue
           target := (setCompact nBits).1
           mintime := tip.getMedianTimePast + 1
           sigoplimit := nSigOpLimit
           sizelimit := nSizeLimit
           weightlimit := if fPreSegWit then none else some maxBlockWeight
           curtime := nTime
           bits := nBits
           height := tip.nHeight + 1
           defaultWitnessCommitment := if template.vchCoinbaseCommitment.isEmpty then none
            else some template.vchCoinbaseCommitment }

/-- `getblocktemplate`, on the rules that the client names, where no earlier template is reused. -/
def getblocktemplate (env : Env) (host : Host) (tip : CBlockIndex) (view : CCoinsView)
    (setClientRules : List String) (inBlock : List CTxMemPoolEntry) :
    Except RpcFailure TemplateResult :=
  if env.params.signetBlocks && !setClientRules.contains "signet" then
    .error (.rpcError ⟨.invalidParameter, "getblocktemplate must be called with the signet rule set (call with \x7b\"rules\": [\"segwit\", \"signet\"]\x7d)"⟩)
  else if !setClientRules.contains "segwit" then
    .error (.rpcError ⟨.invalidParameter, "getblocktemplate must be called with the segwit rule set (call with \x7b\"rules\": [\"segwit\"]\x7d)"⟩)
  else
    match createNewBlockOf env host tip view [op1] inBlock with
    | .error abort => .error (.aborted abort)
    | .ok template => describeTemplate env host tip template

end GarudaChain
