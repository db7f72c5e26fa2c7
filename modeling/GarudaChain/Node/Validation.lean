import GarudaChain.Node.Cbdc
import GarudaChain.Node.Hashing
import GarudaChain.Node.Subsidy
import GarudaChain.Node.Tx

/-!
# Checking and connecting a block

`CheckBlock` and `ConnectBlock` of `validation.cpp`. Everything `ConnectBlock` reads besides its
arguments is in `Env`.
-/

namespace GarudaChain

/-- What a node brings to the validation of a block; `fScriptChecks` is false under the assumed
    valid block. -/
structure Env where
  params : ConsensusParams
  crypto : Crypto
  authority : AuthorityState
  mintFile : Option (List Char)
  fScriptChecks : CBlockIndex → Bool
  parallelScriptChecks : Bool
  checkSignetBlockSolution : CBlock → Bool

def asBlockFailure {α : Type} : Outcome α → Outcome α
  | .error (.txInvalid _ reason) => .error (.blockInvalid .consensus reason)
  | r => r

def checkBlockHeader (env : Env) (block : CBlock) (fCheckPOW : Bool) : Outcome Unit :=
  rejectBlockIf (fCheckPOW && !checkProofOfWork block.getHash block.nBits env.params.powLimit)
    .invalidHeader "high-hash"

def checkMerkleRoot (env : Env) (block : CBlock) : Outcome Unit := do
  let (merkleRoot, mutated) := blockMerkleRoot env.crypto.sha256D64 block
  rejectBlockIf (block.hashMerkleRoot != merkleRoot) .mutated "bad-txnmrklroot"
  rejectBlockIf mutated .mutated "bad-txns-duplicate"

/-- `CheckTransaction` on every transaction of the block. -/
def checkTransactions : List CTransaction → Outcome Unit
  | [] => .ok ()
  | tx :: vtx => do
    asBlockFailure (checkTransaction tx)
    checkTransactions vtx

def checkBlock (env : Env) (block : CBlock) (fCheckPOW fCheckMerkleRoot : Bool) :
    Outcome Unit := do
  checkBlockHeader env block fCheckPOW
  rejectBlockIf (env.params.signetBlocks && fCheckPOW && !env.checkSignetBlockSolution block)
    .consensus "bad-signet-blksig"
  (if fCheckMerkleRoot then checkMerkleRoot env block else .ok ())
  rejectBlockIf (block.vtx.isEmpty ||
      decide (block.vtx.length * witnessScaleFactor > maxBlockWeight) ||
      decide (blockSizeNoWitness block * witnessScaleFactor > maxBlockWeight)) .consensus
    "bad-blk-length"
  rejectBlockIf (!(block.vtx.take 1).all CTransaction.isCoinBase) .consensus "bad-cb-missing"
  rejectBlockIf ((block.vtx.drop 1).any CTransaction.isCoinBase) .consensus "bad-cb-multiple"
  checkTransactions block.vtx
  rejectBlockIf (decide ((block.vtx.map getLegacySigOpCount).sum * witnessScaleFactor >
      maxBlockSigOpsCost)) .consensus "bad-blk-sigops"

/-- `CScriptCheck`: the check of one input, to be run now or later. -/
structure CScriptCheck where
  flags : ScriptFlags
  tx : CTransaction
  nIn : Nat
  spentOutputs : List CTxOut

/-- `CScriptCheck::operator()`. -/
def CScriptCheck.run (crypto : Crypto) (check : CScriptCheck) : Except String Unit :=
  crypto.verifyScript check.flags check.tx check.nIn check.spentOutputs

/-- The outputs a transaction spends, as `CheckInputScripts` collects them. -/
def spentOutputs (coins : Coins) : List CTxIn → Outcome (List CTxOut)
  | [] => .ok []
  | txin :: vin => do
    let c ← spentCoin coins txin
    let outs ← spentOutputs coins vin
    .ok (c.out :: outs)

/-- The loop of `CheckInputScripts` where the checks are run at once. -/
def runScriptChecks (crypto : Crypto) : List CScriptCheck → Outcome Unit
  | [] => .ok ()
  | check :: checks =>
    match check.run crypto with
    | .ok _ => runScriptChecks crypto checks
    | .error err =>
      let notMandatory := standardScriptVerifyFlags &&& ~~~mandatoryScriptVerifyFlags
      let check2 := { check with flags := check.flags &&& ~~~notMandatory }
      if check.flags.has notMandatory && (check2.run crypto).isOk then
        .error (.txInvalid .notStandard ("non-mandatory-script-verify-flag (" ++ err ++ ")"))
      else
        .error (.txInvalid .consensus ("mandatory-script-verify-flag-failed (" ++ err ++ ")"))

/-- `CheckInputScripts`: the checks that are left for later (`pvChecks`). -/
def checkInputScripts (crypto : Crypto) (tx : CTransaction) (coins : Coins) (flags : ScriptFlags)
    (parallel : Bool) : Outcome (List CScriptCheck) :=
  if tx.isCoinBase then .ok []
  else do
    let outs ← spentOutputs coins tx.vin
    let checks := (List.range tx.vin.length).map fun i => ⟨flags, tx, i, outs⟩
    if parallel then .ok checks
    else do
      runScriptChecks crypto checks
      .ok []

/-- `CTxUndo`: the coins a transaction spent, in the order of its inputs. -/
abbrev CTxUndo := List Coin

/-- The loop of `UpdateCoins` over the inputs. -/
def spendInputs : List CTxIn → Coins → Outcome (Coins × CTxUndo)
  | [], coins => .ok (coins, [])
  | txin :: vin, coins =>
    match coins.spendCoin txin.prevout with
    | none => .error (.assertFailed .updateCoinsIsSpent)
    | some (c, coins) => do
      let (coins, vprevout) ← spendInputs vin coins
      .ok (coins, c :: vprevout)

/-- `UpdateCoins`: the coins after the transaction, and its undo data. -/
def updateCoins (tx : CTransaction) (coins : Coins) (nHeight : Nat) : Outcome (Coins × CTxUndo) := do
  let (coins, txundo) ←
    (if !tx.isCoinBase && !isCBDCMintTx tx then spendInputs tx.vin coins else .ok (coins, []))
  let coins ← coins.addCoins tx nHeight false
  .ok (coins, txundo)

def isBIP30Repeat (index : CBlockIndex) : Bool :=
  (index.nHeight == 91842 && index.getBlockHash ==
      0x00000000000a4d0a398161ffc163c503763b1f4360639393e0e4c8e300e0caec) ||
    (index.nHeight == 91880 && index.getBlockHash ==
      0x00000000000743f190a18c5577a3c2d2a1f610ae9601ac046a38084ccb7cd721)

def bip34ImpliesBip30Limit : Nat := 1983702

/-- Whether `ConnectBlock` looks for overwritten transactions, for a block on top of `prev`. -/
def enforceBIP30 (params : ConsensusParams) (pindex prev : CBlockIndex) : Bool :=
  (!isBIP30Repeat pindex &&
      match prev.getAncestor params.bip34Height with
      | none => true
      | some index => !(index.getBlockHash == params.bip34Hash)) ||
    decide (pindex.nHeight ≥ bip34ImpliesBip30Limit)

/-- Some output of the transaction is still unspent. -/
def haveAnyOutput (coins : Coins) (tx : CTransaction) : Bool :=
  (List.range tx.vout.length).any fun o => coins.haveCoin ⟨tx.getHash, o⟩

/-- The local variables of `ConnectBlock` that its loop updates, `checks` being those handed to the
    check queue. -/
structure ConnectState where
  coins : Coins
  nFees : Int
  nSigOpsCost : Nat
  cbdcMintCount : Int
  cbdcMintTotal : Int
  checks : List CScriptCheck

/-- The locals before the loop. -/
def ConnectState.init (coins : Coins) : ConnectState := ⟨coins, 0, 0, 0, 0, []⟩

/-- The branch of the loop for a mint transaction. -/
def connectMint (env : Env) (tx : CTransaction) (st : ConnectState) : Outcome ConnectState := do
  checkCBDCMintInBlock env.crypto env.authority tx
  let cbdcMintCount := st.cbdcMintCount + 1
  rejectBlockIf (decide (cbdcMintCount > maxMintTxsPerBlock)) .consensus
    "cbdc-mint-too-many-per-block"
  let cbdcMintTotal := tx.vout.foldl (fun total out => wrap64 (total + out.nValue)) st.cbdcMintTotal
  rejectBlockIf (decide (cbdcMintTotal > maxMintPerBlock)) .consensus
    "cbdc-mint-exceeds-block-limit"
  .ok { st with cbdcMintCount, cbdcMintTotal }

def connectInputs (env : Env) (pindex : CBlockIndex) (tx : CTransaction) (st : ConnectState) :
    Outcome ConnectState := do
  let txfee ← asBlockFailure (checkTxInputs tx st.coins pindex.nHeight)
  let nFees := wrap64 (st.nFees + txfee)
  rejectBlockIf (!moneyRange nFees) .consensus "bad-txns-accumulated-fee-outofrange"
  let prevheights := tx.vin.map fun txin => ((st.coins.getCoin txin.prevout).map Coin.nHeight).getD 0
  let locked ← sequenceLocks tx (deploymentActiveAt env.params pindex .csv) prevheights pindex
  rejectBlockIf (!locked) .consensus "bad-txns-nonfinal"
  .ok { st with nFees }

def connectSigOps (env : Env) (pindex : CBlockIndex) (tx : CTransaction) (st : ConnectState) :
    Outcome ConnectState := do
  let cost ← (if isCBDCMintTx tx then .ok 0
    else getTransactionSigOpCost tx st.coins (getBlockScriptFlags env.params pindex))
  let nSigOpsCost := st.nSigOpsCost + cost
  rejectBlockIf (decide (nSigOpsCost > maxBlockSigOpsCost)) .consensus "bad-blk-sigops"
  .ok { st with nSigOpsCost }

/-- The script checks of an ordinary transaction. -/
def connectScripts (env : Env) (pindex : CBlockIndex) (tx : CTransaction) (st : ConnectState) :
    Outcome ConnectState :=
  if env.fScriptChecks pindex then do
    let vChecks ← asBlockFailure (checkInputScripts env.crypto tx st.coins
      (getBlockScriptFlags env.params pindex) env.parallelScriptChecks)
    .ok { st with checks := st.checks ++ vChecks }
  else .ok st

/-- The body of the loop up to `UpdateCoins`: the checks on one transaction. -/
def checkTx (env : Env) (pindex : CBlockIndex) (tx : CTransaction) (st : ConnectState) :
    Outcome ConnectState := do
  let st ← (if tx.isCoinBase then .ok st
    else if isCBDCMintTx tx then connectMint env tx st
    else connectInputs env pindex tx st)
  let st ← connectSigOps env pindex tx st
  if !tx.isCoinBase && !isCBDCMintTx tx then connectScripts env pindex tx st else .ok st

/-- The body of the loop of `ConnectBlock`. -/
def connectTx (env : Env) (pindex : CBlockIndex) (tx : CTransaction) (st : ConnectState) :
    Outcome (ConnectState × CTxUndo) := do
  let st ← checkTx env pindex tx st
  let (coins, txundo) ← updateCoins tx st.coins pindex.nHeight
  .ok ({ st with coins }, txundo)

/-- The loop of `ConnectBlock` over the transactions after the first, with the undo data. -/
def connectTxs (env : Env) (pindex : CBlockIndex) :
    List CTransaction → ConnectState → Outcome (ConnectState × List CTxUndo)
  | [], st => .ok (st, [])
  | tx :: vtx, st => do
    let (st, txundo) ← connectTx env pindex tx st
    let (st, vtxundo) ← connectTxs env pindex vtx st
    .ok (st, txundo :: vtxundo)

/-- The loop of `ConnectBlock`: the undo data of the first transaction is a dummy. -/
def connectVtx (env : Env) (pindex : CBlockIndex) (vtx : List CTransaction) (coins : Coins) :
    Outcome (ConnectState × List CTxUndo) :=
  match vtx with
  | [] => .ok (.init coins, [])
  | coinbase :: vtx => do
    let (st, _) ← connectTx env pindex coinbase (.init coins)
    connectTxs env pindex vtx st

abbrev CBlockUndo := List CTxUndo

/-- The checks of `ConnectBlock` after its loop. -/
def checkReward (env : Env) (pindex : CBlockIndex) (vtx : List CTransaction) (st : ConnectState) :
    Outcome Unit := do
  let blockReward := wrap64 (st.nFees + getBlockSubsidy env.mintFile pindex.nHeight)
  let valueOut ← (match vtx with
    | [] => .ok 0
    | coinbase :: _ => getValueOut coinbase)
  rejectBlockIf (decide (valueOut > blockReward)) .consensus "bad-cb-amount"
  rejectBlockIf (!st.checks.all fun check => (check.run env.crypto).isOk) .consensus
    "block-validation-failed"

/-- The first checks of `ConnectBlock`, which calls `CheckBlock` again. -/
def recheckBlock (env : Env) (block : CBlock) (fJustCheck : Bool) : Outcome Unit :=
  match checkBlock env block (!fJustCheck) (!fJustCheck) with
  | .error (.blockInvalid .mutated _) =>
    .error (.fatalError "Corrupt block found indicating potential hardware failure.")
  | r => r

/-- `ConnectBlock` on a block that is not the genesis block, after the first checks. -/
def connectBlockBody (env : Env) (block : CBlock) (pindex prev : CBlockIndex) (coins : Coins) :
    Outcome (Coins × CBlockUndo) := do
  rejectBlockIf (enforceBIP30 env.params pindex prev && block.vtx.any (haveAnyOutput coins))
    .consensus "bad-txns-BIP30"
  let (st, vtxundo) ← connectVtx env pindex block.vtx coins
  checkReward env pindex block.vtx st
  .ok (st.coins, vtxundo)

/-- `ConnectBlock`: the view after the block, and the undo data that is written for it. -/
def connectBlock (env : Env) (block : CBlock) (pindex : CBlockIndex) (view : CCoinsView)
    (fJustCheck : Bool) : Outcome (CCoinsView × Option CBlockUndo) := do
  assertThat (pindex.getBlockHash == block.getHash) .indexHash
  recheckBlock env block fJustCheck
  let hashPrevBlock := (pindex.pprev.map CBlockIndex.getBlockHash).getD 0
  assertThat (hashPrevBlock == view.hashBlock) .bestBlock
  if block.getHash == env.params.hashGenesisBlock then
    .ok (if fJustCheck then view else { view with hashBlock := pindex.getBlockHash }, none)
  else match pindex.pprev with
    | none => .error (.assertFailed .hasPrev)
    | some prev => do
      let (coins, blockundo) ← connectBlockBody env block pindex prev view.coins
      if fJustCheck then .ok ({ view with coins }, none)
      else .ok (⟨coins, pindex.getBlockHash⟩, some blockundo)

end GarudaChain
