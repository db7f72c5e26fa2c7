import GarudaChain.Lib.Result
import GarudaChain.Node.Cbdc
import GarudaChain.Node.Solver
import GarudaChain.Node.Tx

/-!
# Script verification

`VerifyScript` of `script/interpreter.cpp` with the witness programs of versions 0, 1 and 2, the loop of
`EvalScript`, and the signature check of a quantum-safe output (P2PQH).
-/

namespace GarudaChain

/-- `ScriptError_t`; `operation` stands for those that a single operation sets. -/
inductive ScriptError
  | evalFalse
  | scriptSize
  | pushSize
  | opCount
  | stackSize
  | badOpcode
  | disabledOpcode
  | unbalancedConditional
  | minimalData
  | sigPushOnly
  | cleanStack
  | opCodeSeparator
  | discourageUpgradableWitnessProgram
  | discourageUpgradableTaprootVersion
  | discourageOpSuccess
  | witnessProgramWrongLength
  | witnessProgramWitnessEmpty
  | witnessProgramMismatch
  | witnessMalleated
  | witnessMalleatedP2SH
  | witnessUnexpected
  | taprootWrongControlSize
  | operation
  /-- `HandleMissingData` returns false without setting an error. -/
  | missingData
  deriving DecidableEq, Repr

inductive ScriptFailure
  | error (serror : ScriptError)
  | assertFailed (cond : String)
  deriving DecidableEq, Repr

abbrev ScriptResult := Except ScriptFailure

/-- `if (cond) return set_error(serror, err)`. -/
abbrev scriptErrorIf (cond : Bool) (serror : ScriptError) : ScriptResult Unit :=
  Result.failIf cond (.error serror)

/-- `assert(cond)`. -/
abbrev scriptAssert (cond : Bool) (text : String) : ScriptResult Unit :=
  Result.require cond (.assertFailed text)

/-- The eight bytes of an `int64_t`. -/
def int64Bytes (x : Int) : Bytes := writeLE 8 (x % 2 ^ 64).toNat

/-- `WriteCompactSize`. -/
def compactSizeBytes (n : Nat) : Bytes :=
  if n < 253 then writeLE 1 n
  else if n ≤ 0xffff then 253 :: writeLE 2 n
  else if n ≤ 0xffffffff then 254 :: writeLE 4 n
  else 255 :: writeLE 8 n

def serializeBytes (bs : Bytes) : Bytes := compactSizeBytes bs.length ++ bs

def serializeOutPoint (o : COutPoint) : Bytes := uint256Bytes o.hash ++ writeLE 4 o.n

def serializeTxOut (out : CTxOut) : Bytes := int64Bytes out.nValue ++ serializeBytes out.scriptPubKey

/-- `CHash256`: SHA-256 twice. -/
def Crypto.hash256 (crypto : Crypto) (bs : Bytes) : Bytes := crypto.sha256 (crypto.sha256 bs)

/-- `SHA256Uint256(GetPrevoutsSHA256(txTo))`. -/
def getHashPrevouts (crypto : Crypto) (tx : CTransaction) : Bytes :=
  crypto.hash256 (tx.vin.flatMap fun txin => serializeOutPoint txin.prevout)

def getHashSequence (crypto : Crypto) (tx : CTransaction) : Bytes :=
  crypto.hash256 (tx.vin.flatMap fun txin => writeLE 4 txin.nSequence)

def getHashOutputs (crypto : Crypto) (tx : CTransaction) : Bytes :=
  crypto.hash256 (tx.vout.flatMap serializeTxOut)

/-- `PrecomputedTransactionData`, the hashes of version 0 programs. -/
structure PrecomputedTransactionData where
  bip143SegwitReady : Bool
  hashPrevouts : Bytes
  hashSequence : Bytes
  hashOutputs : Bytes
  deriving DecidableEq, Repr

/-- `PrecomputedTransactionData::Init` on the outputs that the transaction spends, if they are given. -/
def PrecomputedTransactionData.init (crypto : Crypto) (tx : CTransaction)
    (spentOutputs : List CTxOut) (force : Bool) : PrecomputedTransactionData :=
  -- a spend that is not one of a version 1 program is taken for one of a version 0 program
  let usesBip143 := force || (tx.vin.zipIdx.any fun (txin, inpos) =>
    !txin.scriptWitness.isEmpty &&
      !(spentOutputs[inpos]?.any fun out =>
        out.scriptPubKey.length == 34 && out.scriptPubKey.head? == some op1))
  if usesBip143 then
    ⟨true, getHashPrevouts crypto tx, getHashSequence crypto tx, getHashOutputs crypto tx⟩
  else ⟨false, [], [], []⟩

def PrecomputedTransactionData.Of (d : PrecomputedTransactionData) (crypto : Crypto)
    (tx : CTransaction) : Prop :=
  d.bip143SegwitReady = true → d.hashPrevouts = getHashPrevouts crypto tx ∧
    d.hashSequence = getHashSequence crypto tx ∧ d.hashOutputs = getHashOutputs crypto tx

inductive MissingDataBehavior
  | assertFail
  | fail
  deriving DecidableEq, Repr

/-- `GenericTransactionSignatureChecker`. -/
structure SignatureChecker (crypto : Crypto) where
  txTo : CTransaction
  nIn : Fin txTo.vin.length
  amount : Int
  missingData : MissingDataBehavior
  txdata : Option PrecomputedTransactionData
  txdata_of : ∀ d ∈ txdata, d.Of crypto txTo

/-- `SIGHASH_ALL` of `script/interpreter.h`. -/
def sighashAll : Nat := 1

/-- The bytes that BIP143 hashes for a signature of all inputs and outputs. -/
def bip143Preimage (tx : CTransaction) (txin : CTxIn) (scriptCode : Bytes) (amount : Int)
    (hashPrevouts hashSequence hashOutputs : Bytes) : Bytes :=
  writeLE 4 tx.version ++ hashPrevouts ++ hashSequence ++ serializeOutPoint txin.prevout ++
    serializeBytes scriptCode ++ int64Bytes amount ++ writeLE 4 txin.nSequence ++ hashOutputs ++
    writeLE 4 tx.nLockTime ++ writeLE 4 sighashAll

/-- `SignatureHash` with `SIGHASH_ALL` and `SigVersion::WITNESS_V0`. -/
def signatureHash {crypto : Crypto} (checker : SignatureChecker crypto) (scriptCode : Bytes) :
    Bytes :=
  let tx := checker.txTo
  let cached := checker.txdata.filter fun d => d.bip143SegwitReady
  crypto.hash256 (bip143Preimage tx (tx.vin.get checker.nIn) scriptCode checker.amount
    ((cached.map (·.hashPrevouts)).getD (getHashPrevouts crypto tx))
    ((cached.map (·.hashSequence)).getD (getHashSequence crypto tx))
    ((cached.map (·.hashOutputs)).getD (getHashOutputs crypto tx)))

def handleMissingData : MissingDataBehavior → ScriptResult Unit
  | .assertFail => .error (.assertFailed "Missing data")
  | .fail => .error (.error .missingData)

def checkQuantumSignature {crypto : Crypto} (checker : SignatureChecker crypto)
    (sig pubkey scriptCode : Bytes) : ScriptResult Unit := do
  scriptErrorIf (pubkey.length != mlDsa87PubkeySize) .witnessProgramMismatch
  scriptErrorIf (sig.length != mlDsa87SigSize) .witnessProgramMismatch
  if checker.amount < 0 then handleMissingData checker.missingData
  else
    scriptErrorIf (!crypto.mldsa87Verify (signatureHash checker scriptCode) sig pubkey)
      .witnessProgramMismatch

inductive SigVersion
  | base
  | witnessV0
  | tapscript
  deriving DecidableEq, Repr

/-- `ScriptExecutionData`, what a Taproot spend hands to the script it runs. -/
structure ExecData where
  annex : Option Bytes
  tapleafHash : Bytes
  validationWeightLeft : Nat
  deriving DecidableEq, Repr

/-- The variables of `EvalScript`; a stack has its top last, and `codeHash` is the script from
    `pbegincodehash` on. -/
structure EvalState where
  stack : List Bytes
  altstack : List Bytes
  vfExec : List Bool
  nOpCount : Nat
  codeHash : Bytes
  deriving DecidableEq, Repr

/-- The parts of verification that are not modelled. -/
structure ScriptEngine where
  crypto : Crypto
  /-- The operations of `EvalScript` from `OP_NOP` on, with the rest of the script behind them. -/
  execOp : SignatureChecker crypto → ScriptFlags → SigVersion → ExecData → UInt8 → Bytes →
    EvalState → ScriptResult EvalState
  /-- `CheckSchnorrSignature` on a signature and an output key. -/
  checkSchnorrSignature : SignatureChecker crypto → ExecData → Bytes → Bytes → ScriptResult Unit
  /-- `ComputeTapleafHash`. -/
  computeTapleafHash : UInt8 → Bytes → Bytes
  /-- `VerifyTaprootCommitment` on a control block, an output key and the hash of a leaf. -/
  verifyTaprootCommitment : Bytes → Bytes → Bytes → Bool

def op1Negate : UInt8 := 0x4f
def op2 : UInt8 := 0x52
def opIf : UInt8 := 0x63
def opEndIf : UInt8 := 0x68
def opCodeSeparator : UInt8 := 0xab

def maxScriptElementSize : Nat := 520
def maxOpsPerScript : Nat := 201
def maxStackSize : Nat := 1000

/-- The disabled operations, from `OP_CAT` to `OP_RSHIFT`. -/
def isDisabledOpcode (opcode : UInt8) : Bool :=
  (0x7e ≤ opcode && opcode ≤ 0x81) || (0x83 ≤ opcode && opcode ≤ 0x86) ||
    (0x8d ≤ opcode && opcode ≤ 0x8e) || (0x95 ≤ opcode && opcode ≤ 0x99)

def castToBool : Bytes → Bool
  | [] => false
  -- a last byte `0x80` is a negative zero
  | [b] => b != 0 && b != 0x80
  | b :: bs => b != 0 || castToBool bs

/-- One operation of a script: the checks that come before it, a push, or another operation. -/
def evalStep (engine : ScriptEngine) (checker : SignatureChecker engine.crypto)
    (flags : ScriptFlags) (sigversion : SigVersion) (execdata : ExecData) (opcode : UInt8)
    (vchPushValue pc : Bytes) (st : EvalState) : ScriptResult EvalState := do
  let fExec := st.vfExec.all id
  scriptErrorIf (decide (vchPushValue.length > maxScriptElementSize)) .pushSize
  let counts := decide (sigversion ≠ .tapscript) && decide (opcode > op16)
  let nOpCount := if counts then st.nOpCount + 1 else st.nOpCount
  scriptErrorIf (counts && decide (nOpCount > maxOpsPerScript)) .opCount
  scriptErrorIf (isDisabledOpcode opcode) .disabledOpcode
  scriptErrorIf (opcode == opCodeSeparator && decide (sigversion = .base) &&
    flags.has verifyConstScriptCode) .opCodeSeparator
  let st := { st with nOpCount := nOpCount }
  let st ← (
    if fExec && decide (opcode ≤ opPushData4) then do
      scriptErrorIf (flags.has verifyMinimalData && !checkMinimalPush vchPushValue opcode)
        .minimalData
      return { st with stack := st.stack ++ [vchPushValue] }
    else if fExec || (decide (opIf ≤ opcode) && decide (opcode ≤ opEndIf)) then
      if opcode == op1Negate then return { st with stack := st.stack ++ [[0x81]] }
      else if op1 ≤ opcode ∧ opcode ≤ op16 then
        return { st with stack := st.stack ++ [[opcode - (op1 - 1)]] }
      else engine.execOp checker flags sigversion execdata opcode pc st
    else .ok st)
  scriptErrorIf (decide (st.stack.length + st.altstack.length > maxStackSize)) .stackSize
  return st

/-- The loop of `EvalScript`. Every operation takes at least one byte, so the length of the script
    is enough fuel. -/
def evalLoop (engine : ScriptEngine) (checker : SignatureChecker engine.crypto)
    (flags : ScriptFlags) (sigversion : SigVersion) (execdata : ExecData) :
    Nat → Bytes → EvalState → ScriptResult EvalState
  | 0, _, st => .ok st
  | fuel + 1, pc, st =>
    if pc.isEmpty then .ok st
    else match getScriptOp pc with
      | none => .error (.error .badOpcode)
      | some (opcode, vchPushValue, pc) => do
        let st ← evalStep engine checker flags sigversion execdata opcode vchPushValue pc st
        evalLoop engine checker flags sigversion execdata fuel pc st

/-- `EvalScript`: the stack that the script leaves. -/
def evalScript (engine : ScriptEngine) (checker : SignatureChecker engine.crypto)
    (stack : List Bytes) (script : Bytes) (flags : ScriptFlags) (sigversion : SigVersion)
    (execdata : ExecData) : ScriptResult (List Bytes) := do
  scriptErrorIf (decide (sigversion ≠ .tapscript) && decide (script.length > maxScriptSize))
    .scriptSize
  let st ← evalLoop engine checker flags sigversion execdata script.length script
    ⟨stack, [], [], 0, script⟩
  scriptErrorIf (!st.vfExec.isEmpty) .unbalancedConditional
  return st.stack

def isOpSuccess (opcode : UInt8) : Bool :=
  opcode == 80 || opcode == 98 || (126 ≤ opcode && opcode ≤ 129) ||
    (131 ≤ opcode && opcode ≤ 134) || (137 ≤ opcode && opcode ≤ 138) ||
    (141 ≤ opcode && opcode ≤ 142) || (149 ≤ opcode && opcode ≤ 153) ||
    (187 ≤ opcode && opcode ≤ 254)

/-- The loop of `ExecuteWitnessScript` that looks for an `OP_SUCCESSx`: whether there is one. -/
def findOpSuccess : Nat → Bytes → ScriptResult Bool
  | 0, _ => .ok false
  | fuel + 1, pc =>
    if pc.isEmpty then .ok false
    else match getScriptOp pc with
      | none => .error (.error .badOpcode)
      | some (opcode, _, pc) => if isOpSuccess opcode then .ok true else findOpSuccess fuel pc

def runWitnessScript (engine : ScriptEngine) (checker : SignatureChecker engine.crypto)
    (stack : List Bytes) (execScript : Bytes) (flags : ScriptFlags) (sigversion : SigVersion)
    (execdata : ExecData) : ScriptResult Unit := do
  scriptErrorIf (stack.any fun elem => decide (elem.length > maxScriptElementSize)) .pushSize
  let stack ← evalScript engine checker stack execScript flags sigversion execdata
  scriptErrorIf (stack.length != 1) .cleanStack
  scriptErrorIf (!castToBool (stack.getLastD [])) .evalFalse

def executeWitnessScript (engine : ScriptEngine) (checker : SignatureChecker engine.crypto)
    (stack : List Bytes) (execScript : Bytes) (flags : ScriptFlags) (sigversion : SigVersion)
    (execdata : ExecData) : ScriptResult Unit := do
  if sigversion = .tapscript then
    if ← findOpSuccess execScript.length execScript then
      scriptErrorIf (flags.has verifyDiscourageOpSuccess) .discourageOpSuccess
    else
      scriptErrorIf (decide (stack.length > maxStackSize)) .stackSize
      runWitnessScript engine checker stack execScript flags sigversion execdata
  else runWitnessScript engine checker stack execScript flags sigversion execdata

/-- The data a version 0 script runs with. -/
def noExecData : ExecData := ⟨none, [], 0⟩

def verifyWitnessV0 (engine : ScriptEngine) (checker : SignatureChecker engine.crypto)
    (stack : List Bytes) (program : Bytes) (flags : ScriptFlags) : ScriptResult Unit :=
  if program.length == 32 then do
    scriptErrorIf stack.isEmpty .witnessProgramWitnessEmpty
    let execScript := stack.getLastD []
    scriptErrorIf (engine.crypto.sha256 execScript != program) .witnessProgramMismatch
    executeWitnessScript engine checker stack.dropLast execScript flags .witnessV0 noExecData
  else if program.length == 20 then do
    scriptErrorIf (stack.length != 2) .witnessProgramMismatch
    let execScript :=
      [opDup, opHash160, 20] ++ program ++ [opEqualVerify, opCheckSig]
    executeWitnessScript engine checker stack execScript flags .witnessV0 noExecData
  else .error (.error .witnessProgramWrongLength)

/-- The serialized size of a witness stack (`::GetSerializeSize(witness.stack)`). -/
def witnessStackSize (stack : List Bytes) : Nat :=
  getSizeOfCompactSize stack.length + (stack.map bytesSize).sum

def verifyTaprootProgram (engine : ScriptEngine) (checker : SignatureChecker engine.crypto)
    (witness : List Bytes) (program : Bytes) (flags : ScriptFlags) : ScriptResult Unit := do
  scriptErrorIf witness.isEmpty .witnessProgramWitnessEmpty
  let hasAnnex := decide (witness.length ≥ 2) && (witness.getLastD []).head? == some 0x50
  let annex := if hasAnnex then witness.getLast? else none
  let stack := if hasAnnex then witness.dropLast else witness
  if stack.length == 1 then
    engine.checkSchnorrSignature checker ⟨annex, [], 0⟩ (stack.headD []) program
  else
    let control := stack.getLastD []
    let script := stack.dropLast.getLastD []
    scriptErrorIf (decide (control.length < 33) || decide (control.length > 33 + 32 * 128) ||
      (control.length - 33) % 32 != 0) .taprootWrongControlSize
    let leafVersion := control.headD 0 &&& 0xfe
    let tapleafHash := engine.computeTapleafHash leafVersion script
    scriptErrorIf (!engine.verifyTaprootCommitment control program tapleafHash)
      .witnessProgramMismatch
    if leafVersion == 0xc0 then
      executeWitnessScript engine checker stack.dropLast.dropLast script flags .tapscript
        ⟨annex, tapleafHash, witnessStackSize witness + 50⟩
    else
      scriptErrorIf (flags.has verifyDiscourageUpgradableTaprootVersion)
        .discourageUpgradableTaprootVersion

/-- The version 2 branch of `VerifyWitnessProgram`: a hash of a public key (P2PQH). -/
def verifyQuantumProgram {crypto : Crypto} (checker : SignatureChecker crypto)
    (stack : List Bytes) (program : Bytes) : ScriptResult Unit := do
  scriptErrorIf (stack.length != 2) .witnessProgramMismatch
  let sigData := stack.getD 0 []
  let pubkeyData := stack.getD 1 []
  scriptErrorIf (pubkeyData.length != mlDsa87PubkeySize) .witnessProgramMismatch
  scriptErrorIf (crypto.sha256 pubkeyData != program) .witnessProgramMismatch
  let quantumScript := op2 :: UInt8.ofNat program.length :: program
  checkQuantumSignature checker sigData pubkeyData quantumScript

/-- `CScript::IsPayToAnchor(int, const std::vector<unsigned char>&)`. -/
def isAnchorProgram (version : Nat) (program : Bytes) : Bool :=
  version == 1 && program == [0x4e, 0x73]

def verifyWitnessProgram (engine : ScriptEngine) (checker : SignatureChecker engine.crypto)
    (stack : List Bytes) (witversion : Nat) (program : Bytes) (flags : ScriptFlags)
    (isP2SH : Bool) : ScriptResult Unit :=
  if witversion == 0 then verifyWitnessV0 engine checker stack program flags
  else if witversion == 1 && program.length == 32 && !isP2SH then
    if !flags.has verifyTaproot then .ok ()
    else verifyTaprootProgram engine checker stack program flags
  else if witversion == 2 && program.length == 32 && !isP2SH then
    if !flags.has verifyQuantum then .ok () else verifyQuantumProgram checker stack program
  else if !isP2SH && isAnchorProgram witversion program then .ok ()
  else
    scriptErrorIf (flags.has verifyDiscourageUpgradableWitnessProgram)
      .discourageUpgradableWitnessProgram

/-- `CScript() << data`: a script of one push. -/
def pushScript (data : Bytes) : Bytes :=
  if data.length < opPushData1.toNat then UInt8.ofNat data.length :: data
  else if data.length ≤ 0xff then opPushData1 :: UInt8.ofNat data.length :: data
  else if data.length ≤ 0xffff then opPushData2 :: writeLE 2 data.length ++ data
  else opPushData4 :: writeLE 4 data.length ++ data

/-- The P2SH part of `VerifyScript`, on the stack that the signature script left. -/
def verifyP2SHSpend (engine : ScriptEngine) (checker : SignatureChecker engine.crypto)
    (scriptSig : Bytes) (stack : List Bytes) (witness : List Bytes) (flags : ScriptFlags) :
    ScriptResult (List Bytes × Bool) := do
  scriptErrorIf (!isPushOnly scriptSig) .sigPushOnly
  scriptAssert (!stack.isEmpty) "!stack.empty()"
  let pubKey2 := stack.getLastD []
  let stack ← evalScript engine checker stack.dropLast pubKey2 flags .base noExecData
  scriptErrorIf stack.isEmpty .evalFalse
  scriptErrorIf (!castToBool (stack.getLastD [])) .evalFalse
  if flags.has verifyWitness then
    match isWitnessProgram pubKey2 with
    | none => return (stack, false)
    | some (version, program) =>
      scriptErrorIf (scriptSig != pushScript pubKey2) .witnessMalleatedP2SH
      verifyWitnessProgram engine checker witness version program flags true
      return (stack.take 1, true)
  else return (stack, false)

def verifyScript (engine : ScriptEngine) (checker : SignatureChecker engine.crypto)
    (scriptSig scriptPubKey : Bytes) (witness : List Bytes) (flags : ScriptFlags) :
    ScriptResult Unit := do
  scriptErrorIf (flags.has verifySigPushOnly && !isPushOnly scriptSig) .sigPushOnly
  let stackCopy ← evalScript engine checker [] scriptSig flags .base noExecData
  let stack ← evalScript engine checker stackCopy scriptPubKey flags .base noExecData
  scriptErrorIf stack.isEmpty .evalFalse
  scriptErrorIf (!castToBool (stack.getLastD [])) .evalFalse
  let (stack, hadWitness) ← (
    if flags.has verifyWitness then
      match isWitnessProgram scriptPubKey with
      | none => .ok (stack, false)
      | some (version, program) => do
        scriptErrorIf (scriptSig.length != 0) .witnessMalleated
        verifyWitnessProgram engine checker witness version program flags false
        return (stack.take 1, true)
    else .ok (stack, false))
  let (stack, hadWitness) ← (
    if flags.has verifyP2SH && isPayToScriptHash scriptPubKey then do
      let (stack, had) ← verifyP2SHSpend engine checker scriptSig stackCopy witness flags
      return (stack, hadWitness || had)
    else .ok (stack, hadWitness))
  if flags.has verifyCleanStack then
    scriptAssert (flags.has verifyP2SH) "(flags & SCRIPT_VERIFY_P2SH) != 0"
    scriptAssert (flags.has verifyWitness) "(flags & SCRIPT_VERIFY_WITNESS) != 0"
    scriptErrorIf (stack.length != 1) .cleanStack
  if flags.has verifyWitness then
    scriptAssert (flags.has verifyP2SH) "(flags & SCRIPT_VERIFY_P2SH) != 0"
    scriptErrorIf (!hadWitness && !witness.isEmpty) .witnessUnexpected

end GarudaChain
