import GarudaChain.Node.Primitives

/-!
# Scripts

The parts of `script/script.cpp` and `script/interpreter.cpp` that validation reads without running a
script: the operations of a script, the counts of signature operations, the standard shapes, and the
verification flags.
-/

namespace GarudaChain

def opPushData1 : UInt8 := 0x4c
def opPushData2 : UInt8 := 0x4d
def opPushData4 : UInt8 := 0x4e
def op1 : UInt8 := 0x51
def op16 : UInt8 := 0x60
def opReturn : UInt8 := 0x6a
def opEqual : UInt8 := 0x87
def opHash160 : UInt8 := 0xa9
def opCheckSig : UInt8 := 0xac
def opCheckSigVerify : UInt8 := 0xad
def opCheckMultiSig : UInt8 := 0xae
def opCheckMultiSigVerify : UInt8 := 0xaf
def opInvalidOpcode : UInt8 := 0xff

def maxScriptSize : Nat := 10000

def maxPubkeysPerMultisig : Nat := 20

def isUnspendable (script : Bytes) : Bool :=
  (match script with
    | op :: _ => op == opReturn
    | [] => false) || decide (script.length > maxScriptSize)

/-- The little-endian number of a byte string (`ReadLE16`, `ReadLE32`). -/
def readLE : Bytes → Nat
  | [] => 0
  | b :: bs => b.toNat + 256 * readLE bs

/-- The little-endian bytes of a number in a field of fixed width (`WriteLE16`, `WriteLE32`,
    `WriteLE64`). -/
def writeLE : Nat → Nat → Bytes
  | 0, _ => []
  | width + 1, n => UInt8.ofNat (n % 256) :: writeLE width (n / 256)

@[simp] theorem length_writeLE (width n : Nat) : (writeLE width n).length = width := by
  induction width generalizing n with
  | zero => rfl
  | succ width ih => simp [writeLE, ih]

theorem writeLE_eq_map (width : Nat) : ∀ n : Nat,
    writeLE width n = (List.range width).map fun i => UInt8.ofNat (n / 256 ^ i % 256) := by
  induction width with
  | zero => intro n; rfl
  | succ width ih =>
    intro n
    rw [writeLE, ih, List.range_succ_eq_map, List.map_cons, List.map_map]
    congr 1
    · simp
    · apply List.map_congr_left
      intro i _
      simp only [Function.comp, Nat.div_div_eq_div_mul, Nat.succ_eq_add_one, pow_succ']

theorem readLE_writeLE (width : Nat) : ∀ n, n < 256 ^ width → readLE (writeLE width n) = n := by
  induction width with
  | zero =>
    intro n hn
    have h0 : n = 0 := by simpa using hn
    rw [h0]
    rfl
  | succ width ih =>
    intro n hn
    have hdiv : n / 256 < 256 ^ width := Nat.div_lt_of_lt_mul (by rwa [← pow_succ'])
    have hbyte : (UInt8.ofNat (n % 256)).toNat = n % 256 := by
      simp [UInt8.toNat_ofNat']
    rw [writeLE, readLE, ih _ hdiv, hbyte, Nat.mod_add_div]

theorem writeLE_readLE (bs : Bytes) : writeLE bs.length (readLE bs) = bs := by
  induction bs with
  | nil => rfl
  | cons b bs ih =>
    have hb := b.toNat_lt
    have hmod : (b.toNat + 256 * readLE bs) % 256 = b.toNat := by omega
    have hdiv : (b.toNat + 256 * readLE bs) / 256 = readLE bs := by omega
    rw [List.length_cons, readLE, writeLE, hmod, hdiv, ih, UInt8.ofNat_toNat]

theorem readLE_lt (bs : Bytes) : readLE bs < 256 ^ bs.length := by
  induction bs with
  | nil => simp [readLE]
  | cons b bs ih =>
    have hb := b.toNat_lt
    rw [readLE, List.length_cons, pow_succ]
    omega

/-- The operand size of an opcode and what follows its length bytes, `none` where these are cut off. -/
def pushSize (opcode : UInt8) (rest : Bytes) : Option (Nat × Bytes) :=
  if opcode < opPushData1 then some (opcode.toNat, rest)
  else if opcode == opPushData1 then
    if rest.length < 1 then none else some (readLE (rest.take 1), rest.drop 1)
  else if opcode == opPushData2 then
    if rest.length < 2 then none else some (readLE (rest.take 2), rest.drop 2)
  else if opcode == opPushData4 then
    if rest.length < 4 then none else some (readLE (rest.take 4), rest.drop 4)
  else some (0, rest)

/-- `GetScriptOp`: the first opcode of the script, its operand and the rest of the script. -/
def getScriptOp : Bytes → Option (UInt8 × Bytes × Bytes)
  | [] => none
  | opcode :: rest =>
    match pushSize opcode rest with
    | none => none
    | some (nSize, rest) =>
      if rest.length < nSize then none else some (opcode, rest.take nSize, rest.drop nSize)

def decodeOpN (opcode : UInt8) : Nat :=
  if opcode == 0 then 0 else opcode.toNat - (op1.toNat - 1)

/-- The loop of `CScript::GetSigOpCount(bool)`. -/
def getSigOpCountLoop (fAccurate : Bool) : Nat → Bytes → UInt8 → Nat → Nat
  | 0, _, _, n => n
  | fuel + 1, pc, lastOpcode, n =>
    match getScriptOp pc with
    | none => n
    | some (opcode, _, pc) =>
      let n :=
        if opcode == opCheckSig || opcode == opCheckSigVerify then n + 1
        else if opcode == opCheckMultiSig || opcode == opCheckMultiSigVerify then
          if fAccurate && decide (op1 ≤ lastOpcode) && decide (lastOpcode ≤ op16) then
            n + decodeOpN lastOpcode
          else n + maxPubkeysPerMultisig
        else n
      getSigOpCountLoop fAccurate fuel pc opcode n

def getSigOpCount (script : Bytes) (fAccurate : Bool) : Nat :=
  getSigOpCountLoop fAccurate script.length script opInvalidOpcode 0

def isPayToScriptHash (script : Bytes) : Bool :=
  script.length == 23 && script[0]? == some opHash160 && script[1]? == some 0x14 &&
    script[22]? == some opEqual

/-- The loop that reads the last push of a script made of pushes only. -/
def lastPushLoop : Nat → Bytes → Bytes → Option Bytes
  | 0, _, vData => some vData
  | fuel + 1, pc, vData =>
    match pc with
    | [] => some vData
    | _ :: _ =>
      match getScriptOp pc with
      | none => none
      | some (opcode, vData, pc) =>
        if opcode > op16 then none else lastPushLoop fuel pc vData

/-- The last item that a script made of pushes only leaves on the stack (`IsPushOnly` is that there
    is one). -/
def lastPush (script : Bytes) : Option Bytes := lastPushLoop script.length script []

/-- `CScript::GetSigOpCount(const CScript& scriptSig)`. -/
def getSigOpCountP2SH (script scriptSig : Bytes) : Nat :=
  if !isPayToScriptHash script then getSigOpCount script true
  else match lastPush scriptSig with
    | none => 0
    | some vData => getSigOpCount vData true

/-- `CScript::IsWitnessProgram`: the version and the program. -/
def isWitnessProgram (script : Bytes) : Option (Nat × Bytes) :=
  if script.length < 4 || script.length > 42 then none
  else match script with
    | v :: len :: program =>
      if v != 0 && (decide (v < op1) || decide (op16 < v)) then none
      else if len.toNat + 2 == script.length then some (decodeOpN v, program) else none
    | _ => none

def witnessSigOps (witversion : Nat) (witprogram : Bytes) (stack : List Bytes) : Nat :=
  if witversion == 0 then
    if witprogram.length == 20 then 1
    else if witprogram.length == 32 then
      match stack.getLast? with
      | some subscript => getSigOpCount subscript true
      | none => 0
    else 0
  else 0

/-- The bit mask of `SCRIPT_VERIFY_*` flags. -/
abbrev ScriptFlags := BitVec 32

def verifyP2SH : ScriptFlags := 1 <<< 0
def verifyStrictEnc : ScriptFlags := 1 <<< 1
def verifyDerSig : ScriptFlags := 1 <<< 2
def verifyLowS : ScriptFlags := 1 <<< 3
def verifyNullDummy : ScriptFlags := 1 <<< 4
def verifySigPushOnly : ScriptFlags := 1 <<< 5
def verifyMinimalData : ScriptFlags := 1 <<< 6
def verifyDiscourageUpgradableNops : ScriptFlags := 1 <<< 7
def verifyCleanStack : ScriptFlags := 1 <<< 8
def verifyCheckLockTimeVerify : ScriptFlags := 1 <<< 9
def verifyCheckSequenceVerify : ScriptFlags := 1 <<< 10
def verifyWitness : ScriptFlags := 1 <<< 11
def verifyDiscourageUpgradableWitnessProgram : ScriptFlags := 1 <<< 12
def verifyMinimalIf : ScriptFlags := 1 <<< 13
def verifyNullFail : ScriptFlags := 1 <<< 14
def verifyWitnessPubkeyType : ScriptFlags := 1 <<< 15
def verifyConstScriptCode : ScriptFlags := 1 <<< 16
def verifyTaproot : ScriptFlags := 1 <<< 17
def verifyDiscourageUpgradableTaprootVersion : ScriptFlags := 1 <<< 18
def verifyDiscourageOpSuccess : ScriptFlags := 1 <<< 19
def verifyDiscourageUpgradablePubkeyType : ScriptFlags := 1 <<< 20
def verifyQuantum : ScriptFlags := 1 <<< 21

/-- `(flags & flag) != 0`. -/
def ScriptFlags.has (flags flag : ScriptFlags) : Bool := flags &&& flag != 0

/-- `MANDATORY_SCRIPT_VERIFY_FLAGS` of `policy/policy.h`. -/
def mandatoryScriptVerifyFlags : ScriptFlags :=
  verifyP2SH ||| verifyDerSig ||| verifyNullDummy ||| verifyCheckLockTimeVerify |||
    verifyCheckSequenceVerify ||| verifyWitness ||| verifyTaproot ||| verifyQuantum

/-- `STANDARD_SCRIPT_VERIFY_FLAGS` of `policy/policy.h`. -/
def standardScriptVerifyFlags : ScriptFlags :=
  mandatoryScriptVerifyFlags ||| verifyStrictEnc ||| verifyMinimalData |||
    verifyDiscourageUpgradableNops ||| verifyCleanStack ||| verifyMinimalIf ||| verifyNullFail |||
    verifyLowS ||| verifyDiscourageUpgradableWitnessProgram ||| verifyWitnessPubkeyType |||
    verifyConstScriptCode ||| verifyDiscourageUpgradableTaprootVersion |||
    verifyDiscourageOpSuccess ||| verifyDiscourageUpgradablePubkeyType

def countWitnessSigOps (scriptSig scriptPubKey : Bytes) (witness : List Bytes)
    (flags : ScriptFlags) : Outcome Nat :=
  if !flags.has verifyWitness then .ok 0
  else do
    assertThat (flags.has verifyP2SH) .witnessNeedsP2SH
    match isWitnessProgram scriptPubKey with
    | some (version, program) => .ok (witnessSigOps version program witness)
    | none =>
      if isPayToScriptHash scriptPubKey then
        match lastPush scriptSig with
        | none => .ok 0
        | some data =>
          match isWitnessProgram data with
          | some (version, program) => .ok (witnessSigOps version program witness)
          | none => .ok 0
      else .ok 0

end GarudaChain
