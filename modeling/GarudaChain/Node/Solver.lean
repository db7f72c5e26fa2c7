import GarudaChain.Node.Script

/-!
# Output scripts by type

`Solver` of `script/solver.cpp` and the number and key formats that it reads: which of the standard
types an output script has, with the data it carries.
-/

namespace GarudaChain

inductive TxoutType
  | nonstandard
  | anchor
  | pubkey
  | pubkeyhash
  | scripthash
  | multisig
  | nullData
  | witnessV0Scripthash
  | witnessV0Keyhash
  | witnessV1Taproot
  | witnessV2Quantum
  | witnessUnknown
  deriving DecidableEq, Repr

def opDup : UInt8 := 0x76
def opEqualVerify : UInt8 := 0x88

/-- `CheckMinimalPush`, on an opcode that is a push. -/
def checkMinimalPush (data : Bytes) (opcode : UInt8) : Bool :=
  match data with
  | [] => opcode == 0
  | [b] => !(decide (1 ≤ b) && decide (b ≤ 16)) && b != 0x81 && opcode == 1
  | _ =>
    if data.length ≤ 75 then opcode.toNat == data.length
    else if data.length ≤ 255 then opcode == opPushData1
    else if data.length ≤ 65535 then opcode == opPushData2
    else true

/-- `CScriptNum::set_vch`: little-endian with the sign in the highest bit. -/
def scriptNumValue (vch : Bytes) : Int :=
  match vch.getLast? with
  | none => 0
  | some last =>
    if last.toNat ≥ 128 then -((readLE vch - 128 * 256 ^ (vch.length - 1) : Nat) : Int)
    else readLE vch

/-- `CScriptNum(vch, true)`: `none` where the constructor throws. -/
def scriptNumMinimal (vch : Bytes) : Option Int :=
  if vch.length > 4 then none
  else match vch.reverse with
    | [] => some 0
    | last :: rest =>
      -- a zero byte on top is there only to keep the sign bit off the byte below it
      if last.toNat % 128 == 0 && !(rest.head?.any fun b => decide (b.toNat ≥ 128)) then none
      else some (scriptNumValue vch)

def getScriptNumber (opcode : UInt8) (data : Bytes) (min max : Int) : Option Int :=
  let count :=
    if op1 ≤ opcode ∧ opcode ≤ op16 then some (decodeOpN opcode : Int)
    else if 0 < opcode ∧ opcode ≤ opPushData4 then
      if checkMinimalPush data opcode then scriptNumMinimal data else none
    else none
  count.filter fun n => decide (min ≤ n) && decide (n ≤ max)

/-- `CPubKey::GetLen`. -/
def pubKeyLen (chHeader : UInt8) : Nat :=
  if chHeader == 2 || chHeader == 3 then 33
  else if chHeader == 4 || chHeader == 6 || chHeader == 7 then 65
  else 0

/-- `CPubKey::ValidSize`. -/
def validPubKeySize (vch : Bytes) : Bool :=
  match vch with
  | [] => false
  | chHeader :: _ => pubKeyLen chHeader == vch.length

/-- `MatchPayToPubkey`: both sizes of a key are tested by the same pattern. -/
def matchPayToPubkey (script : Bytes) : Option Bytes :=
  let matchSize (size : Nat) : Bool :=
    script.length == size + 2 && script.head? == some (UInt8.ofNat size) &&
      script.getLast? == some opCheckSig
  if matchSize 65 || matchSize 33 then
    let pubkey := (script.drop 1).dropLast
    if validPubKeySize pubkey then some pubkey else none
  else none

def matchPayToPubkeyHash (script : Bytes) : Option Bytes :=
  if script.length == 25 && script.take 3 == [opDup, opHash160, 20] &&
      script.drop 23 == [opEqualVerify, opCheckSig] then
    some ((script.drop 3).take 20)
  else none

/-- The loop of `MatchMultisig` over the keys: the keys, and the operation that ended them. -/
def multisigKeysLoop : Nat → Bytes → List Bytes → Option (List Bytes × UInt8 × Bytes × Bytes)
  | 0, _, _ => none
  | fuel + 1, pc, pubkeys =>
    match getScriptOp pc with
    | none => none
    | some (opcode, data, pc) =>
      if validPubKeySize data then multisigKeysLoop fuel pc (pubkeys ++ [data])
      else some (pubkeys, opcode, data, pc)

/-- `MatchMultisig`: the number of signatures and the keys. -/
def matchMultisig (script : Bytes) : Option (Int × List Bytes) := do
  guard (script.getLast? == some opCheckMultiSig)
  let (opcode, data, pc) ← getScriptOp script
  let required ← getScriptNumber opcode data 1 maxPubkeysPerMultisig
  let (pubkeys, opcode, data, pc) ← multisigKeysLoop script.length pc []
  let numKeys ← getScriptNumber opcode data required maxPubkeysPerMultisig
  guard ((pubkeys.length : Int) == numKeys)
  guard (pc.length == 1)
  return (required, pubkeys)

def isPayToAnchor (script : Bytes) : Bool := script == [op1, 0x02, 0x4e, 0x73]

def isPushOnly (script : Bytes) : Bool := (lastPush script).isSome

/-- The types of a witness program. -/
def solveWitnessProgram (scriptPubKey : Bytes) (version : Nat) (program : Bytes) :
    TxoutType × List Bytes :=
  if version == 0 && program.length == 20 then (.witnessV0Keyhash, [program])
  else if version == 0 && program.length == 32 then (.witnessV0Scripthash, [program])
  else if version == 1 && program.length == 32 then (.witnessV1Taproot, [program])
  else if version == 2 && program.length == 32 then (.witnessV2Quantum, [program])
  else if isPayToAnchor scriptPubKey then (.anchor, [])
  else if version != 0 then (.witnessUnknown, [[UInt8.ofNat version], program])
  else (.nonstandard, [])

/-- `Solver`: the type of an output script and its solutions. -/
def solver (scriptPubKey : Bytes) : TxoutType × List Bytes :=
  if isPayToScriptHash scriptPubKey then (.scripthash, [(scriptPubKey.drop 2).take 20])
  else match isWitnessProgram scriptPubKey with
    | some (version, program) => solveWitnessProgram scriptPubKey version program
    | none =>
      if scriptPubKey.head? == some opReturn && isPushOnly (scriptPubKey.drop 1) then
        (.nullData, [])
      else match matchPayToPubkey scriptPubKey with
        | some data => (.pubkey, [data])
        | none =>
          match matchPayToPubkeyHash scriptPubKey with
          | some data => (.pubkeyhash, [data])
          | none =>
            match matchMultisig scriptPubKey with
            | some (required, keys) =>
              (.multisig, [UInt8.ofNat required.toNat] :: keys ++ [[UInt8.ofNat keys.length]])
            | none => (.nonstandard, [])

end GarudaChain
