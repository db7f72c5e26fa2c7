import GarudaChain.Node.Interpreter

/-!
# Destinations

`addresstype.cpp`: the destination of an output script and the script of a destination.
-/

namespace GarudaChain

/-- `base_blob`: a string of `n` bytes. -/
structure Blob (n : Nat) where
  data : Bytes
  size : data.length = n
  deriving DecidableEq

/-- The constructor of `base_blob` from a span. -/
def Blob.ofSpan {n : Nat} (vch : Bytes) : Outcome (Blob n) :=
  if h : vch.length = n then .ok ⟨vch, h⟩ else .error (.assertFailed .blobSize)

/-- `std::copy` of bytes to the begin of a blob of zeros; a write behind its end is left out. -/
def Blob.copy (n : Nat) (vch : Bytes) : Blob n :=
  ⟨(vch ++ List.replicate n 0).take n, by simp⟩

inductive CTxDestination
  | noDestination (script : Bytes)
  | pubKeyDestination (pubkey : Bytes)
  | pkHash (hash : Blob 20)
  | scriptHash (hash : Blob 20)
  | witnessV0ScriptHash (hash : Blob 32)
  | witnessV0KeyHash (hash : Blob 20)
  | witnessV1Taproot (tap : Blob 32)
  | payToAnchor
  | witnessUnknown (version : Nat) (program : Bytes)
  deriving DecidableEq

/-- `ExtractDestination`: its result and what it assigns to `addressRet`. -/
def extractDestination (scriptPubKey : Bytes) : Outcome (Bool × CTxDestination) :=
  let (whichType, vSolutions) := solver scriptPubKey
  let solution (i : Nat) : Bytes := vSolutions.getD i []
  match whichType with
  | .pubkey =>
    -- a key of another size is invalidated by the constructor of `CPubKey`
    if validPubKeySize (solution 0) then .ok (false, .pubKeyDestination (solution 0))
    else .ok (false, .noDestination scriptPubKey)
  | .pubkeyhash => do
    let hash ← Blob.ofSpan (solution 0)
    return (true, .pkHash hash)
  | .scripthash => do
    let hash ← Blob.ofSpan (solution 0)
    return (true, .scriptHash hash)
  | .witnessV0Keyhash => .ok (true, .witnessV0KeyHash (Blob.copy 20 (solution 0)))
  | .witnessV0Scripthash => .ok (true, .witnessV0ScriptHash (Blob.copy 32 (solution 0)))
  | .witnessV1Taproot => .ok (true, .witnessV1Taproot (Blob.copy 32 (solution 0)))
  | .anchor => .ok (true, .payToAnchor)
  | .witnessUnknown =>
    .ok (true, .witnessUnknown ((solution 0).headD 0).toNat (solution 1))
  | .multisig | .nullData | .nonstandard => .ok (false, .noDestination scriptPubKey)
  -- the only type without a case
  | .witnessV2Quantum => .error (.assertFailed .extractDestination)

/-- `CScript::EncodeOP_N`. -/
def encodeOpN (n : Nat) : UInt8 := if n = 0 then 0 else UInt8.ofNat (op1.toNat + n - 1)

/-- `CScriptVisitor`, as `GetScriptForDestination` applies it. -/
def getScriptForDestination : CTxDestination → Bytes
  | .noDestination script => script
  | .pubKeyDestination pubkey => pushScript pubkey ++ [opCheckSig]
  | .pkHash hash => opDup :: opHash160 :: pushScript hash.data ++ [opEqualVerify, opCheckSig]
  | .scriptHash hash => opHash160 :: pushScript hash.data ++ [opEqual]
  | .witnessV0KeyHash hash => 0 :: pushScript hash.data
  | .witnessV0ScriptHash hash => 0 :: pushScript hash.data
  | .witnessV1Taproot tap => op1 :: pushScript tap.data
  | .payToAnchor => encodeOpN 1 :: pushScript [0x4e, 0x73]
  | .witnessUnknown version program => encodeOpN version :: pushScript program

/-- `ValidDestinationVisitor`, as `IsValidDestination` applies it. -/
def isValidDestination : CTxDestination → Bool
  | .noDestination _ | .pubKeyDestination _ => false
  | .pkHash _ | .scriptHash _ | .witnessV0KeyHash _ | .witnessV0ScriptHash _ | .witnessV1Taproot _
  | .payToAnchor | .witnessUnknown _ _ => true

end GarudaChain
