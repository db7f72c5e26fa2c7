import GarudaChain.Api.AdminSig
import GarudaChain.Lib.BitGroups

/-!
# Quantum-safe addresses in the API

`pubkeyToQuantumAddress` of `main.go` with its own Bech32m encoder. The prefix is ASCII, so the runes of
it are its bytes.
-/

namespace GarudaChain.Api

def pqBech32HRP : GoString := goString "grd"

def pqWitnessVersion : UInt8 := 2

def pqPubkeySize : Nat := 2592

def pqBech32mConst : BitVec 32 := 0x2bc830a3

def pqBech32Charset : GoString := goString "qpzry9x8gf2tvdw0s3jn54khce6mua7l"

def pqBech32Gen : List (BitVec 32) := [0x3b6a57b2, 0x26508e6d, 0x1ea119fa, 0x3d4233dd, 0x2a1462b3]

/-- One round of `pqPolymod`. -/
def pqPolymodRound (chk v : BitVec 32) : BitVec 32 :=
  let top := chk >>> 25
  pqBech32Gen.zipIdx.foldl (fun chk (gen, i) => if top >>> i &&& 1 ≠ 0 then chk ^^^ gen else chk)
    (((chk &&& 0x1ffffff) <<< 5) ^^^ v)

def pqPolymod (values : List (BitVec 32)) : BitVec 32 := values.foldl pqPolymodRound 1

/-- `uint32(b)`. -/
def uint32 (b : UInt8) : BitVec 32 := BitVec.ofNat 32 b.toNat

def pqHRPExpand (hrp : GoString) : List (BitVec 32) :=
  hrp.map (fun c => uint32 c >>> 5) ++ 0 :: hrp.map (fun c => uint32 c &&& 31)

/-- `pqConvertBits`; the accumulator is an `int` of 64 bits. -/
def pqConvertBits (data : Bytes) (fromBits toBits : Nat) (pad : Bool) : Bytes :=
  let maxv : BitVec 64 := BitVec.ofNat 64 (2 ^ toBits - 1)
  let (out, acc, bits) :=
    BitGroups.convertSigned (w := 64) fromBits toBits (data.map UInt8.toNat) 0 0
  (if pad && decide (bits > 0) then out ++ [(acc <<< (toBits - bits) &&& maxv).toNat] else out).map
    UInt8.ofNat

def pqBech32mEncode (hrp : GoString) (data : Bytes) : GoString :=
  let combined := data.map uint32
  let checkValues := pqHRPExpand hrp ++ combined ++ [0, 0, 0, 0, 0, 0]
  let pm := pqPolymod checkValues ^^^ pqBech32mConst
  let combined := combined ++ (List.range 6).map fun i => pm >>> (5 * (5 - i)) &&& 31
  hrp ++ 0x31 :: combined.map fun d => pqBech32Charset.getD d.toNat 0

def pubkeyToQuantumAddress (crypto : ApiCrypto) (pubkeyBytes : Bytes) : Except String GoString :=
  if pubkeyBytes.length ≠ pqPubkeySize then
    .error ("ML-DSA-87 public key must be " ++ toString pqPubkeySize ++ " bytes, got " ++
      toString pubkeyBytes.length)
  else
    let hash := crypto.sha256 pubkeyBytes
    let words := pqConvertBits hash 8 5 true
    .ok (pqBech32mEncode pqBech32HRP (pqWitnessVersion :: words))

end GarudaChain.Api
