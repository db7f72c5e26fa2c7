import GarudaChain.Extension.Wallet
import GarudaChain.Lib.BitGroups
import GarudaChain.Lib.Text
import GarudaChain.Node.Cbdc

/-!
# The transactions of the browser extension

`crypto/wallet.ts` from addresses and output scripts to signed transactions.
-/

namespace GarudaChain.Extension

structure WalletLibs where
  sha256 : Bytes → Bytes
  ripemd160 : Bytes → Bytes
  /-- `signAsync` on a hash and a private key and `toDERRawBytes` of the signature, which throws with a
      library whose signatures have no such method. -/
  signDer : Nat → Bytes → Bytes → Except String Bytes
  /-- `ml_dsa87.sign` on a hash and a secret key. -/
  mlDsa87Sign : Nat → Bytes → Bytes → Bytes

def WalletLibs.sha256d (libs : WalletLibs) (data : Bytes) : Bytes := libs.sha256 (libs.sha256 data)

def WalletLibs.hash160 (libs : WalletLibs) (data : Bytes) : Bytes := libs.ripemd160 (libs.sha256 data)

/-- `b.toString(16).padStart(2, "0")`. -/
def hexByte (b : UInt8) : List Char := List.leftpad 2 '0' (Nat.toDigits 16 b.toNat)

def toHex (bytes : Bytes) : List Char := bytes.flatMap hexByte

/-- `parseInt` on two characters with the base 16, where `NaN` is stored as zero. -/
def parseIntHex (c1 c2 : Char) : UInt8 :=
  match hexDigit c1, hexDigit c2 with
  | some d1, some d2 => UInt8.ofNat (16 * d1 + d2)
  | some d1, none => UInt8.ofNat d1
  | none, some d2 =>
    if c1 = '-' then UInt8.ofNat (256 - d2)
    else if c1 = '+' ∨ isHexSpace c1 then UInt8.ofNat d2
    else 0
  | none, none => 0

/-- `fromHex`; the last character of an odd number of them is written behind the end of the array. -/
def fromHex : List Char → Bytes
  | c1 :: c2 :: hex => parseIntHex c1 c2 :: fromHex hex
  | _ => []

def writeLE32 (n : Nat) : Bytes :=
  [UInt8.ofNat n, UInt8.ofNat (n >>> 8), UInt8.ofNat (n >>> 16), UInt8.ofNat (n >>> 24)]

/-- `writeLE64`: a negative number counts as its two's complement. -/
def writeLE64 (n : Int) : Bytes :=
  (List.range 8).map fun i : Nat => UInt8.ofNat ((n >>> (8 * i)) % 256).toNat

def writeVarInt (n : Nat) : Bytes :=
  if n < 0xfd then [UInt8.ofNat n]
  else if n ≤ 0xffff then [0xfd, UInt8.ofNat n, UInt8.ofNat (n >>> 8)]
  else [0xfe, UInt8.ofNat n, UInt8.ofNat (n >>> 8), UInt8.ofNat (n >>> 16), UInt8.ofNat (n >>> 24)]

/-- `BigInt(value)`. -/
def toBigInt (value : Rat) : Except String Int :=
  if value.den = 1 then .ok value.num
  else .error ("The number " ++ toString value ++
    " cannot be converted to a BigInt because it is not an integer")

def CHARSET : List Char := "qpzry9x8gf2tvdw0s3jn54khce6mua7l".toList

/-- `CHARSET.indexOf(c)`. -/
def indexOfChar (c : Char) : Int := if c ∈ CHARSET then CHARSET.idxOf c else -1

def convertBits (data : Bytes) (frombits tobits : Nat) (pad : Bool) : List Nat :=
  let maxv := 2 ^ tobits - 1
  let (out, acc, bits) :=
    BitGroups.convert (· % 2 ^ 32) frombits tobits (data.map UInt8.toNat) 0 0
  if pad && decide (bits > 0) then out ++ [(acc <<< (tobits - bits)) &&& maxv] else out

def GEN : List (BitVec 32) := [0x3b6a57b2, 0x26508e6d, 0x1ea119fa, 0x3d4233dd, 0x2a1462b3]

/-- One round of `polymod`. Numbers are signed in bit operations, so the shifts to the right copy the
    sign. -/
def polymodRound (chk v : BitVec 32) : BitVec 32 :=
  let top := chk.sshiftRight 25
  GEN.zipIdx.foldl (fun chk (gen, i) => if top.sshiftRight i &&& 1 ≠ 0 then chk ^^^ gen else chk)
    (((chk &&& 0x1ffffff) <<< 5) ^^^ v)

def polymod (values : List Nat) : BitVec 32 :=
  values.foldl (fun chk v => polymodRound chk (BitVec.ofNat 32 v)) 1

def hrpExpand (hrp : List Char) : List Nat :=
  hrp.map (fun c => c.toNat >>> 5) ++ 0 :: hrp.map (fun c => c.toNat &&& 31)

def BECH32M_CONST : BitVec 32 := 0x2bc830a3

def bech32mEncode (hrp : List Char) (data : List Nat) : List Char :=
  let checkValues := hrpExpand hrp ++ data ++ [0, 0, 0, 0, 0, 0]
  let pm := polymod checkValues ^^^ BECH32M_CONST
  let combined := data ++ (List.range 6).map fun i => (pm.sshiftRight (5 * (5 - i)) &&& 31).toNat
  hrp ++ '1' :: combined.map fun d => CHARSET.getD d ' '

/-- `pubkeyToP2PQH`, where `GARUDA_NETWORK.bech32` is `grd`. -/
def pubkeyToP2PQH (libs : WalletLibs) (pubkey : Bytes) : List Char :=
  let pkHash := libs.sha256 pubkey
  let words := convertBits pkHash 8 5 true
  bech32mEncode ['g', 'r', 'd'] (2 :: words)

/-- The characters between the last `1` and the checksum. -/
def dataPart (address : List Char) : List Char :=
  (address.take (address.length - 6)).drop ((Text.lastIndexOf '1' address).elim 0 (· + 1))

/-- What a number becomes in a `Uint8Array`. -/
def toUint8 (x : Int) : UInt8 := UInt8.ofNat (x % 256).toNat

def addressToWitnessProgram (address : List Char) : Except String Bytes :=
  let data := (dataPart address).map indexOfChar
  if data.any (· < 0) then .error "Invalid bech32 char"
  else .ok ((convertBits (data.tail.map toUint8) 5 8 false).map UInt8.ofNat)

def addressToScript (address : List Char) : Except String Bytes := do
  let prog ← addressToWitnessProgram address
  return 0x00 :: UInt8.ofNat prog.length :: prog

/-- The script of `buildAndSignQuantumTx` for an address, which takes the version from it. -/
def quantumAddressToScript (address : List Char) : Bytes :=
  let data := (dataPart address).map indexOfChar
  let prog := (convertBits (data.tail.map toUint8) 5 8 false).map UInt8.ofNat
  let versionByte : Int := match data with
    | [] => 0 -- `0x50 + undefined`
    | witnessVer :: _ => if witnessVer = 0 then 0x00 else 0x50 + witnessVer
  toUint8 versionByte :: UInt8.ofNat prog.length :: prog

/-- The script of an output: data behind `OP_RETURN`, or what `script` makes of the address. -/
def outScript (script : List Char → Except String Bytes) (o : TxOutput) : Except String Bytes :=
  match o.opreturn with
  | some hex => .ok (0x6a :: UInt8.ofNat (fromHex hex.toList).length :: fromHex hex.toList)
  | none =>
    match o.address with
    | some address => script address.toList
    | none => .error "Cannot read properties of undefined (reading 'lastIndexOf')"

def outpoint (inp : UTXO) : Bytes := (fromHex inp.txid.toList).reverse ++ writeLE32 inp.vout

def finalSequence : Bytes := [0xff, 0xff, 0xff, 0xff]

def encodeOutput (o : TxOutput) (script : Bytes) : Except String Bytes := do
  let value ← toBigInt o.value
  return writeLE64 value ++ writeVarInt script.length ++ script

/-- What is hashed and signed for an input. -/
def preimage (libs : WalletLibs) (inputs : List UTXO) (encodedOutputs : List Bytes)
    (scriptCode : Bytes) (inp : UTXO) : Bytes :=
  let hashPrevouts := libs.sha256d (inputs.flatMap outpoint)
  let hashSequence := libs.sha256d (inputs.flatMap fun _ => finalSequence)
  let hashOutputs := libs.sha256d encodedOutputs.flatten
  writeLE32 2 ++ hashPrevouts ++ hashSequence ++ outpoint inp ++ writeVarInt scriptCode.length ++
    scriptCode ++ writeLE64 inp.value ++ finalSequence ++ hashOutputs ++ writeLE32 0 ++ [1, 0, 0, 0]

/-- The raw transaction. -/
def rawTx (inputs : List UTXO) (encodedOutputs : List Bytes) (witnesses : List (List Bytes)) : Bytes :=
  let inputsSection := writeVarInt inputs.length ++
    inputs.flatMap fun inp => outpoint inp ++ [0x00] ++ finalSequence
  let outputsSection := writeVarInt encodedOutputs.length ++ encodedOutputs.flatten
  let witnessSection := witnesses.flatMap fun w =>
    writeVarInt w.length ++ w.flatMap fun item => writeVarInt item.length ++ item
  writeLE32 2 ++ [0x00, 0x01] ++ inputsSection ++ outputsSection ++ witnessSection ++ writeLE32 0

/-- A transaction with these output scripts whose inputs are signed for `scriptCode`. -/
def buildTx (libs : WalletLibs) (script : TxOutput → Except String Bytes) (scriptCode : Bytes)
    (witness : Nat → Bytes → Except String (List Bytes)) (inputs : List UTXO) (outputs : List TxOutput) :
    Except String (List Char) := do
  let outScripts ← outputs.mapM script
  let encodedOutputs ← (outputs.zip outScripts).mapM fun (o, script) => encodeOutput o script
  let witnesses ← inputs.zipIdx.mapM fun (inp, i) =>
    witness i (libs.sha256d (preimage libs inputs encodedOutputs scriptCode inp))
  return toHex (rawTx inputs encodedOutputs witnesses)

def buildAndSignTx (libs : WalletLibs) (inputs : List UTXO) (outputs : List TxOutput)
    (privateKey publicKey : Bytes) : Except String (List Char) :=
  buildTx libs (outScript addressToScript)
    ([0x76, 0xa9, 0x14] ++ libs.hash160 publicKey ++ [0x88, 0xac])
    (fun i sigHash => do
      let derSig ← libs.signDer i sigHash privateKey
      return [derSig ++ [0x01], publicKey]) inputs outputs

/-- `OP_2` and the hash of the public key. -/
def quantumScriptCode (libs : WalletLibs) (publicKey : Bytes) : Bytes :=
  0x52 :: 0x20 :: libs.sha256 publicKey

def buildAndSignQuantumTx (libs : WalletLibs) (inputs : List UTXO) (outputs : List TxOutput)
    (secretKey publicKey : Bytes) : Except String (List Char) :=
  buildTx libs (outScript fun address => .ok (quantumAddressToScript address))
    (quantumScriptCode libs publicKey)
    (fun i sigHash => .ok [libs.mlDsa87Sign i sigHash secretKey, publicKey]) inputs outputs

end GarudaChain.Extension
