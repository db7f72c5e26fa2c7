import GarudaChain.Lib.BitGroups
import GarudaChain.Node.Bech32
import GarudaChain.Node.Destination

/-!
# Addresses

`key_io.cpp`: the text of a destination and the destination of a text. Base58 and the location of errors
in a Bech32 text are parameters.
-/

namespace GarudaChain

inductive ChainType
  | main
  | testnet
  | testnet4
  | signet
  | regtest
  deriving DecidableEq, Repr

/-- `Bech32HRP`. -/
def ChainType.bech32Hrp : ChainType → List Char
  | .main | .regtest => ['g', 'r', 'd']
  | .testnet | .testnet4 | .signet => ['t', 'g', 'r', 'd']

/-- `Base58Prefix(PUBKEY_ADDRESS)`. -/
def ChainType.pubkeyAddress : ChainType → Bytes
  | .main => [38]
  | .testnet | .testnet4 | .signet | .regtest => [111]

/-- `Base58Prefix(SCRIPT_ADDRESS)`. -/
def ChainType.scriptAddress : ChainType → Bytes
  | .main => [10]
  | .testnet | .testnet4 | .signet | .regtest => [196]

/-- What `key_io.cpp` takes from `base58.cpp` and from the location of errors in `bech32.cpp`. -/
structure TextCodecs where
  encodeBase58Check : Bytes → List Char
  decodeBase58Check : List Char → Nat → Option Bytes
  decodeBase58 : List Char → Nat → Option Bytes
  locateErrors : List Char → String

/-- `ConvertBits<frombits, tobits, pad>`: what it returns and the values it puts out. -/
def convertBits (frombits tobits : Nat) (pad : Bool) (values : List Nat) : Bool × List Nat :=
  let maxv := 2 ^ tobits - 1
  let maxAcc := 2 ^ (frombits + tobits - 1) - 1
  let (out, acc, bits) := BitGroups.convert (· &&& maxAcc) frombits tobits values 0 0
  if pad then (true, if bits ≠ 0 then out ++ [(acc <<< (tobits - bits)) &&& maxv] else out)
  else (!(decide (bits ≥ frombits) || (acc <<< (tobits - bits)) &&& maxv != 0), out)

/-- The address of a witness program. -/
def encodeWitness (encoding : Bech32.Encoding) (hrp : List Char) (version : Nat) (program : Bytes) :
    List Char :=
  Bech32.encode encoding hrp (version :: (convertBits 8 5 true (program.map UInt8.toNat)).2)

/-- `EncodeDestination`. -/
def encodeDestination (codecs : TextCodecs) (chain : ChainType) : CTxDestination → List Char
  | .pkHash id => codecs.encodeBase58Check (chain.pubkeyAddress ++ id.data)
  | .scriptHash id => codecs.encodeBase58Check (chain.scriptAddress ++ id.data)
  | .witnessV0KeyHash id => encodeWitness .bech32 chain.bech32Hrp 0 id.data
  | .witnessV0ScriptHash id => encodeWitness .bech32 chain.bech32Hrp 0 id.data
  | .witnessV1Taproot tap => encodeWitness .bech32m chain.bech32Hrp 1 tap.data
  | .payToAnchor => encodeWitness .bech32m chain.bech32Hrp 1 [0x4e, 0x73]
  | .witnessUnknown version program =>
    if version < 1 ∨ version > 16 ∨ program.length < 2 ∨ program.length > 40 then []
    else encodeWitness .bech32m chain.bech32Hrp version program
  | .noDestination _ | .pubKeyDestination _ => []

/-- A failed decoding: `CNoDestination()` and the text in `error_str`. -/
def noDestination (errorStr : String) : CTxDestination × String := (.noDestination [], errorStr)

def decodeBase58Data (chain : ChainType) (data : Bytes) : CTxDestination × String :=
  let pubkeyPrefix := chain.pubkeyAddress
  let scriptPrefix := chain.scriptAddress
  if data.length = 20 + pubkeyPrefix.length ∧ pubkeyPrefix.isPrefixOf data then
    (.pkHash (Blob.copy 20 (data.drop pubkeyPrefix.length)), "")
  else if data.length = 20 + scriptPrefix.length ∧ scriptPrefix.isPrefixOf data then
    (.scriptHash (Blob.copy 20 (data.drop scriptPrefix.length)), "")
  else if scriptPrefix.isPrefixOf data || pubkeyPrefix.isPrefixOf data then
    noDestination "Invalid length for Base58 address (P2PKH or P2SH)"
  else noDestination "Invalid or unsupported Base58-encoded address."

def bech32WitnessProgMaxLen : Nat := 40

/-- `byte_str`. -/
def byteStr (n : Nat) : String := if n = 1 then "byte" else "bytes"

def decodeProgram (version : Nat) (data : Bytes) : CTxDestination × String :=
  if version = 0 then
    if data.length = 20 then (.witnessV0KeyHash (Blob.copy 20 data), "")
    else if data.length = 32 then (.witnessV0ScriptHash (Blob.copy 32 data), "")
    else noDestination ("Invalid Bech32 v0 address program size (" ++ toString data.length ++ " " ++
      byteStr data.length ++ "), per BIP141")
  else if version = 1 ∧ data.length = 32 then (.witnessV1Taproot (Blob.copy 32 data), "")
  else if isAnchorProgram version data then (.payToAnchor, "")
  else if version > 16 then noDestination "Invalid Bech32 address witness version"
  else if data.length < 2 ∨ data.length > bech32WitnessProgMaxLen then
    noDestination ("Invalid Bech32 address program size (" ++ toString data.length ++ " " ++
      byteStr data.length ++ ")")
  else (.witnessUnknown version data, "")

def decodeBech32Data (chain : ChainType) (dec : Bech32.DecodeResult) : CTxDestination × String :=
  match dec.data with
  | [] => noDestination "Empty Bech32 data section"
  | version :: values =>
    if dec.hrp ≠ chain.bech32Hrp then
      noDestination ("Invalid or unsupported prefix for Segwit (Bech32) address (expected " ++
        String.ofList chain.bech32Hrp ++ ", got " ++ String.ofList dec.hrp ++ ").")
    else if version = 0 ∧ dec.encoding ≠ .bech32 then
      noDestination "Version 0 witness address must use Bech32 checksum"
    else if version ≠ 0 ∧ dec.encoding ≠ .bech32m then
      noDestination "Version 1+ witness address must use Bech32m checksum"
    else
      let (ok, data) := convertBits 5 8 false values
      if ok then decodeProgram version (data.map UInt8.ofNat)
      else noDestination "Invalid padding in Bech32 data section"

/-- `DecodeDestination`: the destination and `error_str`. -/
def decodeDestination (codecs : TextCodecs) (chain : ChainType) (str : List Char) :
    CTxDestination × String :=
  let isBech32 := (str.take chain.bech32Hrp.length).map Bech32.lowerCase == chain.bech32Hrp
  if !isBech32 then
    match codecs.decodeBase58Check str 21 with
    | some data => decodeBase58Data chain data
    | none =>
      match codecs.decodeBase58 str 100 with
      | none => noDestination "Invalid or unsupported Segwit (Bech32) or Base58 encoding."
      | some _ => noDestination "Invalid checksum or length of Base58 address (P2PKH or P2SH)"
  else
    let dec := Bech32.decode str
    if dec.encoding = .bech32 ∨ dec.encoding = .bech32m then decodeBech32Data chain dec
    else noDestination (codecs.locateErrors str)

def sampleCodecs : TextCodecs := ⟨fun _ => [], fun _ _ => none, fun _ _ => none, fun _ => ""⟩

end GarudaChain
