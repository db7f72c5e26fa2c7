import GarudaChain.Lib.Int64
import GarudaChain.Node.Script

/-!
# The CBDC mint transactions

`cbdc/authority.cpp` and `cbdc.cpp`: how a mint transaction is recognised, the hybrid check of the
authority's signatures, and the rules for a mint transaction in a block.
-/

namespace GarudaChain

structure Crypto where
  /-- `CSHA256`: the 32-byte digest of a byte string. -/
  sha256 : Bytes → Bytes
  /-- `SHA256D64`: the hash of two nodes of a Merkle tree. -/
  sha256D64 : Uint256 → Uint256 → Uint256
  /-- `secp256k1_xonly_pubkey_parse` and `secp256k1_schnorrsig_verify`, on a public key, a
      signature and a message. -/
  schnorrVerify : Bytes → Bytes → Bytes → Bool
  /-- `PQC::MLDSA87Verify`, on a message, a signature and a public key. -/
  mldsa87Verify : Bytes → Bytes → Bytes → Bool
  /-- `PQC::MLDSA87Sign`, on a message and a secret key. -/
  mldsa87Sign : Bytes → Bytes → Option Bytes
  /-- `secp256k1_keypair_create` and the serialized x-only public key of the pair. -/
  keypairXonlyPub : Bytes → Option Bytes
  /-- `secp256k1_schnorrsig_sign32`, on a message, a private key and auxiliary randomness. -/
  schnorrsigSign32 : Bytes → Bytes → Bytes → Option Bytes
  /-- `VerifyScript` on one input, with the text of its error. -/
  verifyScript : ScriptFlags → CTransaction → Nat → List CTxOut → Except String Unit
  /-- `EvalScript` on a signature script: the stack it leaves, the top last. -/
  evalScript : Bytes → Option (List Bytes)

/-- The state of `cbdc/authority.cpp` that validation reads; keys are in hexadecimal. -/
structure AuthorityState where
  authorityPubkeyHex : List Char
  authorityPqcPubkeyHashHex : List Char
  mintFeePpm : Int
  deriving DecidableEq, Repr

def cbdcMintVersion : Nat := 3
def cbdcMintMarker : Uint256 := 0xcbdc000000000000000000000000000000000000000000000000000000000000

def chainId : List Char :=
  ['g', 'a', 'r', 'u', 'd', 'a', 'c', 'h', 'a', 'i', 'n', '-', 'm', 'a', 'i', 'n', 'n', 'e', 't',
    '-', 'v', '1']

def maxMintPerTx : Int := 100000000000000000
def maxMintPerBlock : Int := 500000000000000000
def maxMintTxsPerBlock : Int := 10
def mlDsa87PubkeySize : Nat := 2592
def mlDsa87SeckeySize : Nat := 4896
def mlDsa87SigSize : Nat := 4627

/-- The bytes of an ASCII string. -/
def asciiBytes (s : List Char) : Bytes := s.map fun c => UInt8.ofNat c.toNat

/-- The 32 bytes of a `uint256`, in the order they lie in memory. -/
def uint256Bytes (h : Uint256) : Bytes :=
  (List.range 32).map fun i => UInt8.ofNat (h.toNat / 256 ^ i % 256)

@[simp] theorem length_uint256Bytes (h : Uint256) : (uint256Bytes h).length = 32 := by
  simp [uint256Bytes]

/-- The number that 32 bytes of memory stand for. -/
def uint256OfBytes (bytes : Bytes) : Uint256 := BitVec.ofNat 256 (readLE bytes)

theorem uint256Bytes_eq (h : Uint256) : uint256Bytes h = writeLE 32 h.toNat :=
  (writeLE_eq_map 32 h.toNat).symm

theorem uint256OfBytes_uint256Bytes (h : Uint256) : uint256OfBytes (uint256Bytes h) = h := by
  rw [uint256OfBytes, uint256Bytes_eq, readLE_writeLE 32 _ (by simpa using h.isLt),
    BitVec.ofNat_toNat, BitVec.setWidth_eq]

def hexDigit (c : Char) : Option Nat :=
  if '0' ≤ c ∧ c ≤ '9' then some (c.toNat - '0'.toNat)
  else if 'a' ≤ c ∧ c ≤ 'f' then some (c.toNat - 'a'.toNat + 10)
  else if 'A' ≤ c ∧ c ≤ 'F' then some (c.toNat - 'A'.toNat + 10)
  else none

/-- `IsSpace` of `util/strencodings.h`. -/
def isHexSpace (c : Char) : Bool :=
  c == ' ' || c == '\x0c' || c == '\n' || c == '\r' || c == '\t' || c == '\x0b'

def tryParseHex : List Char → Option Bytes
  | [] => some []
  | c1 :: cs =>
    if isHexSpace c1 then tryParseHex cs
    else match cs with
      | [] => none
      | c2 :: cs =>
        match hexDigit c1, hexDigit c2, tryParseHex cs with
        | some d1, some d2, some vch => some (UInt8.ofNat (16 * d1 + d2) :: vch)
        | _, _, _ => none

def parseHex (hex : List Char) : Bytes := (tryParseHex hex).getD []

def isCBDCMintTx (tx : CTransaction) : Bool :=
  tx.version == cbdcMintVersion &&
    match tx.vin with
    | [] => false
    | txin :: _ => txin.prevout.hash == cbdcMintMarker

def getReplayProtectedHash (crypto : Crypto) (tx : CTransaction) : Bytes :=
  crypto.sha256 (asciiBytes chainId ++ uint256Bytes tx.getHash)

/-- `if (cond) { errMsg = ..; return false; }`. -/
def failIf (cond : Bool) (errMsg : String) : Except String Unit :=
  if cond then .error errMsg else .ok ()

/-- The witness stack of the first input. -/
def mintWitness (tx : CTransaction) : List Bytes :=
  match tx.vin with
  | [] => []
  | txin :: _ => txin.scriptWitness

def verifyCBDCMintSig (crypto : Crypto) (auth : AuthorityState) (tx : CTransaction) :
    Except String Unit := do
  failIf (!isCBDCMintTx tx) "bukan transaksi CBDC_MINT"
  failIf (mintWitness tx).isEmpty "cbdc-mint-no-witness"
  failIf tx.vout.isEmpty "cbdc-mint-no-output"
  let sigBytes := (mintWitness tx).headD []
  failIf (sigBytes.length != 64) "cbdc-mint-bad-sig: harus 64 byte Schnorr"
  let pubkeyBytes := parseHex auth.authorityPubkeyHex
  failIf (pubkeyBytes.length != 32)
    "cbdc-mint-bad-sig: authority pubkey tidak valid (cek -cbdcauthoritypubkey)"
  failIf (!crypto.schnorrVerify pubkeyBytes sigBytes (getReplayProtectedHash crypto tx))
    "cbdc-mint-bad-sig: verifikasi Schnorr gagal"

def verifyCBDCMintSigHybrid (crypto : Crypto) (auth : AuthorityState) (tx : CTransaction) :
    Except String Unit := do
  verifyCBDCMintSig crypto auth tx
  if auth.authorityPqcPubkeyHashHex.isEmpty then .ok ()
  else
    let stack := mintWitness tx
    failIf (decide (stack.length < 3))
      "cbdc-mint-hybrid: witness harus 3 elemen (schnorr_sig, pqc_sig, pqc_pubkey)"
    let pqcSig := stack.getD 1 []
    let pqcPubkey := stack.getD 2 []
    failIf (pqcPubkey.length != mlDsa87PubkeySize)
      ("cbdc-mint-hybrid: PQC pubkey harus 2592 bytes, dapat " ++ toString pqcPubkey.length)
    failIf (pqcSig.length != mlDsa87SigSize)
      ("cbdc-mint-hybrid: PQC sig harus 4627 bytes, dapat " ++ toString pqcSig.length)
    let expectedHash := parseHex auth.authorityPqcPubkeyHashHex
    failIf (expectedHash.length != 32)
      "cbdc-mint-hybrid: PQC pubkey hash config invalid (harus 64 hex chars)"
    failIf (crypto.sha256 pqcPubkey != expectedHash)
      "cbdc-mint-hybrid: PQC pubkey hash tidak cocok dengan authority"
    failIf (!crypto.mldsa87Verify (getReplayProtectedHash crypto tx) pqcSig pqcPubkey)
      "cbdc-mint-hybrid: verifikasi ML-DSA-87 gagal"

/-- The test for a fee output, `OP_RETURN` and a push of `MFEE`. -/
def isMintFeeScript (s : Bytes) : Bool := s.take 6 == [opReturn, 4, 0x4d, 0x46, 0x45, 0x45]

/-- The loop of `CheckCBDCMintInBlock` over the outputs, on `total_mint` and `total_fee_burned`. -/
def mintOutputsLoop : List CTxOut → Int × Int → Outcome (Int × Int)
  | [], totals => .ok totals
  | out :: vout, (totalMint, totalFeeBurned) =>
    if isMintFeeScript out.scriptPubKey then
      mintOutputsLoop vout (totalMint, wrap64 (totalFeeBurned + out.nValue))
    else do
      rejectBlockIf (decide (out.nValue ≤ 0)) .consensus "cbdc-mint-nonpositive-output"
      rejectBlockIf (decide (out.nValue > wrap64 (maxMintPerTx - totalMint))) .consensus
        "cbdc-mint-exceeds-per-tx-limit"
      mintOutputsLoop vout (wrap64 (totalMint + out.nValue), totalFeeBurned)

/-- The fee a mint of this total has to burn, computed in 128 bits and at least one satoshi. -/
def requiredMintFee (totalMint mintFeePpm : Int) : Int :=
  wrap64 (max ((totalMint * mintFeePpm).tdiv 1000000) 1)

def checkCBDCMintInBlock (crypto : Crypto) (auth : AuthorityState) (tx : CTransaction) :
    Outcome Unit :=
  match verifyCBDCMintSigHybrid crypto auth tx with
  | .error errMsg => .error (.blockInvalid .consensus errMsg)
  | .ok _ => do
    rejectBlockIf tx.vout.isEmpty .consensus "cbdc-mint-no-output"
    let (totalMint, totalFeeBurned) ← mintOutputsLoop tx.vout (0, 0)
    rejectBlockIf (decide (totalMint > maxMintPerTx)) .consensus "cbdc-mint-exceeds-per-tx-limit"
    rejectBlockIf (decide (auth.mintFeePpm > 0) && decide (totalMint > 0) &&
        decide (totalFeeBurned < requiredMintFee totalMint auth.mintFeePpm)) .consensus
      "cbdc-mint-insufficient-fee"

end GarudaChain
