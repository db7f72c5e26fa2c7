import GarudaChain.Node.Assets
import GarudaChain.Node.KeyIo
import GarudaChain.Node.Mining

/-!
# `mintgaruda`

The RPC of `rpc/cbdc.cpp` that builds and signs a mint transaction and searches for the nonce of the block
it stands in.
-/

namespace GarudaChain

/-- The parameters of `mintgaruda`, the amount as `ParseFixedPoint` reads it. -/
structure MintRequest where
  amount : Option Int
  strAddr : List Char
  privKeyHex : List Char
  pqcSkHex : Option (List Char)

/-- What `mintgaruda` reads from the clock and from the random number generator. -/
structure MintEntropy where
  micros : Nat
  mintNonce : BitVec 32
  randomized : Bool
  aux : Bytes

def mintFeeScript : Bytes := opReturn :: pushData [0x4d, 0x46, 0x45, 0x45]

/-- `fee_amount`, where there is a fee. -/
def mintFeeAmount (nAmount feePpm : Int) : Int :=
  let feeAmount := wrap64 ((nAmount * feePpm).tdiv 1000000)
  if feeAmount < 1 then 1 else feeAmount

/-- The outputs of the transaction, and `fee_amount`. -/
def mintVout (nAmount feePpm : Int) (scriptPubKey : Bytes) : List CTxOut × Int :=
  if feePpm > 0 then
    let feeAmount := mintFeeAmount nAmount feePpm
    ([⟨nAmount, scriptPubKey⟩, ⟨feeAmount, mintFeeScript⟩], feeAmount)
  else ([⟨nAmount, scriptPubKey⟩], 0)

/-- `mtx` with this witness in its input. -/
def mintTx (hasher : Hasher) (entropy : MintEntropy) (vout : List CTxOut) (witness : List Bytes) :
    CTransaction :=
  hasher.makeTransactionRef
    { vin := [⟨⟨cbdcMintMarker, entropy.mintNonce.toNat⟩, [], sequenceFinal, witness⟩]
      vout := vout
      version := cbdcMintVersion
      nLockTime := entropy.micros % 2 ^ 32
      hash := 0
      witnessHash := 0 }

/-- The signature with the authority's Schnorr key. -/
def signMint (crypto : Crypto) (auth : AuthorityState) (entropy : MintEntropy) (privKeyBytes : Bytes)
    (sighash : Bytes) : Except JSONRPCError Bytes := do
  throwIf (!entropy.randomized) .internalError "Gagal randomize secp256k1 context"
  match crypto.keypairXonlyPub privKeyBytes with
  | none => .error ⟨.invalidParameter, "Private key tidak valid"⟩
  | some pubBytes => do
    throwIf (pubBytes != parseHex auth.authorityPubkeyHex) .invalidParameter
      "Private key tidak sesuai AUTHORITY_PUBKEY. Cek -cbdcauthoritypubkey."
    match crypto.schnorrsigSign32 sighash privKeyBytes entropy.aux with
    | none => .error ⟨.internalError, "Schnorr signing gagal"⟩
    | some sig => .ok sig

/-- The signature with the ML-DSA-87 key and the key itself, where the authority has one. -/
def signMintPqc (crypto : Crypto) (auth : AuthorityState) (pqcSkHex : Option (List Char))
    (sighash : Bytes) : Except JSONRPCError (List Bytes) :=
  if auth.authorityPqcPubkeyHashHex.isEmpty then .ok []
  else
    match pqcSkHex with
    | none => .error ⟨.invalidParameter,
        "PQC aktif. Berikan pqcseckeyhex (ML-DSA-87 secret key, 4896 bytes hex)."⟩
    | some pqcSkHex => do
      let pqcSk := parseHex pqcSkHex
      let kCombined := mlDsa87PubkeySize + mlDsa87SeckeySize
      throwIf (pqcSk.length != kCombined) .invalidParameter
        ("pqcseckeyhex harus " ++ toString kCombined ++ " bytes (pk||sk combined format)")
      let pqcPkData := pqcSk.take mlDsa87PubkeySize
      let pqcSkData := pqcSk.drop mlDsa87PubkeySize
      let expectedHash := parseHex auth.authorityPqcPubkeyHashHex
      throwIf (crypto.sha256 pqcPkData != expectedHash.take 32) .invalidParameter
        "PQC pubkey hash tidak cocok dengan -cbdcpqcpubkeyhash."
      match crypto.mldsa87Sign sighash pqcSkData with
      | none => .error ⟨.internalError, "ML-DSA-87 signing gagal"⟩
      | some pqcSig => .ok [pqcSig, pqcPkData]

/-- The first half of `mintgaruda`: the script of the recipient, the signed transaction and
    `fee_amount`. -/
def buildMint (env : Env) (hasher : Hasher) (codecs : TextCodecs) (chain : ChainType)
    (mode : WalletMode) (request : MintRequest) (entropy : MintEntropy) :
    Except JSONRPCError (Bytes × CTransaction × Int) := do
  throwIf (mode != .cbdc) .miscError
    "Node tidak dalam mode cbdc. Tambah -walletmode=cbdc di bitcoin.conf"
  let nAmount ← amountFromValue request.amount
  throwIf (decide (nAmount ≤ 0)) .invalidParameter "Amount harus positif"
  let dest := (decodeDestination codecs chain request.strAddr).1
  throwIf (!isValidDestination dest) .invalidAddressOrKey
    ("Alamat tidak valid: " ++ String.ofList request.strAddr)
  let scriptPubKey := getScriptForDestination dest
  let privKeyBytes := parseHex request.privKeyHex
  throwIf (privKeyBytes.length != 32) .invalidParameter "authprivkeyhex harus 32 byte (64 hex)"
  let (vout, feeAmount) := mintVout nAmount env.authority.mintFeePpm scriptPubKey
  let sighash := getReplayProtectedHash env.crypto (mintTx hasher entropy vout [])
  let sig ← signMint env.crypto env.authority entropy privKeyBytes sighash
  let pqc ← signMintPqc env.crypto env.authority request.pqcSkHex sighash
  return (scriptPubKey, mintTx hasher entropy vout (sig :: pqc), feeAmount)

def grindNonce (env : Env) (hasher : Hasher) : Nat → CBlock → Option CBlock
  | 0, _ => none
  | rounds + 1, block =>
    let block := { block with hash := hasher.headerHash { block with hash := 0 } }
    if checkProofOfWork block.getHash block.nBits env.params.powLimit then some block
    else grindNonce env hasher rounds { block with nNonce := (block.nNonce + 1) % 2 ^ 32 }

end GarudaChain
