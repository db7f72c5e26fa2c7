import GarudaChain.Node.Assets

/-!
# Issuing and burning assets

The RPCs `issueasset` and `burnasset` of `rpc/assets.cpp`.
-/

namespace GarudaChain

/-- `ComputeAssetId`. -/
def computeAssetId (crypto : Crypto) (name symbol creator : Bytes) : Uint256 :=
  uint256OfBytes (crypto.sha256 (name ++ symbol ++ creator))

/-- The parameters of `issueasset`. -/
structure IssueRequest where
  symbol : Bytes
  name : Bytes
  type : Bytes
  totalSupply : Int
  address : Bytes
  pqcHex : Option (List Char)

def IssueRequest.assetId (crypto : Crypto) (request : IssueRequest) : Uint256 :=
  computeAssetId crypto request.name request.symbol request.address

/-- What `issueasset` returns. -/
structure IssueResult where
  assetId : Uint256
  opreturnData : List Char
  symbol : Bytes
  deriving DecidableEq

/-- The symbol in the `OP_RETURN` data, padded to 12 bytes. -/
def paddedSymbol (symbol : Bytes) : Bytes := symbol ++ List.replicate (12 - symbol.length) 0

/-- `issueasset`: the whole supply is the balance of the issuer, whatever it was before. -/
def issueasset (env : NodeEnv) (db : AssetDB) (request : IssueRequest) :
    RpcResult (AssetDB × IssueResult) := do
  let totalSupply ← getInt64 request.totalSupply
  throwIf (env.walletMode != .cbdc && env.walletMode != .creator) .miscError
    ("Hanya node CBDC atau Creator yang boleh menerbitkan asset. " ++
      "Tambahkan walletmode=cbdc atau walletmode=creator di konfigurasi.")
  throwIf (request.symbol.isEmpty || decide (request.symbol.length > 12)) .invalidParameter
    "Simbol harus 1-12 karakter"
  throwIf (request.name.isEmpty || decide (request.name.length > 64)) .invalidParameter
    "Nama harus 1-64 karakter"
  throwIf (decide (totalSupply ≤ 0)) .invalidParameter "Total supply harus positif"
  throwIf (!env.isValidDestination request.address) .invalidAddressOrKey "Alamat tidak valid"
  let assetId := request.assetId env.crypto
  throwIf (db.readAsset assetId).isSome .invalidParameter "Asset sudah ada"
  requireAuth env request.pqcHex "issueasset"
    [stringChars request.symbol, stringChars request.name, stringChars request.type,
      (toString totalSupply).toList, stringChars request.address]
  let info : AssetInfo :=
    { assetId := assetId
      symbol := String.ofList (stringChars request.symbol)
      type := String.ofList (stringChars request.type)
      totalSupply := totalSupply
      creator := request.address }
  let db := (db.writeAsset info).writeBalance assetId request.address totalSupply
  .ok (db, { assetId := assetId
             opreturnData := hexStr (asciiBytes "ASSET".toList ++ paddedSymbol request.symbol ++
               uint256Bytes assetId)
             symbol := request.symbol })

/-- What `burnasset` returns. -/
structure BurnResult where
  opReturnHex : List Char
  newSupply : Int
  burned : Int
  symbol : String
  deriving DecidableEq

def burnasset (env : NodeEnv) (db : AssetDB) (assetId : Uint256) (amount : Int) (address : Bytes)
    (pqcHex : Option (List Char)) : RpcResult (AssetDB × BurnResult) := do
  let amount ← getInt64 amount
  throwIf (decide (amount ≤ 0)) .invalidParameter "Amount harus positif"
  requireAuth env pqcHex "burnasset"
    [getHex assetId, (toString amount).toList, stringChars address]
  match db.readAsset assetId with
  | none => .error ⟨.invalidParameter, "Asset tidak ditemukan"⟩
  | some info => do
    let balance := db.readBalance assetId address
    throwIf (decide (balance < amount)) .invalidParameter "Saldo tidak cukup untuk burn"
    let info := { info with totalSupply := wrap64 (info.totalSupply - amount) }
    let db := (db.writeBalance assetId address (wrap64 (balance - amount))).writeAsset info
    .ok (db, { opReturnHex := hexStr (asciiBytes "BURN".toList ++ uint256Bytes assetId)
               newSupply := info.totalSupply
               burned := amount
               symbol := info.symbol })

end GarudaChain
