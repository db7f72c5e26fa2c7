import GarudaChain.Dex.MarketSwap
import GarudaChain.Lib.WriteLog
import GarudaChain.Node.Issuance

/-!
# The transaction log of assets

`WriteAssetTx` of `assets/asset_db.cpp` and the entries that `transferasset`, `mintasset`, `burnasset`
and the two swaps of a stablecoin write when they succeed.
-/

namespace GarudaChain

/-- `AssetTxEntry`. -/
structure AssetTxEntry where
  assetId : Uint256
  action : String
  fromAddr : Bytes
  toAddr : Bytes
  amount : Int
  timestamp : Int
  txid : String
  deriving DecidableEq

namespace AssetTxEntry

/-- The key `WriteAssetTx` makes for an entry. -/
def key (entry : AssetTxEntry) : Uint256 × Int := (entry.assetId, entry.timestamp)

def keyBytes (key : Uint256 × Int) : Bytes := uint256Bytes key.1 ++ int64Bytes key.2

end AssetTxEntry

/-- The log: entries by asset and second. -/
abbrev AssetLog := Store (Uint256 × Int) AssetTxEntry

/-- `WriteAssetTx`: an entry that has the key already is replaced. -/
def AssetLog.writeAssetTx (log : AssetLog) (entry : AssetTxEntry) : AssetLog :=
  log.write (keyBefore AssetTxEntry.keyBytes) entry.key entry

/-- The number of entries of an asset. -/
def AssetLog.entriesOf (log : AssetLog) (assetId : Uint256) : Nat :=
  log.countIn Prod.fst assetId

inductive LogRequest
  | transferasset (assetId : Uint256) (amount : Int) (fromAddr toAddr : Bytes)
      (pqcHex : Option (List Char)) (now : Int)
  | mintasset (assetId : Uint256) (amount : Int) (pqcHex : Option (List Char)) (now : Int)
  | burnasset (assetId : Uint256) (amount : Int) (address : Bytes) (pqcHex : Option (List Char))
      (now : Int)
  | swapgrdtostable (assetId : Uint256) (buyer : Bytes) (grdAmount : Option Int)
      (now adjustedAt : Int)
  | swapstabletogrd (sendtoaddress : SendToAddress) (assetId : Uint256) (seller : Bytes)
      (stablecoinAmount : Int) (now adjustedAt : Int)
  | unlogged (call : Market → Market)

/-- The market with another database of assets. -/
def Market.withAssets (market : Market) (assetDb : AssetDB) : Market :=
  { market with dbs := { market.dbs with assetDb := assetDb } }

/-- The other party of a swap in the log. -/
def orderbookName : Bytes := asciiBytes "orderbook".toList

namespace LogRequest

def exec (env : DexEnv) (market : Market) : LogRequest → Market × Option AssetTxEntry
  | .transferasset assetId amount fromAddr toAddr pqcHex now =>
    match GarudaChain.transferasset env.toNodeEnv market.dbs.assetDb assetId amount fromAddr toAddr
        pqcHex with
    | .error _ => (market, none)
    | .ok (db, _) =>
      (market.withAssets db, some ⟨assetId, "transfer", fromAddr, toAddr, amount, now, ""⟩)
  | .mintasset assetId amount pqcHex now =>
    match market.dbs.assetDb.readAsset assetId,
        GarudaChain.mintasset env.toNodeEnv market.dbs.assetDb assetId amount pqcHex with
    | some info, .ok (db, _) =>
      (market.withAssets db, some ⟨assetId, "mint", [], info.creator, amount, now, ""⟩)
    | _, _ => (market, none)
  | .burnasset assetId amount address pqcHex now =>
    match GarudaChain.burnasset env.toNodeEnv market.dbs.assetDb assetId amount address pqcHex with
    | .error _ => (market, none)
    | .ok (db, _) => (market.withAssets db, some ⟨assetId, "burn", address, [], amount, now, ""⟩)
  | .swapgrdtostable assetId buyer grdAmount now adjustedAt =>
    match GarudaChain.swapgrdtostable env market assetId buyer grdAmount now adjustedAt with
    | (market, .error _) => (market, none)
    | (market, .ok result) =>
      (market, some ⟨assetId, "swap_grd_to_stable", buyer, orderbookName, result.stablecoinReceived,
        now, "market_buy"⟩)
  | .swapstabletogrd sendtoaddress assetId seller stablecoinAmount now adjustedAt =>
    match GarudaChain.swapstabletogrd env sendtoaddress market assetId seller stablecoinAmount now
        adjustedAt with
    | (market, .error _) => (market, none)
    | (market, .ok result) =>
      (market, some ⟨assetId, "swap_stable_to_grd", seller, orderbookName, result.stablecoinSold, now,
        result.txid⟩)
  | .unlogged call => (call market, none)

end LogRequest

structure LogRun where
  market : Market
  log : AssetLog
  written : List AssetTxEntry

def LogRun.write (s : LogRun) (market : Market) : Option AssetTxEntry → LogRun
  | none => { s with market := market }
  | some entry => ⟨market, s.log.writeAssetTx entry, s.written ++ [entry]⟩

def logStep (env : DexEnv) (s : LogRun) (request : LogRequest) : LogRun :=
  s.write (request.exec env s.market).1 (request.exec env s.market).2

def LogRun.AppendOnly (log : AssetLog) (s : LogRun) : Prop :=
  ∀ assetId, s.log.entriesOf assetId =
    log.entriesOf assetId + s.written.countP fun entry => entry.assetId = assetId

end GarudaChain
