import GarudaChain.Dex.OracleSync
import GarudaChain.Node.Miner

/-!
# State roots

`ComputeAssetStateRoot` of `assets/asset_db.cpp` and `ComputeDexStateRoot` of `dex/dex_db.cpp`, and the
output of the coinbase that commits to both.
-/

namespace GarudaChain

/-- A `std::string`: every character is a byte. -/
def IsByteString (s : String) : Prop := ∀ c ∈ s.toList, c.toNat < 256

/-- The value of an `int64_t`. -/
def IsInt64 (x : Int) : Prop := -9223372036854775808 ≤ x ∧ x < 9223372036854775808

instance (s : String) : Decidable (IsByteString s) :=
  List.decidableBAll (fun c : Char => c.toNat < 256) s.toList

instance (x : Int) : Decidable (IsInt64 x) := inferInstanceAs (Decidable (_ ∧ _))

/-- The databases that the state roots read, with values of the types of the source, each under its own
    key. -/
structure StateDatabases where
  assetDb : AssetDB
  rates : Store String PegRate
  marketMakers : Store Uint256 MarketMaker
  assets_typed : ∀ e ∈ assetDb.assets.entries, IsByteString e.2.symbol ∧ IsInt64 e.2.totalSupply
  rates_typed : ∀ e ∈ rates.entries,
    e.2.symbol = e.1 ∧ IsByteString e.1 ∧ IsInt64 e.2.grdPerUnit ∧ IsInt64 e.2.timestamp
  marketMakers_typed : ∀ e ∈ marketMakers.entries, e.2.assetId = e.1 ∧ IsInt64 e.2.basePrice

def symbolBytes (symbol : String) : Bytes := asciiBytes symbol.toList

/-- What is hashed of an asset. -/
def assetRecord (asset : AssetInfo) : Bytes :=
  uint256Bytes asset.assetId ++ symbolBytes asset.symbol ++ int64Bytes asset.totalSupply

/-- What is hashed of a rate. -/
def rateRecord (rate : PegRate) : Bytes :=
  symbolBytes rate.symbol ++ int64Bytes rate.grdPerUnit ++ int64Bytes rate.timestamp

/-- What is hashed of a market maker. -/
def marketMakerRecord (mm : MarketMaker) : Bytes := uint256Bytes mm.assetId ++ int64Bytes mm.basePrice

namespace StateDatabases

variable (s : StateDatabases)

def listOraclePegRates (maxCount : Nat) : List PegRate := (s.rates.entries.map Prod.snd).take maxCount

def listMarketMakers (maxCount : Nat) : List MarketMaker :=
  (s.marketMakers.entries.map Prod.snd).take maxCount

/-- `std::sort` by id and by symbol; no two are the same. -/
def sortedAssets : List AssetInfo :=
  (s.assetDb.listAssets 1000).insertionSort fun a b =>
    keyBefore uint256Bytes b.assetId a.assetId = false

def sortedRates : List PegRate :=
  (s.listOraclePegRates 500).insertionSort fun a b =>
    keyBefore symbolBytes b.symbol a.symbol = false

/-- The bytes that `ComputeAssetStateRoot` hashes. -/
def assetText : Bytes := s.sortedAssets.flatMap assetRecord

/-- The bytes that `ComputeDexStateRoot` hashes. -/
def dexText : Bytes :=
  s.sortedRates.flatMap rateRecord ++ (s.listMarketMakers 500).flatMap marketMakerRecord

def computeAssetStateRoot (crypto : Crypto) : Uint256 := uint256OfBytes (crypto.sha256 s.assetText)

def computeDexStateRoot (crypto : Crypto) : Uint256 := uint256OfBytes (crypto.sha256 s.dexText)

def commitment (crypto : Crypto) (host : Host) : Bytes :=
  stateScript { host with
    dexStateRoot := s.computeDexStateRoot crypto
    assetStateRoot := s.computeAssetStateRoot crypto }

end StateDatabases

end GarudaChain
