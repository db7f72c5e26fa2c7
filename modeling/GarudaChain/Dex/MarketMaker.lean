import GarudaChain.Dex.Escrow

/-!
# The market maker

`CancelMMOrders`, `PlaceMMOrders`, `AutoAdjustMMPrice` and the RPC `setupmarketmaker` of `rpc/dex.cpp`.
-/

namespace GarudaChain

/-- `UniValue::getInt<int32_t>` on a JSON integer. -/
def getInt32 (value : Int) : RpcResult Int :=
  if -2147483648 ≤ value ∧ value < 2147483648 then .ok value
  else .error ⟨.miscError, "JSON integer out of range"⟩

theorem getInt32_eq_ok {value x : Int} (h : getInt32 value = .ok x) : x = value := by
  unfold getInt32 at h
  split_ifs at h
  exact (Except.ok.inj h).symm

/-- `SafeMulDiv`: the product is taken in 128 bits, the quotient is cast to 64. -/
def safeMulDiv (a b divisor : Int) : Int :=
  if divisor = 0 then 0 else wrap64 ((a * b).tdiv divisor)

theorem safeMulDiv_of_nonneg {a b divisor : Int} (h0 : 0 ≤ a * b) (hd : 0 < divisor)
    (hfit : a * b < 9223372036854775808 * divisor) : safeMulDiv a b divisor = a * b / divisor := by
  have hlo : 0 ≤ a * b / divisor := Int.ediv_nonneg h0 hd.le
  have hhi : a * b / divisor < 9223372036854775808 := Int.ediv_lt_of_lt_mul hd hfit
  rw [safeMulDiv, if_neg hd.ne', Int.tdiv_eq_ediv_of_nonneg h0]
  exact Int64Lib.wrap64_of_range (by omega) hhi

theorem safeMulDiv_nonpos {a b divisor : Int} (h0 : a * b ≤ 0) (hd : 0 < divisor)
    (hfit : -(a * b) < 9223372036854775808 * divisor) : safeMulDiv a b divisor ≤ 0 := by
  have hlo : 0 ≤ -(a * b) / divisor := Int.ediv_nonneg (by omega) hd.le
  have hhi : -(a * b) / divisor < 9223372036854775808 := Int.ediv_lt_of_lt_mul hd hfit
  have hquot : (a * b).tdiv divisor = -(-(a * b) / divisor) := by
    rw [← Int.tdiv_eq_ediv_of_nonneg (by omega), Int.neg_tdiv, neg_neg]
  rw [safeMulDiv, if_neg hd.ne', hquot, Int64Lib.wrap64_of_range (by omega) (by omega)]
  omega

def coinSat : Int := 100000000

/-- The order in which `GetOrderBook` lists orders: BUY before SELL, the best price first. -/
def orderBookBefore (a b : Order) : Bool :=
  if a.side ≠ b.side then a.side == .buy
  else if a.side = .buy then decide (a.price > b.price)
  else decide (a.price < b.price)

def openOrders (db : DexDB) (assetId : Uint256) (maxCount : Nat) : List Order :=
  (db.allOrders.filter fun o => o.assetId == assetId && o.status == .OPEN).take maxCount

def getOrderBook (env : DexEnv) (db : DexDB) (assetId : Uint256) (maxCount : Nat) : List Order :=
  env.sort orderBookBefore (openOrders db assetId maxCount)

def cancelMMOrders (env : DexEnv) (db : DexDB) (assetId : Uint256) (mmAddr : Bytes) : DexDB :=
  (getOrderBook env db assetId 500).foldl (fun db o =>
    if o.owner = mmAddr ∧ o.status = .OPEN then db.writeOrder { o with status := .CANCELLED }
    else db) db

def levelOffsetPpm (mm : MarketMaker) (i : Nat) : Int :=
  (wrap64 (wrap64 (mm.spreadBps * 50) * (1000 + i * 500))).tdiv 1000

def bidPrice (mm : MarketMaker) (i : Nat) : Int :=
  safeMulDiv mm.basePrice (1000000 - levelOffsetPpm mm i) 1000000

def askPrice (mm : MarketMaker) (i : Nat) : Int :=
  safeMulDiv mm.basePrice (1000000 + levelOffsetPpm mm i) 1000000

/-- The keys of the quotes of one level. -/
def levelQuotes (mm : MarketMaker) (mmStableBal now : Int) (i : Nat) : List OrderKey :=
  let amountSat := wrap64 (mm.orderSize * coinSat)
  if bidPrice mm i ≤ 0 then []
  else
    let bid : OrderKey :=
      ⟨mm.assetId, .buy, bidPrice mm i, amountSat, mm.mmAddress, wrap64 (now + i)⟩
    let ask : OrderKey :=
      ⟨mm.assetId, .sell, askPrice mm i, amountSat, mm.mmAddress, wrap64 (now + i + 1000)⟩
    if mmStableBal < mm.orderSize then [bid] else [bid, ask]

/-- The keys of the orders that `PlaceMMOrders` writes. -/
def mmQuotes (assetDb : AssetDB) (mm : MarketMaker) (now : Int) : List OrderKey :=
  let mmStableBal := assetDb.readBalance mm.assetId mm.mmAddress
  (List.range mm.numLevels.toNat).flatMap (levelQuotes mm mmStableBal now)

def placeMMOrders (env : DexEnv) (db : DexDB) (assetDb : AssetDB) (mm : MarketMaker) (now : Int) :
    DexDB :=
  (mmQuotes assetDb mm now).foldl (fun db key => db.writeOrder (key.order env.crypto)) db

/-- How far `AutoAdjustMMPrice` moves the price, in parts per million. -/
def priceChangePpm (mm : MarketMaker) (tradeAmountStable : Int) : Int :=
  let impactPpm := safeMulDiv tradeAmountStable 1000000 mm.orderSize
  (if impactPpm > 5000000 then 5000000 else impactPpm).tdiv 100

/-- The base price after a trade, at least one satoshi. -/
def adjustedPrice (mm : MarketMaker) (grdBought : Bool) (tradeAmountStable : Int) : Int :=
  let change := priceChangePpm mm tradeAmountStable
  let newPrice := if grdBought then safeMulDiv mm.basePrice (1000000 - change) 1000000
    else safeMulDiv mm.basePrice (1000000 + change) 1000000
  if newPrice < 1 then 1 else newPrice

def autoAdjustMMPrice (env : DexEnv) (dbs : Databases) (assetId : Uint256) (grdBought : Bool)
    (tradeAmountStable now : Int) : Databases :=
  match dbs.dexDb.readMarketMaker assetId with
  | none => dbs
  | some mm =>
    if !mm.active then dbs
    else
      let mm := { mm with
        basePrice := adjustedPrice mm grdBought tradeAmountStable
        timestamp := wrap64 now }
      let db := cancelMMOrders env dbs.dexDb assetId mm.mmAddress
      let db := db.writeMarketMaker mm
      { dbs with dexDb := placeMMOrders env db dbs.assetDb mm now }

def cancelOldMMOrders (env : DexEnv) (db : DexDB) (assetId : Uint256) : DexDB :=
  match db.readMarketMaker assetId with
  | some oldMm => cancelMMOrders env db assetId oldMm.mmAddress
  | none => db

/-- The parameters of `setupmarketmaker`. -/
structure SetupRequest where
  assetId : Uint256
  mmAddress : Bytes
  basePrice : Option Int
  spreadBps : Int
  orderSize : Int
  numLevels : Int
  pqcHex : Option (List Char)

/-- `setupmarketmaker` at a time in seconds, with the keys of the orders it places. -/
def setupmarketmaker (env : DexEnv) (dbs : Databases) (request : SetupRequest) (now : Int) :
    RpcResult (Databases × List OrderKey) := do
  throwIf (env.walletMode != .cbdc) .miscError "Hanya node CBDC yang boleh setup market maker."
  let basePrice ← amountFromValue request.basePrice
  let spreadBps ← getInt64 request.spreadBps
  let orderSize ← getInt64 request.orderSize
  let numLevels ← getInt32 request.numLevels
  throwIf (!env.isValidDestination request.mmAddress) .invalidAddressOrKey "mm_address tidak valid"
  throwIf (decide (basePrice ≤ 0)) .invalidParameter "base_price harus positif"
  throwIf (decide (spreadBps < 1 ∨ spreadBps > 10000)) .invalidParameter "spread_bps harus 1-10000"
  throwIf (decide (orderSize ≤ 0)) .invalidParameter "order_size harus positif"
  throwIf (decide (numLevels < 1 ∨ numLevels > 20)) .invalidParameter "num_levels harus 1-20"
  requireAuth env.toNodeEnv request.pqcHex "setupmarketmaker"
    [getHex request.assetId, stringChars request.mmAddress, (toString basePrice).toList,
      (toString spreadBps).toList, (toString orderSize).toList, (toString numLevels).toList]
  throwIf (dbs.assetDb.readAsset request.assetId).isNone .invalidParameter "Asset tidak ditemukan"
  let mm : MarketMaker :=
    { assetId := request.assetId
      mmAddress := request.mmAddress
      spreadBps := spreadBps
      orderSize := orderSize
      numLevels := numLevels
      basePrice := basePrice
      active := true
      timestamp := wrap64 now }
  let db := cancelOldMMOrders env dbs.dexDb request.assetId
  let db := db.writeMarketMaker mm
  .ok ({ dbs with dexDb := placeMMOrders env db dbs.assetDb mm now }, mmQuotes dbs.assetDb mm now)

inductive MMRequest
  | book (request : DexRequest)
  | setupmarketmaker (request : SetupRequest) (now : Int)
  | autoAdjustMMPrice (assetId : Uint256) (grdBought : Bool) (tradeAmountStable now : Int)

/-- A request that fails leaves everything as it is. -/
def mmStep (env : DexEnv) (s : DexRun) : MMRequest → DexRun
  | .book request => s.step env request
  | .setupmarketmaker request now =>
    match setupmarketmaker env s.dbs request now with
    | .ok (dbs, _) => { s with dbs := dbs }
    | .error _ => s
  | .autoAdjustMMPrice assetId grdBought tradeAmountStable now =>
    { s with dbs := autoAdjustMMPrice env s.dbs assetId grdBought tradeAmountStable now }

end GarudaChain
