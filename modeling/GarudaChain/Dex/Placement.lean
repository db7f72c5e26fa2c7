import GarudaChain.Dex.MarketMaker

/-!
# Placing orders

Everything that writes a new order: the RPCs `placeorder`, `setupmarketmaker` and `refreshmarketmaker`
of `rpc/dex.cpp` and the quotes that `AutoAdjustMMPrice` places after a swap.
-/

namespace GarudaChain

/-- The two balances that `refreshmarketmaker` writes for a trade of the market maker. -/
def moveStable (db : AssetDB) (assetId : Uint256) (mmAddress other : Bytes) (mmChange : Int) :
    AssetDB :=
  let mmBal := db.readBalance assetId mmAddress
  let otherBal := db.readBalance assetId other
  let db := db.writeBalance assetId mmAddress (wrap64 (mmBal + mmChange))
  db.writeBalance assetId other (wrap64 (otherBal - mmChange))

/-- What `refreshmarketmaker` does for a trade of the market maker. -/
def settleMMTrade (mmAddress : Bytes) (assetId : Uint256) (dbs : Databases) (t : TradeResult) :
    Databases :=
  match dbs.dexDb.readOrder t.buyOrderId, dbs.dexDb.readOrder t.sellOrderId with
  | some buy, some sell =>
    let units := t.amount.tdiv coinSat
    let db := if sell.owner = mmAddress then
        moveStable dbs.assetDb assetId mmAddress buy.owner (-units)
      else dbs.assetDb
    let db := if buy.owner = mmAddress then moveStable db assetId mmAddress sell.owner units else db
    { dbs with assetDb := db }
  | _, _ => dbs

/-- The parameters of `refreshmarketmaker`; the new price may be left out. -/
structure RefreshRequest where
  assetId : Uint256
  newBasePrice : Option (Option Int)
  pqcHex : Option (List Char)

/-- The base price of a market maker after `refreshmarketmaker`. -/
def refreshedPrice (mm : MarketMaker) (newBasePrice : Option (Option Int)) : RpcResult Int :=
  match newBasePrice with
  | none => .ok mm.basePrice
  | some price => amountFromValue price

/-- `refreshmarketmaker` at a time in seconds, with the keys of the orders it places. -/
def refreshmarketmaker (env : DexEnv) (dbs : Databases) (request : RefreshRequest)
    (clock : Nat → Int) (now : Int) : RpcResult (Databases × List OrderKey) := do
  requireAuth env.toNodeEnv request.pqcHex "refreshmarketmaker" [getHex request.assetId]
  match dbs.dexDb.readMarketMaker request.assetId with
  | none => .error ⟨.invalidParameter, "Market maker belum disetup"⟩
  | some mm => do
    let basePrice ← refreshedPrice mm request.newBasePrice
    let db := cancelMMOrders env dbs.dexDb request.assetId mm.mmAddress
    let (dbs, trades) := matchOrders env { dbs with dexDb := db } request.assetId clock
    let dbs := trades.foldl (settleMMTrade mm.mmAddress request.assetId) dbs
    let mm := { mm with basePrice := basePrice, timestamp := wrap64 now }
    let db := dbs.dexDb.writeMarketMaker mm
    .ok ({ dbs with dexDb := placeMMOrders env db dbs.assetDb mm now }, mmQuotes dbs.assetDb mm now)

/-- The keys of the orders that `AutoAdjustMMPrice` places. -/
def adjustQuotes (dbs : Databases) (assetId : Uint256) (grdBought : Bool)
    (tradeAmountStable now : Int) : List OrderKey :=
  match dbs.dexDb.readMarketMaker assetId with
  | none => []
  | some mm =>
    if !mm.active then []
    else mmQuotes dbs.assetDb { mm with
      basePrice := adjustedPrice mm grdBought tradeAmountStable
      timestamp := wrap64 now } now

inductive PlacementRequest
  | placeorder (assetId : Uint256) (sideStr : String) (amount : Int) (price : Option Int)
      (address : Bytes) (now : Int)
  | setupmarketmaker (request : SetupRequest) (now : Int)
  | refreshmarketmaker (request : RefreshRequest) (clock : Nat → Int) (now : Int)
  | autoAdjustMMPrice (assetId : Uint256) (grdBought : Bool) (tradeAmountStable now : Int)
  | elsewhere (update : Order → Order) (dbs : Databases)

/-- Any change that writes no new order: `update` changes the orders there under their ids. -/
def Databases.changed (dbs : Databases) (update : Order → Order) (dbs' : Databases) : Databases :=
  { dbs' with dexDb := { dbs'.dexDb with
      orders := dbs.dexDb.orders.mapValues fun o => { update o with orderId := o.orderId } } }

structure PlacementRun where
  dbs : Databases
  placed : List OrderKey

namespace PlacementRun

def exec (env : DexEnv) (s : PlacementRun) : PlacementRequest → RpcResult (Databases × List OrderKey)
  | .placeorder assetId sideStr amount price address now => do
    let (dbs, key) ← GarudaChain.placeorder env s.dbs assetId sideStr amount price address now
    .ok (dbs, [key])
  | .setupmarketmaker request now => GarudaChain.setupmarketmaker env s.dbs request now
  | .refreshmarketmaker request clock now =>
    GarudaChain.refreshmarketmaker env s.dbs request clock now
  | .autoAdjustMMPrice assetId grdBought tradeAmountStable now =>
    .ok (GarudaChain.autoAdjustMMPrice env s.dbs assetId grdBought tradeAmountStable now,
      adjustQuotes s.dbs assetId grdBought tradeAmountStable now)
  | .elsewhere update dbs => .ok (s.dbs.changed update dbs, [])

/-- A request that fails leaves everything as it is. -/
def step (env : DexEnv) (s : PlacementRun) (request : PlacementRequest) : PlacementRun :=
  match s.exec env request with
  | .ok (dbs, keys) => ⟨dbs, s.placed ++ keys⟩
  | .error _ => s

/-- A run starts with an order book without orders. -/
def start (assetDb : AssetDB) (grdBalances : Store Bytes Int)
    (marketMakers : Store Uint256 MarketMaker) (oraclePegRates : Store String OraclePegRate) :
    PlacementRun where
  dbs := ⟨assetDb, ⟨.empty, grdBalances, marketMakers, oraclePegRates⟩⟩
  placed := []

end PlacementRun

def WritesFresh (crypto : Crypto) (db : DexDB) : List OrderKey → Prop
  | [] => True
  | key :: keys => db.readOrder (computeOrderId crypto key) = none ∧
      WritesFresh crypto (db.writeOrder (key.order crypto)) keys

instance WritesFresh.decidable (crypto : Crypto) :
    (db : DexDB) → (keys : List OrderKey) → Decidable (WritesFresh crypto db keys)
  | _, [] => .isTrue trivial
  | db, key :: keys => @instDecidableAnd _ _ _
      (WritesFresh.decidable crypto (db.writeOrder (key.order crypto)) keys)

/-- A request that succeeds writes each of its orders under an id that was not there before it. -/
def PlacesFresh (env : DexEnv) (s : PlacementRun) (request : PlacementRequest) : Prop :=
  match s.exec env request with
  | .ok (_, keys) => WritesFresh env.crypto s.dbs.dexDb keys
  | .error _ => True

end GarudaChain
