import GarudaChain.Lib.Run
import GarudaChain.Node.Assets

/-!
# The limit order book

`dex/dex_db.cpp` and the RPCs `placeorder`, `cancelorder`, `matchorders`, `depositgrd` and `withdrawgrd`
of `rpc/dex.cpp`.
-/

namespace GarudaChain

inductive OrderSide
  | buy
  | sell
  deriving DecidableEq, Repr

inductive OrderStatus
  | OPEN
  | FILLED
  | CANCELLED
  | PARTIAL
  deriving DecidableEq, Repr

structure Order where
  orderId : Uint256
  assetId : Uint256
  side : OrderSide
  amount : Int
  filled : Int
  price : Int
  owner : Bytes
  timestamp : Int
  status : OrderStatus
  deriving DecidableEq

/-- An order that can still be matched or cancelled. -/
def Order.active (o : Order) : Bool := o.status == .OPEN || o.status == .PARTIAL

structure TradeResult where
  tradeId : Uint256
  buyOrderId : Uint256
  sellOrderId : Uint256
  assetId : Uint256
  amount : Int
  price : Int
  timestamp : Int
  deriving DecidableEq

structure MarketMaker where
  assetId : Uint256
  mmAddress : Bytes
  spreadBps : Int
  orderSize : Int
  numLevels : Int
  basePrice : Int
  active : Bool
  timestamp : Int
  deriving DecidableEq

/-- `OraclePegRate`, the field the swaps read. -/
structure OraclePegRate where
  grdPerUnit : Int
  deriving DecidableEq

/-- What `ComputeOrderId` hashes of an order. -/
structure OrderKey where
  assetId : Uint256
  side : OrderSide
  price : Int
  amount : Int
  owner : Bytes
  timestamp : Int
  deriving DecidableEq

def OrderSide.byte : OrderSide → UInt8
  | .buy => 0
  | .sell => 1

def OrderKey.bytes (key : OrderKey) : Bytes :=
  uint256Bytes key.assetId ++ [key.side.byte] ++ int64Bytes key.price ++ int64Bytes key.amount ++
    key.owner ++ int64Bytes key.timestamp

def computeOrderId (crypto : Crypto) (key : OrderKey) : Uint256 :=
  uint256OfBytes (crypto.sha256 key.bytes)

/-- A new order with this key. -/
def OrderKey.order (crypto : Crypto) (key : OrderKey) : Order where
  orderId := computeOrderId crypto key
  assetId := key.assetId
  side := key.side
  amount := key.amount
  filled := 0
  price := key.price
  owner := key.owner
  timestamp := key.timestamp
  status := .OPEN

structure DexDB where
  orders : Store Uint256 Order
  grdBalances : Store Bytes Int
  marketMakers : Store Uint256 MarketMaker
  oraclePegRates : Store String OraclePegRate

namespace DexDB

variable (db : DexDB)

def readOrder (orderId : Uint256) : Option Order := db.orders.read orderId

def writeOrder (order : Order) : DexDB :=
  { db with orders := db.orders.write (keyBefore uint256Bytes) order.orderId order }

/-- The orders in the order of their keys. -/
def allOrders : List Order := db.orders.entries.map Prod.snd

def readGrdBalance (address : Bytes) : Int := (db.grdBalances.read address).getD 0

def writeGrdBalance (address : Bytes) (balance : Int) : DexDB :=
  { db with grdBalances := db.grdBalances.write (keyBefore serializeBytes) address balance }

def readMarketMaker (assetId : Uint256) : Option MarketMaker := db.marketMakers.read assetId

def writeMarketMaker (mm : MarketMaker) : DexDB :=
  { db with marketMakers := db.marketMakers.write (keyBefore uint256Bytes) mm.assetId mm }

def readOraclePegRate (symbol : String) : Option OraclePegRate := db.oraclePegRates.read symbol

end DexDB

/-- The databases the RPCs work on. -/
structure Databases where
  assetDb : AssetDB
  dexDb : DexDB

namespace Databases

variable (dbs : Databases)

def creditAsset (assetId : Uint256) (address : Bytes) (amount : Int) : Databases :=
  let balance := dbs.assetDb.readBalance assetId address
  { dbs with assetDb := dbs.assetDb.writeBalance assetId address (wrap64 (balance + amount)) }

def creditGrd (address : Bytes) (amount : Int) : Databases :=
  let balance := dbs.dexDb.readGrdBalance address
  { dbs with dexDb := dbs.dexDb.writeGrdBalance address (wrap64 (balance + amount)) }

def writeOrder (order : Order) : Databases := { dbs with dexDb := dbs.dexDb.writeOrder order }

end Databases

structure DexEnv extends NodeEnv where
  sort : (Order → Order → Bool) → List Order → List Order
  sort_perm : ∀ before orders, (sort before orders).Perm orders

/-- The orders of the loop of `MatchOrders` from the current ones on, and what the loop has done. -/
structure MatchState where
  buys : List Order
  sells : List Order
  dbs : Databases
  trades : List TradeResult

/-- The current order after a trade. -/
def Order.fill (o : Order) (tradeAmount : Int) : Order :=
  let filled := wrap64 (o.filled + tradeAmount)
  { o with filled := filled, status := if filled ≥ o.amount then .FILLED else .PARTIAL }

def Order.remaining (o : Order) : Int := wrap64 (o.amount - o.filled)

/-- The payments of a trade: units to the buyer, GRD at the seller's price to the seller, the rest
    back to the buyer. -/
def settle (dbs : Databases) (assetId : Uint256) (buy sell : Order) (tradeAmount : Int) :
    Databases :=
  let grdTotalSat := wrap64 (tradeAmount * sell.price)
  let dbs := dbs.creditAsset assetId buy.owner tradeAmount
  let dbs := dbs.creditGrd sell.owner grdTotalSat
  let diff := wrap64 (buy.price - sell.price)
  if diff > 0 then dbs.creditGrd buy.owner (wrap64 (tradeAmount * diff)) else dbs

def tradeResult (crypto : Crypto) (assetId : Uint256) (buy sell : Order) (tradeAmount now : Int) :
    TradeResult where
  tradeId := uint256OfBytes (crypto.sha256
    (uint256Bytes buy.orderId ++ uint256Bytes sell.orderId ++ int64Bytes now))
  buyOrderId := buy.orderId
  sellOrderId := sell.orderId
  assetId := assetId
  amount := tradeAmount
  price := sell.price
  timestamp := now

def advance (o : Order) (rest : List Order) : List Order :=
  if o.filled ≥ o.amount then rest else o :: rest

/-- One round of the loop of `MatchOrders`. -/
def matchStep (crypto : Crypto) (assetId : Uint256) (clock : Nat → Int) (m : MatchState) :
    Option MatchState :=
  match m.buys, m.sells with
  | buy :: buys, sell :: sells =>
    if buy.price < sell.price then none
    else
      let tradeAmount := min buy.remaining sell.remaining
      if tradeAmount ≤ 0 ∧ buy.remaining ≤ 0 then some { m with buys := buys }
      else if tradeAmount ≤ 0 ∧ sell.remaining ≤ 0 then some { m with sells := sells }
      else
        let dbs := settle m.dbs assetId buy sell tradeAmount
        let buy := buy.fill tradeAmount
        let sell := sell.fill tradeAmount
        some
          { buys := advance buy buys
            sells := advance sell sells
            dbs := (dbs.writeOrder buy).writeOrder sell
            trades := m.trades ++
              [tradeResult crypto assetId buy sell tradeAmount (clock m.trades.length)] }
  | _, _ => none

/-- The active orders of one side for an asset. -/
def activeOrders (db : DexDB) (assetId : Uint256) (side : OrderSide) : List Order :=
  db.allOrders.filter fun o => o.assetId == assetId && o.active && o.side == side

/-- The state in which the loop of `MatchOrders` starts. -/
def matchStart (env : DexEnv) (dbs : Databases) (assetId : Uint256) : MatchState where
  buys := env.sort (fun a b => decide (a.price > b.price)) (activeOrders dbs.dexDb assetId .buy)
  sells := env.sort (fun a b => decide (a.price < b.price)) (activeOrders dbs.dexDb assetId .sell)
  dbs := dbs
  trades := []

/-- The loop of `MatchOrders`. Each round passes an order, so there are no more rounds than orders. -/
def matchLoop (env : DexEnv) (dbs : Databases) (assetId : Uint256) (clock : Nat → Int) : MatchState :=
  let m := matchStart env dbs assetId
  Run.loop (matchStep env.crypto assetId clock) (m.buys.length + m.sells.length) m

def matchOrders (env : DexEnv) (dbs : Databases) (assetId : Uint256) (clock : Nat → Int) :
    Databases × List TradeResult :=
  let m := matchLoop env dbs assetId clock
  (m.dbs, m.trades)

/-- The side a request names. -/
def parseSide (sideStr : String) : RpcResult OrderSide :=
  if sideStr = "BUY" ∨ sideStr = "buy" then .ok .buy
  else if sideStr = "SELL" ∨ sideStr = "sell" then .ok .sell
  else .error ⟨.invalidParameter, "side harus BUY atau SELL"⟩

/-- Hold back the value of a new order. -/
def escrow (dbs : Databases) (assetId : Uint256) (side : OrderSide) (amount price : Int)
    (address : Bytes) : RpcResult Databases :=
  match side with
  | .sell => do
    let balance := dbs.assetDb.readBalance assetId address
    throwIf (decide (balance < amount)) .invalidParameter
      "Saldo asset tidak cukup untuk SELL order"
    .ok { dbs with assetDb := dbs.assetDb.writeBalance assetId address (wrap64 (balance - amount)) }
  | .buy => do
    let grdNeeded := wrap64 (amount * price)
    throwIf (decide (grdNeeded ≤ 0)) .invalidParameter "amount*price overflow/invalid"
    let grdBal := dbs.dexDb.readGrdBalance address
    throwIf (decide (grdBal < grdNeeded)) .invalidParameter
      "Virtual GRD tidak cukup untuk BUY order. Gunakan depositgrd dulu."
    .ok { dbs with dexDb := dbs.dexDb.writeGrdBalance address (wrap64 (grdBal - grdNeeded)) }

/-- `placeorder` at a time in seconds, with the key of the order it places. -/
def placeorder (env : DexEnv) (dbs : Databases) (assetId : Uint256) (sideStr : String) (amount : Int)
    (price : Option Int) (address : Bytes) (now : Int) : RpcResult (Databases × OrderKey) := do
  let amount ← getInt64 amount
  let price ← amountFromValue price
  let side ← parseSide sideStr
  throwIf (decide (amount ≤ 0)) .invalidParameter "amount harus positif"
  throwIf (decide (price ≤ 0)) .invalidParameter "price harus positif"
  throwIf (!env.isValidDestination address) .invalidAddressOrKey "address tidak valid"
  throwIf (dbs.assetDb.readAsset assetId).isNone .invalidParameter "Asset tidak ditemukan"
  let dbs ← escrow dbs assetId side amount price address
  let key : OrderKey := ⟨assetId, side, price, amount, address, wrap64 now⟩
  .ok (dbs.writeOrder (key.order env.crypto), key)

/-- Give back what an order still holds. -/
def refund (dbs : Databases) (order : Order) : Databases :=
  if order.remaining > 0 then
    match order.side with
    | .sell => dbs.creditAsset order.assetId order.owner order.remaining
    | .buy => dbs.creditGrd order.owner (wrap64 (order.remaining * order.price))
  else dbs

/-- `cancelorder`, with the units it gives back. -/
def cancelorder (dbs : Databases) (orderId : Uint256) (address : Bytes) :
    RpcResult (Databases × Int) :=
  match dbs.dexDb.readOrder orderId with
  | none => .error ⟨.invalidParameter, "Order tidak ditemukan"⟩
  | some order => do
    throwIf (order.owner != address) .invalidParameter "Alamat tidak cocok dengan pemilik order"
    throwIf (!order.active) .invalidParameter "Order sudah tidak aktif"
    .ok ((refund dbs order).writeOrder { order with status := .CANCELLED }, order.remaining)

def matchorders (env : DexEnv) (dbs : Databases) (assetId : Uint256) (clock : Nat → Int) :
    RpcResult (Databases × List TradeResult) := do
  throwIf (dbs.assetDb.readAsset assetId).isNone .invalidParameter "Asset tidak ditemukan"
  .ok (matchOrders env dbs assetId clock)

/-- `depositgrd`, with the new balance. -/
def depositgrd (env : DexEnv) (dbs : Databases) (address : Bytes) (amount : Option Int)
    (pqcHex : Option (List Char)) : RpcResult (Databases × Int) := do
  throwIf (env.walletMode != .cbdc) .miscError
    "Hanya node CBDC yang boleh depositgrd. Tambahkan walletmode=cbdc."
  let amount ← amountFromValue amount
  throwIf (decide (amount ≤ 0)) .invalidParameter "amount harus positif"
  throwIf (!env.isValidDestination address) .invalidAddressOrKey "address tidak valid"
  requireAuth env.toNodeEnv pqcHex "depositgrd" [stringChars address, (toString amount).toList]
  let newBalance := wrap64 (dbs.dexDb.readGrdBalance address + amount)
  .ok ({ dbs with dexDb := dbs.dexDb.writeGrdBalance address newBalance }, newBalance)

/-- `withdrawgrd`, with the new balance. -/
def withdrawgrd (env : DexEnv) (dbs : Databases) (address : Bytes) (amount : Option Int)
    (pqcHex : Option (List Char)) : RpcResult (Databases × Int) := do
  throwIf (env.walletMode != .cbdc) .miscError "Hanya node CBDC yang boleh withdrawgrd."
  let amount ← amountFromValue amount
  throwIf (decide (amount ≤ 0)) .invalidParameter "amount harus positif"
  requireAuth env.toNodeEnv pqcHex "withdrawgrd" [stringChars address, (toString amount).toList]
  let balance := dbs.dexDb.readGrdBalance address
  throwIf (decide (balance < amount)) .invalidParameter "Saldo virtual GRD tidak cukup"
  let newBalance := wrap64 (balance - amount)
  .ok ({ dbs with dexDb := dbs.dexDb.writeGrdBalance address newBalance }, newBalance)

end GarudaChain
