import GarudaChain.Dex.Placement

/-!
# Swaps against the order book

The RPCs `swapgrdtostable`, `swapstabletogrd` and `swapasset` of `rpc/dex.cpp`.
-/

namespace GarudaChain

/-- The databases with the record of trades. -/
structure Market where
  dbs : Databases
  trades : Store Uint256 TradeResult

namespace Market

variable (market : Market)

def writeOrder (order : Order) : Market := { market with dbs := market.dbs.writeOrder order }

def writeTrade (trade : TradeResult) : Market :=
  { market with trades := market.trades.write (keyBefore uint256Bytes) trade.tradeId trade }

def writeBalance (assetId : Uint256) (address : Bytes) (balance : Int) : Market :=
  let assetDb := market.dbs.assetDb.writeBalance assetId address balance
  { market with dbs := { market.dbs with assetDb := assetDb } }

def autoAdjustMMPrice (env : DexEnv) (assetId : Uint256) (grdBought : Bool)
    (tradeAmountStable now : Int) : Market :=
  { market with
    dbs := GarudaChain.autoAdjustMMPrice env market.dbs assetId grdBought tradeAmountStable now }

end Market

def marketOrders (env : DexEnv) (db : DexDB) (assetId : Uint256) (side : OrderSide) : List Order :=
  let orders := (getOrderBook env db assetId 500).filter fun o => o.side == side && o.status == .OPEN
  match side with
  | .sell => env.sort (fun a b => decide (a.price < b.price)) orders
  | .buy => env.sort (fun a b => decide (a.price > b.price)) orders

/-- A fill of an order, with the whole units that are moved for it and the GRD they cost or earn. -/
structure Fill where
  order : Order
  fillSat : Int
  units : Int
  grd : Int
  deriving DecidableEq

/-- What a round of the loop does with an order: `break`, `continue` or a fill. -/
inductive Round
  | stop
  | skip
  | fill (fillSat units grd : Int)

structure SwapState where
  market : Market
  remaining : Int
  received : Int
  fills : List Fill

/-- One of the loops: the fill of an order for what remains to be spent, the balances and the trade
    it writes, and what a fill costs and gives. -/
structure SwapLoop where
  round : Int → Order → Round
  move : AssetDB → Fill → AssetDB
  trade : Fill → TradeResult
  spent : Fill → Int
  got : Fill → Int

namespace SwapLoop

variable (loop : SwapLoop)

def take (s : SwapState) (fill : Fill) : SwapState :=
  let market := s.market.writeOrder (fill.order.fill fill.fillSat)
  let market := { market with dbs :=
    { market.dbs with assetDb := loop.move market.dbs.assetDb fill } }
  { market := market.writeTrade (loop.trade fill)
    remaining := wrap64 (s.remaining - loop.spent fill)
    received := wrap64 (s.received + loop.got fill)
    fills := s.fills ++ [fill] }

def body (s : SwapState) (order : Order) : Option SwapState :=
  match loop.round s.remaining order with
  | .stop => none
  | .skip => some s
  | .fill fillSat units grd => some (loop.take s ⟨order, fillSat, units, grd⟩)

def run (market : Market) (budget : Int) (orders : List Order) : SwapState :=
  Run.each loop.body orders ⟨market, budget, 0, []⟩

end SwapLoop

/-- The record of a fill. A swap has no order of its own: the side of the caller is zero. -/
def fillTrade (crypto : Crypto) (assetId : Uint256) (side : OrderSide) (hashed now : Int)
    (fill : Fill) : TradeResult where
  tradeId := uint256OfBytes (crypto.sha256 (uint256Bytes fill.order.orderId ++ int64Bytes hashed))
  buyOrderId := if side = .buy then fill.order.orderId else 0
  sellOrderId := if side = .sell then fill.order.orderId else 0
  assetId := assetId
  amount := fill.fillSat
  price := fill.order.price
  timestamp := now

/-- The units moved for a fill of an ask, at least one. -/
def stableUnits (fillStableSat : Int) : Int :=
  let units := fillStableSat.tdiv coinSat
  if units ≤ 0 then 1 else units

def grdToStableRound (grdRemaining : Int) (ask : Order) : Round :=
  if grdRemaining ≤ 0 then .stop
  else
    let askRemainingSat := ask.remaining
    let cost := safeMulDiv askRemainingSat ask.price coinSat
    if cost ≤ grdRemaining then .fill askRemainingSat (stableUnits askRemainingSat) cost
    else
      let fillStableSat := safeMulDiv grdRemaining coinSat ask.price
      if fillStableSat ≤ 0 then .stop
      else .fill fillStableSat (stableUnits fillStableSat)
        (safeMulDiv fillStableSat ask.price coinSat)

/-- The loop of `swapgrdtostable`: the units go from the seller to the buyer, GRD is only counted. -/
def grdToStableLoop (crypto : Crypto) (assetId : Uint256) (buyer : Bytes) (now : Int) : SwapLoop where
  round := grdToStableRound
  move db fill := moveStable db assetId fill.order.owner buyer (-fill.units)
  trade := fillTrade crypto assetId .sell now now
  spent := Fill.grd
  got := Fill.units

/-- The checks of `swapgrdtostable`, with the budget and the asks it goes on with. -/
def grdToStableChecks (env : DexEnv) (dbs : Databases) (assetId : Uint256) (buyer : Bytes)
    (grdAmount : Option Int) : RpcResult (Int × List Order) := do
  let grdBudget ← amountFromValue grdAmount
  throwIf (decide (grdBudget ≤ 0)) .invalidParameter "grd_amount harus positif"
  throwIf (!env.isValidDestination buyer) .invalidAddressOrKey "buyer_address tidak valid"
  throwIf (dbs.assetDb.readAsset assetId).isNone .invalidParameter "Asset tidak ditemukan"
  let asks := marketOrders env dbs.dexDb assetId .sell
  throwIf asks.isEmpty .invalidParameter "Tidak ada ASK order di orderbook"
  .ok (grdBudget, asks)

structure GrdToStableResult where
  grdSpent : Int
  stablecoinReceived : Int
  avgPrice : Int
  fills : List Fill
  deriving DecidableEq

/-- `swapgrdtostable` at a time in seconds, with the time at which the quotes of the market maker are
    renewed. -/
def swapgrdtostable (env : DexEnv) (market : Market) (assetId : Uint256) (buyer : Bytes)
    (grdAmount : Option Int) (now adjustedAt : Int) : Market × RpcResult GrdToStableResult :=
  match grdToStableChecks env market.dbs assetId buyer grdAmount with
  | .error err => (market, .error err)
  | .ok (grdBudget, asks) =>
    let s := (grdToStableLoop env.crypto assetId buyer now).run market grdBudget asks
    if s.received ≤ 0 then
      (s.market, .error ⟨.invalidParameter, "Tidak bisa match order. Budget GRD terlalu kecil."⟩)
    else
      let grdSpent := wrap64 (grdBudget - s.remaining)
      (s.market.autoAdjustMMPrice env assetId false s.received adjustedAt,
        .ok { grdSpent := grdSpent
              stablecoinReceived := s.received
              avgPrice := safeMulDiv grdSpent coinSat s.received
              fills := s.fills })

def sellRound (stableRemaining : Int) (bid : Order) : Round :=
  if stableRemaining ≤ 0 then .stop
  else
    let fillUnits := min stableRemaining (bid.remaining.tdiv coinSat)
    if fillUnits ≤ 0 then .skip
    else
      let fillSat := wrap64 (fillUnits * coinSat)
      .fill fillSat fillUnits (safeMulDiv fillSat bid.price coinSat)

/-- The loop over the bids in `swapstabletogrd` and in the first step of `swapasset`. -/
def sellLoop (crypto : Crypto) (assetId : Uint256) (now : Int) : SwapLoop where
  round := sellRound
  move db fill := db.writeBalance assetId fill.order.owner
    (wrap64 (db.readBalance assetId fill.order.owner + fill.units))
  trade := fillTrade crypto assetId .buy now now
  spent := Fill.units
  got := Fill.grd

/-- What a sale goes on with once its checks are passed: what is to be sold, the balance of the
    seller and the bids. -/
structure Sale where
  amount : Int
  balance : Int
  bids : List Order

/-- The checks of `swapstabletogrd`. -/
def stableToGrdChecks (env : DexEnv) (dbs : Databases) (assetId : Uint256) (seller : Bytes)
    (stablecoinAmount : Int) : RpcResult Sale := do
  let stableToSell ← getInt64 stablecoinAmount
  throwIf (decide (stableToSell ≤ 0)) .invalidParameter "stablecoin_amount harus positif"
  throwIf (!env.isValidDestination seller) .invalidAddressOrKey "seller_address tidak valid"
  throwIf (dbs.assetDb.readAsset assetId).isNone .invalidParameter "Asset tidak ditemukan"
  let sellerStable := dbs.assetDb.readBalance assetId seller
  throwIf (decide (sellerStable < stableToSell)) .invalidParameter
    ("Saldo stablecoin tidak cukup (punya: " ++ toString sellerStable ++ ", butuh: " ++
      toString stableToSell ++ ")")
  let bids := marketOrders env dbs.dexDb assetId .buy
  throwIf bids.isEmpty .invalidParameter "Tidak ada BID order di orderbook"
  .ok ⟨stableToSell, sellerStable, bids⟩

structure StableToGrdResult where
  stablecoinSold : Int
  grdReceived : Int
  fills : List Fill
  txid : String
  deriving DecidableEq

/-- The wallet's `sendtoaddress`: the id of the transaction, or the message of its error. -/
abbrev SendToAddress := Bytes → Int → Except String String

/-- Send the GRD a sale has earned, if any. -/
def sendGrd (sendtoaddress : SendToAddress) (seller : Bytes) (grd : Int) : RpcResult String :=
  if grd > 0 then
    match sendtoaddress seller grd with
    | .ok txid => .ok txid
    | .error message => .error ⟨.walletError, "Gagal kirim GRD: " ++ message⟩
  else .ok "pending"

def swapstabletogrd (env : DexEnv) (sendtoaddress : SendToAddress) (market : Market)
    (assetId : Uint256) (seller : Bytes) (stablecoinAmount : Int) (now adjustedAt : Int) :
    Market × RpcResult StableToGrdResult :=
  match stableToGrdChecks env market.dbs assetId seller stablecoinAmount with
  | .error err => (market, .error err)
  | .ok sale =>
    let s := (sellLoop env.crypto assetId now).run market sale.amount sale.bids
    let sold := wrap64 (sale.amount - s.remaining)
    if sold ≤ 0 then
      (s.market, .error ⟨.invalidParameter, "Tidak bisa match order. Tidak ada BID."⟩)
    else
      let market := s.market.writeBalance assetId seller (wrap64 (sale.balance - sold))
      match sendGrd sendtoaddress seller s.received with
      | .error err => (market, .error err)
      | .ok txid =>
        (market.autoAdjustMMPrice env assetId true sold adjustedAt,
          .ok { stablecoinSold := sold, grdReceived := s.received, fills := s.fills, txid := txid })

/-- The market maker of an asset, if it is active. -/
def activeMarketMaker (db : DexDB) (info : AssetInfo) (assetId : Uint256) : RpcResult MarketMaker :=
  match db.readMarketMaker assetId with
  | some mm =>
    if mm.active then .ok mm
    else .error ⟨.invalidParameter, "Market maker " ++ info.symbol ++ " tidak aktif"⟩
  | none => .error ⟨.invalidParameter, "Market maker " ++ info.symbol ++ " tidak aktif"⟩

def readAssetOr (db : AssetDB) (assetId : Uint256) (message : String) : RpcResult AssetInfo :=
  match db.readAsset assetId with
  | some info => .ok info
  | none => .error ⟨.invalidParameter, message⟩

/-- The parameters of `swapasset`. -/
structure SwapAssetRequest where
  fromId : Uint256
  toId : Uint256
  fromAmount : Int
  address : Bytes

/-- What `swapasset` has read before its first step. -/
structure SwapAssetInfo where
  fromInfo : AssetInfo
  toInfo : AssetInfo
  mmFrom : MarketMaker
  mmTo : MarketMaker

/-- The checks of `swapasset`. -/
def swapAssetChecks (env : DexEnv) (dbs : Databases) (request : SwapAssetRequest) :
    RpcResult (Sale × SwapAssetInfo) := do
  let fromAmount ← getInt64 request.fromAmount
  throwIf (decide (fromAmount ≤ 0)) .invalidParameter "from_amount harus positif"
  throwIf (decide (request.fromId = request.toId)) .invalidParameter
    "from dan to asset tidak boleh sama"
  throwIf (!env.isValidDestination request.address) .invalidAddressOrKey "address tidak valid"
  let fromInfo ← readAssetOr dbs.assetDb request.fromId "Asset sumber tidak ditemukan"
  let toInfo ← readAssetOr dbs.assetDb request.toId "Asset tujuan tidak ditemukan"
  let fromBalance := dbs.assetDb.readBalance request.fromId request.address
  throwIf (decide (fromBalance < fromAmount)) .invalidParameter
    ("Saldo " ++ fromInfo.symbol ++ " tidak cukup (punya: " ++ toString fromBalance ++ ", butuh: " ++
      toString fromAmount ++ ")")
  let mmFrom ← activeMarketMaker dbs.dexDb fromInfo request.fromId
  let mmTo ← activeMarketMaker dbs.dexDb toInfo request.toId
  let bids := marketOrders env dbs.dexDb request.fromId .buy
  throwIf bids.isEmpty .invalidParameter ("Tidak ada BID order untuk " ++ fromInfo.symbol)
  .ok (⟨fromAmount, fromBalance, bids⟩, ⟨fromInfo, toInfo, mmFrom, mmTo⟩)

/-- What the first step of `swapasset` hands to the second one. -/
structure SoldAsset where
  info : SwapAssetInfo
  sold : Int
  grd : Int
  fills : List Fill

/-- The first step of `swapasset`: sell the one asset for GRD. -/
def swapAssetSell (env : DexEnv) (market : Market) (request : SwapAssetRequest)
    (now adjustedAt : Int) : Market × RpcResult SoldAsset :=
  match swapAssetChecks env market.dbs request with
  | .error err => (market, .error err)
  | .ok (sale, info) =>
    let s := (sellLoop env.crypto request.fromId now).run market sale.amount sale.bids
    let sold := wrap64 (sale.amount - s.remaining)
    if sold ≤ 0 then
      (s.market, .error ⟨.invalidParameter, "Tidak bisa match BID order " ++ info.fromInfo.symbol⟩)
    else
      let market := s.market.writeBalance request.fromId request.address
        (wrap64 (sale.balance - sold))
      (market.autoAdjustMMPrice env request.fromId true sold adjustedAt,
        .ok ⟨info, sold, s.received, s.fills⟩)

def buyRound (grdRemaining : Int) (ask : Order) : Round :=
  if grdRemaining ≤ 0 then .stop
  else
    let askRemainingUnits := ask.remaining.tdiv coinSat
    let grdForThis := safeMulDiv askRemainingUnits ask.price 1
    let grdUsed := min grdRemaining grdForThis
    if grdUsed ≤ 0 ∨ ask.price ≤ 0 then .skip
    else
      let unitsBought := grdUsed.tdiv ask.price
      let unitsBought := if unitsBought > askRemainingUnits then askRemainingUnits else unitsBought
      if unitsBought ≤ 0 then .skip
      else .fill (wrap64 (unitsBought * coinSat)) unitsBought (safeMulDiv unitsBought ask.price 1)

/-- The loop over the asks in the second step of `swapasset`: a seller that does not have the units
    keeps its balance. -/
def buyLoop (crypto : Crypto) (assetId : Uint256) (now : Int) : SwapLoop where
  round := buyRound
  move db fill :=
    let mmBal := db.readBalance assetId fill.order.owner
    if mmBal ≥ fill.units then
      db.writeBalance assetId fill.order.owner (wrap64 (mmBal - fill.units))
    else db
  trade := fillTrade crypto assetId .sell (wrap64 (now + 1)) now
  spent := Fill.grd
  got := Fill.units

structure SwapAssetResult where
  fromSold : Int
  grdIntermediate : Int
  grdUsed : Int
  toReceived : Int
  fromPriceIdr : Int
  toPriceIdr : Int
  step1Fills : List Fill
  step2Fills : List Fill
  deriving DecidableEq

/-- `swapasset`: sell one asset for GRD and buy another one with it. -/
def swapasset (env : DexEnv) (market : Market) (request : SwapAssetRequest)
    (now adjustedAt adjustedAgainAt : Int) : Market × RpcResult SwapAssetResult :=
  match swapAssetSell env market request now adjustedAt with
  | (market, .error err) => (market, .error err)
  | (market, .ok ⟨info, fromSold, totalGrd, step1Fills⟩) =>
    let asks := marketOrders env market.dbs.dexDb request.toId .sell
    if asks.isEmpty then
      (market, .error ⟨.invalidParameter, "Tidak ada ASK order untuk " ++ info.toInfo.symbol⟩)
    else
      let s := (buyLoop env.crypto request.toId now).run market totalGrd asks
      if s.received ≤ 0 then
        (s.market, .error ⟨.invalidParameter, "Tidak bisa match ASK order " ++ info.toInfo.symbol⟩)
      else
        let toBalance := s.market.dbs.assetDb.readBalance request.toId request.address
        let market := s.market.writeBalance request.toId request.address
          (wrap64 (toBalance + s.received))
        (market.autoAdjustMMPrice env request.toId false s.received adjustedAgainAt,
          .ok { fromSold := fromSold
                grdIntermediate := totalGrd
                grdUsed := wrap64 (totalGrd - s.remaining)
                toReceived := s.received
                fromPriceIdr := safeMulDiv info.mmFrom.basePrice 16000 coinSat
                toPriceIdr := safeMulDiv info.mmTo.basePrice 16000 coinSat
                step1Fills := step1Fills
                step2Fills := s.fills })

end GarudaChain
