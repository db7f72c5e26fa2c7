import GarudaChain.Lib.Run
import Mathlib.Data.List.Basic
import Mathlib.Logic.Function.Basic

/-!
# The candles of the archive's WebSocket server

`dex-archive/api/realtime.go` folds trades into bars of a fixed length.
-/

namespace GarudaChain.Realtime

structure Trade (P A : Type) where
  tradeID : String
  price : P
  amount : A
  timestamp : Int
  deriving DecidableEq

variable {P A : Type}

structure TradeBuffer (P A : Type) where
  seen : List String
  trades : List (Trade P A)
  cap : Nat
  deriving DecidableEq

def newTradeBuffer (cap : Nat) : TradeBuffer P A := ⟨[], [], cap⟩

/-- The loop of `AddNew`, with the new trades so far. -/
def TradeBuffer.add : TradeBuffer P A × List (Trade P A) → Trade P A → TradeBuffer P A × List (Trade P A)
  | (b, fresh), t =>
    if t.tradeID = "" ∨ t.tradeID ∈ b.seen then (b, fresh)
    else ({ b with seen := b.seen ++ [t.tradeID], trades := b.trades ++ [t] }, fresh ++ [t])

def TradeBuffer.addNew (b : TradeBuffer P A) (trades : List (Trade P A)) :
    TradeBuffer P A × List (Trade P A) :=
  let (b, fresh) := trades.foldl TradeBuffer.add (b, [])
  if b.trades.length > b.cap then
    let drop := b.trades.length - b.cap
    let dropped := (b.trades.take drop).map Trade.tradeID
    ({ b with seen := b.seen.filter (· ∉ dropped), trades := b.trades.drop drop }, fresh)
  else (b, fresh)

structure Candle (P A : Type) where
  time : Int
  openPrice : P
  high : P
  low : P
  closePrice : P
  volume : A
  deriving DecidableEq

def intervalSeconds (label : String) : Int :=
  match label with
  | "1s" => 1
  | "30s" => 30
  | "1m" => 60
  | "5m" => 300
  | "10m" => 600
  | "15m" => 900
  | "30m" => 1800
  | "1h" => 3600
  | "2h" => 7200
  | "4h" => 14400
  | "6h" => 21600
  | "12h" => 43200
  | "24h" => 86400
  | "1D" => 86400
  | "1W" => 604800
  | "1M" => 2592000
  | "1Y" => 31536000
  | _ => 60

/-- `CandleSeries`. That a bar has been dropped is kept for the statements only. -/
structure CandleSeries (P A : Type) where
  barSec : Int
  bars : Int → Option (Candle P A)
  order : List Int
  cap : Nat
  evicted : Bool

def newCandleSeries (interval : String) : CandleSeries P A :=
  ⟨intervalSeconds interval, fun _ => none, [], 1000, false⟩

/-- `len(s.bars) == 0`; the bars are those in `order`. -/
def CandleSeries.isEmpty (s : CandleSeries P A) : Bool := s.order.isEmpty

def bucketOf (barSec ts : Int) : Int := ts.tdiv barSec * barSec

/-- The start of a new bar at its place. -/
def insertBar (bucket : Int) (order : List Int) : List Int :=
  if order.getLast?.all (· < bucket) then order ++ [bucket]
  else order.takeWhile (· < bucket) ++ bucket :: order.dropWhile (· < bucket)

/-- Drop the oldest bars over the capacity. -/
def CandleSeries.evict (s : CandleSeries P A) : CandleSeries P A :=
  if s.order.length > s.cap then
    let drop := s.order.length - s.cap
    { s with
      bars := fun b => if b ∈ s.order.take drop then none else s.bars b
      order := s.order.drop drop
      evicted := true }
  else s

variable [LinearOrder P] [Zero P] [Add A]

/-- A bar with one more trade. -/
def Candle.update (bar : Candle P A) (price : P) (amount : A) : Candle P A :=
  { bar with
    high := if price > bar.high then price else bar.high
    low := if price < bar.low then price else bar.low
    closePrice := price
    volume := bar.volume + amount }

/-- `addTick`: the series, and the bar of the trade. -/
def CandleSeries.addTick (s : CandleSeries P A) (t : Trade P A) : CandleSeries P A × Option (Candle P A) :=
  if t.price ≤ 0 then (s, none)
  else
    let bucket := bucketOf s.barSec t.timestamp
    match s.bars bucket with
    | none =>
      let bar := ⟨bucket, t.price, t.price, t.price, t.price, t.amount⟩
      (CandleSeries.evict { s with
        bars := Function.update s.bars bucket (some bar)
        order := insertBar bucket s.order }, some bar)
    | some bar =>
      let bar := bar.update t.price t.amount
      ({ s with bars := Function.update s.bars bucket (some bar) }, some bar)

def CandleSeries.addTicks (s : CandleSeries P A) (trades : List (Trade P A)) : CandleSeries P A :=
  trades.foldl (fun s t => (s.addTick t).1) s

/-- `SeedFromTrades`, with what `fetchTrades` returns. -/
def CandleSeries.seedFromTrades (s : CandleSeries P A) (fetched : Option (List (Trade P A))) :
    CandleSeries P A :=
  match fetched with
  | none => s
  | some trades => s.addTicks trades

/-- `applyTrades`: the series, and the bars that have changed. -/
def CandleSeries.applyTrades (s : CandleSeries P A) (trades : List (Trade P A)) :
    CandleSeries P A × List (Candle P A) :=
  let (s, dirty) := trades.foldl
    (fun (s, dirty) t =>
      let (s, bar) := s.addTick t
      (s, bar.elim dirty fun bar => dirty.insert bar.time))
    (s, ([] : List Int))
  (s, (dirty.filterMap s.bars).mergeSort fun x y => x.time ≤ y.time)

/-- `lastTs` of `RefreshAndPublish`. -/
def CandleSeries.lastTs (s : CandleSeries P A) : Int :=
  s.order.foldl
    (fun lastTs b => (s.bars b).elim lastTs fun c => if c.time + s.barSec - 1 > lastTs then c.time else lastTs) 0

def CandleSeries.select (s : CandleSeries P A) (all : List (Trade P A)) : List (Trade P A) :=
  if s.lastTs = 0 then all
  else all.filter fun t => bucketOf s.barSec s.lastTs ≤ t.timestamp

/-- The buffer after the fetch of `RefreshAndPublish`. -/
def TradeBuffer.fetch (b : TradeBuffer P A) (fetched : Option (List (Trade P A))) : TradeBuffer P A :=
  match fetched with
  | none => b
  | some trades => (b.addNew trades).1

/-- `CandleIndex.RefreshAndPublish`: the buffer, the series and the bars that are published. -/
def refreshCandles (b : TradeBuffer P A) (s : CandleSeries P A) (fetched : Option (List (Trade P A))) :
    TradeBuffer P A × CandleSeries P A × List (Candle P A) :=
  let b := b.fetch fetched
  (b, s.applyTrades (s.select b.trades))

/-- A client subscribes, or the series is refreshed; with what `fetchTrades` returns. -/
inductive CandleEvent (P A : Type)
  | subscribe (fetched : Option (List (Trade P A)))
  | refresh (fetched : Option (List (Trade P A)))

structure CandleRun (P A : Type) where
  buffer : TradeBuffer P A
  series : CandleSeries P A
  fetched : List (Trade P A)

/-- The fetched trades that were not fetched before. -/
def CandleRun.fresh (r : CandleRun P A) (fetched : Option (List (Trade P A))) : List (Trade P A) :=
  (fetched.getD []).filter fun t => t.tradeID ∉ r.fetched.map Trade.tradeID

def candleStep (r : CandleRun P A) : CandleEvent P A → CandleRun P A
  | .subscribe fetched =>
    if r.series.isEmpty then
      { r with series := r.series.seedFromTrades fetched, fetched := r.fetched ++ r.fresh fetched }
    else r
  | .refresh fetched =>
    let (buffer, series, _) := refreshCandles r.buffer r.series fetched
    ⟨buffer, series, r.fetched ++ r.fresh fetched⟩

end GarudaChain.Realtime
