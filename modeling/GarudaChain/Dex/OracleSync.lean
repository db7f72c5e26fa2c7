import GarudaChain.Dex.MarketMaker
import Mathlib.Algebra.Order.Ring.Rat
import Mathlib.Data.Rat.Floor

/-!
# Rates of the oracle from several sources

`DoSyncPegRates` of `rpc/dex.cpp`: the rates of all sources are fetched, and for each currency the
median of what they say is written.
-/

namespace GarudaChain

/-- `OraclePegRate`. -/
structure PegRate where
  symbol : String
  ratePerGrd : Int
  grdPerUnit : Int
  timestamp : Int
  source : String
  deriving DecidableEq

def pegRateBefore (a b : String) : Bool :=
  decide (a.utf8ByteSize < b.utf8ByteSize) ||
    (a.utf8ByteSize == b.utf8ByteSize && decide (a ≤ b))

/-- The answer of a source that parses; `none` where a value is not a number. -/
structure RateAnswer where
  date : Option String
  members : List (String × Option Rat)

/-- A source and what it answers, `none` where the answer has no object with rates. -/
structure RateResponse where
  name : String
  answer : Option RateAnswer

def addRate (members : List (String × Option Rat)) (rates : Store String Rat) (key : String) :
    Store String Rat :=
  match members.lookup key with
  | some (some r) =>
    if r ≤ 0 then rates
    else if key.utf8ByteSize = 3 then rates.write (fun a b => decide (a ≤ b)) key.toUpper r
    else rates
  | _ => rates

structure SourceResult where
  name : String
  date : String
  rates : Store String Rat

def SourceResult.valid (sr : SourceResult) : Bool := !sr.rates.entries.isEmpty

def fetchRatesFromSource (response : RateResponse) : SourceResult :=
  match response.answer with
  | none => ⟨response.name, "unknown", .empty⟩
  | some answer =>
    ⟨response.name, if answer.members.isEmpty then "unknown" else answer.date.getD "unknown",
      (answer.members.map Prod.fst).foldl (addRate answer.members) .empty⟩

def oracleMaxDeviationPpm : Int := 50000

def oracleMinSources : Nat := 2

/-- `ComputeMedian`. -/
def computeMedian (values : List Int) : Int :=
  if values.isEmpty then 0
  else
    let sorted := values.insertionSort (· ≤ ·)
    let n := sorted.length
    if n % 2 == 1 then sorted.getD (n / 2) 0
    else (wrap64 (sorted.getD (n / 2 - 1) 0 + sorted.getD (n / 2) 0)).tdiv 2

/-- The cast of a positive number to `int64_t`; out of range it gives the smallest value. -/
def castInt64 (x : Rat) : Int :=
  if x < 9223372036854775808 then x.floor else -9223372036854775808

def sourceValue (grdPerUsd : Int) (ratePerUsd : Rat) : Option Int :=
  let rateScaled := castInt64 (ratePerUsd * 100000000 + 1 / 2)
  if rateScaled ≤ 0 then none
  else
    let grdPerUnit := safeMulDiv grdPerUsd coinSat rateScaled
    some (if grdPerUnit ≤ 0 then 1 else grdPerUnit)

/-- `source_values`: what the sources say of one currency. -/
def sourceValues (grdPerUsd : Int) (sources : List SourceResult) (symbol : String) : List Int :=
  (sources.filter SourceResult.valid).filterMap fun sr =>
    (sr.rates.read symbol).bind (sourceValue grdPerUsd)

/-- `all_symbols`, a sorted set. -/
def allSymbols (sources : List SourceResult) : List String :=
  ((sources.filter SourceResult.valid).flatMap fun sr => sr.rates.entries.map Prod.fst).foldl
    (fun symbols symbol => Store.write (fun a b => decide (a ≤ b)) symbols symbol ())
    (Store.empty : Store String Unit) |>.entries.map Prod.fst

def sourcesUsed (sources : List SourceResult) : String :=
  "+".intercalate ((sources.filter SourceResult.valid).map SourceResult.name)

def syncDate (sources : List SourceResult) : String :=
  (((sources.filter SourceResult.valid).map SourceResult.date).find? (· != "unknown")).getD "unknown"

structure Outlier where
  symbol : String
  val : Int
  median : Int
  deviation : Int
  deriving DecidableEq

/-- The database with the rates that were written to it, the outliers in the log and `count`. -/
structure SyncState where
  rates : Store String PegRate
  written : List PegRate
  log : List Outlier
  count : Nat

/-- `WriteOraclePegRate`. -/
def SyncState.writeOraclePegRate (s : SyncState) (peg : PegRate) : SyncState :=
  { s with rates := s.rates.write pegRateBefore peg.symbol peg, written := s.written ++ [peg] }

def outliers (symbol : String) (values : List Int) (median : Int) : List Outlier :=
  if values.length ≥ 2 then
    values.filterMap fun val =>
      let deviation := safeMulDiv |val - median| 1000000 median
      if deviation > oracleMaxDeviationPpm then some ⟨symbol, val, median, deviation⟩ else none
  else []

/-- The round of the loop for one currency. -/
def syncSymbol (grdPerUsd now : Int) (sources : List SourceResult) (s : SyncState)
    (symbol : String) : SyncState :=
  let values := sourceValues grdPerUsd sources symbol
  if values.isEmpty then s
  else
    let medianRate := computeMedian values
    if medianRate ≤ 0 then s
    else
      let s := { s with log := s.log ++ outliers symbol values medianRate }
      let s := s.writeOraclePegRate
        { symbol
          ratePerGrd := safeMulDiv coinSat coinSat medianRate
          grdPerUnit := medianRate
          timestamp := now
          source := "CONSENSUS:" ++ toString values.length ++ "src:" ++ sourcesUsed sources }
      { s with count := s.count + 1 }

structure SyncResult where
  state : SyncState
  apiName : String
  date : String

/-- `DoSyncPegRates`; the call fails with the text that is left in `error_msg`. -/
def doSyncPegRates (responses : List RateResponse) (grdPerUsd now : Int)
    (rates : Store String PegRate) : Except String SyncResult :=
  let sources := responses.map fetchRatesFromSource
  if (sources.filter SourceResult.valid).length < 1 then
    .error "Semua API source gagal. Pastikan node terhubung ke internet."
  else
    let s := (allSymbols sources).foldl (syncSymbol grdPerUsd now sources) ⟨rates, [], [], 0⟩
    let s := s.writeOraclePegRate
      { symbol := "USD"
        ratePerGrd := safeMulDiv coinSat coinSat grdPerUsd
        grdPerUnit := grdPerUsd
        timestamp := now
        source := "CONSENSUS:" ++ sourcesUsed sources }
    .ok ⟨s, sourcesUsed sources, syncDate sources⟩

end GarudaChain
