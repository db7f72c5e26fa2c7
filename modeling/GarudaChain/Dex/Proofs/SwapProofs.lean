import GarudaChain.Dex.Swap
import Mathlib.Tactic.Linarith
import Mathlib.Tactic.Ring

/-!
# Round trips
-/

namespace GarudaChain

open Int64Lib Result

theorem conversion_le {amount price divisor received : Int} (hvalue : 0 ≤ amount * price)
    (hd : 0 < divisor) (hreceived : received = (safeMulDiv amount price 1).tdiv divisor)
    (hpos : 0 < received) : received * divisor ≤ amount * price := by
  have hgrd : safeMulDiv amount price 1 ≤ amount * price := by
    rw [safeMulDiv, if_neg one_ne_zero, Int.tdiv_one]
    exact wrap64_le (by omega)
  have hnonneg : 0 ≤ safeMulDiv amount price 1 := by
    by_contra hneg
    have hquot : 0 ≤ (-safeMulDiv amount price 1).tdiv divisor :=
      Int.tdiv_nonneg (by omega) hd.le
    rw [Int.neg_tdiv] at hquot
    omega
  rw [hreceived, Int.tdiv_eq_ediv_of_nonneg hnonneg]
  exact (Int.ediv_mul_le _ hd.ne').trans hgrd

section Frames

variable (env : DexEnv) (dbs : Databases)

theorem cancelMMOrders_frame (db : DexDB) (assetId : Uint256) (mmAddr : Bytes) :
    (cancelMMOrders env db assetId mmAddr).marketMakers = db.marketMakers ∧
      (cancelMMOrders env db assetId mmAddr).oraclePegRates = db.oraclePegRates := by
  unfold cancelMMOrders
  generalize getOrderBook env db assetId 500 = orders
  induction orders generalizing db with
  | nil => exact ⟨rfl, rfl⟩
  | cons o orders ih =>
    rw [List.foldl_cons]
    split_ifs
    · exact ih (db.writeOrder _)
    · exact ih db

theorem placeMMOrders_frame (db : DexDB) (assetDb : AssetDB) (mm : MarketMaker) (now : Int) :
    (placeMMOrders env db assetDb mm now).marketMakers = db.marketMakers ∧
      (placeMMOrders env db assetDb mm now).oraclePegRates = db.oraclePegRates := by
  unfold placeMMOrders
  generalize mmQuotes assetDb mm now = keys
  induction keys generalizing db with
  | nil => exact ⟨rfl, rfl⟩
  | cons key keys ih => exact ih (db.writeOrder _)

theorem adjustedPrice_pos (mm : MarketMaker) (grdBought : Bool) (trade : Int) :
    1 ≤ adjustedPrice mm grdBought trade := by
  unfold adjustedPrice
  simp only
  split_ifs <;> omega

/-- No market maker has a negative price. -/
def PricesNonneg (dbs : Databases) : Prop :=
  ∀ e ∈ dbs.dexDb.marketMakers.entries, 0 ≤ e.2.basePrice

theorem autoAdjustMMPrice_keeps (assetId : Uint256) (grdBought : Bool) (trade now : Int) :
    (autoAdjustMMPrice env dbs assetId grdBought trade now).assetDb = dbs.assetDb ∧
      (autoAdjustMMPrice env dbs assetId grdBought trade now).dexDb.oraclePegRates =
        dbs.dexDb.oraclePegRates := by
  unfold autoAdjustMMPrice
  cases hread : dbs.dexDb.readMarketMaker assetId with
  | none => exact ⟨rfl, rfl⟩
  | some mm =>
    simp only
    split_ifs
    · exact ⟨rfl, rfl⟩
    · refine ⟨rfl, ?_⟩
      rw [(placeMMOrders_frame env _ _ _ _).2]
      exact (cancelMMOrders_frame env dbs.dexDb assetId mm.mmAddress).2

theorem autoAdjustMMPrice_prices (assetId : Uint256) (grdBought : Bool) (trade now : Int)
    (hprices : PricesNonneg dbs) :
    PricesNonneg (autoAdjustMMPrice env dbs assetId grdBought trade now) := by
  unfold autoAdjustMMPrice
  cases hread : dbs.dexDb.readMarketMaker assetId with
  | none => exact hprices
  | some mm =>
    simp only
    split_ifs
    · exact hprices
    · rw [PricesNonneg, (placeMMOrders_frame env _ _ _ _).1]
      rintro ⟨id, mm'⟩ he
      rcases (Store.mem_write_iff _ _).mp he with ⟨-, rfl⟩ | ⟨-, hmem⟩
      · exact (adjustedPrice_pos mm grdBought trade).trans' (by decide)
      · rw [(cancelMMOrders_frame env dbs.dexDb assetId mm.mmAddress).1] at hmem
        exact hprices _ hmem

end Frames

/-- The two assets and the rate of a symbol. -/
structure SwapSetting (dbs : Databases) (symbol : String) (forex peg : AssetInfo)
    (rate : OraclePegRate) : Prop where
  forex_eq : findAsset (dbs.assetDb.listAssets 500) symbol "stablecoin" = some forex
  peg_eq : findAsset (dbs.assetDb.listAssets 500) ("p" ++ symbol) "stablecoin_pegged" = some peg
  rate_eq : dbs.dexDb.readOraclePegRate symbol = some rate

section Swap

variable {env : DexEnv} {dbs dbs' : Databases} {symbol : String} {forex peg : AssetInfo}
  {rate : OraclePegRate} {address : Bytes}

theorem findAsset_mem {db : AssetDB} {type : String} {info : AssetInfo} {maxCount : Nat}
    (h : findAsset (db.listAssets maxCount) symbol type = some info) :
    info.symbol = symbol ∧ info.type = type ∧ (info.assetId, info) ∈ db.assets.entries := by
  have hprop := List.find?_some h
  have hmem := List.mem_of_mem_take (List.mem_of_find?_eq_some h)
  obtain ⟨⟨id, info'⟩, he, rfl⟩ := List.mem_map.mp hmem
  have hid : info'.assetId = id := db.keyed _ he
  simp only [Bool.and_eq_true, beq_iff_eq] at hprop
  exact ⟨hprop.1, hprop.2, hid ▸ he⟩

theorem SwapSetting.ne (h : SwapSetting dbs symbol forex peg rate) :
    forex.assetId ≠ peg.assetId := by
  intro hid
  obtain ⟨-, hforexType, hforex⟩ := findAsset_mem h.forex_eq
  obtain ⟨-, hpegType, hpeg⟩ := findAsset_mem h.peg_eq
  have hread := (Store.read_eq_some_iff _).mpr hforex
  rw [hid, (Store.read_eq_some_iff _).mpr hpeg] at hread
  rw [Option.some.inj hread, hforexType] at hpegType
  exact absurd hpegType (by decide)

theorem exchange_ok {db db' : AssetDB} {sellId buyId : Uint256} {sold received : Int}
    {sellSymbol : String} (hne : sellId ≠ buyId)
    (h : exchange db sellId buyId address sold received sellSymbol = .ok db') :
    0 < received ∧ sold ≤ db.readBalance sellId address ∧
      db'.readBalance sellId address = wrap64 (db.readBalance sellId address - sold) ∧
      db'.readBalance buyId address = wrap64 (db.readBalance buyId address + received) ∧
      (∀ maxCount, db'.listAssets maxCount = db.listAssets maxCount) := by
  simp only [exchange, bind_ok_iff, throwIf_eq_ok, Except.ok.injEq] at h
  obtain ⟨_, hpos, _, hle, rfl⟩ := h
  refine ⟨by simpa using hpos, by simpa using hle, ?_, ?_, fun _ => rfl⟩
  · rw [AssetDB.readBalance_writeBalance, if_neg (fun h => hne h.1),
      AssetDB.readBalance_writeBalance, if_pos ⟨rfl, rfl⟩]
  · rw [AssetDB.readBalance_writeBalance, if_pos ⟨rfl, rfl⟩, AssetDB.readBalance_writeBalance,
      if_neg (fun h => hne h.1.symm)]

theorem swapPair_ok {pair : SwapPair} (hset : SwapSetting dbs symbol forex peg rate)
    (h : swapPair dbs symbol = .ok pair) :
    pair.forexId = forex.assetId ∧ pair.pegId = peg.assetId ∧
      pair.oraclePrice = rate.grdPerUnit ∧
      dbs.dexDb.readMarketMaker forex.assetId = some pair.mm := by
  simp only [swapPair, hset.forex_eq, hset.peg_eq, hset.rate_eq] at h
  cases hread : dbs.dexDb.readMarketMaker forex.assetId with
  | none =>
    rw [hread] at h
    cases h
  | some mm =>
    rw [hread] at h
    simp only at h
    split_ifs at h
    obtain rfl := Except.ok.inj h
    exact ⟨rfl, rfl, rfl, rfl⟩

def swapValue (forex peg : AssetInfo) (rate : OraclePegRate) (address : Bytes) (price : Int)
    (dbs : Databases) : Int :=
  dbs.assetDb.readBalance forex.assetId address * price +
    dbs.assetDb.readBalance peg.assetId address * rate.grdPerUnit

def SwapsAt (forex : AssetInfo) (price : Int) (dbs : Databases) (call : SwapCall) : Prop :=
  ∀ mm, dbs.dexDb.readMarketMaker forex.assetId = some mm →
    (call.direction = "forex_to_peg" → mm.basePrice ≤ price) ∧
      (call.direction = "peg_to_forex" → price ≤ mm.basePrice)

/-- The balances of an address are values of an `int64_t`. -/
structure BalancesInRange (forex peg : AssetInfo) (address : Bytes) (dbs : Databases) : Prop where
  forex : -9223372036854775808 ≤ dbs.assetDb.readBalance forex.assetId address ∧
    dbs.assetDb.readBalance forex.assetId address < 9223372036854775808
  peg : -9223372036854775808 ≤ dbs.assetDb.readBalance peg.assetId address ∧
    dbs.assetDb.readBalance peg.assetId address < 9223372036854775808

/-- What holds at every point of a run of swaps. -/
structure SwapInv (symbol : String) (forex peg : AssetInfo) (rate : OraclePegRate) (address : Bytes)
    (dbs : Databases) : Prop where
  setting : SwapSetting dbs symbol forex peg rate
  range : BalancesInRange forex peg address dbs
  prices : PricesNonneg dbs

theorem exchange_inv (env : DexEnv) {sell buy : AssetInfo} {sold received : Int}
    {sellSymbol : String} {assetDb : AssetDB} (grdBought : Bool) (trade now : Int)
    (hinv : SwapInv symbol forex peg rate address dbs)
    (hpair : (sell = forex ∧ buy = peg) ∨ (sell = peg ∧ buy = forex)) (hsold : 0 < sold)
    (h : exchange dbs.assetDb sell.assetId buy.assetId address sold received sellSymbol =
      .ok assetDb) :
    let dbs' := autoAdjustMMPrice env { dbs with assetDb := assetDb } forex.assetId grdBought trade now
    SwapInv symbol forex peg rate address dbs' ∧ 0 < received ∧
      dbs'.assetDb.readBalance sell.assetId address =
        dbs.assetDb.readBalance sell.assetId address - sold ∧
      dbs'.assetDb.readBalance buy.assetId address ≤
        dbs.assetDb.readBalance buy.assetId address + received := by
  intro dbs'
  have hne := hinv.setting.ne
  have hforex := hinv.range.forex
  have hpeg := hinv.range.peg
  have hne' : sell.assetId ≠ buy.assetId := by
    rcases hpair with ⟨rfl, rfl⟩ | ⟨rfl, rfl⟩
    · exact hne
    · exact hne.symm
  obtain ⟨hpos, hle, hsellBal, hbuyBal, hlist⟩ := exchange_ok hne' h
  obtain ⟨hassetDb, horacle⟩ := autoAdjustMMPrice_keeps env { dbs with assetDb := assetDb }
    forex.assetId grdBought trade now
  have hprices := autoAdjustMMPrice_prices env { dbs with assetDb := assetDb } forex.assetId grdBought
    trade now hinv.prices
  have hsellRange : -9223372036854775808 ≤ dbs.assetDb.readBalance sell.assetId address ∧
      dbs.assetDb.readBalance sell.assetId address < 9223372036854775808 := by
    rcases hpair with ⟨rfl, rfl⟩ | ⟨rfl, rfl⟩
    · exact hforex
    · exact hpeg
  have hbuyRange : -9223372036854775808 ≤ dbs.assetDb.readBalance buy.assetId address := by
    rcases hpair with ⟨rfl, rfl⟩ | ⟨rfl, rfl⟩
    · exact hpeg.1
    · exact hforex.1
  have hsellRange' := wrap64_range (dbs.assetDb.readBalance sell.assetId address - sold)
  have hbuyRange' := wrap64_range (dbs.assetDb.readBalance buy.assetId address + received)
  rw [← hsellBal] at hsellRange'
  rw [← hbuyBal] at hbuyRange'
  refine ⟨⟨⟨?_, ?_, ?_⟩, ?_, hprices⟩, hpos, ?_, ?_⟩
  · rw [hassetDb]
    exact (hlist 500).symm ▸ hinv.setting.forex_eq
  · rw [hassetDb]
    exact (hlist 500).symm ▸ hinv.setting.peg_eq
  · rw [DexDB.readOraclePegRate, horacle]
    exact hinv.setting.rate_eq
  · rcases hpair with ⟨rfl, rfl⟩ | ⟨rfl, rfl⟩
    · exact ⟨hassetDb ▸ hsellRange', hassetDb ▸ hbuyRange'⟩
    · exact ⟨hassetDb ▸ hbuyRange', hassetDb ▸ hsellRange'⟩
  · rw [hassetDb, hsellBal, wrap64_of_range (by omega) (by omega)]
  · rw [hassetDb, hbuyBal]
    exact wrap64_le (by omega)

theorem swapStep_value {price : Int} {call : SwapCall} (hprice : 0 < price)
    (hrate : 0 < rate.grdPerUnit) (hinv : SwapInv symbol forex peg rate address dbs)
    (hat : SwapsAt forex price dbs call) :
    SwapInv symbol forex peg rate address (swapStep env symbol address dbs call) ∧
      swapValue forex peg rate address price (swapStep env symbol address dbs call) ≤
        swapValue forex peg rate address price dbs := by
  unfold swapStep
  cases hswap : swapforextopeg env dbs call.direction symbol call.amount address call.now with
  | error err => exact ⟨hinv, le_refl _⟩
  | ok result =>
    simp only [swapforextopeg, bind_ok_iff, throwIf_eq_ok] at hswap
    obtain ⟨amount, hamount, direction, hdirection, _, hpos, pair, hpair, hswap⟩ := hswap
    obtain ⟨hforexId, hpegId, horacle, hmm⟩ := swapPair_ok hinv.setting hpair
    have hpos' : 0 < amount := by simpa using hpos
    obtain ⟨hsellAt, hbuyAt⟩ := hat pair.mm hmm
    have hbase : 0 ≤ pair.mm.basePrice := hinv.prices _ ((Store.read_eq_some_iff _).mp hmm)
    unfold parseDirection at hdirection
    split_ifs at hdirection with hsell hbuy
    · -- sell forex at the price or below
      obtain rfl := Except.ok.inj hdirection
      simp only [bind_ok_iff, Except.ok.injEq, hforexId, hpegId, horacle] at hswap
      obtain ⟨assetDb, hexchange, rfl⟩ := hswap
      obtain ⟨hinv', hreceived, hforexBal, hpegBal⟩ := exchange_inv env true amount call.now hinv
        (.inl ⟨rfl, rfl⟩) hpos' hexchange
      refine ⟨hinv', ?_⟩
      have hvalue := conversion_le (mul_nonneg hpos'.le hbase) hrate rfl hreceived
      have hcost : amount * pair.mm.basePrice ≤ amount * price :=
        mul_le_mul_of_nonneg_left (hsellAt hsell) hpos'.le
      have hpeg := mul_le_mul_of_nonneg_right hpegBal hrate.le
      unfold swapValue
      simp only
      rw [hforexBal]
      linarith [sub_mul (dbs.assetDb.readBalance forex.assetId address) amount price,
        add_mul (dbs.assetDb.readBalance peg.assetId address)
          ((safeMulDiv amount pair.mm.basePrice 1).tdiv rate.grdPerUnit) rate.grdPerUnit]
    · -- buy forex at the price or above
      obtain rfl := Except.ok.inj hdirection
      simp only [bind_ok_iff, Except.ok.injEq, hforexId, hpegId, horacle] at hswap
      obtain ⟨assetDb, hexchange, rfl⟩ := hswap
      obtain ⟨hinv', hreceived, hpegBal, hforexBal⟩ := exchange_inv env false
        ((safeMulDiv amount rate.grdPerUnit 1).tdiv pair.mm.basePrice) call.now hinv (.inr ⟨rfl, rfl⟩) hpos' hexchange
      refine ⟨hinv', ?_⟩
      have hvalue := conversion_le (mul_nonneg hpos'.le hrate.le)
        (lt_of_lt_of_le hprice (hbuyAt hbuy)) rfl hreceived
      have hcost := mul_le_mul_of_nonneg_left (hbuyAt hbuy) hreceived.le
      have hforex := mul_le_mul_of_nonneg_right hforexBal hprice.le
      unfold swapValue
      simp only
      rw [hpegBal]
      linarith [sub_mul (dbs.assetDb.readBalance peg.assetId address) amount rate.grdPerUnit,
        add_mul (dbs.assetDb.readBalance forex.assetId address)
          ((safeMulDiv amount rate.grdPerUnit 1).tdiv pair.mm.basePrice) price]

end Swap

/-- In every run of swaps of one address in which, for some price, it sells forex at that price or
    below and buys forex at that price or above, the address does not end with at least as much of
    one asset and more of the other. -/
theorem swapRun_noFreeRoundTrip (env : DexEnv) (symbol : String) (forex peg : AssetInfo)
    (rate : OraclePegRate) (address : Bytes) (dbs : Databases) (price : Int)
    (calls : List SwapCall) (hsetting : SwapSetting dbs symbol forex peg rate)
    (hrate : 0 < rate.grdPerUnit) (hrange : BalancesInRange forex peg address dbs)
    (hprices : PricesNonneg dbs) (hprice : 0 < price)
    (hat : Run.Along (swapStep env symbol address) (SwapsAt forex price) dbs calls) :
    let dbs' := Run.run (swapStep env symbol address) dbs calls
    ¬ (dbs.assetDb.readBalance peg.assetId address ≤ dbs'.assetDb.readBalance peg.assetId address ∧
        dbs.assetDb.readBalance forex.assetId address <
          dbs'.assetDb.readBalance forex.assetId address) ∧
      ¬ (dbs.assetDb.readBalance forex.assetId address ≤
          dbs'.assetDb.readBalance forex.assetId address ∧
        dbs.assetDb.readBalance peg.assetId address <
          dbs'.assetDb.readBalance peg.assetId address) := by
  intro dbs'
  have hstep : ∀ s call, (SwapInv symbol forex peg rate address s ∧
        swapValue forex peg rate address price s ≤ swapValue forex peg rate address price dbs) →
      SwapsAt forex price s call →
      SwapInv symbol forex peg rate address (swapStep env symbol address s call) ∧
        swapValue forex peg rate address price (swapStep env symbol address s call) ≤
          swapValue forex peg rate address price dbs := by
    intro s call hs hcall
    obtain ⟨hinv, hle⟩ := swapStep_value hprice hrate hs.1 hcall
    exact ⟨hinv, hle.trans hs.2⟩
  have hvalue : swapValue forex peg rate address price dbs' ≤
      swapValue forex peg rate address price dbs :=
    (hat.inv hstep ⟨⟨hsetting, hrange, hprices⟩, le_refl _⟩).2
  unfold swapValue at hvalue
  constructor
  · rintro ⟨hpeg, hforex⟩
    have hpegValue := mul_le_mul_of_nonneg_right hpeg hrate.le
    have hforexValue := mul_lt_mul_of_pos_right hforex hprice
    omega
  · rintro ⟨hforex, hpeg⟩
    have hforexValue := mul_le_mul_of_nonneg_right hforex hprice.le
    have hpegValue := mul_lt_mul_of_pos_right hpeg hrate
    omega

def sampleForex : AssetInfo := ⟨7, "IDR", "stablecoin", 1000, sampleSeller⟩

def samplePeg : AssetInfo := ⟨8, "pIDR", "stablecoin_pegged", 0, sampleSeller⟩

def sampleSwapDbs : Databases where
  assetDb := ((AssetDB.empty.writeAsset sampleForex).writeAsset samplePeg).writeBalance 7
    sampleSeller 1000
  dexDb :=
    { orders := .empty
      grdBalances := .empty
      marketMakers := Store.empty.write (keyBefore uint256Bytes) 7
        ⟨7, sampleBuyer, 50, 1000, 1, 1000, true, 900⟩
      oraclePegRates := Store.empty.write (fun _ _ => true) "IDR" ⟨1000⟩ }

def sampleSales : List SwapCall := [⟨"forex_to_peg", 500, 1000⟩, ⟨"forex_to_peg", 500, 1001⟩]

def sampleRoundTrip : List SwapCall := [⟨"forex_to_peg", 1000, 1000⟩, ⟨"peg_to_forex", 1000, 1001⟩]

def sampleSwapRun (calls : List SwapCall) : Databases :=
  Run.run (swapStep sampleDexEnv "IDR" sampleSeller) sampleSwapDbs calls

theorem swapRun_noFreeRoundTrip_sample :
    (sampleSwapRun sampleSales).assetDb.readBalance 8 sampleSeller = 997 ∧
      ¬ (sampleSwapDbs.assetDb.readBalance 7 sampleSeller ≤
          (sampleSwapRun sampleSales).assetDb.readBalance 7 sampleSeller ∧
        sampleSwapDbs.assetDb.readBalance 8 sampleSeller <
          (sampleSwapRun sampleSales).assetDb.readBalance 8 sampleSeller) := by
  -- the run is evaluated once for all its values
  have hvalues : (sampleSwapRun sampleSales).assetDb.readBalance 8 sampleSeller = 997 ∧
      sampleSwapDbs.dexDb.readMarketMaker sampleForex.assetId =
        some ⟨7, sampleBuyer, 50, 1000, 1, 1000, true, 900⟩ ∧
      (swapStep sampleDexEnv "IDR" sampleSeller sampleSwapDbs
        ⟨"forex_to_peg", 500, 1000⟩).dexDb.readMarketMaker sampleForex.assetId =
          some ⟨7, sampleBuyer, 50, 1000, 1, 995, true, 1000⟩ := by
    decide +kernel
  obtain ⟨hbought, hmaker, hmaker'⟩ := hvalues
  refine ⟨hbought, ?_⟩
  refine (swapRun_noFreeRoundTrip sampleDexEnv "IDR" sampleForex samplePeg ⟨1000⟩ sampleSeller
    sampleSwapDbs 1000 sampleSales ⟨by decide +kernel, by decide +kernel, by decide +kernel⟩
    (by decide) ⟨by decide +kernel, by decide +kernel⟩ (by unfold PricesNonneg; decide +kernel)
    (by decide) ⟨?_, ?_, trivial⟩).2
  · intro mm hread
    obtain rfl := Option.some.inj (hmaker.symm.trans hread)
    exact ⟨fun _ => le_refl _, fun h => absurd h (by decide)⟩
  · intro mm hread
    obtain rfl := Option.some.inj (hmaker'.symm.trans hread)
    exact ⟨fun _ => by decide, fun h => absurd h (by decide)⟩

/-- The address ends with as many pegged units as it had and ten forex units more. -/
theorem swapRun_freeRoundTrip :
    sampleSwapDbs.assetDb.readBalance 7 sampleSeller = 1000 ∧
      sampleSwapDbs.assetDb.readBalance 8 sampleSeller = 0 ∧
      (sampleSwapRun sampleRoundTrip).assetDb.readBalance 7 sampleSeller = 1010 ∧
      (sampleSwapRun sampleRoundTrip).assetDb.readBalance 8 sampleSeller = 0 := by
  decide +kernel

end GarudaChain
