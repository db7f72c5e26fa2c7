import GarudaChain.Dex.Proofs.MarketMakerProofs
import GarudaChain.Dex.Proofs.SwapProofs

/-!
# The prices of a market maker
-/

namespace GarudaChain

open Int64Lib Result

section Price

variable {mm : MarketMaker}

/-- A price after a trade: it moves in the direction of the trade, by at most five percent, and not
    below one satoshi. -/
structure PriceMoved (grdBought : Bool) (old new : Int) : Prop where
  pos : 1 ≤ new
  down : grdBought = true → new ≤ old ∨ new = 1
  up : grdBought = false → old ≤ new
  bounded : |new - old| ≤ old / 20 + 1

theorem priceMoved_true_iff {old new : Int} (hold : 0 < old) (hnew : 1 ≤ new) :
    PriceMoved true old new ↔ old - old / 20 - 1 ≤ new ∧ new ≤ old := by
  constructor
  · intro h
    have hdown := h.down rfl
    have hbound := abs_le.mp h.bounded
    omega
  · rintro ⟨hlo, hhi⟩
    exact ⟨hnew, fun _ => .inl hhi, nofun, abs_le.mpr (by omega)⟩

theorem priceMoved_false_iff {old new : Int} (hnew : 1 ≤ new) :
    PriceMoved false old new ↔ old ≤ new ∧ new ≤ old + old / 20 + 1 := by
  constructor
  · intro h
    have hup := h.up rfl
    have hbound := abs_le.mp h.bounded
    omega
  · rintro ⟨hlo, hhi⟩
    exact ⟨hnew, fun h => Bool.noConfusion h, fun _ => hlo, abs_le.mpr (by omega)⟩

/-- When the price `p` of a market maker moves as it should, given the change in parts per million
    that the cast of the impact leaves. A change that is not negative does, unless the price rises
    beyond `int64_t`. A negative one, which is the cast of an impact out of range, does only if it is
    too small to move the price, or if the new price leaves `int64_t` too and the cast happens to bring
    it back near `p`. -/
def ChangeAllowed (grdBought : Bool) (p change : Int) : Prop :=
  match grdBought with
  | true => 0 ≤ change ∨ p * -change < 1000000 ∨
      (9223372036854775808 * 1000000 ≤ p * (1000000 - change) ∧
        p - p / 20 - 1 ≤ max 1 (wrap64 (p * (1000000 - change) / 1000000)) ∧
        max 1 (wrap64 (p * (1000000 - change) / 1000000)) ≤ p)
  | false => (0 ≤ change ∧ p * (1000000 + change) < 9223372036854775808 * 1000000) ∨
      (change < 0 ∧ ((p = 1 ∧ -(p * (1000000 + change)) < 9223372036854775808 * 1000000) ∨
        (9223372036854775808 * 1000000 ≤ -(p * (1000000 + change)) ∧
        p ≤ max 1 (wrap64 ((p * (1000000 + change)).tdiv 1000000)) ∧
        max 1 (wrap64 ((p * (1000000 + change)).tdiv 1000000)) ≤ p + p / 20 + 1)))

theorem priceChangePpm_le (mm : MarketMaker) (trade : Int) : priceChangePpm mm trade ≤ 50000 := by
  unfold priceChangePpm
  simp only
  split_ifs with hcap
  · decide
  · generalize safeMulDiv trade 1000000 mm.orderSize = impact at hcap
    rcases le_or_gt 0 impact with hpos | hneg
    · rw [Int.tdiv_eq_ediv_of_nonneg hpos]
      omega
    · have hle := Int.tdiv_nonneg (a := -impact) (b := 100) (by omega) (by decide)
      rw [Int.neg_tdiv] at hle
      omega

theorem clamp_eq_max (x : Int) : (if x < 1 then 1 else x) = max 1 x := by
  split_ifs <;> omega

theorem safeMulDiv_million (a b : Int) : safeMulDiv a b 1000000 = wrap64 ((a * b).tdiv 1000000) :=
  if_neg (by omega)

theorem adjustedPrice_bought_iff (hprice : 0 < mm.basePrice)
    (hprice64 : mm.basePrice < 9223372036854775808) (trade : Int) :
    PriceMoved true mm.basePrice (adjustedPrice mm true trade) ↔
      ChangeAllowed true mm.basePrice (priceChangePpm mm trade) := by
  have hle := priceChangePpm_le mm trade
  have hfactor : 0 < mm.basePrice * (1000000 - priceChangePpm mm trade) :=
    mul_pos hprice (by omega)
  simp only [adjustedPrice, if_true, clamp_eq_max, safeMulDiv_million]
  rw [priceMoved_true_iff hprice (le_max_left _ _), ChangeAllowed,
    Int.tdiv_eq_ediv_of_nonneg hfactor.le]
  generalize priceChangePpm mm trade = c at *
  by_cases hfits : mm.basePrice * (1000000 - c) < 9223372036854775808 * 1000000
  · -- no cast: the price falls by at most five percent, or does not move
    rw [wrap64_of_range (by omega) (by omega)]
    have hsplit : mm.basePrice * (1000000 - c) = mm.basePrice * 1000000 + mm.basePrice * -c := by ring
    rw [hsplit] at hfits ⊢
    rcases le_or_gt 0 c with hc | hc
    · have hdrop : 0 ≤ mm.basePrice * c := mul_nonneg hprice.le hc
      have hdrop' : mm.basePrice * c ≤ mm.basePrice * 50000 := mul_le_mul_of_nonneg_left hle hprice.le
      rw [mul_neg] at hfits ⊢
      omega
    · have hrise : 0 < mm.basePrice * -c := mul_pos hprice (by omega)
      omega
  · rcases le_or_gt 0 c with hc | hc
    · have hdrop : 0 ≤ mm.basePrice * c := mul_nonneg hprice.le hc
      rw [mul_sub] at hfits
      omega
    · rw [mul_sub] at hfits
      rw [← not_lt, mul_sub, mul_neg]
      omega

theorem adjustedPrice_sold_iff (hprice : 0 < mm.basePrice)
    (hprice64 : mm.basePrice < 9223372036854775808) (trade : Int) :
    PriceMoved false mm.basePrice (adjustedPrice mm false trade) ↔
      ChangeAllowed false mm.basePrice (priceChangePpm mm trade) := by
  have hle := priceChangePpm_le mm trade
  simp only [adjustedPrice, Bool.false_eq_true, if_false, clamp_eq_max, safeMulDiv_million]
  rw [priceMoved_false_iff (le_max_left _ _), ChangeAllowed]
  generalize priceChangePpm mm trade = c at *
  have hsplit : mm.basePrice * (1000000 + c) = mm.basePrice * 1000000 + mm.basePrice * c := mul_add ..
  rcases le_or_gt 0 c with hc | hc
  · have hrise : 0 ≤ mm.basePrice * c := mul_nonneg hprice.le hc
    have hrise' : mm.basePrice * c ≤ mm.basePrice * 50000 := mul_le_mul_of_nonneg_left hle hprice.le
    rw [Int.tdiv_eq_ediv_of_nonneg (by omega), hsplit]
    by_cases hfits : mm.basePrice * 1000000 + mm.basePrice * c < 9223372036854775808 * 1000000
    · rw [wrap64_of_range (by omega) (by omega)]
      omega
    · -- beyond `int64_t` the price falls to one satoshi
      have hneg := wrap64_neg (x := (mm.basePrice * 1000000 + mm.basePrice * c) / 1000000) (by omega)
        (by omega)
      omega
  · have hfall : mm.basePrice * c < 0 := mul_neg_of_pos_of_neg hprice hc
    by_cases hfits : -(mm.basePrice * (1000000 + c)) < 9223372036854775808 * 1000000
    · have hquot : (mm.basePrice * (1000000 + c)).tdiv 1000000 < mm.basePrice ∧
          -9223372036854775808 ≤ (mm.basePrice * (1000000 + c)).tdiv 1000000 := by
        rcases le_or_gt 0 (mm.basePrice * (1000000 + c)) with h0 | h0
        · rw [Int.tdiv_eq_ediv_of_nonneg h0]
          omega
        · have hneg : (mm.basePrice * (1000000 + c)).tdiv 1000000 =
              -(-(mm.basePrice * (1000000 + c)) / 1000000) := by
            rw [← Int.tdiv_eq_ediv_of_nonneg (by omega), Int.neg_tdiv, neg_neg]
          omega
      rw [wrap64_of_range (by omega) (by omega)]
      omega
    · omega

/-- After any trade the base price has moved as it should just where the change that `SafeMulDiv` and
    the cap leave is allowed. -/
theorem autoAdjustMMPrice_moves_iff (env : DexEnv) (dbs : Databases) (assetId : Uint256)
    (grdBought : Bool) (trade now : Int) (mm : MarketMaker)
    (hread : dbs.dexDb.readMarketMaker assetId = some mm) (hactive : mm.active = true)
    (hprice : 0 < mm.basePrice) (hprice64 : mm.basePrice < 9223372036854775808) :
    ∃ mm', (autoAdjustMMPrice env dbs assetId grdBought trade now).dexDb.readMarketMaker mm.assetId =
        some mm' ∧
      (PriceMoved grdBought mm.basePrice mm'.basePrice ↔
        ChangeAllowed grdBought mm.basePrice (priceChangePpm mm trade)) := by
  refine ⟨{ mm with
    basePrice := adjustedPrice mm grdBought trade, timestamp := wrap64 now }, ?_, ?_⟩
  · unfold autoAdjustMMPrice
    simp only [hread, hactive, Bool.not_true, Bool.false_eq_true, if_false]
    rw [DexDB.readMarketMaker, (placeMMOrders_frame env _ _ _ _).1]
    exact Store.read_write_self _ _ _ _
  · cases grdBought with
    | true => exact adjustedPrice_bought_iff hprice hprice64 trade
    | false => exact adjustedPrice_sold_iff hprice hprice64 trade

def sampleMakerDb : Databases where
  assetDb := sampleAssetDB
  dexDb := DexDB.writeMarketMaker ⟨.empty, .empty, .empty, .empty⟩
    ⟨7, sampleSeller, 50, 1, 1, 1000, true, 900⟩

theorem autoAdjustMMPrice_moves_sample :
    ((autoAdjustMMPrice sampleDexEnv sampleMakerDb 7 false 3 950).dexDb.readMarketMaker 7).map
        MarketMaker.basePrice = some 1030 ∧
      PriceMoved false 1000 1030 := by
  have hmaker : sampleMakerDb.dexDb.readMarketMaker 7 =
      some ⟨7, sampleSeller, 50, 1, 1, 1000, true, 900⟩ := by decide +kernel
  have hprice : ((autoAdjustMMPrice sampleDexEnv sampleMakerDb 7 false 3
      950).dexDb.readMarketMaker 7).map MarketMaker.basePrice = some 1030 := by decide +kernel
  obtain ⟨mm', hread, hmoves⟩ := autoAdjustMMPrice_moves_iff sampleDexEnv sampleMakerDb 7 false 3 950
    _ hmaker rfl (by decide) (by decide)
  rw [hread] at hprice
  refine ⟨by rw [hread]; exact hprice, ?_⟩
  rw [← Option.some.inj hprice]
  exact hmoves.mpr (.inl (by decide +kernel))

/-- The price rises by a factor of eighty billion where it should fall. -/
theorem autoAdjustMMPrice_overshoots :
    sampleMakerDb.dexDb.readMarketMaker 7 = some ⟨7, sampleSeller, 50, 1, 1, 1000, true, 900⟩ ∧
      ((autoAdjustMMPrice sampleDexEnv sampleMakerDb 7 true 10000000000000
        950).dexDb.readMarketMaker 7).map MarketMaker.basePrice = some 84467440738095 ∧
      ¬ PriceMoved true 1000 84467440738095 := by
  have hvalues : sampleMakerDb.dexDb.readMarketMaker 7 =
      some ⟨7, sampleSeller, 50, 1, 1, 1000, true, 900⟩ ∧
      ((autoAdjustMMPrice sampleDexEnv sampleMakerDb 7 true 10000000000000
        950).dexDb.readMarketMaker 7).map MarketMaker.basePrice = some 84467440738095 := by
    decide +kernel
  refine ⟨hvalues.1, hvalues.2, ?_⟩
  intro hmoved
  rcases hmoved.down rfl with hdown | hone
  · omega
  · omega

/-- The quotes of a market maker: positive prices, the amount it was set up with, and every bid below
    every ask. -/
structure QuotesSane (orderSize : Int) (quotes : List OrderKey) : Prop where
  price_pos : ∀ q ∈ quotes, 0 < q.price
  amount_eq : ∀ q ∈ quotes, q.amount = orderSize * coinSat
  bid_lt_ask : ∀ bid ∈ quotes, ∀ ask ∈ quotes, bid.side = .buy → ask.side = .sell →
    bid.price < ask.price

/-- The prices of a level fit in `int64_t`. -/
def LevelFits (mm : MarketMaker) (i : Nat) : Prop :=
  mm.basePrice * (1000000 + levelOffsetPpm mm i) < 9223372036854775808 * 1000000

theorem bidPrice_lt (h : mm.WellFormed) (hbase : 0 < mm.basePrice) {i : Nat}
    (hi : i < mm.numLevels.toNat) (hfits : LevelFits mm i) : bidPrice mm i < mm.basePrice := by
  have hoffset := (levelOffsetPpm_range h hi).1
  have hbelow : 0 < mm.basePrice * levelOffsetPpm mm i := mul_pos hbase (by omega)
  unfold LevelFits at hfits
  rw [mul_add] at hfits
  unfold bidPrice
  by_cases hsmall : levelOffsetPpm mm i ≤ 1000000
  · have hnonneg : 0 ≤ mm.basePrice * (1000000 - levelOffsetPpm mm i) :=
      mul_nonneg hbase.le (by omega)
    rw [safeMulDiv_of_nonneg hnonneg (by omega) (by rw [mul_sub]; omega), mul_sub]
    omega
  · have hneg : mm.basePrice * (1000000 - levelOffsetPpm mm i) ≤ 0 :=
      mul_nonpos_of_nonneg_of_nonpos hbase.le (by omega)
    have := safeMulDiv_nonpos hneg (show (0 : Int) < 1000000 by omega) (by rw [mul_sub]; omega)
    omega

theorem basePrice_le_askPrice (h : mm.WellFormed) (hbase : 0 < mm.basePrice) {i : Nat}
    (hi : i < mm.numLevels.toNat) (hfits : LevelFits mm i) : mm.basePrice ≤ askPrice mm i := by
  have hoffset := (levelOffsetPpm_range h hi).1
  have habove : 0 < mm.basePrice * levelOffsetPpm mm i := mul_pos hbase (by omega)
  unfold askPrice
  rw [safeMulDiv_of_nonneg (by rw [mul_add]; omega) (by omega) hfits, mul_add]
  omega

theorem mmQuotes_cases {assetDb : AssetDB} {now : Int} {q : OrderKey}
    (hq : q ∈ mmQuotes assetDb mm now) :
    q.amount = wrap64 (mm.orderSize * coinSat) ∧ ∃ i < mm.numLevels.toNat,
      (q.side = .buy ∧ q.price = bidPrice mm i ∧ 0 < q.price) ∨
        (q.side = .sell ∧ q.price = askPrice mm i) := by
  obtain ⟨i, hi, hlevel⟩ := List.mem_flatMap.mp hq
  simp only [levelQuotes] at hlevel
  split_ifs at hlevel with hbid hstable
  · cases hlevel
  · rw [List.mem_singleton.mp hlevel]
    exact ⟨rfl, i, List.mem_range.mp hi, .inl ⟨rfl, rfl, not_le.mp hbid⟩⟩
  · rcases List.mem_cons.mp hlevel with rfl | hlevel
    · exact ⟨rfl, i, List.mem_range.mp hi, .inl ⟨rfl, rfl, not_le.mp hbid⟩⟩
    · rw [List.mem_singleton.mp hlevel]
      exact ⟨rfl, i, List.mem_range.mp hi, .inr ⟨rfl, rfl⟩⟩

/-- The prices of every level fit, since `AmountFromValue` takes at most eighteen digits. -/
theorem levelFits (h : mm.WellFormed) (hbase : 0 < mm.basePrice)
    (hmax : mm.basePrice ≤ 999999999999999999) {i : Nat} (hi : i < mm.numLevels.toNat) :
    LevelFits mm i := by
  obtain ⟨hlo, hhi⟩ := levelOffsetPpm_range h hi
  have hle : mm.basePrice * (1000000 + levelOffsetPpm mm i) ≤ 999999999999999999 * 6250000 :=
    mul_le_mul hmax (by omega) (by omega) (by omega)
  unfold LevelFits
  omega

/-- Only a market maker with a base price of one satoshi, whose bids are rounded to nothing, has no
    quotes. -/
theorem mmQuotes_eq_nil_iff (h : mm.WellFormed) (hbase : 0 < mm.basePrice)
    (hmax : mm.basePrice ≤ 999999999999999999) (assetDb : AssetDB) (now : Int) :
    mmQuotes assetDb mm now = [] ↔ mm.basePrice = 1 := by
  constructor
  · intro hnil
    by_contra hne
    have hspread := h.spread_le
    have hspread' := h.spread_pos
    have hlevels := h.levels_pos
    have hlevel := List.flatMap_eq_nil_iff.mp hnil 0 (List.mem_range.mpr (by omega))
    have hoffset : levelOffsetPpm mm 0 = mm.spreadBps * 50 := by
      unfold levelOffsetPpm
      rw [wrap64_of_range (x := mm.spreadBps * 50) (by omega) (by omega),
        wrap64_of_range (by simp; omega) (by simp; omega), Int.tdiv_eq_ediv_of_nonneg (by simp; omega)]
      simp
    have hhalf : 2 * 500000 ≤ mm.basePrice * (1000000 - levelOffsetPpm mm 0) :=
      mul_le_mul (by omega) (by omega) (by omega) (by omega)
    have hless : mm.basePrice * (1000000 - levelOffsetPpm mm 0) ≤ mm.basePrice * 1000000 :=
      mul_le_mul_of_nonneg_left (by omega) hbase.le
    have hbid : 0 < bidPrice mm 0 := by
      unfold bidPrice
      rw [safeMulDiv_of_nonneg (by omega) (by omega) (by omega)]
      omega
    simp only [levelQuotes, if_neg (not_le.mpr hbid)] at hlevel
    split_ifs at hlevel
  · intro hone
    exact mmQuotes_eq_nil h hone assetDb now

theorem mmQuotes_sane_iff (h : mm.WellFormed) (hbase : 0 < mm.basePrice)
    (hmax : mm.basePrice ≤ 999999999999999999) (assetDb : AssetDB) (now : Int) :
    QuotesSane mm.orderSize (mmQuotes assetDb mm now) ↔
      mm.basePrice = 1 ∨ mm.orderSize * coinSat < 9223372036854775808 := by
  have hsize := h.size_pos
  have hpos : 0 < mm.orderSize * coinSat := mul_pos hsize (by decide)
  rw [← mmQuotes_eq_nil_iff h hbase hmax assetDb now]
  constructor
  · intro hsane
    cases hquotes : mmQuotes assetDb mm now with
    | nil => exact .inl rfl
    | cons q quotes =>
      have hq : q ∈ mmQuotes assetDb mm now := by rw [hquotes]; exact List.mem_cons_self
      rw [← hsane.amount_eq q hq, (mmQuotes_cases hq).1]
      exact .inr (wrap64_range _).2
  · rintro (hnil | hamount)
    · rw [hnil]
      exact ⟨List.forall_mem_nil _, List.forall_mem_nil _, List.forall_mem_nil _⟩
    · refine ⟨?_, ?_, ?_⟩
      · intro q hq
        obtain ⟨-, i, hi, ⟨-, -, hprice⟩ | ⟨-, hprice⟩⟩ := mmQuotes_cases hq
        · exact hprice
        · rw [hprice]
          exact lt_of_lt_of_le hbase (basePrice_le_askPrice h hbase hi (levelFits h hbase hmax hi))
      · intro q hq
        rw [(mmQuotes_cases hq).1, wrap64_of_range (by omega) hamount]
      · intro bid hbid ask hask hbuy hsell
        obtain ⟨-, i, hi, ⟨-, hbidPrice, -⟩ | ⟨hside, -⟩⟩ := mmQuotes_cases hbid
        · obtain ⟨-, j, hj, ⟨hside, -⟩ | ⟨-, haskPrice⟩⟩ := mmQuotes_cases hask
          · rw [hside] at hsell
            cases hsell
          · -- the base price lies between them
            rw [hbidPrice, haskPrice]
            exact lt_of_lt_of_le (bidPrice_lt h hbase hi (levelFits h hbase hmax hi))
              (basePrice_le_askPrice h hbase hj (levelFits h hbase hmax hj))
        · rw [hside] at hbuy
          cases hbuy

end Price

/-- Every configuration that `setupmarketmaker` accepts has sane quotes exactly if the amount of its
    orders fits in `int64_t`, or if its base price of one satoshi lets it quote nothing. -/
theorem setupmarketmaker_quotesSane_iff (env : DexEnv) (dbs : Databases) (request : SetupRequest)
    (now : Int) (dbs' : Databases) (quotes : List OrderKey)
    (hok : setupmarketmaker env dbs request now = .ok (dbs', quotes)) :
    QuotesSane request.orderSize quotes ↔
      request.basePrice = some 1 ∨ request.orderSize * coinSat < 9223372036854775808 := by
  obtain ⟨basePrice, hbase, hpos, hmax, hwell, -, rfl⟩ := setupmarketmaker_ok hok
  rw [hbase, Option.some.injEq]
  exact mmQuotes_sane_iff hwell hpos hmax dbs.assetDb now

def sampleSetup : SetupRequest := ⟨7, sampleSeller, some 1000, 50, 1, 1, none⟩

def sampleMakerStart : Databases := ⟨sampleAssetDB, ⟨.empty, .empty, .empty, .empty⟩⟩

theorem setupmarketmaker_quotesSane_sample :
    ∃ dbs', setupmarketmaker sampleDexEnv sampleMakerStart sampleSetup 1000 = .ok (dbs',
        [⟨7, .buy, 997, 100000000, sampleSeller, 1000⟩,
          ⟨7, .sell, 1002, 100000000, sampleSeller, 2000⟩]) ∧
      QuotesSane 1 [⟨7, .buy, 997, 100000000, sampleSeller, 1000⟩,
        ⟨7, .sell, 1002, 100000000, sampleSeller, 2000⟩] := by
  have hcall : Returns (setupmarketmaker sampleDexEnv sampleMakerStart sampleSetup 1000) fun result =>
      result.2 = [⟨7, .buy, 997, 100000000, sampleSeller, 1000⟩,
        ⟨7, .sell, 1002, 100000000, sampleSeller, 2000⟩] := by
    decide +kernel
  obtain ⟨⟨dbs', quotes⟩, hok, rfl⟩ := hcall
  exact ⟨dbs', hok, (setupmarketmaker_quotesSane_iff _ _ _ _ _ _ hok).mpr (.inr (by decide))⟩

/-- An accepted order size makes the amount of a bid negative. -/
theorem setupmarketmaker_quotesWrap :
    ∃ dbs', setupmarketmaker sampleDexEnv sampleMakerStart
        ⟨7, sampleSeller, some 1000, 50, 92233720369, 1, none⟩ 1000 =
          .ok (dbs', [⟨7, .buy, 997, -9223372036809551616, sampleSeller, 1000⟩]) := by
  have hamount : Returns (setupmarketmaker sampleDexEnv sampleMakerStart
      ⟨7, sampleSeller, some 1000, 50, 92233720369, 1, none⟩ 1000) fun result =>
        result.2 = [⟨7, .buy, 997, -9223372036809551616, sampleSeller, 1000⟩] := by
    decide +kernel
  obtain ⟨⟨dbs', quotes⟩, hok, rfl⟩ := hamount
  exact ⟨dbs', hok⟩

end GarudaChain
