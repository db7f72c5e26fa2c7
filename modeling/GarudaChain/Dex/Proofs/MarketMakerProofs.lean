import GarudaChain.Dex.MarketMaker
import GarudaChain.Dex.Proofs.BookProofs

/-!
# Quotes without escrow
-/

namespace GarudaChain

open Int64Lib Result

/-- What an address has, with what its orders hold, is as before. -/
def KeepsWealth (dbs dbs' : Databases) : Prop :=
  ∀ address, dbs'.grdWealth address = dbs.grdWealth address ∧
    ∀ assetId, dbs'.assetWealth assetId address = dbs.assetWealth assetId address

/-- `CancelMMOrders` finds no order of the address. -/
def NothingOpen (db : DexDB) (assetId : Uint256) (mmAddr : Bytes) : Prop :=
  ∀ o ∈ openOrders db assetId 500, o.owner ≠ mmAddr

/-- A change of a market maker's quotes that has no order to cancel and leaves the base price at one
    satoshi, below which every bid is rounded to nothing. -/
def QuotesNothing (env : DexEnv) (s : DexRun) : MMRequest → Prop
  | .book _ => True
  | .setupmarketmaker request now =>
    (∃ err, setupmarketmaker env s.dbs request now = .error err) ∨
      (request.basePrice = some 1 ∧
        ∀ mm, s.dbs.dexDb.readMarketMaker request.assetId = some mm →
          NothingOpen s.dbs.dexDb request.assetId mm.mmAddress)
  | .autoAdjustMMPrice assetId _ tradeAmountStable _ =>
    ∀ mm, s.dbs.dexDb.readMarketMaker assetId = some mm → mm.active = true →
      mm.basePrice = 1 ∧ NothingOpen s.dbs.dexDb assetId mm.mmAddress ∧ 0 ≤ tradeAmountStable ∧
        tradeAmountStable * 1000000 < 9223372036854775808 * mm.orderSize

/-- The parameters that `setupmarketmaker` lets through. -/
structure MarketMaker.WellFormed (mm : MarketMaker) : Prop where
  spread_pos : 1 ≤ mm.spreadBps
  spread_le : mm.spreadBps ≤ 10000
  size_pos : 0 < mm.orderSize
  levels_le : mm.numLevels ≤ 20
  levels_pos : 1 ≤ mm.numLevels

section Prices

variable {mm : MarketMaker}

theorem levelOffsetPpm_range (h : mm.WellFormed) {i : Nat} (hi : i < mm.numLevels.toNat) :
    50 ≤ levelOffsetPpm mm i ∧ levelOffsetPpm mm i ≤ 5250000 := by
  have hlo := h.spread_pos
  have hhi := h.spread_le
  have hlevels := h.levels_le
  unfold levelOffsetPpm
  rw [wrap64_of_range (x := mm.spreadBps * 50) (by omega) (by omega)]
  have hlower : 50 * 1000 ≤ mm.spreadBps * 50 * (1000 + (i : Int) * 500) :=
    mul_le_mul (by omega) (by omega) (by omega) (by omega)
  have hupper : mm.spreadBps * 50 * (1000 + (i : Int) * 500) ≤ 500000 * 10500 :=
    mul_le_mul (by omega) (by omega) (by omega) (by omega)
  rw [wrap64_of_range (by omega) (by omega), Int.tdiv_eq_ediv_of_nonneg (by omega)]
  omega

theorem bidPrice_nonpos (h : mm.WellFormed) (hbase : mm.basePrice = 1) {i : Nat}
    (hi : i < mm.numLevels.toNat) : bidPrice mm i ≤ 0 := by
  obtain ⟨hlo, hhi⟩ := levelOffsetPpm_range h hi
  unfold bidPrice
  rw [hbase]
  by_cases hoff : levelOffsetPpm mm i ≤ 1000000
  · rw [safeMulDiv_of_nonneg (by omega) (by omega) (by omega)]
    omega
  · exact safeMulDiv_nonpos (by omega) (by omega) (by omega)

theorem mmQuotes_eq_nil (h : mm.WellFormed) (hbase : mm.basePrice = 1) (assetDb : AssetDB)
    (now : Int) : mmQuotes assetDb mm now = [] := by
  unfold mmQuotes
  refine List.flatMap_eq_nil_iff.mpr fun i hi => ?_
  unfold levelQuotes
  exact if_pos (bidPrice_nonpos h hbase (List.mem_range.mp hi))

theorem priceChangePpm_range (hsize : 0 < mm.orderSize) {trade : Int} (h0 : 0 ≤ trade)
    (hfit : trade * 1000000 < 9223372036854775808 * mm.orderSize) :
    0 ≤ priceChangePpm mm trade ∧ priceChangePpm mm trade ≤ 50000 := by
  have himpact : 0 ≤ trade * 1000000 / mm.orderSize := Int.ediv_nonneg (by omega) hsize.le
  unfold priceChangePpm
  simp only
  rw [safeMulDiv_of_nonneg (by omega) hsize hfit]
  split_ifs
  · decide
  · rw [Int.tdiv_eq_ediv_of_nonneg himpact]
    omega

theorem adjustedPrice_eq_one (h : mm.WellFormed) (hbase : mm.basePrice = 1) (grdBought : Bool)
    {trade : Int} (h0 : 0 ≤ trade) (hfit : trade * 1000000 < 9223372036854775808 * mm.orderSize) :
    adjustedPrice mm grdBought trade = 1 := by
  obtain ⟨hlo, hhi⟩ := priceChangePpm_range h.size_pos h0 hfit
  unfold adjustedPrice
  simp only [hbase]
  cases grdBought with
  | true =>
    rw [if_pos rfl, safeMulDiv_of_nonneg (by omega) (by omega) (by omega)]
    split_ifs <;> omega
  | false =>
    rw [if_neg Bool.false_ne_true, safeMulDiv_of_nonneg (by omega) (by omega) (by omega)]
    split_ifs <;> omega

end Prices

theorem cancelMMOrders_eq (env : DexEnv) {db : DexDB} {assetId : Uint256} {mmAddr : Bytes}
    (h : NothingOpen db assetId mmAddr) : cancelMMOrders env db assetId mmAddr = db := by
  have hbook : ∀ o ∈ getOrderBook env db assetId 500, o.owner ≠ mmAddr := by
    intro o ho
    exact h o ((env.sort_perm _ _).mem_iff.mp ho)
  unfold cancelMMOrders
  generalize getOrderBook env db assetId 500 = orders at hbook
  induction orders with
  | nil => rfl
  | cons o orders ih =>
    rw [List.foldl_cons, if_neg (fun hcancel => hbook o List.mem_cons_self hcancel.1)]
    exact ih fun x hx => hbook x (List.mem_cons_of_mem o hx)

theorem placeMMOrders_eq (env : DexEnv) (db : DexDB) {assetDb : AssetDB} {mm : MarketMaker}
    {now : Int} (h : mmQuotes assetDb mm now = []) : placeMMOrders env db assetDb mm now = db := by
  rw [placeMMOrders, h]
  rfl

/-- The databases differ at most in the market makers. -/
structure SameBook (dbs dbs' : Databases) : Prop where
  assetDb : dbs'.assetDb = dbs.assetDb
  orders : dbs'.dexDb.orders = dbs.dexDb.orders
  grdBalances : dbs'.dexDb.grdBalances = dbs.dexDb.grdBalances

namespace SameBook

variable {dbs dbs' : Databases}

theorem refl (dbs : Databases) : SameBook dbs dbs := ⟨rfl, rfl, rfl⟩

theorem keepsWealth (h : SameBook dbs dbs') : KeepsWealth dbs dbs' := by
  intro address
  refine ⟨?_, fun assetId => ?_⟩
  · rw [Databases.grdWealth, Databases.grdWealth, DexDB.readGrdBalance, DexDB.readGrdBalance,
      h.grdBalances, h.orders]
  · rw [Databases.assetWealth, Databases.assetWealth, h.assetDb, h.orders]

theorem inv (h : SameBook dbs dbs') {s : DexRun} (hs : s.dbs = dbs) {crypto : Crypto}
    {supply : Uint256 → Int} (hinv : s.Inv crypto supply) :
    ({ s with dbs := dbs' } : DexRun).Inv crypto supply := by
  subst hs
  have hbacked := hinv.backed
  refine ⟨⟨?_, fun a => ?_, ?_, ?_⟩, ?_, hinv.keys, hinv.withdrawn_nonneg⟩
  · rw [← hbacked.grd_eq, Databases.grdTotal, Databases.buyEscrow, h.grdBalances, h.orders]
    rfl
  · rw [← hbacked.asset_eq a, Databases.assetTotal, Databases.sellEscrow, h.assetDb, h.orders]
    rfl
  · rw [h.grdBalances]
    exact hbacked.nonneg.grd
  · rw [h.assetDb]
    exact hbacked.nonneg.asset
  · rw [Databases.OrdersSound, h.orders]
    exact hinv.sound

end SameBook

/-- Every market maker of the database has passed the checks of `setupmarketmaker`. -/
def MakersWellFormed (dbs : Databases) : Prop :=
  ∀ e ∈ dbs.dexDb.marketMakers.entries, e.2.WellFormed

theorem MakersWellFormed.writeMarketMaker {dbs : Databases} (h : MakersWellFormed dbs)
    {mm : MarketMaker} (hmm : mm.WellFormed) :
    MakersWellFormed { dbs with dexDb := dbs.dexDb.writeMarketMaker mm } := by
  rintro ⟨k, v⟩ he
  rcases (Store.mem_write_iff _ _).mp he with ⟨-, rfl⟩ | ⟨-, hmem⟩
  · exact hmm
  · exact h _ hmem

section Changes

variable {env : DexEnv} {dbs dbs' : Databases}

theorem autoAdjustMMPrice_quotesNothing {assetId : Uint256} {grdBought : Bool} {trade now : Int}
    (hmakers : MakersWellFormed dbs)
    (h : ∀ mm, dbs.dexDb.readMarketMaker assetId = some mm → mm.active = true →
      mm.basePrice = 1 ∧ NothingOpen dbs.dexDb assetId mm.mmAddress ∧ 0 ≤ trade ∧
        trade * 1000000 < 9223372036854775808 * mm.orderSize) :
    SameBook dbs (autoAdjustMMPrice env dbs assetId grdBought trade now) ∧
      MakersWellFormed (autoAdjustMMPrice env dbs assetId grdBought trade now) := by
  unfold autoAdjustMMPrice
  cases hread : dbs.dexDb.readMarketMaker assetId with
  | none => exact ⟨.refl dbs, hmakers⟩
  | some mm =>
    cases hactive : mm.active with
    | false =>
      simp only [hactive, Bool.not_false, if_true]
      exact ⟨.refl dbs, hmakers⟩
    | true =>
      obtain ⟨hbase, hopen, h0, hfit⟩ := h mm hread hactive
      have hmm : mm.WellFormed := hmakers _ ((Store.read_eq_some_iff _).mp hread)
      have hprice := adjustedPrice_eq_one hmm hbase grdBought h0 hfit
      have hmm' : ({ mm with
          basePrice := 1, active := true, timestamp := wrap64 now } : MarketMaker).WellFormed :=
        ⟨hmm.spread_pos, hmm.spread_le, hmm.size_pos, hmm.levels_le, hmm.levels_pos⟩
      simp only [hactive, Bool.not_true, Bool.false_eq_true, if_false, hprice]
      rw [cancelMMOrders_eq env hopen, placeMMOrders_eq env _ (mmQuotes_eq_nil hmm' rfl _ _)]
      exact ⟨⟨rfl, rfl, rfl⟩, hmakers.writeMarketMaker hmm'⟩

/-- The market maker of a request. -/
def SetupRequest.marketMaker (request : SetupRequest) (basePrice now : Int) : MarketMaker :=
  ⟨request.assetId, request.mmAddress, request.spreadBps, request.orderSize, request.numLevels,
    basePrice, true, wrap64 now⟩

theorem setupmarketmaker_ok {request : SetupRequest} {now : Int} {keys : List OrderKey}
    (h : setupmarketmaker env dbs request now = .ok (dbs', keys)) :
    ∃ basePrice, request.basePrice = some basePrice ∧ 0 < basePrice ∧
      basePrice ≤ 999999999999999999 ∧ (request.marketMaker basePrice now).WellFormed ∧
      dbs' = ⟨dbs.assetDb, placeMMOrders env
        ((cancelOldMMOrders env dbs.dexDb request.assetId).writeMarketMaker
          (request.marketMaker basePrice now)) dbs.assetDb (request.marketMaker basePrice now) now⟩ ∧
      keys = mmQuotes dbs.assetDb (request.marketMaker basePrice now) now := by
  unfold setupmarketmaker at h
  simp only [bind_ok_iff, throwIf_eq_ok, Except.ok.injEq, Prod.mk.injEq] at h
  obtain ⟨_, -, basePrice, hbase, spread, hspreadOk, size, hsizeOk, levels, hlevelsOk, _, -, _, hpos,
    _, hspread, _, hsize, _, hlevels, _, -, _, -, hdbs, hkeys⟩ := h
  obtain ⟨hbase, -, hmax⟩ := amountFromValue_eq_ok hbase
  obtain rfl := (getInt64_eq_ok hspreadOk).1
  obtain rfl := (getInt64_eq_ok hsizeOk).1
  obtain rfl := getInt32_eq_ok hlevelsOk
  simp only [decide_eq_false_iff_not, not_or, not_lt, not_le] at hpos hspread hsize hlevels
  exact ⟨basePrice, hbase, hpos, hmax, ⟨hspread.1, hspread.2, hsize, hlevels.2, hlevels.1⟩, hdbs.symm,
    hkeys.symm⟩

theorem setupmarketmaker_quotesNothing {request : SetupRequest} {now : Int} {keys : List OrderKey}
    (hmakers : MakersWellFormed dbs)
    (hok : setupmarketmaker env dbs request now = .ok (dbs', keys))
    (hbase : request.basePrice = some 1)
    (hopen : ∀ mm, dbs.dexDb.readMarketMaker request.assetId = some mm →
      NothingOpen dbs.dexDb request.assetId mm.mmAddress) :
    SameBook dbs dbs' ∧ MakersWellFormed dbs' := by
  obtain ⟨basePrice, hprice, -, -, hmm, hdbs, -⟩ := setupmarketmaker_ok hok
  obtain rfl := Option.some.inj (hprice.symm.trans hbase)
  have hcancel : cancelOldMMOrders env dbs.dexDb request.assetId = dbs.dexDb := by
    unfold cancelOldMMOrders
    cases hread : dbs.dexDb.readMarketMaker request.assetId with
    | none => rfl
    | some mm => exact cancelMMOrders_eq env (hopen mm hread)
  rw [hcancel, placeMMOrders_eq env _ (mmQuotes_eq_nil hmm rfl _ _)] at hdbs
  subst hdbs
  exact ⟨⟨rfl, rfl, rfl⟩, hmakers.writeMarketMaker hmm⟩

end Changes

theorem matchLoop_marketMakers (env : DexEnv) (dbs : Databases) (assetId : Uint256)
    (clock : Nat → Int) :
    (matchLoop env dbs assetId clock).dbs.dexDb.marketMakers = dbs.dexDb.marketMakers := by
  refine Run.loop_inv
    (I := fun m : MatchState => m.dbs.dexDb.marketMakers = dbs.dexDb.marketMakers) ?_ _ rfl
  intro m m' hm hstep
  obtain ⟨buy, buys, sell, sells, -, -, -, hcases⟩ := matchStep_cases hstep
  rcases hcases with ⟨-, rfl⟩ | ⟨-, rfl⟩ | ⟨-, -, -, hdbs, -⟩
  · exact hm
  · exact hm
  · rw [hdbs]
    exact (settle_onlyBalances _ _ _ _ _).marketMakers.trans hm

theorem DexRun.Executed.marketMakers {env : DexEnv} {s s' : DexRun} (hexec : Executed env s s') :
    s'.dbs.dexDb.marketMakers = s.dbs.dexDb.marketMakers := by
  cases hexec with
  | deposit | withdraw => rfl
  | place key dbs1 hkey hescrow => exact (escrow_onlyBalances hescrow).marketMakers
  | cancel orderId order hread hactive => exact (refund_onlyBalances s.dbs order).marketMakers
  | matched assetId clock => exact matchLoop_marketMakers env s.dbs assetId clock

theorem DexRun.step_marketMakers (env : DexEnv) (s : DexRun) (request : DexRequest) :
    (s.step env request).dbs.dexDb.marketMakers = s.dbs.dexDb.marketMakers := by
  rcases DexRun.step_cases env s request with hstep | hstep
  · rw [hstep]
  · exact hstep.marketMakers

section Runs

variable {env : DexEnv} {supply : Uint256 → Int}

/-- A request that changes a market maker's quotes. -/
def MMRequest.requotes : MMRequest → Bool
  | .book _ => false
  | .setupmarketmaker _ _ => true
  | .autoAdjustMMPrice _ _ _ _ => true

theorem mmStep_sameBook {s : DexRun} {request : MMRequest} (hmakers : MakersWellFormed s.dbs)
    (hrequotes : request.requotes = true) (h : QuotesNothing env s request) :
    SameBook s.dbs (mmStep env s request).dbs ∧ MakersWellFormed (mmStep env s request).dbs ∧
      mmStep env s request = { s with dbs := (mmStep env s request).dbs } := by
  cases request with
  | book request => cases hrequotes
  | setupmarketmaker request now =>
    cases hsetup : setupmarketmaker env s.dbs request now with
    | error err =>
      simp only [mmStep, hsetup]
      exact ⟨.refl _, hmakers, trivial⟩
    | ok result =>
      obtain ⟨dbs, keys⟩ := result
      simp only [mmStep, hsetup]
      rcases h with ⟨err, herr⟩ | ⟨hbase, hopen⟩
      · rw [hsetup] at herr
        cases herr
      · obtain ⟨hsame, hmakers'⟩ := setupmarketmaker_quotesNothing hmakers hsetup hbase hopen
        exact ⟨hsame, hmakers', trivial⟩
  | autoAdjustMMPrice assetId grdBought trade now =>
    obtain ⟨hsame, hmakers'⟩ := autoAdjustMMPrice_quotesNothing hmakers h
    exact ⟨hsame, hmakers', rfl⟩

theorem mmStep_fits (s : DexRun) (request : MMRequest)
    (h : (mmStep env s request).Fits env.crypto) : s.Fits env.crypto := by
  cases request with
  | book request => exact DexRun.fits_of_step s request h
  | setupmarketmaker request now =>
    cases hsetup : setupmarketmaker env s.dbs request now with
    | error err =>
      simp only [mmStep, hsetup] at h
      exact h
    | ok result =>
      simp only [mmStep, hsetup] at h
      exact ⟨h.placeable, h.deposited⟩
  | autoAdjustMMPrice assetId grdBought trade now => exact ⟨h.placeable, h.deposited⟩

structure MMInv (crypto : Crypto) (supply : Uint256 → Int) (s : DexRun) : Prop where
  inv : s.Inv crypto supply
  makers : MakersWellFormed s.dbs

theorem mmStep_inv (hsupply : ∀ a, supply a < 9223372036854775808) (s : DexRun)
    (request : MMRequest) (h : MMInv env.crypto supply s)
    (hstep : QuotesNothing env s request ∧ (mmStep env s request).Fits env.crypto) :
    MMInv env.crypto supply (mmStep env s request) := by
  obtain ⟨hquotes, hfits⟩ := hstep
  cases hrequotes : request.requotes with
  | true =>
    obtain ⟨hsame, hmakers, hrest⟩ := mmStep_sameBook h.makers hrequotes hquotes
    refine ⟨?_, hmakers⟩
    rw [hrest]
    exact hsame.inv rfl h.inv
  | false =>
    cases request with
    | book request =>
      refine ⟨DexRun.step_inv hsupply s request h.inv hfits, ?_⟩
      show MakersWellFormed (s.step env request).dbs
      rw [MakersWellFormed, DexRun.step_marketMakers]
      exact h.makers
    | setupmarketmaker request now => cases hrequotes
    | autoAdjustMMPrice assetId grdBought trade now => cases hrequotes

end Runs

/-- In every run of the order book with market makers in which no quote is placed and none is
    cancelled, the balances and the active orders hold what was deposited and not withdrawn and as
    much of each asset as there was. -/
theorem mmRun_backed_of_quotesNothing (env : DexEnv) (assetDb : AssetDB)
    (oraclePegRates : Store String OraclePegRate) (requests : List MMRequest)
    (hnonneg : ∀ e ∈ assetDb.balances.entries, 0 ≤ e.2)
    (hplace : Placeable env.crypto
      (Run.run (mmStep env) (.start assetDb .empty oraclePegRates) requests).placed)
    (hdeposited : (Run.run (mmStep env) (.start assetDb .empty oraclePegRates) requests).deposited <
      9223372036854775808)
    (hsupply : ∀ a, (DexRun.start assetDb .empty oraclePegRates).dbs.assetTotal a <
      9223372036854775808)
    (hquotes : Run.Along (mmStep env) (QuotesNothing env) (.start assetDb .empty oraclePegRates)
      requests) :
    Run.Along (mmStep env)
        (fun s request => request.requotes = true → KeepsWealth s.dbs (mmStep env s request).dbs)
        (.start assetDb .empty oraclePegRates) requests ∧
      ∀ before, before <+: requests →
        (Run.run (mmStep env) (.start assetDb .empty oraclePegRates) before).dbs.Backed
          ((Run.run (mmStep env) (.start assetDb .empty oraclePegRates) before).deposited -
            (Run.run (mmStep env) (.start assetDb .empty oraclePegRates) before).withdrawn)
          (DexRun.start assetDb .empty oraclePegRates).dbs.assetTotal := by
  have hstart : MMInv env.crypto (DexRun.start assetDb .empty oraclePegRates).dbs.assetTotal
      (.start assetDb .empty oraclePegRates) :=
    ⟨DexRun.start_inv assetDb .empty oraclePegRates env.crypto hnonneg, List.forall_mem_nil _⟩
  have halong := hquotes.and (Run.along_of_run mmStep_fits ⟨hplace, hdeposited⟩)
  constructor
  · refine halong.mono (mmStep_inv hsupply) ?_ hstart
    intro s request hinv hstep hrequotes
    exact (mmStep_sameBook hinv.makers hrequotes hstep.1).1.keepsWealth
  · intro before hbefore
    exact ((halong.of_initial hbefore).inv (mmStep_inv hsupply) hstart).inv.backed

def sampleQuietRequests : List MMRequest :=
  .setupmarketmaker ⟨7, sampleSeller, some 1, 50, 1, 5, none⟩ 900 ::
    .autoAdjustMMPrice 7 true 3 950 :: sampleRequests.map .book

theorem mmRun_backed_of_quotesNothing_sample :
    (Run.run (mmStep sampleDexEnv) (.start sampleAssetDB .empty .empty)
        sampleQuietRequests).dbs.Backed 400
      (DexRun.start sampleAssetDB .empty .empty).dbs.assetTotal := by
  -- the run is evaluated once for all its values
  have hvalues : (Run.run (mmStep sampleDexEnv) (.start sampleAssetDB .empty .empty)
        sampleQuietRequests).placed =
          [⟨7, .sell, 30, 5, sampleSeller, 1000⟩, ⟨7, .buy, 40, 8, sampleBuyer, 1001⟩] ∧
      (Run.run (mmStep sampleDexEnv) (.start sampleAssetDB .empty .empty)
        sampleQuietRequests).deposited = 500 ∧
      (Run.run (mmStep sampleDexEnv) (.start sampleAssetDB .empty .empty)
        sampleQuietRequests).withdrawn = 100 ∧
      (mmStep sampleDexEnv (.start sampleAssetDB .empty .empty)
        (.setupmarketmaker ⟨7, sampleSeller, some 1, 50, 1, 5, none⟩ 900)).dbs.dexDb.readMarketMaker
          7 = some ⟨7, sampleSeller, 50, 1, 5, 1, true, 900⟩ := by
    decide +kernel
  obtain ⟨hplaced, hdeposited, hwithdrawn, hmaker⟩ := hvalues
  have hbalance : (Run.run (mmStep sampleDexEnv) (.start sampleAssetDB .empty .empty)
        sampleQuietRequests).deposited -
      (Run.run (mmStep sampleDexEnv) (.start sampleAssetDB .empty .empty)
        sampleQuietRequests).withdrawn = 400 := by
    rw [hdeposited, hwithdrawn]
    rfl
  rw [← hbalance]
  refine (mmRun_backed_of_quotesNothing sampleDexEnv sampleAssetDB .empty sampleQuietRequests
    (by decide) ?_ (hdeposited.trans_lt (by decide)) ?_ ?_).2 sampleQuietRequests
    (List.prefix_refl _)
  · rw [hplaced]
    exact ⟨by decide +kernel, by decide +kernel, by decide +kernel⟩
  · intro a
    show (if (7 : Uint256) = a then (10 : Int) else 0) + 0 < _
    split_ifs <;> omega
  · refine ⟨.inr ⟨rfl, fun mm hread => by cases hread⟩, ?_,
      trivial, trivial, trivial, trivial, trivial, trivial, trivial⟩
    intro mm hread _
    obtain rfl := Option.some.inj (hmaker.symm.trans hread)
    exact ⟨rfl, by unfold NothingOpen; decide +kernel, by decide, by decide⟩

def sampleQuotedRequests : List MMRequest :=
  [.setupmarketmaker ⟨7, sampleSeller, some 1000, 50, 1, 1, none⟩ 1000,
    .book (.depositgrd sampleBuyer (some 6000) none),
    .book (.placeorder 7 "BUY" 5 (some 1002) sampleBuyer 1001),
    .book (.matchorders 7 fun _ => 1002)]

def sampleQuotedRun : DexRun :=
  Run.run (mmStep sampleDexEnv) (.start sampleAssetDB .empty .empty) sampleQuotedRequests

/-- The buyer gets five units and the market maker, who is paid for them, still has its ten. -/
theorem mmRun_unbacked :
    sampleQuotedRun.dbs.assetDb.readBalance 7 sampleSeller = 10 ∧
      sampleQuotedRun.dbs.dexDb.readGrdBalance sampleSeller = 5010 ∧
      sampleQuotedRun.dbs.assetDb.readBalance 7 sampleBuyer = 5 ∧
      ¬ sampleQuotedRun.dbs.Backed (sampleQuotedRun.deposited - sampleQuotedRun.withdrawn)
        (DexRun.start sampleAssetDB .empty .empty).dbs.assetTotal := by
  have hvalues : sampleQuotedRun.dbs.assetDb.readBalance 7 sampleSeller = 10 ∧
      sampleQuotedRun.dbs.dexDb.readGrdBalance sampleSeller = 5010 ∧
      sampleQuotedRun.dbs.assetDb.readBalance 7 sampleBuyer = 5 ∧
      sampleQuotedRun.dbs.assetTotal 7 + sampleQuotedRun.dbs.sellEscrow 7 ≠
        (DexRun.start sampleAssetDB .empty .empty).dbs.assetTotal 7 := by
    decide +kernel
  obtain ⟨hasset, hgrd, hbought, htotal⟩ := hvalues
  refine ⟨hasset, hgrd, hbought, ?_⟩
  intro hbacked
  exact htotal (hbacked.asset_eq 7)

end GarudaChain
