import GarudaChain.Dex.Proofs.MarketSwapProofs
import GarudaChain.Dex.Proofs.OutcomeProofs
import GarudaChain.Dex.Proofs.PlacementProofs
import Mathlib.Algebra.BigOperators.Group.Finset.Piecewise

/-!
# What `swapgrdtostable` takes and gives
-/

namespace GarudaChain

open Int64Lib Result

/-- What `moveStable` adds to a balance. -/
def moved (mmAddress other : Bytes) (mmChange : Int) (address : Bytes) : Int :=
  if address = other then -mmChange else if address = mmAddress then mmChange else 0

theorem moveStable_adds {db : AssetDB} {assetId : Uint256} (h : db.Int64 assetId)
    (mmAddress other : Bytes) (mmChange : Int) :
    db.Adds assetId (moved mmAddress other mmChange)
      (moveStable db assetId mmAddress other mmChange) := by
  intro a address
  unfold moveStable moved
  simp only [AssetDB.readBalance_writeBalance]
  by_cases ha : a = assetId
  · subst ha
    by_cases hother : address = other
    · subst hother
      simp [sub_eq_add_neg]
    · by_cases hmm : address = mmAddress
      · subst hmm
        simp [hother]
      · simp [hother, hmm, wrap64_of_range (h address).1 (h address).2]
  · simp [ha]

def sampleMaker : Bytes := asciiBytes "grd1qmcsa39ua3nqx6r4k9f5j2e4e75nc7gu2pv32hd".toList

/-- What the fills add up to. -/
def fillTotal (w : Fill → Int) (fills : List Fill) : Int := (fills.map w).sum

/-- What the fills of the orders of one owner add up to. -/
def fillTotalOf (w : Fill → Int) (fills : List Fill) (owner : Bytes) : Int :=
  (fills.map fun fill => if fill.order.owner = owner then w fill else 0).sum

section Totals

variable {w : Fill → Int}

theorem fillTotal_append (fills : List Fill) (fill : Fill) :
    fillTotal w (fills ++ [fill]) = fillTotal w fills + w fill := by
  simp [fillTotal]

theorem fillTotalOf_append (fills : List Fill) (fill : Fill) (owner : Bytes) :
    fillTotalOf w (fills ++ [fill]) owner =
      fillTotalOf w fills owner + if fill.order.owner = owner then w fill else 0 := by
  simp [fillTotalOf]

variable {fills : List Fill}

theorem fillTotalOf_nonneg (h : ∀ fill ∈ fills, 0 ≤ w fill) (owner : Bytes) :
    0 ≤ fillTotalOf w fills owner := by
  refine List.sum_nonneg ?_
  intro x hx
  obtain ⟨fill, hfill, rfl⟩ := List.mem_map.mp hx
  split_ifs
  · exact h fill hfill
  · exact le_refl 0

theorem fillTotalOf_le (h : ∀ fill ∈ fills, 0 ≤ w fill) (owner : Bytes) :
    fillTotalOf w fills owner ≤ fillTotal w fills := by
  refine List.sum_le_sum ?_
  intro fill hfill
  split_ifs
  · exact le_refl _
  · exact h fill hfill

theorem fillTotal_le {bound : Int} (h : ∀ fill ∈ fills, w fill ≤ bound) :
    fillTotal w fills ≤ fills.length * bound := by
  have hsum := List.sum_le_card_nsmul (fills.map w) bound (by simpa using h)
  simpa [fillTotal] using hsum

theorem fillTotal_eq_sum {owners : Finset Bytes} (h : ∀ fill ∈ fills, fill.order.owner ∈ owners) :
    fillTotal w fills = ∑ owner ∈ owners, fillTotalOf w fills owner := by
  induction fills with
  | nil => simp [fillTotal, fillTotalOf]
  | cons fill fills ih =>
    obtain ⟨hfill, hfills⟩ := List.forall_mem_cons.mp h
    have hsplit : ∀ owner, fillTotalOf w (fill :: fills) owner =
        (if fill.order.owner = owner then w fill else 0) + fillTotalOf w fills owner := by
      intro owner
      simp [fillTotalOf]
    have hhead : fillTotal w (fill :: fills) = w fill + fillTotal w fills := by simp [fillTotal]
    simp only [hsplit, Finset.sum_add_distrib]
    rw [← ih hfills, Finset.sum_ite_eq owners fill.order.owner, if_pos hfill, hhead]

theorem fillTotal_of_single {owner : Bytes}
    (h : ∀ other, other ≠ owner → fillTotalOf w fills other = 0) :
    fillTotal w fills = fillTotalOf w fills owner := by
  have howners : ∀ fill ∈ fills,
      fill.order.owner ∈ insert owner (fills.map fun fill => fill.order.owner).toFinset :=
    fun fill hfill => Finset.mem_insert_of_mem (List.mem_toFinset.mpr (List.mem_map.mpr
      ⟨fill, hfill, rfl⟩))
  rw [fillTotal_eq_sum howners]
  exact Finset.sum_eq_single_of_mem owner (Finset.mem_insert_self _ _) fun other _ hne => h other hne

end Totals

/-- An ask with a price, of which something is left. -/
structure Order.Payable (o : Order) : Prop extends o.Fillable where
  price_pos : 0 < o.price

/-- The cost of the fill is not changed by the cast of `SafeMulDiv`. -/
def Fill.CostFits (fill : Fill) : Prop :=
  fill.fillSat * fill.order.price < 9223372036854775808 * coinSat

structure Fill.Priced (fill : Fill) : Prop where
  pos : 0 < fill.fillSat
  fits : fill.fillSat < 9223372036854775808
  units_eq : fill.units = stableUnits fill.fillSat
  grd_nonneg : 0 ≤ fill.grd
  grd_le : fill.grd * coinSat ≤ fill.fillSat * fill.order.price
  lt_grd : fill.fillSat * fill.order.price < (fill.grd + 1) * coinSat

theorem mulDiv_bounds {x : Int} (hx : 0 ≤ x) :
    0 ≤ x / coinSat ∧ x / coinSat * coinSat ≤ x ∧ x < (x / coinSat + 1) * coinSat := by
  unfold coinSat
  omega

theorem Order.Payable.fill_priced {r : Int} {fill : Fill} (ho : fill.order.Payable)
    (h : grdToStableRound r fill.order = .fill fill.fillSat fill.units fill.grd)
    (hfit : fill.CostFits) : fill.Priced ∧ fill.grd ≤ r := by
  obtain ⟨hpos, hunits, hfill⟩ := grdToStableRound_fill h
  have hremaining := ho.toFillable.remaining_eq
  have hprice := ho.price_pos
  have hleft : 0 < fill.order.remaining := by
    rw [hremaining]
    have := ho.filled_lt
    omega
  have hlt : fill.order.remaining < 9223372036854775808 := by
    have := ho.filled_nonneg
    have := ho.amount_lt
    omega
  have hcost0 : 0 < fill.order.remaining * fill.order.price := mul_pos hleft hprice
  have hcoin : (0 : Int) < coinSat := by decide
  rcases hfill with ⟨hwhole, hgrd, hle⟩ | ⟨hsat, hpart, hgrd, hmore⟩
  · have hcost : fill.order.remaining * fill.order.price < 9223372036854775808 * coinSat := by
      rw [← hwhole]
      exact hfit
    rw [hwhole, safeMulDiv_of_nonneg hcost0.le hcoin hcost] at hgrd
    obtain ⟨h0, hdown, hup⟩ := mulDiv_bounds hcost0.le
    rw [← hgrd] at h0 hdown hup
    exact ⟨⟨by omega, by omega, hunits, h0, hwhole ▸ hdown, hwhole ▸ hup⟩, hle⟩
  · -- the ask costs more than remains, with the cast or without, so what is bought is less than the ask
    have hbudget : r * coinSat < fill.order.remaining * fill.order.price := by
      obtain ⟨h0, hdown, -⟩ := mulDiv_bounds hcost0.le
      have hcast : safeMulDiv fill.order.remaining fill.order.price coinSat ≤
          fill.order.remaining * fill.order.price / coinSat := by
        rw [safeMulDiv, if_neg (by decide), Int.tdiv_eq_ediv_of_nonneg hcost0.le]
        exact wrap64_le (by omega)
      exact lt_of_lt_of_le (mul_lt_mul_of_pos_right (hmore.trans_le hcast) hcoin) hdown
    have hfits : r * coinSat < 9223372036854775808 * fill.order.price :=
      hbudget.trans (mul_lt_mul_of_pos_right hlt hprice)
    rw [safeMulDiv_of_nonneg (mul_nonneg hpos.le hcoin.le) hprice hfits] at hpart
    have hspent : fill.fillSat * fill.order.price ≤ r * coinSat := by
      rw [hpart]
      exact Int.ediv_mul_le _ hprice.ne'
    have hspent0 : 0 ≤ fill.fillSat * fill.order.price := (mul_pos hsat hprice).le
    rw [safeMulDiv_of_nonneg hspent0 hcoin hfit] at hgrd
    obtain ⟨h0, hdown, hup⟩ := mulDiv_bounds hspent0
    rw [← hgrd] at h0 hdown hup
    have hsatLt : fill.fillSat < fill.order.remaining :=
      lt_of_mul_lt_mul_right (hspent.trans_lt hbudget) hprice.le
    refine ⟨⟨hsat, by omega, hunits, h0, hdown, hup⟩, ?_⟩
    exact le_of_mul_le_mul_right (hdown.trans hspent) hcoin

theorem Fill.Priced.units_le_iff {fill : Fill} (h : fill.Priced) :
    fill.units ≤ fill.fillSat / coinSat ↔ coinSat ≤ fill.fillSat := by
  have hpos := h.pos
  rw [h.units_eq, stableUnits, Int.tdiv_eq_ediv_of_nonneg hpos.le]
  unfold coinSat
  split_ifs <;> omega

theorem Fill.Priced.units_range {fill : Fill} (h : fill.Priced) :
    0 < fill.units ∧ fill.units ≤ 92233720368 := by
  have hpos := h.pos
  have hfits := h.fits
  rw [h.units_eq, stableUnits, Int.tdiv_eq_ediv_of_nonneg hpos.le]
  unfold coinSat
  split_ifs <;> omega

/-- What a swap adds to a balance of the asset: the buyer gets the units of all fills, and every
    other address gives those of its own asks. -/
def unitsMoved (buyer : Bytes) (fills : List Fill) (address : Bytes) : Int :=
  if address = buyer then fillTotal Fill.units fills else -(fillTotalOf Fill.units fills address)

/-- What holds in every round of the loop of `swapgrdtostable`. -/
structure PaidRound (db : AssetDB) (assetId : Uint256) (buyer : Bytes) (budget : Int)
    (s : SwapState) : Prop where
  remaining_nonneg : 0 ≤ s.remaining
  remaining_eq : s.remaining = budget - fillTotal Fill.grd s.fills
  priced : ∀ fill ∈ s.fills, fill.Priced
  balances : db.Adds assetId (unitsMoved buyer s.fills) s.market.dbs.assetDb

section Loop

variable {db : AssetDB} {assetId : Uint256} {buyer : Bytes} {budget now : Int} {crypto : Crypto}

theorem PaidRound.take (hbudget : budget < 9223372036854775808) {s : SwapState} {fill : Fill}
    (h : PaidRound db assetId buyer budget s) (ho : fill.order.Payable) (hfit : fill.CostFits)
    (hround : grdToStableRound s.remaining fill.order = .fill fill.fillSat fill.units fill.grd) :
    PaidRound db assetId buyer budget ((grdToStableLoop crypto assetId buyer now).take s fill) := by
  obtain ⟨hpriced, hle⟩ := ho.fill_priced hround hfit
  have hgrd := hpriced.grd_nonneg
  have hspent : 0 ≤ fillTotal Fill.grd s.fills := by
    refine List.sum_nonneg ?_
    intro x hx
    obtain ⟨fill', hfill', rfl⟩ := List.mem_map.mp hx
    exact (h.priced fill' hfill').grd_nonneg
  have hremaining := h.remaining_eq
  have hwrap : wrap64 (s.remaining - fill.grd) = s.remaining - fill.grd :=
    wrap64_of_range (by omega) (by omega)
  refine ⟨?_, ?_, ?_, ?_⟩
  · show 0 ≤ wrap64 (s.remaining - fill.grd)
    omega
  · show wrap64 (s.remaining - fill.grd) = budget - fillTotal Fill.grd (s.fills ++ [fill])
    rw [fillTotal_append, hwrap]
    omega
  · intro fill' hfill'
    rcases List.mem_append.mp hfill' with hold | hnew
    · exact h.priced fill' hold
    · obtain rfl := List.mem_singleton.mp hnew
      exact hpriced
  · have hmoved := h.balances.trans
      (moveStable_adds h.balances.int64 fill.order.owner buyer (-fill.units))
    have hsum : (fun address => unitsMoved buyer s.fills address +
        moved fill.order.owner buyer (-fill.units) address) = unitsMoved buyer (s.fills ++ [fill]) := by
      funext address
      unfold unitsMoved moved
      rw [fillTotal_append, fillTotalOf_append]
      by_cases hbuyer : address = buyer
      · simp [hbuyer]
      · by_cases howner : address = fill.order.owner
        · subst howner
          simp [hbuyer]
          omega
        · have hne : ¬ fill.order.owner = address := fun heq => howner heq.symm
          simp [hbuyer, howner, hne]
    rw [hsum] at hmoved
    exact hmoved

theorem grdToStable_paidRound {market : Market} {orders : List Order}
    (hint64 : market.dbs.assetDb.Int64 assetId) (h0 : 0 ≤ budget)
    (hbudget : budget < 9223372036854775808) (horders : ∀ o ∈ orders, o.Payable) :
    let s := (grdToStableLoop crypto assetId buyer now).run market budget orders
    (∀ fill ∈ s.fills, fill.CostFits) → PaidRound market.dbs.assetDb assetId buyer budget s := by
  refine SwapLoop.run_inv _ _ _ _
    (I := fun s => (∀ fill ∈ s.fills, fill.CostFits) → PaidRound market.dbs.assetDb assetId buyer budget s)
    (fun _ => ⟨h0, ?_, by simp, ?_⟩) ?_
  · simp [fillTotal]
  · have hnothing : unitsMoved buyer [] = fun _ => 0 := by
      funext address
      simp [unitsMoved, fillTotal, fillTotalOf]
    rw [hnothing]
    exact .zero hint64
  · intro s fill hs ho hround hfits
    obtain ⟨hbefore, hfit⟩ := List.forall_mem_append.mp hfits
    exact (hs hbefore).take hbudget (horders _ ho) (hfit fill List.mem_cons_self) hround

/-- The cost of every fill is a value of `int64_t`. -/
theorem grdToStable_grd_lt {market : Market} {orders : List Order} :
    ∀ fill ∈ ((grdToStableLoop crypto assetId buyer now).run market budget orders).fills,
      fill.grd < 9223372036854775808 := by
  refine SwapLoop.run_inv _ _ _ _ (I := fun s => ∀ fill ∈ s.fills, fill.grd < 9223372036854775808)
    (by simp) ?_
  intro s fill hs _ hround fill' hfill'
  rcases List.mem_append.mp hfill' with hold | hnew
  · exact hs fill' hold
  · obtain rfl := List.mem_singleton.mp hnew
    obtain ⟨-, -, ⟨-, hgrd, -⟩ | ⟨-, -, hgrd, -⟩⟩ := grdToStableRound_fill hround
    all_goals
      rw [hgrd, safeMulDiv, if_neg (by decide)]
      exact (wrap64_range _).2

end Loop

theorem autoAdjustMMPrice_assetDb (env : DexEnv) (dbs : Databases) (assetId : Uint256)
    (grdBought : Bool) (trade now : Int) :
    (autoAdjustMMPrice env dbs assetId grdBought trade now).assetDb = dbs.assetDb := by
  unfold autoAdjustMMPrice
  cases dbs.dexDb.readMarketMaker assetId with
  | none => rfl
  | some mm =>
    simp only
    split_ifs <;> rfl

/-- A fill gives no more than its whole units and costs what it exactly costs up to a satoshi,
    within the budget. -/
structure DeliversPaid (assetId : Uint256) (budget : Int) (fills : List Fill) (db : AssetDB) :
    Prop where
  units : ∀ fill ∈ fills, fill.units ≤ fill.fillSat / coinSat
  cost : ∀ fill ∈ fills, fill.fillSat * fill.order.price < (fill.grd + 1) * coinSat
  budget : fillTotal Fill.grd fills ≤ budget
  nonneg : ∀ address, 0 ≤ db.readBalance assetId address

/-- A call of `swapgrdtostable` delivers what is paid for just where, in the plan for the budget and the
    sorted asks, every fill is of at least one whole unit at a cost that fits in `int64_t`, every other
    address has the units its asks give and the new balance of the buyer fits. -/
theorem swapgrdtostable_deliversPaid_iff (env : DexEnv) (market market' : Market)
    (assetId : Uint256) (buyer : Bytes) (grdBudget now adjustedAt : Int) (result : GrdToStableResult)
    (h : swapgrdtostable env market assetId buyer (some grdBudget) now adjustedAt =
      (market', .ok result))
    (hnonneg : market.dbs.assetDb.Nonneg) (hint64 : market.dbs.assetDb.Int64 assetId)
    (hasks : ∀ o ∈ activeOrders market.dbs.dexDb assetId .sell, o.status = .OPEN → o.Payable) :
    let fills := ((grdToStableLoop env.crypto assetId buyer now).plan grdBudget
      (marketOrders env market.dbs.dexDb assetId .sell)).fills
    DeliversPaid assetId grdBudget result.fills market'.dbs.assetDb ↔
      (∀ fill ∈ fills, coinSat ≤ fill.fillSat ∧ fill.CostFits) ∧
      (∀ owner, owner ≠ buyer → fillTotalOf Fill.units fills owner ≤
        market.dbs.assetDb.readBalance assetId owner) ∧
      market.dbs.assetDb.readBalance assetId buyer + fillTotal Fill.units fills <
        9223372036854775808 := by
  intro fills
  obtain ⟨budget, s, hchecks, hs, hmarket, -, hfills⟩ := swapgrdtostable_ok h
  obtain ⟨hbudget, hpos, hle, -⟩ := grdToStableChecks_ok hchecks
  obtain rfl := Option.some.inj hbudget
  have hpayable : ∀ o ∈ marketOrders env market.dbs.dexDb assetId .sell, o.Payable :=
    fun o ho => hasks o (activeOrders_of_mem ho) (mem_marketOrders ho).2.2.2
  have hplan : fills = s.fills := by
    rw [hs]
    exact (SwapLoop.run_eq_plan _ _ _ _).2.2.symm
  rw [hplan]
  -- with a cost that does not fit a fill is paid too little, so either side says that all fit
  suffices hiff : (∀ fill ∈ s.fills, fill.CostFits) →
      (DeliversPaid assetId grdBudget result.fills market'.dbs.assetDb ↔
        (∀ fill ∈ s.fills, coinSat ≤ fill.fillSat) ∧
        (∀ owner, owner ≠ buyer → fillTotalOf Fill.units s.fills owner ≤
          market.dbs.assetDb.readBalance assetId owner) ∧
        market.dbs.assetDb.readBalance assetId buyer + fillTotal Fill.units s.fills <
          9223372036854775808) by
    constructor
    · intro hpaid
      have hfit : ∀ fill ∈ s.fills, fill.CostFits := by
        intro fill hfill
        have hcost := hpaid.cost fill (hfills ▸ hfill)
        have hgrd : fill.grd < 9223372036854775808 := by
          rw [hs] at hfill
          exact grdToStable_grd_lt fill hfill
        have hcoin : (0 : Int) < coinSat := by decide
        exact hcost.trans_le (mul_le_mul_of_nonneg_right (by omega) hcoin.le)
      obtain ⟨hwhole, hrest⟩ := (hiff hfit).mp hpaid
      exact ⟨fun fill hfill => ⟨hwhole fill hfill, hfit fill hfill⟩, hrest⟩
    · rintro ⟨hwhole, hrest⟩
      exact (hiff fun fill hfill => (hwhole fill hfill).2).mpr
        ⟨fun fill hfill => (hwhole fill hfill).1, hrest⟩
  intro hfit
  have hround : PaidRound market.dbs.assetDb assetId buyer grdBudget s := by
    rw [hs] at hfit ⊢
    exact grdToStable_paidRound hint64 hpos.le (by omega) hpayable hfit
  have hcount : (s.fills.length : Int) ≤ 500 := by
    have hsub := (SwapLoop.run_sublist (grdToStableLoop env.crypto assetId buyer now) market
      grdBudget (marketOrders env market.dbs.dexDb assetId .sell)).length_le
    rw [← hs, List.length_map] at hsub
    have := length_marketOrders env market.dbs.dexDb assetId .sell
    omega
  have hassetDb : market'.dbs.assetDb = s.market.dbs.assetDb := by
    rw [hmarket]
    exact autoAdjustMMPrice_assetDb env s.market.dbs assetId false s.received adjustedAt
  rw [hfills, hassetDb]
  have hunits : ∀ fill ∈ s.fills, 0 ≤ fill.units :=
    fun fill hfill => (hround.priced fill hfill).units_range.1.le
  -- there are at most 500 fills of at most so many units
  have htotal : fillTotal Fill.units s.fills ≤ 500 * 92233720368 := by
    refine (fillTotal_le fun fill hfill => (hround.priced fill hfill).units_range.2).trans ?_
    omega
  have htotal0 : 0 ≤ fillTotal Fill.units s.fills := by
    have h0 := fillTotalOf_nonneg hunits buyer
    have hle := fillTotalOf_le hunits buyer
    omega
  have hbuyer : 0 ≤ s.market.dbs.assetDb.readBalance assetId buyer ↔
      market.dbs.assetDb.readBalance assetId buyer + fillTotal Fill.units s.fills <
        9223372036854775808 := by
    have h0 := hnonneg.readBalance assetId buyer
    have hlt := (hint64 buyer).2
    rw [hround.balances, if_pos rfl, unitsMoved, if_pos rfl]
    constructor
    · intro hkept
      by_contra hge
      have := wrap64_neg (x := market.dbs.assetDb.readBalance assetId buyer +
        fillTotal Fill.units s.fills) (by omega) (by omega)
      omega
    · intro hfits
      rw [wrap64_of_range (by omega) hfits]
      omega
  have howner : ∀ owner, owner ≠ buyer → (0 ≤ s.market.dbs.assetDb.readBalance assetId owner ↔
      fillTotalOf Fill.units s.fills owner ≤ market.dbs.assetDb.readBalance assetId owner) := by
    intro owner hne
    have h0 := hnonneg.readBalance assetId owner
    have hlt := (hint64 owner).2
    have htaken := fillTotalOf_nonneg hunits owner
    have htakenLe := fillTotalOf_le hunits owner
    rw [hround.balances, if_pos rfl, unitsMoved, if_neg hne, wrap64_of_range (by omega) (by omega)]
    omega
  constructor
  · intro hpaid
    exact ⟨fun fill hfill => (hround.priced fill hfill).units_le_iff.mp (hpaid.units fill hfill),
      fun owner hne => (howner owner hne).mp (hpaid.nonneg owner), hbuyer.mp (hpaid.nonneg buyer)⟩
  · rintro ⟨hwhole, hhave, hfits⟩
    refine ⟨fun fill hfill => (hround.priced fill hfill).units_le_iff.mpr (hwhole fill hfill),
      fun fill hfill => (hround.priced fill hfill).lt_grd, ?_, ?_⟩
    · have := hround.remaining_nonneg
      have := hround.remaining_eq
      omega
    · intro address
      by_cases haddress : address = buyer
      · exact haddress ▸ hbuyer.mpr hfits
      · exact (howner address haddress).mpr (hhave address haddress)

theorem swapgrdtostable_deliversPaid_sample :
    ∃ market' result,
      swapgrdtostable sampleSwapEnv sampleOpenMarket 7 sampleBuyer (some 100) 1000 1000 =
          (market', .ok result) ∧
        result.stablecoinReceived = 3 ∧
        DeliversPaid 7 100 result.fills market'.dbs.assetDb := by
  have hcall : Returns (swapgrdtostable sampleSwapEnv sampleOpenMarket 7 sampleBuyer (some 100) 1000
      1000).2 fun result => result.stablecoinReceived = 3 ∧
        result.fills = [⟨bookOrder 1 .sell 200000000 0 30 .OPEN, 200000000, 2, 60⟩,
          ⟨bookOrder 2 .sell 200000000 0 40 .OPEN, 100000000, 1, 40⟩] := by
    decide +kernel
  obtain ⟨result, hok, hreceived, hfills⟩ := hcall
  refine ⟨_, result, Prod.ext rfl hok, hreceived, ?_⟩
  refine (swapgrdtostable_deliversPaid_iff sampleSwapEnv sampleOpenMarket _ 7 sampleBuyer 100 1000
    1000 result (Prod.ext rfl hok) sampleAssetDB_nonneg ?_ ?_).mpr ?_
  · intro address
    have hdb : sampleOpenMarket.dbs.assetDb = sampleAssetDB := rfl
    have h0 := sampleAssetDB_nonneg.readBalance 7 address
    have hle := sampleAssetDB_nonneg.readBalance_le 7 address
    have htotal : sampleAssetDB.assetTotal 7 = 10 := by decide +kernel
    rw [hdb]
    omega
  · have hasks : activeOrders sampleOpenMarket.dbs.dexDb 7 .sell =
        [bookOrder 1 .sell 200000000 0 30 .OPEN, bookOrder 2 .sell 200000000 0 40 .OPEN] := by
      decide +kernel
    intro o ho _
    rw [hasks] at ho
    simp only [List.mem_cons, List.not_mem_nil, or_false] at ho
    rcases ho with rfl | rfl
    · exact ⟨⟨by decide, by decide, by decide⟩, by decide⟩
    · exact ⟨⟨by decide, by decide, by decide⟩, by decide⟩
  · have hplan : ((grdToStableLoop sampleSwapEnv.crypto 7 sampleBuyer 1000).plan 100
        (marketOrders sampleSwapEnv sampleOpenMarket.dbs.dexDb 7 .sell)).fills =
          [⟨bookOrder 1 .sell 200000000 0 30 .OPEN, 200000000, 2, 60⟩,
            ⟨bookOrder 2 .sell 200000000 0 40 .OPEN, 100000000, 1, 40⟩] := by
      decide +kernel
    rw [hplan]
    refine ⟨by unfold Fill.CostFits; decide, ?_, by decide +kernel⟩
    intro owner hne
    by_cases howner : owner = sampleSeller
    · subst howner
      decide +kernel
    · have hnot : ¬ sampleSeller = owner := fun heq => howner heq.symm
      have h0 : 0 ≤ sampleOpenMarket.dbs.assetDb.readBalance 7 owner :=
        sampleAssetDB_nonneg.readBalance 7 owner
      simpa [fillTotalOf, bookOrder, hnot] using h0

def sampleHalfMarket : Market := marketOf [bookOrder 1 .sell 50000000 0 30 .OPEN]

theorem swapgrdtostable_deliversUnpaid :
    ∃ market' result,
      swapgrdtostable sampleSwapEnv sampleHalfMarket 7 sampleBuyer (some 15) 1000 1000 =
          (market', .ok result) ∧
        result.fills = [⟨bookOrder 1 .sell 50000000 0 30 .OPEN, 50000000, 1, 15⟩] ∧
        market'.dbs.assetDb.readBalance 7 sampleBuyer = 1 ∧
        ¬ DeliversPaid 7 15 result.fills market'.dbs.assetDb := by
  have hcall : Returns (swapgrdtostable sampleSwapEnv sampleHalfMarket 7 sampleBuyer (some 15) 1000
        1000).2 (fun result =>
          result.fills = [⟨bookOrder 1 .sell 50000000 0 30 .OPEN, 50000000, 1, 15⟩]) ∧
      (swapgrdtostable sampleSwapEnv sampleHalfMarket 7 sampleBuyer (some 15) 1000
        1000).1.dbs.assetDb.readBalance 7 sampleBuyer = 1 := by
    decide +kernel
  obtain ⟨⟨result, hok, hfills⟩, hbalance⟩ := hcall
  refine ⟨_, result, Prod.ext rfl hok, hfills, hbalance, ?_⟩
  rw [hfills]
  intro hpaid
  exact absurd (hpaid.units _ List.mem_cons_self) (by decide)

theorem foldl_grdBalances {α : Type} (write : DexDB → α → DexDB)
    (hwrite : ∀ db a, (write db a).grdBalances = db.grdBalances) (as : List α) (db : DexDB) :
    (as.foldl write db).grdBalances = db.grdBalances := by
  induction as generalizing db with
  | nil => rfl
  | cons a as ih => rw [List.foldl_cons, ih, hwrite]

theorem autoAdjustMMPrice_grdBalances (env : DexEnv) (dbs : Databases) (assetId : Uint256)
    (grdBought : Bool) (trade now : Int) :
    (autoAdjustMMPrice env dbs assetId grdBought trade now).dexDb.grdBalances =
      dbs.dexDb.grdBalances := by
  have hcancel : ∀ mmAddr, (cancelMMOrders env dbs.dexDb assetId mmAddr).grdBalances =
      dbs.dexDb.grdBalances := by
    intro mmAddr
    refine foldl_grdBalances _ ?_ _ _
    intro db o
    split_ifs <;> rfl
  have hplace : ∀ (mm : MarketMaker) (db : DexDB),
      (placeMMOrders env db dbs.assetDb mm now).grdBalances = db.grdBalances := by
    intro mm db
    refine foldl_grdBalances _ ?_ _ db
    intro db key
    rfl
  unfold autoAdjustMMPrice
  cases dbs.dexDb.readMarketMaker assetId with
  | none => rfl
  | some mm =>
    simp only
    split_ifs
    · rfl
    · exact (hplace _ _).trans (hcancel _)

/-- The payment is moved: the buyer pays what is reported, and every owner of an ask gets the cost of
    the fills on its own orders. -/
structure PaymentMoved (db db' : DexDB) (buyer : Bytes) (result : GrdToStableResult) : Prop where
  balances : ∀ address, db'.readGrdBalance address = db.readGrdBalance address -
    (if address = buyer then result.grdSpent else 0) + fillTotalOf Fill.grd result.fills address
  total : fillTotal Fill.grd result.fills = result.grdSpent

end GarudaChain
