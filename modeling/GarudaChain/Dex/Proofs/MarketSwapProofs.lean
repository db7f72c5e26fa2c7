import GarudaChain.Dex.MarketSwap
import GarudaChain.Dex.Proofs.OutcomeProofs

/-!
# The loops of the swaps
-/

namespace GarudaChain

open Int64Lib Result

variable {o : Order} {fill : Fill} {r : Int} {done rest : List Order} {fills : List Fill} {s : SwapState}

namespace SwapLoop

variable {loop : SwapLoop} {market : Market} {budget : Int} {orders : List Order}

theorem body_cases {s' : SwapState} (h : loop.body s o = some s') :
    (loop.round s.remaining o = .skip ∧ s' = s) ∨
      ∃ fill : Fill, fill.order = o ∧
        loop.round s.remaining o = .fill fill.fillSat fill.units fill.grd ∧
        s' = loop.take s fill := by
  unfold body at h
  cases hround : loop.round s.remaining o with
  | stop =>
    rw [hround] at h
    cases h
  | skip =>
    rw [hround] at h
    exact .inl ⟨rfl, (Option.some.inj h).symm⟩
  | fill fillSat units grd =>
    rw [hround] at h
    exact .inr ⟨⟨o, fillSat, units, grd⟩, rfl, rfl, (Option.some.inj h).symm⟩

section

variable (loop market budget orders)

theorem run_rest {J : List Order → SwapState → Prop} (hstart : J orders ⟨market, budget, 0, []⟩)
    (hskip : ∀ o rest s, J (o :: rest) s → loop.round s.remaining o = .skip → J rest s)
    (htake : ∀ (fill : Fill) rest s, J (fill.order :: rest) s →
      loop.round s.remaining fill.order = .fill fill.fillSat fill.units fill.grd →
      J rest (loop.take s fill)) : ∃ rest, J rest (loop.run market budget orders) := by
  refine Run.each_inv ?_ hstart
  intro o rest s s' hJ hbody
  rcases body_cases hbody with ⟨hround, rfl⟩ | ⟨fill, rfl, hround, rfl⟩
  · exact hskip o rest s' hJ hround
  · exact htake fill rest s hJ hround

theorem run_inv {I : SwapState → Prop} (hstart : I ⟨market, budget, 0, []⟩)
    (htake : ∀ s fill, I s → fill.order ∈ orders →
      loop.round s.remaining fill.order = .fill fill.fillSat fill.units fill.grd →
      I (loop.take s fill)) : I (loop.run market budget orders) := by
  have hloop := run_rest loop market budget orders
    (J := fun rest s => (∀ o ∈ rest, o ∈ orders) ∧ I s) ⟨fun _ ho => ho, hstart⟩
    (fun _ _ _ h _ => ⟨(List.forall_mem_cons.mp h.1).2, h.2⟩) ?_
  · obtain ⟨_, -, hI⟩ := hloop
    exact hI
  · rintro fill rest s ⟨hrest, hs⟩ hround
    obtain ⟨ho, hrest⟩ := List.forall_mem_cons.mp hrest
    exact ⟨hrest, htake s fill hs ho hround⟩

theorem run_frame : (loop.run market budget orders).market.dbs.dexDb.grdBalances =
      market.dbs.dexDb.grdBalances ∧
    (loop.run market budget orders).market.dbs.dexDb.marketMakers = market.dbs.dexDb.marketMakers :=
  run_inv loop market budget orders
    (I := fun s => s.market.dbs.dexDb.grdBalances = market.dbs.dexDb.grdBalances ∧
      s.market.dbs.dexDb.marketMakers = market.dbs.dexDb.marketMakers)
    ⟨rfl, rfl⟩ fun _ _ hs _ _ => hs

theorem run_otherAssets {assetId : Uint256}
    (hmove : ∀ db fill a x, a ≠ assetId → (loop.move db fill).readBalance a x = db.readBalance a x)
    {a : Uint256} (ha : a ≠ assetId) (x : Bytes) :
    (loop.run market budget orders).market.dbs.assetDb.readBalance a x =
      market.dbs.assetDb.readBalance a x :=
  run_inv loop market budget orders
    (I := fun s => s.market.dbs.assetDb.readBalance a x = market.dbs.assetDb.readBalance a x)
    rfl fun s fill hs _ _ => (hmove s.market.dbs.assetDb fill a x ha).trans hs

theorem run_sublist : ((loop.run market budget orders).fills.map Fill.order).Sublist orders := by
  have hloop := run_rest loop market budget orders
    (J := fun rest s => ∃ done, orders = done ++ rest ∧ (s.fills.map Fill.order).Sublist done)
    ⟨[], rfl, List.Sublist.refl _⟩ ?_ ?_
  · obtain ⟨rest, done, heq, hsub⟩ := hloop
    exact heq ▸ hsub.trans (List.sublist_append_left done rest)
  · rintro o rest s ⟨done, rfl, hsub⟩ -
    exact ⟨done ++ [o], by simp, hsub.trans (List.sublist_append_left done _)⟩
  · rintro fill rest s ⟨done, rfl, hsub⟩ -
    refine ⟨done ++ [fill.order], by simp, ?_⟩
    simp only [take, List.map_append, List.map_cons, List.map_nil]
    exact hsub.append (List.Sublist.refl _)

end

/-- What a loop makes of the candidates and the amount alone: what is left, what it gives and its
    fills. -/
structure Plan where
  remaining : Int
  received : Int
  fills : List Fill
  deriving DecidableEq

def planFrom (loop : SwapLoop) : List Order → Plan → Plan
  | [], p => p
  | order :: orders, p =>
    match loop.round p.remaining order with
    | .stop => p
    | .skip => loop.planFrom orders p
    | .fill fillSat units grd =>
      let fill : Fill := ⟨order, fillSat, units, grd⟩
      loop.planFrom orders ⟨wrap64 (p.remaining - loop.spent fill),
        wrap64 (p.received + loop.got fill), p.fills ++ [fill]⟩

def plan (loop : SwapLoop) (budget : Int) (orders : List Order) : Plan :=
  loop.planFrom orders ⟨budget, 0, []⟩

theorem each_eq_planFrom (loop : SwapLoop) (orders : List Order) : ∀ s : SwapState,
    let s' := Run.each loop.body orders s
    (⟨s'.remaining, s'.received, s'.fills⟩ : Plan) =
      loop.planFrom orders ⟨s.remaining, s.received, s.fills⟩ := by
  induction orders with
  | nil => exact fun _ => rfl
  | cons o orders ih =>
    intro s
    simp only [Run.each, planFrom, body]
    cases loop.round s.remaining o with
    | stop => rfl
    | skip => exact ih s
    | fill fillSat units grd => exact ih (loop.take s ⟨o, fillSat, units, grd⟩)

theorem run_eq_plan (loop : SwapLoop) (market : Market) (budget : Int) (orders : List Order) :
    (loop.run market budget orders).remaining = (loop.plan budget orders).remaining ∧
      (loop.run market budget orders).received = (loop.plan budget orders).received ∧
      (loop.run market budget orders).fills = (loop.plan budget orders).fills := by
  have hplan := each_eq_planFrom loop orders ⟨market, budget, 0, []⟩
  rw [plan, ← hplan]
  exact ⟨rfl, rfl, rfl⟩

theorem run_unchanged (h : (loop.run market budget orders).fills = []) :
    (loop.run market budget orders).market = market := by
  refine run_inv loop market budget orders (I := fun s => s.fills = [] → s.market = market)
    (fun _ => rfl) ?_ h
  intro s fill _ _ _ hnil
  simp [take] at hnil

end SwapLoop

section Orders

variable {env : DexEnv} {db : DexDB} {assetId : Uint256} {side : OrderSide} {o : Order}

theorem marketOrders_perm (env : DexEnv) (db : DexDB) (assetId : Uint256) (side : OrderSide) :
    (marketOrders env db assetId side).Perm
      ((getOrderBook env db assetId 500).filter fun o => o.side == side && o.status == .OPEN) := by
  unfold marketOrders
  cases side <;> exact env.sort_perm _ _

theorem mem_marketOrders (h : o ∈ marketOrders env db assetId side) :
    o ∈ db.allOrders ∧ o.assetId = assetId ∧ o.side = side ∧ o.status = .OPEN := by
  rw [(marketOrders_perm env db assetId side).mem_iff, List.mem_filter, getOrderBook,
    (env.sort_perm _ _).mem_iff] at h
  obtain ⟨hopen, hkind⟩ := h
  have hmem := List.mem_of_mem_take hopen
  rw [List.mem_filter] at hmem
  simp only [Bool.and_eq_true, beq_iff_eq] at hmem hkind
  exact ⟨hmem.1, hmem.2.1, hkind⟩

theorem activeOrders_of_mem (h : o ∈ marketOrders env db assetId side) :
    o ∈ activeOrders db assetId side := by
  obtain ⟨hmem, hasset, hside, hopen⟩ := mem_marketOrders h
  simp [activeOrders, hmem, hasset, hside, Order.active, hopen]

theorem length_marketOrders (env : DexEnv) (db : DexDB) (assetId : Uint256) (side : OrderSide) :
    (marketOrders env db assetId side).length ≤ 500 := by
  rw [(marketOrders_perm env db assetId side).length_eq]
  refine (List.length_filter_le _ _).trans ?_
  rw [getOrderBook, (env.sort_perm _ _).length_eq, openOrders]
  exact List.length_take_le 500 _

end Orders

/-- What is left of an order after a fill. -/
def Fill.left (fill : Fill) : Int := fill.order.remaining - fill.fillSat

theorem tdiv_coinSat_pos {x : Int} (h : 0 < x.tdiv coinSat) :
    coinSat ≤ x ∧ x.tdiv coinSat = x / coinSat := by
  have hnonneg : 0 ≤ x := by
    by_contra hneg
    have hneg' : 0 ≤ (-x).tdiv coinSat := Int.tdiv_nonneg (by omega) (by decide)
    rw [Int.neg_tdiv] at hneg'
    omega
  have hdiv : x.tdiv coinSat = x / coinSat := Int.tdiv_eq_ediv_of_nonneg hnonneg
  rw [hdiv] at h
  unfold coinSat at *
  exact ⟨by omega, hdiv⟩

theorem sellRound_fill (h : sellRound r fill.order = .fill fill.fillSat fill.units fill.grd) :
    0 < r ∧ 0 < fill.units ∧ fill.units ≤ r ∧ fill.fillSat = fill.units * coinSat ∧
      fill.fillSat ≤ fill.order.remaining ∧ (coinSat ≤ fill.left → fill.units = r) := by
  unfold sellRound at h
  simp only at h
  split_ifs at h with hr hunits
  simp only [Round.fill.injEq] at h
  obtain ⟨hsat, hfill, -⟩ := h
  rw [hfill] at hsat hunits
  obtain ⟨hunit, hdiv⟩ := tdiv_coinSat_pos (x := fill.order.remaining) (by omega)
  obtain ⟨-, hrange⟩ := wrap64_range (fill.order.amount - fill.order.filled)
  have hremaining : fill.order.remaining < 9223372036854775808 := hrange
  rw [hdiv] at hfill
  unfold Fill.left
  unfold coinSat at *
  rw [wrap64_of_range (by omega) (by omega)] at hsat
  refine ⟨by omega, by omega, by omega, hsat.symm, by omega, ?_⟩
  intro hleft
  omega

theorem grdToStableRound_fill (h : grdToStableRound r fill.order = .fill fill.fillSat fill.units fill.grd) :
    0 < r ∧ fill.units = stableUnits fill.fillSat ∧
      (fill.fillSat = fill.order.remaining ∧
          fill.grd = safeMulDiv fill.fillSat fill.order.price coinSat ∧ fill.grd ≤ r ∨
        0 < fill.fillSat ∧ fill.fillSat = safeMulDiv r coinSat fill.order.price ∧
          fill.grd = safeMulDiv fill.fillSat fill.order.price coinSat ∧
          r < safeMulDiv fill.order.remaining fill.order.price coinSat) := by
  unfold grdToStableRound at h
  simp only at h
  split_ifs at h with hr hcost hfill
  · simp only [Round.fill.injEq] at h
    obtain ⟨hsat, hunits, hgrd⟩ := h
    rw [hsat] at hunits hgrd hcost
    exact ⟨by omega, hunits.symm, .inl ⟨hsat.symm, hgrd.symm, by omega⟩⟩
  · simp only [Round.fill.injEq] at h
    obtain ⟨hsat, hunits, hgrd⟩ := h
    rw [hsat] at hunits hgrd hfill
    exact ⟨by omega, hunits.symm, .inr ⟨by omega, hsat.symm, hgrd.symm, by omega⟩⟩

section Calls

variable {env : DexEnv} {market market' : Market} {assetId : Uint256} {address : Bytes}
  {now adjustedAt : Int}

theorem grdToStableChecks_ok {grdAmount : Option Int} {grdBudget : Int} {asks : List Order}
    (h : grdToStableChecks env market.dbs assetId address grdAmount = .ok (grdBudget, asks)) :
    grdAmount = some grdBudget ∧ 0 < grdBudget ∧ grdBudget ≤ 999999999999999999 ∧
      asks = marketOrders env market.dbs.dexDb assetId .sell := by
  simp only [grdToStableChecks, bind_ok_iff, throwIf_eq_ok, Except.ok.injEq, Prod.mk.injEq] at h
  obtain ⟨budget, hamount, _, hpos, _, -, _, -, _, -, rfl, rfl⟩ := h
  obtain ⟨hsome, -, hle⟩ := amountFromValue_eq_ok hamount
  exact ⟨hsome, by simpa using hpos, hle, rfl⟩

theorem swapgrdtostable_ok {grdAmount : Option Int} {result : GrdToStableResult}
    (h : swapgrdtostable env market assetId address grdAmount now adjustedAt =
      (market', .ok result)) :
    ∃ grdBudget s, grdToStableChecks env market.dbs assetId address grdAmount =
        .ok (grdBudget, marketOrders env market.dbs.dexDb assetId .sell) ∧
      s = (grdToStableLoop env.crypto assetId address now).run market grdBudget
        (marketOrders env market.dbs.dexDb assetId .sell) ∧
      market' = s.market.autoAdjustMMPrice env assetId false s.received adjustedAt ∧
      result.grdSpent = wrap64 (grdBudget - s.remaining) ∧ result.fills = s.fills := by
  unfold swapgrdtostable at h
  cases hchecks : grdToStableChecks env market.dbs assetId address grdAmount with
  | error err =>
    rw [hchecks] at h
    cases h
  | ok r =>
    obtain ⟨grdBudget, asks⟩ := r
    rw [hchecks] at h
    obtain ⟨-, -, -, rfl⟩ := grdToStableChecks_ok hchecks
    simp only at h
    split_ifs at h
    · simp at h
    · simp only [Prod.mk.injEq, Except.ok.injEq] at h
      obtain ⟨rfl, rfl⟩ := h
      exact ⟨grdBudget, _, rfl, rfl, rfl, rfl, rfl⟩

theorem stableToGrdChecks_ok {amount : Int} {sale : Sale}
    (h : stableToGrdChecks env market.dbs assetId address amount = .ok sale) :
    0 < sale.amount ∧ sale.amount < 9223372036854775808 ∧ sale.amount ≤ sale.balance ∧
      sale.balance = market.dbs.assetDb.readBalance assetId address ∧
      sale.bids = marketOrders env market.dbs.dexDb assetId .buy ∧ sale.amount = amount := by
  simp only [stableToGrdChecks, bind_ok_iff, throwIf_eq_ok, Except.ok.injEq] at h
  obtain ⟨toSell, hamount, _, hpos, _, -, _, -, _, hle, _, -, rfl⟩ := h
  obtain ⟨heq, -, hlt⟩ := getInt64_eq_ok hamount
  exact ⟨by simpa using hpos, hlt, by simpa using hle, rfl, rfl, heq⟩

end Calls

def sampleSwapEnv : DexEnv :=
  sampleEnvWith
    [(uint256Bytes 1 ++ int64Bytes 1000,
        0xd19f63bf3e32fff7e256dbf6cdad37298b63a0634b4c926cff74a91d4cf4982e),
      (uint256Bytes 2 ++ int64Bytes 1000,
        0xe5b532156e5c77539faa1b766a86ecbf01f3500fd3e9ca8598abd18ead4a303b),
      (uint256Bytes 3 ++ int64Bytes 1000,
        0x872922c93170b2ad48b7591f237abdaa16be0650e9ec077bb89e1ce8aeba8d10),
      (uint256Bytes 4 ++ int64Bytes 1000,
        0x81071bce4c552c08de4554cc8d9960e19a32b6887e2ab55301143a76445b228d),
      (uint256Bytes 3 ++ int64Bytes 1001,
        0xe17200f225a7cab85e9d8d3119d6d7a8740193b608bd2de58aabf17fa8315bb3),
      (uint256Bytes 4 ++ int64Bytes 1001,
        0x63784752b7ec9b5dd3de4ef1d0f5da5068d5bb56d9eedc370a42d7ebc3277cb7)]

/-- A market with these orders and no trades. -/
def marketOf (orders : List Order) : Market := ⟨bookOf orders, .empty⟩

def buyerOrder (id : Uint256) (side : OrderSide) (amount filled price : Int) (status : OrderStatus) :
    Order :=
  ⟨id, 7, side, amount, filled, price, sampleBuyer, 1000, status⟩

def sampleOpenMarket : Market :=
  marketOf [bookOrder 1 .sell 200000000 0 30 .OPEN, bookOrder 2 .sell 200000000 0 40 .OPEN,
    buyerOrder 3 .buy 200000000 0 25 .OPEN, buyerOrder 4 .buy 200000000 0 20 .OPEN]

end GarudaChain
