import GarudaChain.Dex.Proofs.MatchProofs

/-!
# What `MatchOrders` does to a book
-/

namespace GarudaChain

open Int64Lib

def TradeResult.involves (t : TradeResult) (id : Uint256) : Bool :=
  t.buyOrderId == id || t.sellOrderId == id

def traded (trades : List TradeResult) (id : Uint256) : Int :=
  ((trades.filter fun t => t.involves id).map TradeResult.amount).sum

/-- An order after these trades: filled by what they have traded of it and, if they have touched it,
    `FILLED` exactly when nothing is left. -/
def Order.afterTrades (trades : List TradeResult) (o : Order) : Order :=
  { o with
    filled := o.filled + traded trades o.orderId
    status := if trades.any fun t => t.involves o.orderId then
        if o.filled + traded trades o.orderId = o.amount then .FILLED else .PARTIAL
      else o.status }

@[simp] theorem Order.afterTrades_nil (o : Order) : o.afterTrades [] = o := by
  simp [Order.afterTrades, traded]

theorem traded_append (trades : List TradeResult) (t : TradeResult) (id : Uint256) :
    traded (trades ++ [t]) id = traded trades id + if t.involves id then t.amount else 0 := by
  rw [traded, List.filter_append, List.map_append, List.sum_append, ← traded]
  cases ht : t.involves id <;> simp [ht]

variable {o : Order} {id : Uint256} {t : TradeResult}

theorem Order.afterTrades_append_of_not_involves
    (trades : List TradeResult) (h : t.involves o.orderId = false) :
    o.afterTrades (trades ++ [t]) = o.afterTrades trades := by
  simp [Order.afterTrades, traded_append, h]

theorem Order.afterTrades_append_of_involves
    {trades : List TradeResult} (h : t.involves o.orderId = true) (h0 : 0 ≤ t.amount)
    (hfilled : 0 ≤ (o.afterTrades trades).filled)
    (hle : t.amount ≤ o.amount - (o.afterTrades trades).filled)
    (hamount : o.amount < 9223372036854775808) :
    o.afterTrades (trades ++ [t]) = (o.afterTrades trades).fill t.amount := by
  have hsum : (o.afterTrades trades).filled = o.filled + traded trades o.orderId := rfl
  have hwrap : wrap64 (o.filled + traded trades o.orderId + t.amount) =
      o.filled + traded trades o.orderId + t.amount := wrap64_of_range (by omega) (by omega)
  have hstatus : (o.filled + traded trades o.orderId + t.amount = o.amount) =
      (o.amount ≤ o.filled + traded trades o.orderId + t.amount) := propext (by omega)
  simp [Order.afterTrades, Order.fill, traded_append, h, ← Int.add_assoc, hwrap, hstatus]

/-- An order of which something is left. -/
structure Order.Fillable (o : Order) : Prop where
  filled_nonneg : 0 ≤ o.filled
  filled_lt : o.filled < o.amount
  amount_lt : o.amount < 9223372036854775808

theorem Order.Fillable.remaining_eq (h : o.Fillable) :
    o.remaining = o.amount - o.filled := by
  obtain ⟨h0, hlt, hamount⟩ := h
  exact wrap64_of_range (by omega) (by omega)

theorem Order.Fillable.filled_fill (h : o.Fillable) {t : Int} (h0 : 0 ≤ t)
    (hle : t ≤ o.amount - o.filled) : (o.fill t).filled = o.filled + t := by
  obtain ⟨hf, hlt, hamount⟩ := h
  exact wrap64_of_range (by omega) (by omega)

/-- Which of two prices of a side comes first. -/
def OrderSide.atLeastAsGood : OrderSide → Order → Order → Prop
  | .buy, a, b => b.price ≤ a.price
  | .sell, a, b => a.price ≤ b.price

structure Sweep (dbs : Databases) (assetId : Uint256) (side : OrderSide) (queue : List Order) :
    Prop extends Queue dbs assetId side queue where
  complete : ∀ o, dbs.dexDb.readOrder o.orderId = some o → o.assetId = assetId → o.active = true →
    o.side = side → o ∈ queue
  sorted : queue.Pairwise side.atLeastAsGood
  fillable : ∀ o ∈ queue, o.Fillable

namespace Sweep

variable {dbs dbs' : Databases} {assetId : Uint256} {side : OrderSide} {o : Order}
  {rest queue : List Order}

theorem of_orders_eq (h : Sweep dbs assetId side queue)
    (horders : dbs'.dexDb.orders = dbs.dexDb.orders) : Sweep dbs' assetId side queue := by
  refine ⟨h.toQueue.of_orders_eq horders, ?_, h.sorted, h.fillable⟩
  intro o hread
  rw [DexDB.readOrder, horders] at hread
  exact h.complete o hread

theorem writeOrder (h : Sweep dbs assetId side queue) (hne : o.orderId ∉ queue.map Order.orderId)
    (hside : o.side ≠ side) : Sweep (dbs.writeOrder o) assetId side queue := by
  refine ⟨h.toQueue.writeOrder hne, ?_, h.sorted, h.fillable⟩
  intro x hread hasset hactive hxside
  by_cases hid : x.orderId = o.orderId
  · rw [hid, Databases.readOrder_writeOrder_self] at hread
    cases hread
    exact absurd hxside hside
  · rw [Databases.readOrder_writeOrder_of_ne hid] at hread
    exact h.complete x hread hasset hactive hxside

theorem advance_fill (h : Sweep dbs assetId side (o :: rest)) {t : Int} (h0 : 0 ≤ t)
    (hle : t ≤ o.amount - o.filled) :
    Sweep (dbs.writeOrder (o.fill t)) assetId side (advance (o.fill t) rest) := by
  have ho := h.fillable o List.mem_cons_self
  have hfilled := ho.filled_fill h0 hle
  refine ⟨h.toQueue.advance_fill t, ?_, ?_, ?_⟩
  · intro x hread hasset hactive hside
    by_cases hid : x.orderId = (o.fill t).orderId
    · rw [hid, Databases.readOrder_writeOrder_self] at hread
      cases hread
      have hopen : ¬ (o.fill t).filled ≥ (o.fill t).amount :=
        not_le.mpr (Order.active_fill.mp hactive)
      rw [advance, if_neg hopen]
      exact List.mem_cons_self
    · rw [Databases.readOrder_writeOrder_of_ne hid] at hread
      -- another active order was in the queue before
      have hx : x ∈ rest := by
        rcases List.mem_cons.mp (h.complete x hread hasset hactive hside) with rfl | hmem
        · exact absurd rfl hid
        · exact hmem
      unfold advance
      split_ifs
      · exact hx
      · exact List.mem_cons_of_mem _ hx
  · obtain ⟨hfirst, hrest⟩ := List.pairwise_cons.mp h.sorted
    unfold advance
    split_ifs
    · exact hrest
    · exact List.pairwise_cons.mpr ⟨fun x hx => by cases side <;> exact hfirst x hx, hrest⟩
  · intro x hx
    unfold advance at hx
    split_ifs at hx with hfull
    · exact h.fillable x (List.mem_cons_of_mem _ hx)
    · rcases List.mem_cons.mp hx with rfl | hx
      · have := ho.filled_nonneg
        exact ⟨by omega, not_le.mp hfull, ho.amount_lt⟩
      · exact h.fillable x (List.mem_cons_of_mem _ hx)

end Sweep

/-- Between nothing and all of an order is filled. -/
def Order.Bounded (o : Order) : Prop := 0 ≤ o.filled ∧ o.filled ≤ o.amount

/-- A trade between a BUY and a SELL order of the book, at the price of the seller, which the buyer
    accepts. -/
structure TradeOk (dbs : Databases) (assetId : Uint256) (t : TradeResult) : Prop where
  amount_pos : 0 < t.amount
  asset_eq : t.assetId = assetId
  buyer : ∃ buy, dbs.dexDb.readOrder t.buyOrderId = some buy ∧ buy.side = .buy ∧
    buy.assetId = assetId ∧ t.price ≤ buy.price
  seller : ∃ sell, dbs.dexDb.readOrder t.sellOrderId = some sell ∧ sell.side = .sell ∧
    sell.assetId = assetId ∧ t.price = sell.price

structure MatchRound (dbs : Databases) (assetId : Uint256) (m : MatchState) : Prop where
  buys : Sweep m.dbs assetId .buy m.buys
  sells : Sweep m.dbs assetId .sell m.sells
  orders : ∀ id, m.dbs.dexDb.readOrder id =
    (dbs.dexDb.readOrder id).map (Order.afterTrades m.trades)
  bounded : ∀ id o, m.dbs.dexDb.readOrder id = some o →
    (∀ o₀, dbs.dexDb.readOrder id = some o₀ → o₀.Bounded) → o.Bounded
  trades : ∀ t ∈ m.trades, TradeOk dbs assetId t
  -- one of the two orders of a trade is no longer in its queue
  spent : ∀ t ∈ m.trades, t.buyOrderId ∉ m.buys.map Order.orderId ∨
    t.sellOrderId ∉ m.sells.map Order.orderId
  pairs : (m.trades.map fun t => (t.buyOrderId, t.sellOrderId)).Nodup

theorem mem_advance {rest : List Order} {t : Int}
    (h : id ∈ (advance (o.fill t) rest).map Order.orderId) : id ∈ (o :: rest).map Order.orderId := by
  unfold advance at h
  split_ifs at h
  · exact List.mem_cons_of_mem _ h
  · exact h

section Round

variable {crypto : Crypto} {dbs : Databases} {assetId : Uint256} {clock : Nat → Int}
  {m m' : MatchState}

theorem MatchRound.origin (h : MatchRound dbs assetId m)
    (hread : m.dbs.dexDb.readOrder id = some o) :
    ∃ o₀, dbs.dexDb.readOrder id = some o₀ ∧ o₀.afterTrades m.trades = o := by
  rw [h.orders id] at hread
  exact Option.map_eq_some_iff.mp hread

theorem MatchRound.fill_eq (hids : ∀ id o, dbs.dexDb.readOrder id = some o → o.orderId = id)
    (h : MatchRound dbs assetId m)
    (hread : m.dbs.dexDb.readOrder id = some o) (hinvolves : t.involves id = true)
    (ho : o.Fillable) (h0 : 0 ≤ t.amount) (hle : t.amount ≤ o.amount - o.filled) :
    (dbs.dexDb.readOrder id).map (Order.afterTrades (m.trades ++ [t])) = some (o.fill t.amount) := by
  obtain ⟨o₀, hread₀, rfl⟩ := h.origin hread
  have hid := hids id o₀ hread₀
  rw [hread₀, Option.map_some, Order.afterTrades_append_of_involves (by rwa [hid]) h0
    ho.filled_nonneg hle ho.amount_lt]

/-- The databases after a trade. -/
def afterTrade (dbs : Databases) (assetId : Uint256) (buy sell : Order) (t : Int) : Databases :=
  ((settle dbs assetId buy sell t).writeOrder (buy.fill t)).writeOrder (sell.fill t)

theorem readOrder_afterTrade (dbs : Databases) (assetId : Uint256) (buy sell : Order) (t : Int)
    (id : Uint256) : (afterTrade dbs assetId buy sell t).dexDb.readOrder id =
      if id = sell.orderId then some (sell.fill t) else if id = buy.orderId then some (buy.fill t)
      else dbs.dexDb.readOrder id := by
  unfold afterTrade
  split_ifs with hsell hbuy
  · rw [hsell]
    exact Databases.readOrder_writeOrder_self (sell.fill t)
  · have hsell : id ≠ (sell.fill t).orderId := hsell
    rw [Databases.readOrder_writeOrder_of_ne hsell, hbuy]
    exact Databases.readOrder_writeOrder_self (buy.fill t)
  · have hsell : id ≠ (sell.fill t).orderId := hsell
    have hbuy : id ≠ (buy.fill t).orderId := hbuy
    rw [Databases.readOrder_writeOrder_of_ne hsell, Databases.readOrder_writeOrder_of_ne hbuy,
      DexDB.readOrder, (settle_onlyBalances dbs assetId buy sell t).orders]
    rfl

structure HeadTrade (m : MatchState) (buy : Order) (buys : List Order) (sell : Order)
    (sells : List Order) (t : Int) : Prop where
  buys_eq : m.buys = buy :: buys
  sells_eq : m.sells = sell :: sells
  price_le : sell.price ≤ buy.price
  pos : 0 < t
  buy_le : t ≤ buy.amount - buy.filled
  sell_le : t ≤ sell.amount - sell.filled
  uses_up : t = buy.amount - buy.filled ∨ t = sell.amount - sell.filled

namespace MatchRound

variable {buy sell : Order} {buys sells : List Order} {t now : Int}

theorem orderId_ne (h : MatchRound dbs assetId m) (ht : HeadTrade m buy buys sell sells t) :
    sell.orderId ∉ m.buys.map Order.orderId ∧ buy.orderId ∉ m.sells.map Order.orderId := by
  have hbuyMem : buy ∈ m.buys := ht.buys_eq ▸ List.mem_cons_self
  have hsellMem : sell ∈ m.sells := ht.sells_eq ▸ List.mem_cons_self
  constructor
  · exact h.buys.notMem (h.sells.stored sell hsellMem) (by rw [h.sells.side_eq sell hsellMem]; decide)
  · exact h.sells.notMem (h.buys.stored buy hbuyMem) (by rw [h.buys.side_eq buy hbuyMem]; decide)

theorem sweeps_afterTrade (h : MatchRound dbs assetId m) (ht : HeadTrade m buy buys sell sells t) :
    Sweep (afterTrade m.dbs assetId buy sell t) assetId .buy (advance (buy.fill t) buys) ∧
      Sweep (afterTrade m.dbs assetId buy sell t) assetId .sell (advance (sell.fill t) sells) := by
  obtain ⟨hsellNotMem, hbuyNotMem⟩ := h.orderId_ne ht
  have horders := (settle_onlyBalances m.dbs assetId buy sell t).orders
  have hbuySweep := (ht.buys_eq ▸ h.buys).of_orders_eq horders
  have hsellSweep := (ht.sells_eq ▸ h.sells).of_orders_eq horders
  have hbuySide := hbuySweep.side_eq buy List.mem_cons_self
  have hsellSide := hsellSweep.side_eq sell List.mem_cons_self
  have hne : sell.orderId ∉ (advance (buy.fill t) buys).map Order.orderId := by
    intro hmem
    rw [ht.buys_eq] at hsellNotMem
    exact hsellNotMem (mem_advance hmem)
  rw [ht.sells_eq] at hbuyNotMem
  constructor
  · exact (hbuySweep.advance_fill ht.pos.le ht.buy_le).writeOrder (o := sell.fill t) hne
      (by rw [Order.fill_side, hsellSide]; decide)
  · exact (hsellSweep.writeOrder (o := buy.fill t) hbuyNotMem
      (by rw [Order.fill_side, hbuySide]; decide)).advance_fill ht.pos.le ht.sell_le

theorem orders_afterTrade (hids : ∀ id o, dbs.dexDb.readOrder id = some o → o.orderId = id)
    (h : MatchRound dbs assetId m) (ht : HeadTrade m buy buys sell sells t) (id : Uint256) :
    (afterTrade m.dbs assetId buy sell t).dexDb.readOrder id = (dbs.dexDb.readOrder id).map
      (Order.afterTrades (m.trades ++ [tradeResult crypto assetId buy sell t now])) := by
  have hbuyMem : buy ∈ m.buys := ht.buys_eq ▸ List.mem_cons_self
  have hsellMem : sell ∈ m.sells := ht.sells_eq ▸ List.mem_cons_self
  rw [readOrder_afterTrade]
  split_ifs with hsell hbuy
  · subst hsell
    have hinvolves : (tradeResult crypto assetId buy sell t now).involves sell.orderId = true := by
      simp [tradeResult, TradeResult.involves]
    exact (h.fill_eq hids (h.sells.stored sell hsellMem) hinvolves (h.sells.fillable sell hsellMem)
      ht.pos.le ht.sell_le).symm
  · subst hbuy
    have hinvolves : (tradeResult crypto assetId buy sell t now).involves buy.orderId = true := by
      simp [tradeResult, TradeResult.involves]
    exact (h.fill_eq hids (h.buys.stored buy hbuyMem) hinvolves (h.buys.fillable buy hbuyMem)
      ht.pos.le ht.buy_le).symm
  · rw [h.orders id]
    cases hread : dbs.dexDb.readOrder id with
    | none => rfl
    | some o =>
      have hother : (tradeResult crypto assetId buy sell t now).involves o.orderId = false := by
        rw [hids id o hread]
        simp [tradeResult, TradeResult.involves, Ne.symm hbuy, Ne.symm hsell]
      rw [Option.map_some, Option.map_some, Order.afterTrades_append_of_not_involves _ hother]

theorem bounded_afterTrade (h : MatchRound dbs assetId m) (ht : HeadTrade m buy buys sell sells t)
    (id : Uint256) (o : Order)
    (hread : (afterTrade m.dbs assetId buy sell t).dexDb.readOrder id = some o)
    (hbounded : ∀ o₀, dbs.dexDb.readOrder id = some o₀ → o₀.Bounded) : o.Bounded := by
  have hbuy := h.buys.fillable buy (ht.buys_eq ▸ List.mem_cons_self)
  have hsell := h.sells.fillable sell (ht.sells_eq ▸ List.mem_cons_self)
  have hfill : ∀ {x : Order}, x.Fillable → t ≤ x.amount - x.filled → (x.fill t).Bounded := by
    intro x hx hle
    have h0 := hx.filled_nonneg
    have hpos := ht.pos
    rw [Order.Bounded, hx.filled_fill hpos.le hle, Order.fill_amount]
    omega
  rw [readOrder_afterTrade] at hread
  split_ifs at hread
  · cases hread
    exact hfill hsell ht.sell_le
  · cases hread
    exact hfill hbuy ht.buy_le
  · exact h.bounded id o hread hbounded

theorem tradeOk (h : MatchRound dbs assetId m) (ht : HeadTrade m buy buys sell sells t) :
    TradeOk dbs assetId (tradeResult crypto assetId buy sell t now) := by
  have hbuyMem : buy ∈ m.buys := ht.buys_eq ▸ List.mem_cons_self
  have hsellMem : sell ∈ m.sells := ht.sells_eq ▸ List.mem_cons_self
  obtain ⟨buy₀, hbuy₀, hbuyEq⟩ := h.origin (h.buys.stored buy hbuyMem)
  obtain ⟨sell₀, hsell₀, hsellEq⟩ := h.origin (h.sells.stored sell hsellMem)
  have hbuySide := h.buys.side_eq buy hbuyMem
  have hsellSide := h.sells.side_eq sell hsellMem
  have hbuyAsset := h.buys.asset_eq buy hbuyMem
  have hsellAsset := h.sells.asset_eq sell hsellMem
  have hprice := ht.price_le
  subst hbuyEq hsellEq
  exact ⟨ht.pos, rfl, ⟨buy₀, hbuy₀, hbuySide, hbuyAsset, hprice⟩,
    ⟨sell₀, hsell₀, hsellSide, hsellAsset, rfl⟩⟩

theorem used_up (h : MatchRound dbs assetId m) (ht : HeadTrade m buy buys sell sells t) :
    buy.orderId ∉ (advance (buy.fill t) buys).map Order.orderId ∨
      sell.orderId ∉ (advance (sell.fill t) sells).map Order.orderId := by
  have hbuySweep := ht.buys_eq ▸ h.buys
  have hsellSweep := ht.sells_eq ▸ h.sells
  have hleft : ∀ {x : Order} {rest : List Order}, x.Fillable → t = x.amount - x.filled →
      x.orderId ∉ rest.map Order.orderId →
      x.orderId ∉ (advance (x.fill t) rest).map Order.orderId := by
    intro x rest hx hall hnotMem
    have hfilled := hx.filled_fill ht.pos.le hall.le
    have hfull : (x.fill t).filled ≥ (x.fill t).amount := by
      rw [hfilled, Order.fill_amount]
      omega
    rwa [advance, if_pos hfull]
  rcases ht.uses_up with hall | hall
  · exact .inl (hleft (hbuySweep.fillable buy List.mem_cons_self) hall
      (List.nodup_cons.mp hbuySweep.nodup).1)
  · exact .inr (hleft (hsellSweep.fillable sell List.mem_cons_self) hall
      (List.nodup_cons.mp hsellSweep.nodup).1)

theorem trade (hids : ∀ id o, dbs.dexDb.readOrder id = some o → o.orderId = id)
    (h : MatchRound dbs assetId m) (ht : HeadTrade m buy buys sell sells t) (crypto : Crypto)
    (now : Int) :
    MatchRound dbs assetId
      { buys := advance (buy.fill t) buys
        sells := advance (sell.fill t) sells
        dbs := afterTrade m.dbs assetId buy sell t
        trades := m.trades ++ [tradeResult crypto assetId buy sell t now] } := by
  obtain ⟨hbuys, hsells⟩ := h.sweeps_afterTrade ht
  refine ⟨hbuys, hsells, h.orders_afterTrade hids ht, h.bounded_afterTrade ht, ?_, ?_, ?_⟩
  · intro x hx
    rcases List.mem_append.mp hx with hx | hx
    · exact h.trades x hx
    · rw [List.mem_singleton.mp hx]
      exact h.tradeOk ht
  · intro x hx
    rcases List.mem_append.mp hx with hx | hx
    · -- the queues have only got shorter
      have hspent := h.spent x hx
      rw [ht.buys_eq, ht.sells_eq] at hspent
      exact hspent.imp (fun hnot hmem => hnot (mem_advance hmem))
        (fun hnot hmem => hnot (mem_advance hmem))
    · rw [List.mem_singleton.mp hx]
      exact h.used_up ht
  · rw [List.map_append, List.map_singleton, List.nodup_append]
    refine ⟨h.pairs, List.nodup_singleton _, ?_⟩
    rintro pair hpair _ hnew rfl
    obtain ⟨x, hx, hxpair⟩ := List.mem_map.mp hpair
    rw [List.mem_singleton] at hnew
    rw [hnew] at hxpair
    obtain ⟨hxbuy, hxsell⟩ := Prod.mk.inj hxpair
    have hspent := h.spent x hx
    rw [hxbuy, hxsell, ht.buys_eq, ht.sells_eq] at hspent
    rcases hspent with hnot | hnot <;> exact hnot List.mem_cons_self

end MatchRound

theorem MatchRound.step_trades (h : MatchRound dbs assetId m)
    (hstep : matchStep crypto assetId clock m = some m') :
    ∃ buy buys sell sells t, HeadTrade m buy buys sell sells t ∧
      m' = ⟨advance (buy.fill t) buys, advance (sell.fill t) sells,
        afterTrade m.dbs assetId buy sell t,
        m.trades ++ [tradeResult crypto assetId buy sell t (clock m.trades.length)]⟩ := by
  obtain ⟨buy, buys, sell, sells, hbuys, hsells, hprice, hcases⟩ := matchStep_cases hstep
  have hbuy := h.buys.fillable buy (hbuys ▸ List.mem_cons_self)
  have hsell := h.sells.fillable sell (hsells ▸ List.mem_cons_self)
  have hbuyRemaining := hbuy.remaining_eq
  have hsellRemaining := hsell.remaining_eq
  have hbuyLt := hbuy.filled_lt
  have hsellLt := hsell.filled_lt
  rcases hcases with ⟨hzero, -⟩ | ⟨hzero, -⟩ | ⟨h0, hbuys', hsells', hdbs', htrades'⟩
  · omega
  · omega
  · refine ⟨buy, buys, sell, sells, min buy.remaining sell.remaining,
      ⟨hbuys, hsells, hprice, h0, by omega, by omega, by omega⟩, ?_⟩
    obtain ⟨buys₁, sells₁, dbs₁, trades₁⟩ := m'
    subst hbuys' hsells' hdbs' htrades'
    rfl

theorem matchStep_round (hids : ∀ id o, dbs.dexDb.readOrder id = some o → o.orderId = id)
    (h : MatchRound dbs assetId m) (hstep : matchStep crypto assetId clock m = some m') :
    MatchRound dbs assetId m' ∧
      m'.buys.length + m'.sells.length < m.buys.length + m.sells.length := by
  obtain ⟨buy, buys, sell, sells, t, ht, rfl⟩ := h.step_trades hstep
  refine ⟨h.trade hids ht crypto (clock m.trades.length), ?_⟩
  have hbuy := h.buys.fillable buy (ht.buys_eq ▸ List.mem_cons_self)
  have hsell := h.sells.fillable sell (ht.sells_eq ▸ List.mem_cons_self)
  have hbuyFilled := hbuy.filled_fill ht.pos.le ht.buy_le
  have hsellFilled := hsell.filled_fill ht.pos.le ht.sell_le
  have huses := ht.uses_up
  rw [ht.buys_eq, ht.sells_eq]
  unfold advance
  rw [hbuyFilled, hsellFilled, Order.fill_amount, Order.fill_amount]
  split_ifs <;> simp only [List.length_cons] <;> omega

end Round

/-- A book in which every order lies under its id, and something is left of every active order of
    the asset. -/
structure Databases.Matchable (dbs : Databases) (assetId : Uint256) : Prop where
  ids : ∀ e ∈ dbs.dexDb.orders.entries, e.2.orderId = e.1
  fillable : ∀ e ∈ dbs.dexDb.orders.entries, e.2.assetId = assetId → e.2.active = true →
    0 ≤ e.2.filled ∧ e.2.filled < e.2.amount ∧ e.2.amount < 9223372036854775808

/-- `std::sort` with a strict weak ordering: no order comes before an earlier one. -/
def DexEnv.Sorts (env : DexEnv) : Prop :=
  ∀ (before : Order → Order → Bool) (orders : List Order),
    (∀ a b, before a b = true → before b a = false) →
    (∀ a b c, before a c = true → before a b = true ∨ before b c = true) →
    (env.sort before orders).Pairwise fun a b => before b a = false

/-- What `MatchOrders` does to a book. -/
structure MatchOutcome (dbs : Databases) (assetId : Uint256) (dbs' : Databases)
    (trades : List TradeResult) : Prop where
  uncrossed : ∀ i j buy sell, dbs'.dexDb.readOrder i = some buy → dbs'.dexDb.readOrder j = some sell →
    buy.assetId = assetId → sell.assetId = assetId → buy.active = true → sell.active = true →
    buy.side = .buy → sell.side = .sell → buy.price < sell.price
  orders : ∀ id, dbs'.dexDb.readOrder id = (dbs.dexDb.readOrder id).map (Order.afterTrades trades)
  bounded : ∀ id o o', dbs.dexDb.readOrder id = some o → dbs'.dexDb.readOrder id = some o' →
    (o.assetId = assetId ∧ o.active = true) ∨ o.Bounded → o'.Bounded
  allowed : ∀ t ∈ trades, TradeOk dbs assetId t
  once : (trades.map fun t => (t.buyOrderId, t.sellOrderId)).Nodup

section Loop

variable {env : DexEnv} {dbs : Databases} {assetId : Uint256}

theorem Databases.Matchable.of_read (h : dbs.Matchable assetId)
    (hread : dbs.dexDb.readOrder id = some o) : o.orderId = id :=
  h.ids _ ((Store.read_eq_some_iff _).mp hread)

theorem Databases.Matchable.fillable_of_read (h : dbs.Matchable assetId)
    (hread : dbs.dexDb.readOrder id = some o) (hasset : o.assetId = assetId)
    (hactive : o.active = true) : o.Fillable := by
  obtain ⟨h0, hlt, hamount⟩ := h.fillable _ ((Store.read_eq_some_iff _).mp hread) hasset hactive
  exact ⟨h0, hlt, hamount⟩

theorem sweep_of_perm (h : dbs.Matchable assetId) {side : OrderSide} {queue : List Order}
    (hperm : queue.Perm (activeOrders dbs.dexDb assetId side))
    (hsorted : queue.Pairwise side.atLeastAsGood) : Sweep dbs assetId side queue := by
  have hqueue := queue_of_perm h.ids hperm
  refine ⟨hqueue, ?_, hsorted, ?_⟩
  · intro o hread hasset hactive hside
    have hmem : o ∈ dbs.dexDb.allOrders :=
      List.mem_map.mpr ⟨_, (Store.read_eq_some_iff _).mp hread, rfl⟩
    rw [hperm.mem_iff, activeOrders, List.mem_filter]
    simp [hmem, hasset, hactive, hside]
  · intro o ho
    exact h.fillable_of_read (hqueue.stored o ho) (hqueue.asset_eq o ho) (hqueue.active o ho)

theorem DexEnv.Sorts.pairwise (hsort : env.Sorts) (f : Order → Int) (orders : List Order) :
    (env.sort (fun a b => decide (f a < f b)) orders).Pairwise fun a b => f a ≤ f b := by
  refine (hsort _ orders ?_ ?_).imp fun hab => ?_
  · intro a b hab
    simp only [decide_eq_true_eq, decide_eq_false_iff_not] at hab ⊢
    omega
  · intro a b c hac
    simp only [decide_eq_true_eq] at hac ⊢
    omega
  · simpa using hab

theorem matchStart_round (hsort : env.Sorts) (h : dbs.Matchable assetId) :
    MatchRound dbs assetId (matchStart env dbs assetId) where
  buys := by
    refine sweep_of_perm h (env.sort_perm _ _) ?_
    have hpairwise := hsort.pairwise (fun o => -o.price) (activeOrders dbs.dexDb assetId .buy)
    simp only [neg_lt_neg_iff, neg_le_neg_iff] at hpairwise
    exact hpairwise
  sells := sweep_of_perm h (env.sort_perm _ _) (hsort.pairwise Order.price _)
  orders id := by
    show dbs.dexDb.readOrder id = (dbs.dexDb.readOrder id).map (Order.afterTrades [])
    simp [funext Order.afterTrades_nil]
  bounded id o hread hbounded := hbounded o hread
  trades := by simp [matchStart]
  spent := by simp [matchStart]
  pairs := by simp [matchStart]

theorem MatchRound.uncrossed {m : MatchState} {crypto : Crypto} {clock : Nat → Int}
    (h : MatchRound dbs assetId m) (hended : matchStep crypto assetId clock m = none)
    {buy sell : Order} (hbuy : buy ∈ m.buys) (hsell : sell ∈ m.sells) : buy.price < sell.price := by
  cases hbuys : m.buys with
  | nil => simp [hbuys] at hbuy
  | cons best buys =>
    cases hsells : m.sells with
    | nil => simp [hsells] at hsell
    | cons cheapest sells =>
      have hmeet := matchStep_eq_none hended hbuys hsells
      have hbest : buy.price ≤ best.price := by
        have hsorted := hbuys ▸ h.buys.sorted
        rcases List.mem_cons.mp (hbuys ▸ hbuy) with rfl | hmem
        · exact le_refl _
        · exact (List.pairwise_cons.mp hsorted).1 buy hmem
      have hcheapest : cheapest.price ≤ sell.price := by
        have hsorted := hsells ▸ h.sells.sorted
        rcases List.mem_cons.mp (hsells ▸ hsell) with rfl | hmem
        · exact le_refl _
        · exact (List.pairwise_cons.mp hsorted).1 sell hmem
      omega

/-- `MatchOrders` ends, and what it does to a book: no two active orders meet any more, every order
    is what its trades make of it and is filled between nothing and its amount, and every trade is
    one that both of its orders allow, the only one between them. -/
theorem matchOrders_outcome (hsort : env.Sorts) (h : dbs.Matchable assetId) (clock : Nat → Int) :
    matchStep env.crypto assetId clock (matchLoop env dbs assetId clock) = none ∧
      MatchOutcome dbs assetId (matchOrders env dbs assetId clock).1
        (matchOrders env dbs assetId clock).2 := by
  have hids : ∀ id o, dbs.dexDb.readOrder id = some o → o.orderId = id := fun _ _ => h.of_read
  have hstart := matchStart_round hsort h
  have hround : MatchRound dbs assetId (matchLoop env dbs assetId clock) :=
    Run.loop_inv (fun _ _ hm hstep => (matchStep_round hids hm hstep).1) _ hstart
  have hended : matchStep env.crypto assetId clock (matchLoop env dbs assetId clock) = none :=
    Run.loop_ended (I := MatchRound dbs assetId)
      (fun _ _ hm hstep => (matchStep_round hids hm hstep).1)
      (fun _ _ hm hstep => (matchStep_round hids hm hstep).2) hstart (le_refl _)
  refine ⟨hended, ?_, hround.orders, ?_, hround.trades, hround.pairs⟩
  · intro i j buy sell hbuy hsell hbuyAsset hsellAsset hbuyActive hsellActive hbuySide hsellSide
    have hstored : ∀ {id : Uint256} {o : Order},
        (matchLoop env dbs assetId clock).dbs.dexDb.readOrder id = some o → o.orderId = id := by
      intro id o hread
      obtain ⟨o₀, hread₀, rfl⟩ := hround.origin hread
      have hid : o₀.orderId = id := h.of_read hread₀
      exact hid
    have hbuyId := hstored hbuy
    have hsellId := hstored hsell
    subst hbuyId hsellId
    exact hround.uncrossed hended (hround.buys.complete buy hbuy hbuyAsset hbuyActive hbuySide)
      (hround.sells.complete sell hsell hsellAsset hsellActive hsellSide)
  · intro id o o' hread hread' hopen
    refine hround.bounded id o' hread' fun o₀ hread₀ => ?_
    obtain rfl : o = o₀ := Option.some.inj (hread.symm.trans hread₀)
    rcases hopen with ⟨hasset, hactive⟩ | hbounded
    · have hfillable := h.fillable_of_read hread hasset hactive
      exact ⟨hfillable.filled_nonneg, hfillable.filled_lt.le⟩
    · exact hbounded

end Loop

theorem sampleDexEnv_sorts : sampleDexEnv.Sorts := by
  intro before orders hasymm hsplit
  have htotal : Std.Total fun a b : Order => before b a = false := ⟨fun a b => by
    cases hab : before a b with
    | false => exact .inr rfl
    | true => exact .inl (hasymm a b hab)⟩
  have htrans : IsTrans Order fun a b => before b a = false := ⟨fun a b c hab hbc => by
    by_contra hca
    rcases hsplit c b a (by simpa using hca) with hcb | hba
    · rw [hbc] at hcb
      cases hcb
    · rw [hab] at hba
      cases hba⟩
  exact List.pairwise_insertionSort _ orders

/-- An order of the asset 7 under this id. -/
def bookOrder (id : Uint256) (side : OrderSide) (amount filled price : Int) (status : OrderStatus) :
    Order :=
  ⟨id, 7, side, amount, filled, price, sampleSeller, 1000, status⟩

/-- Databases with these orders. -/
def bookOf (orders : List Order) : Databases :=
  orders.foldl Databases.writeOrder ⟨sampleAssetDB, ⟨.empty, .empty, .empty, .empty⟩⟩

def sampleBook : Databases :=
  bookOf [bookOrder 1 .buy 10 2 40 .PARTIAL, bookOrder 2 .buy 4 0 35 .OPEN,
    bookOrder 3 .sell 5 0 30 .OPEN, bookOrder 4 .sell 10 0 38 .OPEN]

theorem matchOrders_outcome_sample :
    ((matchOrders sampleDexEnv sampleBook 7 fun _ => 1000).2.map fun t =>
        (t.buyOrderId, t.sellOrderId, t.amount, t.price)) = [(1, 3, 5, 30), (1, 4, 3, 38)] ∧
      MatchOutcome sampleBook 7 (matchOrders sampleDexEnv sampleBook 7 fun _ => 1000).1
        (matchOrders sampleDexEnv sampleBook 7 fun _ => 1000).2 :=
  ⟨by decide, (matchOrders_outcome sampleDexEnv_sorts
    ⟨by decide, by decide⟩ fun _ => 1000).2⟩

/-- A cancelled order of which more than its amount is filled is not touched. -/
theorem matchOrders_inactiveUnbounded :
    ∃ dbs : Databases, dbs.Matchable 7 ∧
      (∀ e ∈ dbs.dexDb.orders.entries, 0 < e.2.amount ∧ 0 < e.2.price) ∧
      ∃ o, (matchOrders sampleDexEnv dbs 7 fun _ => 1000).1.dexDb.readOrder 1 = some o ∧
        ¬ o.filled ≤ o.amount := by
  refine ⟨bookOf [bookOrder 1 .sell 1 2 30 .CANCELLED], ⟨by decide, by decide⟩,
    by decide, bookOrder 1 .sell 1 2 30 .CANCELLED, by decide, by decide⟩

end GarudaChain
