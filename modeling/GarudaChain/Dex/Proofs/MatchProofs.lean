import GarudaChain.Dex.Proofs.EscrowProofs

/-!
# Matching keeps the escrow
-/

namespace GarudaChain

open Int64Lib Result

structure Queue (dbs : Databases) (assetId : Uint256) (side : OrderSide) (queue : List Order) :
    Prop where
  stored : ∀ o ∈ queue, dbs.dexDb.readOrder o.orderId = some o
  side_eq : ∀ o ∈ queue, o.side = side
  active : ∀ o ∈ queue, o.active = true
  asset_eq : ∀ o ∈ queue, o.assetId = assetId
  nodup : (queue.map Order.orderId).Nodup

namespace Queue

variable {dbs dbs' : Databases} {assetId : Uint256} {side : OrderSide} {o o' : Order}
  {rest queue : List Order}

theorem tail (h : Queue dbs assetId side (o :: rest)) : Queue dbs assetId side rest where
  stored x hx := h.stored x (List.mem_cons_of_mem o hx)
  side_eq x hx := h.side_eq x (List.mem_cons_of_mem o hx)
  active x hx := h.active x (List.mem_cons_of_mem o hx)
  asset_eq x hx := h.asset_eq x (List.mem_cons_of_mem o hx)
  nodup := (List.nodup_cons.mp h.nodup).2

theorem of_orders_eq (h : Queue dbs assetId side queue)
    (horders : dbs'.dexDb.orders = dbs.dexDb.orders) : Queue dbs' assetId side queue := by
  refine ⟨fun x hx => ?_, h.side_eq, h.active, h.asset_eq, h.nodup⟩
  rw [DexDB.readOrder, horders]
  exact h.stored x hx

theorem writeOrder (h : Queue dbs assetId side queue)
    (hne : o.orderId ∉ queue.map Order.orderId) : Queue (dbs.writeOrder o) assetId side queue := by
  refine ⟨fun x hx => ?_, h.side_eq, h.active, h.asset_eq, h.nodup⟩
  rw [Databases.readOrder_writeOrder_of_ne]
  · exact h.stored x hx
  · intro heq
    exact hne (heq ▸ List.mem_map_of_mem hx)

theorem notMem (h : Queue dbs assetId side queue)
    (hread : dbs.dexDb.readOrder o.orderId = some o) (hside : o.side ≠ side) :
    o.orderId ∉ queue.map Order.orderId := by
  intro hmem
  obtain ⟨x, hx, hid⟩ := List.mem_map.mp hmem
  have hsame : x = o := by
    have hx' := h.stored x hx
    rw [hid, hread] at hx'
    exact (Option.some.inj hx').symm
  exact hside (hsame ▸ h.side_eq x hx)

theorem advance_fill (h : Queue dbs assetId side (o :: rest)) (t : Int) :
    Queue (dbs.writeOrder (o.fill t)) assetId side (advance (o.fill t) rest) := by
  have hnotMem : (o.fill t).orderId ∉ rest.map Order.orderId := (List.nodup_cons.mp h.nodup).1
  have hrest : Queue (dbs.writeOrder (o.fill t)) assetId side rest := h.tail.writeOrder hnotMem
  unfold advance
  split_ifs with hfull
  · exact hrest
  · refine ⟨?_, ?_, ?_, ?_, List.nodup_cons.mpr ⟨hnotMem, hrest.nodup⟩⟩ <;> intro x hx <;>
      rcases List.mem_cons.mp hx with rfl | hx
    · exact Databases.readOrder_writeOrder_self _
    · exact hrest.stored x hx
    · exact h.side_eq o List.mem_cons_self
    · exact hrest.side_eq x hx
    · exact Order.active_fill.mpr (not_le.mp hfull)
    · exact hrest.active x hx
    · exact h.asset_eq o List.mem_cons_self
    · exact hrest.asset_eq x hx

end Queue

/-- What holds in every round of the loop of `MatchOrders`. -/
structure MatchInv (crypto : Crypto) (placed : List OrderKey) (grd : Int) (supply : Uint256 → Int)
    (assetId : Uint256) (m : MatchState) : Prop where
  backed : m.dbs.Backed grd supply
  sound : m.dbs.OrdersSound crypto placed
  buys : Queue m.dbs assetId .buy m.buys
  sells : Queue m.dbs assetId .sell m.sells

section Round

variable {crypto : Crypto} {placed : List OrderKey} {grd : Int} {supply : Uint256 → Int}
  {assetId : Uint256} {clock : Nat → Int} {m m' : MatchState}

theorem matchStep_cases (h : matchStep crypto assetId clock m = some m') :
    ∃ buy buys sell sells, m.buys = buy :: buys ∧ m.sells = sell :: sells ∧
      sell.price ≤ buy.price ∧
      ((buy.remaining ≤ 0 ∧ m' = { m with buys := buys }) ∨
        (sell.remaining ≤ 0 ∧ m' = { m with sells := sells }) ∨
        (0 < min buy.remaining sell.remaining ∧
          m'.buys = advance (buy.fill (min buy.remaining sell.remaining)) buys ∧
          m'.sells = advance (sell.fill (min buy.remaining sell.remaining)) sells ∧
          m'.dbs = ((settle m.dbs assetId buy sell (min buy.remaining sell.remaining)).writeOrder
            (buy.fill (min buy.remaining sell.remaining))).writeOrder
              (sell.fill (min buy.remaining sell.remaining)) ∧
          m'.trades = m.trades ++ [tradeResult crypto assetId buy sell
            (min buy.remaining sell.remaining) (clock m.trades.length)])) := by
  unfold matchStep at h
  split at h
  case h_2 => cases h
  case h_1 buy buys sell sells hbuys hsells =>
    simp only at h
    split_ifs at h with hprice hbuy hsell
    · obtain rfl := Option.some.inj h
      exact ⟨buy, buys, sell, sells, hbuys, hsells, by omega, .inl ⟨hbuy.2, rfl⟩⟩
    · obtain rfl := Option.some.inj h
      exact ⟨buy, buys, sell, sells, hbuys, hsells, by omega, .inr (.inl ⟨hsell.2, rfl⟩)⟩
    · obtain rfl := Option.some.inj h
      exact ⟨buy, buys, sell, sells, hbuys, hsells, by omega,
        .inr (.inr ⟨by omega, rfl, rfl, rfl, rfl⟩)⟩

theorem matchStep_eq_none (h : matchStep crypto assetId clock m = none) {buy sell : Order}
    {buys sells : List Order} (hbuys : m.buys = buy :: buys) (hsells : m.sells = sell :: sells) :
    buy.price < sell.price := by
  by_contra hprice
  rw [matchStep, hbuys, hsells] at h
  simp only [if_neg hprice] at h
  split_ifs at h

theorem trade_backed {dbs : Databases} {buy sell : Order} {buys sells : List Order} {t : Int}
    (hbacked : dbs.Backed grd supply) (hsound : dbs.OrdersSound crypto placed)
    (hbuys : Queue dbs assetId .buy (buy :: buys)) (hsells : Queue dbs assetId .sell (sell :: sells))
    (hgrd : grd < 9223372036854775808) (hsupply : supply assetId < 9223372036854775808)
    (h0 : 0 < t) (hbuy : t ≤ buy.amount - buy.filled) (hsell : t ≤ sell.amount - sell.filled)
    (hprice : sell.price ≤ buy.price) :
    (((settle dbs assetId buy sell t).writeOrder (buy.fill t)).writeOrder (sell.fill t)).Backed grd
      supply := by
  have hbuyRead := hbuys.stored buy List.mem_cons_self
  have hsellRead := hsells.stored sell List.mem_cons_self
  have hbuySide := hbuys.side_eq buy List.mem_cons_self
  have hsellSide := hsells.side_eq sell List.mem_cons_self
  have hbuyActive := hbuys.active buy List.mem_cons_self
  have hsellActive := hsells.active sell List.mem_cons_self
  have hsellAsset := hsells.asset_eq sell List.mem_cons_self
  have hbuySound := hsound.of_read hbuyRead
  have hsellSound := hsound.of_read hsellRead
  -- what the two orders hold bounds what the trade pays
  have hbuyHold : buy.buyHold = (buy.amount - buy.filled) * buy.price :=
    if_pos ⟨hbuySide, hbuyActive⟩
  have hsellHold : sell.sellHold assetId = sell.amount - sell.filled :=
    if_pos ⟨hsellSide, hsellActive, hsellAsset⟩
  have hpaid : t * buy.price ≤ buy.buyHold := by
    have hpos : 0 < buy.price := hbuySound.range.price_pos
    rw [hbuyHold]
    exact mul_le_mul_of_nonneg_right hbuy (by omega)
  have hbuyLe := hsound.buyHold_le hbuyRead
  have hsellLe := hsound.sellHold_le hsellRead assetId
  have hgrdEq := hbacked.grd_eq
  have hassetEq := hbacked.asset_eq assetId
  have horders := (settle_onlyBalances dbs assetId buy sell t).orders
  obtain ⟨hgrdTotal, hassetTotal, hnn⟩ := settle_totals hbacked.nonneg assetId h0.le
    hsellSound.range.price_pos hprice hbuySound.range.price_lt (by omega) (by omega)
  -- the book after the two orders are written
  have hne : sell.orderId ≠ buy.orderId := by
    intro hid
    exact hbuys.notMem hsellRead (by rw [hsellSide]; decide)
      (hid ▸ List.mem_map_of_mem List.mem_cons_self)
  have hbuyRead' : (settle dbs assetId buy sell t).dexDb.readOrder buy.orderId = some buy := by
    rw [DexDB.readOrder, horders]
    exact hbuyRead
  have hsellRead' : (settle dbs assetId buy sell t).dexDb.readOrder sell.orderId = some sell := by
    rw [DexDB.readOrder, horders]
    exact hsellRead
  constructor
  · have hbuyEscrow := Databases.total_writeOrder_writeOrder Order.buyHold hbuyRead' hsellRead'
      (Order.fill_orderId (t := t)) (Order.fill_orderId (t := t)) hne
    rw [horders, hbuySound.buyHold_fill hbuySide hbuyActive h0.le hbuy,
      Order.buyHold_of_sell hsellSide, Order.buyHold_of_sell (o := sell.fill t) hsellSide]
      at hbuyEscrow
    show (settle dbs assetId buy sell t).grdTotal + Store.total _ _ = grd
    rw [hbuyEscrow, hgrdTotal, ← hgrdEq, Databases.buyEscrow]
    omega
  · intro a
    have hsellEscrow := Databases.total_writeOrder_writeOrder (Order.sellHold a) hbuyRead'
      hsellRead' (Order.fill_orderId (t := t)) (Order.fill_orderId (t := t)) hne
    rw [horders, Order.sellHold_fill (hsellSound.filled_fill h0.le hsell) hsellSide hsellActive hsell,
      hsellAsset, Order.sellHold_of_buy hbuySide, Order.sellHold_of_buy (o := buy.fill t) hbuySide]
      at hsellEscrow
    show (settle dbs assetId buy sell t).assetTotal a + Store.total _ _ = supply a
    rw [hsellEscrow, hassetTotal, ← hbacked.asset_eq a, Databases.sellEscrow]
    omega
  · exact ⟨hnn.grd, hnn.asset⟩

theorem matchStep_inv (hgrd : grd < 9223372036854775808)
    (hsupply : supply assetId < 9223372036854775808)
    (h : MatchInv crypto placed grd supply assetId m)
    (hstep : matchStep crypto assetId clock m = some m') :
    MatchInv crypto placed grd supply assetId m' := by
  obtain ⟨buy, buys, sell, sells, hbuys, hsells, hprice, hcases⟩ := matchStep_cases hstep
  have hbuyQueue := hbuys ▸ h.buys
  have hsellQueue := hsells ▸ h.sells
  rcases hcases with ⟨-, rfl⟩ | ⟨-, rfl⟩ | ⟨h0, hbuys', hsells', hdbs', -⟩
  · exact ⟨h.backed, h.sound, hbuyQueue.tail, h.sells⟩
  · exact ⟨h.backed, h.sound, h.buys, hsellQueue.tail⟩
  · have hbuyRead := hbuyQueue.stored buy List.mem_cons_self
    have hsellRead := hsellQueue.stored sell List.mem_cons_self
    have hbuySound := h.sound.of_read hbuyRead
    have hsellSound := h.sound.of_read hsellRead
    generalize ht : min buy.remaining sell.remaining = t at h0 hbuys' hsells' hdbs'
    have hbuyLe : t ≤ buy.amount - buy.filled := by
      rw [← hbuySound.remaining_eq]
      omega
    have hsellLe : t ≤ sell.amount - sell.filled := by
      rw [← hsellSound.remaining_eq]
      omega
    have horders : (settle m.dbs assetId buy sell t).dexDb.orders = m.dbs.dexDb.orders :=
      (settle_onlyBalances m.dbs assetId buy sell t).orders
    have hsound1 : (settle m.dbs assetId buy sell t).OrdersSound crypto placed := by
      rw [Databases.OrdersSound, horders]
      exact h.sound
    have hbuyQueue1 := hbuyQueue.of_orders_eq horders
    have hsellQueue1 := hsellQueue.of_orders_eq horders
    -- neither write touches the queue of the other side
    have hbuyNotMem : buy.orderId ∉ (sell :: sells).map Order.orderId :=
      hsellQueue.notMem hbuyRead (by rw [hbuyQueue.side_eq buy List.mem_cons_self]; decide)
    have hbuyQueue2 := hbuyQueue1.advance_fill t
    have hsellQueue2 := (hsellQueue1.writeOrder (o := buy.fill t) hbuyNotMem).advance_fill t
    have hsellRead2 := (hsellQueue1.writeOrder (o := buy.fill t) hbuyNotMem).stored sell List.mem_cons_self
    have hsellNotMem : sell.orderId ∉ (advance (buy.fill t) buys).map Order.orderId :=
      hbuyQueue2.notMem hsellRead2 (by rw [hsellQueue.side_eq sell List.mem_cons_self]; decide)
    constructor
    · rw [hdbs']
      exact trade_backed h.backed h.sound hbuyQueue hsellQueue hgrd hsupply h0 hbuyLe hsellLe hprice
    · rw [hdbs']
      have hbuyFill : (buy.fill t).Sound crypto placed (buy.fill t).orderId :=
        hbuySound.fill h0.le hbuyLe
      have hsellFill : (sell.fill t).Sound crypto placed (sell.fill t).orderId :=
        hsellSound.fill h0.le hsellLe
      exact (hsound1.writeOrder hbuyFill).writeOrder hsellFill
    · rw [hdbs', hbuys']
      exact hbuyQueue2.writeOrder (o := sell.fill t) hsellNotMem
    · rw [hdbs', hsells']
      exact hsellQueue2

end Round

section Loop

variable {placed : List OrderKey} {grd : Int} {supply : Uint256 → Int} {env : DexEnv}
  {dbs : Databases} {assetId : Uint256}

theorem queue_of_perm (hids : ∀ e ∈ dbs.dexDb.orders.entries, e.2.orderId = e.1) {side : OrderSide}
    {queue : List Order} (hperm : queue.Perm (activeOrders dbs.dexDb assetId side)) :
    Queue dbs assetId side queue := by
  have hmem : ∀ o ∈ queue, o ∈ dbs.dexDb.allOrders ∧
      (o.assetId = assetId ∧ o.active = true) ∧ o.side = side := by
    intro o ho
    simpa [activeOrders, List.mem_filter] using hperm.mem_iff.mp ho
  have hmap : dbs.dexDb.allOrders.map Order.orderId = dbs.dexDb.orders.entries.map Prod.fst := by
    rw [DexDB.allOrders, List.map_map]
    exact List.map_congr_left hids
  have hnodup : (dbs.dexDb.allOrders.map Order.orderId).Nodup := hmap ▸ dbs.dexDb.orders.nodup
  constructor
  · intro o ho
    obtain ⟨⟨id, o'⟩, he, rfl⟩ := List.mem_map.mp (hmem o ho).1
    have hid : o'.orderId = id := hids _ he
    exact (Store.read_eq_some_iff _).mpr (hid ▸ he)
  · exact fun o ho => (hmem o ho).2.2
  · exact fun o ho => (hmem o ho).2.1.2
  · exact fun o ho => (hmem o ho).2.1.1
  · rw [(hperm.map Order.orderId).nodup_iff]
    exact hnodup.sublist (List.filter_sublist.map Order.orderId)

theorem matchStart_inv (hbacked : dbs.Backed grd supply)
    (hsound : dbs.OrdersSound env.crypto placed) :
    MatchInv env.crypto placed grd supply assetId (matchStart env dbs assetId) where
  backed := hbacked
  sound := hsound
  buys := queue_of_perm (fun e he => (hsound e he).id_eq) (env.sort_perm _ _)
  sells := queue_of_perm (fun e he => (hsound e he).id_eq) (env.sort_perm _ _)

theorem matchLoop_inv (hgrd : grd < 9223372036854775808)
    (hsupply : supply assetId < 9223372036854775808) (hbacked : dbs.Backed grd supply)
    (hsound : dbs.OrdersSound env.crypto placed) (clock : Nat → Int) :
    MatchInv env.crypto placed grd supply assetId (matchLoop env dbs assetId clock) :=
  Run.loop_inv (fun _ _ => matchStep_inv hgrd hsupply) _ (matchStart_inv hbacked hsound)

end Loop

end GarudaChain
