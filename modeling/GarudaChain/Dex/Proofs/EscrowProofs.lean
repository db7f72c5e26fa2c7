import GarudaChain.Dex.Escrow
import GarudaChain.Node.Proofs.AssetProofs
import Mathlib.Tactic.Ring

/-!
# The order book keeps its escrow
-/

namespace GarudaChain

open Int64Lib Result

namespace Databases

variable {dbs : Databases}

theorem readGrdBalance_eq_share (address : Bytes) :
    dbs.dexDb.readGrdBalance address =
      dbs.dexDb.grdBalances.share (fun _ balance => balance) address := by
  unfold DexDB.readGrdBalance Store.share
  cases dbs.dexDb.grdBalances.read address with
  | none => rfl
  | some balance => rfl

theorem Nonneg.readGrdBalance (h : dbs.Nonneg) (address : Bytes) :
    0 ≤ dbs.dexDb.readGrdBalance address := by
  unfold DexDB.readGrdBalance
  cases hread : dbs.dexDb.grdBalances.read address with
  | none => exact le_refl 0
  | some balance => exact h.grd _ (Store.read_eq_some_iff _ |>.mp hread)

theorem Nonneg.readBalance (h : dbs.Nonneg) (assetId : Uint256) (address : Bytes) :
    0 ≤ dbs.assetDb.readBalance assetId address := AssetDB.Nonneg.readBalance h.asset assetId address

theorem Nonneg.readGrdBalance_le (h : dbs.Nonneg) (address : Bytes) :
    dbs.dexDb.readGrdBalance address ≤ dbs.grdTotal := by
  rw [readGrdBalance_eq_share]
  exact Store.share_le_total _ _ h.grd address

theorem Nonneg.readBalance_le (h : dbs.Nonneg) (assetId : Uint256) (address : Bytes) :
    dbs.assetDb.readBalance assetId address ≤ dbs.assetTotal assetId :=
  AssetDB.Nonneg.readBalance_le h.asset assetId address

/-- The databases with the virtual GRD of an address set. -/
def setGrd (dbs : Databases) (address : Bytes) (balance : Int) : Databases :=
  { dbs with dexDb := dbs.dexDb.writeGrdBalance address balance }

/-- The databases with a balance of an asset set. -/
def setAsset (dbs : Databases) (assetId : Uint256) (address : Bytes) (balance : Int) : Databases :=
  { dbs with assetDb := dbs.assetDb.writeBalance assetId address balance }

theorem grdTotal_setGrd (address : Bytes) (balance : Int) :
    (dbs.setGrd address balance).grdTotal =
      dbs.grdTotal - dbs.dexDb.readGrdBalance address + balance := by
  rw [readGrdBalance_eq_share]
  exact Store.total_write _ _ _ address balance

theorem assetTotal_setAsset (assetId assetId' : Uint256) (address : Bytes) (balance : Int) :
    (dbs.setAsset assetId address balance).assetTotal assetId' =
      dbs.assetTotal assetId' + if assetId = assetId' then
        balance - dbs.assetDb.readBalance assetId address else 0 :=
  AssetDB.assetTotal_writeBalance assetId assetId' address balance

theorem Nonneg.setGrd (h : dbs.Nonneg) (address : Bytes) {balance : Int} (hb : 0 ≤ balance) :
    (dbs.setGrd address balance).Nonneg := by
  refine ⟨?_, h.asset⟩
  rintro ⟨k, v⟩ he
  rcases (Store.mem_write_iff _ _).mp he with ⟨-, rfl⟩ | ⟨-, hmem⟩
  · exact hb
  · exact h.grd _ hmem

theorem Nonneg.setAsset (h : dbs.Nonneg) (assetId : Uint256) (address : Bytes) {balance : Int}
    (hb : 0 ≤ balance) : (dbs.setAsset assetId address balance).Nonneg :=
  ⟨h.grd, AssetDB.Nonneg.writeBalance h.asset assetId address hb⟩

theorem creditGrd_spec (h : dbs.Nonneg) (address : Bytes) {amount : Int} (h0 : 0 ≤ amount)
    (hfit : dbs.grdTotal + amount < 9223372036854775808) :
    (dbs.creditGrd address amount).grdTotal = dbs.grdTotal + amount ∧
      (dbs.creditGrd address amount).Nonneg := by
  have hlo := h.readGrdBalance address
  have hhi := h.readGrdBalance_le address
  have hset : dbs.creditGrd address amount =
      dbs.setGrd address (dbs.dexDb.readGrdBalance address + amount) := by
    unfold creditGrd
    simp only
    rw [wrap64_of_range (by omega) (by omega)]
    rfl
  rw [hset, grdTotal_setGrd]
  exact ⟨by omega, h.setGrd address (by omega)⟩

theorem creditAsset_spec (h : dbs.Nonneg) (assetId : Uint256) (address : Bytes) {amount : Int}
    (h0 : 0 ≤ amount) (hfit : dbs.assetTotal assetId + amount < 9223372036854775808) :
    (∀ a, (dbs.creditAsset assetId address amount).assetTotal a =
        dbs.assetTotal a + if assetId = a then amount else 0) ∧
      (dbs.creditAsset assetId address amount).Nonneg := by
  obtain ⟨db', rfl, hnonneg, htotal, -⟩ := AssetDB.Nonneg.credit h.asset assetId address h0 hfit
  exact ⟨htotal, h.grd, hnonneg⟩

theorem total_writeOrder (hold : Order → Int) (order : Order) :
    (dbs.writeOrder order).dexDb.orders.total (fun _ o => hold o) =
      dbs.dexDb.orders.total (fun _ o => hold o) -
        (dbs.dexDb.readOrder order.orderId).elim 0 hold + hold order :=
  Store.total_write _ _ _ order.orderId order

theorem readOrder_writeOrder_self (order : Order) :
    (dbs.writeOrder order).dexDb.readOrder order.orderId = some order :=
  Store.read_write_self _ _ _ _

theorem readOrder_writeOrder_of_ne {order : Order} {id : Uint256} (h : id ≠ order.orderId) :
    (dbs.writeOrder order).dexDb.readOrder id = dbs.dexDb.readOrder id :=
  Store.read_write_of_ne _ _ h _

theorem backed_writeOrder {grd : Int} {supply : Uint256 → Int} {order : Order} {old : Option Order}
    (hread : dbs.dexDb.readOrder order.orderId = old) (hnn : dbs.Nonneg)
    (hgrd : dbs.grdTotal + dbs.buyEscrow - old.elim 0 Order.buyHold + order.buyHold = grd)
    (hasset : ∀ a, dbs.assetTotal a + dbs.sellEscrow a - old.elim 0 (Order.sellHold a) +
      order.sellHold a = supply a) : (dbs.writeOrder order).Backed grd supply := by
  refine ⟨?_, fun a => ?_, ⟨hnn.grd, hnn.asset⟩⟩
  · have htotal : (dbs.writeOrder order).buyEscrow =
        dbs.buyEscrow - old.elim 0 Order.buyHold + order.buyHold := by
      rw [← hread]
      exact total_writeOrder Order.buyHold order
    show dbs.grdTotal + _ = grd
    omega
  · have htotal : (dbs.writeOrder order).sellEscrow a =
        dbs.sellEscrow a - old.elim 0 (Order.sellHold a) + order.sellHold a := by
      rw [← hread]
      exact total_writeOrder (Order.sellHold a) order
    show dbs.assetTotal a + _ = supply a
    have := hasset a
    omega

theorem total_writeOrder_writeOrder (hold : Order → Int) {a a' b b' : Order}
    (ha : dbs.dexDb.readOrder a.orderId = some a) (hb : dbs.dexDb.readOrder b.orderId = some b)
    (ha' : a'.orderId = a.orderId) (hb' : b'.orderId = b.orderId) (hne : b.orderId ≠ a.orderId) :
    ((dbs.writeOrder a').writeOrder b').dexDb.orders.total (fun _ o => hold o) =
      dbs.dexDb.orders.total (fun _ o => hold o) - hold a + hold a' - hold b + hold b' := by
  have hreadB : (dbs.writeOrder a').dexDb.readOrder b'.orderId = some b := by
    rw [readOrder_writeOrder_of_ne (by rw [ha', hb']; exact hne), hb', hb]
  rw [total_writeOrder, total_writeOrder, hreadB, ha', ha]
  rfl

end Databases

def Order.key (o : Order) : OrderKey := ⟨o.assetId, o.side, o.price, o.amount, o.owner, o.timestamp⟩

/-- The values of the key of an order that `placeorder` lets through. -/
structure OrderKey.InRange (key : OrderKey) : Prop where
  amount_pos : 0 < key.amount
  amount_lt : key.amount < 9223372036854775808
  price_pos : 0 < key.price
  price_lt : key.price < 9223372036854775808
  timestamp : -9223372036854775808 ≤ key.timestamp ∧ key.timestamp < 9223372036854775808

/-- A key whose numbers fit in `int64_t`, as `ComputeOrderId` hashes them. -/
structure OrderKey.Fits (key : OrderKey) : Prop where
  price : -9223372036854775808 ≤ key.price ∧ key.price < 9223372036854775808
  amount : -9223372036854775808 ≤ key.amount ∧ key.amount < 9223372036854775808
  timestamp : -9223372036854775808 ≤ key.timestamp ∧ key.timestamp < 9223372036854775808

theorem OrderKey.InRange.fits {key : OrderKey} (h : key.InRange) : key.Fits := by
  have hprice := h.price_pos
  have hamount := h.amount_pos
  exact ⟨⟨by omega, h.price_lt⟩, ⟨by omega, h.amount_lt⟩, h.timestamp⟩

/-- An order as it lies in the book, under its id: it has been placed and is filled up to a part of
    its amount. -/
structure Order.Sound (crypto : Crypto) (placed : List OrderKey) (id : Uint256) (o : Order) :
    Prop where
  id_eq : o.orderId = id
  id_key : id = computeOrderId crypto o.key
  mem : o.key ∈ placed
  range : o.key.InRange
  filled_nonneg : 0 ≤ o.filled
  filled_le : o.filled ≤ o.amount

namespace Order.Sound

variable {crypto : Crypto} {placed : List OrderKey} {id : Uint256} {o : Order}

theorem remaining_eq (h : o.Sound crypto placed id) : o.remaining = o.amount - o.filled := by
  have hlt : o.amount < 9223372036854775808 := h.range.amount_lt
  have h0 := h.filled_nonneg
  have hle := h.filled_le
  exact wrap64_of_range (by omega) (by omega)

theorem buyHold_nonneg (h : o.Sound crypto placed id) : 0 ≤ o.buyHold := by
  have hle := h.filled_le
  have hprice : 0 < o.price := h.range.price_pos
  unfold Order.buyHold
  split_ifs
  · exact mul_nonneg (by omega) (by omega)
  · exact le_refl 0

theorem sellHold_nonneg (h : o.Sound crypto placed id) (assetId : Uint256) :
    0 ≤ o.sellHold assetId := by
  have hle := h.filled_le
  unfold Order.sellHold
  split_ifs <;> omega

theorem update (h : o.Sound crypto placed id) {filled : Int} (h0 : 0 ≤ filled)
    (hle : filled ≤ o.amount) (status : OrderStatus) :
    ({ o with filled := filled, status := status } : Order).Sound crypto placed id :=
  ⟨h.id_eq, h.id_key, h.mem, h.range, h0, hle⟩

end Order.Sound

/-- Every order of the book is sound. -/
def Databases.OrdersSound (crypto : Crypto) (placed : List OrderKey) (dbs : Databases) : Prop :=
  ∀ e ∈ dbs.dexDb.orders.entries, e.2.Sound crypto placed e.1

namespace Databases.OrdersSound

variable {crypto : Crypto} {placed : List OrderKey} {dbs : Databases}

theorem of_read (h : dbs.OrdersSound crypto placed) {id : Uint256} {o : Order}
    (hread : dbs.dexDb.readOrder id = some o) : o.Sound crypto placed id :=
  h (id, o) ((Store.read_eq_some_iff _).mp hread)

theorem writeOrder (h : dbs.OrdersSound crypto placed) {o : Order}
    (ho : o.Sound crypto placed o.orderId) : (dbs.writeOrder o).OrdersSound crypto placed := by
  rintro ⟨k, v⟩ he
  rcases (Store.mem_write_iff _ _).mp he with ⟨rfl, rfl⟩ | ⟨-, hmem⟩
  · exact ho
  · exact h _ hmem

theorem hold_le (h : dbs.OrdersSound crypto placed) {hold : Order → Int}
    (hold_nonneg : ∀ id o, o.Sound crypto placed id → 0 ≤ hold o) {id : Uint256} {o : Order}
    (hread : dbs.dexDb.readOrder id = some o) :
    hold o ≤ dbs.dexDb.orders.total fun _ o => hold o := by
  have hshare := Store.share_le_total dbs.dexDb.orders (fun _ o => hold o)
    (fun e he => hold_nonneg e.1 e.2 (h e he)) id
  have hread' : dbs.dexDb.orders.read id = some o := hread
  rw [Store.share, hread'] at hshare
  exact hshare

theorem buyHold_le (h : dbs.OrdersSound crypto placed) {id : Uint256} {o : Order}
    (hread : dbs.dexDb.readOrder id = some o) : o.buyHold ≤ dbs.buyEscrow :=
  h.hold_le (fun _ _ ho => ho.buyHold_nonneg) hread

theorem sellHold_le (h : dbs.OrdersSound crypto placed) {id : Uint256} {o : Order}
    (hread : dbs.dexDb.readOrder id = some o) (assetId : Uint256) :
    o.sellHold assetId ≤ dbs.sellEscrow assetId :=
  h.hold_le (fun _ _ ho => ho.sellHold_nonneg assetId) hread

theorem buyEscrow_nonneg (h : dbs.OrdersSound crypto placed) : 0 ≤ dbs.buyEscrow :=
  Store.total_nonneg _ _ fun e he => (h e he).buyHold_nonneg

theorem sellEscrow_nonneg (h : dbs.OrdersSound crypto placed) (assetId : Uint256) :
    0 ≤ dbs.sellEscrow assetId :=
  Store.total_nonneg _ _ fun e he => (h e he).sellHold_nonneg assetId

end Databases.OrdersSound

section Trade

variable {crypto : Crypto} {placed : List OrderKey} {id : Uint256} {o : Order} {t : Int}

@[simp] theorem Order.fill_assetId : (o.fill t).assetId = o.assetId := rfl

@[simp] theorem Order.fill_orderId : (o.fill t).orderId = o.orderId := rfl

@[simp] theorem Order.fill_side : (o.fill t).side = o.side := rfl

@[simp] theorem Order.fill_amount : (o.fill t).amount = o.amount := rfl

@[simp] theorem Order.fill_price : (o.fill t).price = o.price := rfl

theorem Order.active_fill : (o.fill t).active = true ↔ (o.fill t).filled < o.amount := by
  unfold Order.fill Order.active
  simp only
  split_ifs with h
  · simp [h]
  · simpa using h

theorem Order.Sound.filled_fill (h : o.Sound crypto placed id) (h0 : 0 ≤ t)
    (hle : t ≤ o.amount - o.filled) : (o.fill t).filled = o.filled + t := by
  have hlt : o.amount < 9223372036854775808 := h.range.amount_lt
  have hf := h.filled_nonneg
  exact wrap64_of_range (by omega) (by omega)

theorem Order.Sound.fill (h : o.Sound crypto placed id) (h0 : 0 ≤ t)
    (hle : t ≤ o.amount - o.filled) : (o.fill t).Sound crypto placed id := by
  have hf := h.filled_nonneg
  have hfilled := h.filled_fill h0 hle
  exact ⟨h.id_eq, h.id_key, h.mem, h.range, by omega, by rw [Order.fill_amount]; omega⟩

theorem Order.Sound.buyHold_fill (h : o.Sound crypto placed id) (hside : o.side = .buy)
    (hactive : o.active = true) (h0 : 0 ≤ t) (hle : t ≤ o.amount - o.filled) :
    (o.fill t).buyHold = o.buyHold - t * o.price := by
  have hfilled := h.filled_fill h0 hle
  have hhold : o.buyHold = (o.amount - o.filled) * o.price := if_pos ⟨hside, hactive⟩
  rw [hhold]
  unfold Order.buyHold
  rw [Order.fill_amount, Order.fill_price]
  split_ifs with hopen
  · rw [hfilled]
    ring
  · -- the trade has filled the order, which holds nothing more
    have hfull : o.amount - o.filled = t := by
      have := mt (fun hlt => And.intro hside (Order.active_fill.mpr hlt)) hopen
      omega
    rw [hfull]
    ring

theorem Order.sellHold_fill (hfilled : (o.fill t).filled = o.filled + t) (hside : o.side = .sell)
    (hactive : o.active = true) (hle : t ≤ o.amount - o.filled) (assetId : Uint256) :
    (o.fill t).sellHold assetId = o.sellHold assetId - if o.assetId = assetId then t else 0 := by
  by_cases hasset : o.assetId = assetId
  · have hhold : o.sellHold assetId = o.amount - o.filled := if_pos ⟨hside, hactive, hasset⟩
    rw [hhold, if_pos hasset]
    unfold Order.sellHold
    rw [Order.fill_amount]
    split_ifs with hopen
    · omega
    · have := mt (fun hlt => And.intro hside
        (And.intro (Order.active_fill.mpr hlt) hasset)) hopen
      omega
  · simp [Order.sellHold, hasset]

theorem Order.sellHold_of_buy (hside : o.side = .buy) (assetId : Uint256) :
    o.sellHold assetId = 0 := by
  simp [Order.sellHold, hside]

theorem Order.buyHold_of_sell (hside : o.side = .sell) : o.buyHold = 0 := by
  simp [Order.buyHold, hside]

end Trade

structure OnlyBalances (dbs dbs' : Databases) : Prop where
  orders : dbs'.dexDb.orders = dbs.dexDb.orders
  marketMakers : dbs'.dexDb.marketMakers = dbs.dexDb.marketMakers

theorem settle_onlyBalances (dbs : Databases) (assetId : Uint256) (buy sell : Order) (t : Int) :
    OnlyBalances dbs (settle dbs assetId buy sell t) := by
  unfold settle
  simp only
  split_ifs <;> exact ⟨rfl, rfl⟩

theorem settle_totals {dbs : Databases} (hnn : dbs.Nonneg) (assetId : Uint256) {buy sell : Order}
    {t : Int} (h0 : 0 ≤ t) (hsell : 0 < sell.price) (hprice : sell.price ≤ buy.price)
    (hbuy : buy.price < 9223372036854775808)
    (hgrd : dbs.grdTotal + t * buy.price < 9223372036854775808)
    (hasset : dbs.assetTotal assetId + t < 9223372036854775808) :
    (settle dbs assetId buy sell t).grdTotal = dbs.grdTotal + t * buy.price ∧
      (∀ a, (settle dbs assetId buy sell t).assetTotal a =
        dbs.assetTotal a + if assetId = a then t else 0) ∧
      (settle dbs assetId buy sell t).Nonneg := by
  have hgrdTotal : 0 ≤ dbs.grdTotal := Store.total_nonneg _ _ hnn.grd
  have hsplit : t * buy.price = t * sell.price + t * (buy.price - sell.price) := by ring
  have hpaid : 0 ≤ t * sell.price := mul_nonneg h0 (by omega)
  have hback : 0 ≤ t * (buy.price - sell.price) := mul_nonneg h0 (by omega)
  unfold settle
  simp only
  rw [wrap64_of_range (x := t * sell.price) (by omega) (by omega),
    wrap64_of_range (x := buy.price - sell.price) (by omega) (by omega),
    wrap64_of_range (x := t * (buy.price - sell.price)) (by omega) (by omega)]
  obtain ⟨hasset1, hnn1⟩ := Databases.creditAsset_spec hnn assetId buy.owner h0 hasset
  generalize hdbs1 : dbs.creditAsset assetId buy.owner t = dbs1 at hasset1 hnn1
  have hgrd1 : dbs1.grdTotal = dbs.grdTotal := by rw [← hdbs1]; rfl
  obtain ⟨hgrd2, hnn2⟩ := Databases.creditGrd_spec hnn1 sell.owner hpaid (by omega)
  split_ifs with hdiff
  · obtain ⟨hgrd3, hnn3⟩ := Databases.creditGrd_spec hnn2 buy.owner hback (by omega)
    exact ⟨by omega, hasset1, hnn3⟩
  · have hzero : buy.price - sell.price = 0 := by omega
    rw [hzero, mul_zero] at hsplit
    exact ⟨by omega, hasset1, hnn2⟩

end GarudaChain
