import GarudaChain.Dex.Proofs.MatchProofs

/-!
# Runs of the order book
-/

namespace GarudaChain

open Int64Lib Result

theorem uint256Bytes_injective {a b : Uint256} (h : uint256Bytes a = uint256Bytes b) : a = b := by
  rw [← uint256OfBytes_uint256Bytes a, h, uint256OfBytes_uint256Bytes]

variable {address : Bytes} {crypto : Crypto} {key : OrderKey} {x : Int}

theorem int64Bytes_injective {y : Int}
    (hx : -9223372036854775808 ≤ x ∧ x < 9223372036854775808)
    (hy : -9223372036854775808 ≤ y ∧ y < 9223372036854775808) (h : int64Bytes x = int64Bytes y) :
    x = y := by
  have hread : ∀ z : Int, readLE (int64Bytes z) = (z % 2 ^ 64).toNat := by
    intro z
    exact readLE_writeLE 8 _ (by omega)
  have hmod : (x % 2 ^ 64).toNat = (y % 2 ^ 64).toNat := by rw [← hread x, ← hread y, h]
  omega

@[simp] theorem length_int64Bytes (x : Int) : (int64Bytes x).length = 8 := length_writeLE 8 _

theorem OrderKey.bytes_injective {a b : OrderKey} (ha : a.Fits) (hb : b.Fits)
    (h : a.bytes = b.bytes) : a = b := by
  unfold OrderKey.bytes at h
  obtain ⟨h, htime⟩ := List.append_inj' h (by simp)
  simp only [List.append_assoc] at h
  obtain ⟨hasset, h⟩ := List.append_inj h (by simp)
  obtain ⟨hside, h⟩ := List.append_inj h (by simp)
  obtain ⟨hprice, h⟩ := List.append_inj h (by simp)
  obtain ⟨hamount, howner⟩ := List.append_inj h (by simp)
  have hside' : a.side = b.side := by
    cases hA : a.side <;> cases hB : b.side <;> simp_all [OrderSide.byte]
  have hprice' := int64Bytes_injective ha.price hb.price hprice
  have hamount' := int64Bytes_injective ha.amount hb.amount hamount
  have htime' := int64Bytes_injective ha.timestamp hb.timestamp htime
  obtain ⟨aAsset, aSide, aPrice, aAmount, aOwner, aTime⟩ := a
  obtain ⟨bAsset, bSide, bPrice, bAmount, bOwner, bTime⟩ := b
  simp only at hside' hprice' hamount' htime' howner hasset
  rw [uint256Bytes_injective hasset, hside', hprice', hamount', howner, htime']

section Requests

variable {env : DexEnv} {dbs dbs' : Databases}

theorem depositgrd_ok {amount : Option Int} {pqcHex : Option (List Char)}
    {balance : Int} (h : depositgrd env dbs address amount pqcHex = .ok (dbs', balance)) :
    ∃ x, amount = some x ∧ 0 < x ∧ dbs' = dbs.creditGrd address x := by
  unfold depositgrd at h
  simp only [bind_ok_iff, throwIf_eq_ok, Prod.mk.injEq, Except.ok.injEq] at h
  obtain ⟨_, -, x, hx, _, hpos, _, -, _, -, hdbs, -⟩ := h
  exact ⟨x, (amountFromValue_eq_ok hx).1, by simpa using hpos, hdbs.symm⟩

theorem withdrawgrd_ok {amount : Option Int} {pqcHex : Option (List Char)}
    {balance : Int} (h : withdrawgrd env dbs address amount pqcHex = .ok (dbs', balance)) :
    ∃ x, amount = some x ∧ 0 < x ∧ x ≤ dbs.dexDb.readGrdBalance address ∧
      dbs' = dbs.setGrd address (wrap64 (dbs.dexDb.readGrdBalance address - x)) := by
  unfold withdrawgrd at h
  simp only [bind_ok_iff, throwIf_eq_ok, Prod.mk.injEq, Except.ok.injEq] at h
  obtain ⟨_, -, x, hx, _, hpos, _, -, _, hle, hdbs, -⟩ := h
  exact ⟨x, (amountFromValue_eq_ok hx).1, by simpa using hpos, by simpa using hle, hdbs.symm⟩

theorem placeorder_ok {assetId : Uint256} {sideStr : String} {amount : Int} {price : Option Int} {now : Int}
    (h : placeorder env dbs assetId sideStr amount price address now = .ok (dbs', key)) :
    key.InRange ∧ ∃ dbs1,
      escrow dbs key.assetId key.side key.amount key.price key.owner = .ok dbs1 ∧
      dbs' = dbs1.writeOrder (key.order env.crypto) := by
  unfold placeorder at h
  simp only [bind_ok_iff, throwIf_eq_ok, Prod.mk.injEq, Except.ok.injEq] at h
  obtain ⟨x, hx, p, hp, side, -, _, hxpos, _, hppos, _, -, _, -, dbs1, hescrow, hdbs, rfl⟩ := h
  obtain ⟨-, -, hxlt⟩ := getInt64_eq_ok hx
  obtain ⟨-, -, hple⟩ := amountFromValue_eq_ok hp
  have hxpos' : 0 < x := by simpa using hxpos
  have hppos' : 0 < p := by simpa using hppos
  exact ⟨⟨hxpos', hxlt, hppos', by show p < _; omega, wrap64_range now⟩, dbs1, hescrow, hdbs.symm⟩

theorem cancelorder_ok {orderId : Uint256} {refunded : Int}
    (h : cancelorder dbs orderId address = .ok (dbs', refunded)) :
    ∃ order, dbs.dexDb.readOrder orderId = some order ∧ order.active = true ∧
      dbs' = (refund dbs order).writeOrder { order with status := .CANCELLED } := by
  unfold cancelorder at h
  cases hread : dbs.dexDb.readOrder orderId with
  | none =>
    rw [hread] at h
    cases h
  | some order =>
    rw [hread] at h
    simp only [bind_ok_iff, throwIf_eq_ok, Prod.mk.injEq, Except.ok.injEq] at h
    obtain ⟨_, -, _, hactive, hdbs, -⟩ := h
    exact ⟨order, rfl, by simpa using hactive, hdbs.symm⟩

end Requests

theorem Databases.OrdersSound.mono {placed placed' : List OrderKey}
    {dbs : Databases} (h : dbs.OrdersSound crypto placed) (hsub : placed ⊆ placed') :
    dbs.OrdersSound crypto placed' := by
  intro e he
  have ho := h e he
  exact ⟨ho.id_eq, ho.id_key, hsub ho.mem, ho.range, ho.filled_nonneg, ho.filled_le⟩

section Keeps

variable {crypto : Crypto} {placed : List OrderKey} {dbs dbs' : Databases} {grd : Int}
  {supply : Uint256 → Int}

theorem grdTotal_le (hbacked : dbs.Backed grd supply) (hsound : dbs.OrdersSound crypto placed) :
    dbs.grdTotal ≤ grd := by
  have := hbacked.grd_eq
  have := hsound.buyEscrow_nonneg
  omega

theorem deposit_backed (hbacked : dbs.Backed grd supply) (hsound : dbs.OrdersSound crypto placed)
    (address : Bytes) (hx : 0 < x) (hfit : grd + x < 9223372036854775808) :
    (dbs.creditGrd address x).Backed (grd + x) supply := by
  have hle := grdTotal_le hbacked hsound
  obtain ⟨htotal, hnn⟩ := Databases.creditGrd_spec hbacked.nonneg address hx.le (by omega)
  refine ⟨?_, hbacked.asset_eq, hnn⟩
  show (dbs.creditGrd address x).grdTotal + dbs.buyEscrow = grd + x
  rw [htotal, ← hbacked.grd_eq]
  omega

theorem withdraw_backed (hbacked : dbs.Backed grd supply) (hsound : dbs.OrdersSound crypto placed)
    (address : Bytes) (hx : 0 < x) (hle : x ≤ dbs.dexDb.readGrdBalance address)
    (hgrd : grd < 9223372036854775808) :
    (dbs.setGrd address (wrap64 (dbs.dexDb.readGrdBalance address - x))).Backed (grd - x)
      supply := by
  have hread := hbacked.nonneg.readGrdBalance_le address
  have htotal := grdTotal_le hbacked hsound
  rw [wrap64_of_range (by omega) (by omega)]
  refine ⟨?_, hbacked.asset_eq, hbacked.nonneg.setGrd address (by omega)⟩
  show (dbs.setGrd address _).grdTotal + dbs.buyEscrow = grd - x
  rw [Databases.grdTotal_setGrd, ← hbacked.grd_eq]
  omega

theorem place_backed (hbacked : dbs.Backed grd supply)
    (hsound : dbs.OrdersSound crypto placed) (hkey : key.InRange)
    (hfits : key.side = .buy → key.amount * key.price < 9223372036854775808)
    (hgrd : grd < 9223372036854775808) (hsupply : ∀ a, supply a < 9223372036854775808)
    (hfresh : dbs.dexDb.readOrder (computeOrderId crypto key) = none)
    (hescrow : escrow dbs key.assetId key.side key.amount key.price key.owner = .ok dbs') :
    (dbs'.writeOrder (key.order crypto)).Backed grd supply := by
  have hamount := hkey.amount_pos
  have hgrdEq := hbacked.grd_eq
  cases hside : key.side with
  | sell =>
    rw [hside] at hescrow
    simp only [escrow, bind_ok_iff, throwIf_eq_ok, Except.ok.injEq] at hescrow
    obtain ⟨_, hle, rfl⟩ := hescrow
    have hle' : key.amount ≤ dbs.assetDb.readBalance key.assetId key.owner := by simpa using hle
    have hread := hbacked.nonneg.readBalance_le key.assetId key.owner
    have hasset := hbacked.asset_eq key.assetId
    have hheld := hsound.sellEscrow_nonneg key.assetId
    have hbound := hsupply key.assetId
    have hbuyHold : (key.order crypto).buyHold = 0 := Order.buyHold_of_sell hside
    have hsellHold : ∀ a, (key.order crypto).sellHold a =
        if key.assetId = a then key.amount else 0 := by
      simp [Order.sellHold, OrderKey.order, Order.active, hside]
    rw [wrap64_of_range (by omega) (by omega)]
    show ((dbs.setAsset key.assetId key.owner _).writeOrder (key.order crypto)).Backed grd supply
    refine Databases.backed_writeOrder hfresh
      (hbacked.nonneg.setAsset key.assetId key.owner (by omega)) ?_ fun a => ?_
    · show dbs.grdTotal + dbs.buyEscrow - 0 + _ = grd
      omega
    · show (dbs.setAsset key.assetId key.owner _).assetTotal a + dbs.sellEscrow a - 0 + _ = supply a
      have := hbacked.asset_eq a
      rw [Databases.assetTotal_setAsset, hsellHold]
      split_ifs <;> omega
  | buy =>
    have hneed : 0 < key.amount * key.price := mul_pos hamount hkey.price_pos
    have hexact : wrap64 (key.amount * key.price) = key.amount * key.price :=
      wrap64_of_range (by omega) (hfits hside)
    rw [hside] at hescrow
    simp only [escrow, bind_ok_iff, throwIf_eq_ok, Except.ok.injEq, hexact] at hescrow
    obtain ⟨_, -, _, hle, rfl⟩ := hescrow
    have hle' : key.amount * key.price ≤ dbs.dexDb.readGrdBalance key.owner := by simpa using hle
    have hread := hbacked.nonneg.readGrdBalance_le key.owner
    have htotal := grdTotal_le hbacked hsound
    have hbuyHold : (key.order crypto).buyHold = key.amount * key.price := by
      simp [Order.buyHold, OrderKey.order, Order.active, hside]
    rw [wrap64_of_range (by omega) (by omega)]
    show ((dbs.setGrd key.owner _).writeOrder (key.order crypto)).Backed grd supply
    refine Databases.backed_writeOrder hfresh
      (hbacked.nonneg.setGrd key.owner (by omega)) ?_ fun a => ?_
    · show (dbs.setGrd key.owner _).grdTotal + dbs.buyEscrow - 0 + _ = grd
      rw [Databases.grdTotal_setGrd]
      omega
    · show dbs.assetTotal a + dbs.sellEscrow a - 0 + _ = supply a
      have := hbacked.asset_eq a
      rw [Order.sellHold_of_buy hside]
      omega

theorem escrow_onlyBalances {assetId : Uint256} {side : OrderSide} {amount price : Int} (h : escrow dbs assetId side amount price address = .ok dbs') :
    OnlyBalances dbs dbs' := by
  cases side with
  | sell =>
    simp only [escrow, bind_ok_iff, Except.ok.injEq] at h
    obtain ⟨_, -, rfl⟩ := h
    exact ⟨rfl, rfl⟩
  | buy =>
    simp only [escrow, bind_ok_iff, Except.ok.injEq] at h
    obtain ⟨_, -, _, -, rfl⟩ := h
    exact ⟨rfl, rfl⟩

theorem refund_onlyBalances (dbs : Databases) (order : Order) :
    OnlyBalances dbs (refund dbs order) := by
  unfold refund
  split_ifs
  · cases order.side <;> exact ⟨rfl, rfl⟩
  · exact ⟨rfl, rfl⟩

theorem refund_totals {id : Uint256} {order : Order} (hbacked : dbs.Backed grd supply)
    (hsound : dbs.OrdersSound crypto placed) (hread : dbs.dexDb.readOrder id = some order)
    (hactive : order.active = true) (hgrd : grd < 9223372036854775808)
    (hsupply : ∀ a, supply a < 9223372036854775808) :
    (refund dbs order).grdTotal = dbs.grdTotal + order.buyHold ∧
      (∀ a, (refund dbs order).assetTotal a = dbs.assetTotal a + order.sellHold a) ∧
      (refund dbs order).Nonneg := by
  have horder := hsound.of_read hread
  have hgrdEq := hbacked.grd_eq
  have hbuyLe := hsound.buyHold_le hread
  have hsellLe := hsound.sellHold_le hread
  have hfilled := horder.filled_le
  unfold refund
  rw [horder.remaining_eq]
  split_ifs with hpos
  · cases hside : order.side with
    | sell =>
      have hsellHold : ∀ a, order.sellHold a =
          if order.assetId = a then order.amount - order.filled else 0 := by
        simp [Order.sellHold, hside, hactive]
      have hasset := hbacked.asset_eq order.assetId
      have hown := hsellLe order.assetId
      have hbound := hsupply order.assetId
      rw [hsellHold, if_pos rfl] at hown
      have hrest : 0 ≤ order.amount - order.filled := by omega
      obtain ⟨htotal, hnn⟩ := Databases.creditAsset_spec hbacked.nonneg order.assetId order.owner
        hrest (by omega)
      refine ⟨?_, fun a => by rw [hsellHold]; exact htotal a, hnn⟩
      rw [Order.buyHold_of_sell hside, add_zero]
      rfl
    | buy =>
      have hbuyHold : order.buyHold = (order.amount - order.filled) * order.price :=
        if_pos ⟨hside, hactive⟩
      have hnonneg := horder.buyHold_nonneg
      rw [hbuyHold] at hbuyLe hnonneg
      have hgrdTotal : 0 ≤ dbs.grdTotal := Store.total_nonneg _ _ hbacked.nonneg.grd
      obtain ⟨htotal, hnn⟩ := Databases.creditGrd_spec hbacked.nonneg order.owner hnonneg (by omega)
      simp only
      rw [wrap64_of_range (by omega) (by omega), hbuyHold]
      refine ⟨htotal, fun a => ?_, hnn⟩
      rw [Order.sellHold_of_buy hside, add_zero]
      rfl
  · -- a filled order holds nothing
    have hzero : order.amount - order.filled = 0 := by omega
    have hbuyHold : order.buyHold = 0 := by simp [Order.buyHold, hzero]
    have hsellHold : ∀ a, order.sellHold a = 0 := by simp [Order.sellHold, hzero]
    exact ⟨by rw [hbuyHold, add_zero], fun a => by rw [hsellHold, add_zero], hbacked.nonneg⟩

theorem cancel_backed {id : Uint256} {order : Order} (hbacked : dbs.Backed grd supply)
    (hsound : dbs.OrdersSound crypto placed) (hread : dbs.dexDb.readOrder id = some order)
    (hactive : order.active = true) (hgrd : grd < 9223372036854775808)
    (hsupply : ∀ a, supply a < 9223372036854775808) :
    ((refund dbs order).writeOrder { order with status := .CANCELLED }).Backed grd supply := by
  obtain ⟨htotal, hasset, hnn⟩ := refund_totals hbacked hsound hread hactive hgrd hsupply
  have horders := (refund_onlyBalances dbs order).orders
  have hread' : (refund dbs order).dexDb.readOrder order.orderId = some order := by
    rw [DexDB.readOrder, horders, (hsound.of_read hread).id_eq]
    exact hread
  have hbuyHold : ({ order with status := .CANCELLED } : Order).buyHold = 0 := by
    simp [Order.buyHold, Order.active]
  have hsellHold : ∀ a, ({ order with status := .CANCELLED } : Order).sellHold a = 0 := by
    simp [Order.sellHold, Order.active]
  have hbuyEscrow : (refund dbs order).buyEscrow = dbs.buyEscrow := by
    rw [Databases.buyEscrow, horders, Databases.buyEscrow]
  refine Databases.backed_writeOrder hread' hnn ?_ fun a => ?_
  · rw [htotal, hbuyHold, hbuyEscrow, Option.elim_some, ← hbacked.grd_eq]
    omega
  · have hsellEscrow : (refund dbs order).sellEscrow a = dbs.sellEscrow a := by
      rw [Databases.sellEscrow, horders, Databases.sellEscrow]
    rw [hasset, hsellHold, hsellEscrow, Option.elim_some, ← hbacked.asset_eq a]
    omega

end Keeps

namespace DexRun

/-- What holds at every point of a run. -/
structure Inv (crypto : Crypto) (supply : Uint256 → Int) (s : DexRun) : Prop where
  backed : s.dbs.Backed (s.deposited - s.withdrawn) supply
  sound : s.dbs.OrdersSound crypto s.placed
  keys : ∀ key ∈ s.placed, key.InRange
  withdrawn_nonneg : 0 ≤ s.withdrawn

variable {env : DexEnv} {supply : Uint256 → Int} {s s' : DexRun} {request : DexRequest}

theorem Inv.fresh (h : s.Inv crypto supply) (hkey : key.InRange)
    (hplace : Placeable crypto (s.placed ++ [key])) :
    s.dbs.dexDb.readOrder (computeOrderId crypto key) = none := by
  cases hread : s.dbs.dexDb.readOrder (computeOrderId crypto key) with
  | none => rfl
  | some o =>
    have ho := h.sound.of_read hread
    have hbytes := hplace.ids key (by simp) o.key (List.mem_append_left _ ho.mem) ho.id_key
    have hsame : key = o.key := OrderKey.bytes_injective hkey.fits (h.keys _ ho.mem).fits hbytes
    have hdisjoint := (List.nodup_append.mp hplace.nodup).2.2
    exact absurd hsame.symm (hdisjoint _ ho.mem key (by simp))

/-- What a request that succeeds has done. -/
inductive Executed (env : DexEnv) (s : DexRun) : DexRun → Prop
  | deposit (address : Bytes) (x : Int) (hx : 0 < x) :
      Executed env s
        { s with dbs := s.dbs.creditGrd address x, deposited := s.deposited + x }
  | withdraw (address : Bytes) (x : Int) (hx : 0 < x)
      (hle : x ≤ s.dbs.dexDb.readGrdBalance address) :
      Executed env s
        { s with
          dbs := s.dbs.setGrd address (wrap64 (s.dbs.dexDb.readGrdBalance address - x))
          withdrawn := s.withdrawn + x }
  | place (key : OrderKey) (dbs1 : Databases) (hkey : key.InRange)
      (hescrow : escrow s.dbs key.assetId key.side key.amount key.price key.owner = .ok dbs1) :
      Executed env s
        { s with dbs := dbs1.writeOrder (key.order env.crypto), placed := s.placed ++ [key] }
  | cancel (orderId : Uint256) (order : Order) (hread : s.dbs.dexDb.readOrder orderId = some order)
      (hactive : order.active = true) :
      Executed env s
        { s with dbs := (refund s.dbs order).writeOrder { order with status := .CANCELLED } }
  | matched (assetId : Uint256) (clock : Nat → Int) :
      Executed env s { s with dbs := (matchLoop env s.dbs assetId clock).dbs }

theorem exec_executed (hexec : s.exec env request = .ok s') : Executed env s s' := by
  cases request with
  | depositgrd address amount pqcHex =>
    simp only [exec, bind_ok_iff, Except.ok.injEq] at hexec
    obtain ⟨⟨dbs, _⟩, hdeposit, rfl⟩ := hexec
    obtain ⟨x, rfl, hx, rfl⟩ := depositgrd_ok hdeposit
    exact .deposit address x hx
  | withdrawgrd address amount pqcHex =>
    simp only [exec, bind_ok_iff, Except.ok.injEq] at hexec
    obtain ⟨⟨dbs, _⟩, hwithdraw, rfl⟩ := hexec
    obtain ⟨x, rfl, hx, hle, rfl⟩ := withdrawgrd_ok hwithdraw
    exact .withdraw address x hx hle
  | placeorder assetId sideStr amount price address now =>
    simp only [exec, bind_ok_iff, Except.ok.injEq] at hexec
    obtain ⟨⟨dbs, key⟩, hplaced, rfl⟩ := hexec
    obtain ⟨hkey, dbs1, hescrow, rfl⟩ := placeorder_ok hplaced
    exact .place key dbs1 hkey hescrow
  | cancelorder orderId address =>
    simp only [exec, bind_ok_iff, Except.ok.injEq] at hexec
    obtain ⟨⟨dbs, _⟩, hcancel, rfl⟩ := hexec
    obtain ⟨order, hread, hactive, rfl⟩ := cancelorder_ok hcancel
    exact .cancel orderId order hread hactive
  | matchorders assetId clock =>
    simp only [exec, bind_ok_iff, Except.ok.injEq] at hexec
    obtain ⟨⟨dbs, _⟩, hmatch, rfl⟩ := hexec
    simp only [GarudaChain.matchorders, bind_ok_iff, throwIf_eq_ok, Except.ok.injEq] at hmatch
    obtain ⟨_, -, hmatch⟩ := hmatch
    obtain rfl : (matchLoop env s.dbs assetId clock).dbs = dbs := (Prod.mk.inj hmatch).1
    exact .matched assetId clock

theorem step_cases (env : DexEnv) (s : DexRun) (request : DexRequest) :
    s.step env request = s ∨ Executed env s (s.step env request) := by
  unfold step
  cases hexec : s.exec env request with
  | error e => exact .inl rfl
  | ok s' => exact .inr (exec_executed hexec)

theorem Executed.inv (hexec : Executed env s s') (hsupply : ∀ a, supply a < 9223372036854775808)
    (h : s.Inv env.crypto supply) (hplace : Placeable env.crypto s'.placed)
    (hdeposited : s'.deposited < 9223372036854775808) : s'.Inv env.crypto supply := by
  have hwithdrawn := h.withdrawn_nonneg
  cases hexec with
  | deposit address x hx =>
    simp only at hdeposited
    refine ⟨?_, h.sound, h.keys, hwithdrawn⟩
    have hbacked := deposit_backed h.backed h.sound address hx (by omega)
    simpa only [sub_add_eq_add_sub] using hbacked
  | withdraw address x hx hle =>
    simp only at hdeposited
    refine ⟨?_, h.sound, h.keys, by simp only; omega⟩
    have hbacked := withdraw_backed h.backed h.sound address hx hle (by omega)
    simpa only [sub_sub] using hbacked
  | place key dbs1 hkey hescrow =>
    simp only at hdeposited hplace
    have hfresh := h.fresh hkey hplace
    have hbacked := place_backed h.backed h.sound hkey (hplace.fits key (by simp)) (by omega) hsupply
      hfresh hescrow
    refine ⟨hbacked, ?_, ?_, hwithdrawn⟩
    · have hsound1 : dbs1.OrdersSound env.crypto (s.placed ++ [key]) := by
        rw [Databases.OrdersSound, (escrow_onlyBalances hescrow).orders]
        exact h.sound.mono (List.subset_append_left _ _)
      exact hsound1.writeOrder
        ⟨rfl, rfl, List.mem_append_right _ (List.mem_singleton.mpr rfl), hkey, le_refl 0,
          hkey.amount_pos.le⟩
    · intro key' hmem
      rcases List.mem_append.mp hmem with hmem | hmem
      · exact h.keys key' hmem
      · rw [List.mem_singleton.mp hmem]
        exact hkey
  | cancel orderId order hread hactive =>
    simp only at hdeposited
    have hbacked := cancel_backed h.backed h.sound hread hactive (by omega) hsupply
    refine ⟨hbacked, ?_, h.keys, hwithdrawn⟩
    have horder := h.sound.of_read hread
    have hsound1 : (refund s.dbs order).OrdersSound env.crypto s.placed := by
      rw [Databases.OrdersSound, (refund_onlyBalances s.dbs order).orders]
      exact h.sound
    have hid : order.orderId = orderId := horder.id_eq
    exact hsound1.writeOrder
      (hid ▸ horder.update horder.filled_nonneg horder.filled_le .CANCELLED)
  | matched assetId clock =>
    simp only at hdeposited
    have hinv := matchLoop_inv (by omega) (hsupply assetId) h.backed h.sound clock
    exact ⟨hinv.backed, hinv.sound, h.keys, hwithdrawn⟩

theorem Executed.grows (hexec : Executed env s s') :
    s.placed <+: s'.placed ∧ s.deposited ≤ s'.deposited := by
  cases hexec with
  | deposit address x hx => exact ⟨List.prefix_refl _, by simp only; omega⟩
  | place key dbs1 hkey hescrow => exact ⟨List.prefix_append _ _, le_refl _⟩
  | withdraw | cancel | matched => exact ⟨List.prefix_refl _, le_refl _⟩

end DexRun

theorem Placeable.of_initial {placed placed' : List OrderKey}
    (h : Placeable crypto placed') (hinitial : placed <+: placed') : Placeable crypto placed where
  nodup := h.nodup.sublist hinitial.sublist
  ids a ha b hb := h.ids a (hinitial.subset ha) b (hinitial.subset hb)
  fits key hkey := h.fits key (hinitial.subset hkey)

namespace DexRun

/-- The orders placed so far are placeable and the deposits fit in `int64_t`. -/
structure Fits (crypto : Crypto) (s : DexRun) : Prop where
  placeable : Placeable crypto s.placed
  deposited : s.deposited < 9223372036854775808

variable {env : DexEnv} {supply : Uint256 → Int}

theorem fits_of_step (s : DexRun) (request : DexRequest) (h : (s.step env request).Fits env.crypto) :
    s.Fits env.crypto := by
  rcases step_cases env s request with hstep | hstep
  · rw [hstep] at h
    exact h
  · obtain ⟨hplaced, hle⟩ := hstep.grows
    exact ⟨h.placeable.of_initial hplaced, lt_of_le_of_lt hle h.deposited⟩

theorem step_inv (hsupply : ∀ a, supply a < 9223372036854775808) (s : DexRun)
    (request : DexRequest) (h : s.Inv env.crypto supply)
    (hfits : (s.step env request).Fits env.crypto) : (s.step env request).Inv env.crypto supply := by
  rcases step_cases env s request with hstep | hstep
  · rw [hstep]
    exact h
  · exact hstep.inv hsupply h hfits.placeable hfits.deposited

theorem start_inv (assetDb : AssetDB) (marketMakers : Store Uint256 MarketMaker)
    (oraclePegRates : Store String OraclePegRate) (crypto : Crypto)
    (hnonneg : ∀ e ∈ assetDb.balances.entries, 0 ≤ e.2) :
    (start assetDb marketMakers oraclePegRates).Inv crypto
      (start assetDb marketMakers oraclePegRates).dbs.assetTotal where
  backed := ⟨rfl, fun _ => add_zero _, ⟨List.forall_mem_nil _, hnonneg⟩⟩
  sound := List.forall_mem_nil _
  keys := List.forall_mem_nil _
  withdrawn_nonneg := le_refl 0

end DexRun

/-- In every run of the five requests, from an empty book, in which no two orders have the same key
    and the amounts fit in `int64_t`: the balances and the BUY orders hold the virtual GRD that was
    deposited and not withdrawn, the balances and the SELL orders as much of each asset as there
    was, and no balance is negative. -/
theorem dexRun_backed (env : DexEnv) (assetDb : AssetDB) (marketMakers : Store Uint256 MarketMaker)
    (oraclePegRates : Store String OraclePegRate) (requests : List DexRequest)
    (hnonneg : ∀ e ∈ assetDb.balances.entries, 0 ≤ e.2)
    (hplace : Placeable env.crypto
      (Run.run (DexRun.step env) (.start assetDb marketMakers oraclePegRates) requests).placed)
    (hdeposited :
      (Run.run (DexRun.step env) (.start assetDb marketMakers oraclePegRates) requests).deposited <
        9223372036854775808)
    (hsupply : ∀ a, (DexRun.start assetDb marketMakers oraclePegRates).dbs.assetTotal a <
      9223372036854775808) :
    ∀ before, before <+: requests →
      (Run.run (DexRun.step env) (.start assetDb marketMakers oraclePegRates) before).dbs.Backed
        ((Run.run (DexRun.step env) (.start assetDb marketMakers oraclePegRates) before).deposited -
          (Run.run (DexRun.step env) (.start assetDb marketMakers oraclePegRates) before).withdrawn)
        (DexRun.start assetDb marketMakers oraclePegRates).dbs.assetTotal := by
  intro before hbefore
  have hfits := Run.of_run_of_initial DexRun.fits_of_step hbefore ⟨hplace, hdeposited⟩
  have hinv := (Run.along_of_run DexRun.fits_of_step hfits).inv (DexRun.step_inv hsupply)
    (DexRun.start_inv assetDb marketMakers oraclePegRates env.crypto hnonneg)
  exact hinv.backed

def sampleRequests : List DexRequest :=
  [.depositgrd sampleBuyer (some 500) none,
    .placeorder 7 "SELL" 5 (some 30) sampleSeller 1000,
    .placeorder 7 "BUY" 8 (some 40) sampleBuyer 1001,
    .matchorders 7 fun _ => 1002,
    .cancelorder 0x83f7d5e3ac24cb78ee957d958cbca27a890612a2f635885a04bcdcae90a4998 sampleBuyer,
    .withdrawgrd sampleBuyer (some 100) none]

def sampleDexRun : DexRun :=
  Run.run (DexRun.step sampleDexEnv) (.start sampleAssetDB .empty .empty) sampleRequests

theorem sampleDexRun_placed : sampleDexRun.placed =
    [⟨7, .sell, 30, 5, sampleSeller, 1000⟩, ⟨7, .buy, 40, 8, sampleBuyer, 1001⟩] := by
  decide +kernel

theorem dexRun_backed_sample :
    sampleDexRun.deposited = 500 ∧ sampleDexRun.withdrawn = 100 ∧
      sampleDexRun.dbs.dexDb.readGrdBalance sampleSeller = 150 ∧
      sampleDexRun.dbs.dexDb.readGrdBalance sampleBuyer = 250 ∧
      sampleDexRun.dbs.assetDb.readBalance 7 sampleBuyer = 5 ∧
      sampleDexRun.dbs.Backed (sampleDexRun.deposited - sampleDexRun.withdrawn)
        (DexRun.start sampleAssetDB .empty .empty).dbs.assetTotal := by
  -- the run is evaluated once for all its values
  have hvalues : sampleDexRun.deposited = 500 ∧ sampleDexRun.withdrawn = 100 ∧
      sampleDexRun.dbs.dexDb.readGrdBalance sampleSeller = 150 ∧
      sampleDexRun.dbs.dexDb.readGrdBalance sampleBuyer = 250 ∧
      sampleDexRun.dbs.assetDb.readBalance 7 sampleBuyer = 5 := by
    decide +kernel
  obtain ⟨hdeposited, hwithdrawn, hseller, hbuyer, hasset⟩ := hvalues
  refine ⟨hdeposited, hwithdrawn, hseller, hbuyer, hasset, ?_⟩
  refine dexRun_backed sampleDexEnv sampleAssetDB .empty .empty sampleRequests (by decide) ?_
    (hdeposited.trans_lt (by decide)) ?_ sampleRequests (List.prefix_refl _)
  · show Placeable sampleDexEnv.crypto sampleDexRun.placed
    rw [sampleDexRun_placed]
    exact ⟨by decide +kernel, by decide +kernel, by decide +kernel⟩
  · intro a
    show (if (7 : Uint256) = a then (10 : Int) else 0) + 0 < _
    split_ifs <;> omega

/-- What a BUY order takes from its owner is what it costs, and cancelling it gives that back. -/
structure BuyExact (dbs dbs' dbs'' : Databases) (address : Bytes) (cost : Int) : Prop where
  debit : dbs'.dexDb.readGrdBalance address = dbs.dexDb.readGrdBalance address - cost
  refund : dbs''.dexDb.readGrdBalance address = dbs'.dexDb.readGrdBalance address + cost

section BuyOrder

variable {env : DexEnv} {dbs dbs' : Databases} {assetId : Uint256} {sideStr : String}
  {amount price : Int} {address : Bytes} {now : Int} {key : OrderKey}

theorem placeorder_buy_ok (hside : parseSide sideStr = .ok .buy)
    (h : placeorder env dbs assetId sideStr amount (some price) address now = .ok (dbs', key)) :
    key = ⟨assetId, .buy, price, amount, address, wrap64 now⟩ ∧ 0 < amount ∧
      amount < 9223372036854775808 ∧ 0 < price ∧ 0 < wrap64 (amount * price) ∧
      wrap64 (amount * price) ≤ dbs.dexDb.readGrdBalance address ∧
      dbs' = (dbs.setGrd address (wrap64 (dbs.dexDb.readGrdBalance address -
        wrap64 (amount * price)))).writeOrder (key.order env.crypto) := by
  unfold placeorder at h
  simp only [hside, ok_bind, escrow, bind_ok_iff, throwIf_eq_ok, Prod.mk.injEq, Except.ok.injEq,
    decide_eq_false_iff_not, not_le, not_lt] at h
  obtain ⟨x, hx, p, hp, _, hxpos, _, hppos, _, -, _, -, _, ⟨_, hneeded, _, hle, rfl⟩, hdbs, rfl⟩ := h
  obtain ⟨rfl, -, hlt⟩ := getInt64_eq_ok hx
  obtain rfl := Option.some.inj (amountFromValue_eq_ok hp).1
  exact ⟨rfl, hxpos, hlt, hppos, hneeded, hle, hdbs.symm⟩

/-- A BUY order can be cancelled right after it is placed, which gives its owner the balance from before
    back. -/
theorem placeorder_buyExact_iff (hbalance : dbs.dexDb.readGrdBalance address < 9223372036854775808)
    (hside : parseSide sideStr = .ok .buy)
    (hplace : placeorder env dbs assetId sideStr amount (some price) address now =
      .ok (dbs', key)) :
    ∃ dbs'', cancelorder dbs' (computeOrderId env.crypto key) address = .ok (dbs'', amount) ∧
      dbs''.dexDb.readGrdBalance address = dbs.dexDb.readGrdBalance address ∧
      (BuyExact dbs dbs' dbs'' address (amount * price) ↔ amount * price < 9223372036854775808) := by
  obtain ⟨hkey, hamount, hlt, hprice, hneeded, hle, hdbs⟩ := placeorder_buy_ok hside hplace
  have hdebit : dbs'.dexDb.readGrdBalance address =
      dbs.dexDb.readGrdBalance address - wrap64 (amount * price) := by
    rw [hdbs]
    show ((dbs.dexDb.grdBalances.write _ address _).read address).getD 0 = _
    rw [Store.read_write_self, Option.getD_some]
    exact wrap64_of_range (by omega) (by omega)
  have horder : dbs'.dexDb.readOrder (computeOrderId env.crypto key) =
      some (key.order env.crypto) := by
    rw [hdbs]
    exact Databases.readOrder_writeOrder_self _
  have hremaining : (key.order env.crypto).remaining = amount := by
    rw [hkey]
    show wrap64 (amount - 0) = amount
    rw [Int.sub_zero]
    exact wrap64_of_range (by omega) hlt
  have hrefund : refund dbs' (key.order env.crypto) =
      dbs'.creditGrd address (wrap64 (amount * price)) := by
    rw [refund, if_pos (by rw [hremaining]; exact hamount), hremaining, hkey]
    rfl
  obtain ⟨dbs'', hdbs''⟩ : ∃ dbs'', dbs'' = (dbs'.creditGrd address
      (wrap64 (amount * price))).writeOrder { key.order env.crypto with status := .CANCELLED } :=
    ⟨_, rfl⟩
  have hback : dbs''.dexDb.readGrdBalance address = dbs.dexDb.readGrdBalance address := by
    rw [hdbs'']
    show ((dbs'.dexDb.grdBalances.write _ address _).read address).getD 0 = _
    rw [Store.read_write_self, Option.getD_some, hdebit, Int.sub_add_cancel]
    exact wrap64_of_range (by omega) hbalance
  refine ⟨dbs'', ?_, hback, ?_⟩
  · have howner : (key.order env.crypto).owner = address := by rw [hkey]; rfl
    unfold cancelorder
    rw [horder]
    simp only [howner, bne_self_eq_false, throwIf, Bool.false_eq_true, if_false, ok_bind, hrefund,
      hremaining, hdbs'']
    rfl
  · constructor
    · intro hexact
      have hrange := wrap64_range (amount * price)
      have hcost : wrap64 (amount * price) = amount * price := by
        have := hexact.debit
        omega
      omega
    · intro hfits
      have hpos : 0 < amount * price := Int.mul_pos hamount hprice
      have hcost : wrap64 (amount * price) = amount * price := wrap64_of_range (by omega) hfits
      rw [hcost] at hdebit
      exact ⟨hdebit, by omega⟩

end BuyOrder

def sampleBuyerDbs (balance : Int) : Databases where
  assetDb := sampleAssetDB
  dexDb := DexDB.writeGrdBalance ⟨.empty, .empty, .empty, .empty⟩ sampleBuyer balance

theorem placeorder_buyExact_sample : ∃ dbs' dbs'' : Databases,
    placeorder sampleDexEnv (sampleBuyerDbs 500) 7 "BUY" 8 (some 40) sampleBuyer 1001 =
      .ok (dbs', ⟨7, .buy, 40, 8, sampleBuyer, 1001⟩) ∧
    dbs'.dexDb.readGrdBalance sampleBuyer = 180 ∧
    cancelorder dbs' (computeOrderId sampleDexEnv.crypto ⟨7, .buy, 40, 8, sampleBuyer, 1001⟩)
      sampleBuyer = .ok (dbs'', 8) ∧
    BuyExact (sampleBuyerDbs 500) dbs' dbs'' sampleBuyer (8 * 40) := by
  have hbalance : (sampleBuyerDbs 500).dexDb.readGrdBalance sampleBuyer = 500 := by decide +kernel
  have hplaced : placeorder sampleDexEnv (sampleBuyerDbs 500) 7 "BUY" 8 (some 40) sampleBuyer 1001 =
      .ok (((sampleBuyerDbs 500).setGrd sampleBuyer 180).writeOrder
        (OrderKey.order sampleDexEnv.crypto ⟨7, .buy, 40, 8, sampleBuyer, 1001⟩),
        ⟨7, .buy, 40, 8, sampleBuyer, 1001⟩) := by
    rfl
  obtain ⟨dbs'', hcancel, -, hexact⟩ := placeorder_buyExact_iff (by rw [hbalance]; decide) rfl hplaced
  refine ⟨_, dbs'', hplaced, ?_, hcancel, hexact.mpr (by decide)⟩
  decide +kernel

def sampleWrapEnv : DexEnv :=
  { sampleDexEnv with
    crypto := { sampleDexEnv.crypto with
      sha256 := fun bytes =>
        if bytes = OrderKey.bytes ⟨7, .buy, 4294967296, 4294967297, sampleBuyer, 1001⟩ then
          uint256Bytes 0x1ab9d1bf312ab0ee266c5090bd43cb7ce487053bc4742f6cb633482b9212fc80
        else sampleSha256 bytes } }

/-- An order that costs `2^64 + 2^32` satoshi of virtual GRD is placed for `2^32`. -/
theorem placeorder_buyWraps : ∃ dbs' : Databases,
    placeorder sampleWrapEnv (sampleBuyerDbs 5000000000) 7 "BUY" 4294967297 (some 4294967296)
        sampleBuyer 1001 = .ok (dbs', ⟨7, .buy, 4294967296, 4294967297, sampleBuyer, 1001⟩) ∧
    (sampleBuyerDbs 5000000000).dexDb.readGrdBalance sampleBuyer = 5000000000 ∧
    dbs'.dexDb.readGrdBalance sampleBuyer = 5000000000 - 4294967296 ∧
    (4294967297 : Int) * 4294967296 = 18446744078004518912 ∧
    ¬ ∃ dbs'', BuyExact (sampleBuyerDbs 5000000000) dbs' dbs'' sampleBuyer
      (4294967297 * 4294967296) := by
  have hplaced : placeorder sampleWrapEnv (sampleBuyerDbs 5000000000) 7 "BUY" 4294967297
      (some 4294967296) sampleBuyer 1001 =
      .ok (((sampleBuyerDbs 5000000000).setGrd sampleBuyer 705032704).writeOrder
        (OrderKey.order sampleWrapEnv.crypto ⟨7, .buy, 4294967296, 4294967297, sampleBuyer, 1001⟩),
        ⟨7, .buy, 4294967296, 4294967297, sampleBuyer, 1001⟩) := by
    rfl
  have hbefore : (sampleBuyerDbs 5000000000).dexDb.readGrdBalance sampleBuyer = 5000000000 := by
    decide
  have hafter : (((sampleBuyerDbs 5000000000).setGrd sampleBuyer 705032704).writeOrder
      (OrderKey.order sampleWrapEnv.crypto
        ⟨7, .buy, 4294967296, 4294967297, sampleBuyer, 1001⟩)).dexDb.readGrdBalance sampleBuyer =
      705032704 := by
    decide
  refine ⟨_, hplaced, hbefore, hafter, by decide, ?_⟩
  rintro ⟨dbs'', hexact⟩
  have hdebit := hexact.debit
  rw [hbefore, hafter] at hdebit
  omega

end GarudaChain
