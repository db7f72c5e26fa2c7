import GarudaChain.Dex.Placement
import GarudaChain.Dex.Proofs.MarketMakerProofs

/-!
# Ids of placed orders
-/

namespace GarudaChain

open Int64Lib Result

/-- The orders lie under their ids. -/
def DexDB.Keyed (db : DexDB) : Prop := ∀ id o, db.readOrder id = some o → o.orderId = id

theorem DexDB.Keyed.of_mem_allOrders {db : DexDB} (h : db.Keyed) {o : Order}
    (ho : o ∈ db.allOrders) : (db.readOrder o.orderId).isSome := by
  obtain ⟨⟨id, o⟩, hmem, rfl⟩ := List.mem_map.mp ho
  have hread : db.readOrder id = some o := db.orders.read_eq_some_iff.mpr hmem
  rw [h id o hread, hread]
  rfl

theorem DexDB.readOrder_writeOrder (db : DexDB) (o : Order) (id : Uint256) :
    (db.writeOrder o).readOrder id = if id = o.orderId then some o else db.readOrder id := by
  split_ifs with hid
  · rw [hid]
    exact db.orders.read_write_self _ _ _
  · exact db.orders.read_write_of_ne _ hid _

theorem DexDB.Keyed.writeOrder {db : DexDB} (h : db.Keyed) (o : Order) :
    (db.writeOrder o).Keyed := by
  intro id o' hread
  rw [DexDB.readOrder_writeOrder] at hread
  split_ifs at hread with hid
  · rw [← Option.some.inj hread, hid]
  · exact h id o' hread

structure Rewritten (db db' : DexDB) : Prop where
  keyed : db'.Keyed
  ids : ∀ id, (db'.readOrder id).isSome = (db.readOrder id).isSome

namespace Rewritten

variable {db db' db'' : DexDB}

theorem refl (h : db.Keyed) : Rewritten db db := ⟨h, fun _ => rfl⟩

theorem trans (h : Rewritten db db') (h' : Rewritten db' db'') : Rewritten db db'' :=
  ⟨h'.keyed, fun id => (h'.ids id).trans (h.ids id)⟩

theorem of_orders_eq (h : Rewritten db db') (heq : db''.orders = db'.orders) :
    Rewritten db db'' := by
  have hread : ∀ id, db''.readOrder id = db'.readOrder id := by
    intro id
    rw [DexDB.readOrder, heq, DexDB.readOrder]
  refine ⟨?_, ?_⟩
  · intro id o ho
    exact h.keyed id o ((hread id).symm.trans ho)
  · intro id
    rw [hread, h.ids]

theorem writeOrder (h : Rewritten db db') {o : Order} (ho : (db.readOrder o.orderId).isSome) :
    Rewritten db (db'.writeOrder o) := by
  refine ⟨h.keyed.writeOrder o, ?_⟩
  intro id
  rw [DexDB.readOrder_writeOrder]
  split_ifs with hid
  · rw [hid, ho]
    rfl
  · exact h.ids id

end Rewritten

theorem cancelMMOrders_rewritten (env : DexEnv) {db : DexDB} (hkeyed : db.Keyed)
    (assetId : Uint256) (mmAddr : Bytes) :
    Rewritten db (cancelMMOrders env db assetId mmAddr) := by
  have hbook : ∀ o ∈ getOrderBook env db assetId 500, (db.readOrder o.orderId).isSome := by
    intro o ho
    have hopen := (env.sort_perm _ _).mem_iff.mp ho
    exact hkeyed.of_mem_allOrders (List.mem_filter.mp (List.mem_of_mem_take hopen)).1
  unfold cancelMMOrders
  have hloop : ∀ (orders : List Order) (db' : DexDB),
      (∀ o ∈ orders, (db.readOrder o.orderId).isSome) → Rewritten db db' →
      Rewritten db (orders.foldl (fun db o =>
        if o.owner = mmAddr ∧ o.status = .OPEN then db.writeOrder { o with status := .CANCELLED }
        else db) db') := by
    intro orders
    induction orders with
    | nil => exact fun _ _ h => h
    | cons o orders ih =>
      intro db' horders h
      obtain ⟨ho, horders⟩ := List.forall_mem_cons.mp horders
      rw [List.foldl_cons]
      refine ih _ horders ?_
      show Rewritten db (if _ then db'.writeOrder { o with status := .CANCELLED } else db')
      split_ifs
      · exact h.writeOrder ho
      · exact h
  exact hloop _ db hbook (.refl hkeyed)

theorem advance_subset (o : Order) (rest : List Order) : advance o rest ⊆ o :: rest := by
  unfold advance
  split_ifs
  · exact List.subset_cons_self o rest
  · exact List.Subset.refl _

theorem matchLoop_rewritten (env : DexEnv) {dbs : Databases} (hkeyed : dbs.dexDb.Keyed)
    (assetId : Uint256) (clock : Nat → Int) :
    Rewritten dbs.dexDb (matchLoop env dbs assetId clock).dbs.dexDb := by
  have hqueue : ∀ before side, ∀ o ∈ env.sort before (activeOrders dbs.dexDb assetId side),
      (dbs.dexDb.readOrder o.orderId).isSome := by
    intro before side o ho
    have hactive := (env.sort_perm _ _).mem_iff.mp ho
    exact hkeyed.of_mem_allOrders (List.mem_filter.mp hactive).1
  -- the queues hold orders that were in the book at the start
  let Found (m : MatchState) : Prop := Rewritten dbs.dexDb m.dbs.dexDb ∧
    (∀ o ∈ m.buys, (dbs.dexDb.readOrder o.orderId).isSome) ∧
    ∀ o ∈ m.sells, (dbs.dexDb.readOrder o.orderId).isSome
  have hinv : Found (matchLoop env dbs assetId clock) := by
    refine Run.loop_inv (I := Found) ?_ _ ⟨.refl hkeyed, hqueue _ _, hqueue _ _⟩
    rintro m m' ⟨hdb, hbuys, hsells⟩ hstep
    obtain ⟨buy, buys, sell, sells, hb, hs, -, hcases⟩ := matchStep_cases hstep
    rw [hb, List.forall_mem_cons] at hbuys
    rw [hs, List.forall_mem_cons] at hsells
    rcases hcases with ⟨-, rfl⟩ | ⟨-, rfl⟩ | ⟨-, hbuys', hsells', hdbs, -⟩
    · exact ⟨hdb, hbuys.2, by rwa [hs, List.forall_mem_cons]⟩
    · exact ⟨hdb, by rwa [hb, List.forall_mem_cons], hsells.2⟩
    · have hsettle := hdb.of_orders_eq (settle_onlyBalances m.dbs assetId buy sell
        (min buy.remaining sell.remaining)).orders
      refine ⟨?_, ?_, ?_⟩
      · rw [hdbs]
        have hbuy := hsettle.writeOrder (o := buy.fill (min buy.remaining sell.remaining)) hbuys.1
        exact hbuy.writeOrder (o := sell.fill (min buy.remaining sell.remaining)) hsells.1
      · intro o ho
        rw [hbuys'] at ho
        rcases List.mem_cons.mp (advance_subset _ _ ho) with rfl | ho
        · exact hbuys.1
        · exact hbuys.2 o ho
      · intro o ho
        rw [hsells'] at ho
        rcases List.mem_cons.mp (advance_subset _ _ ho) with rfl | ho
        · exact hsells.1
        · exact hsells.2 o ho
  exact hinv.1

theorem settleMMTrade_dexDb (mmAddress : Bytes) (assetId : Uint256) (dbs : Databases)
    (trades : List TradeResult) :
    (trades.foldl (settleMMTrade mmAddress assetId) dbs).dexDb = dbs.dexDb := by
  induction trades generalizing dbs with
  | nil => rfl
  | cons t trades ih =>
    rw [List.foldl_cons, ih]
    unfold settleMMTrade
    cases dbs.dexDb.readOrder t.buyOrderId <;> cases dbs.dexDb.readOrder t.sellOrderId <;> rfl

theorem changed_rewritten {dbs : Databases} (hkeyed : dbs.dexDb.Keyed) (update : Order → Order)
    (dbs' : Databases) : Rewritten dbs.dexDb (dbs.changed update dbs').dexDb := by
  have hread : ∀ id, (dbs.changed update dbs').dexDb.readOrder id =
      (dbs.dexDb.readOrder id).map fun o => { update o with orderId := o.orderId } :=
    dbs.dexDb.orders.read_mapValues _
  refine ⟨?_, ?_⟩
  · intro id o ho
    rw [hread] at ho
    obtain ⟨o', ho', rfl⟩ := Option.map_eq_some_iff.mp ho
    exact hkeyed id o' ho'
  · intro id
    rw [hread, Option.isSome_map]

/-- The book after orders are written one after the other, as `PlaceMMOrders` does. -/
def writeKeys (crypto : Crypto) (db : DexDB) (keys : List OrderKey) : DexDB :=
  keys.foldl (fun db key => db.writeOrder (key.order crypto)) db

section Keys

variable {crypto : Crypto}

theorem writeKeys_keyed {db : DexDB} (h : db.Keyed) (keys : List OrderKey) :
    (writeKeys crypto db keys).Keyed := by
  induction keys generalizing db with
  | nil => exact h
  | cons key keys ih => exact ih (h.writeOrder _)

theorem isSome_readOrder_writeOrder (db : DexDB) (key : OrderKey) (id : Uint256) :
    ((db.writeOrder (key.order crypto)).readOrder id).isSome = true ↔
      (db.readOrder id).isSome = true ∨ id = computeOrderId crypto key := by
  rw [DexDB.readOrder_writeOrder]
  show Option.isSome (if id = computeOrderId crypto key then some (key.order crypto)
    else db.readOrder id) = true ↔ _
  split_ifs with hid <;> simp [hid]

theorem isSome_readOrder_writeKeys (db : DexDB) (keys : List OrderKey) (id : Uint256) :
    ((writeKeys crypto db keys).readOrder id).isSome = true ↔
      (db.readOrder id).isSome = true ∨ id ∈ keys.map (computeOrderId crypto) := by
  induction keys generalizing db with
  | nil => simp [writeKeys]
  | cons key keys ih =>
    have hrest := ih (db.writeOrder (key.order crypto))
    rw [isSome_readOrder_writeOrder] at hrest
    rw [List.map_cons, List.mem_cons, ← or_assoc]
    exact hrest

theorem writesFresh_iff {db : DexDB} {ids : List Uint256}
    (hids : ∀ id, (db.readOrder id).isSome = true ↔ id ∈ ids) (hnodup : ids.Nodup)
    (keys : List OrderKey) :
    WritesFresh crypto db keys ↔ (ids ++ keys.map (computeOrderId crypto)).Nodup := by
  induction keys generalizing db ids with
  | nil => simpa [WritesFresh] using hnodup
  | cons key keys ih =>
    have hfresh : db.readOrder (computeOrderId crypto key) = none ↔
        computeOrderId crypto key ∉ ids := by
      rw [← hids, Option.not_isSome_iff_eq_none]
    have hsplit : ids ++ (key :: keys).map (computeOrderId crypto) =
        (ids ++ [computeOrderId crypto key]) ++ keys.map (computeOrderId crypto) := by
      simp
    have hids' : ∀ id, ((db.writeOrder (key.order crypto)).readOrder id).isSome = true ↔
        id ∈ ids ++ [computeOrderId crypto key] := by
      intro id
      rw [isSome_readOrder_writeOrder, hids, List.mem_append, List.mem_singleton]
    rw [hsplit]
    constructor
    · rintro ⟨hnone, hrest⟩
      have hfirst : (ids ++ [computeOrderId crypto key]).Nodup := by
        rw [← List.concat_eq_append]
        exact hnodup.concat (hfresh.mp hnone)
      exact (ih hids' hfirst).mp hrest
    · intro hall
      have hfirst := (List.nodup_append.mp hall).1
      refine ⟨hfresh.mpr ?_, (ih hids' hfirst).mpr hall⟩
      intro hmem
      exact (List.nodup_append.mp hfirst).2.2 _ hmem _ (List.mem_singleton_self _) rfl

end Keys

def Placed (crypto : Crypto) (db : DexDB) (keys : List OrderKey) (db' : DexDB) : Prop :=
  ∃ base, Rewritten db base ∧ db'.orders = (writeKeys crypto base keys).orders ∧
    ∀ key ∈ keys, key.Fits

theorem safeMulDiv_range (a b divisor : Int) :
    -9223372036854775808 ≤ safeMulDiv a b divisor ∧
      safeMulDiv a b divisor < 9223372036854775808 := by
  unfold safeMulDiv
  split_ifs
  · decide
  · exact wrap64_range _

theorem mmQuotes_fits (assetDb : AssetDB) (mm : MarketMaker) (now : Int) :
    ∀ key ∈ mmQuotes assetDb mm now, key.Fits := by
  intro key hkey
  obtain ⟨i, -, hlevel⟩ := List.mem_flatMap.mp hkey
  simp only [levelQuotes] at hlevel
  have hquote : ∀ side price time, (⟨mm.assetId, side, safeMulDiv mm.basePrice price 1000000,
      wrap64 (mm.orderSize * coinSat), mm.mmAddress, wrap64 time⟩ : OrderKey).Fits := by
    intro side price time
    exact ⟨safeMulDiv_range mm.basePrice price 1000000, wrap64_range (mm.orderSize * coinSat),
      wrap64_range time⟩
  split_ifs at hlevel
  · cases hlevel
  · rw [List.mem_singleton.mp hlevel]
    exact hquote _ _ _
  · rcases List.mem_cons.mp hlevel with rfl | hlevel
    · exact hquote _ _ _
    · rw [List.mem_singleton.mp hlevel]
      exact hquote _ _ _

section Requests

variable {env : DexEnv} {s : PlacementRun} {dbs dbs' : Databases} {keys : List OrderKey}

theorem placeMMOrders_placed {db base : DexDB} (hbase : Rewritten db base) (mm : MarketMaker)
    (assetDb : AssetDB) (now : Int) :
    Placed env.crypto db (mmQuotes assetDb mm now)
      (placeMMOrders env (base.writeMarketMaker mm) assetDb mm now) :=
  ⟨base.writeMarketMaker mm, hbase.of_orders_eq rfl, rfl, mmQuotes_fits assetDb mm now⟩

theorem placeorder_placed {assetId : Uint256} {sideStr : String} {amount : Int}
    {price : Option Int} {address : Bytes} {now : Int} {key : OrderKey}
    (hkeyed : dbs.dexDb.Keyed)
    (h : placeorder env dbs assetId sideStr amount price address now = .ok (dbs', key)) :
    Placed env.crypto dbs.dexDb [key] dbs'.dexDb := by
  obtain ⟨hkey, dbs1, hescrow, rfl⟩ := placeorder_ok h
  have hbase := (Rewritten.refl hkeyed).of_orders_eq (escrow_onlyBalances hescrow).orders
  exact ⟨dbs1.dexDb, hbase, rfl, List.forall_mem_singleton.mpr hkey.fits⟩

theorem setupmarketmaker_placed {request : SetupRequest} {now : Int} (hkeyed : dbs.dexDb.Keyed)
    (h : setupmarketmaker env dbs request now = .ok (dbs', keys)) :
    Placed env.crypto dbs.dexDb keys dbs'.dexDb := by
  have hcancel : Rewritten dbs.dexDb (cancelOldMMOrders env dbs.dexDb request.assetId) := by
    unfold cancelOldMMOrders
    cases dbs.dexDb.readMarketMaker request.assetId with
    | none => exact .refl hkeyed
    | some oldMm => exact cancelMMOrders_rewritten env hkeyed _ _
  obtain ⟨basePrice, -, -, -, -, rfl, rfl⟩ := setupmarketmaker_ok h
  exact placeMMOrders_placed hcancel _ _ _

theorem refreshmarketmaker_placed {request : RefreshRequest} {clock : Nat → Int} {now : Int}
    (hkeyed : dbs.dexDb.Keyed)
    (h : refreshmarketmaker env dbs request clock now = .ok (dbs', keys)) :
    Placed env.crypto dbs.dexDb keys dbs'.dexDb := by
  unfold refreshmarketmaker at h
  obtain ⟨_, -, h⟩ := bind_ok_iff.mp h
  cases hmm : dbs.dexDb.readMarketMaker request.assetId with
  | none =>
    rw [hmm] at h
    cases h
  | some mm =>
    rw [hmm] at h
    obtain ⟨basePrice, -, h⟩ := bind_ok_iff.mp h
    obtain ⟨rfl, rfl⟩ := Prod.mk.inj (Except.ok.inj h)
    have hcancel := cancelMMOrders_rewritten env hkeyed request.assetId mm.mmAddress
    refine placeMMOrders_placed ?_ _ _ _
    rw [settleMMTrade_dexDb]
    have hmatch := @matchLoop_rewritten env
      ⟨dbs.assetDb, cancelMMOrders env dbs.dexDb request.assetId mm.mmAddress⟩ hcancel.keyed
      request.assetId clock
    exact hcancel.trans hmatch

theorem autoAdjustMMPrice_placed (hkeyed : dbs.dexDb.Keyed) (assetId : Uint256) (grdBought : Bool)
    (tradeAmountStable now : Int) :
    Placed env.crypto dbs.dexDb (adjustQuotes dbs assetId grdBought tradeAmountStable now)
      (autoAdjustMMPrice env dbs assetId grdBought tradeAmountStable now).dexDb := by
  have hnothing : Placed env.crypto dbs.dexDb [] dbs.dexDb :=
    ⟨dbs.dexDb, .refl hkeyed, rfl, List.forall_mem_nil _⟩
  unfold adjustQuotes autoAdjustMMPrice
  cases dbs.dexDb.readMarketMaker assetId with
  | none => exact hnothing
  | some mm =>
    simp only
    split_ifs
    · exact hnothing
    · exact placeMMOrders_placed (cancelMMOrders_rewritten env hkeyed assetId mm.mmAddress) _ _ _

theorem PlacementRun.exec_placed {request : PlacementRequest} (hkeyed : s.dbs.dexDb.Keyed)
    (h : s.exec env request = .ok (dbs', keys)) :
    Placed env.crypto s.dbs.dexDb keys dbs'.dexDb := by
  cases request with
  | placeorder assetId sideStr amount price address now =>
    obtain ⟨⟨dbs, key⟩, hplaced, h⟩ := bind_ok_iff.mp h
    obtain ⟨rfl, rfl⟩ := Prod.mk.inj (Except.ok.inj h)
    exact placeorder_placed hkeyed hplaced
  | setupmarketmaker request now => exact setupmarketmaker_placed hkeyed h
  | refreshmarketmaker request clock now => exact refreshmarketmaker_placed hkeyed h
  | autoAdjustMMPrice assetId grdBought tradeAmountStable now =>
    obtain ⟨rfl, rfl⟩ := Prod.mk.inj (Except.ok.inj h)
    exact autoAdjustMMPrice_placed hkeyed assetId grdBought tradeAmountStable now
  | elsewhere update dbs =>
    obtain ⟨rfl, rfl⟩ := Prod.mk.inj (Except.ok.inj h)
    exact ⟨_, changed_rewritten hkeyed update dbs, rfl, List.forall_mem_nil _⟩

end Requests

namespace PlacementRun

structure Inv (crypto : Crypto) (s : PlacementRun) : Prop where
  keyed : s.dbs.dexDb.Keyed
  ids : ∀ id, (s.dbs.dexDb.readOrder id).isSome = true ↔ id ∈ s.placed.map (computeOrderId crypto)
  fits : ∀ key ∈ s.placed, key.Fits

variable {env : DexEnv} {s : PlacementRun}

theorem inv_start (crypto : Crypto) (assetDb : AssetDB) (grdBalances : Store Bytes Int)
    (marketMakers : Store Uint256 MarketMaker) (oraclePegRates : Store String OraclePegRate) :
    (start assetDb grdBalances marketMakers oraclePegRates).Inv crypto where
  keyed id o h := by cases h
  ids id := by simp [start, DexDB.readOrder, Store.read, Store.empty]
  fits := List.forall_mem_nil _

theorem Inv.placed {dbs' : Databases} {keys : List OrderKey} {crypto : Crypto} (h : s.Inv crypto)
    (hplaced : Placed crypto s.dbs.dexDb keys dbs'.dexDb) :
    Inv crypto ⟨dbs', s.placed ++ keys⟩ := by
  obtain ⟨base, hbase, horders, hfits⟩ := hplaced
  have hread : ∀ id, dbs'.dexDb.readOrder id = (writeKeys crypto base keys).readOrder id := by
    intro id
    rw [DexDB.readOrder, horders, DexDB.readOrder]
  refine ⟨?_, ?_, ?_⟩
  · intro id o ho
    exact writeKeys_keyed hbase.keyed keys id o ((hread id).symm.trans ho)
  · intro id
    rw [hread, isSome_readOrder_writeKeys, hbase.ids, h.ids, List.map_append, List.mem_append]
  · intro key hkey
    rcases List.mem_append.mp hkey with hkey | hkey
    · exact h.fits key hkey
    · exact hfits key hkey

theorem Inv.step (h : s.Inv env.crypto) (request : PlacementRequest) :
    (s.step env request).Inv env.crypto := by
  unfold PlacementRun.step
  cases hexec : s.exec env request with
  | error e => exact h
  | ok result => exact h.placed (exec_placed h.keyed hexec)

theorem placed_initial_step (env : DexEnv) (s : PlacementRun) (request : PlacementRequest) :
    s.placed <+: (s.step env request).placed := by
  unfold step
  cases s.exec env request with
  | error e => exact List.prefix_refl _
  | ok result => exact List.prefix_append _ _

/-- The ids of the orders placed so far differ. -/
def IdsDiffer (crypto : Crypto) (s : PlacementRun) : Prop :=
  (s.placed.map (computeOrderId crypto)).Nodup

theorem idsDiffer_of_step (s : PlacementRun) (request : PlacementRequest)
    (h : (s.step env request).IdsDiffer env.crypto) : s.IdsDiffer env.crypto :=
  h.sublist ((placed_initial_step env s request).sublist.map _)

theorem placesFresh_iff_idsDiffer (h : s.Inv env.crypto) (hids : s.IdsDiffer env.crypto)
    (request : PlacementRequest) :
    PlacesFresh env s request ↔ (s.step env request).IdsDiffer env.crypto := by
  unfold PlacesFresh step
  cases s.exec env request with
  | error e => exact ⟨fun _ => hids, fun _ => trivial⟩
  | ok result =>
    show WritesFresh env.crypto s.dbs.dexDb result.2 ↔
      ((s.placed ++ result.2).map (computeOrderId env.crypto)).Nodup
    rw [writesFresh_iff h.ids hids, List.map_append]

theorem along_placesFresh_iff (h : s.Inv env.crypto) (hids : s.IdsDiffer env.crypto)
    (requests : List PlacementRequest) :
    Run.Along (step env) (PlacesFresh env) s requests ↔
      (Run.run (step env) s requests).IdsDiffer env.crypto := by
  induction requests generalizing s with
  | nil => exact ⟨fun _ => hids, fun _ => trivial⟩
  | cons request requests ih =>
    have hstep := placesFresh_iff_idsDiffer h hids request
    constructor
    · rintro ⟨hfresh, hrest⟩
      exact (ih (h.step request) (hstep.mp hfresh)).mp hrest
    · intro hend
      have hnext : (s.step env request).IdsDiffer env.crypto :=
        Run.of_run (I := IdsDiffer env.crypto) idsDiffer_of_step hend
      exact ⟨hstep.mpr hnext, (ih (h.step request) hnext).mpr hend⟩

end PlacementRun

/-- The keys of the orders that a run of requests places. -/
def placedKeys (env : DexEnv) (s : PlacementRun) (requests : List PlacementRequest) : List OrderKey :=
  (Run.run (PlacementRun.step env) s requests).placed

/-- Where the hash separates the keys of a run, no placement of it writes over an order exactly if no
    two of them have the same asset, side, price, amount, owner and time in seconds. -/
theorem placementRun_fresh_iff (env : DexEnv) (assetDb : AssetDB) (grdBalances : Store Bytes Int)
    (marketMakers : Store Uint256 MarketMaker) (oraclePegRates : Store String OraclePegRate)
    (requests : List PlacementRequest)
    (hids : ∀ key ∈ placedKeys env (.start assetDb grdBalances marketMakers oraclePegRates) requests,
      ∀ key' ∈ placedKeys env (.start assetDb grdBalances marketMakers oraclePegRates) requests,
        computeOrderId env.crypto key = computeOrderId env.crypto key' → key.bytes = key'.bytes) :
    Run.Along (PlacementRun.step env) (PlacesFresh env)
        (.start assetDb grdBalances marketMakers oraclePegRates) requests ↔
      (placedKeys env (.start assetDb grdBalances marketMakers oraclePegRates) requests).Nodup := by
  have hstart := PlacementRun.inv_start env.crypto assetDb grdBalances marketMakers oraclePegRates
  have hend : (Run.run (PlacementRun.step env)
      (.start assetDb grdBalances marketMakers oraclePegRates) requests).Inv env.crypto :=
    Run.run_inv (I := PlacementRun.Inv env.crypto) (fun _ request h => h.step request) hstart requests
  rw [PlacementRun.along_placesFresh_iff hstart List.nodup_nil]
  constructor
  · exact List.Nodup.of_map _
  · intro hnodup
    refine hnodup.map_on ?_
    intro key hkey key' hkey' hid
    have hbytes := hids key hkey key' hkey' hid
    exact OrderKey.bytes_injective (hend.fits key hkey) (hend.fits key' hkey') hbytes

def samplePlacements : List PlacementRequest :=
  [.placeorder 7 "SELL" 5 (some 30) sampleSeller 1000,
    .setupmarketmaker ⟨7, sampleBuyer, some 995, 50, 1000, 1, none⟩ 1000,
    .refreshmarketmaker ⟨7, some (some 999), none⟩ (fun _ => 1001) 1001,
    .autoAdjustMMPrice 7 true 900 1001]

theorem placementRun_fresh_sample :
    placedKeys sampleDexEnv (.start sampleAssetDB .empty .empty .empty) samplePlacements =
      [⟨7, .sell, 30, 5, sampleSeller, 1000⟩, ⟨7, .buy, 992, 100000000000, sampleBuyer, 1000⟩,
        ⟨7, .buy, 996, 100000000000, sampleBuyer, 1001⟩,
        ⟨7, .buy, 987, 100000000000, sampleBuyer, 1001⟩] ∧
    Run.Along (PlacementRun.step sampleDexEnv) (PlacesFresh sampleDexEnv)
      (.start sampleAssetDB .empty .empty .empty) samplePlacements := by
  -- the run is evaluated once for all its values
  have hvalues : placedKeys sampleDexEnv (.start sampleAssetDB .empty .empty .empty)
      samplePlacements =
      [⟨7, .sell, 30, 5, sampleSeller, 1000⟩, ⟨7, .buy, 992, 100000000000, sampleBuyer, 1000⟩,
        ⟨7, .buy, 996, 100000000000, sampleBuyer, 1001⟩,
        ⟨7, .buy, 987, 100000000000, sampleBuyer, 1001⟩] ∧
      (∀ key ∈ placedKeys sampleDexEnv (.start sampleAssetDB .empty .empty .empty) samplePlacements,
        ∀ key' ∈ placedKeys sampleDexEnv (.start sampleAssetDB .empty .empty .empty) samplePlacements,
          computeOrderId sampleDexEnv.crypto key = computeOrderId sampleDexEnv.crypto key' →
            key.bytes = key'.bytes) ∧
      (placedKeys sampleDexEnv (.start sampleAssetDB .empty .empty .empty) samplePlacements).Nodup := by
    decide +kernel
  obtain ⟨hplaced, hids, hnodup⟩ := hvalues
  exact ⟨hplaced, (placementRun_fresh_iff sampleDexEnv sampleAssetDB .empty .empty .empty
    samplePlacements hids).mpr hnodup⟩

/-- The same SELL order twice within one second. -/
def repeatedOrder : List PlacementRequest :=
  [.placeorder 7 "SELL" 5 (some 30) sampleSeller 1000,
    .placeorder 7 "SELL" 5 (some 30) sampleSeller 1000]

/-- Both requests take five units, but the second order is written over the first. -/
theorem placementRun_overwrites :
    placedKeys sampleDexEnv (.start sampleAssetDB .empty .empty .empty) repeatedOrder =
      [⟨7, .sell, 30, 5, sampleSeller, 1000⟩, ⟨7, .sell, 30, 5, sampleSeller, 1000⟩] ∧
    (Run.run (PlacementRun.step sampleDexEnv) (.start sampleAssetDB .empty .empty .empty)
        repeatedOrder).dbs.assetDb.readBalance 7 sampleSeller = 0 ∧
    (Run.run (PlacementRun.step sampleDexEnv) (.start sampleAssetDB .empty .empty .empty)
        repeatedOrder).dbs.dexDb.allOrders.map (fun o => (o.key, o.filled, o.status)) =
      [(⟨7, .sell, 30, 5, sampleSeller, 1000⟩, 0, .OPEN)] ∧
    ¬ Run.Along (PlacementRun.step sampleDexEnv) (PlacesFresh sampleDexEnv)
      (.start sampleAssetDB .empty .empty .empty) repeatedOrder := by
  have hvalues : placedKeys sampleDexEnv (.start sampleAssetDB .empty .empty .empty) repeatedOrder =
        [⟨7, .sell, 30, 5, sampleSeller, 1000⟩, ⟨7, .sell, 30, 5, sampleSeller, 1000⟩] ∧
      (Run.run (PlacementRun.step sampleDexEnv) (.start sampleAssetDB .empty .empty .empty)
        repeatedOrder).dbs.assetDb.readBalance 7 sampleSeller = 0 ∧
      (Run.run (PlacementRun.step sampleDexEnv) (.start sampleAssetDB .empty .empty .empty)
        repeatedOrder).dbs.dexDb.allOrders.map (fun o => (o.key, o.filled, o.status)) =
        [(⟨7, .sell, 30, 5, sampleSeller, 1000⟩, 0, .OPEN)] := by
    decide
  obtain ⟨hplaced, hbalance, hbook⟩ := hvalues
  refine ⟨hplaced, hbalance, hbook, ?_⟩
  intro hfresh
  rw [PlacementRun.along_placesFresh_iff (PlacementRun.inv_start _ _ _ _ _) List.nodup_nil] at hfresh
  have hnodup := List.Nodup.of_map _ hfresh
  rw [← placedKeys, hplaced] at hnodup
  exact (List.nodup_cons.mp hnodup).1 (List.mem_singleton_self _)

end GarudaChain
