import GarudaChain.Dex.Proofs.SwapPaymentProofs

/-!
# What the swaps do to the assets

A sale reads the balance of the caller before the loop and writes it after the loop, so what the loop
credits to the caller's own bids is lost.
-/

namespace GarudaChain

open Int64Lib Result

/-- What a sale has sold so far. -/
structure SoldRound (amount : Int) (s : SwapState) : Prop where
  remaining_nonneg : 0 ≤ s.remaining
  remaining_eq : s.remaining = amount - fillTotal Fill.units s.fills
  units_pos : ∀ fill ∈ s.fills, 0 < fill.units

variable {fill : Fill} {amount : Int} {market : Market} {orders : List Order} {request : SwapAssetRequest}

section Sold

variable {crypto : Crypto} {assetId : Uint256} {now amount : Int} {s : SwapState}

theorem SoldRound.total_nonneg (h : SoldRound amount s) : 0 ≤ fillTotal Fill.units s.fills := by
  refine List.sum_nonneg ?_
  intro x hx
  obtain ⟨fill, hfill, rfl⟩ := List.mem_map.mp hx
  exact (h.units_pos fill hfill).le

theorem SoldRound.take (hamount : amount < 9223372036854775808)
    (h : SoldRound amount s)
    (hround : sellRound s.remaining fill.order = .fill fill.fillSat fill.units fill.grd) :
    SoldRound amount ((sellLoop crypto assetId now).take s fill) := by
  obtain ⟨-, hpos, hle, -, -, -⟩ := sellRound_fill hround
  have hremaining := h.remaining_eq
  have hsold := h.total_nonneg
  have hwrap : wrap64 (s.remaining - fill.units) = s.remaining - fill.units :=
    wrap64_of_range (by omega) (by omega)
  refine ⟨?_, ?_, ?_⟩
  · show 0 ≤ wrap64 (s.remaining - fill.units)
    omega
  · show wrap64 (s.remaining - fill.units) = amount - fillTotal Fill.units (s.fills ++ [fill])
    rw [fillTotal_append, hwrap]
    omega
  · intro fill' hfill'
    rcases List.mem_append.mp hfill' with hold | hnew
    · exact h.units_pos fill' hold
    · obtain rfl := List.mem_singleton.mp hnew
      exact hpos

theorem sellLoop_sold (h0 : 0 ≤ amount)
    (hamount : amount < 9223372036854775808) :
    SoldRound amount ((sellLoop crypto assetId now).run market amount orders) := by
  refine SwapLoop.run_inv _ _ _ _ ⟨h0, by simp [fillTotal], by simp⟩ ?_
  intro s fill hs _ hround
  exact hs.take hamount hround

theorem SoldRound.sold_eq (hamount : amount < 9223372036854775808) (h : SoldRound amount s) :
    wrap64 (amount - s.remaining) = fillTotal Fill.units s.fills := by
  have hsold := h.total_nonneg
  have hremaining := h.remaining_eq
  have hnonneg := h.remaining_nonneg
  rw [hremaining, wrap64_of_range (by omega) (by omega)]
  omega

theorem SoldRound.fills_eq_nil (h : SoldRound amount s)
    (hsold : fillTotal Fill.units s.fills ≤ 0) : s.fills = [] := by
  have hpos := h.units_pos
  cases hfills : s.fills with
  | nil => rfl
  | cons fill fills =>
    rw [hfills] at hsold hpos
    obtain ⟨hfill, hrest⟩ := List.forall_mem_cons.mp hpos
    have hnonneg : 0 ≤ fillTotal Fill.units fills := by
      refine List.sum_nonneg ?_
      intro x hx
      obtain ⟨fill', hfill', rfl⟩ := List.mem_map.mp hx
      exact (hrest fill' hfill').le
    have hsplit : fillTotal Fill.units (fill :: fills) = fill.units + fillTotal Fill.units fills := by
      simp [fillTotal]
    omega

end Sold

/-- The balances without that of one address. -/
def AssetDB.without (db : AssetDB) (assetId : Uint256) (address : Bytes) : AssetDB :=
  db.writeBalance assetId address 0

theorem AssetDB.readBalance_without (db : AssetDB) (assetId a : Uint256) (address x : Bytes) :
    (db.without assetId address).readBalance a x =
      if a = assetId ∧ x = address then 0 else db.readBalance a x :=
  db.readBalance_writeBalance assetId a address x 0

theorem AssetDB.assetTotal_writeBalance_without (db : AssetDB) (assetId : Uint256) (address : Bytes)
    (balance : Int) : (db.writeBalance assetId address balance).assetTotal assetId =
      (db.without assetId address).assetTotal assetId + balance := by
  rw [AssetDB.without, AssetDB.assetTotal_writeBalance, AssetDB.assetTotal_writeBalance, if_pos rfl,
    if_pos rfl]
  omega

structure SaleRound (db : AssetDB) (assetId : Uint256) (seller : Bytes) (amount : Int)
    (s : SwapState) : Prop extends SoldRound amount s where
  others_nonneg : (s.market.dbs.assetDb.without assetId seller).Nonneg
  others_total : (s.market.dbs.assetDb.without assetId seller).assetTotal assetId =
    (db.without assetId seller).assetTotal assetId + fillTotal Fill.units s.fills -
      fillTotalOf Fill.units s.fills seller

section Sale

variable {crypto : Crypto} {db : AssetDB} {assetId : Uint256} {seller : Bytes} {now amount : Int}
  {s : SwapState}

theorem sellLoop_move_of_ne (db : AssetDB) (fill : Fill) (a : Uint256) (x : Bytes)
    (ha : a ≠ assetId) :
    ((sellLoop crypto assetId now).move db fill).readBalance a x = db.readBalance a x := by
  show AssetDB.readBalance (db.writeBalance assetId _ _) a x = _
  rw [AssetDB.readBalance_writeBalance, if_neg (fun heq => ha heq.1)]

theorem AssetDB.Nonneg.congr {db db' : AssetDB} (h : db.Nonneg)
    (hread : ∀ a address, db'.readBalance a address = db.readBalance a address) : db'.Nonneg := by
  rw [AssetDB.nonneg_iff] at h ⊢
  intro a address
  rw [hread]
  exact h a address

theorem AssetDB.without_credit {db : AssetDB} (h : (db.without assetId seller).Nonneg)
    (owner : Bytes) {units : Int} (h0 : 0 ≤ units)
    (hfits : (db.without assetId seller).assetTotal assetId + units < 9223372036854775808) :
    ∃ db', db' = db.writeBalance assetId owner (wrap64 (db.readBalance assetId owner + units)) ∧
      (db'.without assetId seller).Nonneg ∧
      (db'.without assetId seller).assetTotal assetId =
        (db.without assetId seller).assetTotal assetId + if owner = seller then 0 else units := by
  refine ⟨_, rfl, ?_⟩
  by_cases howner : owner = seller
  · -- what is written here is overwritten
    have hsame : ∀ a x, ((db.writeBalance assetId owner (wrap64 (db.readBalance assetId owner +
        units))).without assetId seller).readBalance a x =
          (db.without assetId seller).readBalance a x := by
      intro a x
      rw [AssetDB.readBalance_without, AssetDB.readBalance_without,
        AssetDB.readBalance_writeBalance, howner]
      split_ifs <;> rfl
    rw [if_pos howner, add_zero]
    exact ⟨h.congr hsame, AssetDB.assetTotal_congr fun x => hsame assetId x⟩
  · obtain ⟨db', hdb', hnonneg, htotal, -⟩ := h.credit assetId owner h0 hfits
    have hsame : ∀ a x, ((db.writeBalance assetId owner (wrap64 (db.readBalance assetId owner +
        units))).without assetId seller).readBalance a x = db'.readBalance a x := by
      intro a x
      have howned : (db.without assetId seller).readBalance assetId owner =
          db.readBalance assetId owner := by
        rw [AssetDB.readBalance_without, if_neg (fun heq => howner heq.2)]
      rw [hdb', howned, AssetDB.readBalance_without, AssetDB.readBalance_writeBalance,
        AssetDB.readBalance_writeBalance, AssetDB.readBalance_without]
      by_cases hx : x = owner
      · subst hx
        simp [howner]
      · simp [hx]
    refine ⟨hnonneg.congr hsame, ?_⟩
    rw [AssetDB.assetTotal_congr fun x => hsame assetId x, htotal, if_pos rfl, if_neg howner]

theorem SaleRound.take (hamount : amount < 9223372036854775808)
    (hfits : (db.without assetId seller).assetTotal assetId + amount < 9223372036854775808)
    (h : SaleRound db assetId seller amount s)
    (hround : sellRound s.remaining fill.order = .fill fill.fillSat fill.units fill.grd) :
    SaleRound db assetId seller amount ((sellLoop crypto assetId now).take s fill) := by
  obtain ⟨-, hpos, hle, -, -, -⟩ := sellRound_fill hround
  have hremaining := h.remaining_eq
  have hown := fillTotalOf_nonneg (fun fill hfill => (h.units_pos fill hfill).le) seller
  have htotal := h.others_total
  obtain ⟨db', hdb', hnonneg, htotal'⟩ := AssetDB.without_credit h.others_nonneg fill.order.owner
    hpos.le (by omega)
  have hassetDb : ((sellLoop crypto assetId now).take s fill).market.dbs.assetDb = db' := hdb'.symm
  refine ⟨h.toSoldRound.take hamount hround, hassetDb ▸ hnonneg, ?_⟩
  show _ = _ + fillTotal Fill.units (s.fills ++ [fill]) -
    fillTotalOf Fill.units (s.fills ++ [fill]) seller
  rw [hassetDb, htotal', htotal, fillTotal_append, fillTotalOf_append]
  split_ifs <;> omega

theorem sellLoop_sale (h0 : 0 ≤ amount)
    (hnonneg : market.dbs.assetDb.Nonneg)
    (hfits : market.dbs.assetDb.assetTotal assetId < 9223372036854775808)
    (hbalance : amount ≤ market.dbs.assetDb.readBalance assetId seller) :
    SaleRound market.dbs.assetDb assetId seller amount
      ((sellLoop crypto assetId now).run market amount orders) := by
  have hle := hnonneg.readBalance_le assetId seller
  have hothers : (market.dbs.assetDb.without assetId seller).assetTotal assetId =
      market.dbs.assetDb.assetTotal assetId - market.dbs.assetDb.readBalance assetId seller := by
    rw [AssetDB.without, AssetDB.assetTotal_writeBalance, if_pos rfl]
    omega
  refine SwapLoop.run_inv _ _ _ _
    ⟨⟨h0, by simp [fillTotal], by simp⟩, hnonneg.writeBalance assetId seller (le_refl 0), ?_⟩ ?_
  · simp [fillTotal, fillTotalOf]
  · intro s fill hs _ hround
    exact hs.take (by omega) (by omega) hround

theorem SaleRound.total_eq {db₀ : AssetDB} {balance : Int}
    (h : SaleRound db₀ assetId seller amount s) (hamount : amount < 9223372036854775808)
    (hbalance : balance = db₀.readBalance assetId seller) (hle : amount ≤ balance)
    (hlt : balance < 9223372036854775808) :
    (s.market.dbs.assetDb.writeBalance assetId seller
        (wrap64 (balance - wrap64 (amount - s.remaining)))).assetTotal assetId =
      db₀.assetTotal assetId - fillTotalOf Fill.units s.fills seller ∧
    (s.market.dbs.assetDb.writeBalance assetId seller
        (wrap64 (balance - wrap64 (amount - s.remaining)))).Nonneg := by
  have hsold := h.toSoldRound.sold_eq hamount
  have hnonneg := h.total_nonneg
  have hremaining := h.remaining_nonneg
  have heq := h.remaining_eq
  rw [hsold, wrap64_of_range (by omega) (by omega)]
  constructor
  · have hbefore := AssetDB.assetTotal_writeBalance_without db₀ assetId seller balance
    rw [AssetDB.assetTotal_writeBalance, if_pos rfl, ← hbalance] at hbefore
    rw [AssetDB.assetTotal_writeBalance_without, h.others_total]
    omega
  · rw [AssetDB.nonneg_iff]
    intro a x
    rw [AssetDB.readBalance_writeBalance]
    split_ifs with hax
    · omega
    · have hother := AssetDB.nonneg_iff.mp h.others_nonneg a x
      rwa [AssetDB.readBalance_without, if_neg hax] at hother

theorem fillTotalOf_eq_zero_iff {fills : List Fill} (hpos : ∀ fill ∈ fills, 0 < fill.units)
    (owner : Bytes) :
    fillTotalOf Fill.units fills owner = 0 ↔ ∀ fill ∈ fills, fill.order.owner ≠ owner := by
  induction fills with
  | nil => simp [fillTotalOf]
  | cons fill fills ih =>
    obtain ⟨hfill, hrest⟩ := List.forall_mem_cons.mp hpos
    have hnonneg := fillTotalOf_nonneg (fun fill h => (hrest fill h).le) owner
    have hsplit : fillTotalOf Fill.units (fill :: fills) owner =
        (if fill.order.owner = owner then fill.units else 0) +
          fillTotalOf Fill.units fills owner := by
      simp [fillTotalOf]
    rw [hsplit, List.forall_mem_cons, ← ih hrest]
    split_ifs with howner
    · constructor
      · intro hzero
        omega
      · exact fun h => absurd howner h.1
    · constructor
      · intro hzero
        exact ⟨howner, by omega⟩
      · intro h
        omega

end Sale

theorem buyRound_fill {r : Int}
    (h : buyRound r fill.order = .fill fill.fillSat fill.units fill.grd) :
    0 < fill.units ∧ fill.units ≤ 92233720368 := by
  have hrange : 0 < fill.units ∧ fill.units ≤ fill.order.remaining.tdiv coinSat := by
    unfold buyRound at h
    simp only at h
    split_ifs at h with hr hskip hmore hunits hunits
    all_goals
      simp only [Round.fill.injEq] at h
      omega
  obtain ⟨-, hlt⟩ := wrap64_range (fill.order.amount - fill.order.filled)
  have hremaining : fill.order.remaining < 9223372036854775808 := hlt
  obtain ⟨-, hdiv⟩ := tdiv_coinSat_pos (x := fill.order.remaining) (by omega)
  rw [hdiv, coinSat] at hrange
  omega

/-- Every owner has had the units that its asks give. -/
def OwnersHave (db : AssetDB) (assetId : Uint256) (fills : List Fill) : Prop :=
  ∀ owner, fillTotalOf Fill.units fills owner ≤ db.readBalance assetId owner

/-- What holds in every round of the loop over the asks: an owner is debited in full as long as it
    has enough, and what it is not debited is missing from the sum. -/
structure BuyRound (db : AssetDB) (assetId : Uint256) (s : SwapState) : Prop where
  nonneg : s.market.dbs.assetDb.Nonneg
  units : ∀ fill ∈ s.fills, 0 < fill.units ∧ fill.units ≤ 92233720368
  received : s.received = wrap64 (fillTotal Fill.units s.fills)
  debited : ∀ owner, fillTotalOf Fill.units s.fills owner ≤ db.readBalance assetId owner →
    s.market.dbs.assetDb.readBalance assetId owner =
      db.readBalance assetId owner - fillTotalOf Fill.units s.fills owner
  total_le : s.market.dbs.assetDb.assetTotal assetId ≤ db.assetTotal assetId
  total_eq : OwnersHave db assetId s.fills → s.market.dbs.assetDb.assetTotal assetId =
    db.assetTotal assetId - fillTotal Fill.units s.fills
  total_gt : ¬ OwnersHave db assetId s.fills →
    db.assetTotal assetId - fillTotal Fill.units s.fills < s.market.dbs.assetDb.assetTotal assetId

section Buy

variable {crypto : Crypto} {db : AssetDB} {assetId : Uint256} {now : Int} {s : SwapState}

variable (crypto now) in
theorem buyLoop_move (db : AssetDB) (fill : Fill) (a : Uint256) (x : Bytes)
    (hint64 : db.readBalance assetId fill.order.owner < 9223372036854775808)
    (hpos : 0 < fill.units) :
    ((buyLoop crypto assetId now).move db fill).readBalance a x = db.readBalance a x -
        (if a = assetId ∧ x = fill.order.owner ∧ fill.units ≤ db.readBalance assetId fill.order.owner
          then fill.units else 0) ∧
      ((buyLoop crypto assetId now).move db fill).assetTotal assetId = db.assetTotal assetId -
        if fill.units ≤ db.readBalance assetId fill.order.owner then fill.units else 0 := by
  show (AssetDB.readBalance (if db.readBalance assetId fill.order.owner ≥ fill.units then _ else db)
    a x = _) ∧ AssetDB.assetTotal (if db.readBalance assetId fill.order.owner ≥ fill.units then _
      else db) assetId = _
  by_cases henough : fill.units ≤ db.readBalance assetId fill.order.owner
  · rw [if_pos henough, if_pos henough, wrap64_of_range (by omega) (by omega),
      AssetDB.readBalance_writeBalance, AssetDB.assetTotal_writeBalance, if_pos rfl]
    constructor
    · by_cases hax : a = assetId ∧ x = fill.order.owner
      · rw [if_pos hax, if_pos ⟨hax.1, hax.2, henough⟩, hax.1, hax.2]
      · rw [if_neg hax, if_neg (fun h => hax ⟨h.1, h.2.1⟩), sub_zero]
    · omega
  · rw [if_neg henough, if_neg henough, if_neg (fun h => henough h.2.2), sub_zero, sub_zero]
    exact ⟨rfl, rfl⟩

theorem buyLoop_move_of_ne (db : AssetDB) (fill : Fill) (a : Uint256) (x : Bytes)
    (ha : a ≠ assetId) :
    ((buyLoop crypto assetId now).move db fill).readBalance a x = db.readBalance a x := by
  show AssetDB.readBalance (if _ then _ else db) a x = _
  split_ifs
  · rw [AssetDB.readBalance_writeBalance, if_neg (fun heq => ha heq.1)]
  · rfl

theorem BuyRound.take (hfits : db.assetTotal assetId < 9223372036854775808)
    (h : BuyRound db assetId s)
    (hround : buyRound s.remaining fill.order = .fill fill.fillSat fill.units fill.grd) :
    BuyRound db assetId ((buyLoop crypto assetId now).take s fill) := by
  obtain ⟨hpos, hle⟩ := buyRound_fill hround
  have howned := h.nonneg.readBalance assetId fill.order.owner
  have hbalance := h.nonneg.readBalance_le assetId fill.order.owner
  have htotal := h.total_le
  have hmove := fun a x => buyLoop_move crypto now s.market.dbs.assetDb fill a x
    (show s.market.dbs.assetDb.readBalance assetId fill.order.owner < 9223372036854775808 by omega)
    hpos
  have hread : ∀ a x, ((buyLoop crypto assetId now).take s fill).market.dbs.assetDb.readBalance a x =
    _ := fun a x => (hmove a x).1
  have htotal' : ((buyLoop crypto assetId now).take s fill).market.dbs.assetDb.assetTotal assetId =
    _ := (hmove assetId fill.order.owner).2
  have htaken : ∀ owner, fillTotalOf Fill.units (s.fills ++ [fill]) owner =
      fillTotalOf Fill.units s.fills owner + if fill.order.owner = owner then fill.units else 0 :=
    fillTotalOf_append s.fills fill
  have hbefore : OwnersHave db assetId (s.fills ++ [fill]) → OwnersHave db assetId s.fills := by
    intro hhave owner
    have howner := hhave owner
    rw [htaken] at howner
    split_ifs at howner <;> omega
  -- an owner that has had enough so far is debited for this fill just if it still has enough
  have hdebit : fillTotalOf Fill.units s.fills fill.order.owner ≤
      db.readBalance assetId fill.order.owner →
      (fill.units ≤ s.market.dbs.assetDb.readBalance assetId fill.order.owner ↔
        fillTotalOf Fill.units s.fills fill.order.owner + fill.units ≤
          db.readBalance assetId fill.order.owner) := by
    intro hhad
    have := h.debited fill.order.owner hhad
    omega
  refine ⟨?_, ?_, ?_, ?_, ?_, ?_, ?_⟩
  · rw [AssetDB.nonneg_iff]
    intro a x
    have hold := h.nonneg.readBalance a x
    rw [hread]
    split_ifs with hfill
    · rw [hfill.1, hfill.2.1]
      omega
    · omega
  · intro fill' hfill'
    rcases List.mem_append.mp hfill' with hold | hnew
    · exact h.units fill' hold
    · obtain rfl := List.mem_singleton.mp hnew
      exact ⟨hpos, hle⟩
  · show wrap64 (s.received + fill.units) = wrap64 (fillTotal Fill.units (s.fills ++ [fill]))
    rw [h.received, wrap64_add_wrap64, fillTotal_append]
  · intro owner hhave
    have hhave' : fillTotalOf Fill.units (s.fills ++ [fill]) owner ≤ db.readBalance assetId owner :=
      hhave
    rw [htaken] at hhave'
    show _ = _ - fillTotalOf Fill.units (s.fills ++ [fill]) owner
    rw [hread, htaken]
    by_cases howner : fill.order.owner = owner
    · subst howner
      rw [if_pos rfl] at hhave' ⊢
      have hhad := h.debited fill.order.owner (by omega)
      rw [if_pos ⟨rfl, rfl, by omega⟩]
      omega
    · rw [if_neg howner, add_zero] at hhave'
      rw [if_neg howner, if_neg (fun hfill => howner hfill.2.1.symm), h.debited owner hhave']
      omega
  · rw [htotal']
    split_ifs <;> omega
  · intro hhave
    have hhad := h.total_eq (hbefore hhave)
    have henough : fillTotalOf Fill.units (s.fills ++ [fill]) fill.order.owner ≤
        db.readBalance assetId fill.order.owner := hhave fill.order.owner
    rw [htaken, if_pos rfl] at henough
    show _ = _ - fillTotal Fill.units (s.fills ++ [fill])
    rw [htotal', if_pos ((hdebit (by omega)).mpr henough), hhad, fillTotal_append]
    omega
  · intro hnot
    show _ - fillTotal Fill.units (s.fills ++ [fill]) < _
    rw [htotal', fillTotal_append]
    by_cases hhad : OwnersHave db assetId s.fills
    · -- it is the owner of this ask that does not have enough
      have hshort : ¬ fill.units ≤ s.market.dbs.assetDb.readBalance assetId fill.order.owner := by
        intro henough
        refine hnot fun owner => ?_
        show fillTotalOf Fill.units (s.fills ++ [fill]) owner ≤ _
        rw [htaken]
        by_cases howner : fill.order.owner = owner
        · subst howner
          rw [if_pos rfl]
          exact (hdebit (hhad _)).mp henough
        · rw [if_neg howner, add_zero]
          exact hhad owner
      rw [if_neg hshort, h.total_eq hhad]
      omega
    · have := h.total_gt hhad
      split_ifs <;> omega

theorem buyLoop_round {budget : Int}
    (hnonneg : market.dbs.assetDb.Nonneg)
    (hfits : market.dbs.assetDb.assetTotal assetId < 9223372036854775808) :
    BuyRound market.dbs.assetDb assetId
      ((buyLoop crypto assetId now).run market budget orders) := by
  refine SwapLoop.run_inv _ _ _ _ ⟨hnonneg, by simp, ?_, ?_, le_refl _, ?_, ?_⟩ ?_
  · simp only [fillTotal, List.map_nil, List.sum_nil]
    decide
  · intro owner _
    simp [fillTotalOf]
  · intro _
    simp [fillTotal]
  · intro hnot
    refine absurd (fun owner => ?_) hnot
    simpa [fillTotalOf] using hnonneg.readBalance assetId owner
  · intro s fill hs _ hround
    exact hs.take hfits hround

theorem BuyRound.total_iff (h : BuyRound db assetId s) (hcount : s.fills.length ≤ 500)
    (hfits : db.assetTotal assetId < 9223372036854775808) (caller : Bytes) :
    (s.market.dbs.assetDb.writeBalance assetId caller (wrap64
        (s.market.dbs.assetDb.readBalance assetId caller + s.received))).assetTotal assetId =
      db.assetTotal assetId ↔ OwnersHave db assetId s.fills := by
  have htotal : fillTotal Fill.units s.fills ≤ 500 * 92233720368 := by
    refine (fillTotal_le fun fill hfill => (h.units fill hfill).2).trans ?_
    omega
  have htotal0 : 0 ≤ fillTotal Fill.units s.fills := by
    refine List.sum_nonneg ?_
    intro x hx
    obtain ⟨fill, hfill, rfl⟩ := List.mem_map.mp hx
    exact (h.units fill hfill).1.le
  have hle := h.total_le
  have hbalance := h.nonneg.readBalance_le assetId caller
  have hbalance0 := h.nonneg.readBalance assetId caller
  rw [AssetDB.assetTotal_writeBalance, if_pos rfl, h.received,
    wrap64_of_range (x := fillTotal Fill.units s.fills) (by omega) (by omega)]
  constructor
  · intro hsame
    by_contra hnot
    have hgt := h.total_gt hnot
    have hwrap := wrap64_eq (s.market.dbs.assetDb.readBalance assetId caller +
      fillTotal Fill.units s.fills)
    omega
  · intro hhave
    have heq := h.total_eq hhave
    rw [wrap64_of_range (by omega) (by omega)]
    omega

end Buy

section Calls

variable {env : DexEnv} {send : SendToAddress} {market market' : Market} {now adjustedAt : Int}

theorem swapstabletogrd_ok {assetId : Uint256} {seller : Bytes}
    {result : StableToGrdResult}
    (h : swapstabletogrd env send market assetId seller amount now adjustedAt =
      (market', .ok result)) :
    ∃ sale s, stableToGrdChecks env market.dbs assetId seller amount = .ok sale ∧
      s = (sellLoop env.crypto assetId now).run market sale.amount sale.bids ∧
      market'.dbs.assetDb = s.market.dbs.assetDb.writeBalance assetId seller
        (wrap64 (sale.balance - wrap64 (sale.amount - s.remaining))) ∧ result.fills = s.fills := by
  unfold swapstabletogrd at h
  cases hchecks : stableToGrdChecks env market.dbs assetId seller amount with
  | error err =>
    rw [hchecks] at h
    cases h
  | ok sale =>
    simp only [hchecks] at h
    split_ifs at h
    · simp at h
    · cases hsend : sendGrd send seller
          ((sellLoop env.crypto assetId now).run market sale.amount sale.bids).received with
      | error err =>
        simp [hsend] at h
      | ok txid =>
        simp only [hsend, Prod.mk.injEq, Except.ok.injEq] at h
        obtain ⟨rfl, rfl⟩ := h
        exact ⟨sale, _, rfl, rfl, autoAdjustMMPrice_assetDb env _ assetId true _ adjustedAt, rfl⟩

theorem swapAssetChecks_ok {sale : Sale} {info : SwapAssetInfo}
    (h : swapAssetChecks env market.dbs request = .ok (sale, info)) :
    request.fromId ≠ request.toId ∧ 0 < sale.amount ∧ sale.amount < 9223372036854775808 ∧
      sale.amount ≤ sale.balance ∧
      sale.balance = market.dbs.assetDb.readBalance request.fromId request.address ∧
      sale.bids = marketOrders env market.dbs.dexDb request.fromId .buy ∧
      sale.amount = request.fromAmount := by
  simp only [swapAssetChecks, bind_ok_iff, throwIf_eq_ok, Except.ok.injEq, Prod.mk.injEq] at h
  obtain ⟨toSell, hamount, _, hpos, _, hne, _, -, _, -, _, -, _, hle, _, -, _, -, _, -, rfl, -⟩ := h
  obtain ⟨heq, -, hlt⟩ := getInt64_eq_ok hamount
  exact ⟨by simpa using hne, by simpa using hpos, hlt, by simpa using hle, rfl, rfl, heq⟩

theorem swapAssetSell_ok {soldAsset : SoldAsset}
    (h : swapAssetSell env market request now adjustedAt = (market', .ok soldAsset)) :
    ∃ sale info s, swapAssetChecks env market.dbs request = .ok (sale, info) ∧
      s = (sellLoop env.crypto request.fromId now).run market sale.amount sale.bids ∧
      0 < wrap64 (sale.amount - s.remaining) ∧
      market'.dbs.assetDb = s.market.dbs.assetDb.writeBalance request.fromId request.address
        (wrap64 (sale.balance - wrap64 (sale.amount - s.remaining))) ∧ soldAsset.fills = s.fills ∧
      soldAsset.grd = s.received := by
  unfold swapAssetSell at h
  cases hchecks : swapAssetChecks env market.dbs request with
  | error err =>
    rw [hchecks] at h
    cases h
  | ok r =>
    obtain ⟨sale, info⟩ := r
    simp only [hchecks] at h
    split_ifs at h with hsold
    · simp at h
    · simp only [Prod.mk.injEq, Except.ok.injEq] at h
      obtain ⟨rfl, rfl⟩ := h
      exact ⟨sale, info, _, rfl, rfl, by omega,
        autoAdjustMMPrice_assetDb env _ request.fromId true _ adjustedAt, rfl, rfl⟩

theorem swapasset_ok {adjustedAgainAt : Int} {result : SwapAssetResult}
    (h : swapasset env market request now adjustedAt adjustedAgainAt = (market', .ok result)) :
    ∃ market₁ soldAsset s,
      swapAssetSell env market request now adjustedAt = (market₁, .ok soldAsset) ∧
      s = (buyLoop env.crypto request.toId now).run market₁ soldAsset.grd
        (marketOrders env market₁.dbs.dexDb request.toId .sell) ∧
      market'.dbs.assetDb = s.market.dbs.assetDb.writeBalance request.toId request.address (wrap64
        (s.market.dbs.assetDb.readBalance request.toId request.address + s.received)) ∧
      result.step1Fills = soldAsset.fills ∧ result.step2Fills = s.fills := by
  unfold swapasset at h
  cases hsell : swapAssetSell env market request now adjustedAt with
  | mk market₁ answer =>
    cases answer with
    | error err =>
      rw [hsell] at h
      cases h
    | ok soldAsset =>
      rw [hsell] at h
      simp only at h
      split_ifs at h
      · simp at h
      · simp at h
      · simp only [Prod.mk.injEq, Except.ok.injEq] at h
        obtain ⟨rfl, rfl⟩ := h
        exact ⟨market₁, soldAsset, _, rfl, rfl,
          autoAdjustMMPrice_assetDb env _ request.toId false _ adjustedAgainAt, rfl, rfl⟩

end Calls

/-- What a sale of the amount makes of the sorted bids. -/
def sellPlan (env : DexEnv) (db : DexDB) (assetId : Uint256) (amount now : Int) : SwapLoop.Plan :=
  (sellLoop env.crypto assetId now).plan amount (marketOrders env db assetId .buy)

theorem sellLoop_plan {env : DexEnv} {market : Market} {assetId : Uint256} {sale : Sale} {amount : Int}
    (hbids : sale.bids = marketOrders env market.dbs.dexDb assetId .buy) (hamount : sale.amount = amount)
    (now : Int) :
    let s := (sellLoop env.crypto assetId now).run market sale.amount sale.bids
    let plan := sellPlan env market.dbs.dexDb assetId amount now
    s.remaining = plan.remaining ∧ s.received = plan.received ∧ s.fills = plan.fills := by
  rw [sellPlan, ← hbids, ← hamount]
  exact SwapLoop.run_eq_plan _ _ _ _

/-- What the second step of `swapasset` makes of the sorted asks with the GRD of the first. -/
def buyPlan (env : DexEnv) (db : DexDB) (assetId : Uint256) (grd now : Int) : SwapLoop.Plan :=
  (buyLoop env.crypto assetId now).plan grd (marketOrders env db assetId .sell)

/-- From balances that are not negative and add up to an `int64_t`, `swapstabletogrd` conserves the
    asset just where the plan for the amount and the sorted bids fills no bid of the seller itself; and
    `swapasset` conserves both assets just where the plan fills no bid of the caller and every owner has
    the units that the plan for the GRD and the sorted asks takes. -/
theorem swaps_conserve_iff (env : DexEnv) (send : SendToAddress) (market : Market)
    (hnonneg : market.dbs.assetDb.Nonneg)
    (hfits : ∀ a, market.dbs.assetDb.assetTotal a < 9223372036854775808) :
    (∀ assetId seller amount now adjustedAt market' result,
      swapstabletogrd env send market assetId seller amount now adjustedAt = (market', .ok result) →
      (market'.dbs.assetDb.assetTotal assetId = market.dbs.assetDb.assetTotal assetId ↔
        ∀ fill ∈ (sellPlan env market.dbs.dexDb assetId amount now).fills,
          fill.order.owner ≠ seller)) ∧
    ∀ request now adjustedAt adjustedAgainAt market' result,
      swapasset env market request now adjustedAt adjustedAgainAt = (market', .ok result) →
      let sold := sellPlan env market.dbs.dexDb request.fromId request.fromAmount now
      let book := (swapAssetSell env market request now adjustedAt).1.dbs.dexDb
      (market'.dbs.assetDb.assetTotal request.fromId =
            market.dbs.assetDb.assetTotal request.fromId ∧
          market'.dbs.assetDb.assetTotal request.toId = market.dbs.assetDb.assetTotal request.toId ↔
        (∀ fill ∈ sold.fills, fill.order.owner ≠ request.address) ∧
          OwnersHave market.dbs.assetDb request.toId
            (buyPlan env book request.toId sold.received now).fills) := by
  constructor
  · intro assetId seller amount now adjustedAt market' result h
    obtain ⟨sale, s, hchecks, hs, hassetDb, -⟩ := swapstabletogrd_ok h
    obtain ⟨hpos, hlt, hle, hbalance, hbids, hamount⟩ := stableToGrdChecks_ok hchecks
    have hplan : (sellPlan env market.dbs.dexDb assetId amount now).fills = s.fills := by
      rw [hs]
      exact (sellLoop_plan hbids hamount now).2.2.symm
    have hbalanceLe := hnonneg.readBalance_le assetId seller
    have hassetFits := hfits assetId
    have hsale : SaleRound market.dbs.assetDb assetId seller sale.amount s := by
      rw [hs]
      exact sellLoop_sale hpos.le hnonneg (hfits assetId) (by omega)
    obtain ⟨htotal, -⟩ := hsale.total_eq hlt hbalance hle (by omega)
    rw [hassetDb, htotal, hplan, ← fillTotalOf_eq_zero_iff hsale.units_pos seller]
    omega
  · intro request now adjustedAt adjustedAgainAt market' result h
    obtain ⟨market₁, soldAsset, s₂, hsell, hs₂, hassetDb, -, -⟩ := swapasset_ok h
    obtain ⟨sale, info, s₁, hchecks, hs₁, -, hassetDb₁, -, hsoldGrd⟩ := swapAssetSell_ok hsell
    obtain ⟨hne, hpos, hlt, hle, hbalance, hbids, hamount⟩ := swapAssetChecks_ok hchecks
    intro sold book
    have hbook : book = market₁.dbs.dexDb := by
      show (swapAssetSell env market request now adjustedAt).1.dbs.dexDb = _
      rw [hsell]
    have hplanned : sold.fills = s₁.fills ∧ sold.received = soldAsset.grd := by
      obtain ⟨-, hreceived, hfills⟩ := sellLoop_plan hbids hamount now
      rw [hsoldGrd, hs₁, hreceived, hfills]
      exact ⟨rfl, rfl⟩
    have hbuys : (buyPlan env book request.toId sold.received now).fills = s₂.fills := by
      rw [hbook, hplanned.2, hs₂, (SwapLoop.run_eq_plan _ _ _ _).2.2]
      rfl
    rw [hplanned.1, hbuys]
    have hbalanceLe := hnonneg.readBalance_le request.fromId request.address
    have hfromFits := hfits request.fromId
    have hsale : SaleRound market.dbs.assetDb request.fromId request.address sale.amount s₁ := by
      rw [hs₁]
      exact sellLoop_sale hpos.le hnonneg (hfits request.fromId) (by omega)
    obtain ⟨hfromTotal, hnonneg₁⟩ := hsale.total_eq hlt hbalance hle (by omega)
    rw [← hassetDb₁] at hfromTotal hnonneg₁
    -- the first step leaves the asset to be bought as it is
    have htoRead : ∀ x, market₁.dbs.assetDb.readBalance request.toId x =
        market.dbs.assetDb.readBalance request.toId x := by
      intro x
      rw [hassetDb₁, AssetDB.readBalance_writeBalance, if_neg (fun heq => hne heq.1.symm)]
      rw [hs₁]
      exact SwapLoop.run_otherAssets _ _ _ _ sellLoop_move_of_ne (Ne.symm hne) x
    have htoTotal : market₁.dbs.assetDb.assetTotal request.toId =
        market.dbs.assetDb.assetTotal request.toId := AssetDB.assetTotal_congr htoRead
    have htoFits : market₁.dbs.assetDb.assetTotal request.toId < 9223372036854775808 := by
      rw [htoTotal]
      exact hfits request.toId
    have hbuy : BuyRound market₁.dbs.assetDb request.toId s₂ := by
      rw [hs₂]
      exact buyLoop_round hnonneg₁ htoFits
    have hcount : s₂.fills.length ≤ 500 := by
      have hsub := (SwapLoop.run_sublist (buyLoop env.crypto request.toId now) market₁ soldAsset.grd
        (marketOrders env market₁.dbs.dexDb request.toId .sell)).length_le
      rw [← hs₂, List.length_map] at hsub
      exact hsub.trans (length_marketOrders env market₁.dbs.dexDb request.toId .sell)
    have hbought := hbuy.total_iff hcount htoFits request.address
    rw [← hassetDb, htoTotal] at hbought
    -- the second step leaves the asset that was sold as it is
    have hfromTotal' : market'.dbs.assetDb.assetTotal request.fromId =
        market₁.dbs.assetDb.assetTotal request.fromId := by
      refine AssetDB.assetTotal_congr fun x => ?_
      rw [hassetDb, AssetDB.readBalance_writeBalance, if_neg (fun heq => hne heq.1)]
      rw [hs₂]
      exact SwapLoop.run_otherAssets _ _ _ _ buyLoop_move_of_ne hne x
    have howners : OwnersHave market₁.dbs.assetDb request.toId s₂.fills ↔
        OwnersHave market.dbs.assetDb request.toId s₂.fills := by
      simp only [OwnersHave, htoRead]
    rw [hbought, howners, hfromTotal', hfromTotal, ← fillTotalOf_eq_zero_iff hsale.units_pos request.address]
    constructor
    · rintro ⟨hsame, hhave⟩
      exact ⟨by omega, hhave⟩
    · rintro ⟨hzero, hhave⟩
      exact ⟨by omega, hhave⟩

def samplePair (bidOwner : Bytes) (stock : Int) : Market where
  dbs.assetDb := (sampleAssetDB.writeAsset ⟨8, "USD", "stablecoin", stock, sampleBuyer⟩).writeBalance
    8 sampleBuyer stock
  dbs.dexDb := ((((⟨.empty, .empty, .empty, .empty⟩ : DexDB).writeMarketMaker
    ⟨7, sampleMaker, 50, 1, 1, 1, true, 900⟩).writeMarketMaker
    ⟨8, sampleMaker, 50, 1, 1, 1, true, 900⟩).writeOrder
    ⟨3, 7, .buy, 200000000, 0, 30, bidOwner, 900, .OPEN⟩).writeOrder
    ⟨4, 8, .sell, 200000000, 0, 30, sampleBuyer, 900, .OPEN⟩
  trades := .empty

def samplePairRequest : SwapAssetRequest := ⟨7, 8, 2, sampleSeller⟩

theorem swaps_conserve_sample :
    (∃ market' result,
      swapstabletogrd sampleSwapEnv (fun _ _ => .ok "txid") (samplePair sampleBuyer 10) 7 sampleSeller
          2 1000 1000 = (market', .ok result) ∧
        market'.dbs.assetDb.readBalance 7 sampleBuyer = 2 ∧
        market'.dbs.assetDb.assetTotal 7 = (samplePair sampleBuyer 10).dbs.assetDb.assetTotal 7) ∧
    ∃ market' result,
      swapasset sampleSwapEnv (samplePair sampleBuyer 10) samplePairRequest 1000 1000 1000 =
          (market', .ok result) ∧
        market'.dbs.assetDb.readBalance 8 sampleSeller = 2 ∧
        market'.dbs.assetDb.assetTotal 7 = (samplePair sampleBuyer 10).dbs.assetDb.assetTotal 7 ∧
        market'.dbs.assetDb.assetTotal 8 = (samplePair sampleBuyer 10).dbs.assetDb.assetTotal 8 := by
  have hcalls : (Returns (swapstabletogrd sampleSwapEnv (fun _ _ => .ok "txid")
        (samplePair sampleBuyer 10) 7 sampleSeller 2 1000 1000).2 (fun _ => True) ∧
      (swapstabletogrd sampleSwapEnv (fun _ _ => .ok "txid") (samplePair sampleBuyer 10) 7
        sampleSeller 2 1000 1000).1.dbs.assetDb.readBalance 7 sampleBuyer = 2) ∧
      Returns (swapasset sampleSwapEnv (samplePair sampleBuyer 10) samplePairRequest 1000 1000
        1000).2 (fun _ => True) ∧
      (swapasset sampleSwapEnv (samplePair sampleBuyer 10) samplePairRequest 1000 1000
        1000).1.dbs.assetDb.readBalance 8 sampleSeller = 2 := by
    decide +kernel
  have hplans : sellPlan sampleSwapEnv (samplePair sampleBuyer 10).dbs.dexDb 7 2 1000 =
        ⟨0, 60, [⟨⟨3, 7, .buy, 200000000, 0, 30, sampleBuyer, 900, .OPEN⟩, 200000000, 2, 60⟩]⟩ ∧
      (buyPlan sampleSwapEnv (swapAssetSell sampleSwapEnv (samplePair sampleBuyer 10) samplePairRequest
        1000 1000).1.dbs.dexDb 8 60 1000).fills =
          [⟨⟨4, 8, .sell, 200000000, 0, 30, sampleBuyer, 900, .OPEN⟩, 200000000, 2, 60⟩] := by
    decide +kernel
  have hledger : (∀ e ∈ (samplePair sampleBuyer 10).dbs.assetDb.balances.entries, 0 ≤ e.2) ∧
      (samplePair sampleBuyer 10).dbs.assetDb.balances.entries.map (fun e => (e.1.1, e.2)) =
        [(7, 10), (8, 10)] ∧
      (samplePair sampleBuyer 10).dbs.assetDb.readBalance 8 sampleBuyer = 10 := by
    decide +kernel
  obtain ⟨hnonneg, hentries, hstock⟩ := hledger
  have hfits : ∀ a, (samplePair sampleBuyer 10).dbs.assetDb.assetTotal a < 9223372036854775808 := by
    intro a
    have hsum : (samplePair sampleBuyer 10).dbs.assetDb.assetTotal a =
        (((samplePair sampleBuyer 10).dbs.assetDb.balances.entries.map fun e => (e.1.1, e.2)).map
          fun e => if e.1 = a then e.2 else 0).sum := by
      rw [List.map_map]
      rfl
    rw [hsum, hentries]
    simp only [List.map_cons, List.map_nil, List.sum_cons, List.sum_nil]
    split_ifs <;> omega
  obtain ⟨hsale, hswap⟩ := swaps_conserve_iff sampleSwapEnv (fun _ _ => .ok "txid")
    (samplePair sampleBuyer 10) hnonneg hfits
  obtain ⟨⟨⟨sold, hsold, -⟩, hbuyer⟩, ⟨swapped, hswapped, -⟩, hseller⟩ := hcalls
  have hother : ∀ fill ∈ (sellPlan sampleSwapEnv (samplePair sampleBuyer 10).dbs.dexDb 7 2 1000).fills,
      fill.order.owner ≠ sampleSeller := by
    rw [hplans.1]
    decide +kernel
  refine ⟨⟨_, sold, Prod.ext rfl hsold, hbuyer, ?_⟩, ⟨_, swapped, Prod.ext rfl hswapped, hseller, ?_⟩⟩
  · exact (hsale 7 sampleSeller 2 1000 1000 _ sold (Prod.ext rfl hsold)).mpr hother
  · refine (hswap samplePairRequest 1000 1000 1000 _ swapped (Prod.ext rfl hswapped)).mpr
      ⟨hother, ?_⟩
    intro owner
    have hfrom : sellPlan sampleSwapEnv (samplePair sampleBuyer 10).dbs.dexDb samplePairRequest.fromId
        samplePairRequest.fromAmount 1000 = _ := hplans.1
    rw [hfrom]
    show fillTotalOf Fill.units (buyPlan sampleSwapEnv (swapAssetSell sampleSwapEnv
      (samplePair sampleBuyer 10) samplePairRequest 1000 1000).1.dbs.dexDb 8 60 1000).fills owner ≤ _
    rw [hplans.2]
    by_cases howner : sampleBuyer = owner
    · subst howner
      have hto : samplePairRequest.toId = 8 := rfl
      rw [hto, hstock]
      simp [fillTotalOf]
    · have h0 := AssetDB.Nonneg.readBalance hnonneg samplePairRequest.toId owner
      simpa [fillTotalOf, howner] using h0

/-- A sale to the seller's own bid destroys two units, and an ask of an owner without units creates
    two. -/
theorem swaps_createAndDestroy :
    (samplePair sampleSeller 0).dbs.assetDb.assetTotal 7 = 10 ∧
    (samplePair sampleSeller 0).dbs.assetDb.assetTotal 8 = 0 ∧
    (swapstabletogrd sampleSwapEnv (fun _ _ => .ok "txid") (samplePair sampleSeller 0) 7 sampleSeller
      2 1000 1000).2.isOk = true ∧
    (swapstabletogrd sampleSwapEnv (fun _ _ => .ok "txid") (samplePair sampleSeller 0) 7 sampleSeller
      2 1000 1000).1.dbs.assetDb.assetTotal 7 = 8 ∧
    (swapasset sampleSwapEnv (samplePair sampleSeller 0) samplePairRequest 1000 1000 1000).2.isOk =
      true ∧
    (swapasset sampleSwapEnv (samplePair sampleSeller 0) samplePairRequest 1000 1000
      1000).1.dbs.assetDb.assetTotal 7 = 8 ∧
    (swapasset sampleSwapEnv (samplePair sampleSeller 0) samplePairRequest 1000 1000
      1000).1.dbs.assetDb.assetTotal 8 = 2 := by
  decide +kernel

def AllOrNothing {α : Type} (market : Market) : Market × RpcResult α → Prop
  | (market', .error _) => market' = market
  | (_, .ok _) => True

section Errors

variable {env : DexEnv} {market : Market} {assetId : Uint256} {seller : Bytes}

theorem sellLoop_unchanged {now : Int} {bids : List Order} (h0 : 0 ≤ amount)
    (hamount : amount < 9223372036854775808)
    (h : wrap64 (amount - ((sellLoop env.crypto assetId now).run market amount bids).remaining) ≤ 0) :
    ((sellLoop env.crypto assetId now).run market amount bids).market = market := by
  have hsold : SoldRound amount ((sellLoop env.crypto assetId now).run market amount bids) :=
    sellLoop_sold h0 hamount
  rw [hsold.sold_eq hamount] at h
  exact SwapLoop.run_unchanged (hsold.fills_eq_nil h)

variable (assetId seller) in
theorem ne_of_sold {market' : Market} {sold : Int} (hpos : 0 < sold)
    (hlt : sold < 9223372036854775808)
    (hdb : market'.dbs.assetDb.readBalance assetId seller =
      wrap64 (market.dbs.assetDb.readBalance assetId seller - sold)) : market' ≠ market := by
  rintro rfl
  rw [sub_eq_add_neg] at hdb
  exact wrap64_add_ne (by omega) (by omega) (by omega) hdb.symm

theorem swapstabletogrd_allOrNothing_iff (env : DexEnv) (send : SendToAddress) (market : Market)
    (assetId : Uint256) (seller : Bytes) (amount now adjustedAt : Int) :
    let plan := sellPlan env market.dbs.dexDb assetId amount now
    AllOrNothing market (swapstabletogrd env send market assetId seller amount now adjustedAt) ↔
      (∃ err, stableToGrdChecks env market.dbs assetId seller amount = .error err) ∨
        wrap64 (amount - plan.remaining) ≤ 0 ∨ plan.received ≤ 0 ∨
        ∃ txid, send seller plan.received = .ok txid := by
  intro plan
  unfold swapstabletogrd
  cases hchecks : stableToGrdChecks env market.dbs assetId seller amount with
  | error err => exact ⟨fun _ => .inl ⟨err, rfl⟩, fun _ => rfl⟩
  | ok sale =>
    obtain ⟨hpos, hlt, hle, hbalance, hbids, hamount⟩ := stableToGrdChecks_ok hchecks
    obtain ⟨hremaining, hreceived, -⟩ := sellLoop_plan hbids hamount now
    have hsoldEq : wrap64 (amount - plan.remaining) = wrap64 (sale.amount -
        ((sellLoop env.crypto assetId now).run market sale.amount sale.bids).remaining) := by
      rw [hremaining, hamount]
    rw [hsoldEq, show plan.received = _ from hreceived.symm]
    simp only
    split_ifs with hsold
    · exact ⟨fun _ => .inr (.inl hsold), fun _ => sellLoop_unchanged hpos.le hlt hsold⟩
    · by_cases hgrd : ((sellLoop env.crypto assetId now).run market sale.amount
          sale.bids).received > 0
      · cases hanswer : send seller ((sellLoop env.crypto assetId now).run market sale.amount
            sale.bids).received with
        | ok txid =>
          rw [sendGrd, if_pos hgrd, hanswer]
          exact ⟨fun _ => .inr (.inr (.inr ⟨txid, rfl⟩)), fun _ => trivial⟩
        | error message =>
          rw [sendGrd, if_pos hgrd, hanswer]
          constructor
          · intro hsame
            refine absurd hsame (ne_of_sold assetId seller (not_le.mp hsold) (wrap64_range _).2 ?_)
            show AssetDB.readBalance (AssetDB.writeBalance _ assetId seller _) assetId seller = _
            rw [AssetDB.readBalance_writeBalance, if_pos ⟨rfl, rfl⟩, hbalance]
          · rintro (⟨err, herr⟩ | hnone | hno | ⟨txid, hsent⟩)
            · cases herr
            · exact absurd hnone hsold
            · exact absurd hgrd (not_lt.mpr hno)
            · cases hsent
      · rw [sendGrd, if_neg hgrd]
        exact ⟨fun _ => .inr (.inr (.inl (not_lt.mp hgrd))), fun _ => trivial⟩

theorem swapAssetSell_unchanged_iff (env : DexEnv) (market : Market) (request : SwapAssetRequest)
    (now adjustedAt : Int) :
    (∀ market₁ err, swapAssetSell env market request now adjustedAt = (market₁, .error err) →
      market₁ = market) ∧
    ∀ market₁ soldAsset, swapAssetSell env market request now adjustedAt = (market₁, .ok soldAsset) →
      request.fromId ≠ request.toId ∧
        ∀ market', market'.dbs.assetDb.readBalance request.fromId request.address =
          market₁.dbs.assetDb.readBalance request.fromId request.address → market' ≠ market := by
  constructor
  · intro market₁ err h
    unfold swapAssetSell at h
    cases hchecks : swapAssetChecks env market.dbs request with
    | error err' =>
      rw [hchecks] at h
      exact (Prod.mk.inj h).1.symm
    | ok r =>
      obtain ⟨sale, info⟩ := r
      obtain ⟨-, hpos, hlt, -⟩ := swapAssetChecks_ok hchecks
      simp only [hchecks] at h
      split_ifs at h with hsold
      · exact (Prod.mk.inj h).1.symm.trans (sellLoop_unchanged hpos.le hlt hsold)
      · simp at h
  · intro market₁ soldAsset h
    obtain ⟨sale, info, s, hchecks, hs, hsold, hassetDb, -⟩ := swapAssetSell_ok h
    obtain ⟨hne, -, -, -, hbalance, -⟩ := swapAssetChecks_ok hchecks
    refine ⟨hne, fun market' hsame => ?_⟩
    refine ne_of_sold request.fromId request.address hsold (wrap64_range _).2 ?_
    rw [hsame, hassetDb, AssetDB.readBalance_writeBalance, if_pos ⟨rfl, rfl⟩, hbalance]

theorem swapasset_allOrNothing_iff (env : DexEnv) (market : Market) (request : SwapAssetRequest)
    (now adjustedAt adjustedAgainAt : Int) :
    let sold := sellPlan env market.dbs.dexDb request.fromId request.fromAmount now
    let book := (swapAssetSell env market request now adjustedAt).1.dbs.dexDb
    AllOrNothing market (swapasset env market request now adjustedAt adjustedAgainAt) ↔
      (∃ err, swapAssetChecks env market.dbs request = .error err) ∨
        wrap64 (request.fromAmount - sold.remaining) ≤ 0 ∨
        0 < (buyPlan env book request.toId sold.received now).received := by
  intro sold book
  obtain ⟨hfailed, hwritten⟩ := swapAssetSell_unchanged_iff env market request now adjustedAt
  cases hsell : swapAssetSell env market request now adjustedAt with
  | mk market₁ answer =>
    cases answer with
    | error err =>
      unfold swapasset
      rw [hsell]
      refine ⟨fun _ => ?_, fun _ => hfailed market₁ err hsell⟩
      unfold swapAssetSell at hsell
      cases hchecks : swapAssetChecks env market.dbs request with
      | error err' => exact .inl ⟨err', rfl⟩
      | ok r =>
        obtain ⟨sale, info⟩ := r
        obtain ⟨-, -, -, -, -, hbids, hamount⟩ := swapAssetChecks_ok hchecks
        simp only [hchecks] at hsell
        split_ifs at hsell with hnone
        · rw [(sellLoop_plan hbids hamount now).1, hamount] at hnone
          exact .inr (.inl hnone)
        · simp at hsell
    | ok soldAsset =>
      obtain ⟨hne, hchanged⟩ := hwritten market₁ soldAsset hsell
      obtain ⟨sale, info, s, hchecks, hs, hsold, -, -, hgrd⟩ := swapAssetSell_ok hsell
      obtain ⟨-, -, -, -, -, hbids, hamount⟩ := swapAssetChecks_ok hchecks
      obtain ⟨hremaining, hreceived, -⟩ := sellLoop_plan hbids hamount now
      have hsold' : ¬ wrap64 (request.fromAmount - sold.remaining) ≤ 0 := by
        rw [hs, hremaining, hamount] at hsold
        exact not_le.mpr hsold
      have hgrd' : sold.received = soldAsset.grd := by
        rw [hgrd, hs, hreceived]
      have hbook : book = market₁.dbs.dexDb := by
        show (swapAssetSell env market request now adjustedAt).1.dbs.dexDb = _
        rw [hsell]
      -- the checks are passed and something is sold, so all depends on what is bought
      have hrest : ((∃ err, swapAssetChecks env market.dbs request = .error err) ∨
          wrap64 (request.fromAmount - sold.remaining) ≤ 0 ∨
          0 < (buyPlan env book request.toId sold.received now).received) ↔
            0 < ((buyLoop env.crypto request.toId now).run market₁ soldAsset.grd
              (marketOrders env market₁.dbs.dexDb request.toId .sell)).received := by
        rw [hbook, hgrd', (SwapLoop.run_eq_plan _ _ _ _).2.1, hchecks]
        simp [hsold', buyPlan]
      rw [hrest]
      unfold swapasset
      rw [hsell]
      simp only
      split_ifs with hasks hnone
      · refine ⟨fun hsame => absurd hsame (hchanged market₁ rfl), fun hpos => ?_⟩
        rw [List.isEmpty_iff.mp hasks] at hpos
        cases hpos
      · refine ⟨fun hsame => absurd hsame (hchanged _ ?_), fun hpos => absurd hpos (not_lt.mpr hnone)⟩
        exact SwapLoop.run_otherAssets _ _ _ _ buyLoop_move_of_ne hne request.address
      · exact ⟨fun _ => not_le.mp hnone, fun _ => trivial⟩

end Errors

/-- `swapstabletogrd` is all or nothing just where its checks fail, nothing can be sold, there is no GRD
    to be sent or the wallet sends it; and `swapasset` just where its checks fail, nothing can be sold or
    something can be bought with the GRD of the sale. -/
theorem swaps_allOrNothing_iff (env : DexEnv) (send : SendToAddress) (market : Market) :
    (∀ assetId seller amount now adjustedAt,
      let plan := sellPlan env market.dbs.dexDb assetId amount now
      AllOrNothing market (swapstabletogrd env send market assetId seller amount now adjustedAt) ↔
        (∃ err, stableToGrdChecks env market.dbs assetId seller amount = .error err) ∨
          wrap64 (amount - plan.remaining) ≤ 0 ∨ plan.received ≤ 0 ∨
          ∃ txid, send seller plan.received = .ok txid) ∧
    ∀ request now adjustedAt adjustedAgainAt,
      let sold := sellPlan env market.dbs.dexDb request.fromId request.fromAmount now
      let book := (swapAssetSell env market request now adjustedAt).1.dbs.dexDb
      AllOrNothing market (swapasset env market request now adjustedAt adjustedAgainAt) ↔
        (∃ err, swapAssetChecks env market.dbs request = .error err) ∨
          wrap64 (request.fromAmount - sold.remaining) ≤ 0 ∨
          0 < (buyPlan env book request.toId sold.received now).received :=
  ⟨swapstabletogrd_allOrNothing_iff env send market, swapasset_allOrNothing_iff env market⟩

def sampleOneSided : Market :=
  (samplePair sampleBuyer 10).writeOrder ⟨4, 8, .sell, 200000000, 0, 30, sampleBuyer, 900, .CANCELLED⟩

/-- A wallet without funds leaves the sale behind; so does `swapasset` where there is no ask. -/
theorem swaps_failHalfway :
    ¬ AllOrNothing (samplePair sampleBuyer 10) (swapstabletogrd sampleSwapEnv
      (fun _ _ => .error "Insufficient funds") (samplePair sampleBuyer 10) 7 sampleSeller 2 1000
        1000) ∧
    ¬ AllOrNothing sampleOneSided
      (swapasset sampleSwapEnv sampleOneSided samplePairRequest 1000 1000 1000) := by
  have hcalls : ((swapstabletogrd sampleSwapEnv (fun _ _ => .error "Insufficient funds")
        (samplePair sampleBuyer 10) 7 sampleSeller 2 1000 1000).2 =
          .error ⟨.walletError, "Gagal kirim GRD: Insufficient funds"⟩ ∧
      (swapstabletogrd sampleSwapEnv (fun _ _ => .error "Insufficient funds")
        (samplePair sampleBuyer 10) 7 sampleSeller 2 1000 1000).1.dbs.assetDb.readBalance 7
          sampleBuyer = 2) ∧
      (swapasset sampleSwapEnv sampleOneSided samplePairRequest 1000 1000 1000).2 =
        .error ⟨.invalidParameter, "Tidak ada ASK order untuk USD"⟩ ∧
      (swapasset sampleSwapEnv sampleOneSided samplePairRequest 1000 1000
        1000).1.dbs.assetDb.readBalance 7 sampleBuyer = 2 := by
    decide +kernel
  have hbefore : (samplePair sampleBuyer 10).dbs.assetDb.readBalance 7 sampleBuyer = 0 ∧
      sampleOneSided.dbs.assetDb.readBalance 7 sampleBuyer = 0 := by
    decide +kernel
  obtain ⟨⟨hsale, hsold⟩, hswap, hswapped⟩ := hcalls
  constructor
  · cases hcall : swapstabletogrd sampleSwapEnv (fun _ _ => .error "Insufficient funds")
        (samplePair sampleBuyer 10) 7 sampleSeller 2 1000 1000 with
    | mk market' answer =>
      rw [hcall] at hsale hsold
      obtain rfl : answer = _ := hsale
      rintro rfl
      exact absurd (hbefore.1.symm.trans hsold) (by decide)
  · cases hcall : swapasset sampleSwapEnv sampleOneSided samplePairRequest 1000 1000 1000 with
    | mk market' answer =>
      rw [hcall] at hswap hswapped
      obtain rfl : answer = _ := hswap
      rintro rfl
      exact absurd (hbefore.2.symm.trans hswapped) (by decide)

end GarudaChain
