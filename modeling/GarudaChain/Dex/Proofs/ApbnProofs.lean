import GarudaChain.Dex.Apbn
import Mathlib.Tactic.Linarith

/-!
# The treasury pays one address

`mm_amounts` has the right share for every address, and its sum is the whole amount; but all of it goes
to the last address of the map.
-/

namespace GarudaChain.Apbn

open Int64Lib

/-- All active market makers have one address. -/
def OneAddress (mms : List MarketMaker) : Prop :=
  ∀ mm ∈ mms, ∀ mm' ∈ mms, mm.active = true → mm'.active = true → mm.mmAddress = mm'.mmAddress

section Shares

variable {perMm : Int} {mms : List MarketMaker} {amounts : Store Bytes Int}

theorem activeCount_append (mm : MarketMaker) :
    activeCount (mms ++ [mm]) = activeCount mms + if mm.active then 1 else 0 := by
  rw [activeCount, List.countP_append, List.countP_singleton]
  rfl

theorem pairsOf_append (mm : MarketMaker) (address : Bytes) :
    pairsOf (mms ++ [mm]) address =
      pairsOf mms address + if mm.active ∧ mm.mmAddress = address then 1 else 0 := by
  rw [pairsOf, List.countP_append, List.countP_singleton]
  simp [pairsOf]

theorem pairsOf_le (mms : List MarketMaker) (address : Bytes) :
    pairsOf mms address ≤ activeCount mms :=
  List.countP_mono_left fun _ _ h => ((Bool.and_eq_true _ _).mp h).1

theorem pairsOf_pos_iff {address : Bytes} :
    0 < pairsOf mms address ↔ ∃ mm ∈ mms, mm.active = true ∧ mm.mmAddress = address := by
  rw [pairsOf, List.countP_pos_iff]
  simp

theorem OneAddress.pairsOf_eq (h : OneAddress mms) {mm : MarketMaker} (hmem : mm ∈ mms)
    (hactive : mm.active = true) : pairsOf mms mm.mmAddress = activeCount mms := by
  refine List.countP_congr fun mm' hmem' => ?_
  rw [Bool.and_eq_true, decide_eq_true_eq, and_iff_left_iff_imp]
  exact fun hactive' => h mm' hmem' mm hmem hactive' hactive

structure Shares (perMm : Int) (mms : List MarketMaker) (amounts : Store Bytes Int) : Prop where
  read_eq : ∀ address, amounts.read address =
    if 0 < pairsOf mms address then some (perMm * pairsOf mms address) else none
  total_eq : amounts.total (fun _ amount => amount) = perMm * activeCount mms

theorem Shares.getD_read (h : Shares perMm mms amounts) (address : Bytes) :
    (amounts.read address).getD 0 = perMm * pairsOf mms address := by
  rw [h.read_eq]
  split_ifs with hpos
  · rfl
  · rw [Nat.eq_zero_of_not_pos hpos, Nat.cast_zero, mul_zero, Option.getD_none]

theorem Shares.addShare (h : Shares perMm mms amounts) (hpos : 0 ≤ perMm) {mm : MarketMaker}
    (hfits : perMm * activeCount (mms ++ [mm]) < 9223372036854775808) :
    Shares perMm (mms ++ [mm]) (addShare perMm amounts mm) := by
  by_cases hactive : mm.active = true
  · have hpairs : pairsOf (mms ++ [mm]) mm.mmAddress = pairsOf mms mm.mmAddress + 1 := by
      rw [pairsOf_append, if_pos ⟨hactive, rfl⟩]
    have hsum : wrap64 ((amounts.read mm.mmAddress).getD 0 + perMm) =
        perMm * pairsOf (mms ++ [mm]) mm.mmAddress := by
      have hle : perMm * pairsOf (mms ++ [mm]) mm.mmAddress ≤ perMm * activeCount (mms ++ [mm]) :=
        mul_le_mul_of_nonneg_left (by exact_mod_cast pairsOf_le _ _) hpos
      have hnonneg : 0 ≤ perMm * pairsOf (mms ++ [mm]) mm.mmAddress :=
        mul_nonneg hpos (Int.natCast_nonneg _)
      have heq : (amounts.read mm.mmAddress).getD 0 + perMm =
          perMm * pairsOf (mms ++ [mm]) mm.mmAddress := by
        rw [h.getD_read, hpairs]
        push_cast
        ring
      rw [heq, wrap64_of_range (by omega) (by omega)]
    rw [Apbn.addShare, if_pos hactive, hsum]
    constructor
    · intro address
      by_cases haddress : address = mm.mmAddress
      · subst haddress
        rw [Store.read_write_self, if_pos (by omega)]
      · have hother : pairsOf (mms ++ [mm]) address = pairsOf mms address := by
          rw [pairsOf_append, if_neg (fun hboth => haddress hboth.2.symm), add_zero]
        rw [Store.read_write_of_ne _ _ haddress, h.read_eq, hother]
    · have hshare : amounts.share (fun _ amount => amount) mm.mmAddress =
          perMm * pairsOf mms mm.mmAddress := by
        rw [← h.getD_read]
        unfold Store.share
        cases amounts.read mm.mmAddress <;> rfl
      rw [Store.total_write, hshare, h.total_eq, hpairs, activeCount_append, if_pos hactive]
      push_cast
      ring
  · have hcount : activeCount (mms ++ [mm]) = activeCount mms := by
      rw [activeCount_append, if_neg hactive, add_zero]
    rw [Apbn.addShare, if_neg hactive]
    refine ⟨fun address => ?_, by rw [hcount, h.total_eq]⟩
    have hpairs : pairsOf (mms ++ [mm]) address = pairsOf mms address := by
      rw [pairsOf_append, if_neg (fun hboth => hactive hboth.1), add_zero]
    rw [hpairs, h.read_eq]

theorem mmAmounts_shares (hpos : 0 ≤ perMm) (mms : List MarketMaker)
    (hfits : perMm * activeCount mms < 9223372036854775808) :
    Shares perMm mms (mmAmounts perMm mms) := by
  induction mms using List.reverseRecOn with
  | nil => exact ⟨fun _ => rfl, by simp [mmAmounts, activeCount]⟩
  | append_singleton mms mm ih =>
    have hle : perMm * activeCount mms ≤ perMm * activeCount (mms ++ [mm]) := by
      refine mul_le_mul_of_nonneg_left ?_ hpos
      rw [activeCount_append]
      push_cast
      split_ifs <;> omega
    rw [mmAmounts, List.foldl_append]
    exact (ih (by omega)).addShare hpos hfits

theorem foldl_aggregate (es : List (Bytes × Int)) (address : Bytes) (sum : Int)
    (hnonneg : ∀ e ∈ es, 0 ≤ e.2) (hsum : 0 ≤ sum)
    (hfits : sum + (es.map Prod.snd).sum < 9223372036854775808) :
    (es.foldl (fun sofar e => (e.1, wrap64 (sofar.2 + e.2))) (address, sum)).2 =
        sum + (es.map Prod.snd).sum ∧
      (es ≠ [] → ∃ e ∈ es,
        (es.foldl (fun sofar e => (e.1, wrap64 (sofar.2 + e.2))) (address, sum)).1 = e.1) := by
  induction es generalizing address sum with
  | nil => exact ⟨by simp, fun h => absurd rfl h⟩
  | cons e es ih =>
    obtain ⟨he, hes⟩ := List.forall_mem_cons.mp hnonneg
    have hrest : 0 ≤ (es.map Prod.snd).sum := by
      refine List.sum_nonneg ?_
      rw [List.forall_mem_map]
      exact hes
    rw [List.map_cons, List.sum_cons] at hfits ⊢
    have hwrap : wrap64 (sum + e.2) = sum + e.2 := wrap64_of_range (by omega) (by omega)
    obtain ⟨htotal, hlast⟩ := ih e.1 (sum + e.2) hes (by omega) (by omega)
    rw [List.foldl_cons, hwrap]
    refine ⟨by omega, fun _ => ?_⟩
    by_cases hnil : es = []
    · subst hnil
      exact ⟨e, List.mem_cons_self, rfl⟩
    · obtain ⟨e', hmem, heq⟩ := hlast hnil
      exact ⟨e', List.mem_cons_of_mem _ hmem, heq⟩

theorem Shares.aggregate (h : Shares perMm mms amounts) (hpos : 0 ≤ perMm)
    (hfits : perMm * activeCount mms < 9223372036854775808) (hactive : 0 < activeCount mms) :
    ∃ mm ∈ mms, mm.active = true ∧ aggregate amounts = (mm.mmAddress, perMm * activeCount mms) := by
  have hentry : ∀ e ∈ amounts.entries, 0 < pairsOf mms e.1 ∧ e.2 = perMm * pairsOf mms e.1 := by
    rintro ⟨address, amount⟩ hmem
    have hread := (amounts.read_eq_some_iff).mpr hmem
    rw [h.read_eq] at hread
    split_ifs at hread with hknown
    exact ⟨hknown, (Option.some.inj hread).symm⟩
  have hne : amounts.entries ≠ [] := by
    obtain ⟨mm, hmem, hmm⟩ := List.countP_pos_iff.mp hactive
    have hread := h.read_eq mm.mmAddress
    rw [if_pos (pairsOf_pos_iff.mpr ⟨mm, hmem, hmm, rfl⟩)] at hread
    exact List.ne_nil_of_mem ((amounts.read_eq_some_iff).mp hread)
  have htotal : (amounts.entries.map Prod.snd).sum = perMm * activeCount mms := h.total_eq
  obtain ⟨hsum, hlast⟩ := foldl_aggregate amounts.entries [] 0
    (fun e he => (hentry e he).2 ▸ mul_nonneg hpos (Int.natCast_nonneg _)) le_rfl
    (by rw [zero_add, htotal]; exact hfits)
  obtain ⟨e, he, haddress⟩ := hlast hne
  obtain ⟨mm, hmem, hmm, hmmAddress⟩ := pairsOf_pos_iff.mp (hentry e he).1
  refine ⟨mm, hmem, hmm, Prod.ext (haddress.trans hmmAddress.symm) ?_⟩
  rw [Apbn.aggregate, hsum, zero_add, htotal]

end Shares

section Call

variable {listunspent : Option (List Nat)} {sendtoaddress : SendToAddress} {db : DexDB}

/-- The total a call starts from. -/
def totalOf (listunspent : Option (List Nat)) : Int := totalSat (listunspent.getD [])

theorem totalSat_lt (utxos : List Nat) : totalSat utxos < 9223372036854775808 := by
  rcases List.eq_nil_or_concat utxos with rfl | ⟨rest, amount, rfl⟩
  · decide
  · rw [totalSat, List.concat_eq_append, List.foldl_append]
    exact (wrap64_range _).2

theorem autoForwardToMarketMakers_success
    (h : (autoForwardToMarketMakers listunspent sendtoaddress db).1 ≠ 0) :
    1 ≤ shareOf (listMarketMakers db 200) (totalOf listunspent) ∧
      shareOf (listMarketMakers db 200) (totalOf listunspent) *
        activeCount (listMarketMakers db 200) ≤ totalOf listunspent - feeReserve ∧
      ∃ mm ∈ listMarketMakers db 200, mm.active = true ∧
        (autoForwardToMarketMakers listunspent sendtoaddress db).2 =
          [(mm.mmAddress, amountSat (shareOf (listMarketMakers db 200) (totalOf listunspent) *
            activeCount (listMarketMakers db 200)))] := by
  have hlt := totalSat_lt (listunspent.getD [])
  unfold autoForwardToMarketMakers at h ⊢
  dsimp only at h ⊢
  by_cases hutxos : (listunspent.getD []).isEmpty = true
  · rw [if_pos hutxos] at h
    exact absurd rfl h
  rw [if_neg hutxos] at h ⊢
  by_cases hmin : totalSat (listunspent.getD []) < minForwardAmount
  · rw [if_pos hmin] at h
    exact absurd rfl h
  rw [if_neg hmin] at h ⊢
  generalize hmms : listMarketMakers db 200 = mms at h ⊢
  by_cases hempty : mms.isEmpty = true
  · rw [if_pos hempty] at h
    exact absurd rfl h
  rw [if_neg hempty] at h ⊢
  by_cases hcount : activeCount mms = 0
  · rw [if_pos hcount] at h
    exact absurd rfl h
  rw [if_neg hcount] at h ⊢
  by_cases hdist : totalSat (listunspent.getD []) - feeReserve ≤ 0
  · rw [if_pos hdist] at h
    exact absurd rfl h
  rw [if_neg hdist] at h ⊢
  have hshare : (totalSat (listunspent.getD []) - feeReserve).tdiv (activeCount mms) =
      shareOf mms (totalOf listunspent) :=
    Int.tdiv_eq_ediv_of_nonneg (by omega)
  rw [hshare] at h ⊢
  by_cases hone : shareOf mms (totalOf listunspent) < 1
  · rw [if_pos hone] at h
    exact absurd rfl h
  rw [if_neg hone] at h ⊢
  have hle : shareOf mms (totalOf listunspent) * activeCount mms ≤
      totalOf listunspent - feeReserve :=
    Int.ediv_mul_le _ (by exact_mod_cast hcount)
  have hfits : shareOf mms (totalOf listunspent) * activeCount mms < 9223372036854775808 := by
    have hreserve : feeReserve = 200 := rfl
    have htotal : totalOf listunspent < 9223372036854775808 := hlt
    omega
  obtain ⟨mm, hmem, hactive, haggregate⟩ := (mmAmounts_shares (by omega) mms hfits).aggregate
    (by omega) hfits (Nat.pos_of_ne_zero hcount)
  rw [haggregate] at h ⊢
  refine ⟨by omega, hle, mm, hmem, hactive, ?_⟩
  dsimp only at h ⊢
  cases hsend : sendtoaddress mm.mmAddress
      (amountSat (shareOf mms (totalOf listunspent) * activeCount mms)) with
  | error message =>
    rw [hsend] at h
    exact absurd rfl h
  | ok txid => rfl

theorem paidTo_singleton (address address' : Bytes) (amount : Int) :
    paidTo [(address, amount)] address' = if address = address' then amount else 0 := by
  simp [paidTo]

theorem amountSat_eq {amount : Int} (hpos : 0 ≤ amount) (hlt : amount < 6710886400000000) :
    amountSat amount = amount := by
  have hnat : amount.toNat < 2 ^ 26 * 10 ^ 8 := by
    norm_num
    omega
  rw [amountSat, Double.fixed8_div_ofNat hnat, Int.toNat_of_nonneg hpos]

/-- A successful call shares the treasury out among the market makers it has listed exactly if their
    active ones have one address and the amount is the same after its way through a `double`, as it is
    below 67108864 GRD. -/
theorem autoForwardToMarketMakers_sharedOut_iff (listunspent : Option (List Nat))
    (sendtoaddress : SendToAddress) (db : DexDB)
    (h : (autoForwardToMarketMakers listunspent sendtoaddress db).1 ≠ 0) :
    (SharedOut (listMarketMakers db 200) (totalOf listunspent)
        (autoForwardToMarketMakers listunspent sendtoaddress db).2 ↔
      OneAddress (listMarketMakers db 200) ∧
        amountSat (shareOf (listMarketMakers db 200) (totalOf listunspent) *
            activeCount (listMarketMakers db 200)) =
          shareOf (listMarketMakers db 200) (totalOf listunspent) *
            activeCount (listMarketMakers db 200)) ∧
    (totalOf listunspent < 6710886400000000 →
      amountSat (shareOf (listMarketMakers db 200) (totalOf listunspent) *
          activeCount (listMarketMakers db 200)) =
        shareOf (listMarketMakers db 200) (totalOf listunspent) *
          activeCount (listMarketMakers db 200)) := by
  obtain ⟨hone, hle, payee, hpayee, hactive, hpaid⟩ := autoForwardToMarketMakers_success h
  rw [hpaid]
  unfold SharedOut
  generalize listMarketMakers db 200 = mms at *
  generalize totalOf listunspent = total at *
  generalize shareOf mms total = share at *
  have hreserve : feeReserve = 200 := rfl
  constructor
  · constructor
    · rintro ⟨hshares, -⟩
      -- an address that is not the one paid got nothing, but has a share
      have hsame : ∀ mm ∈ mms, mm.active = true → payee.mmAddress = mm.mmAddress := by
        intro mm hmem hmm
        by_contra hne
        have hshare := hshares mm hmem hmm
        have hpairs : 0 < pairsOf mms mm.mmAddress := pairsOf_pos_iff.mpr ⟨mm, hmem, hmm, rfl⟩
        rw [paidTo_singleton, if_neg hne] at hshare
        have hpos : 0 < share * pairsOf mms mm.mmAddress := mul_pos (by omega) (by exact_mod_cast hpairs)
        omega
      have honly : OneAddress mms := fun mm hmem mm' hmem' hmm hmm' =>
        (hsame mm hmem hmm).symm.trans (hsame mm' hmem' hmm')
      refine ⟨honly, ?_⟩
      have hpayment := hshares payee hpayee hactive
      rwa [paidTo_singleton, if_pos rfl, honly.pairsOf_eq hpayee hactive] at hpayment
    · rintro ⟨honly, hexact⟩
      refine ⟨fun mm hmem hmm => ?_, ?_⟩
      · rw [paidTo_singleton, if_pos (honly payee hpayee mm hmem hactive hmm), hexact,
          honly.pairsOf_eq hmem hmm]
      · simp only [List.map_cons, List.map_nil, List.sum_singleton, hexact]
        exact hle
  · intro hlt
    refine amountSat_eq (mul_nonneg (by omega) (Int.natCast_nonneg _)) ?_
    omega

end Call

/-- The pair of an asset, active or not. -/
def pairOf (assetId : Uint256) (mmAddress : Bytes) (active : Bool) : Uint256 × MarketMaker :=
  (assetId, ⟨assetId, mmAddress, 100, 10, 1, 5, active, 1000⟩)

/-- Three pairs of two market makers. -/
def treasuryDb (address₁ address₂ : Bytes) (active₃ : Bool) : DexDB where
  orders := .empty
  grdBalances := .empty
  marketMakers := ⟨[pairOf 1 address₁ true, pairOf 2 address₂ true, pairOf 3 address₂ active₃],
    show [(1 : Uint256), 2, 3].Nodup by decide⟩
  oraclePegRates := .empty

def sampleSend : SendToAddress := fun _ _ => .ok ""

theorem autoForwardToMarketMakers_sharedOut_sample :
    (autoForwardToMarketMakers (some [700, 301]) sampleSend (treasuryDb [65] [65] true)).2 =
        [([65], 801)] ∧
      SharedOut (listMarketMakers (treasuryDb [65] [65] true) 200) (totalOf (some [700, 301]))
        (autoForwardToMarketMakers (some [700, 301]) sampleSend (treasuryDb [65] [65] true)).2 := by
  have hvalues :
      autoForwardToMarketMakers (some [700, 301]) sampleSend (treasuryDb [65] [65] true) =
        (801, [([65], 801)]) ∧ totalOf (some [700, 301]) = 1001 := by
    decide +kernel
  obtain ⟨hcall, htotal⟩ := hvalues
  have hone : OneAddress (listMarketMakers (treasuryDb [65] [65] true) 200) := by
    simp [OneAddress, listMarketMakers, treasuryDb, pairOf]
  have h := autoForwardToMarketMakers_sharedOut_iff (some [700, 301]) sampleSend
    (treasuryDb [65] [65] true) (by rw [hcall]; decide)
  exact ⟨by rw [hcall], h.1.mpr ⟨hone, h.2 (by rw [htotal]; decide)⟩⟩

/-- Two market makers: everything goes to the one whose address comes last. -/
theorem autoForwardToMarketMakers_unshared :
    autoForwardToMarketMakers (some [1000]) sampleSend (treasuryDb [65] [66] false) =
        (800, [([66], 800)]) ∧
      ¬ SharedOut (listMarketMakers (treasuryDb [65] [66] false) 200) (totalOf (some [1000]))
        (autoForwardToMarketMakers (some [1000]) sampleSend (treasuryDb [65] [66] false)).2 ∧
      totalOf (some [1000000000000000000]) = 1000000000000000000 ∧
      autoForwardToMarketMakers (some [1000000000000000000]) sampleSend
          (treasuryDb [65] [65] false) =
        (999999999999999800, [([65], 999999999999999809)]) := by
  have hvalues : autoForwardToMarketMakers (some [1000]) sampleSend (treasuryDb [65] [66] false) =
        (800, [([66], 800)]) ∧
      shareOf (listMarketMakers (treasuryDb [65] [66] false) 200) (totalOf (some [1000])) = 400 ∧
      totalOf (some [1000000000000000000]) = 1000000000000000000 ∧
      autoForwardToMarketMakers (some [1000000000000000000]) sampleSend
          (treasuryDb [65] [65] false) =
        (999999999999999800, [([65], 999999999999999809)]) := by
    decide +kernel
  obtain ⟨hcall, hshare, htotal, hlarge⟩ := hvalues
  refine ⟨hcall, fun h => ?_, htotal, hlarge⟩
  have hfirst := h.1 (pairOf 1 [65] true).2 (by simp [listMarketMakers, treasuryDb]) rfl
  rw [hcall, hshare] at hfirst
  revert hfirst
  decide

end GarudaChain.Apbn
