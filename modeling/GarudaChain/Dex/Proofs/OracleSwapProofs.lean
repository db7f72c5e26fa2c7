import GarudaChain.Dex.OracleSwap
import GarudaChain.Dex.Proofs.SwapProofs

/-!
# Swaps at the oracle's rates create no value
-/

namespace GarudaChain

open Int64Lib Result

section Quote

variable {dbs : Databases} {fromSym toSym : String} {amount : AmountParam} {q : OracleQuote}

/-- All oracle rates are positive. -/
def RatesPositive (dbs : Databases) : Prop :=
  ∀ e ∈ dbs.dexDb.oraclePegRates.entries, 0 < e.2.grdPerUnit

theorem pegRate_eq {symbol : String} {info : AssetInfo} (hsymbol : info.symbol = "p" ++ symbol)
    (htype : info.type = "stablecoin_pegged") :
    pegRate dbs info = ((dbs.dexDb.readOraclePegRate symbol).map OraclePegRate.grdPerUnit).getD 0 := by
  have hkey : (fun e : String × OraclePegRate => "p" ++ e.1 == info.symbol) =
      fun e => decide (e.1 = symbol) := by
    funext e
    rw [hsymbol, Bool.eq_iff_iff, beq_iff_eq, decide_eq_true_eq]
    exact String.append_right_inj "p"
  rw [pegRate, if_pos htype, hkey, DexDB.readOraclePegRate, Store.read, Option.map_map]
  rfl

theorem findPair_ok {symbol : String} {peg : AssetInfo} {obId : Uint256}
    (h : findPair (dbs.assetDb.listAssets 500) symbol = .ok (peg, obId)) :
    peg.symbol = "p" ++ symbol ∧ peg.type = "stablecoin_pegged" ∧
      dbs.assetDb.assets.read peg.assetId = some peg := by
  unfold findPair at h
  cases hfind : findAsset (dbs.assetDb.listAssets 500) ("p" ++ symbol) "stablecoin_pegged" with
  | none =>
    rw [hfind] at h
    cases h
  | some found =>
    rw [hfind] at h
    obtain ⟨rfl, -⟩ := Prod.mk.inj (Except.ok.inj h)
    obtain ⟨hsymbol, htype, hmem⟩ := findAsset_mem hfind
    exact ⟨hsymbol, htype, (Store.read_eq_some_iff _).mpr hmem⟩

theorem oracleRateOf_ok {symbol : String} {rate : Int} (h : oracleRateOf dbs symbol = .ok rate) :
    dbs.dexDb.readOraclePegRate symbol = some ⟨rate⟩ := by
  unfold oracleRateOf at h
  cases hread : dbs.dexDb.readOraclePegRate symbol with
  | none =>
    rw [hread] at h
    cases h
  | some oracle =>
    rw [hread] at h
    obtain rfl := Except.ok.inj h
    rfl

/-- What a quote is about: two pegged stablecoins, and an amount of the one that is worth at least
    the amount of the other. -/
structure Quoted (dbs : Databases) (q : OracleQuote) (fromPeg toPeg : AssetInfo) : Prop where
  from_read : dbs.assetDb.assets.read q.fromPegId = some fromPeg
  to_read : dbs.assetDb.assets.read q.toPegId = some toPeg
  from_type : fromPeg.type = "stablecoin_pegged"
  to_type : toPeg.type = "stablecoin_pegged"
  ne : q.fromPegId ≠ q.toPegId
  amount_pos : 0 < q.amount
  toAmount_nonneg : 0 ≤ q.toAmount
  toAmount_lt : q.toAmount < 9223372036854775808
  value_le : q.toAmount * pegRate dbs toPeg ≤ q.amount * pegRate dbs fromPeg

theorem oracleFee_bounds {gross : Int} (h : 0 < gross) :
    1 ≤ oracleFee gross ∧ oracleFee gross ≤ gross := by
  unfold oracleFee
  rw [Int.tdiv_eq_ediv_of_nonneg h.le]
  omega

theorem oracleQuote_ok (hrates : RatesPositive dbs)
    (h : oracleQuote dbs fromSym toSym amount = .ok q) :
    ∃ fromPeg toPeg, Quoted dbs q fromPeg toPeg := by
  simp only [oracleQuote, bind_ok_iff, throwIf_eq_ok, Except.ok.injEq] at h
  obtain ⟨x, hx, _, hne, _, hpos, ⟨fromPeg, fromObId⟩, hfrom, ⟨toPeg, toObId⟩, hto, fromRate,
    hfromRate, toRate, htoRate, _, hvalue, _, hgross, rfl⟩ := h
  obtain ⟨hfromSymbol, hfromType, hfromRead⟩ := findPair_ok hfrom
  obtain ⟨htoSymbol, htoType, htoRead⟩ := findPair_ok hto
  have hfromRead' := oracleRateOf_ok hfromRate
  have htoRead' := oracleRateOf_ok htoRate
  have hfromPos : 0 < fromRate := hrates _ ((Store.read_eq_some_iff _).mp hfromRead')
  have htoPos : 0 < toRate := hrates _ ((Store.read_eq_some_iff _).mp htoRead')
  have hpos' : 0 < x := by simpa using hpos
  have hvalue' : 0 < safeMulDiv x fromRate 1 := by simpa using hvalue
  have hgross' : 0 < (safeMulDiv x fromRate 1).tdiv toRate := by simpa using hgross
  have hfee := oracleFee_bounds hgross'
  have hpegFrom : pegRate dbs fromPeg = fromRate := by
    rw [pegRate_eq hfromSymbol hfromType, hfromRead']
    rfl
  have hpegTo : pegRate dbs toPeg = toRate := by
    rw [pegRate_eq htoSymbol htoType, htoRead']
    rfl
  refine ⟨fromPeg, toPeg, hfromRead, htoRead, hfromType, htoType, ?_, hpos', by simp only; omega,
    ?_, ?_⟩
  · intro hid
    have hid' : fromPeg.assetId = toPeg.assetId := hid
    rw [hid'] at hfromRead
    have hsame : fromPeg = toPeg := Option.some.inj (hfromRead.symm.trans htoRead)
    rw [hsame, htoSymbol] at hfromSymbol
    have hsym := (String.append_right_inj "p").mp hfromSymbol
    rw [hsym] at hne
    simp at hne
  · -- the quotient is at most what is divided, which a cast to 64 bits has produced
    have hrange : safeMulDiv x fromRate 1 < 9223372036854775808 := by
      rw [safeMulDiv, if_neg one_ne_zero]
      exact (wrap64_range _).2
    have hle : (safeMulDiv x fromRate 1).tdiv toRate ≤ safeMulDiv x fromRate 1 := by
      rw [Int.tdiv_eq_ediv_of_nonneg hvalue'.le]
      exact Int.ediv_le_self _ hvalue'.le
    show _ - oracleFee _ < _
    omega
  · have hconversion := conversion_le (mul_nonneg hpos'.le hfromPos.le) htoPos rfl hgross'
    rw [hpegFrom, hpegTo]
    refine le_trans (mul_le_mul_of_nonneg_right ?_ htoPos.le) hconversion
    show _ - oracleFee _ ≤ _
    omega

end Quote

section Step

variable {env : DexEnv} {address : Bytes} {dbs : Databases} {call : OracleCall}

/-- The balances of the address after a swap. -/
def paidOut (address : Bytes) (dbs : Databases) (q : OracleQuote) (id : Uint256) : Int :=
  if id = q.toPegId then wrap64 (dbs.assetDb.readBalance q.toPegId address + q.toAmount)
  else if id = q.fromPegId then wrap64 (dbs.assetDb.readBalance q.fromPegId address - q.amount)
  else dbs.assetDb.readBalance id address

theorem swaporacle_ok {fromSym toSym : String} {amount : AmountParam} {now now' : Int}
    {dbs' : Databases} {q : OracleQuote} (hrates : RatesPositive dbs)
    (h : swaporacle env dbs fromSym toSym amount address now now' = .ok (dbs', q)) :
    oracleQuote dbs fromSym toSym amount = .ok q ∧
      q.amount ≤ dbs.assetDb.readBalance q.fromPegId address ∧
      dbs'.assetDb.assets = dbs.assetDb.assets ∧
      dbs'.dexDb.oraclePegRates = dbs.dexDb.oraclePegRates ∧
      ∀ id, dbs'.assetDb.readBalance id address = paidOut address dbs q id := by
  simp only [swaporacle, bind_ok_iff, throwIf_eq_ok, Except.ok.injEq, Prod.mk.injEq] at h
  obtain ⟨q', hquote, _, hle, rfl, rfl⟩ := h
  obtain ⟨fromPeg, toPeg, hq⟩ := oracleQuote_ok hrates hquote
  obtain ⟨hdb, horacle⟩ := autoAdjustMMPrice_keeps env _ q'.toObId false q'.toAmount now'
  obtain ⟨hdb', horacle'⟩ := autoAdjustMMPrice_keeps env _ q'.fromObId true q'.amount now
  rw [hdb, hdb', horacle, horacle']
  refine ⟨hquote, by simpa using hle, rfl, rfl, ?_⟩
  intro id
  have hto : (dbs.assetDb.writeBalance q'.fromPegId address
      (wrap64 (dbs.assetDb.readBalance q'.fromPegId address - q'.amount))).readBalance q'.toPegId
        address = dbs.assetDb.readBalance q'.toPegId address := by
    rw [AssetDB.readBalance_writeBalance, if_neg (fun h => hq.ne h.1.symm)]
  simp only [AssetDB.readBalance_writeBalance, hto, and_true, paidOut]

variable (env address call) in
theorem oracleStep_cases (hrates : RatesPositive dbs) :
    (oracleStep env address dbs call = dbs ∧ CreditFits address dbs call) ∨
      ∃ q, oracleQuote dbs call.fromSym call.toSym call.amount = .ok q ∧
        q.amount ≤ dbs.assetDb.readBalance q.fromPegId address ∧
        (oracleStep env address dbs call).assetDb.assets = dbs.assetDb.assets ∧
        (oracleStep env address dbs call).dexDb.oraclePegRates = dbs.dexDb.oraclePegRates ∧
        ∀ id, (oracleStep env address dbs call).assetDb.readBalance id address =
          paidOut address dbs q id := by
  unfold oracleStep
  cases hcall : swaporacle env dbs call.fromSym call.toSym call.amount address call.now
      call.now' with
  | ok result => exact .inr ⟨result.2, swaporacle_ok hrates hcall⟩
  | error err =>
    refine .inl ⟨rfl, ?_⟩
    intro q hquote hle
    simp only [swaporacle, hquote, ok_bind, throwIf, not_lt.mpr hle, decide_false,
      Bool.false_eq_true, if_false] at hcall
    cases hcall

/-- The balances of pegged stablecoins are values of an `int64_t`. -/
def PegsInt64 (address : Bytes) (dbs : Databases) : Prop :=
  ∀ e ∈ dbs.assetDb.assets.entries, e.2.type = "stablecoin_pegged" →
    dbs.assetDb.readBalance e.1 address < 9223372036854775808

structure OracleInv (address : Bytes) (dbs : Databases) : Prop where
  rates : RatesPositive dbs
  nonneg : PegsNonneg address dbs
  int64 : PegsInt64 address dbs

theorem OracleInv.balance (hinv : OracleInv address dbs) {id : Uint256} {info : AssetInfo}
    (hread : dbs.assetDb.assets.read id = some info) (htype : info.type = "stablecoin_pegged") :
    0 ≤ dbs.assetDb.readBalance id address ∧
      dbs.assetDb.readBalance id address < 9223372036854775808 :=
  ⟨hinv.nonneg (id, info) ((Store.read_eq_some_iff _).mp hread) htype,
    hinv.int64 (id, info) ((Store.read_eq_some_iff _).mp hread) htype⟩

theorem paidOut_eq {q : OracleQuote} {fromPeg toPeg : AssetInfo} (hinv : OracleInv address dbs)
    (hq : Quoted dbs q fromPeg toPeg) (hle : q.amount ≤ dbs.assetDb.readBalance q.fromPegId address)
    (hfits : dbs.assetDb.readBalance q.toPegId address + q.toAmount < 9223372036854775808)
    (id : Uint256) :
    paidOut address dbs q id = dbs.assetDb.readBalance id address +
      ((if id = q.fromPegId then -q.amount else 0) + if id = q.toPegId then q.toAmount else 0) := by
  have hfrom := hinv.balance hq.from_read hq.from_type
  have hto := hinv.balance hq.to_read hq.to_type
  have hpos := hq.amount_pos
  have hnonneg := hq.toAmount_nonneg
  unfold paidOut
  by_cases hidTo : id = q.toPegId
  · subst hidTo
    rw [if_pos rfl, if_neg hq.ne.symm, if_pos rfl, wrap64_of_range (by omega) hfits]
    omega
  · rw [if_neg hidTo, if_neg hidTo]
    by_cases hidFrom : id = q.fromPegId
    · subst hidFrom
      rw [if_pos rfl, if_pos rfl, wrap64_of_range (by omega) (by omega)]
      omega
    · rw [if_neg hidFrom, if_neg hidFrom]
      omega

theorem total_paidOut {q : OracleQuote} {fromPeg toPeg : AssetInfo} (hinv : OracleInv address dbs)
    (hq : Quoted dbs q fromPeg toPeg) (hle : q.amount ≤ dbs.assetDb.readBalance q.fromPegId address)
    (hfits : dbs.assetDb.readBalance q.toPegId address + q.toAmount < 9223372036854775808) :
    (dbs.assetDb.assets.total fun id info => paidOut address dbs q id * pegRate dbs info) =
      pegValue address dbs - q.amount * pegRate dbs fromPeg + q.toAmount * pegRate dbs toPeg := by
  have hweights : ∀ e ∈ dbs.assetDb.assets.entries,
      paidOut address dbs q e.1 * pegRate dbs e.2 =
        dbs.assetDb.readBalance e.1 address * pegRate dbs e.2 +
          ((if e.1 = q.fromPegId then -q.amount * pegRate dbs e.2 else 0) +
            if e.1 = q.toPegId then q.toAmount * pegRate dbs e.2 else 0) := by
    intro e _
    rw [paidOut_eq hinv hq hle hfits, add_mul, add_mul, ite_mul, ite_mul, zero_mul]
  have hfrom := Store.total_single dbs.assetDb.assets
    (fun _ info => -q.amount * pegRate dbs info) q.fromPegId
  have hto := Store.total_single dbs.assetDb.assets
    (fun _ info => q.toAmount * pegRate dbs info) q.toPegId
  simp only [Store.share, hq.from_read, hq.to_read, Option.elim_some] at hfrom hto
  have htotal : (dbs.assetDb.assets.total fun id info => paidOut address dbs q id * pegRate dbs info) =
      dbs.assetDb.assets.total fun id info =>
        dbs.assetDb.readBalance id address * pegRate dbs info +
          ((if id = q.fromPegId then -q.amount * pegRate dbs info else 0) +
            if id = q.toPegId then q.toAmount * pegRate dbs info else 0) :=
    Store.total_congr _ hweights
  rw [htotal, Store.total_add, Store.total_add, hfrom, hto, pegValue, neg_mul]
  omega

theorem gainsNothing_iff (hinv : OracleInv address dbs) :
    GainsNothing env address dbs call ↔ CreditFits address dbs call := by
  rcases oracleStep_cases env address call hinv.rates with
    ⟨hsame, hfits⟩ | ⟨q, hquote, hle, hassets, horacle, hbalances⟩
  · rw [GainsNothing, hsame]
    exact ⟨fun _ => hfits, fun _ => ⟨le_refl _, hinv.nonneg⟩⟩
  obtain ⟨fromPeg, toPeg, hq⟩ := oracleQuote_ok hinv.rates hquote
  have hfrom := hinv.balance hq.from_read hq.from_type
  have hto := hinv.balance hq.to_read hq.to_type
  have htoLt := hq.toAmount_lt
  have htoNonneg := hq.toAmount_nonneg
  constructor
  · rintro ⟨-, hnonneg⟩ q' hquote' -
    obtain rfl := Except.ok.inj (hquote.symm.trans hquote')
    -- a credit that does not fit leaves a negative balance
    by_contra hover
    have hmem := (Store.read_eq_some_iff _).mp hq.to_read
    have hbalance := hnonneg (q.toPegId, toPeg) (hassets ▸ hmem) hq.to_type
    rw [hbalances, paidOut, if_pos rfl] at hbalance
    have hneg := wrap64_neg (not_lt.mp hover) (by omega)
    omega
  · intro hcredit
    have hfits := hcredit q hquote hle
    constructor
    · have hrate : ∀ info, pegRate (oracleStep env address dbs call) info = pegRate dbs info := by
        intro info
        rw [pegRate, pegRate, horacle]
      have hvalue : pegValue address (oracleStep env address dbs call) =
          dbs.assetDb.assets.total fun id info => paidOut address dbs q id * pegRate dbs info := by
        simp only [pegValue, hassets, hbalances, hrate]
      rw [hvalue, total_paidOut hinv hq hle hfits]
      have := hq.value_le
      omega
    · intro e he htype
      rw [hassets] at he
      have hold := hinv.nonneg e he htype
      rw [hbalances, paidOut_eq hinv hq hle hfits]
      by_cases hidFrom : e.1 = q.fromPegId
      · rw [if_pos hidFrom, if_neg (fun h => hq.ne (hidFrom.symm.trans h)), hidFrom]
        omega
      · rw [if_neg hidFrom]
        split_ifs <;> omega

theorem oracleStep_inv (hinv : OracleInv address dbs) (h : GainsNothing env address dbs call) :
    OracleInv address (oracleStep env address dbs call) := by
  rcases oracleStep_cases env address call hinv.rates with
    ⟨hsame, -⟩ | ⟨q, hquote, hle, hassets, horacle, hbalances⟩
  · rw [hsame]
    exact hinv
  refine ⟨?_, h.2, ?_⟩
  · rw [RatesPositive, horacle]
    exact hinv.rates
  · intro e he htype
    rw [hassets] at he
    rw [hbalances, paidOut]
    split_ifs
    · exact (wrap64_range _).2
    · exact (wrap64_range _).2
    · exact hinv.int64 e he htype

end Step

/-- In every run of swaps of one address, from balances that are not negative and with positive
    rates: no swap raises the value of its pegged stablecoins or leaves one of them negative, just
    where every credited balance stays in the range of `int64_t`. -/
theorem oracleRun_gainsNothing_iff (env : DexEnv) (address : Bytes) (dbs : Databases)
    (calls : List OracleCall) (hrates : RatesPositive dbs) (hnonneg : PegsNonneg address dbs)
    (hint64 : PegsInt64 address dbs) :
    Run.Along (oracleStep env address) (GainsNothing env address) dbs calls ↔
      Run.Along (oracleStep env address) (CreditFits address) dbs calls := by
  have hinv : OracleInv address dbs := ⟨hrates, hnonneg, hint64⟩
  constructor
  · intro h
    exact h.mono (fun _ _ => oracleStep_inv) (fun _ _ hs => (gainsNothing_iff hs).mp) hinv
  · intro h
    refine h.mono ?_ (fun _ _ hs => (gainsNothing_iff hs).mpr) hinv
    intro s call hs hcall
    exact oracleStep_inv hs ((gainsNothing_iff hs).mpr hcall)

def sampleOracleDbs (usd : Int) : Databases where
  assetDb := (((AssetDB.empty.writeAsset samplePeg).writeAsset
    ⟨9, "pUSD", "stablecoin_pegged", 0, sampleSeller⟩).writeBalance 8 sampleSeller 1000).writeBalance
      9 sampleSeller usd
  dexDb :=
    { orders := .empty
      grdBalances := .empty
      marketMakers := .empty
      oraclePegRates := (Store.empty.write (fun _ _ => true) "IDR" ⟨1000⟩).write (fun _ _ => true)
        "USD" ⟨1⟩ }

def sampleOracleCall : OracleCall := ⟨"idr", "USD", .str ['1', '0', '0', '0'], 1000, 1000⟩

theorem oracleRun_gainsNothing_sample :
    Run.Along (oracleStep sampleDexEnv sampleSeller) (GainsNothing sampleDexEnv sampleSeller)
      (sampleOracleDbs 0) [sampleOracleCall] ∧
    (oracleStep sampleDexEnv sampleSeller (sampleOracleDbs 0)
      sampleOracleCall).assetDb.readBalance 9 sampleSeller = 999000 := by
  -- the databases and the swap are evaluated once for all their values
  have hvalues : RatesPositive (sampleOracleDbs 0) ∧ PegsNonneg sampleSeller (sampleOracleDbs 0) ∧
      PegsInt64 sampleSeller (sampleOracleDbs 0) ∧
      oracleQuote (sampleOracleDbs 0) sampleOracleCall.fromSym sampleOracleCall.toSym
        sampleOracleCall.amount = .ok ⟨8, 9, 0, 0, 1000, 1000000, 999000, 1000⟩ ∧
      (sampleOracleDbs 0).assetDb.readBalance 9 sampleSeller + 999000 < 9223372036854775808 ∧
      (oracleStep sampleDexEnv sampleSeller (sampleOracleDbs 0)
        sampleOracleCall).assetDb.readBalance 9 sampleSeller = 999000 := by
    unfold RatesPositive PegsNonneg PegsInt64
    decide +kernel
  obtain ⟨hrates, hnonneg, hint64, hq, hfits, hbalance⟩ := hvalues
  refine ⟨?_, hbalance⟩
  refine (oracleRun_gainsNothing_iff _ _ _ _ hrates hnonneg hint64).mpr ⟨?_, trivial⟩
  intro q hquote _
  obtain rfl := Except.ok.inj (hq.symm.trans hquote)
  exact hfits

/-- The credit of a swap takes a large balance below zero. -/
theorem oracleRun_negative :
    (sampleOracleDbs 9223372036854775807).assetDb.readBalance 9 sampleSeller =
        9223372036854775807 ∧
      (oracleStep sampleDexEnv sampleSeller (sampleOracleDbs 9223372036854775807)
        sampleOracleCall).assetDb.readBalance 9 sampleSeller = -9223372036853776809 := by
  decide +kernel

def oraclePayout (gross : Int) : Int := gross - max (gross / 1000) 1

/-- A call that takes an amount and pays out its value in exact integers, at least one unit. -/
structure OraclePays (dbs dbs' : Databases) (address : Bytes) (q : OracleQuote)
    (fromRate toRate : Int) : Prop where
  debit : dbs'.assetDb.readBalance q.fromPegId address =
    dbs.assetDb.readBalance q.fromPegId address - q.amount
  credit : dbs'.assetDb.readBalance q.toPegId address =
    dbs.assetDb.readBalance q.toPegId address + oraclePayout (q.amount * fromRate / toRate)
  pays : 1 ≤ oraclePayout (q.amount * fromRate / toRate)

section Exact

variable {dbs : Databases} {fromSym toSym : String} {amount : AmountParam} {q : OracleQuote}
  {fromRate toRate : Int}

theorem oracleQuote_amounts (h : oracleQuote dbs fromSym toSym amount = .ok q)
    (hfrom : dbs.dexDb.readOraclePegRate fromSym.toUpper = some ⟨fromRate⟩)
    (hto : dbs.dexDb.readOraclePegRate toSym.toUpper = some ⟨toRate⟩) :
    0 < q.amount ∧ 0 < wrap64 (q.amount * fromRate) ∧
      0 < wrap64 (q.amount * fromRate) / toRate ∧
      q.toAmount = oraclePayout (wrap64 (q.amount * fromRate) / toRate) := by
  simp only [oracleQuote, bind_ok_iff, throwIf_eq_ok, Except.ok.injEq] at h
  obtain ⟨x, -, _, -, _, hpos, ⟨fromPeg, fromObId⟩, -, ⟨toPeg, toObId⟩, -, rate, hrate, rate', hrate',
    _, hvalue, _, hgross, rfl⟩ := h
  obtain rfl := OraclePegRate.mk.inj (Option.some.inj ((oracleRateOf_ok hrate).symm.trans hfrom))
  obtain rfl := OraclePegRate.mk.inj (Option.some.inj ((oracleRateOf_ok hrate').symm.trans hto))
  have hproduct : safeMulDiv x rate 1 = wrap64 (x * rate) := by
    rw [safeMulDiv, if_neg one_ne_zero, Int.tdiv_one]
  simp only [hproduct, decide_eq_false_iff_not, not_le] at hpos hvalue hgross ⊢
  rw [Int.tdiv_eq_ediv_of_nonneg hvalue.le] at hgross ⊢
  refine ⟨hpos, hvalue, hgross, ?_⟩
  rw [oracleFee, oraclePayout, Int.tdiv_eq_ediv_of_nonneg hgross.le]

theorem wrap64_le_sub {x : Int} (hx : 9223372036854775808 ≤ x) (hpos : 0 < wrap64 x) :
    wrap64 x ≤ x - 18446744073709551616 := by
  rw [wrap64_eq] at hpos ⊢
  split_ifs at hpos ⊢ <;> omega

theorem oraclePayout_lt {gross gross' : Int} (h : gross + 2 ≤ gross') :
    oraclePayout gross < oraclePayout gross' := by
  unfold oraclePayout
  omega

/-- A successful call pays exactly just where the product with the rate fits in `int64_t`, is worth
    two units, and the credited balance fits. -/
theorem swaporacle_exact_iff (env : DexEnv) (dbs : Databases) (fromSym toSym : String)
    (amount : AmountParam) (address : Bytes) (now now' : Int) (dbs' : Databases) (q : OracleQuote)
    (fromRate toRate : Int) (hrates : RatesPositive dbs)
    (hfrom : dbs.dexDb.readOraclePegRate fromSym.toUpper = some ⟨fromRate⟩)
    (hto : dbs.dexDb.readOraclePegRate toSym.toUpper = some ⟨toRate⟩)
    (hto64 : toRate < 9223372036854775808)
    (hbalance : ∀ id, -9223372036854775808 ≤ dbs.assetDb.readBalance id address ∧
      dbs.assetDb.readBalance id address < 9223372036854775808)
    (hok : swaporacle env dbs fromSym toSym amount address now now' = .ok (dbs', q)) :
    OraclePays dbs dbs' address q fromRate toRate ↔
      q.amount * fromRate < 9223372036854775808 ∧ 2 * toRate ≤ q.amount * fromRate ∧
        dbs.assetDb.readBalance q.toPegId address + q.toAmount < 9223372036854775808 := by
  obtain ⟨hquote, hle, -, -, hpaid⟩ := swaporacle_ok hrates hok
  obtain ⟨fromPeg, toPeg, hq⟩ := oracleQuote_ok hrates hquote
  obtain ⟨hamount, hvalue, hgross, hcredit⟩ := oracleQuote_amounts hquote hfrom hto
  have htoPos : 0 < toRate := hrates _ ((Store.read_eq_some_iff _).mp hto)
  have hfromPos : 0 < fromRate := hrates _ ((Store.read_eq_some_iff _).mp hfrom)
  have hworthPos : 0 < q.amount * fromRate := mul_pos hamount hfromPos
  have hfromBalance := hbalance q.fromPegId
  have htoBalance := hbalance q.toPegId
  have hnonneg := hq.toAmount_nonneg
  have hafterFrom : dbs'.assetDb.readBalance q.fromPegId address =
      dbs.assetDb.readBalance q.fromPegId address - q.amount := by
    rw [hpaid, paidOut, if_neg hq.ne, if_pos rfl, wrap64_of_range (by omega) (by omega)]
  have hafterTo : dbs'.assetDb.readBalance q.toPegId address =
      wrap64 (dbs.assetDb.readBalance q.toPegId address + q.toAmount) := by
    rw [hpaid, paidOut, if_pos rfl]
  constructor
  · rintro ⟨-, hto', hpays⟩
    have hafterRange := wrap64_range (dbs.assetDb.readBalance q.toPegId address + q.toAmount)
    rw [hafterTo] at hto'
    have htwo : 2 ≤ q.amount * fromRate / toRate := by
      unfold oraclePayout at hpays
      omega
    have hfits : q.amount * fromRate < 9223372036854775808 := by
      by_contra hover
      have hlost := wrap64_le_sub (not_lt.mp hover) hvalue
      have hless : wrap64 (q.amount * fromRate) / toRate + 2 ≤ q.amount * fromRate / toRate := by
        refine Int.le_ediv_of_mul_le htoPos ?_
        have := Int.ediv_mul_le (wrap64 (q.amount * fromRate)) htoPos.ne'
        rw [add_mul]
        omega
      have hlt := oraclePayout_lt hless
      rw [← hcredit] at hlt
      rw [wrap64_of_range (by omega) (by omega)] at hto'
      omega
    refine ⟨hfits, ?_, ?_⟩
    · exact (Int.le_ediv_iff_mul_le htoPos).mp htwo
    · rw [wrap64_of_range (by omega) hfits] at hcredit
      rw [← hcredit] at hto'
      omega
  · rintro ⟨hfits, hworth, hroom⟩
    have htwo : 2 ≤ q.amount * fromRate / toRate := (Int.le_ediv_iff_mul_le htoPos).mpr hworth
    rw [wrap64_of_range (by omega) hfits] at hcredit
    refine ⟨hafterFrom, ?_, ?_⟩
    · rw [hafterTo, wrap64_of_range (by omega) hroom, hcredit]
    · unfold oraclePayout
      omega

end Exact

theorem swaporacle_exact_sample : ∃ dbs',
    swaporacle sampleDexEnv (sampleOracleDbs 0) "idr" "USD" (.str ['1', '0', '0', '0']) sampleSeller 1000 1000 =
        .ok (dbs', ⟨8, 9, 0, 0, 1000, 1000000, 999000, 1000⟩) ∧
      OraclePays (sampleOracleDbs 0) dbs' sampleSeller ⟨8, 9, 0, 0, 1000, 1000000, 999000, 1000⟩
        1000 1 := by
  have hvalues : Returns (swaporacle sampleDexEnv (sampleOracleDbs 0) "idr" "USD" (.str ['1', '0', '0', '0'])
      sampleSeller 1000 1000) (fun result =>
        result.2 = ⟨8, 9, 0, 0, 1000, 1000000, 999000, 1000⟩) ∧
      RatesPositive (sampleOracleDbs 0) ∧
      (sampleOracleDbs 0).dexDb.readOraclePegRate "idr".toUpper = some ⟨1000⟩ ∧
      (sampleOracleDbs 0).dexDb.readOraclePegRate "USD".toUpper = some ⟨1⟩ := by
    unfold RatesPositive
    decide +kernel
  obtain ⟨⟨⟨dbs', q⟩, hok, rfl⟩, hrates⟩ := hvalues
  refine ⟨dbs', hok, ?_⟩
  refine (swaporacle_exact_iff _ _ _ _ _ _ _ _ _ _ _ _ hrates.1 hrates.2.1 hrates.2.2 (by decide)
    ?_ hok).mpr (by decide +kernel)
  intro id
  have hread : (sampleOracleDbs 0).assetDb.readBalance id sampleSeller =
      if id = 9 then 0 else if id = 8 then 1000 else 0 := by
    simp only [sampleOracleDbs, AssetDB.readBalance_writeBalance, and_true]
    rfl
  rw [hread]
  split_ifs <;> decide

/-- A thousand pUSD, worth one pIDR, are taken and nothing is paid out. -/
theorem swaporacle_paysNothing :
    (sampleOracleDbs 1000).dexDb.readOraclePegRate "USD" = some ⟨1⟩ ∧
      (sampleOracleDbs 1000).dexDb.readOraclePegRate "IDR" = some ⟨1000⟩ ∧
      (sampleOracleDbs 1000).assetDb.readBalance 9 sampleSeller = 1000 ∧
      (sampleOracleDbs 1000).assetDb.readBalance 8 sampleSeller = 1000 ∧
      Returns (swaporacle sampleDexEnv (sampleOracleDbs 1000) "USD" "IDR" (.str ['1', '0', '0', '0']) sampleSeller
        1000 1000) fun result =>
          result.1.assetDb.readBalance 9 sampleSeller = 0 ∧
            result.1.assetDb.readBalance 8 sampleSeller = 1000 := by
  decide +kernel

end GarudaChain
