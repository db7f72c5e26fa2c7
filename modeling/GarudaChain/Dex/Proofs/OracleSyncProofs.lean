import GarudaChain.Dex.OracleSync
import GarudaChain.Lib.Median
import Mathlib.Data.List.GetD

/-!
# What a synchronisation writes
-/

namespace GarudaChain

open Int64Lib Result

/-- More than half of the values lie between two bounds. -/
def MajorityIn (lo hi : Int) (values : List Int) : Prop :=
  values.length < 2 * values.countP fun v => lo ≤ v ∧ v ≤ hi

instance (lo hi : Int) (values : List Int) : Decidable (MajorityIn lo hi values) :=
  inferInstanceAs (Decidable (_ < _))

/-- The sum of the two middle values. -/
def middleSum (values : List Int) : Int :=
  let sorted := values.insertionSort (· ≤ ·)
  sorted.getD (sorted.length / 2 - 1) 0 + sorted.getD (sorted.length / 2) 0

/-- There is one middle value, or the sum of the two fits in `int64_t`. -/
def MiddleFits (values : List Int) : Prop :=
  values.length % 2 = 1 ∨ middleSum values < 9223372036854775808

instance (values : List Int) : Decidable (MiddleFits values) :=
  inferInstanceAs (Decidable (_ ∨ _))

section

variable {values : List Int}

theorem getD_sorted {i : Nat} (hi : i < values.length) :
    ∃ hi' : i < (values.insertionSort (· ≤ ·)).length,
      (values.insertionSort (· ≤ ·)).getD i 0 = (values.insertionSort (· ≤ ·)).get ⟨i, hi'⟩ := by
  have hi' : i < (values.insertionSort (· ≤ ·)).length := by rwa [List.length_insertionSort]
  exact ⟨hi', by rw [List.getD_eq_getElem _ _ hi', List.get_eq_getElem]⟩

theorem getD_sorted_mem {i : Nat} (hi : i < values.length) :
    (values.insertionSort (· ≤ ·)).getD i 0 ∈ values := by
  obtain ⟨hi', hget⟩ := getD_sorted hi
  rw [hget, ← List.mem_insertionSort (· ≤ ·)]
  exact List.get_mem _ _

theorem MajorityIn.middle {lo hi : Int} (h : MajorityIn lo hi values) {i : Nat}
    (hlt : i < values.length) (hbefore : 2 * i ≤ values.length) (hafter : values.length ≤ 2 * i + 2) :
    lo ≤ (values.insertionSort (· ≤ ·)).getD i 0 ∧ (values.insertionSort (· ≤ ·)).getD i 0 ≤ hi := by
  have hperm := List.perm_insertionSort (· ≤ ·) values
  obtain ⟨hi', hget⟩ := getD_sorted hlt
  rw [hget, List.get_eq_getElem]
  refine Median.getElem_mem_of_majority (List.pairwise_insertionSort _ _) hi' ?_ ?_ ?_
  · rwa [hperm.length_eq]
  · rwa [hperm.length_eq]
  · rw [hperm.length_eq, hperm.countP_eq]
    exact h

theorem computeMedian_of_odd (hodd : values.length % 2 = 1) :
    computeMedian values = (values.insertionSort (· ≤ ·)).getD (values.length / 2) 0 := by
  have hne : values.isEmpty = false := by
    cases values with
    | nil => simp at hodd
    | cons v values => rfl
  simp only [computeMedian, hne, List.length_insertionSort, hodd]
  rfl

theorem computeMedian_of_even (hne : values ≠ []) (heven : ¬ values.length % 2 = 1) :
    computeMedian values = (wrap64 (middleSum values)).tdiv 2 := by
  have hne' : values.isEmpty = false := by
    cases values with
    | nil => exact absurd rfl hne
    | cons v values => rfl
  have heven' : (values.length % 2 == 1) = false := by simpa using heven
  simp only [computeMedian, middleSum, hne', List.length_insertionSort, heven']
  rfl

theorem MajorityIn.middleSum_mem {lo hi : Int} (h : MajorityIn lo hi values) (hne : values ≠ [])
    (heven : ¬ values.length % 2 = 1) : 2 * lo ≤ middleSum values ∧ middleSum values ≤ 2 * hi := by
  have hpos := List.length_pos_iff.mpr hne
  have hlow := h.middle (i := values.length / 2 - 1) (by omega) (by omega) (by omega)
  have hhigh := h.middle (i := values.length / 2) (by omega) (by omega) (by omega)
  simp only [middleSum, List.length_insertionSort]
  omega

variable (hne : values ≠ []) (hrange : ∀ v ∈ values, 1 ≤ v ∧ v ≤ 4611686018427387904)

include hne hrange

theorem middleSum_range :
    2 ≤ middleSum values ∧ middleSum values ≤ 9223372036854775808 := by
  have hpos := List.length_pos_iff.mpr hne
  have hlow := hrange _ (getD_sorted_mem (i := values.length / 2 - 1) (by omega))
  have hhigh := hrange _ (getD_sorted_mem (i := values.length / 2) (by omega))
  simp only [middleSum, List.length_insertionSort]
  omega

theorem MiddleFits.computeMedian_mem {lo hi : Int} (hfits : MiddleFits values)
    (h : MajorityIn lo hi values) : lo ≤ computeMedian values ∧ computeMedian values ≤ hi := by
  have hpos := List.length_pos_iff.mpr hne
  by_cases hodd : values.length % 2 = 1
  · rw [computeMedian_of_odd hodd]
    exact h.middle (by omega) (by omega) (by omega)
  · have hsum := h.middleSum_mem hne hodd
    have hrange := middleSum_range hne hrange
    have hlt := hfits.resolve_left hodd
    rw [computeMedian_of_even hne hodd, wrap64_of_range (by omega) hlt,
      Int.tdiv_eq_ediv_of_nonneg (by omega)]
    omega

theorem computeMedian_of_not_fits (hfits : ¬ MiddleFits values) :
    computeMedian values = -4611686018427387904 := by
  rw [MiddleFits, not_or] at hfits
  have hrange := middleSum_range hne hrange
  obtain hsum : middleSum values = 9223372036854775808 := by omega
  rw [computeMedian_of_even hne hfits.1, hsum]
  decide

end

section

variable (grdPerUsd now : Int) (sources : List SourceResult)

def Quotes (symbol : String) : Prop :=
  sourceValues grdPerUsd sources symbol ≠ [] ∧ 0 < computeMedian (sourceValues grdPerUsd sources symbol)

/-- The rate of a currency that is written. -/
def consensusRate (symbol : String) : PegRate where
  symbol := symbol
  ratePerGrd := safeMulDiv coinSat coinSat (computeMedian (sourceValues grdPerUsd sources symbol))
  grdPerUnit := computeMedian (sourceValues grdPerUsd sources symbol)
  timestamp := now
  source := "CONSENSUS:" ++ toString (sourceValues grdPerUsd sources symbol).length ++ "src:" ++
    sourcesUsed sources

theorem mem_written_syncSymbol (s : SyncState) (symbol : String) (peg : PegRate) :
    peg ∈ (syncSymbol grdPerUsd now sources s symbol).written ↔
      peg ∈ s.written ∨
        Quotes grdPerUsd sources symbol ∧ peg = consensusRate grdPerUsd now sources symbol := by
  unfold syncSymbol Quotes
  by_cases hempty : sourceValues grdPerUsd sources symbol = []
  · simp [hempty]
  · by_cases hmedian : computeMedian (sourceValues grdPerUsd sources symbol) ≤ 0
    · simp [hempty, hmedian]
    · have hpos := not_le.mp hmedian
      simp [hempty, hmedian, hpos, SyncState.writeOraclePegRate, consensusRate]

theorem mem_written_foldl (symbols : List String) (s : SyncState) (peg : PegRate) :
    peg ∈ (symbols.foldl (syncSymbol grdPerUsd now sources) s).written ↔
      peg ∈ s.written ∨ ∃ symbol ∈ symbols,
        Quotes grdPerUsd sources symbol ∧ peg = consensusRate grdPerUsd now sources symbol := by
  induction symbols generalizing s with
  | nil => simp
  | cons symbol symbols ih =>
    rw [List.foldl_cons, ih, mem_written_syncSymbol, or_assoc]
    simp

theorem mem_foldl_write {α : Type} [DecidableEq α] (before : α → α → Bool) (as : List α)
    (set : Store α Unit) (a : α) :
    a ∈ (as.foldl (fun set a => set.write before a ()) set).entries.map Prod.fst ↔
      a ∈ set.entries.map Prod.fst ∨ a ∈ as := by
  induction as generalizing set with
  | nil => simp
  | cons b as ih =>
    have hwrite : a ∈ (set.write before b ()).entries.map Prod.fst ↔
        a ∈ set.entries.map Prod.fst ∨ a = b := by
      rw [((set.entries_write_perm before b ()).map Prod.fst).mem_iff, List.map_cons, List.mem_cons]
      by_cases hab : a = b
      · simp [hab]
      · simp [Store.others, hab]
    rw [List.foldl_cons, ih, hwrite, List.mem_cons, or_assoc]

variable {grdPerUsd now sources}

theorem mem_allSymbols {symbol : String} (h : sourceValues grdPerUsd sources symbol ≠ []) :
    symbol ∈ allSymbols sources := by
  obtain ⟨v, hv⟩ := List.exists_mem_of_ne_nil _ h
  obtain ⟨sr, hsr, hvalue⟩ := List.mem_filterMap.mp hv
  obtain ⟨rate, hread, -⟩ := Option.bind_eq_some_iff.mp hvalue
  rw [allSymbols, mem_foldl_write]
  refine .inr (List.mem_flatMap.mpr ⟨sr, hsr, List.mem_map.mpr ⟨(symbol, rate), ?_, rfl⟩⟩)
  exact (Store.read_eq_some_iff _).mp hread

theorem mem_written_iff {responses : List RateResponse} {rates : Store String PegRate}
    {result : SyncResult} (h : doSyncPegRates responses grdPerUsd now rates = .ok result)
    {peg : PegRate} (husd : peg.symbol ≠ "USD") :
    peg ∈ result.state.written ↔
      Quotes grdPerUsd (responses.map fetchRatesFromSource) peg.symbol ∧
        peg = consensusRate grdPerUsd now (responses.map fetchRatesFromSource) peg.symbol := by
  dsimp only [doSyncPegRates] at h
  split_ifs at h with hvalid
  obtain rfl := Except.ok.inj h
  simp only [SyncState.writeOraclePegRate, List.mem_append, List.mem_singleton, mem_written_foldl,
    List.not_mem_nil, false_or]
  constructor
  · rintro (⟨symbol, -, hquotes, rfl⟩ | rfl)
    · exact ⟨hquotes, rfl⟩
    · exact absurd rfl husd
  · rintro ⟨hquotes, hpeg⟩
    exact .inl ⟨peg.symbol, mem_allSymbols hquotes.1, hquotes, hpeg⟩

end

/-- A value is at most `ORACLE_MAX_DEVIATION_PPM` away from a rate. -/
def Agrees (rate val : Int) : Prop := |val - rate| * 1000000 ≤ oracleMaxDeviationPpm * rate

instance (rate val : Int) : Decidable (Agrees rate val) := inferInstanceAs (Decidable (_ ≤ _))

def Consensus (values : List Int) (rate : Int) : Prop :=
  oracleMinSources ≤ values.length ∧ oracleMinSources ≤ (values.filter (Agrees rate ·)).length

instance (values : List Int) (rate : Int) : Decidable (Consensus values rate) :=
  inferInstanceAs (Decidable (_ ∧ _))

/-- All rates that a synchronisation writes, but that of USD, rest on a consensus just where the
    sources agree on every currency of which one of them gives a value. -/
theorem doSyncPegRates_consensus_iff (responses : List RateResponse) (grdPerUsd now : Int)
    (rates : Store String PegRate) (result : SyncResult)
    (h : doSyncPegRates responses grdPerUsd now rates = .ok result) :
    (∀ peg ∈ result.state.written, peg.symbol ≠ "USD" →
        Consensus (sourceValues grdPerUsd (responses.map fetchRatesFromSource) peg.symbol)
          peg.grdPerUnit) ↔
      ∀ symbol, symbol ≠ "USD" → Quotes grdPerUsd (responses.map fetchRatesFromSource) symbol →
        Consensus (sourceValues grdPerUsd (responses.map fetchRatesFromSource) symbol)
          (computeMedian (sourceValues grdPerUsd (responses.map fetchRatesFromSource) symbol)) := by
  constructor
  · intro hwritten symbol husd hquotes
    let peg := consensusRate grdPerUsd now (responses.map fetchRatesFromSource) symbol
    have hname : peg.symbol ≠ "USD" := husd
    exact hwritten peg ((mem_written_iff h hname).mpr ⟨hquotes, rfl⟩) hname
  · intro hagree peg hpeg husd
    obtain ⟨hquotes, heq⟩ := (mem_written_iff h husd).mp hpeg
    have hmedian := hagree peg.symbol husd hquotes
    rw [heq]
    exact hmedian

def sampleSource (name : String) (members : List (String × Option Rat)) : RateResponse :=
  ⟨name, some ⟨some "2026-04-13", members⟩⟩

def sampleAgreeing : List RateResponse :=
  [sampleSource "fawazahmed0-cdn" [("EUR", some (9 / 10)), ("JPY", none)],
    sampleSource "open-er-api" [("EUR", some (92 / 100))]]

theorem doSyncPegRates_consensus_sample : ∃ result,
    doSyncPegRates sampleAgreeing 50000000 1776000000 .empty = .ok result ∧
      result.state.written.map (fun peg => (peg.symbol, peg.grdPerUnit)) =
        [("EUR", 54951690), ("USD", 50000000)] ∧
      ∀ peg ∈ result.state.written, peg.symbol ≠ "USD" →
        Consensus (sourceValues 50000000 (sampleAgreeing.map fetchRatesFromSource) peg.symbol)
          peg.grdPerUnit := by
  have hvalues : Returns (doSyncPegRates sampleAgreeing 50000000 1776000000 .empty) (fun result =>
        result.state.written.map (fun peg => (peg.symbol, peg.grdPerUnit)) =
          [("EUR", 54951690), ("USD", 50000000)]) ∧
      allSymbols (sampleAgreeing.map fetchRatesFromSource) = ["EUR"] ∧
      sourceValues 50000000 (sampleAgreeing.map fetchRatesFromSource) "EUR" =
        [55555555, 54347826] := by
    decide +kernel
  obtain ⟨⟨result, hok, hwritten⟩, hsymbols, heuro⟩ := hvalues
  refine ⟨result, hok, hwritten, ?_⟩
  refine (doSyncPegRates_consensus_iff _ _ _ _ _ hok).mpr fun symbol _ hquotes => ?_
  have hmem := mem_allSymbols hquotes.1
  rw [hsymbols, List.mem_singleton] at hmem
  rw [hmem, heuro]
  decide

/-- A source alone, and two sources of which one says ten times as much as the other. -/
theorem doSyncPegRates_noConsensus :
    Returns (doSyncPegRates [sampleSource "open-er-api" [("EUR", some (9 / 10))]] 50000000 1776000000
        .empty) (fun result =>
      result.state.written.map (fun peg => (peg.symbol, peg.grdPerUnit)) =
        [("EUR", 55555555), ("USD", 50000000)]) ∧
    sourceValues 50000000 ([sampleSource "open-er-api" [("EUR", some (9 / 10))]].map
      fetchRatesFromSource) "EUR" = [55555555] ∧
    ¬ Consensus [55555555] 55555555 ∧
    Returns (doSyncPegRates [sampleSource "fawazahmed0-cdn" [("EUR", some 9)],
        sampleSource "open-er-api" [("EUR", some (9 / 10))]] 50000000 1776000000 .empty) (fun result =>
      result.state.written.map (fun peg => (peg.symbol, peg.grdPerUnit)) =
        [("EUR", 30555555), ("USD", 50000000)] ∧
      result.state.log.map Outlier.val = [5555555, 55555555]) ∧
    sourceValues 50000000 ([sampleSource "fawazahmed0-cdn" [("EUR", some 9)],
      sampleSource "open-er-api" [("EUR", some (9 / 10))]].map fetchRatesFromSource) "EUR" =
        [5555555, 55555555] ∧
    ¬ Consensus [5555555, 55555555] 30555555 := by
  decide +kernel

/-- Of values between 1 and `2^62`, the median lies wherever most of the values do, just where it is a
    middle value or the sum of the two middle values fits in `int64_t`. -/
theorem computeMedian_robust_iff (values : List Int) (hne : values ≠ [])
    (hrange : ∀ v ∈ values, 1 ≤ v ∧ v ≤ 4611686018427387904) :
    ((∀ lo hi, MajorityIn lo hi values → lo ≤ computeMedian values ∧ computeMedian values ≤ hi) ↔
      MiddleFits values) ∧
    ∀ responses grdPerUsd now rates result,
      doSyncPegRates responses grdPerUsd now rates = .ok result →
      ∀ peg ∈ result.state.written, peg.symbol ≠ "USD" →
        sourceValues grdPerUsd (responses.map fetchRatesFromSource) peg.symbol = values →
        ∀ lo hi, MajorityIn lo hi values → lo ≤ peg.grdPerUnit ∧ peg.grdPerUnit ≤ hi := by
  constructor
  · constructor
    · intro hrobust
      by_contra hfits
      -- all values lie between 1 and the largest one
      have hall : MajorityIn 1 4611686018427387904 values := by
        have hcount : (values.countP fun v => 1 ≤ v ∧ v ≤ 4611686018427387904) = values.length :=
          List.countP_eq_length.mpr fun v hv => by simpa using hrange v hv
        have hpos := List.length_pos_iff.mpr hne
        rw [MajorityIn, hcount]
        omega
      have hmem := (hrobust _ _ hall).1
      rw [computeMedian_of_not_fits hne hrange hfits] at hmem
      omega
    · intro hfits lo hi hmajority
      exact hfits.computeMedian_mem hne hrange hmajority
  · intro responses grdPerUsd now rates result hok peg hpeg husd hvalues lo hi hmajority
    obtain ⟨⟨-, hpos⟩, heq⟩ := (mem_written_iff hok husd).mp hpeg
    have hrate : peg.grdPerUnit = computeMedian values := by
      rw [heq, ← hvalues]
      rfl
    rw [hvalues] at hpos
    -- a sum that wraps gives a negative median, which is not written
    have hfits : MiddleFits values := by
      by_contra hfits
      rw [computeMedian_of_not_fits hne hrange hfits] at hpos
      omega
    rw [hrate]
    exact hfits.computeMedian_mem hne hrange hmajority

theorem computeMedian_robust_sample :
    computeMedian [54347826, 1, 55555555, 54951690] = 54649758 ∧
      54347826 ≤ computeMedian [54347826, 1, 55555555, 54951690] ∧
      computeMedian [54347826, 1, 55555555, 54951690] ≤ 55555555 :=
  ⟨by decide, ((computeMedian_robust_iff [54347826, 1, 55555555, 54951690] (by decide)
    (by decide)).1.mpr (by decide)) 54347826 55555555 (by decide)⟩

/-- Two values of `2^62`. -/
theorem computeMedian_wraps :
    (∀ v ∈ [4611686018427387904, 4611686018427387904], (1 : Int) ≤ v ∧ v ≤ 4611686018427387904) ∧
      MajorityIn 4611686018427387904 4611686018427387904
        [4611686018427387904, 4611686018427387904] ∧
      computeMedian [4611686018427387904, 4611686018427387904] = -4611686018427387904 := by
  decide

end GarudaChain
