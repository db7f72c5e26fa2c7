import GarudaChain.Realtime.Candles
import Mathlib.Algebra.BigOperators.Group.List.Basic
import Mathlib.Order.Bounds.Basic

/-!
# What the bars count
-/

namespace GarudaChain.Realtime

variable {P A : Type}

theorem mem_foldl_add {trades : List (Trade P A)} : ∀ {b : TradeBuffer P A} {fresh : List (Trade P A)}
    {t : Trade P A}, t ∈ (trades.foldl TradeBuffer.add (b, fresh)).1.trades → t ∈ b.trades ∨ t ∈ trades := by
  induction trades with
  | nil => intro b fresh t h; exact .inl h
  | cons u trades ih =>
    intro b fresh t h
    rw [List.foldl_cons, TradeBuffer.add] at h
    split_ifs at h
    · exact (ih h).imp_right (List.mem_cons_of_mem u)
    · rcases ih h with hold | hnew
      · rcases List.mem_append.mp hold with hb | hu
        · exact .inl hb
        · exact .inr (List.mem_singleton.mp hu ▸ List.mem_cons_self)
      · exact .inr (List.mem_cons_of_mem u hnew)

theorem mem_fetch {b : TradeBuffer P A} {fetched : Option (List (Trade P A))} {t : Trade P A}
    (h : t ∈ (b.fetch fetched).trades) : t ∈ b.trades ∨ t ∈ fetched.getD [] := by
  cases fetched with
  | none => exact .inl h
  | some trades =>
    simp only [TradeBuffer.fetch, TradeBuffer.addNew] at h
    split_ifs at h
    · exact mem_foldl_add (List.mem_of_mem_drop h)
    · exact mem_foldl_add h

theorem evict_of_kept {s : CandleSeries P A} (h : s.evict.evicted = false) : s.evict = s := by
  unfold CandleSeries.evict at h ⊢
  split_ifs at h ⊢
  rfl

theorem select_subset (s : CandleSeries P A) (all : List (Trade P A)) : s.select all ⊆ all := by
  unfold CandleSeries.select
  split_ifs
  · exact List.Subset.refl all
  · exact List.filter_subset_self _

def CandleRun.handed (r : CandleRun P A) : CandleEvent P A → List (Trade P A)
  | .subscribe fetched => if r.series.isEmpty then fetched.getD [] else []
  | .refresh fetched => r.series.select (r.buffer.fetch fetched).trades

def CandleRun.newTrades (r : CandleRun P A) : CandleEvent P A → List (Trade P A)
  | .subscribe fetched => if r.series.isEmpty then r.fresh fetched else []
  | .refresh fetched => r.fresh fetched

def CandleEvent.trades : CandleEvent P A → List (Trade P A)
  | .subscribe fetched | .refresh fetched => fetched.getD []

theorem mem_fresh {r : CandleRun P A} {fetched : Option (List (Trade P A))} {t : Trade P A} :
    t ∈ r.fresh fetched ↔ t ∈ fetched.getD [] ∧ t.tradeID ∉ r.fetched.map Trade.tradeID := by
  simp only [CandleRun.fresh, List.mem_filter, decide_eq_true_eq]

def Complete (r : CandleRun P A) (e : CandleEvent P A) : Prop := r.newTrades e ⊆ r.handed e

def Once (r : CandleRun P A) (e : CandleEvent P A) : Prop := (r.handed e).Perm (r.newTrades e)

def candleStart (interval : String) : CandleRun P A := ⟨newTradeBuffer 100, newCandleSeries interval, []⟩

def CandleRun.tradesIn (r : CandleRun P A) (b : Int) : List (Trade P A) :=
  r.fetched.filter fun t => b ≤ t.timestamp ∧ t.timestamp < b + r.series.barSec

section

variable [LinearOrder P] [Zero P]

/-- The node returns trades of one history: an id stands for one trade, with a positive price. -/
structure OfHistory (r : CandleRun P A) (e : CandleEvent P A) : Prop where
  ids : (e.trades.map Trade.tradeID).Nodup
  known : ∀ t ∈ e.trades, ∀ u ∈ r.fetched, u.tradeID = t.tradeID → u = t
  valid : ∀ t ∈ e.trades, 0 < t.price ∧ 0 ≤ t.timestamp

theorem OfHistory.mem {r : CandleRun P A} {e : CandleEvent P A} (h : OfHistory r e) {t : Trade P A}
    (ht : t ∈ e.trades) {fetched : Option (List (Trade P A))} (hfetched : e.trades = fetched.getD []) :
    t ∈ r.fetched ++ r.fresh fetched := by
  by_cases hid : t.tradeID ∈ r.fetched.map Trade.tradeID
  · obtain ⟨u, hu, heq⟩ := List.mem_map.mp hid
    exact List.mem_append_left _ (h.known t ht u hu heq ▸ hu)
  · exact List.mem_append_right _ (mem_fresh.mpr ⟨hfetched ▸ ht, hid⟩)

theorem newTrades_spec {r : CandleRun P A} {e : CandleEvent P A} (he : OfHistory r e) :
    ((r.newTrades e).map Trade.tradeID).Nodup ∧
    ∀ t ∈ r.newTrades e, t ∈ e.trades ∧ t.tradeID ∉ r.fetched.map Trade.tradeID := by
  have hfresh : ∀ fetched : Option (List (Trade P A)), e.trades = fetched.getD [] →
      ((r.fresh fetched).map Trade.tradeID).Nodup ∧
        ∀ t ∈ r.fresh fetched, t ∈ e.trades ∧ t.tradeID ∉ r.fetched.map Trade.tradeID := by
    intro fetched hfetched
    refine ⟨?_, fun t ht => hfetched ▸ mem_fresh.mp ht⟩
    exact (hfetched ▸ he.ids).sublist (List.filter_sublist.map Trade.tradeID)
  cases e with
  | subscribe fetched =>
    unfold CandleRun.newTrades
    split_ifs
    · exact hfresh fetched rfl
    · exact ⟨List.nodup_nil, fun t ht => absurd ht List.not_mem_nil⟩
  | refresh fetched => exact hfresh fetched rfl

structure Fetches (barSec : Int) (r : CandleRun P A) : Prop where
  ids : (r.fetched.map Trade.tradeID).Nodup
  valid : ∀ t ∈ r.fetched, 0 < t.price ∧ 0 ≤ t.timestamp
  buffer : r.buffer.trades ⊆ r.fetched
  barSec : r.series.barSec = barSec

theorem fetches_start (interval : String) :
    Fetches (intervalSeconds interval) (candleStart interval : CandleRun P A) where
  ids := List.nodup_nil
  valid := fun _ ht => absurd ht List.not_mem_nil
  buffer := List.nil_subset _
  barSec := rfl

variable {barSec : Int} {r : CandleRun P A} {e : CandleEvent P A} (h : Fetches barSec r) (he : OfHistory r e)

include h he

theorem handed_subset : r.handed e ⊆ r.fetched ++ r.newTrades e := by
  cases e with
  | subscribe fetched =>
    unfold CandleRun.handed CandleRun.newTrades
    split_ifs
    · exact fun t ht => he.mem ht rfl
    · exact List.nil_subset _
  | refresh fetched =>
    intro t ht
    rcases mem_fetch (select_subset _ _ ht) with hold | hnew
    · exact List.mem_append_left _ (h.buffer hold)
    · exact he.mem hnew rfl

theorem Complete.mem_append_iff (hc : Complete r e) {trades : List (Trade P A)}
    (hmem : ∀ t, t ∈ trades ↔ t ∈ r.fetched) (t : Trade P A) :
    t ∈ trades ++ r.handed e ↔ t ∈ r.fetched ++ r.newTrades e := by
  rw [List.mem_append, hmem]
  constructor
  · rintro (hold | hnew)
    · exact List.mem_append_left _ hold
    · exact handed_subset h he hnew
  · exact fun ht => (List.mem_append.mp ht).imp_right fun hnew => hc hnew

theorem Fetches.valid_append : ∀ t ∈ r.fetched ++ r.newTrades e, 0 < t.price ∧ 0 ≤ t.timestamp := by
  intro t ht
  rcases List.mem_append.mp ht with hold | hnew
  · exact h.valid t hold
  · exact he.valid t ((newTrades_spec he).2 t hnew).1

end

variable [LinearOrder P]

structure Candle.Ranges (bar : Candle P A) (trades : List (Trade P A)) : Prop where
  high : IsGreatest {p | ∃ t ∈ trades, t.price = p} bar.high
  low : IsLeast {p | ∃ t ∈ trades, t.price = p} bar.low

theorem Candle.Ranges.of_mem_iff {bar : Candle P A} {trades trades' : List (Trade P A)}
    (h : bar.Ranges trades) (hmem : ∀ t, t ∈ trades ↔ t ∈ trades') : bar.Ranges trades' := by
  obtain ⟨hhigh, hlow⟩ := h
  simp only [hmem] at hhigh hlow
  exact ⟨hhigh, hlow⟩

variable [AddCommMonoid A]

def nextBar (bucket : Int) : Option (Candle P A) → Trade P A → Candle P A
  | none, t => ⟨bucket, t.price, t.price, t.price, t.price, t.amount⟩
  | some bar, t => bar.update t.price t.amount

def barOf (bucket : Int) (trades : List (Trade P A)) : Option (Candle P A) :=
  trades.foldl (fun bar t => some (nextBar bucket bar t)) none

theorem barOf_append_singleton (bucket : Int) (trades : List (Trade P A)) (t : Trade P A) :
    barOf bucket (trades ++ [t]) = some (nextBar bucket (barOf bucket trades) t) := by
  rw [barOf, List.foldl_append]
  rfl

structure Candle.Counts (bar : Candle P A) (trades : List (Trade P A)) : Prop extends bar.Ranges trades where
  volume : bar.volume = (trades.map Trade.amount).sum

theorem counts_singleton (bucket : Int) (t : Trade P A) : (nextBar bucket none t).Counts [t] where
  volume := by simp [nextBar]
  high := by simp [nextBar]
  low := by simp [nextBar]

theorem Candle.Counts.update {bar : Candle P A} {trades : List (Trade P A)} (h : bar.Counts trades)
    (t : Trade P A) : (bar.update t.price t.amount).Counts (trades ++ [t]) := by
  have hmem : ∀ p, (∃ u ∈ trades ++ [t], u.price = p) ↔ (∃ u ∈ trades, u.price = p) ∨ t.price = p := by
    intro p
    simp only [List.mem_append, List.mem_singleton, or_and_right, exists_or, exists_eq_left]
  refine ⟨⟨?_, ?_⟩, by simp [Candle.update, h.volume]⟩
  · simp only [hmem, Candle.update]
    split_ifs with hp
    · exact ⟨.inr rfl, fun p hmem => hmem.elim (fun hu => (h.high.2 hu).trans hp.le) fun heq => heq ▸ le_refl _⟩
    · exact ⟨.inl h.high.1, fun p hmem => hmem.elim (fun hu => h.high.2 hu) fun heq => heq ▸ not_lt.mp hp⟩
  · simp only [hmem, Candle.update]
    split_ifs with hp
    · exact ⟨.inr rfl, fun p hmem => hmem.elim (fun hu => hp.le.trans (h.low.2 hu)) fun heq => heq ▸ le_refl _⟩
    · exact ⟨.inl h.low.1, fun p hmem => hmem.elim (fun hu => h.low.2 hu) fun heq => heq ▸ not_lt.mp hp⟩

theorem Candle.Counts.perm {bar : Candle P A} {trades trades' : List (Trade P A)} (h : bar.Counts trades)
    (hperm : trades.Perm trades') : bar.Counts trades' :=
  ⟨h.toRanges.of_mem_iff fun _ => hperm.mem_iff, h.volume.trans (hperm.map Trade.amount).sum_eq⟩

theorem barOf_spec (bucket : Int) (trades : List (Trade P A)) :
    (barOf bucket trades = none ∧ trades = []) ∨ ∃ bar, barOf bucket trades = some bar ∧
      bar.time = bucket ∧ bar.Counts trades := by
  induction trades using List.reverseRecOn with
  | nil => exact .inl ⟨rfl, rfl⟩
  | append_singleton trades t ih =>
    right
    rw [barOf_append_singleton]
    rcases ih with ⟨hnone, rfl⟩ | ⟨bar, hbar, htime, hcounts⟩
    · exact ⟨_, rfl, by rw [hnone]; rfl, by rw [hnone]; exact counts_singleton bucket t⟩
    · exact ⟨_, rfl, by rw [hbar]; exact htime, by rw [hbar]; exact hcounts.update t⟩

def CandleSeries.Folds (s : CandleSeries P A) (trades : List (Trade P A)) : Prop :=
  ∀ b, s.bars b = barOf b (trades.filter fun t => bucketOf s.barSec t.timestamp = b)

theorem folds_start (interval : String) : (newCandleSeries interval : CandleSeries P A).Folds [] :=
  fun _ => rfl

variable [Zero P]

theorem kept_of_addTick {s : CandleSeries P A} {t : Trade P A} (h : (s.addTick t).1.evicted = false) :
    s.evicted = false := by
  unfold CandleSeries.addTick at h
  split_ifs at h
  · exact h
  · dsimp only at h
    cases hbar : s.bars (bucketOf s.barSec t.timestamp) with
    | none =>
      rw [hbar] at h
      have hsame := evict_of_kept h
      rwa [hsame] at h
    | some bar =>
      rw [hbar] at h
      exact h

theorem kept_of_addTicks {s : CandleSeries P A} {trades : List (Trade P A)}
    (h : (s.addTicks trades).evicted = false) : s.evicted = false := by
  induction trades generalizing s with
  | nil => exact h
  | cons t trades ih => exact kept_of_addTick (ih h)

theorem addTick_bars {s : CandleSeries P A} {t : Trade P A} (hprice : 0 < t.price)
    (hkept : (s.addTick t).1.evicted = false) : (s.addTick t).1.barSec = s.barSec ∧
      (s.addTick t).1.bars = Function.update s.bars (bucketOf s.barSec t.timestamp)
        (some (nextBar (bucketOf s.barSec t.timestamp) (s.bars (bucketOf s.barSec t.timestamp)) t)) := by
  unfold CandleSeries.addTick at hkept ⊢
  rw [if_neg hprice.not_ge] at hkept ⊢
  dsimp only at hkept ⊢
  cases hbar : s.bars (bucketOf s.barSec t.timestamp) with
  | none =>
    rw [hbar] at hkept
    dsimp only at hkept ⊢
    rw [evict_of_kept hkept]
    exact ⟨rfl, rfl⟩
  | some bar => exact ⟨rfl, rfl⟩

theorem CandleSeries.Folds.addTick {s : CandleSeries P A} {trades : List (Trade P A)} (h : s.Folds trades)
    {t : Trade P A} (hprice : 0 < t.price) (hkept : (s.addTick t).1.evicted = false) :
    (s.addTick t).1.Folds (trades ++ [t]) := by
  obtain ⟨hsec, hbars⟩ := addTick_bars hprice hkept
  intro b
  rw [hbars, hsec, List.filter_append]
  by_cases hb : bucketOf s.barSec t.timestamp = b
  · rw [List.filter_cons_of_pos (by simpa using hb), List.filter_nil, barOf_append_singleton, ← h b, hb,
      Function.update_self]
  · rw [List.filter_cons_of_neg (by simpa using hb), List.filter_nil, List.append_nil,
      Function.update_of_ne (Ne.symm hb)]
    exact h b

theorem CandleSeries.Folds.addTicks {new : List (Trade P A)} (hprices : ∀ t ∈ new, 0 < t.price) :
    ∀ {s : CandleSeries P A} {trades : List (Trade P A)}, s.Folds trades →
      (s.addTicks new).evicted = false →
        (s.addTicks new).barSec = s.barSec ∧ (s.addTicks new).Folds (trades ++ new) := by
  induction new with
  | nil =>
    intro s trades h hkept
    rw [List.append_nil]
    exact ⟨rfl, h⟩
  | cons t new ih =>
    intro s trades h hkept
    obtain ⟨hprice, hrest⟩ := List.forall_mem_cons.mp hprices
    have hstep : (s.addTick t).1.evicted = false := kept_of_addTicks hkept
    obtain ⟨hsec, hfolds⟩ := ih hrest (h.addTick hprice hstep) hkept
    rw [List.append_assoc, List.singleton_append] at hfolds
    exact ⟨hsec.trans (addTick_bars hprice hstep).1, hfolds⟩

theorem applyTrades_fst (s : CandleSeries P A) (trades : List (Trade P A)) :
    (s.applyTrades trades).1 = s.addTicks trades := by
  have hfold : ∀ (trades : List (Trade P A)) (s : CandleSeries P A) (dirty : List Int),
      (trades.foldl (fun (acc : CandleSeries P A × List Int) t =>
        ((acc.1.addTick t).1, (acc.1.addTick t).2.elim acc.2 fun bar => acc.2.insert bar.time))
        (s, dirty)).1 = s.addTicks trades := by
    intro trades
    induction trades with
    | nil => intro s dirty; rfl
    | cons t trades ih => intro s dirty; exact ih _ _
  exact hfold trades s []

theorem candleStep_series (r : CandleRun P A) (e : CandleEvent P A) :
    (candleStep r e).series = r.series.addTicks (r.handed e) ∧
      (candleStep r e).fetched = r.fetched ++ r.newTrades e := by
  cases e with
  | subscribe fetched =>
    unfold candleStep CandleRun.handed CandleRun.newTrades
    split_ifs
    · cases fetched with
      | none => exact ⟨rfl, rfl⟩
      | some trades => exact ⟨rfl, rfl⟩
    · exact ⟨rfl, (List.append_nil _).symm⟩
  | refresh fetched => exact ⟨applyTrades_fst _ _, rfl⟩

section

variable {barSec : Int} {r : CandleRun P A} {e : CandleEvent P A} (h : Fetches barSec r) (he : OfHistory r e)

include h he

theorem CandleSeries.Folds.step {trades : List (Trade P A)} (hfolds : r.series.Folds trades)
    (hkept : (candleStep r e).series.evicted = false) :
    (candleStep r e).series.barSec = barSec ∧ (candleStep r e).series.Folds (trades ++ r.handed e) := by
  have hprices : ∀ t ∈ r.handed e, 0 < t.price := fun t ht =>
    (h.valid_append he t (handed_subset h he ht)).1
  rw [(candleStep_series r e).1] at hkept ⊢
  obtain ⟨hsec, hfolds'⟩ := hfolds.addTicks hprices hkept
  exact ⟨hsec.trans h.barSec, hfolds'⟩

theorem Fetches.step (hsec : (candleStep r e).series.barSec = barSec) : Fetches barSec (candleStep r e) := by
  obtain ⟨hnodup, hnew⟩ := newTrades_spec he
  have hfetched := (candleStep_series r e).2
  refine ⟨?_, ?_, ?_, hsec⟩
  · rw [hfetched, List.map_append, List.nodup_append]
    refine ⟨h.ids, hnodup, ?_⟩
    rintro id hold _ hid rfl
    obtain ⟨t, ht, rfl⟩ := List.mem_map.mp hid
    exact (hnew t ht).2 hold
  · rw [hfetched]
    exact h.valid_append he
  · rw [hfetched]
    cases e with
    | subscribe fetched =>
      have hbuffer : (candleStep r (.subscribe fetched)).buffer = r.buffer := by
        unfold candleStep
        split_ifs <;> rfl
      rw [hbuffer]
      exact fun t ht => List.mem_append_left _ (h.buffer ht)
    | refresh fetched =>
      intro t ht
      rcases mem_fetch ht with hold | hnew
      · exact List.mem_append_left _ (h.buffer hold)
      · exact he.mem hnew rfl

end

theorem intervalSeconds_pos (label : String) : 0 < intervalSeconds label := by
  unfold intervalSeconds
  split <;> decide

theorem bucketOf_eq_iff {barSec ts ts' : Int} (hsec : 0 < barSec) (hts : 0 ≤ ts) (hts' : 0 ≤ ts') :
    bucketOf barSec ts = bucketOf barSec ts' ↔
      bucketOf barSec ts' ≤ ts ∧ ts < bucketOf barSec ts' + barSec := by
  unfold bucketOf
  rw [Int.tdiv_eq_ediv_of_nonneg hts, Int.tdiv_eq_ediv_of_nonneg hts']
  constructor
  · intro heq
    rw [← heq]
    have hlt := Int.lt_ediv_add_one_mul_self ts hsec
    rw [add_mul, one_mul] at hlt
    exact ⟨Int.ediv_mul_le ts hsec.ne', hlt⟩
  · rintro ⟨hle, hlt⟩
    have hlow := Int.le_ediv_of_mul_le hsec hle
    have hhigh : ts / barSec < ts' / barSec + 1 :=
      Int.ediv_lt_of_lt_mul hsec (by rw [add_mul, one_mul]; exact hlt)
    rw [show ts / barSec = ts' / barSec by omega]

section

variable {barSec : Int} (hsec : 0 < barSec) {r : CandleRun P A} (h : Fetches barSec r)
  {trades : List (Trade P A)} (hfolds : r.series.Folds trades) (hmem : ∀ t, t ∈ trades ↔ t ∈ r.fetched)

include hsec h hfolds hmem

theorem filter_bucket_eq {b : Int} {bar : Candle P A} (hbar : r.series.bars b = some bar) :
    bar.Counts (trades.filter fun t => bucketOf barSec t.timestamp = b) ∧
      (r.fetched.filter fun t => bucketOf barSec t.timestamp = b) = r.tradesIn b := by
  have hbars := hfolds b
  rw [hbar, h.barSec] at hbars
  rcases barOf_spec b (trades.filter fun t => bucketOf barSec t.timestamp = b) with
    ⟨hnone, -⟩ | ⟨bar', hsome, -, hcounts⟩
  · rw [hnone] at hbars
    cases hbars
  · rw [hsome] at hbars
    cases hbars
    refine ⟨hcounts, ?_⟩
    obtain ⟨u, hu, -⟩ := hcounts.high.1
    obtain ⟨humem, hub⟩ := List.mem_filter.mp hu
    have hub : bucketOf barSec u.timestamp = b := by simpa using hub
    refine List.filter_congr ?_
    intro t ht
    rw [h.barSec, ← hub]
    exact decide_eq_decide.mpr
      (bucketOf_eq_iff hsec (h.valid t ht).2 (h.valid u ((hmem u).mp humem)).2)

theorem ranges_tradesIn {b : Int} {bar : Candle P A} (hbar : r.series.bars b = some bar) :
    bar.Ranges (r.tradesIn b) := by
  obtain ⟨hcounts, heq⟩ := filter_bucket_eq hsec h hfolds hmem hbar
  rw [← heq]
  refine hcounts.toRanges.of_mem_iff ?_
  intro t
  simp only [List.mem_filter, hmem]

theorem exists_bar {t : Trade P A} (ht : t ∈ r.fetched) :
    ∃ b bar, r.series.bars b = some bar ∧ t ∈ r.tradesIn b := by
  have hbars := hfolds (bucketOf barSec t.timestamp)
  have hin : t ∈ trades.filter fun u => bucketOf barSec u.timestamp = bucketOf barSec t.timestamp :=
    List.mem_filter.mpr ⟨(hmem t).mpr ht, by simp⟩
  rw [h.barSec] at hbars
  rcases barOf_spec (bucketOf barSec t.timestamp)
    (trades.filter fun u => bucketOf barSec u.timestamp = bucketOf barSec t.timestamp) with
    ⟨-, hnil⟩ | ⟨bar, hsome, -, -⟩
  · rw [hnil] at hin
    cases hin
  · have hbar := hbars.trans hsome
    obtain ⟨-, heq⟩ := filter_bucket_eq hsec h hfolds hmem hbar
    exact ⟨_, bar, hbar, heq ▸ List.mem_filter.mpr ⟨ht, by simp⟩⟩

end

theorem candleRun_folds {interval : String} {events : List (CandleEvent P A)}
    {Q : CandleRun P A → CandleEvent P A → Prop} {R : List (Trade P A) → List (Trade P A) → Prop}
    (hnil : R [] [])
    (hstep : ∀ r e trades, Fetches (intervalSeconds interval) r → OfHistory r e → Q r e → R trades r.fetched →
      R (trades ++ r.handed e) (r.fetched ++ r.newTrades e))
    (hhistory : Run.Along candleStep OfHistory (candleStart interval) events)
    (hkept : (Run.run candleStep (candleStart (P := P) (A := A) interval) events).series.evicted = false)
    (hQ : Run.Along candleStep Q (candleStart interval) events) :
    Fetches (intervalSeconds interval) (Run.run candleStep (candleStart interval) events) ∧
      ∃ trades, (Run.run candleStep (candleStart interval) events).series.Folds trades ∧
        R trades (Run.run candleStep (candleStart interval) events).fetched := by
  have hback : ∀ (r : CandleRun P A) e, (candleStep r e).series.evicted = false →
      r.series.evicted = false := by
    intro r e h
    rw [(candleStep_series r e).1] at h
    exact kept_of_addTicks h
  have halong := Run.along_of_run (I := fun r : CandleRun P A => r.series.evicted = false) hback hkept
  refine ((hhistory.and hQ).and halong).inv
    (I := fun r => Fetches (intervalSeconds interval) r ∧ ∃ trades, r.series.Folds trades ∧ R trades r.fetched)
    ?_ ⟨fetches_start interval, [], folds_start interval, hnil⟩
  rintro r e ⟨h, trades, hfolds, hR⟩ ⟨⟨he, hq⟩, hkept'⟩
  obtain ⟨hsec, hfolds'⟩ := hfolds.step h he hkept'
  refine ⟨h.step he hsec, _, hfolds', ?_⟩
  rw [(candleStep_series r e).2]
  exact hstep r e trades h he hq hR

/-- In every run in which no bar is dropped: if the calls hand over all trades that are new, every
    trade is in a bar with its price; if they hand over no other trades, the bars also have the sum
    of their amounts. -/
theorem candleRun_counts (interval : String) (events : List (CandleEvent P A))
    (hhistory : Run.Along candleStep OfHistory (candleStart interval) events)
    (hkept : (Run.run candleStep (candleStart (P := P) (A := A) interval) events).series.evicted = false) :
    let r := Run.run candleStep (candleStart interval) events
    (Run.Along candleStep Complete (candleStart interval) events →
      (∀ t ∈ r.fetched, ∃ b bar, r.series.bars b = some bar ∧ t ∈ r.tradesIn b) ∧
        ∀ b bar, r.series.bars b = some bar → bar.Ranges (r.tradesIn b)) ∧
    (Run.Along candleStep Once (candleStart interval) events →
      (∀ t ∈ r.fetched, ∃ b bar, r.series.bars b = some bar ∧ t ∈ r.tradesIn b) ∧
        ∀ b bar, r.series.bars b = some bar → bar.Counts (r.tradesIn b)) := by
  have hsec := intervalSeconds_pos interval
  intro r
  constructor
  · intro hcomplete
    obtain ⟨h, trades, hfolds, hmem⟩ := candleRun_folds
      (R := fun trades fetched => ∀ t, t ∈ trades ↔ t ∈ fetched) (fun _ => Iff.rfl)
      (fun r e trades h he hc hmem => hc.mem_append_iff h he hmem) hhistory hkept hcomplete
    exact ⟨fun t ht => exists_bar hsec h hfolds hmem ht,
      fun b bar hbar => ranges_tradesIn hsec h hfolds hmem hbar⟩
  · intro honce
    obtain ⟨h, trades, hfolds, hperm⟩ := candleRun_folds (R := List.Perm) (List.Perm.refl [])
      (fun r e trades _ _ hq hperm => hperm.append hq) hhistory hkept honce
    have hmem : ∀ t, t ∈ trades ↔ t ∈ r.fetched := fun t => hperm.mem_iff
    refine ⟨fun t ht => exists_bar hsec h hfolds hmem ht, ?_⟩
    intro b bar hbar
    obtain ⟨hcounts, heq⟩ := filter_bucket_eq hsec h hfolds hmem hbar
    rw [← heq]
    exact hcounts.perm (hperm.filter _)

def firstFold : List (CandleEvent Int Int) :=
  [.subscribe (some []), .refresh (some [⟨"1", 5, 2, 100⟩, ⟨"2", 7, 3, 110⟩, ⟨"3", 4, 1, 130⟩])]

theorem candleRun_counts_firstFold :
    let r := Run.run candleStep (candleStart "1m") firstFold
    r.series.bars 60 = some ⟨60, 5, 7, 5, 7, 5⟩ ∧ (⟨60, 5, 7, 5, 7, 5⟩ : Candle Int Int).Counts (r.tradesIn 60) := by
  have hbar : (Run.run candleStep (candleStart "1m") firstFold).series.bars 60 = some ⟨60, 5, 7, 5, 7, 5⟩ := by
    decide
  refine ⟨hbar, ((candleRun_counts "1m" firstFold ?_ (by decide)).2 ?_).2 60 _ hbar⟩
  · exact ⟨⟨by decide, by decide, by decide⟩, ⟨by decide, by decide, by decide⟩, trivial⟩
  · exact ⟨List.Perm.refl [], List.Perm.refl _, trivial⟩

def lateTrade : List (CandleEvent Int Int) :=
  [.refresh (some [⟨"1", 5, 2, 100⟩]),
    .refresh (some [⟨"1", 5, 2, 100⟩, ⟨"2", 7, 3, 130⟩]),
    .refresh (some [⟨"1", 5, 2, 100⟩, ⟨"2", 7, 3, 130⟩, ⟨"3", 4, 1, 110⟩])]

/-- The second refresh counts the first trade again, and the last one leaves out the late trade. -/
theorem candleRun_miscounts :
    let r := Run.run candleStep (candleStart "1m") lateTrade
    Run.Along candleStep OfHistory (candleStart "1m") lateTrade ∧ r.series.evicted = false ∧
      r.buffer.trades = r.fetched ∧ r.series.bars 60 = some ⟨60, 5, 5, 5, 5, 4⟩ ∧
      r.tradesIn 60 = [⟨"1", 5, 2, 100⟩, ⟨"3", 4, 1, 110⟩] := by
  refine ⟨?_, by decide, by decide, by decide, by decide⟩
  exact ⟨⟨by decide, by decide, by decide⟩, ⟨by decide, by decide, by decide⟩, ⟨by decide, by decide, by decide⟩,
    trivial⟩

end GarudaChain.Realtime
