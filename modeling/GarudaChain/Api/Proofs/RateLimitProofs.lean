import GarudaChain.Api.AdminSig
import GarudaChain.Lib.Run
import Mathlib.Data.Finset.Card
import Mathlib.Data.List.Nodup
import Mathlib.Tactic.Ring

/-!
# The rate limiter

The list of a key holds what is left of its allowed calls: at any later time the calls within the window
are the same in both.
-/

namespace GarudaChain.Api

namespace RateLimiter

variable (rl : RateLimiter) (key : GoString) (now : Int)

def keys : List GoString := rl.hits.map Prod.fst

theorem hitsOf_of_notMem {key : GoString} (h : key ∉ rl.keys) : rl.hitsOf key = [] := by
  have hnone : rl.hits.lookup key = none := by
    rw [List.lookup_eq_none_iff]
    intro e he
    have hne : key ≠ e.1 := by
      rintro rfl
      exact h (List.mem_map_of_mem he)
    simpa using hne
  rw [hitsOf, hnone, Option.getD_none]

theorem hitsOf_setHits (hits : List Int) (k : GoString) :
    (rl.setHits key hits).hitsOf k = if k = key then hits else rl.hitsOf k := by
  simp only [hitsOf, setHits, List.lookup_cons]
  by_cases hk : k = key
  · simp [hk]
  · have hfilter : (rl.hits.filter fun e => e.1 != key).lookup k = rl.hits.lookup k := by
      induction rl.hits with
      | nil => rfl
      | cons e es ih =>
        by_cases he : e.1 = key
        · have hke : (k == e.1) = false := by simpa [he] using hk
          rw [List.filter_cons_of_neg (by simp [he]), ih, List.lookup_cons, hke]
        · rw [List.filter_cons_of_pos (by simp [he]), List.lookup_cons, List.lookup_cons, ih]
    have hkey : (k == key) = false := by simpa using hk
    rw [hkey, hfilter, if_neg hk]

theorem mem_keys_setHits (hits : List Int) (k : GoString) :
    k ∈ (rl.setHits key hits).keys ↔ k = key ∨ k ∈ rl.keys := by
  simp only [keys, setHits, List.map_cons, List.mem_cons, List.mem_map, List.mem_filter]
  by_cases hk : k = key
  · simp [hk]
  · simp only [hk, false_or]
    constructor
    · rintro ⟨e, ⟨he, -⟩, rfl⟩
      exact ⟨e, he, rfl⟩
    · rintro ⟨e, he, rfl⟩
      exact ⟨e, ⟨he, by simpa using hk⟩, rfl⟩

theorem nodup_keys_setHits {rl : RateLimiter} (hnodup : rl.keys.Nodup) (hits : List Int) :
    (rl.setHits key hits).keys.Nodup := by
  simp only [keys, setHits, List.map_cons, List.nodup_cons, List.mem_map, List.mem_filter]
  refine ⟨?_, hnodup.sublist (List.filter_sublist.map _)⟩
  rintro ⟨e, ⟨-, hne⟩, rfl⟩
  simp at hne

theorem prune_of_forall_ne {rl : RateLimiter} (h : ∀ e ∈ rl.hits, e.2 ≠ []) : rl.prune = rl := by
  unfold prune
  have hall : (rl.hits.filter fun e => e.2 ≠ []) = rl.hits := by
    rw [List.filter_eq_self]
    intro e he
    simpa using h e he
  rw [hall, ite_self]

theorem allow_cases :
    (rl.limit ≤ (rl.fresh key now).length ∧
        rl.allow key now = (false, rl.setHits key (rl.fresh key now))) ∨
      ((rl.fresh key now).length < rl.limit ∧
        rl.allow key now = (true, (rl.setHits key (rl.fresh key now ++ [now])).prune)) := by
  by_cases hlimit : rl.limit ≤ (rl.fresh key now).length
  · exact .inl ⟨hlimit, if_pos hlimit⟩
  · exact .inr ⟨by omega, if_neg hlimit⟩

end RateLimiter

structure LimiterCall where
  key : GoString
  now : Int
  deriving DecidableEq

structure LimiterRun where
  limiter : RateLimiter
  clock : Int
  allowed : List LimiterCall

namespace LimiterRun

def step (s : LimiterRun) (call : LimiterCall) : LimiterRun :=
  match s.limiter.allow call.key call.now with
  | (true, limiter) => ⟨limiter, call.now, s.allowed ++ [call]⟩
  | (false, limiter) => ⟨limiter, call.now, s.allowed⟩

/-- The times of the allowed calls of a key. -/
def times (s : LimiterRun) (key : GoString) : List Int :=
  (s.allowed.filter fun call => call.key = key).map LimiterCall.now

/-- The number of calls of a key allowed in `(t - window, t]`. -/
def allowedIn (s : LimiterRun) (window : Int) (key : GoString) (t : Int) : Nat :=
  ((s.times key).filter fun a => t - window < a ∧ a ≤ t).length

/-- The keys with an allowed call in `(t - window, t]`. -/
def activeKeys (s : LimiterRun) (window : Int) (t : Int) : Finset GoString :=
  ((s.allowed.filter fun call => t - window < call.now ∧ call.now ≤ t).map LimiterCall.key).toFinset

def start (limit : Nat) (window clock : Int) : LimiterRun := ⟨newRateLimiter limit window, clock, []⟩

structure Stored (limit : Nat) (window : Int) (called : List GoString) (s : LimiterRun) : Prop where
  limit_eq : s.limiter.limit = limit
  window_eq : s.limiter.window = window
  nodup : s.limiter.keys.Nodup
  mem_keys : ∀ k, k ∈ s.limiter.keys ↔ k ∈ called
  ne_nil : 0 < limit → ∀ e ∈ s.limiter.hits, e.2 ≠ []

variable {limit : Nat} {window : Int} {called : List GoString} {s : LimiterRun}

theorem Stored.step_cases (h : Stored limit window called s) (call : LimiterCall) :
    (limit ≤ (s.limiter.fresh call.key call.now).length ∧
        (s.limiter.allow call.key call.now).1 = false ∧
        s.step call = ⟨s.limiter.setHits call.key (s.limiter.fresh call.key call.now), call.now,
          s.allowed⟩) ∨
      ((s.limiter.fresh call.key call.now).length < limit ∧
        (s.limiter.allow call.key call.now).1 = true ∧
        s.step call = ⟨s.limiter.setHits call.key (s.limiter.fresh call.key call.now ++ [call.now]),
          call.now, s.allowed ++ [call]⟩) := by
  unfold step
  rcases s.limiter.allow_cases call.key call.now with ⟨hfull, hallow⟩ | ⟨hroom, hallow⟩
  · rw [h.limit_eq] at hfull
    rw [hallow]
    exact .inl ⟨hfull, rfl, rfl⟩
  · rw [h.limit_eq] at hroom
    have hkept : ∀ e ∈ (s.limiter.setHits call.key
        (s.limiter.fresh call.key call.now ++ [call.now])).hits, e.2 ≠ [] := by
      intro e he
      rcases List.mem_cons.mp he with rfl | he
      · simp
      · exact h.ne_nil (by omega) e (List.mem_filter.mp he).1
    rw [hallow, RateLimiter.prune_of_forall_ne hkept]
    exact .inr ⟨hroom, rfl, rfl⟩

theorem Stored.setHits (h : Stored limit window called s) (key : GoString) {hits : List Int}
    (hhits : 0 < limit → hits ≠ []) (clock : Int) (allowed : List LimiterCall) :
    Stored limit window (called ++ [key]) ⟨s.limiter.setHits key hits, clock, allowed⟩ where
  limit_eq := h.limit_eq
  window_eq := h.window_eq
  nodup := RateLimiter.nodup_keys_setHits key h.nodup hits
  mem_keys k := by
    rw [RateLimiter.mem_keys_setHits, h.mem_keys, List.mem_append, List.mem_singleton, or_comm]
  ne_nil hlimit e he := by
    rcases List.mem_cons.mp he with rfl | he
    · exact hhits hlimit
    · exact h.ne_nil hlimit e (List.mem_filter.mp he).1

theorem Stored.step (h : Stored limit window called s) (call : LimiterCall) :
    Stored limit window (called ++ [call.key]) (s.step call) := by
  rcases h.step_cases call with ⟨hfull, -, hstep⟩ | ⟨-, -, hstep⟩
  · rw [hstep]
    refine h.setHits call.key ?_ _ _
    intro hlimit hnil
    rw [hnil, List.length_nil] at hfull
    omega
  · rw [hstep]
    exact h.setHits call.key (fun _ => by simp) _ _

theorem stored_start (limit : Nat) (window clock : Int) :
    Stored limit window [] (start limit window clock) where
  limit_eq := rfl
  window_eq := rfl
  nodup := List.nodup_nil
  mem_keys _ := Iff.rfl
  ne_nil _ _ he := by cases he

theorem Stored.run (h : Stored limit window called s) (calls : List LimiterCall) :
    Stored limit window (called ++ calls.map LimiterCall.key) (Run.run LimiterRun.step s calls) := by
  induction calls generalizing s called with
  | nil => simpa using h
  | cons call calls ih => simpa [List.append_assoc] using ih (h.step call)

theorem stored_run (limit : Nat) (window clock : Int) (calls : List LimiterCall) :
    Stored limit window (calls.map LimiterCall.key)
      (Run.run LimiterRun.step (start limit window clock) calls) :=
  (stored_start limit window clock).run calls

/-- The hits of a key and its allowed calls have the same times in the window, and no window had
    more than the limit. -/
structure Exact (limit : Nat) (window : Int) (s : LimiterRun) : Prop where
  hits : ∀ key t, s.clock ≤ t →
    (s.limiter.hitsOf key).filter (fun a => t - window < a) =
      (s.times key).filter (fun a => t - window < a)
  past : ∀ key, ∀ a ∈ s.times key, a ≤ s.clock
  bounded : ∀ key t, s.allowedIn window key t ≤ limit

theorem times_append (s : LimiterRun) (limiter : RateLimiter) (clock : Int) (call : LimiterCall)
    (key : GoString) :
    times ⟨limiter, clock, s.allowed ++ [call]⟩ key =
      s.times key ++ if key = call.key then [call.now] else [] := by
  unfold times
  by_cases hkey : key = call.key
  · simp [hkey]
  · simp [hkey, Ne.symm hkey]

theorem Exact.length_fresh (hstored : Stored limit window called s) (h : Exact limit window s)
    (key : GoString) {now : Int} (hclock : s.clock ≤ now) :
    (s.limiter.fresh key now).length = s.allowedIn window key now := by
  unfold RateLimiter.fresh allowedIn
  rw [hstored.window_eq, h.hits key now hclock]
  congr 1
  apply List.filter_congr
  intro a ha
  have hpast := h.past key a ha
  simp only [decide_eq_decide]
  omega

theorem filter_fresh (hstored : Stored limit window called s) (key : GoString) {now t : Int}
    (hnow : now ≤ t) :
    (s.limiter.fresh key now).filter (fun a => t - window < a) =
      (s.limiter.hitsOf key).filter (fun a => t - window < a) := by
  unfold RateLimiter.fresh
  rw [hstored.window_eq, List.filter_filter]
  apply List.filter_congr
  intro a _
  simp only [← Bool.decide_and, decide_eq_decide]
  omega

theorem allowedIn_le_of_now (window : Int) (s : LimiterRun) (key : GoString) {now t : Int} (hnow : now ≤ t)
    (hpast : ∀ a ∈ s.times key, a ≤ now) : s.allowedIn window key t ≤ s.allowedIn window key now := by
  unfold allowedIn
  rw [← List.countP_eq_length_filter, ← List.countP_eq_length_filter]
  apply List.countP_mono_left
  intro a ha hin
  have hle := hpast a ha
  simp only [decide_eq_true_eq] at hin ⊢
  omega

theorem Exact.step (hstored : Stored limit window called s) (h : Exact limit window s)
    (call : LimiterCall) (hclock : s.clock ≤ call.now) : Exact limit window (s.step call) := by
  have hpast : ∀ key, ∀ a ∈ s.times key, a ≤ call.now :=
    fun key a ha => le_trans (h.past key a ha) hclock
  rcases hstored.step_cases call with ⟨-, -, hstep⟩ | ⟨hroom, -, hstep⟩
  · rw [hstep]
    refine ⟨?_, hpast, h.bounded⟩
    intro key t ht
    have hbefore := h.hits key t (le_trans hclock ht)
    rw [RateLimiter.hitsOf_setHits]
    split_ifs with hkey
    · subst hkey
      rw [filter_fresh hstored _ ht]
      exact hbefore
    · exact hbefore
  · rw [hstep]
    rw [h.length_fresh hstored _ hclock] at hroom
    refine ⟨?_, ?_, ?_⟩
    · intro key t ht
      have hbefore := h.hits key t (le_trans hclock ht)
      rw [RateLimiter.hitsOf_setHits, times_append, List.filter_append]
      split_ifs with hkey
      · subst hkey
        rw [List.filter_append, filter_fresh hstored _ ht, hbefore]
      · simpa using hbefore
    · intro key a ha
      rw [times_append, List.mem_append] at ha
      rcases ha with ha | ha
      · exact hpast key a ha
      · split_ifs at ha with hkey
        · exact (List.mem_singleton.mp ha).le
        · cases ha
    · intro key t
      have hbefore := h.bounded key t
      rw [allowedIn] at hbefore
      rw [allowedIn, times_append, List.filter_append, List.length_append]
      by_cases hnew : key = call.key ∧ t - window < call.now ∧ call.now ≤ t
      · -- the window ends after the new call, so what it held before was fresh at that call
        obtain ⟨rfl, hin⟩ := hnew
        have hfresh := allowedIn_le_of_now window s call.key hin.2 (hpast call.key)
        rw [allowedIn, allowedIn] at hfresh
        rw [allowedIn] at hroom
        simp only [if_true, List.filter_cons, hin, and_self, decide_true, List.filter_nil,
          List.length_singleton]
        omega
      · have hnone : (if key = call.key then [call.now] else []).filter
            (fun a => decide (t - window < a ∧ a ≤ t)) = [] := by
          split_ifs with hkey
          · simpa [hkey] using hnew
          · rfl
        rw [hnone]
        simpa using hbefore

theorem exact_start (limit : Nat) (window clock : Int) :
    Exact limit window (start limit window clock) where
  hits _ _ _ := rfl
  past _ _ ha := by cases ha
  bounded _ _ := Nat.zero_le _

end LimiterRun

/-- In every run with a clock that does not go back, no window holds more allowed calls of a key than
    the limit, and a call is refused only where the window that ends with it holds exactly that many. -/
theorem limiterRun_window (limit : Nat) (window clock : Int) (calls : List LimiterCall)
    (hclock : Run.Along LimiterRun.step (fun s call => s.clock ≤ call.now)
      (LimiterRun.start limit window clock) calls) :
    (∀ key t, (Run.run LimiterRun.step (LimiterRun.start limit window clock) calls).allowedIn
        window key t ≤ limit) ∧
      Run.Along LimiterRun.step
        (fun s call => (s.limiter.allow call.key call.now).1 = false →
          s.allowedIn window call.key call.now = limit)
        (LimiterRun.start limit window clock) calls := by
  have hstart : (∃ called, LimiterRun.Stored limit window called (.start limit window clock)) ∧
      LimiterRun.Exact limit window (.start limit window clock) :=
    ⟨⟨[], LimiterRun.stored_start limit window clock⟩, LimiterRun.exact_start limit window clock⟩
  have hkept : ∀ (s : LimiterRun) (call : LimiterCall),
      (∃ called, LimiterRun.Stored limit window called s) ∧ LimiterRun.Exact limit window s →
      s.clock ≤ call.now →
      (∃ called, LimiterRun.Stored limit window called (s.step call)) ∧
        LimiterRun.Exact limit window (s.step call) := by
    rintro s call ⟨⟨called, hstored⟩, hexact⟩ hnow
    exact ⟨⟨_, hstored.step call⟩, hexact.step hstored call hnow⟩
  refine ⟨(hclock.inv hkept hstart).2.bounded, hclock.mono hkept ?_ hstart⟩
  rintro s call ⟨⟨called, hstored⟩, hexact⟩ hnow hrefused
  rcases hstored.step_cases call with ⟨hfull, -, -⟩ | ⟨-, hallowed, -⟩
  · rw [hexact.length_fresh hstored _ hnow] at hfull
    exact le_antisymm (hexact.bounded call.key call.now) hfull
  · rw [hallowed] at hrefused
    cases hrefused

def sampleLimiterCalls : List LimiterCall :=
  [⟨[97], 10⟩, ⟨[97], 20⟩, ⟨[97], 60⟩]

theorem limiterRun_window_sample :
    ((Run.run LimiterRun.step (LimiterRun.start 2 60 0) sampleLimiterCalls).limiter.allow [97] 69).1
        = false ∧
      (Run.run LimiterRun.step (LimiterRun.start 2 60 0) sampleLimiterCalls).allowedIn 60 [97] 69
        = 2 ∧
      ∀ key t, (Run.run LimiterRun.step (LimiterRun.start 2 60 0)
        (sampleLimiterCalls ++ [⟨[97], 69⟩])).allowedIn 60 key t ≤ 2 :=
  ⟨by decide, by decide, (limiterRun_window 2 60 0 _ (by decide)).1⟩

namespace LimiterRun

variable {limit : Nat} {window : Int} {called : List GoString} {s : LimiterRun}

theorem Stored.length_hits (h : Stored limit window called s) :
    s.limiter.hits.length = called.toFinset.card := by
  have hsame : s.limiter.keys.toFinset = called.toFinset := by
    ext k
    rw [List.mem_toFinset, List.mem_toFinset, h.mem_keys]
  rw [← hsame, List.toFinset_card_of_nodup h.nodup, RateLimiter.keys, List.length_map]

theorem allowed_step (s : LimiterRun) (call : LimiterCall) :
    ∀ c ∈ (s.step call).allowed, c ∈ s.allowed ∨ c = call := by
  intro c hc
  unfold step at hc
  rcases s.limiter.allow_cases call.key call.now with ⟨-, hallow⟩ | ⟨-, hallow⟩
  · rw [hallow] at hc
    exact .inl hc
  · rw [hallow] at hc
    simpa using hc

theorem allowed_run (s : LimiterRun) (calls : List LimiterCall) :
    ∀ c ∈ (Run.run step s calls).allowed, c ∈ s.allowed ∨ c ∈ calls := by
  induction calls generalizing s with
  | nil => exact fun c hc => .inl hc
  | cons call calls ih =>
    intro c hc
    rcases ih (s.step call) c hc with hbefore | hafter
    · rcases allowed_step s call c hbefore with hold | rfl
      · exact .inl hold
      · exact .inr List.mem_cons_self
    · exact .inr (List.mem_cons_of_mem _ hafter)

theorem mem_activeKeys {t : Int} {key : GoString} :
    key ∈ s.activeKeys window t ↔ ∃ c ∈ s.allowed, c.key = key ∧ t - window < c.now ∧ c.now ≤ t := by
  simp only [activeKeys, List.mem_toFinset, List.mem_map, List.mem_filter, decide_eq_true_eq]
  constructor
  · rintro ⟨c, ⟨hc, hin⟩, rfl⟩
    exact ⟨c, hc, rfl, hin⟩
  · rintro ⟨c, hc, rfl, hin⟩
    exact ⟨c, ⟨hc, hin⟩, rfl⟩

theorem activeKeys_subset (limit : Nat) (window clock t : Int) (calls : List LimiterCall) :
    (Run.run step (start limit window clock) calls).activeKeys window t ⊆
      (calls.map LimiterCall.key).toFinset := by
  intro key hkey
  obtain ⟨c, hc, rfl, -⟩ := mem_activeKeys.mp hkey
  rcases allowed_run _ calls c hc with hnone | hcall
  · cases hnone
  · exact List.mem_toFinset.mpr (List.mem_map_of_mem hcall)

end LimiterRun

/-- After an allowed call the map is within its bound exactly where at most 10000 different keys have
    called so far, or each of them had an allowed call in the last window. -/
theorem limiterRun_bounded_iff (limit : Nat) (window clock : Int) (calls : List LimiterCall)
    (call : LimiterCall) :
    (Run.run LimiterRun.step (.start limit window clock) (calls ++ [call])).limiter.hits.length ≤
        max maxRateKeys ((Run.run LimiterRun.step (.start limit window clock)
          (calls ++ [call])).activeKeys window call.now).card ↔
      ((calls ++ [call]).map LimiterCall.key).toFinset.card ≤ maxRateKeys ∨
        ∀ c ∈ calls ++ [call], c.key ∈ (Run.run LimiterRun.step (.start limit window clock)
          (calls ++ [call])).activeKeys window call.now := by
  have hactive := LimiterRun.activeKeys_subset limit window clock call.now (calls ++ [call])
  rw [(LimiterRun.stored_run limit window clock (calls ++ [call])).length_hits, le_max_iff]
  refine or_congr Iff.rfl ?_
  constructor
  · intro hcard c hc
    rw [Finset.eq_of_subset_of_card_le hactive hcard]
    exact List.mem_toFinset.mpr (List.mem_map_of_mem hc)
  · intro hall
    refine Finset.card_le_card ?_
    intro key hkey
    obtain ⟨c, hc, rfl⟩ := List.mem_map.mp (List.mem_toFinset.mp hkey)
    exact hall c hc

/-- The first calls of that many keys, all at time 0. -/
def flood (n : Nat) : List LimiterCall := (List.range n).map fun i => ⟨List.replicate i 97, 0⟩

/-- A call of a key of its own, one window later. -/
def lateCall : LimiterCall := ⟨[98], 60000000000⟩

theorem card_flood (n : Nat) : ((flood n ++ [lateCall]).map LimiterCall.key).toFinset.card = n + 1 := by
  have hkeys : (flood n ++ [lateCall]).map LimiterCall.key =
      (List.range n).map (fun i => List.replicate i 97) ++ [[98]] := by
    simp [flood, lateCall, Function.comp_def]
  have hnodup : ((List.range n).map (fun i => List.replicate i (97 : UInt8)) ++ [[98]]).Nodup := by
    rw [List.nodup_append]
    refine ⟨List.nodup_range.map (List.replicate_left_injective 97), List.nodup_singleton _, ?_⟩
    intro key hkey other hother heq
    obtain ⟨i, -, rfl⟩ := List.mem_map.mp hkey
    rw [List.mem_singleton.mp hother] at heq
    have hmem : (98 : UInt8) ∈ List.replicate i 97 := heq ▸ List.mem_singleton_self _
    exact absurd (List.eq_of_mem_replicate hmem) (by decide)
  rw [hkeys, List.toFinset_card_of_nodup hnodup]
  simp

/-- More than 10000 keys that have called once are still there a minute later. -/
theorem limiterRun_unbounded :
    ((Run.run LimiterRun.step (.start 20 60000000000 0) (flood 10001)).limiter.allow lateCall.key
        lateCall.now).1 = true ∧
      ¬ (Run.run LimiterRun.step (.start 20 60000000000 0)
          (flood 10001 ++ [lateCall])).limiter.hits.length ≤
        max maxRateKeys ((Run.run LimiterRun.step (.start 20 60000000000 0)
          (flood 10001 ++ [lateCall])).activeKeys 60000000000 lateCall.now).card := by
  have hstored := LimiterRun.stored_run 20 60000000000 0 (flood 10001)
  refine ⟨?_, ?_⟩
  · -- the key has no entry, so its list is empty
    have hnew : lateCall.key ∉ (Run.run LimiterRun.step
        (.start 20 60000000000 0) (flood 10001)).limiter.keys := by
      rw [hstored.mem_keys]
      intro hmem
      obtain ⟨c, hc, hkey⟩ := List.mem_map.mp hmem
      obtain ⟨i, -, rfl⟩ := List.mem_map.mp hc
      have hkey' : List.replicate i (97 : UInt8) = [98] := hkey
      have hmem' : (98 : UInt8) ∈ List.replicate i 97 := hkey' ▸ List.mem_singleton_self _
      exact absurd (List.eq_of_mem_replicate hmem') (by decide)
    rcases hstored.step_cases lateCall with ⟨hfull, -, -⟩ | ⟨-, hallowed, -⟩
    · rw [RateLimiter.fresh, RateLimiter.hitsOf_of_notMem _ hnew, List.filter_nil] at hfull
      exact absurd hfull (by decide)
    · exact hallowed
  · have hactive : (Run.run LimiterRun.step (.start 20 60000000000 0)
        (flood 10001 ++ [lateCall])).activeKeys 60000000000 lateCall.now ⊆ {lateCall.key} := by
      intro key hkey
      obtain ⟨c, hc, rfl, hin, -⟩ := LimiterRun.mem_activeKeys.mp hkey
      rcases LimiterRun.allowed_run _ _ c hc with hnone | hcall
      · cases hnone
      · rcases List.mem_append.mp hcall with hold | hlate
        · obtain ⟨i, -, rfl⟩ := List.mem_map.mp hold
          have hlate : lateCall.now - 60000000000 < 0 := hin
          exact absurd hlate (by decide)
        · rw [List.mem_singleton.mp hlate]
          exact Finset.mem_singleton_self _
    have hcard := Finset.card_le_card hactive
    rw [Finset.card_singleton] at hcard
    have hmax : maxRateKeys = 10000 := rfl
    rw [(LimiterRun.stored_run 20 60000000000 0 (flood 10001 ++ [lateCall])).length_hits, card_flood]
    omega

end GarudaChain.Api
