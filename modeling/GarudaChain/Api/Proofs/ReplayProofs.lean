import GarudaChain.Api.AdminSig
import GarudaChain.Lib.Run
import Mathlib.Algebra.Order.Group.Abs
import Mathlib.Data.List.TakeWhile
import Mathlib.Tactic.NormNum
import Mathlib.Tactic.Ring

/-!
# A request is accepted once
-/

namespace GarudaChain.Api

def unexpired (cache : NonceLRU) (now : Int) : NonceLRU :=
  (cache.reverse.dropWhile fun e => e.2 ≤ now).reverse

/-- A timestamp in nanoseconds, as `time.Unix` has it. -/
def unixNano (tsUnix : Int) : Int := (wrap64 (tsUnix + 62135596800) - 62135596800) * goSecond

variable {cache cache' : NonceLRU} {now tsUnix : Int} {nonce : GoString}

theorem mem_unexpired {e : GoString × Int} (he : e ∈ cache)
    (hlate : now < e.2) : e ∈ unexpired cache now := by
  have hsplit := List.takeWhile_append_dropWhile (p := fun e => decide (e.2 ≤ now))
    (l := cache.reverse)
  have hmem : e ∈ cache.reverse := List.mem_reverse.mpr he
  rw [← hsplit] at hmem
  rw [unexpired, List.mem_reverse]
  rcases List.mem_append.mp hmem with htake | hdrop
  · have hexpired := List.mem_takeWhile_imp htake
    have hexpired' : e.2 ≤ now := by simpa using hexpired
    omega
  · exact hdrop

theorem seenOrRecord_cases (cache : NonceLRU) (nonce : GoString) (now : Int) :
    seenOrRecord cache nonce now = (true, unexpired cache now) ∨
      (∀ e ∈ unexpired cache now, e.1 ≠ nonce) ∧
        seenOrRecord cache nonce now = (false,
          (nonce, now + nonceCacheTTL) :: (unexpired cache now).take (nonceCacheSize - 1)) := by
  unfold seenOrRecord
  simp only
  split_ifs with hseen
  · exact .inl rfl
  · refine .inr ⟨?_, rfl⟩
    intro e he hnonce
    exact hseen (List.any_eq_true.mpr ⟨e, he, beq_iff_eq.mpr hnonce⟩)

theorem window_of_drift (now ts : Int)
    (h : ¬ replayWindow < if goSub now ts < 0 then wrap64 (-goSub now ts) else goSub now ts)
    (hfar : ts - now < 9223372036854775808) :
    ts ≤ now + replayWindow ∧ now ≤ ts + replayWindow := by
  have hwindow : replayWindow = 300000000000 := rfl
  unfold goSub at h
  split_ifs at h with hneg
  · have hsub : max (-9223372036854775808) (min 9223372036854775807 (now - ts)) = now - ts := by
      omega
    rw [hsub, Int64Lib.wrap64_of_range (by omega) (by omega)] at h
    omega
  · omega

structure Accepted (cache : NonceLRU) (nonce : GoString) (tsUnix : Int) (now : Int)
    (cache' : NonceLRU) : Prop where
  unseen : ∀ e ∈ unexpired cache now, e.1 ≠ nonce
  recorded : cache' =
    (nonce, now + nonceCacheTTL) :: (unexpired cache now).take (nonceCacheSize - 1)
  window : unixNano tsUnix - now < 9223372036854775808 →
    unixNano tsUnix ≤ now + replayWindow ∧ now ≤ unixNano tsUnix + replayWindow

theorem checkAdminReplay_cases {strict : Bool} {verdict : Except ReplayError Unit}
    (h : checkAdminReplay cache nonce tsUnix strict now = (verdict, cache')) :
    (cache' = cache ∧ (verdict = .ok () → nonce = [])) ∨
      (cache' = unexpired cache now ∧ verdict = .error .nonceUsed) ∨
      (verdict = .ok () ∧ Accepted cache nonce tsUnix now cache') := by
  unfold checkAdminReplay at h
  by_cases hlegacy : nonce = [] ∧ tsUnix = 0
  · rw [if_pos hlegacy] at h
    exact .inl ⟨(Prod.mk.inj h).2.symm, fun _ => hlegacy.1⟩
  rw [if_neg hlegacy] at h
  by_cases hnonce : nonce = []
  · rw [if_pos hnonce] at h
    exact .inl ⟨(Prod.mk.inj h).2.symm, fun _ => hnonce⟩
  rw [if_neg hnonce] at h
  by_cases hts : tsUnix = 0
  · rw [if_pos hts] at h
    obtain ⟨rfl, rfl⟩ := Prod.mk.inj h
    exact .inl ⟨rfl, fun hok => by cases hok⟩
  rw [if_neg hts] at h
  by_cases hlength : nonce.length < minNonceLen ∨ maxNonceLen < nonce.length
  · rw [if_pos hlength] at h
    obtain ⟨rfl, rfl⟩ := Prod.mk.inj h
    exact .inl ⟨rfl, fun hok => by cases hok⟩
  rw [if_neg hlength] at h
  -- the checks that need no state are passed
  simp only at h
  by_cases hwindow : replayWindow <
      if goSub now (unixNano tsUnix) < 0 then wrap64 (-goSub now (unixNano tsUnix))
      else goSub now (unixNano tsUnix)
  · rw [unixNano] at hwindow
    rw [if_pos hwindow] at h
    obtain ⟨rfl, rfl⟩ := Prod.mk.inj h
    exact .inl ⟨rfl, fun hok => by cases hok⟩
  · have hpassed := window_of_drift now (unixNano tsUnix) hwindow
    rw [unixNano] at hwindow
    rw [if_neg hwindow] at h
    rcases seenOrRecord_cases cache nonce now with hseen | ⟨hunseen, hrecord⟩
    · rw [hseen] at h
      obtain ⟨rfl, rfl⟩ := Prod.mk.inj h
      exact .inr (.inl ⟨rfl, rfl⟩)
    · rw [hrecord] at h
      obtain ⟨rfl, rfl⟩ := Prod.mk.inj h
      exact .inr (.inr ⟨rfl, hunseen, rfl, hpassed⟩)

structure ReplayCall where
  nonce : GoString
  tsUnix : Int
  strict : Bool
  now : Int

structure ReplayRun where
  cache : NonceLRU
  clock : Int
  accepted : List (GoString × Int)

def ReplayRun.step (s : ReplayRun) (call : ReplayCall) : ReplayRun :=
  match checkAdminReplay s.cache call.nonce call.tsUnix call.strict call.now with
  | (.ok (), cache) => ⟨cache, call.now, s.accepted ++ [(call.nonce, call.tsUnix)]⟩
  | (.error _, cache) => ⟨cache, call.now, s.accepted⟩

/-- The cache is not full, and the pair is not presented so early that it outlives its nonce. -/
structure Outlives (nonce : GoString) (tsUnix : Int) (s : ReplayRun) (call : ReplayCall) : Prop where
  notFull : (unexpired s.cache call.now).length < nonceCacheSize
  notAhead : call.nonce = nonce → call.tsUnix = tsUnix →
    unixNano tsUnix - call.now < 9223372036854775808 ∧
      unixNano tsUnix ≠ call.now + replayWindow

/-- A pair was not accepted yet, or it was accepted once, less than five minutes before its
    timestamp, and its nonce is in the cache until it expires. -/
def Guarded (nonce : GoString) (tsUnix : Int) (s : ReplayRun) : Prop :=
  s.accepted.count (nonce, tsUnix) = 0 ∨
    s.accepted.count (nonce, tsUnix) = 1 ∧
      ∃ at₀, unixNano tsUnix < at₀ + replayWindow ∧
        (s.clock < at₀ + nonceCacheTTL → (nonce, at₀ + nonceCacheTTL) ∈ s.cache)

theorem mem_of_checkAdminReplay {call : ReplayCall}
    {verdict : Except ReplayError Unit} {e : GoString × Int}
    (h : checkAdminReplay cache call.nonce call.tsUnix call.strict call.now = (verdict, cache'))
    (hnotFull : (unexpired cache call.now).length < nonceCacheSize) (he : e ∈ cache)
    (hlate : call.now < e.2) : e ∈ cache' := by
  have hkept := mem_unexpired he hlate
  rcases checkAdminReplay_cases h with ⟨rfl, -⟩ | ⟨rfl, -⟩ | ⟨-, haccepted⟩
  · exact he
  · exact hkept
  · rw [haccepted.recorded, List.take_of_length_le (by omega)]
    exact List.mem_cons_of_mem _ hkept

theorem not_accepted_twice {at₀ clock : Int}
    (hearly : unixNano tsUnix < at₀ + replayWindow)
    (hmem : clock < at₀ + nonceCacheTTL → (nonce, at₀ + nonceCacheTTL) ∈ cache)
    (hclock : clock ≤ now) (hfar : unixNano tsUnix - now < 9223372036854775808)
    (h : Accepted cache nonce tsUnix now cache') : False := by
  have httl : nonceCacheTTL = replayWindow + replayWindow := rfl
  obtain ⟨-, hlate⟩ := h.window hfar
  -- while the timestamp is accepted, its nonce has not expired
  have hfresh : now < at₀ + nonceCacheTTL := by omega
  exact h.unseen _ (mem_unexpired (hmem (by omega)) hfresh) rfl

theorem guarded_step (hnonce : nonce ≠ []) {s : ReplayRun}
    {call : ReplayCall} (hguarded : Guarded nonce tsUnix s) (hclock : s.clock ≤ call.now)
    (houtlives : Outlives nonce tsUnix s call) : Guarded nonce tsUnix (s.step call) := by
  rcases hcheck : checkAdminReplay s.cache call.nonce call.tsUnix call.strict call.now with
    ⟨verdict, cache⟩
  have hkept : ∀ at₀, (s.clock < at₀ + nonceCacheTTL → (nonce, at₀ + nonceCacheTTL) ∈ s.cache) →
      call.now < at₀ + nonceCacheTTL → (nonce, at₀ + nonceCacheTTL) ∈ cache := by
    intro at₀ hmem hlate
    exact mem_of_checkAdminReplay hcheck houtlives.notFull (hmem (by omega)) hlate
  cases verdict with
  | error err =>
    have hstep : s.step call = ⟨cache, call.now, s.accepted⟩ := by simp [ReplayRun.step, hcheck]
    rw [hstep]
    rcases hguarded with hzero | ⟨hone, at₀, hearly, hmem⟩
    · exact .inl hzero
    · exact .inr ⟨hone, at₀, hearly, hkept at₀ hmem⟩
  | ok u =>
    have hstep : s.step call =
        ⟨cache, call.now, s.accepted ++ [(call.nonce, call.tsUnix)]⟩ := by
      simp [ReplayRun.step, hcheck]
    rw [hstep, Guarded]
    simp only [List.count_append]
    by_cases hpair : (call.nonce, call.tsUnix) = (nonce, tsUnix)
    · obtain ⟨rfl, rfl⟩ := Prod.mk.inj hpair
      obtain ⟨hfar, hne⟩ := houtlives.notAhead rfl rfl
      have haccepted : Accepted s.cache call.nonce call.tsUnix call.now cache := by
        rcases checkAdminReplay_cases hcheck with ⟨-, hempty⟩ | ⟨-, hused⟩ | ⟨-, haccepted⟩
        · exact absurd (hempty rfl) hnonce
        · cases hused
        · exact haccepted
      rcases hguarded with hzero | ⟨-, at₀, hearly, hmem⟩
      · right
        refine ⟨by simp [hzero], call.now, ?_, ?_⟩
        · obtain ⟨hle, -⟩ := haccepted.window hfar
          omega
        · intro _
          rw [haccepted.recorded]
          exact List.mem_cons_self
      · exact (not_accepted_twice hearly hmem hclock hfar haccepted).elim
    · have hcount : [(call.nonce, call.tsUnix)].count (nonce, tsUnix) = 0 :=
        List.count_eq_zero.mpr fun h => hpair (List.mem_singleton.mp h).symm
      rw [hcount, add_zero]
      rcases hguarded with hzero | ⟨hone, at₀, hearly, hmem⟩
      · exact .inl hzero
      · exact .inr ⟨hone, at₀, hearly, hkept at₀ hmem⟩

/-- In every run with a clock that does not go back, in which the cache is never full and the pair
    is not presented five minutes or out of the range of `Duration` before its timestamp, a pair
    with a nonce is accepted at most once. -/
theorem replayRun_atMostOnce (nonce : GoString) (tsUnix : Int) (cache : NonceLRU) (clock : Int)
    (calls : List ReplayCall) (hnonce : nonce ≠ [])
    (hclock : Run.Along ReplayRun.step (fun s call => s.clock ≤ call.now) ⟨cache, clock, []⟩ calls)
    (houtlives : Run.Along ReplayRun.step (Outlives nonce tsUnix) ⟨cache, clock, []⟩ calls) :
    (Run.run ReplayRun.step ⟨cache, clock, []⟩ calls).accepted.count (nonce, tsUnix) ≤ 1 := by
  have hguarded : Guarded nonce tsUnix (Run.run ReplayRun.step ⟨cache, clock, []⟩ calls) := by
    refine (hclock.and houtlives).inv ?_ (.inl rfl)
    intro s call hs hcall
    exact guarded_step hnonce hs hcall.1 hcall.2
  rcases hguarded with hzero | ⟨hone, -⟩
  · omega
  · omega

def sampleNonce : GoString := List.replicate 10 97

def presentTwice (tsUnix first second : Int) : List ReplayCall :=
  [⟨sampleNonce, tsUnix, true, first * goSecond⟩, ⟨sampleNonce, tsUnix, true, second * goSecond⟩]

theorem replayRun_atMostOnce_sample :
    (Run.run ReplayRun.step ⟨[], 0, []⟩ (presentTwice 1713000000 1713000000 1713000300)).accepted.count
      (sampleNonce, 1713000000) = 1 ∧
    (Run.run ReplayRun.step ⟨[], 0, []⟩ (presentTwice 1713000000 1713000000 1713000300)).accepted.count
      (sampleNonce, 1713000000) ≤ 1 := by
  refine ⟨by decide, ?_⟩
  refine replayRun_atMostOnce sampleNonce 1713000000 [] 0 _ (by decide) ?_ ?_
  · exact ⟨by decide, by decide, trivial⟩
  · exact ⟨⟨by decide, fun _ _ => by decide⟩,
      ⟨by decide, fun _ _ => by decide⟩, trivial⟩

/-- A timestamp far ahead is accepted again once its nonce has expired, and so is one exactly five
    minutes ahead. -/
theorem replayRun_twice :
    (Run.run ReplayRun.step ⟨[], 0, []⟩
        (presentTwice 11000000000 1713000000 1713000600)).accepted.count
      (sampleNonce, 11000000000) = 2 ∧
    (Run.run ReplayRun.step ⟨[], 0, []⟩
        (presentTwice 1713000300 1713000000 1713000600)).accepted.count
      (sampleNonce, 1713000300) = 2 := by
  decide

theorem unixNano_of_int64 (hlo : -9223372036854775808 ≤ tsUnix)
    (hhi : tsUnix < 9223372036854775808) :
    unixNano tsUnix = tsUnix * goSecond ∨ unixNano tsUnix < -9223372036854775808 := by
  have hsecond : goSecond = 1000000000 := rfl
  unfold unixNano
  by_cases hwrap : tsUnix + 62135596800 < 9223372036854775808
  · rw [Int64Lib.wrap64_of_range (by omega) hwrap]
    exact .inl (by ring)
  · have hneg := Int64Lib.wrap64_neg (x := tsUnix + 62135596800) (by omega) (by omega)
    rw [hsecond]
    omega

/-- An accepted request with a nonce is within five minutes of its timestamp exactly where the
    timestamp is not so far ahead that the difference leaves `Duration`. -/
theorem checkAdminReplay_fresh_iff (cache : NonceLRU) (nonce : GoString) (tsUnix : Int)
    (strict : Bool) (now : Int) (hnonce : nonce ≠ []) (hlo : -9223372036854775808 ≤ tsUnix)
    (hhi : tsUnix ≤ 9223372036854775807) (hnow : 0 < now)
    (haccepted : (checkAdminReplay cache nonce tsUnix strict now).1 = .ok ()) :
    |now - tsUnix * goSecond| ≤ replayWindow ↔ tsUnix * goSecond - now < 9223372036854775808 := by
  have hwindow : replayWindow = 300000000000 := rfl
  constructor
  · intro hfresh
    have hbounds := abs_le.mp hfresh
    omega
  · intro hnear
    rcases checkAdminReplay_cases (Prod.mk.eta.symm : checkAdminReplay _ _ _ _ _ = _) with
      ⟨-, hempty⟩ | ⟨-, hused⟩ | ⟨-, hpassed⟩
    · exact absurd (hempty haccepted) hnonce
    · rw [hused] at haccepted
      cases haccepted
    · rcases unixNano_of_int64 hlo (by omega) with hexact | hpast
      · have hbounds := hpassed.window (by rw [hexact]; exact hnear)
        rw [hexact] at hbounds
        rw [abs_le]
        omega
      · -- a timestamp in the far past is outside the window
        have hbounds := hpassed.window (by omega)
        omega

theorem checkAdminReplay_fresh_sample :
    (checkAdminReplay [] sampleNonce 1713000000 true (1713000300 * goSecond)).1 = .ok () ∧
    |1713000300 * goSecond - 1713000000 * goSecond| ≤ replayWindow := by
  have haccepted :
      (checkAdminReplay [] sampleNonce 1713000000 true (1713000300 * goSecond)).1 = .ok () := by
    decide
  exact ⟨haccepted, (checkAdminReplay_fresh_iff [] sampleNonce 1713000000 true _ (by decide)
    (by decide) (by decide) (by decide) haccepted).mpr (by decide)⟩

/-- A timestamp three centuries ahead is accepted: the difference stops at the least `Duration`,
    whose negation is itself. -/
theorem checkAdminReplay_farAhead :
    (checkAdminReplay [] sampleNonce 11000000000 true (1713000000 * goSecond)).1 = .ok () ∧
    ¬ |1713000000 * goSecond - 11000000000 * goSecond| ≤ replayWindow := by
  refine ⟨by decide, ?_⟩
  norm_num [goSecond, replayWindow, abs_le]

end GarudaChain.Api
