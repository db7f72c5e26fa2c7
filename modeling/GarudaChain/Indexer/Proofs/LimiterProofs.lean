import GarudaChain.Indexer.Limiter
import Mathlib.Tactic.Linarith
import Mathlib.Tactic.Ring

/-!
# How many calls the token bucket allows
-/

namespace GarudaChain.Indexer

variable {q : Quota} {b : Bucket} {clock : Readings} {count credit first now : Int}

theorem windows_bounds (hwindow : 0 < q.window)
    (hlast : b.lastRefill ≤ clock.now) :
    0 ≤ q.windows clock b ∧ q.windows clock b * q.window ≤ clock.now - b.lastRefill := by
  have hnonneg : 0 ≤ since b.lastRefill clock.now := by
    unfold since
    omega
  have hle : since b.lastRefill clock.now ≤ clock.now - b.lastRefill := by
    unfold since
    omega
  unfold Quota.windows
  rw [Int.tdiv_eq_ediv_of_nonneg hnonneg]
  exact ⟨Int.ediv_nonneg hnonneg hwindow.le, (Int.ediv_mul_le _ hwindow.ne').trans hle⟩

theorem lt_of_windows_nonpos (hwindow : 0 < q.window)
    (hrange : q.window < 9223372036854775808)
    (hlast : b.lastRefill ≤ clock.now) (h : q.windows clock b ≤ 0) :
    clock.now < b.lastRefill + q.window := by
  have hnonneg : 0 ≤ since b.lastRefill clock.now := by
    unfold since
    omega
  have hlt : since b.lastRefill clock.now < q.window := by
    unfold Quota.windows at h
    rw [Int.tdiv_eq_ediv_of_nonneg hnonneg] at h
    by_contra hge
    have := Int.le_ediv_of_mul_le hwindow (show 1 * q.window ≤ since b.lastRefill clock.now by omega)
    omega
  unfold since at hlt
  omega

/-- Since `first`, `count` calls were allowed and the tokens of `credit` windows were added. -/
structure Account (q : Quota) (first count : Int) (b : Bucket) (credit : Int) : Prop where
  paid : count + max b.tokens 0 ≤ q.burst + q.rate * credit
  elapsed : first + credit * q.window < b.lastRefill + q.window

structure BucketOk (q : Quota) (clock : Int) (b : Bucket) : Prop where
  tokens_le : b.tokens ≤ q.burst
  le_tokens : -9223372036854775808 ≤ b.tokens
  last : b.lastRefill ≤ clock

section

variable {q : Quota} (hrate : 0 < q.rate) (hburst : 0 < q.burst) (hwindow : 0 < q.window)
  {clock : Readings} {b : Bucket} (hb : BucketOk q clock.now b)
  (hwrap : q.windows clock b * q.rate < 9223372036854775808)

include hrate hburst hwindow hb hwrap

theorem refill_cases : (q.windows clock b = 0 ∧ q.refill clock b = b) ∨
    (0 < q.windows clock b ∧ (q.refill clock b).lastRefill = clock.refilled ∧
      (q.refill clock b).tokens ≤ b.tokens + q.rate * q.windows clock b ∧
      BucketOk q clock.refilled (q.refill clock b)) := by
  obtain ⟨hnonneg, -⟩ := windows_bounds hwindow hb.last
  have hproduct : wrap64 (q.windows clock b * q.rate) = q.windows clock b * q.rate :=
    Int64Lib.wrap64_of_range (by nlinarith) hwrap
  rcases hnonneg.eq_or_lt with hzero | hpos
  · have hnone : ¬ wrap64 (q.windows clock b * q.rate) > 0 := by
      rw [hproduct, ← hzero, zero_mul]
      exact lt_irrefl 0
    exact .inl ⟨hzero.symm, if_neg hnone⟩
  · have hrefill : q.windows clock b * q.rate > 0 := mul_pos hpos hrate
    have hsum : wrap64 (b.tokens + q.windows clock b * q.rate) ≤
        b.tokens + q.rate * q.windows clock b := by
      rw [mul_comm q.rate]
      exact Int64Lib.wrap64_le (by have := hb.le_tokens; omega)
    have hlow := (Int64Lib.wrap64_range (b.tokens + q.windows clock b * q.rate)).1
    have heq : q.refill clock b =
        ⟨min (wrap64 (b.tokens + q.windows clock b * q.rate)) q.burst, clock.refilled⟩ := by
      simp only [Quota.refill, hproduct, if_pos hrefill, min_def]
      split_ifs <;> first | rfl | omega
    rw [heq]
    refine .inr ⟨hpos, rfl, min_le_left _ _ |>.trans hsum, min_le_right _ _, le_min hlow ?_, le_refl _⟩
    omega

variable (hclock : clock.now ≤ clock.refilled)

include hclock

theorem bucketOk_refill : BucketOk q clock.refilled (q.refill clock b) := by
  rcases refill_cases hrate hburst hwindow hb hwrap with ⟨-, heq⟩ | ⟨-, -, -, hok⟩
  · rw [heq]
    exact ⟨hb.tokens_le, hb.le_tokens, hb.last.trans hclock⟩
  · exact hok

theorem Account.refill (h : Account q first count b credit) :
    ∃ credit', Account q first count (q.refill clock b) credit' ∧
      first + credit' * q.window < clock.now + q.window := by
  obtain ⟨-, hwindows⟩ := windows_bounds hwindow hb.last
  have hlast := hb.last
  have helapsed := h.elapsed
  rcases refill_cases hrate hburst hwindow hb hwrap with ⟨-, heq⟩ | ⟨hpos, hrefilled, htokens, -⟩
  · rw [heq]
    exact ⟨credit, h, by omega⟩
  · have hadd : (credit + q.windows clock b) * q.window =
        credit * q.window + q.windows clock b * q.window := add_mul ..
    have hpaid := h.paid
    refine ⟨credit + q.windows clock b, ⟨?_, ?_⟩, by omega⟩
    · have hgain : 0 < q.rate * q.windows clock b := mul_pos hrate hpos
      rw [mul_add]
      omega
    · rw [hrefilled]
      omega

theorem account_first (hrange : q.window < 9223372036854775808) :
    Account q clock.now 0 (q.refill clock b) 0 := by
  have hok := bucketOk_refill hrate hburst hwindow hb hwrap hclock
  refine ⟨?_, ?_⟩
  · have := hok.tokens_le
    simp only [mul_zero]
    omega
  · rcases refill_cases hrate hburst hwindow hb hwrap with ⟨hzero, heq⟩ | ⟨-, hrefilled, -, -⟩
    · have := lt_of_windows_nonpos hwindow hrange hb.last hzero.le
      rw [heq]
      omega
    · rw [hrefilled]
      omega

end

def Bucket.spend (b : Bucket) : Bucket := if b.tokens ≤ 0 then b else { b with tokens := b.tokens - 1 }

theorem allow_eq (l : Limiter) (ip : String) (clock : Readings) :
    l.allow ip clock =
      ({ l with buckets := Function.update l.buckets ip (some (l.refill clock (l.bucketOf ip clock)).spend) },
        decide (0 < (l.refill clock (l.bucketOf ip clock)).tokens)) := by
  unfold Limiter.allow Bucket.spend
  dsimp only
  split_ifs with htokens
  · rw [decide_eq_false (by omega)]
  · rw [decide_eq_true (by omega)]

theorem BucketOk.spend {clock : Int} (h : BucketOk q clock b) :
    BucketOk q clock b.spend := by
  obtain ⟨hle, hge, hlast⟩ := h
  unfold Bucket.spend
  split_ifs
  · exact ⟨hle, hge, hlast⟩
  · exact ⟨by dsimp only; omega, by dsimp only; omega, hlast⟩

theorem Account.spend (h : Account q first count b credit) {allowed : Int} (hnonneg : 0 ≤ allowed)
    (hallowed : allowed ≤ if 0 < b.tokens then 1 else 0) :
    Account q first (count + allowed) b.spend credit := by
  obtain ⟨hpaid, helapsed⟩ := h
  unfold Bucket.spend
  split_ifs with htokens
  · rw [if_neg (by omega)] at hallowed
    exact ⟨by omega, helapsed⟩
  · rw [if_pos (by omega)] at hallowed
    exact ⟨by dsimp only; omega, helapsed⟩

def InOrder (s : LimiterRun) : LimiterEvent → Prop
  | .allow _ clock => s.clock ≤ clock.created ∧ clock.created ≤ clock.now ∧ clock.now ≤ clock.refilled
  | .cleanup now => s.clock ≤ now

def RefillFits (s : LimiterRun) : LimiterEvent → Prop
  | .allow ip clock =>
    s.limiter.windows clock (s.limiter.bucketOf ip clock) * s.limiter.rate < 9223372036854775808
  | .cleanup _ => True

instance (s : LimiterRun) : (e : LimiterEvent) → Decidable (InOrder s e)
  | .allow _ _ => inferInstanceAs (Decidable (_ ∧ _ ∧ _))
  | .cleanup _ => inferInstanceAs (Decidable (_ ≤ _))

instance (s : LimiterRun) : (e : LimiterEvent) → Decidable (RefillFits s e)
  | .allow _ _ => inferInstanceAs (Decidable (_ < _))
  | .cleanup _ => inferInstanceAs (Decidable True)

def LimiterRun.countIn (s : LimiterRun) (ip : String) (start stop : Int) : Int :=
  (s.allowed.countP fun call => call.1 = ip ∧ start ≤ call.2 ∧ call.2 ≤ stop : Nat)

def Balanced (q : Quota) (first count clock : Int) : Option Bucket → Prop
  | some b => ∃ credit, Account q first count b credit
  | none => ∃ credit, count ≤ q.rate * credit ∧ first + credit * q.window < clock + q.window

structure Metered (q : Quota) (ip : String) (start length : Int) (s : LimiterRun) : Prop where
  quota : s.limiter.toQuota = q
  bucket : ∀ b, s.limiter.buckets ip = some b → BucketOk q s.clock b
  bound : s.countIn ip start (start + length) ≤ q.burst + q.rate * (length / q.window + 1)
  account : s.countIn ip start (start + length) = 0 ∨ ∃ first, start ≤ first ∧
    Balanced q first (s.countIn ip start (start + length)) s.clock (s.limiter.buckets ip)

theorem countIn_allow (s : LimiterRun) (ip ip' : String) (clock : Readings) (start stop : Int) :
    (limiterStep s (.allow ip' clock)).countIn ip start stop = s.countIn ip start stop +
      if (s.limiter.allow ip' clock).2 = true ∧ ip' = ip ∧ start ≤ clock.now ∧ clock.now ≤ stop then 1
      else 0 := by
  unfold LimiterRun.countIn limiterStep
  by_cases hok : (s.limiter.allow ip' clock).2 = true
  · simp only [hok, if_true, List.countP_append, List.countP_singleton, true_and, Nat.cast_add,
      decide_eq_true_eq, Nat.cast_ite, Nat.cast_one, Nat.cast_zero]
  · simp only [hok, if_false, false_and, add_zero, Bool.false_eq_true]

theorem Balanced.mono {q : Quota} {first count clock clock' : Int} (hle : clock ≤ clock') :
    ∀ {b : Option Bucket}, Balanced q first count clock b → Balanced q first count clock' b
  | some _, h => h
  | none, ⟨credit, hcount, hlt⟩ => ⟨credit, hcount, by omega⟩

theorem BucketOk.mono {clock clock' : Int} (hle : clock ≤ clock')
    (h : BucketOk q clock b) : BucketOk q clock' b :=
  ⟨h.tokens_le, h.le_tokens, h.last.trans hle⟩

theorem Balanced.bucketOf {l : Limiter} {clock : Int} {ip : String}
    (h : Balanced l.toQuota first count clock (l.buckets ip)) (hburst : 0 < l.burst) {readings : Readings}
    (hclock : clock ≤ readings.created) :
    ∃ credit, Account l.toQuota first count (l.bucketOf ip readings) credit := by
  unfold Limiter.bucketOf
  cases hb : l.buckets ip with
  | some b =>
    rw [hb] at h
    exact h
  | none =>
    rw [hb] at h
    obtain ⟨credit, hcount, hlt⟩ := h
    refine ⟨credit, ?_, ?_⟩
    · dsimp only [Option.getD_none]
      omega
    · dsimp only [Option.getD_none]
      omega

theorem credit_le (hwindow : 0 < q.window) {start length : Int}
    (h : first + credit * q.window < now + q.window) (hfirst : start ≤ first) (hnow : now ≤ start + length) :
    credit ≤ length / q.window + 1 := by
  have hmul : (credit - 1) * q.window ≤ length := by
    rw [sub_mul]
    omega
  have := Int.le_ediv_of_mul_le hwindow hmul
  omega

section

variable {q : Quota} {ip : String} {start length : Int} (hrate : 0 < q.rate) (hburst : 0 < q.burst)
  (hwindow : 0 < q.window) {s : LimiterRun}

include hrate hburst hwindow

theorem account_refill (hrange : q.window < 9223372036854775808)
    (h : Metered q ip start length s) (horder : InOrder s (.allow ip clock))
    (hfits : RefillFits s (.allow ip clock)) :
    BucketOk q clock.refilled (q.refill clock (s.limiter.bucketOf ip clock)) ∧
      ((s.countIn ip start (start + length) = 0 ∧ clock.now < start) ∨ ∃ first credit, start ≤ first ∧
        Account q first (s.countIn ip start (start + length))
          (q.refill clock (s.limiter.bucketOf ip clock)) credit ∧
        first + credit * q.window < clock.now + q.window) := by
  obtain ⟨hclock, hcreated, hrefilled⟩ := horder
  obtain ⟨rfl⟩ := h.quota
  have hb : BucketOk s.limiter.toQuota clock.now (s.limiter.bucketOf ip clock) := by
    unfold Limiter.bucketOf
    cases hbucket : s.limiter.buckets ip with
    | some b => exact (h.bucket b hbucket).mono (by omega)
    | none => exact ⟨le_refl _, by dsimp only [Option.getD_none]; omega, hcreated⟩
  refine ⟨bucketOk_refill hrate hburst hwindow hb hfits hrefilled, ?_⟩
  rcases h.account with hnone | ⟨first, hfirst, hbalanced⟩
  · by_cases hstart : clock.now < start
    · exact .inl ⟨hnone, hstart⟩
    · refine .inr ⟨clock.now, 0, by omega, ?_, by omega⟩
      rw [hnone]
      exact account_first hrate hburst hwindow hb hfits hrefilled hrange
  · obtain ⟨credit, haccount⟩ := hbalanced.bucketOf hburst hclock
    obtain ⟨credit', haccount', hlt⟩ := haccount.refill hrate hburst hwindow hb hfits hrefilled
    exact .inr ⟨first, credit', hfirst, haccount', hlt⟩

theorem metered_allow_self (hrange : q.window < 9223372036854775808)
    (h : Metered q ip start length s) (horder : InOrder s (.allow ip clock))
    (hfits : RefillFits s (.allow ip clock)) : Metered q ip start length (limiterStep s (.allow ip clock)) := by
  obtain ⟨hok, haccount⟩ := account_refill hrate hburst hwindow hrange h horder hfits
  obtain ⟨rfl⟩ := h.quota
  have hcount := countIn_allow s ip ip clock start (start + length)
  have hbound := h.bound
  set b := s.limiter.refill clock (s.limiter.bucketOf ip clock) with hb
  set count := s.countIn ip start (start + length)
  have hbuckets : (limiterStep s (.allow ip clock)).limiter.buckets ip = some b.spend := by
    simp only [limiterStep, allow_eq, Function.update_self, hb]
  have hspent : (s.limiter.allow ip clock).2 = true ↔ 0 < b.tokens := by
    simp only [allow_eq, decide_eq_true_eq, hb]
  refine ⟨by simp only [limiterStep, allow_eq], ?_, ?_, ?_⟩
  · intro b' hb'
    rw [hbuckets] at hb'
    cases hb'
    exact hok.spend
  · rw [hcount]
    split_ifs with hallowed
    · rcases haccount with ⟨-, hbefore⟩ | ⟨first, credit, hfirst, hacc, hlt⟩
      · omega
      · have hcredit := credit_le hwindow hlt hfirst hallowed.2.2.2
        have hmono := mul_le_mul_of_nonneg_left hcredit hrate.le
        have hpaid := hacc.paid
        have htokens := hspent.mp hallowed.1
        omega
    · omega
  · rw [hcount, hbuckets]
    rcases haccount with ⟨hnone, hbefore⟩ | ⟨first, credit, hfirst, hacc, -⟩
    · left
      rw [if_neg (by omega), hnone, add_zero]
    · refine .inr ⟨first, hfirst, credit, hacc.spend (by split_ifs <;> omega) ?_⟩
      split_ifs with hallowed htokens htokens
      · exact le_refl _
      · exact absurd (hspent.mp hallowed.1) htokens
      · omega
      · exact le_refl _

omit hrate hburst hwindow in
theorem metered_allow_of_ne {ip' : String} (hip : ip' ≠ ip)
    (h : Metered q ip start length s) (horder : InOrder s (.allow ip' clock)) :
    Metered q ip start length (limiterStep s (.allow ip' clock)) := by
  have hclock : s.clock ≤ clock.refilled := by
    obtain ⟨h1, h2, h3⟩ := horder
    omega
  have hcount : (limiterStep s (.allow ip' clock)).countIn ip start (start + length) =
      s.countIn ip start (start + length) := by
    rw [countIn_allow, if_neg (fun h => hip h.2.1), add_zero]
  have hbuckets : (limiterStep s (.allow ip' clock)).limiter.buckets ip = s.limiter.buckets ip := by
    simp only [limiterStep, allow_eq, Function.update_of_ne hip.symm]
  refine ⟨by simp only [limiterStep, allow_eq, h.quota], ?_, hcount ▸ h.bound, ?_⟩
  · rw [hbuckets]
    exact fun b hb => (h.bucket b hb).mono hclock
  · rw [hcount, hbuckets]
    exact h.account.imp_right fun ⟨first, hfirst, hbalanced⟩ => ⟨first, hfirst, hbalanced.mono hclock⟩

end

theorem Account.cleanup (hwindow : 0 < q.window)
    (hrefill : q.burst ≤ q.rate * (600000000000 / q.window))
    (h : Account q first count b credit) (hold : b.lastRefill < now - 600000000000) :
    Balanced q first count now none := by
  obtain ⟨hpaid, helapsed⟩ := h
  have hten := Int.ediv_mul_le 600000000000 hwindow.ne'
  refine ⟨credit + 600000000000 / q.window, ?_, ?_⟩
  · rw [mul_add]
    omega
  · rw [add_mul]
    omega

theorem metered_cleanup {ip : String} {start length : Int} {s : LimiterRun}
    (hwindow : 0 < q.window) (hrefill : q.burst ≤ q.rate * (600000000000 / q.window))
    (h : Metered q ip start length s) (horder : InOrder s (.cleanup now)) :
    Metered q ip start length (limiterStep s (.cleanup now)) := by
  have hclock : s.clock ≤ now := horder
  refine ⟨h.quota, ?_, h.bound, ?_⟩
  · intro b hb
    exact (h.bucket b (Option.eq_some_of_filter_eq_some hb)).mono hclock
  · refine h.account.imp_right fun ⟨first, hfirst, hbalanced⟩ => ⟨first, hfirst, ?_⟩
    change Balanced q first _ now ((s.limiter.buckets ip).filter _)
    cases hbucket : s.limiter.buckets ip with
    | none =>
      rw [hbucket] at hbalanced
      exact hbalanced.mono hclock
    | some b =>
      rw [hbucket] at hbalanced
      obtain ⟨credit, haccount⟩ := hbalanced
      by_cases hkept : now - 600000000000 ≤ b.lastRefill
      · rw [Option.filter_some, if_pos (by simpa using hkept)]
        exact ⟨credit, haccount⟩
      · rw [Option.filter_some, if_neg (by simpa using hkept)]
        exact haccount.cleanup hwindow hrefill (by omega)

def limiterStart (q : Quota) (clock : Int) : LimiterRun := ⟨.new q, clock, []⟩

/-- If the tokens of every refill fit into 64 bits, an address has at most the burst and the tokens of
    the windows of an interval, and of one more, allowed in it. -/
theorem limiterRun_allowed_le {q : Quota} (hrate : 0 < q.rate) (hburst : 0 < q.burst)
    (hwindow : 0 < q.window) (hrange : q.window < 9223372036854775808)
    (hrefill : q.burst ≤ q.rate * (600000000000 / q.window)) {clock : Int} {events : List LimiterEvent}
    (horder : Run.Along limiterStep InOrder (limiterStart q clock) events)
    (hfits : Run.Along limiterStep RefillFits (limiterStart q clock) events) (ip : String)
    (start : Int) {length : Int} (hlength : 0 ≤ length) :
    (Run.run limiterStep (limiterStart q clock) events).countIn ip start (start + length) ≤
      q.burst + q.rate * (length / q.window + 1) := by
  have hbound : 0 ≤ q.burst + q.rate * (length / q.window + 1) := by
    have := Int.ediv_nonneg hlength hwindow.le
    positivity
  have hstart : Metered q ip start length (limiterStart q clock) :=
    ⟨rfl, by rintro b ⟨⟩, hbound, .inl rfl⟩
  refine Metered.bound ((horder.and hfits).inv ?_ hstart)
  rintro s event h ⟨hevent, hfit⟩
  cases event with
  | allow ip' readings =>
    by_cases hip : ip' = ip
    · subst hip
      exact metered_allow_self hrate hburst hwindow hrange h hevent hfit
    · exact metered_allow_of_ne hip h hevent
  | cleanup now => exact metered_cleanup hwindow hrefill h hevent

def callAt (ip : String) (now : Int) : LimiterEvent := .allow ip ⟨now, now, now⟩

def deployedQuota : Quota := ⟨50, 100, 1000000000⟩

def deletionEvents : List LimiterEvent :=
  [callAt "10.0.0.1" 0, callAt "10.0.0.1" 1500000000, .cleanup 660000000000, callAt "10.0.0.1" 660000000000]

theorem limiterRun_allowed_le_deployed :
    ((Run.run limiterStep (limiterStart deployedQuota 0) deletionEvents).countIn "10.0.0.1" 0 (0 + 660000000000) =
      3) ∧
    (Run.run limiterStep (limiterStart deployedQuota 0) deletionEvents).countIn "10.0.0.1" 0 (0 + 660000000000) ≤
      100 + 50 * (660000000000 / 1000000000 + 1) :=
  ⟨by decide +kernel, limiterRun_allowed_le (q := deployedQuota) (by decide) (by decide) (by decide) (by decide)
    (by decide) (by decide +kernel) (by decide +kernel) "10.0.0.1" 0 (by decide)⟩

def lateEvents : List LimiterEvent :=
  callAt "10.0.0.1" 0 :: List.replicate 3 (callAt "10.0.0.1" 4611686018427387904) ++
    .cleanup 4611686018427387904 :: List.replicate 4 (callAt "10.0.0.1" 4611686018427387904)

/-- A refill of 2^63 tokens is lost, and the bucket that was not refilled is deleted and full again. -/
theorem limiterRun_allowed_late :
    (4 ≤ 2 * (600000000000 / 1)) ∧ Run.Along limiterStep InOrder (limiterStart ⟨2, 4, 1⟩ 0) lateEvents ∧
      ¬ (Run.run limiterStep (limiterStart ⟨2, 4, 1⟩ 0) lateEvents).countIn "10.0.0.1"
        4611686018427387904 (4611686018427387904 + 0) ≤ 4 + 2 * (0 / 1 + 1) := by
  decide +kernel

end GarudaChain.Indexer
