import GarudaChain.Node.Proofs.ArithProofs

/-!
# Retargeting on the main network

The limit of the main network's targets leaves less room below `2 ^ 256` than a product with four times
the timespan takes.
-/

namespace GarudaChain

open Limbs

theorem main_timespan : mainPowParams.nPowTargetTimespan = 1209600 := rfl

theorem main_powLimit : mainPowParams.powLimit = 2 ^ 236 - 1 := by decide

theorem main_interval : mainPowParams.difficultyAdjustmentInterval = 4032 := by decide

def clampedTimespan (params : PowParams) (elapsed : Int) : Nat :=
  (max ((params.nPowTargetTimespan : Int) / 4)
    (min elapsed (4 * (params.nPowTargetTimespan : Int)))).toNat

/-- The retargeting rule in exact integers. -/
def exactTarget (params : PowParams) (target : Nat) (elapsed : Int) : Nat :=
  min params.powLimit (target * clampedTimespan params elapsed / params.nPowTargetTimespan)

theorem clampedTimespan_main (elapsed : Int) :
    302400 ≤ clampedTimespan mainPowParams elapsed ∧
      clampedTimespan mainPowParams elapsed ≤ 4838400 := by
  simp only [clampedTimespan, main_timespan]
  omega

theorem actualTimespan_main (last first : PowEntry) :
    actualTimespan mainPowParams last.getBlockTime first.getBlockTime
      = clampedTimespan mainPowParams (last.getBlockTime - first.getBlockTime) := by
  have hlast := last.nTime.toNat_lt
  have hfirst := first.nTime.toNat_lt
  have hwrap : wrap64 (last.getBlockTime - first.getBlockTime)
      = last.getBlockTime - first.getBlockTime := by
    unfold PowEntry.getBlockTime
    exact Int64Lib.wrap64_of_range (by omega) (by omega)
  unfold actualTimespan clampedTimespan
  rw [hwrap]
  generalize last.getBlockTime - first.getBlockTime = elapsed
  simp only
  split_ifs <;> simp only [main_timespan] at * <;> omega

theorem setCompact_lt (nBits : Nat) : (setCompact nBits).1 < 2 ^ 256 := by
  rw [setCompact_fst]
  split_ifs
  · have hword : nBits % 2 ^ 23 < 2 ^ 23 := Nat.mod_lt _ (by norm_num)
    exact (Nat.div_le_self _ _).trans_lt (hword.trans (by norm_num))
  · exact Nat.mod_lt _ (by norm_num)

theorem quotient_le_powLimit {n : Nat} (hn : n < 2 ^ 256) :
    n / 1209600 ≤ mainPowParams.powLimit := by
  rw [main_powLimit]
  norm_num at hn ⊢
  omega

theorem scaledTarget_main (nBits : Nat) {timespan : Nat} (h : timespan < 2 ^ 32) :
    scaledTarget mainPowParams nBits timespan
      = .ok ((setCompact nBits).1 * timespan % 2 ^ 256 / 1209600) := by
  have hmul : mulAssign (setCompact nBits).1 timespan
      = (setCompact nBits).1 * timespan % 2 ^ 256 := by
    rw [mulAssign_eq (setCompact_lt nBits) (by omega) (by omega), Int.toNat_natCast]
  have hmod : (setCompact nBits).1 * timespan % 2 ^ 256 < 2 ^ 256 := Nat.mod_lt _ (by norm_num)
  have hlimit := quotient_le_powLimit hmod
  rw [scaledTarget, hmul, main_timespan, divAssign_eq hmod (by norm_num)]
  change Except.ok (if _ > mainPowParams.powLimit then _ else _) = _
  rw [if_neg (Nat.not_lt.mpr hlimit)]

theorem calculateNextWorkRequired_main (pindexLast : PowIndex) (first : PowEntry) :
    calculateNextWorkRequired mainPowParams pindexLast first.getBlockTime
      = .ok (getCompact ((setCompact pindexLast.nBits).1
          * clampedTimespan mainPowParams (pindexLast.getBlockTime - first.getBlockTime)
          % 2 ^ 256 / 1209600)) := by
  have hspan : actualTimespan mainPowParams pindexLast.getBlockTime first.getBlockTime
      = clampedTimespan mainPowParams (pindexLast.getBlockTime - first.getBlockTime) :=
    actualTimespan_main pindexLast.entry first
  have hretarget : mainPowParams.fPowNoRetargeting = false := rfl
  have hbip94 : mainPowParams.enforceBIP94 = false := rfl
  have hbound := clampedTimespan_main (pindexLast.getBlockTime - first.getBlockTime)
  unfold calculateNextWorkRequired
  rw [hspan, hretarget, hbip94]
  generalize clampedTimespan mainPowParams (pindexLast.getBlockTime - first.getBlockTime) = span
    at hbound ⊢
  have hscaled := scaledTarget_main pindexLast.nBits (show span < 2 ^ 32 by omega)
  simp only [Bool.false_eq_true, if_false, bind, Except.bind, hscaled, pure, Except.pure]

theorem product_fits_iff {target : Nat} (hpos : 1 ≤ target)
    (hle : target ≤ mainPowParams.powLimit) (elapsed : Int) :
    target * clampedTimespan mainPowParams elapsed ≤ 2 ^ 256 - 1 ↔
      target ≤ (2 ^ 256 - 1) / (4 * mainPowParams.nPowTargetTimespan) ∨
        elapsed ≤ ((2 ^ 256 - 1) / target : Nat) := by
  have hshort : target * 302400 ≤ 2 ^ 256 - 1 := by
    rw [main_powLimit] at hle
    norm_num at hle ⊢
    omega
  have hlong : target ≤ (2 ^ 256 - 1) / (4 * mainPowParams.nPowTargetTimespan) ↔
      target * 4838400 ≤ 2 ^ 256 - 1 := by
    rw [main_timespan, Nat.le_div_iff_mul_le (by norm_num)]
  have hreal : ∀ n : Nat, n ≤ (2 ^ 256 - 1) / target ↔ target * n ≤ 2 ^ 256 - 1 := by
    intro n
    rw [Nat.le_div_iff_mul_le hpos, Nat.mul_comm]
  rw [hlong]
  constructor
  · intro hfits
    by_cases hcap : 4838400 ≤ elapsed
    · left
      have hspan : clampedTimespan mainPowParams elapsed = 4838400 := by
        simp only [clampedTimespan, main_timespan]
        omega
      rwa [hspan] at hfits
    · right
      have hspan : elapsed ≤ clampedTimespan mainPowParams elapsed := by
        simp only [clampedTimespan, main_timespan]
        omega
      exact hspan.trans (Int.ofNat_le.mpr ((hreal _).mpr hfits))
  · rintro (hcap | helapsed)
    · exact (Nat.mul_le_mul_left _ (clampedTimespan_main elapsed).2).trans hcap
    · by_cases hlow : elapsed ≤ 302400
      · have hspan : clampedTimespan mainPowParams elapsed = 302400 := by
          simp only [clampedTimespan, main_timespan]
          omega
        rwa [hspan]
      · have hspan : clampedTimespan mainPowParams elapsed ≤ elapsed.toNat := by
          simp only [clampedTimespan, main_timespan]
          omega
        have hnat : elapsed.toNat ≤ (2 ^ 256 - 1) / target := by omega
        exact (Nat.mul_le_mul_left _ hspan).trans ((hreal _).mp hnat)

/-- The product of the retargeting fits in 256 bits, and its result is that of exact integers,
    just for the targets that leave room for four timespans and for the periods that are short
    enough for the target. -/
theorem calculateNextWorkRequired_exact_iff (pindexLast : PowIndex) (first : PowEntry)
    (hpos : 1 ≤ (setCompact pindexLast.nBits).1)
    (hle : (setCompact pindexLast.nBits).1 ≤ mainPowParams.powLimit) :
    let target := (setCompact pindexLast.nBits).1
    let elapsed := pindexLast.getBlockTime - first.getBlockTime
    let timespan :=
      actualTimespan mainPowParams pindexLast.getBlockTime first.getBlockTime
    ((target : Int) * timespan ≤ 2 ^ 256 - 1 ∧
        calculateNextWorkRequired mainPowParams pindexLast first.getBlockTime
          = .ok (getCompact (exactTarget mainPowParams target elapsed))) ↔
      target ≤ (2 ^ 256 - 1) / (4 * mainPowParams.nPowTargetTimespan) ∨
        elapsed ≤ ((2 ^ 256 - 1) / target : Nat) := by
  intro target elapsed timespan
  have hspan : timespan = clampedTimespan mainPowParams elapsed :=
    actualTimespan_main pindexLast.entry first
  have hfits : (target : Int) * timespan ≤ 2 ^ 256 - 1 ↔
      target * clampedTimespan mainPowParams elapsed ≤ 2 ^ 256 - 1 := by
    rw [hspan, ← Nat.cast_mul]
    norm_num
    omega
  rw [hfits, ← product_fits_iff hpos hle elapsed]
  constructor
  · exact And.left
  · intro hprod
    refine ⟨hprod, ?_⟩
    have hlt : target * clampedTimespan mainPowParams elapsed < 2 ^ 256 :=
      Nat.lt_of_le_of_lt hprod (by norm_num)
    have hlimit := quotient_le_powLimit hlt
    rw [calculateNextWorkRequired_main, Nat.mod_eq_of_lt hlt, exactTarget, main_timespan,
      Nat.min_eq_right hlimit]

def onScheduleIndex : PowIndex := ⟨⟨1744502400 + 1209600, 0x1e0fffff⟩, []⟩

/-- After exactly two weeks at the genesis target the wrapped product makes it seven times harder.
    -/
theorem calculateNextWorkRequired_onSchedule :
    let target := (setCompact onScheduleIndex.nBits).1
    (1 ≤ target ∧ target ≤ mainPowParams.powLimit) ∧
      ¬ (target : Int) * actualTimespan mainPowParams onScheduleIndex.getBlockTime 1744502400
        ≤ 2 ^ 256 - 1 ∧
      getCompact (exactTarget mainPowParams target 1209600) = 0x1e0fffff ∧
      calculateNextWorkRequired mainPowParams onScheduleIndex 1744502400 = .ok 0x1e022143 := by
  decide +kernel

theorem calculateNextWorkRequired_exact_small :
    let pindexLast : PowIndex := ⟨⟨1746000000, 0x1d00ffff⟩, []⟩
    let first : PowEntry := ⟨1744502400, 0x1d00ffff⟩
    (1 ≤ (setCompact pindexLast.nBits).1 ∧
      (setCompact pindexLast.nBits).1 ≤ mainPowParams.powLimit) ∧
    calculateNextWorkRequired mainPowParams pindexLast first.getBlockTime
      = .ok (getCompact (exactTarget mainPowParams (setCompact pindexLast.nBits).1 1497600)) :=
  ⟨by decide,
    ((calculateNextWorkRequired_exact_iff ⟨⟨1746000000, 0x1d00ffff⟩, []⟩
      ⟨1744502400, 0x1d00ffff⟩ (by decide) (by decide)).mpr
        (by decide)).2⟩

theorem permittedDifficultyTransition_of_scaled {height : Int} (hheight : (4032 : Int) ∣ height)
    {oldNbits largest smallest : Nat} (n : Nat)
    (hlargest : scaledTarget mainPowParams oldNbits (4838400 : Nat) = .ok largest)
    (hsmallest : scaledTarget mainPowParams oldNbits (302400 : Nat) = .ok smallest) :
    permittedDifficultyTransition mainPowParams height oldNbits (getCompact n)
      = .ok (decide (roundTarget n ≤ roundTarget largest) &&
          decide (roundTarget smallest ≤ roundTarget n)) := by
  have hmin : mainPowParams.fPowAllowMinDifficultyBlocks = false := rfl
  have hmod : height.tmod mainPowParams.difficultyAdjustmentInterval = 0 := by
    rw [main_interval]
    exact Int.tmod_eq_zero_of_dvd hheight
  have hlong : (mainPowParams.nPowTargetTimespan : Int) * 4 = (4838400 : Nat) := by
    rw [main_timespan]; rfl
  have hshort : (mainPowParams.nPowTargetTimespan : Int) / 4 = (302400 : Nat) := by
    rw [main_timespan]; rfl
  unfold permittedDifficultyTransition
  rw [hmin, hmod, hlong, hshort]
  simp only [Bool.false_eq_true, if_false, if_true, hlargest, hsmallest, bind, Except.bind, pure,
    Except.pure]
  change (if roundTarget largest < roundTarget n then _ else
    if roundTarget smallest > roundTarget n then _ else _) = _
  split_ifs with h1 h2
  · simp [Nat.not_le.mpr h1]
  · simp [Nat.not_le.mpr h2]
  · simp [Nat.not_lt.mp h1, Nat.not_lt.mp h2]

/-- Whether the products of a target with the real, the shortest and the longest timespan come in this
    order after they wrap. -/
def WrapsInOrder (target : Nat) (elapsed : Int) : Prop :=
  let unit := target / 2 ^ 216
  let wrapped := unit * clampedTimespan mainPowParams elapsed % 2 ^ 40 / 1209600
  unit / 4 ≤ wrapped ∧ wrapped ≤ unit * 4838400 % 2 ^ 40 / 1209600

instance (target : Nat) (elapsed : Int) : Decidable (WrapsInOrder target elapsed) := by
  unfold WrapsInOrder
  infer_instance

theorem unit_dvd_target {nBits : Nat}
    (hlarge : 2 ^ 233 ≤ (setCompact nBits).1) : 2 ^ 216 ∣ (setCompact nBits).1 := by
  have hword : nBits % 2 ^ 23 < 2 ^ 23 := Nat.mod_lt _ (by norm_num)
  rw [setCompact_fst] at hlarge ⊢
  split_ifs at hlarge ⊢ with h3
  · have hsmall := (Nat.div_le_self _ (2 ^ (8 * (3 - nBits / 2 ^ 24)))).trans_lt hword
    exact absurd (hlarge.trans_lt hsmall) (by norm_num)
  · by_cases hsize : 27 ≤ nBits / 2 ^ 24 - 3
    · have hdvd : 2 ^ 216 ∣ 2 ^ (8 * (nBits / 2 ^ 24 - 3)) := Nat.pow_dvd_pow 2 (by omega)
      exact (Nat.dvd_mod_iff (Nat.pow_dvd_pow 2 (by norm_num))).mpr
        (Nat.dvd_mul_left_of_dvd hdvd _)
    · have hprod : nBits % 2 ^ 23 * 2 ^ (8 * (nBits / 2 ^ 24 - 3)) < 2 ^ 231 :=
        calc nBits % 2 ^ 23 * 2 ^ (8 * (nBits / 2 ^ 24 - 3))
            < 2 ^ 23 * 2 ^ (8 * (nBits / 2 ^ 24 - 3)) :=
              Nat.mul_lt_mul_of_pos_right hword (by positivity)
          _ = 2 ^ (23 + 8 * (nBits / 2 ^ 24 - 3)) := (pow_add _ _ _).symm
          _ ≤ 2 ^ 231 := Nat.pow_le_pow_right (by norm_num) (by omega)
      have hmod := (Nat.mod_le _ (2 ^ 256)).trans_lt hprod
      exact absurd (hlarge.trans_lt hmod) (by norm_num)

theorem wrapped_units (m s : Nat) :
    m * 2 ^ 216 * s % 2 ^ 256 / 1209600 / 2 ^ 216 = m * s % 2 ^ 40 / 1209600 := by
  have hprod : m * 2 ^ 216 * s = m * s * 2 ^ 216 := by ring
  have hwidth : (2 : Nat) ^ 256 = 2 ^ 40 * 2 ^ 216 := by norm_num
  rw [hprod, hwidth, Nat.mul_mod_mul_right, Nat.div_div_eq_div_mul,
    Nat.mul_div_mul_right _ _ (by norm_num)]

theorem roundTarget_units {n : Nat} (hlow : 2 ^ 15 ≤ n / 2 ^ 216) (hhigh : n < 2 ^ 239) :
    roundTarget n = n / 2 ^ 216 * 2 ^ 216 := by
  have h231 : 2 ^ 231 ≤ n :=
    calc (2 : Nat) ^ 231 = 2 ^ 15 * 2 ^ 216 := by norm_num
      _ ≤ n := (Nat.le_div_iff_mul_le (by norm_num)).mp hlow
  have h232 : 231 < bits n := lt_bits_iff.mpr h231
  have h239 : bits n ≤ 239 := bits_le_iff.mpr hhigh
  have hdrop : compactDrop (bits n) = 216 := by
    unfold compactDrop
    omega
  rw [roundTarget_eq (hhigh.trans (by norm_num)), trunc, hdrop]

theorem units_le_roundTarget {k n : Nat} (hk : 2 ^ 15 ≤ k) (hn : n < 2 ^ 239) :
    k * 2 ^ 216 ≤ roundTarget n ↔ k ≤ n / 2 ^ 216 := by
  constructor
  · intro h
    have hle : roundTarget n ≤ n := by
      rw [roundTarget_eq (hn.trans (by norm_num))]
      exact trunc_le n
    exact (Nat.le_div_iff_mul_le (by norm_num)).mpr (h.trans hle)
  · intro h
    rw [roundTarget_units (hk.trans h) hn]
    exact Nat.mul_le_mul_right _ h

theorem roundTarget_scaled_mono {target s s' : Nat} (h : s ≤ s') (hfit : target * s' < 2 ^ 256) :
    roundTarget (target * s % 2 ^ 256 / 1209600)
      ≤ roundTarget (target * s' % 2 ^ 256 / 1209600) := by
  have hle : target * s ≤ target * s' := Nat.mul_le_mul_left _ h
  rw [Nat.mod_eq_of_lt hfit, Nat.mod_eq_of_lt (hle.trans_lt hfit)]
  exact roundTarget_mono (Nat.div_le_div_right hle) ((Nat.div_le_self _ _).trans_lt hfit)

theorem roundTarget_wrapped_iff {m s : Nat} (hm : 2 ^ 17 ≤ m) (hm' : m < 2 ^ 20) :
    (roundTarget (m * 2 ^ 216 * s % 2 ^ 256 / 1209600)
          ≤ roundTarget (m * 2 ^ 216 * 4838400 % 2 ^ 256 / 1209600) ∧
        roundTarget (m * 2 ^ 216 * 302400 % 2 ^ 256 / 1209600)
          ≤ roundTarget (m * 2 ^ 216 * s % 2 ^ 256 / 1209600)) ↔
      m / 4 ≤ m * s % 2 ^ 40 / 1209600 ∧
        m * s % 2 ^ 40 / 1209600 ≤ m * 4838400 % 2 ^ 40 / 1209600 := by
  have hquot : ∀ k, k % 2 ^ 256 / 1209600 < 2 ^ 239 := by
    intro k
    have hk := Nat.mod_lt k (show 0 < 2 ^ 256 by norm_num)
    rw [Nat.div_lt_iff_lt_mul (by norm_num)]
    exact hk.trans (by norm_num)
  have hshort : m * 302400 % 2 ^ 40 / 1209600 = m / 4 := by
    norm_num at hm' ⊢
    omega
  have hfour : 2 ^ 15 ≤ m / 4 := by omega
  have hround : ∀ k, 2 ^ 15 ≤ m * k % 2 ^ 40 / 1209600 →
      roundTarget (m * 2 ^ 216 * k % 2 ^ 256 / 1209600)
        = m * k % 2 ^ 40 / 1209600 * 2 ^ 216 := by
    intro k hk
    rw [← wrapped_units] at hk ⊢
    exact roundTarget_units hk (hquot _)
  have hlower : roundTarget (m * 2 ^ 216 * 302400 % 2 ^ 256 / 1209600)
      ≤ roundTarget (m * 2 ^ 216 * s % 2 ^ 256 / 1209600) ↔
      m / 4 ≤ m * s % 2 ^ 40 / 1209600 := by
    rw [hround 302400 (hshort ▸ hfour), hshort, units_le_roundTarget hfour (hquot _),
      wrapped_units]
  -- the upper comparison is one of units once the lower one holds
  have hupper : m / 4 ≤ m * s % 2 ^ 40 / 1209600 →
      (roundTarget (m * 2 ^ 216 * s % 2 ^ 256 / 1209600)
          ≤ roundTarget (m * 2 ^ 216 * 4838400 % 2 ^ 256 / 1209600) ↔
        m * s % 2 ^ 40 / 1209600 ≤ m * 4838400 % 2 ^ 40 / 1209600) := by
    intro hle
    have hk : 2 ^ 15 ≤ m * s % 2 ^ 40 / 1209600 := hfour.trans hle
    rw [hround s hk, units_le_roundTarget hk (hquot _), wrapped_units]
  rw [hlower]
  constructor
  · rintro ⟨hle, hlow⟩
    exact ⟨hlow, (hupper hlow).mp hle⟩
  · rintro ⟨hlow, hle⟩
    exact ⟨(hupper hlow).mpr hle, hlow⟩

theorem large_target_units {nBits : Nat}
    (hle : (setCompact nBits).1 ≤ mainPowParams.powLimit)
    (hwraps : 2 ^ 256 ≤ (setCompact nBits).1 * 4838400) :
    ∃ m, (setCompact nBits).1 = m * 2 ^ 216 ∧ 2 ^ 17 ≤ m ∧ m < 2 ^ 20 := by
  have hlarge : 2 ^ 233 ≤ (setCompact nBits).1 := by
    norm_num at hwraps ⊢
    omega
  have hlimit : (setCompact nBits).1 < 2 ^ 236 := by
    rw [main_powLimit] at hle
    exact Nat.lt_of_le_of_lt hle (by norm_num)
  obtain ⟨m, hm⟩ := unit_dvd_target hlarge
  rw [hm] at hlarge hlimit ⊢
  refine ⟨m, Nat.mul_comm _ _, ?_, ?_⟩
  · norm_num at hlarge ⊢
    omega
  · norm_num at hlimit ⊢
    omega

theorem permittedDifficultyTransition_retarget {height : Int}
    (hheight : (mainPowParams.difficultyAdjustmentInterval : Int) ∣ height)
    (pindexLast : PowIndex) (first : PowEntry) :
    let target := (setCompact pindexLast.nBits).1
    let span := clampedTimespan mainPowParams (pindexLast.getBlockTime - first.getBlockTime)
    (∃ n, calculateNextWorkRequired mainPowParams pindexLast first.getBlockTime = .ok n ∧
        permittedDifficultyTransition mainPowParams height pindexLast.nBits n = .ok true) ↔
      roundTarget (target * span % 2 ^ 256 / 1209600)
          ≤ roundTarget (target * 4838400 % 2 ^ 256 / 1209600) ∧
        roundTarget (target * 302400 % 2 ^ 256 / 1209600)
          ≤ roundTarget (target * span % 2 ^ 256 / 1209600) := by
  intro target span
  have hpermitted := permittedDifficultyTransition_of_scaled (main_interval ▸ hheight)
    (target * span % 2 ^ 256 / 1209600)
    (scaledTarget_main pindexLast.nBits (show 4838400 < 2 ^ 32 by norm_num))
    (scaledTarget_main pindexLast.nBits (show 302400 < 2 ^ 32 by norm_num))
  rw [calculateNextWorkRequired_main]
  constructor
  · rintro ⟨n, hn, hok⟩
    cases hn
    rw [hpermitted] at hok
    simpa using hok
  · intro hok
    refine ⟨_, rfl, ?_⟩
    rw [hpermitted]
    simpa using hok

/-- The target that a retargeting computes is one that header synchronisation permits, just where
    four timespans leave room for it or the wrapped products come in order. -/
theorem permittedDifficultyTransition_retarget_iff {height : Int}
    (hheight : (mainPowParams.difficultyAdjustmentInterval : Int) ∣ height)
    (pindexLast : PowIndex) (first : PowEntry)
    (hle : (setCompact pindexLast.nBits).1 ≤ mainPowParams.powLimit) :
    let target := (setCompact pindexLast.nBits).1
    let elapsed := pindexLast.getBlockTime - first.getBlockTime
    (∃ n, calculateNextWorkRequired mainPowParams pindexLast first.getBlockTime = .ok n ∧
        permittedDifficultyTransition mainPowParams height pindexLast.nBits n = .ok true) ↔
      target ≤ (2 ^ 256 - 1) / (4 * mainPowParams.nPowTargetTimespan) ∨
        WrapsInOrder target elapsed := by
  intro target elapsed
  have hspan := clampedTimespan_main elapsed
  refine (permittedDifficultyTransition_retarget hheight pindexLast first).trans ?_
  rw [main_timespan, Nat.le_div_iff_mul_le (by norm_num)]
  by_cases hfit : target * 4838400 ≤ 2 ^ 256 - 1
  · have hlt : target * 4838400 < 2 ^ 256 := Nat.lt_of_le_of_lt hfit (by norm_num)
    have hlt' : target * clampedTimespan mainPowParams elapsed < 2 ^ 256 :=
      (Nat.mul_le_mul_left _ hspan.2).trans_lt hlt
    exact ⟨fun _ => .inl hfit, fun _ =>
      ⟨roundTarget_scaled_mono hspan.2 hlt, roundTarget_scaled_mono hspan.1 hlt'⟩⟩
  · have hwraps : 2 ^ 256 ≤ target * 4838400 := by omega
    obtain ⟨m, htarget, hm17, hm20⟩ := large_target_units hle hwraps
    have hunit : target / 2 ^ 216 = m := by
      rw [show target = m * 2 ^ 216 from htarget, Nat.mul_div_cancel _ (by norm_num)]
    have hiff := roundTarget_wrapped_iff (s := clampedTimespan mainPowParams elapsed) hm17 hm20
    rw [← htarget] at hiff
    rw [hiff]
    unfold WrapsInOrder
    rw [hunit]
    exact ⟨.inr, fun h => h.resolve_left hfit⟩

/-- After a first period of exactly two weeks the target that every node computes is refused. -/
theorem permittedDifficultyTransition_onSchedule :
    let target := (setCompact onScheduleIndex.nBits).1
    (1 ≤ target ∧ target ≤ mainPowParams.powLimit) ∧
      (4032 : Int) % mainPowParams.difficultyAdjustmentInterval = 0 ∧
      calculateNextWorkRequired mainPowParams onScheduleIndex 1744502400 = .ok 0x1e022143 ∧
      permittedDifficultyTransition mainPowParams 4032 onScheduleIndex.nBits 0x1e022143
        = .ok false := by
  decide +kernel

theorem permittedDifficultyTransition_small :
    let pindexLast : PowIndex := ⟨⟨1746000000, 0x1d00ffff⟩, []⟩
    let first : PowEntry := ⟨1744502400, 0x1d00ffff⟩
    (setCompact pindexLast.nBits).1 ≤ mainPowParams.powLimit ∧
    ∃ n, calculateNextWorkRequired mainPowParams pindexLast first.getBlockTime = .ok n ∧
      permittedDifficultyTransition mainPowParams 8064 pindexLast.nBits n = .ok true :=
  ⟨by decide,
    (permittedDifficultyTransition_retarget_iff (by decide)
      ⟨⟨1746000000, 0x1d00ffff⟩, []⟩ ⟨1744502400, 0x1d00ffff⟩ (by decide)).mpr
        (by decide)⟩

end GarudaChain
