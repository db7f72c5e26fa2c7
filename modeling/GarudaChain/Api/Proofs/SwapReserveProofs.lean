import GarudaChain.Api.SwapReserve
import Mathlib.Tactic.Linarith
import Mathlib.Tactic.NormNum
import Mathlib.Tactic.Positivity
import Mathlib.Tactic.Ring

/-!
# The reserve is not solvent
-/

namespace GarudaChain.Api.Reserve

variable {maxAmountGRD rate : ℚ}

/-- GRD leaves only against tokens of at least its value, tokens leave only against such GRD. -/
structure PaidFor (rate : ℚ) (m : Moves) : Prop where
  grd : m.grdOut ≤ m.tokensIn * rate
  tokens : m.tokensOut * rate ≤ m.grdIn

def SellPays (rate amount : ℚ) (calls : Calls) : Prop :=
  (∃ balance ∈ calls.balance, sellOut rate (truncate amount) ≤ balance) ∧ calls.sent = true

def GoesOn (maxAmountGRD : ℚ) : Request × Calls → Prop
  | (.dexSwap req, calls) => checkSwap maxAmountGRD req = .ok () ∧ calls.peg = true
  | (.receiveGRD req, calls) =>
    ¬ (req.assetID = [] ∨ req.amount ≤ 0 ∨ req.address = []) ∧ calls.peg = true

/-- The request pays out no more than the value of the tokens that are transferred. -/
def Covered (maxAmountGRD rate : ℚ) (x : Request × Calls) : Prop :=
  GoesOn maxAmountGRD x →
    match x with
    | (.dexSwap req, calls) =>
      if req.direction = goString "buy" then
        calls.holder = [] ∨ calls.transfers (buyTokens rate req.amount) = false
      else
        SellPays rate req.amount calls →
          sellOut rate (truncate req.amount) ≤
            (if calls.transfers (truncate req.amount) then truncate req.amount else 0 : Int) * rate
    | (.receiveGRD req, calls) => calls.sent = true → receiveOut rate req.amount ≤ 0

theorem paidFor_none : PaidFor rate {} := ⟨by simp, by simp⟩

theorem paidFor_swapBuy (hrate : 0 < rate) (amount : ℚ) (calls : Calls) :
    PaidFor rate (swapBuy rate amount calls).2 ↔
      calls.holder = [] ∨ calls.transfers (buyTokens rate amount) = false := by
  unfold swapBuy
  by_cases hholder : calls.holder = []
  · simp [hholder, paidFor_none]
  by_cases htransfers : calls.transfers (buyTokens rate amount) = true
  · have hpos : 0 < buyTokens rate amount := by
      rw [Calls.transfers, Bool.and_eq_true, decide_eq_true_eq] at htransfers
      exact htransfers.2
    have hmoved : ¬ PaidFor rate { tokensOut := buyTokens rate amount } := by
      intro hpaid
      have hle : (buyTokens rate amount : ℚ) * rate ≤ 0 := hpaid.tokens
      have hlt : (0 : ℚ) < (buyTokens rate amount : ℚ) * rate :=
        mul_pos (by exact_mod_cast hpos) hrate
      linarith
    cases hparsed : calls.parsed <;> cases hbroadcast : calls.broadcast <;>
      simp [hholder, htransfers, hmoved]
  · rw [Bool.not_eq_true] at htransfers
    simp [hholder, htransfers, paidFor_none]

theorem paidFor_swapSell (hrate : 0 < rate) (amount : ℚ) (calls : Calls) :
    PaidFor rate (swapSell rate amount calls).2 ↔
      (SellPays rate amount calls → sellOut rate (truncate amount) ≤
        (if calls.transfers (truncate amount) then truncate amount else 0 : Int) * rate) := by
  have harrived : (0 : ℚ) ≤
      (if calls.transfers (truncate amount) then truncate amount else 0 : Int) * rate := by
    split_ifs with htransfers
    · rw [Calls.transfers, Bool.and_eq_true, decide_eq_true_eq] at htransfers
      have hpos : (0 : ℚ) < truncate amount := by exact_mod_cast htransfers.2
      positivity
    · simp
  -- without a payout the tokens come for nothing
  have hunpaid : PaidFor rate
      { tokensIn := if calls.transfers (truncate amount) then truncate amount else 0 } :=
    ⟨harrived, by simp⟩
  unfold swapSell SellPays
  cases hbalance : calls.balance with
  | none => simp [hunpaid]
  | some balance =>
    by_cases hlow : balance < sellOut rate (truncate amount)
    · simp [hlow, hunpaid]
    · cases hsent : calls.sent with
      | false => simp [hlow, hunpaid]
      | true =>
        simp only [hlow, if_false, Bool.not_true, Bool.false_eq_true, Option.mem_def,
          Option.some.injEq, exists_eq_left', and_true]
        constructor
        · intro hpaid _
          exact hpaid.grd
        · intro hcovered
          exact ⟨hcovered (not_lt.mp hlow), by simp⟩

theorem paidFor_handleDexSwap (hrate : 0 < rate) (req : SwapRequest) (calls : Calls) :
    PaidFor rate (moves maxAmountGRD rate (.dexSwap req, calls)) ↔
      Covered maxAmountGRD rate (.dexSwap req, calls) := by
  dsimp only [moves, handleDexSwap, Covered, GoesOn]
  cases hcheck : checkSwap maxAmountGRD req with
  | error err => simp [paidFor_none]
  | ok u =>
    cases hpeg : calls.peg with
    | false => simp [paidFor_none]
    | true =>
      simp only [Bool.not_true, Bool.false_eq_true, if_false, and_self, forall_const]
      by_cases hbuy : req.direction = goString "buy"
      · rw [if_pos hbuy, if_pos hbuy]
        exact paidFor_swapBuy hrate req.amount calls
      · rw [if_neg hbuy, if_neg hbuy]
        exact paidFor_swapSell hrate req.amount calls

theorem paidFor_handleReceiveGRD (req : ReceiveRequest) (calls : Calls) :
    PaidFor rate (moves maxAmountGRD rate (.receiveGRD req, calls)) ↔
      Covered maxAmountGRD rate (.receiveGRD req, calls) := by
  dsimp only [moves, handleReceiveGRD, Covered, GoesOn]
  by_cases hfields : req.assetID = [] ∨ req.amount ≤ 0 ∨ req.address = []
  · simp [hfields, paidFor_none]
  cases hpeg : calls.peg with
  | false => simp [hfields, paidFor_none]
  | true =>
    cases hsent : calls.sent with
    | false => simp [hfields, paidFor_none]
    | true =>
      simp only [hfields, if_false, Bool.not_true, Bool.false_eq_true, not_false_eq_true, and_self,
        forall_const]
      constructor
      · intro hpaid
        simpa using hpaid.grd
      · intro hnothing
        exact ⟨by simpa using hnothing, by simp⟩

theorem paidFor_iff (hrate : 0 < rate) (x : Request × Calls) :
    PaidFor rate (moves maxAmountGRD rate x) ↔ Covered maxAmountGRD rate x := by
  obtain ⟨req | req, calls⟩ := x
  · exact paidFor_handleDexSwap hrate req calls
  · exact paidFor_handleReceiveGRD req calls

theorem value_le_step (s : State) (x : Request × Calls)
    (hpaid : PaidFor rate (moves maxAmountGRD rate x)) :
    s.value rate ≤ (s.step maxAmountGRD rate x).value rate := by
  have hgrd := hpaid.grd
  have htokens := hpaid.tokens
  simp only [State.value, State.step]
  push_cast
  linarith

/-- In every sequence of requests, with any failures of their calls, everything that leaves the
    reserve is paid for and its value never falls, exactly where each request is covered. -/
theorem reserveRun_solvent_iff (maxAmountGRD rate : ℚ) (hrate : 0 < rate) (s : State)
    (requests : List (Request × Calls)) :
    Run.Along (State.step maxAmountGRD rate)
        (fun s x => PaidFor rate (moves maxAmountGRD rate x) ∧
          s.value rate ≤ (s.step maxAmountGRD rate x).value rate) s requests ↔
      ∀ x ∈ requests, Covered maxAmountGRD rate x := by
  induction requests generalizing s with
  | nil => simp [Run.Along]
  | cons x requests ih =>
    rw [List.forall_mem_cons, Run.Along, ih, ← paidFor_iff hrate x]
    refine and_congr_left fun _ => ⟨fun h => h.1, fun h => ⟨h, value_le_step s x h⟩⟩

def sampleRate : ℚ := 13 / 2000000

def swapOf (direction : GoString) (amount : ℚ) : Request :=
  .dexSwap ⟨direction, List.replicate 64 97, amount, goString "grd1" ++ List.replicate 20 113⟩

/-- Every call succeeds, with 10 GRD in the wallet. -/
def allSucceed : Calls := ⟨true, [114], true, true, true, some 10, true⟩

theorem reserveRun_solvent_sample :
    moves 1000000 sampleRate (swapOf (goString "sell") 1000, allSucceed) =
        { grdOut := 12987 / 2000000, tokensIn := 1000 } ∧
      Run.Along (State.step 1000000 sampleRate)
        (fun s x => PaidFor sampleRate (moves 1000000 sampleRate x) ∧
          s.value sampleRate ≤ (s.step 1000000 sampleRate x).value sampleRate)
        ⟨10, 0⟩ [(swapOf (goString "sell") 1000, allSucceed)] := by
  have hvalues : moves 1000000 sampleRate (swapOf (goString "sell") 1000, allSucceed) =
        { grdOut := 12987 / 2000000, tokensIn := 1000 } ∧
      goString "sell" ≠ goString "buy" ∧
      sellOut sampleRate (truncate 1000) ≤
        (if allSucceed.transfers (truncate 1000) then truncate 1000 else 0 : Int) * sampleRate := by
    decide +kernel
  refine ⟨hvalues.1, (reserveRun_solvent_iff 1000000 sampleRate (by norm_num [sampleRate]) ⟨10, 0⟩
    _).mpr ?_⟩
  intro x hx _
  obtain rfl := List.mem_singleton.mp hx
  simp only [swapOf, if_neg hvalues.2.1]
  exact fun _ => hvalues.2.2

/-- Tokens are bought for nothing; GRD is paid for tokens that do not come; and half a satoshi is
    sold for a whole one. -/
theorem reserveRun_insolvent :
    moves 1000000 sampleRate (swapOf (goString "buy") 1, allSucceed) = { tokensOut := 153692 } ∧
      moves 1000000 sampleRate (swapOf (goString "sell") 1000,
        { allSucceed with transferred := false }) = { grdOut := 12987 / 2000000 } ∧
      moves 1000000 sampleRate (.receiveGRD ⟨[97], 1000, [97]⟩, allSucceed) =
        { grdOut := 12987 / 2000000 } ∧
      moves 1000000 (1 / 200000000) (swapOf (goString "sell") 1, allSucceed) =
        { grdOut := 1 / 100000000, tokensIn := 1 } := by
  decide +kernel

end GarudaChain.Api.Reserve
