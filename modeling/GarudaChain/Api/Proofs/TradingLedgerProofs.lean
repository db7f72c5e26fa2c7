import GarudaChain.Api.TradingLedger
import Mathlib.Tactic.Linarith
import Mathlib.Tactic.NormNum
import Mathlib.Tactic.Ring

/-!
# The trading ledger under concurrent requests

The checks of a request hold when it looks, not when it changes the ledger; and a withdrawal never looks
at what is locked for the address it unlocks.
-/

namespace GarudaChain.Api

namespace TradingLedger

variable {onChain : GoString → ℚ} {s : TradingLedger} {req : LedgerRequest}

/-- No trading balance is negative, no address has more locked than it holds, and what is traded is
    what is locked. -/
structure Safe (onChain : GoString → ℚ) (s : TradingLedger) : Prop where
  trading_nonneg : ∀ a, 0 ≤ s.trading.get a
  locked_le : ∀ a, s.locked.get a ≤ onChain a
  total_eq : s.trading.total = s.locked.total

/-- What a thread is about to take is still there. -/
def StillCovered (onChain : GoString → ℚ) (_ : Nat) (s : TradingLedger) (t : LedgerThread)
    (_ : LedgerHandler × LedgerRequest) : Prop :=
  match t with
  | .idle => True
  | .checked .handleDexDeposit req =>
    req.amount ≤ onChain req.fromAddress - s.locked.get req.fromAddress
  | .checked .handleDexWithdraw req =>
    req.amount ≤ s.trading.get req.fromAddress ∧ req.amount ≤ s.locked.get req.toAddress

instance (i : Nat) (t : LedgerThread) (next : LedgerHandler × LedgerRequest) :
    Decidable (StillCovered onChain i s t next) :=
  match t with
  | .idle => .isTrue trivial
  | .checked .handleDexDeposit req => inferInstanceAs
    (Decidable (req.amount ≤ onChain req.fromAddress - s.locked.get req.fromAddress))
  | .checked .handleDexWithdraw req => inferInstanceAs (Decidable
    (req.amount ≤ s.trading.get req.fromAddress ∧ req.amount ≤ s.locked.get req.toAddress))

theorem safe_deposit_iff (hsafe : Safe onChain s) (hamount : 0 < req.amount) :
    Safe onChain (s.deposit req) ↔
      req.amount ≤ onChain req.fromAddress - s.locked.get req.fromAddress := by
  constructor
  · intro h
    have hlocked := h.locked_le req.fromAddress
    rw [deposit, NumMap.get_set_self] at hlocked
    linarith
  · intro hcovered
    refine ⟨?_, ?_, ?_⟩
    · have hto := hsafe.trading_nonneg req.toAddress
      exact NumMap.forall_get_set (P := fun _ x => 0 ≤ x) hsafe.trading_nonneg (by linarith)
    · exact NumMap.forall_get_set (P := fun a x => x ≤ onChain a) hsafe.locked_le (by linarith)
    · rw [deposit, NumMap.total_set, NumMap.total_set, hsafe.total_eq]
      ring

theorem safe_withdraw_iff (hsafe : Safe onChain s) (hamount : 0 < req.amount) :
    Safe onChain (s.withdraw req) ↔
      req.amount ≤ s.trading.get req.fromAddress ∧ req.amount ≤ s.locked.get req.toAddress := by
  constructor
  · intro h
    have htrading := h.trading_nonneg req.fromAddress
    have htotal := h.total_eq
    rw [withdraw, NumMap.get_set_self] at htrading
    rw [withdraw, NumMap.total_set, NumMap.total_set, hsafe.total_eq] at htotal
    refine ⟨by linarith, ?_⟩
    -- with less locked than withdrawn, the clamp takes less from the one sum than from the other
    have hzero := le_max_left 0 (s.locked.get req.toAddress - req.amount)
    linarith
  · rintro ⟨hfrom, hto⟩
    have hclamp : max 0 (s.locked.get req.toAddress - req.amount) =
        s.locked.get req.toAddress - req.amount := max_eq_right (by linarith)
    refine ⟨?_, ?_, ?_⟩
    · exact NumMap.forall_get_set (P := fun _ x => 0 ≤ x) hsafe.trading_nonneg (by linarith)
    · have hle := hsafe.locked_le req.toAddress
      exact NumMap.forall_get_set (P := fun a x => x ≤ onChain a) hsafe.locked_le
        (by rw [hclamp]; linarith)
    · rw [withdraw, NumMap.total_set, NumMap.total_set, hclamp, hsafe.total_eq]
      ring

def Positive : LedgerThread → Prop
  | .idle => True
  | .checked _ req => 0 < req.amount

/-- What holds along a run as long as the ledger is safe. -/
def Sound (onChain : GoString → ℚ) : Threads.Config TradingLedger LedgerThread → Prop :=
  Threads.Inv (fun s => Safe onChain s ∧ ∀ a, 0 ≤ s.locked.get a) (fun _ _ t => Positive t)

theorem amount_pos_of_checkFields (h : checkFields req = .ok ()) : 0 < req.amount := by
  rw [checkFields, Result.failIf_eq_ok, decide_eq_false_iff_not] at h
  exact not_le.mp fun hle => h (.inr (.inr hle))

theorem amount_pos_of_check {handler : LedgerHandler}
    (h : s.check onChain handler req = .ok ()) : 0 < req.amount := by
  cases handler with
  | handleDexDeposit =>
    obtain ⟨_, hfields, -⟩ := Result.bind_ok_iff.mp h
    exact amount_pos_of_checkFields hfields
  | handleDexWithdraw =>
    obtain ⟨_, hfields, -⟩ := Result.bind_ok_iff.mp h
    exact amount_pos_of_checkFields hfields

theorem act_cases (onChain : GoString → ℚ) (s : TradingLedger) (i : Nat) (t : LedgerThread) (next : LedgerHandler × LedgerRequest) :
    (t = .idle ∧ (act onChain i s t next).1 = s ∧ Positive (act onChain i s t next).2) ∨
      ∃ handler req, t = .checked handler req ∧
        act onChain i s t next = (s.change handler req, .idle) := by
  cases t with
  | checked handler req => exact .inr ⟨handler, req, rfl, rfl⟩
  | idle =>
    refine .inl ⟨rfl, ?_⟩
    dsimp only [act]
    cases hcheck : s.check onChain next.1 next.2 with
    | error err => exact ⟨rfl, trivial⟩
    | ok u => exact ⟨rfl, amount_pos_of_check hcheck⟩

theorem locked_nonneg_act (hlocked : ∀ a, 0 ≤ s.locked.get a) (i : Nat) {t : LedgerThread}
    (ht : Positive t) (next : LedgerHandler × LedgerRequest) (a : GoString) :
    0 ≤ (act onChain i s t next).1.locked.get a := by
  rcases act_cases onChain s i t next with
    ⟨-, hsame, -⟩ | ⟨handler, req, rfl, hact⟩
  · rw [hsame]
    exact hlocked a
  · rw [hact]
    cases handler with
    | handleDexDeposit =>
      refine NumMap.forall_get_set (P := fun _ x => 0 ≤ x) hlocked ?_ a
      exact add_nonneg (hlocked req.fromAddress) (le_of_lt ht)
    | handleDexWithdraw =>
      exact NumMap.forall_get_set (P := fun _ x => 0 ≤ x) hlocked (le_max_left _ _) a

theorem safe_act_iff (hsafe : Safe onChain s) (i : Nat) {t : LedgerThread} (ht : Positive t)
    (next : LedgerHandler × LedgerRequest) :
    Safe onChain (act onChain i s t next).1 ↔ StillCovered onChain i s t next := by
  rcases act_cases onChain s i t next with
    ⟨rfl, hsame, -⟩ | ⟨handler, req, rfl, hact⟩
  · rw [hsame]
    exact ⟨fun _ => trivial, fun _ => hsafe⟩
  · rw [hact]
    cases handler with
    | handleDexDeposit => exact safe_deposit_iff hsafe ht
    | handleDexWithdraw => exact safe_withdraw_iff hsafe ht

theorem Sound.step {c : Threads.Config TradingLedger LedgerThread} (h : Sound onChain c)
    (x : Nat × LedgerHandler × LedgerRequest)
    (hsafe : Safe onChain (Threads.step (act onChain) c x).shared) :
    Sound onChain (Threads.step (act onChain) c x) := by
  refine Threads.Inv.step h x ⟨⟨hsafe, ?_⟩, ?_⟩ (fun _ _ _ ht => ht)
  · exact locked_nonneg_act h.shared.2 x.1 (h.threads x.1) x.2
  · rcases act_cases onChain c.shared x.1 (c.threads x.1) x.2 with
      ⟨-, -, hpos⟩ | ⟨handler, req, -, hact⟩
    · exact hpos
    · rw [hact]
      trivial

theorem sound_start (hchain : ∀ a, 0 ≤ onChain a) : Sound onChain TradingLedger.start :=
  ⟨⟨⟨fun _ => le_refl _, hchain, by simp [TradingLedger.start]⟩, fun _ => le_refl _⟩,
    fun _ => trivial⟩

end TradingLedger

open TradingLedger in
/-- The ledger is safe after every step of a run, of any number of concurrent requests, exactly
    where at each change the amount is still covered. -/
theorem tradingLedger_safe_iff (onChain : GoString → ℚ) (hchain : ∀ a, 0 ≤ onChain a)
    (steps : List (Nat × LedgerHandler × LedgerRequest)) :
    Run.Along (Threads.step (act onChain))
        (fun c x => Safe onChain (Threads.step (act onChain) c x).shared) TradingLedger.start steps ↔
      Run.Along (Threads.step (act onChain)) (Threads.On (StillCovered onChain))
        TradingLedger.start steps := by
  have hiff : ∀ c x, Sound onChain c →
      (Safe onChain (Threads.step (act onChain) c x).shared ↔
        Threads.On (StillCovered onChain) c x) := by
    intro c x hc
    exact safe_act_iff hc.shared.1 x.1 (hc.threads x.1) x.2
  constructor
  · intro h
    refine h.mono (fun c x hc hsafe => hc.step x hsafe) ?_ (sound_start hchain)
    exact fun c x hc hsafe => (hiff c x hc).mp hsafe
  · intro h
    refine h.mono (fun c x hc hx => hc.step x ((hiff c x hc).mpr hx)) ?_ (sound_start hchain)
    exact fun c x hc hx => (hiff c x hc).mpr hx

def sampleOnChain (_ : GoString) : ℚ := 10

def depositTen : LedgerHandler × LedgerRequest := (.handleDexDeposit, ⟨[97], [116], 10⟩)
def withdrawTen (l1 : GoString) : LedgerHandler × LedgerRequest :=
  (.handleDexWithdraw, ⟨[116], l1, 10⟩)

open TradingLedger in
theorem tradingLedger_safe_sample :
    Run.Along (Threads.step (act sampleOnChain))
      (fun c x => Safe sampleOnChain (Threads.step (act sampleOnChain) c x).shared)
      TradingLedger.start
      [(0, depositTen), (1, depositTen), (0, depositTen), (2, withdrawTen [97]),
        (2, withdrawTen [97]), (1, depositTen)] :=
  (tradingLedger_safe_iff sampleOnChain (fun _ => by norm_num [sampleOnChain]) _).mpr
    (by decide +kernel)

open TradingLedger in
/-- Two deposits lock twice what there is; two withdrawals leave a negative balance; one unlocks
    nothing. -/
theorem tradingLedger_unsafe :
    (Run.run (Threads.step (act sampleOnChain)) TradingLedger.start
        [(0, depositTen), (1, depositTen), (0, depositTen), (1, depositTen)]).shared.locked.get [97]
      = 20 ∧
    (Run.run (Threads.step (act sampleOnChain)) TradingLedger.start
        [(0, depositTen), (0, depositTen), (0, withdrawTen [97]), (1, withdrawTen [97]),
          (0, withdrawTen [97]), (1, withdrawTen [97])]).shared.trading.get [116] = -10 ∧
    (Run.run (Threads.step (act sampleOnChain)) TradingLedger.start
        [(0, depositTen), (0, depositTen), (0, withdrawTen [98]),
          (0, withdrawTen [98])]).shared.trading.total = 0 ∧
    (Run.run (Threads.step (act sampleOnChain)) TradingLedger.start
        [(0, depositTen), (0, depositTen), (0, withdrawTen [98]),
          (0, withdrawTen [98])]).shared.locked.total = 10 := by
  decide +kernel

end GarudaChain.Api
