import GarudaChain.Api.AdminSig
import GarudaChain.Lib.NumMap
import GarudaChain.Lib.Threads
import Mathlib.Algebra.Order.Ring.Rat

/-!
# The trading ledger of the DEX

`handleDexDeposit` and `handleDexWithdraw` of `main.go` over `dexLedger`: a deposit locks GRD of an L1
address and credits a trading address, a withdrawal does the opposite.
-/

namespace GarudaChain.Api

/-- `dexLedger` -/
structure TradingLedger where
  trading : NumMap GoString ℚ
  locked : NumMap GoString ℚ

/-- The body of either request. -/
structure LedgerRequest where
  fromAddress : GoString
  toAddress : GoString
  amount : ℚ
  deriving DecidableEq

inductive LedgerError
  | missingField
  | l1TooLow (available : ℚ)
  | tradingTooLow (balance : ℚ)
  deriving DecidableEq

namespace TradingLedger

def checkFields (req : LedgerRequest) : Except LedgerError Unit :=
  Result.failIf (req.fromAddress = [] ∨ req.toAddress = [] ∨ req.amount ≤ 0) .missingField

/-- The checks of `handleDexDeposit`. -/
def checkDeposit (onChain : GoString → ℚ) (s : TradingLedger) (req : LedgerRequest) :
    Except LedgerError Unit := do
  checkFields req
  let available := onChain req.fromAddress - s.locked.get req.fromAddress
  Result.failIf (available < req.amount) (.l1TooLow available)

/-- The checks of `handleDexWithdraw`. -/
def checkWithdraw (s : TradingLedger) (req : LedgerRequest) : Except LedgerError Unit := do
  checkFields req
  let tradingBal := s.trading.get req.fromAddress
  Result.failIf (tradingBal < req.amount) (.tradingTooLow tradingBal)

/-- What `handleDexDeposit` does under the lock. -/
def deposit (s : TradingLedger) (req : LedgerRequest) : TradingLedger where
  locked := s.locked.set req.fromAddress (s.locked.get req.fromAddress + req.amount)
  trading := s.trading.set req.toAddress (s.trading.get req.toAddress + req.amount)

/-- What `handleDexWithdraw` does under the lock. What is locked does not fall below zero. -/
def withdraw (s : TradingLedger) (req : LedgerRequest) : TradingLedger where
  trading := s.trading.set req.fromAddress (s.trading.get req.fromAddress - req.amount)
  locked := s.locked.set req.toAddress (max 0 (s.locked.get req.toAddress - req.amount))

end TradingLedger

inductive LedgerHandler
  | handleDexDeposit | handleDexWithdraw
  deriving DecidableEq

namespace TradingLedger

def check (onChain : GoString → ℚ) (s : TradingLedger) :
    LedgerHandler → LedgerRequest → Except LedgerError Unit
  | .handleDexDeposit => s.checkDeposit onChain
  | .handleDexWithdraw => s.checkWithdraw

def change (s : TradingLedger) : LedgerHandler → LedgerRequest → TradingLedger
  | .handleDexDeposit => s.deposit
  | .handleDexWithdraw => s.withdraw

end TradingLedger

inductive LedgerThread
  | idle
  | checked (handler : LedgerHandler) (req : LedgerRequest)
  deriving DecidableEq

/-- One step of a thread: it takes the next request and checks it, or it makes the change. -/
def TradingLedger.act (onChain : GoString → ℚ) (_ : Nat) (s : TradingLedger) (t : LedgerThread)
    (next : LedgerHandler × LedgerRequest) : TradingLedger × LedgerThread :=
  match t with
  | .idle =>
    match s.check onChain next.1 next.2 with
    | .ok () => (s, .checked next.1 next.2)
    | .error _ => (s, .idle)
  | .checked handler req => (s.change handler req, .idle)

/-- An empty ledger with no request under way. -/
def TradingLedger.start : Threads.Config TradingLedger LedgerThread :=
  ⟨⟨NumMap.empty, NumMap.empty⟩, fun _ => .idle⟩

end GarudaChain.Api
