import GarudaChain.Api.AdminSig
import GarudaChain.Lib.Store
import GarudaChain.Lib.Threads
import Mathlib.Algebra.Order.Ring.Rat

/-!
# QRIS deposits

The deposits of `main.go` that are paid in rupiah: `handleQRISCreate` opens one and starts a goroutine
that confirms it, `handleQRISConfirm` confirms it, `handleQRISStatus` marks it as expired.
-/

namespace GarudaChain.Api

inductive QRISStatus
  | pending | confirmed | expired
  deriving DecidableEq

/-! ## The life of one deposit

Each access to a field is a step of its own. The send is made under the lock, and so are the writes
of the status; but `handleQRISStatus` reads the status without it. -/

/-- The deposit and the lock; and the sends that succeeded and the changes of the status. -/
structure QRISShared where
  status : QRISStatus
  /-- The thread that holds `qrisDeposits.Lock()`. -/
  lock : Option Nat
  sends : Nat
  changes : List QRISStatus
  deriving DecidableEq

/-- `deposit.Status = …` -/
def QRISShared.setStatus (s : QRISShared) (status : QRISStatus) : QRISShared :=
  { s with
    status := status
    changes := if status = s.status then s.changes else status :: s.changes }

inductive QRISThread
  | sleeping
  /-- `handleQRISConfirm` before `requireAdmin`. -/
  | authorizing
  | locking
  | testing
  /-- The status was `pending`; it is to call `sendtoaddress`. -/
  | sending
  | confirming
  /-- `handleQRISStatus` before it looks the deposit up under the read lock. -/
  | looking
  /-- It has the deposit and is to read the status, without a lock. -/
  | reading
  /-- The status was `pending`; it is to compare the clock with `ExpiresAt`. -/
  | comparing
  | lockingToExpire
  | expiring
  | unlocking
  | finished
  deriving DecidableEq

/-- What is decided outside. -/
structure QRISInput where
  admin : Bool
  sent : Bool
  now : Int
  deriving DecidableEq

/-- One step of the thread with number `i`. A thread that waits for the lock stays where it is. -/
def QRISShared.act (expiresAt : Int) (i : Nat) (s : QRISShared) (t : QRISThread) (e : QRISInput) :
    QRISShared × QRISThread :=
  match t with
  | .sleeping => (s, .locking)
  | .authorizing => (s, if e.admin then .locking else .finished)
  | .locking => if s.lock = none then ({ s with lock := some i }, .testing) else (s, .locking)
  | .testing => (s, if s.status = .pending then .sending else .unlocking)
  | .sending =>
    if e.sent then ({ s with sends := s.sends + 1 }, .confirming) else (s, .unlocking)
  | .confirming => (s.setStatus .confirmed, .unlocking)
  | .looking => (s, if s.lock = none then .reading else .looking)
  | .reading => (s, if s.status = .pending then .comparing else .finished)
  | .comparing => (s, if expiresAt < e.now then .lockingToExpire else .finished)
  | .lockingToExpire =>
    if s.lock = none then ({ s with lock := some i }, .expiring) else (s, .lockingToExpire)
  | .expiring => (s.setStatus .expired, .unlocking)
  | .unlocking => ({ s with lock := none }, .finished)
  | .finished => (s, .finished)

def QRISShared.start (arrivals : Nat → QRISThread) : Threads.Config QRISShared QRISThread :=
  ⟨⟨.pending, none, 0, []⟩, arrivals⟩

/-- A thread at its start. -/
def QRISThread.Arriving (t : QRISThread) : Prop := t = .sleeping ∨ t = .authorizing ∨ t = .looking

instance (t : QRISThread) : Decidable t.Arriving :=
  inferInstanceAs (Decidable (t = .sleeping ∨ t = .authorizing ∨ t = .looking))

structure QRISDeposit where
  address : GoString
  amountGRD : ℚ
  amountIDR : ℚ
  uniqueCode : Int
  totalIDR : ℚ
  status : QRISStatus
  deriving DecidableEq

/-- The rupiah for one GRD. -/
def qrisGRDRate : ℚ := 1000

/-- `qrisDeposits.items` -/
abbrev QRISItems := Store GoString QRISDeposit

/-- The body of `handleQRISCreate`, and what its clock reads each time. -/
structure QRISCreate where
  address : GoString
  amountGRD : ℚ
  nano : Int
  retryNano : Nat → Int
  idNano : Int

inductive QRISError
  | missingField
  | belowMinimum
  /-- Says "Maksimum deposit 5.000 GRD (Rp 5.000.000) per transaksi". -/
  | aboveMaximum
  deriving DecidableEq

/-- A pending deposit with this code and amount. -/
def QRISDeposit.Conflicts (amountIDR : ℚ) (code : Int) (d : QRISDeposit) : Prop :=
  d.status = .pending ∧ d.uniqueCode = code ∧ d.amountIDR = amountIDR

instance (amountIDR : ℚ) (code : Int) (d : QRISDeposit) : Decidable (d.Conflicts amountIDR code) :=
  inferInstanceAs (Decidable (d.status = .pending ∧ d.uniqueCode = code ∧ d.amountIDR = amountIDR))

/-- The test for a conflict among all items. -/
def codeConflict (items : QRISItems) (amountIDR : ℚ) (code : Int) : Bool :=
  items.entries.any fun e => e.2.Conflicts amountIDR code

/-- `100 + int(nano % 900)`, with the remainder of Go. -/
def codeOf (nano : Int) : Int := 100 + nano.tmod 900

/-- The code after the conflict of attempt `k`. -/
def QRISCreate.retryCode (req : QRISCreate) (k : Nat) : Int := codeOf (wrap64 (req.retryNano k + k * 7))

/-- The loop over the attempts from `k` on, of which `left` are left. The code after the last one is
    not tested. -/
def chooseCode (items : QRISItems) (amountIDR : ℚ) (req : QRISCreate) : Nat → Nat → Int → Int
  | 0, _, code => code
  | left + 1, k, code =>
    if codeConflict items amountIDR code then
      chooseCode items amountIDR req left (k + 1) (req.retryCode k)
    else code

def codeAttempts : Nat := 50

/-- The order of the ids in `items`, which nothing depends on. -/
def qrisBefore (_ _ : GoString) : Bool := true

/-- `handleQRISCreate`, given the function that makes an id of the address, the amount, the code and
    the time. -/
def handleQRISCreate (depositID : GoString → ℚ → Int → Int → GoString) (items : QRISItems)
    (req : QRISCreate) : Except QRISError QRISItems := do
  Result.failIf (req.address = [] ∨ req.amountGRD ≤ 0) .missingField
  Result.failIf (req.amountGRD < 1) .belowMinimum
  Result.failIf (5000 < req.amountGRD) .aboveMaximum
  let amountIDR := req.amountGRD * qrisGRDRate
  let uniqueCode := chooseCode items amountIDR req codeAttempts 0 (codeOf req.nano)
  let id := depositID req.address req.amountGRD uniqueCode req.idNano
  .ok (items.write qrisBefore id
    ⟨req.address, req.amountGRD, amountIDR, uniqueCode, amountIDR + uniqueCode, .pending⟩)

inductive QRISEvent
  | create (req : QRISCreate)
  | confirm (id : GoString)
  | expire (id : GoString)

/-- A confirmation, which tests the status under the lock. -/
def QRISDeposit.confirm (d : QRISDeposit) : QRISDeposit :=
  if d.status = .pending then { d with status := .confirmed } else d

def QRISDeposit.expire (d : QRISDeposit) : QRISDeposit := { d with status := .expired }

def qrisStep (depositID : GoString → ℚ → Int → Int → GoString) (items : QRISItems) :
    QRISEvent → QRISItems
  | .create req =>
    match handleQRISCreate depositID items req with
    | .ok items => items
    | .error _ => items
  | .confirm id => items.modify qrisBefore id QRISDeposit.confirm
  | .expire id => items.modify qrisBefore id QRISDeposit.expire

end GarudaChain.Api
