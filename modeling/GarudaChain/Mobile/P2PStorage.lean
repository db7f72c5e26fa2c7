import GarudaChain.Lib.Threads

/-!
# Orders between two users in the mobile wallet

`utils/p2p-storage.ts` keeps the list of orders under one key of the storage.
-/

namespace GarudaChain.Mobile

inductive OrderStatus
  | menunggu
  | dibayar
  | selesai
  | autoLepas
  | dibatalkan
  | sengketa
  deriving DecidableEq

inductive Role
  | buyer
  | seller
  deriving DecidableEq

inductive MessageFrom
  | user (role : Role)
  | system
  deriving DecidableEq

structure P2PMessage where
  id : String
  sender : MessageFrom
  text : String
  time : String
  timestamp : Int
  isEscrow : Bool
  isWarning : Bool
  deriving DecidableEq

/-- `P2POrder`, without the fields that the storage does not look at. -/
structure P2POrder where
  id : String
  myRole : Role
  asset : String
  assetAmount : String
  status : OrderStatus
  releasedAt : Option Int
  autoReleaseAt : Option Int
  messages : List P2PMessage
  deriving DecidableEq

/-- The clock: the time and how `nowTime` shows it. It does not move within one pass. -/
structure Clock where
  now : Int
  time : String
  deriving DecidableEq

def createIn (order : P2POrder) (orders : List P2POrder) : List P2POrder := order :: orders

def updateIn (updated : P2POrder) (orders : List P2POrder) : List P2POrder :=
  match orders.findIdx? fun o => o.id == updated.id with
  | some idx => orders.set idx updated
  | none => updated :: orders

/-- The condition of `processAutoReleases`. -/
def P2POrder.isDue (clock : Clock) (order : P2POrder) : Bool :=
  order.status == .dibayar && order.autoReleaseAt.any fun t => decide (t ≤ clock.now)

def releaseMessages (clock : Clock) (order : P2POrder) : List P2PMessage :=
  [{ id := "ar-warn-" ++ toString clock.now
     sender := .system
     text := "⚠️ PENANGGUHAN: Penjual tidak melepas aset dalam 24 jam. Akun penjual ditangguhkan 72 jam."
     time := clock.time
     timestamp := clock.now
     isEscrow := false
     isWarning := true },
   { id := "ar-done-" ++ toString (clock.now + 1)
     sender := .system
     text := "✅ SISTEM: " ++ order.assetAmount ++ " " ++ order.asset ++ " otomatis dilepaskan ke " ++
       (match order.myRole with
        | .buyer => "dompet kamu"
        | .seller => "pembeli") ++ ". Transaksi selesai secara otomatis."
     time := clock.time
     timestamp := clock.now
     isEscrow := true
     isWarning := false }]

/-- The body of the loop of `processAutoReleases`. -/
def P2POrder.autoRelease (clock : Clock) (order : P2POrder) : P2POrder :=
  if order.isDue clock then
    { order with
      status := .autoLepas
      releasedAt := some clock.now
      messages := order.messages ++ releaseMessages clock order }
  else order

/-- `released`. -/
def releasedIds (clock : Clock) (orders : List P2POrder) : List String :=
  (orders.filter fun order => order.isDue clock).map P2POrder.id

inductive Operation
  | createOrder (order : P2POrder)
  | updateOrder (updated : P2POrder)
  | processAutoReleases
  deriving DecidableEq

/-- What a call does to the list that it has read; `processAutoReleases` takes the time then. -/
inductive Change
  | created (order : P2POrder)
  | updated (order : P2POrder)
  | released (clock : Clock)
  deriving DecidableEq

def Change.apply : Change → List P2POrder → List P2POrder
  | .created order, orders => createIn order orders
  | .updated order, orders => updateIn order orders
  | .released clock, orders => orders.map (P2POrder.autoRelease clock)

def Operation.change (clock : Clock) : Operation → Change
  | .createOrder order => .created order
  | .updateOrder updated => .updated updated
  | .processAutoReleases => .released clock

/-- A call under way. -/
inductive Call
  | idle
  /-- It waits for `getItem`. -/
  | reading (op : Operation)
  /-- It waits for `setItem` of this list, and will return these ids. -/
  | writing (change : Change) (orders : List P2POrder) (released : List String)
  | returned (released : Option (List String))
  deriving DecidableEq

structure OrderStorage where
  stored : Option (List P2POrder)
  calls : List Operation
  log : List Change
  deriving DecidableEq

def OrderStorage.orders (s : OrderStorage) : List P2POrder := s.stored.getD []

inductive Input
  | call (op : Operation)
  | answer (clock : Clock) (failed : Bool)
  deriving DecidableEq

/-- A call goes on once it has read a list. -/
def afterRead (clock : Clock) (op : Operation) (orders : List P2POrder) : Call :=
  let change := op.change clock
  match op with
  | .processAutoReleases =>
    if (releasedIds clock orders).isEmpty then .returned (some [])
    else .writing change (change.apply orders) (releasedIds clock orders)
  | _ => .writing change (change.apply orders) []

/-- One step of a call. `getAllOrders` takes a list that it cannot read for an empty one. -/
def orderStep (_ : Nat) (s : OrderStorage) : Call → Input → OrderStorage × Call
  | .idle, .call op | .returned _, .call op => ({ s with calls := s.calls ++ [op] }, .reading op)
  | .reading op, .answer clock failed => (s, afterRead clock op (if failed then [] else s.orders))
  | .writing change orders released, .answer _ failed =>
    if failed then (s, .returned none)
    else ({ s with stored := some orders, log := s.log ++ [change] }, .returned (some released))
  | t, _ => (s, t)

end GarudaChain.Mobile
