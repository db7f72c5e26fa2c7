import GarudaChain.Lib.Threads

/-!
# The hub of the archive's WebSocket server

The hub of `dex-archive/api/realtime.go` keeps the clients and who has subscribed to which topic, under
one lock.
-/

namespace GarudaChain.Realtime

/-- What ends the server. -/
inductive Panic
  | sendOnClosedChannel
  | closeOfClosedChannel
  deriving DecidableEq

structure Chan (μ : Type) where
  sent : List μ
  closed : Bool
  deriving DecidableEq

/-- `Hub`, with the topics and the channel of each client. A topic without subscribers has no entry in
    the source. -/
structure Hub (μ : Type) where
  clients : List Nat
  topics : String → List Nat
  clientTopics : Nat → List String
  chans : Nat → Chan μ
  crashed : Option Panic

namespace Hub

variable {μ : Type}

def empty : Hub μ where
  clients := []
  topics := fun _ => []
  clientTopics := fun _ => []
  chans := fun _ => ⟨[], false⟩
  crashed := none

def register (h : Hub μ) (c : Nat) : Hub μ := { h with clients := h.clients.insert c }

/-- `close(c.send)`. -/
def close (h : Hub μ) (c : Nat) : Hub μ :=
  if (h.chans c).closed then { h with crashed := some .closeOfClosedChannel }
  else { h with chans := Function.update h.chans c { h.chans c with closed := true } }

def unregister (h : Hub μ) (c : Nat) : Hub μ :=
  if c ∈ h.clients then
    close { h with
      clients := h.clients.filter (· ≠ c)
      topics := fun t =>
        if t ∈ h.clientTopics c then (h.topics t).filter (· ≠ c) else h.topics t } c
  else h

def subscribe (h : Hub μ) (c : Nat) (topic : String) : Hub μ :=
  { h with
    topics := Function.update h.topics topic ((h.topics topic).insert c)
    clientTopics := Function.update h.clientTopics c ((h.clientTopics c).insert topic) }

def unsubscribe (h : Hub μ) (c : Nat) (topic : String) : Hub μ :=
  { h with
    topics := Function.update h.topics topic ((h.topics topic).filter (· ≠ c))
    clientTopics := Function.update h.clientTopics c ((h.clientTopics c).filter (· ≠ topic)) }

/-- The send to one client, in `Publish` and in `sendDirect`. -/
def send (h : Hub μ) (c : Nat) (msg : μ) (full : Bool) : Hub μ :=
  if (h.chans c).closed then { h with crashed := some .sendOnClosedChannel }
  else if full then h
  else { h with chans := Function.update h.chans c { h.chans c with sent := (h.chans c).sent ++ [msg] } }

end Hub

/-- What a loop over a map visits: its elements, in the given order if that is one of them. -/
def visited {α : Type} [DecidableEq α] (order elems : List α) : List α :=
  if order.isPerm elems then order else elems

/-- A goroutine: it calls nothing, or a `Publish` of it has yet to send to some clients. -/
inductive HubCall (μ : Type)
  | idle
  | sending (clients : List Nat) (payload : μ)
  deriving DecidableEq

/-- What a goroutine does next. -/
inductive HubInput (μ : Type)
  | register (c : Nat)
  | unregister (c : Nat)
  | subscribe (c : Nat) (topic : String)
  | unsubscribe (c : Nat) (topic : String)
  | publish (topic : String) (msg : μ) (order : List Nat)
  | send (full : Bool)
  deriving DecidableEq

variable {μ : Type}

/-- A call of a goroutine that is not in a `Publish`. -/
def Hub.call (h : Hub μ) : HubInput μ → Hub μ × HubCall μ
  | .register c => (h.register c, .idle)
  | .unregister c => (h.unregister c, .idle)
  | .subscribe c topic => (h.subscribe c topic, .idle)
  | .unsubscribe c topic => (h.unsubscribe c topic, .idle)
  | .publish topic msg order => (h, .sending (visited order (h.topics topic)) msg)
  | .send _ => (h, .idle)

def hubStep (_ : Nat) (h : Hub μ) (t : HubCall μ) (input : HubInput μ) : Hub μ × HubCall μ :=
  if h.crashed.isSome then (h, t)
  else match t, input with
    | .idle, input => h.call input
    | .sending (c :: clients) payload, .send full => (h.send c payload full, .sending clients payload)
    | .sending [] _, input => h.call input
    | t, _ => (h, t)

end GarudaChain.Realtime
