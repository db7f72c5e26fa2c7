import GarudaChain.Api.AdminSig
import Mathlib.Logic.Function.Basic

/-!
# The nonce cache

`seenOrRecord` of `admin_replay.go` on its two structures: the list of the nonces, the most recent one first,
and the map from a nonce to its element of the list.
-/

namespace GarudaChain.Api

/-- A `*list.Element` with its `nonceEntry`; the address stands for the pointer. -/
structure NonceElement where
  addr : Nat
  nonce : GoString
  expireAt : Int
  deriving DecidableEq

/-- `nonceLRU`, with the address of the next element. -/
structure NonceCache where
  ll : List NonceElement
  idx : GoString → Option Nat
  maxLen : Nat
  ttl : Int
  next : Nat

namespace NonceCache

def empty (maxLen : Nat) (ttl : Int) : NonceCache := ⟨[], fun _ => none, maxLen, ttl, 0⟩

def entries (n : NonceCache) : NonceLRU := n.ll.map fun e => (e.nonce, e.expireAt)

/-- `n.ll.Remove(back)` and `delete(n.idx, e.nonce)`. -/
def removeBack (n : NonceCache) (e : NonceElement) : NonceCache :=
  { n with ll := n.ll.dropLast, idx := Function.update n.idx e.nonce none }

/-- The loop over the expired elements. -/
def evictExpired (now : Int) : Nat → NonceCache → NonceCache
  | 0, n => n
  | fuel + 1, n =>
    match n.ll.getLast? with
    | none => n
    | some e => if e.expireAt > now then n else evictExpired now fuel (n.removeBack e)

/-- The loop that makes room. -/
def evictOldest : Nat → NonceCache → NonceCache
  | 0, n => n
  | fuel + 1, n =>
    if n.ll.length ≥ n.maxLen then
      match n.ll.getLast? with
      | none => n
      | some e => evictOldest fuel (n.removeBack e)
    else n

def pushFront (n : NonceCache) (nonce : GoString) (now : Int) : NonceCache :=
  { n with
    ll := ⟨n.next, nonce, now + n.ttl⟩ :: n.ll
    idx := Function.update n.idx nonce (some n.next)
    next := n.next + 1 }

/-- A loop removes an element in every round, so the length of the list is enough fuel. -/
def seenOrRecord (n : NonceCache) (nonce : GoString) (now : Int) : Bool × NonceCache :=
  let n := evictExpired now n.ll.length n
  if (n.idx nonce).isSome then (true, n)
  else (false, (evictOldest n.ll.length n).pushFront nonce now)

end NonceCache

structure NonceCall where
  nonce : GoString
  now : Int

/-- The cache with the time of the last call and what was recorded, the latest recording first. -/
structure NonceRun where
  cache : NonceCache
  clock : Int
  recorded : List (GoString × Int)

def NonceRun.step (r : NonceRun) (call : NonceCall) : NonceRun :=
  match r.cache.seenOrRecord call.nonce call.now with
  | (true, cache) => ⟨cache, call.now, r.recorded⟩
  | (false, cache) => ⟨cache, call.now, (call.nonce, call.now) :: r.recorded⟩

end GarudaChain.Api
