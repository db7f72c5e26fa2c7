import GarudaChain.Lib.Int64
import GarudaChain.Lib.Run
import Mathlib.Logic.Function.Basic

/-!
# The rate limiter of the indexer

`indexer/ratelimit/limiter.go` keeps a bucket of tokens for each address.
-/

namespace GarudaChain.Indexer

structure Bucket where
  tokens : Int
  lastRefill : Int
  deriving DecidableEq

/-- What `ratelimit.New` is called with. -/
structure Quota where
  rate : Int
  burst : Int
  window : Int
  deriving DecidableEq

structure Limiter extends Quota where
  buckets : String → Option Bucket

/-- `ratelimit.New`, without the goroutine that calls `cleanup`. -/
def Limiter.new (q : Quota) : Limiter := ⟨q, fun _ => none⟩

/-- The clock as one call of `Allow` reads it: for a new bucket, for `time.Since` and after a refill. -/
structure Readings where
  created : Int
  now : Int
  refilled : Int
  deriving DecidableEq

/-- `time.Since`, which stops at the largest and the smallest duration. -/
def since (last now : Int) : Int :=
  max (-9223372036854775808) (min (now - last) 9223372036854775807)

/-- The bucket that `Allow` finds or creates. -/
def Limiter.bucketOf (l : Limiter) (ip : String) (clock : Readings) : Bucket :=
  (l.buckets ip).getD ⟨l.burst, clock.created⟩

/-- The whole windows since the last refill. -/
def Quota.windows (q : Quota) (clock : Readings) (b : Bucket) : Int :=
  (since b.lastRefill clock.now).tdiv q.window

def Quota.refill (q : Quota) (clock : Readings) (b : Bucket) : Bucket :=
  let refill := wrap64 (q.windows clock b * q.rate)
  if refill > 0 then
    let tokens := wrap64 (b.tokens + refill)
    ⟨if tokens > q.burst then q.burst else tokens, clock.refilled⟩
  else b

def Limiter.allow (l : Limiter) (ip : String) (clock : Readings) : Limiter × Bool :=
  let b := l.refill clock (l.bucketOf ip clock)
  if b.tokens ≤ 0 then ({ l with buckets := Function.update l.buckets ip (some b) }, false)
  else
    ({ l with buckets := Function.update l.buckets ip (some { b with tokens := b.tokens - 1 }) }, true)

def Limiter.cleanup (l : Limiter) (now : Int) : Limiter :=
  let cutoff := now - 600000000000
  { l with buckets := fun ip => (l.buckets ip).filter fun b => decide (cutoff ≤ b.lastRefill) }

inductive LimiterEvent
  | allow (ip : String) (clock : Readings)
  | cleanup (now : Int)
  deriving DecidableEq

/-- The limiter, the last reading of the clock, and the calls that were allowed with their times. -/
structure LimiterRun where
  limiter : Limiter
  clock : Int
  allowed : List (String × Int)

def limiterStep (s : LimiterRun) : LimiterEvent → LimiterRun
  | .allow ip clock =>
    let (limiter, ok) := s.limiter.allow ip clock
    ⟨limiter, clock.refilled, if ok then s.allowed ++ [(ip, clock.now)] else s.allowed⟩
  | .cleanup now => { s with limiter := s.limiter.cleanup now, clock := now }

end GarudaChain.Indexer
