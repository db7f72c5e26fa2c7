import Mathlib.Algebra.Order.Ring.Int
import Mathlib.Data.List.Basic
import Mathlib.Tactic.Common

/-!
# SHA-256

The hash function of FIPS 180-4, on numbers below `2 ^ 32` as words, for instances that need real
digests.
-/

namespace Sha256

/-- Evaluate a number, and go on with it. -/
def strictly {α : Type} (x : Nat) (f : Nat → α) : α :=
  match x with
  | 0 => f 0
  | n + 1 => f (n + 1)

def add (x y : Nat) : Nat := (x + y) % 2 ^ 32

def rotr (n x : Nat) : Nat := (x >>> n) ||| (x <<< (32 - n)) % 2 ^ 32

def K : List Nat := [
  0x428a2f98, 0x71374491, 0xb5c0fbcf, 0xe9b5dba5, 0x3956c25b, 0x59f111f1, 0x923f82a4, 0xab1c5ed5,
  0xd807aa98, 0x12835b01, 0x243185be, 0x550c7dc3, 0x72be5d74, 0x80deb1fe, 0x9bdc06a7, 0xc19bf174,
  0xe49b69c1, 0xefbe4786, 0x0fc19dc6, 0x240ca1cc, 0x2de92c6f, 0x4a7484aa, 0x5cb0a9dc, 0x76f988da,
  0x983e5152, 0xa831c66d, 0xb00327c8, 0xbf597fc7, 0xc6e00bf3, 0xd5a79147, 0x06ca6351, 0x14292967,
  0x27b70a85, 0x2e1b2138, 0x4d2c6dfc, 0x53380d13, 0x650a7354, 0x766a0abb, 0x81c2c92e, 0x92722c85,
  0xa2bfe8a1, 0xa81a664b, 0xc24b8b70, 0xc76c51a3, 0xd192e819, 0xd6990624, 0xf40e3585, 0x106aa070,
  0x19a4c116, 0x1e376c08, 0x2748774c, 0x34b0bcb5, 0x391c0cb3, 0x4ed8aa4a, 0x5b9cca4f, 0x682e6ff3,
  0x748f82ee, 0x78a5636f, 0x84c87814, 0x8cc70208, 0x90befffa, 0xa4506ceb, 0xbef9a3f7, 0xc67178f2]

structure State where
  a : Nat
  b : Nat
  c : Nat
  d : Nat
  e : Nat
  f : Nat
  g : Nat
  h : Nat

def initial : State :=
  ⟨0x6a09e667, 0xbb67ae85, 0x3c6ef372, 0xa54ff53a, 0x510e527f, 0x9b05688c, 0x1f83d9ab, 0x5be0cd19⟩

/-- The next word of the message schedule, from the sixteen words before it. -/
def nextWord (w : List Nat) : Nat :=
  let x := w.getD 1 0
  let y := w.getD 14 0
  let s0 := rotr 7 x ^^^ rotr 18 x ^^^ (x >>> 3)
  let s1 := rotr 17 y ^^^ rotr 19 y ^^^ (y >>> 10)
  (w.getD 0 0 + s0 + w.getD 9 0 + s1) % 2 ^ 32

def round (s : State) (k w : Nat) : State :=
  let s1 := rotr 6 s.e ^^^ rotr 11 s.e ^^^ rotr 25 s.e
  let ch := (s.e &&& s.f) ^^^ ((2 ^ 32 - 1 - s.e) &&& s.g)
  let t1 := s.h + s1 + ch + k + w
  let s0 := rotr 2 s.a ^^^ rotr 13 s.a ^^^ rotr 22 s.a
  let maj := (s.a &&& s.b) ^^^ (s.a &&& s.c) ^^^ (s.b &&& s.c)
  strictly (add t1 (s0 + maj)) fun a => strictly (add s.d t1) fun e =>
    ⟨a, s.a, s.b, s.c, e, s.e, s.f, s.g⟩

/-- The rounds with these constants, with sixteen words of the schedule at hand. -/
def rounds : List Nat → List Nat → State → State
  | [], _, s => s
  | k :: ks, w, s =>
    strictly (nextWord w) fun next => rounds ks (w.tail ++ [next]) (round s k (w.headD 0))

def compress (s : State) (block : List Nat) : State :=
  let t := rounds K block s
  strictly (add s.a t.a) fun a => strictly (add s.b t.b) fun b =>
  strictly (add s.c t.c) fun c => strictly (add s.d t.d) fun d =>
  strictly (add s.e t.e) fun e => strictly (add s.f t.f) fun f =>
  strictly (add s.g t.g) fun g => strictly (add s.h t.h) fun h => ⟨a, b, c, d, e, f, g, h⟩

/-- The first `n` blocks of sixteen words. -/
def compressAll : Nat → List Nat → State → State
  | 0, _, s => s
  | n + 1, ws, s => compressAll n (ws.drop 16) (compress s (ws.take 16))

/-- The words of four bytes each. -/
def words : List UInt8 → List Nat
  | b0 :: b1 :: b2 :: b3 :: bs =>
    (b0.toNat * 2 ^ 24 + b1.toNat * 2 ^ 16 + b2.toNat * 2 ^ 8 + b3.toNat) :: words bs
  | _ => []

/-- The lowest `n` bytes of a number, the most significant one first. -/
def bigEndian (n x : Nat) : List UInt8 :=
  (List.range n).map fun i => UInt8.ofNat (x / 256 ^ (n - 1 - i) % 256)

/-- A one, as many zeros as are missing, and the length in bits. -/
def pad (message : List UInt8) : List UInt8 :=
  message ++ 0x80 :: List.replicate ((119 - message.length % 64) % 64) 0 ++
    bigEndian 8 (message.length * 8)

def sha256 (message : List UInt8) : List UInt8 :=
  let ws := words (pad message)
  let s := compressAll (ws.length / 16) ws initial
  [s.a, s.b, s.c, s.d, s.e, s.f, s.g, s.h].flatMap (bigEndian 4)

/-- The digest of `abc`. -/
example : sha256 [0x61, 0x62, 0x63] =
    [0xba, 0x78, 0x16, 0xbf, 0x8f, 0x01, 0xcf, 0xea, 0x41, 0x41, 0x40, 0xde, 0x5d, 0xae, 0x22, 0x23,
      0xb0, 0x03, 0x61, 0xa3, 0x96, 0x17, 0x7a, 0x9c, 0xb4, 0x10, 0xff, 0x61, 0xf2, 0x00, 0x15, 0xad] := by
  decide +kernel

end Sha256
