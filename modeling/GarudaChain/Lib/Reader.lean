import Mathlib.Tactic.Common

/-!
# Readers of byte streams

A reader takes what it needs from the front of a stream or fails.
-/

/-- A reader of values of type `α` that fails with errors of type `ε`. -/
def Reader (ε α : Type) : Type := List UInt8 → Except ε (α × List UInt8)

namespace Reader

variable {ε α β : Type}

instance : Monad (Reader ε) where
  pure a := fun s => .ok (a, s)
  bind r f := fun s =>
    match r s with
    | .ok (a, s) => f a s
    | .error e => .error e

/-- Fail whatever follows. -/
def fail (e : ε) : Reader ε α := fun _ => .error e

/-- Fail unless the condition holds. -/
def check (cond : Bool) (e : ε) : Reader ε Unit := if cond then pure () else fail e

/-- The next `n` bytes, or the error for a stream that ends before. -/
def bytes (eof : ε) (n : Nat) : Reader ε (List UInt8) := fun s =>
  if n ≤ s.length then .ok (s.take n, s.drop n) else .error eof

/-- `n` values, one after the other. -/
def many (r : Reader ε α) : Nat → Reader ε (List α)
  | 0 => pure []
  | n + 1 => do
    let a ← r
    let as ← many r n
    return a :: as

/-- In front of these bytes, the reader reads this value and leaves what follows. -/
def Reads (r : Reader ε α) (bs : List UInt8) (a : α) : Prop :=
  ∀ rest, r (bs ++ rest) = .ok (a, rest)

namespace Reads

theorem pure (a : α) : Reads (Pure.pure a : Reader ε α) [] a := fun _ => rfl

theorem bind {r : Reader ε α} {f : α → Reader ε β} {bs bs' : List UInt8} {a : α} {b : β}
    (hr : Reads r bs a) (hf : Reads (f a) bs' b) : Reads (r >>= f) (bs ++ bs') b := by
  intro rest
  change (match r ((bs ++ bs') ++ rest) with
    | .ok (a, s) => f a s
    | .error e => .error e) = _
  rw [List.append_assoc, hr (bs' ++ rest)]
  exact hf rest

theorem map {r : Reader ε α} {f : α → β} {bs : List UInt8} {a : α} (hr : Reads r bs a) :
    Reads (do let a ← r; return f a) bs (f a) := by
  have h := hr.bind (f := fun a => (Pure.pure (f a) : Reader ε β)) (pure (f a))
  rwa [List.append_nil] at h

theorem check_bind {cond : Bool} (e : ε) {f : Unit → Reader ε α} {bs : List UInt8} {a : α}
    (h : cond = true) (hf : Reads (f ()) bs a) : Reads (Reader.check cond e >>= f) bs a := by
  rw [Reader.check, if_pos h]
  exact (pure ()).bind hf

theorem bytes (eof : ε) {n : Nat} {bs : List UInt8} (h : bs.length = n) :
    Reads (Reader.bytes eof n) bs bs := by
  intro rest
  subst h
  simp [Reader.bytes]

theorem many {r : Reader ε α} {enc : α → List UInt8} {as : List α}
    (h : ∀ a ∈ as, Reads r (enc a) a) : Reads (r.many as.length) (as.flatMap enc) as := by
  induction as with
  | nil => exact pure []
  | cons a as ih =>
    obtain ⟨ha, has⟩ := List.forall_mem_cons.mp h
    rw [List.flatMap_cons]
    exact ha.bind ((ih has).map (f := fun as => a :: as))

end Reads

/-- In front of these bytes, the reader fails with this error, whatever follows them. -/
def Fails (r : Reader ε α) (bs : List UInt8) (e : ε) : Prop := ∀ rest, r (bs ++ rest) = .error e

theorem Fails.append {r : Reader ε α} {bs : List UInt8} {e : ε} (h : Fails r bs e)
    (bs' : List UInt8) : Fails r (bs ++ bs') e := by
  intro rest
  rw [List.append_assoc]
  exact h (bs' ++ rest)

theorem Fails.bind {r : Reader ε α} {f : α → Reader ε β} {bs : List UInt8} {e : ε}
    (h : Fails r bs e) : Fails (r >>= f) bs e := by
  intro rest
  change (match r (bs ++ rest) with
    | .ok (a, s) => f a s
    | .error e => .error e) = _
  rw [h rest]

theorem Reads.bind_fails {r : Reader ε α} {f : α → Reader ε β} {bs bs' : List UInt8} {a : α} {e : ε}
    (hr : Reads r bs a) (hf : Fails (f a) bs' e) : Fails (r >>= f) (bs ++ bs') e := by
  intro rest
  change (match r ((bs ++ bs') ++ rest) with
    | .ok (a, s) => f a s
    | .error e => .error e) = _
  rw [List.append_assoc, hr (bs' ++ rest)]
  exact hf rest

theorem check_fails {cond : Bool} (e : ε) (h : cond = false) : Fails (Reader.check cond e) [] e := by
  intro rest
  rw [Reader.check, h]
  rfl

end Reader
