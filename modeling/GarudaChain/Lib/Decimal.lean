import GarudaChain.Lib.Json
import Mathlib.Data.Nat.Digits.Lemmas

/-!
# Integers in decimal

An integer as `strconv` writes it, that it is a number of JSON, and that reading it gives it back.
-/

namespace Decimal

def digits (n : Nat) : List UInt8 :=
  if n = 0 then [0x30] else (Nat.digits 10 n).reverse.map fun d => .ofNat (0x30 + d)

/-- `strconv.FormatInt` in base 10. -/
def format (n : Int) : List UInt8 :=
  if n < 0 then 0x2d :: digits n.natAbs else digits n.natAbs

/-- The number that digits stand for, after those of `acc`. -/
def readDigits : List UInt8 → Nat → Option Nat
  | [], acc => some acc
  | c :: s, acc => if Json.isDigit c then readDigits s (acc * 10 + (c.toNat - 0x30)) else none

/-- `strconv.ParseInt` in base 10, without the range. -/
def parse : List UInt8 → Option Int
  | [] => none
  | c :: s =>
    if c = 0x2d then
      if s.isEmpty then none else (readDigits s 0).map fun n : Nat => -(n : Int)
    else if c = 0x2b then
      if s.isEmpty then none else (readDigits s 0).map fun n : Nat => (n : Int)
    else (readDigits (c :: s) 0).map fun n : Nat => (n : Int)

theorem isDigit_ofNat {d : Nat} (h : d < 10) :
    Json.isDigit (.ofNat (0x30 + d)) = true ∧ (UInt8.ofNat (0x30 + d)).toNat = 0x30 + d := by
  interval_cases d <;> decide

theorem readDigits_append (s t : List UInt8) : ∀ acc,
    readDigits (s ++ t) acc = (readDigits s acc).bind (readDigits t) := by
  induction s with
  | nil => exact fun _ => rfl
  | cons c s ih =>
    intro acc
    rw [List.cons_append, readDigits, readDigits]
    split_ifs
    · exact ih _
    · rfl

theorem readDigits_reverse (ds : List Nat) (h : ∀ d ∈ ds, d < 10) :
    readDigits (ds.reverse.map fun d => .ofNat (0x30 + d)) 0 = some (Nat.ofDigits 10 ds) := by
  induction ds with
  | nil => rfl
  | cons d ds ih =>
    obtain ⟨hdigit, hvalue⟩ := isDigit_ofNat (h d List.mem_cons_self)
    rw [List.reverse_cons, List.map_append, readDigits_append,
      ih fun e he => h e (List.mem_cons_of_mem _ he)]
    simp only [List.map_cons, List.map_nil, Option.bind_some, readDigits, hdigit, if_true, hvalue,
      Nat.ofDigits_cons]
    congr 1
    omega

theorem readDigits_digits (n : Nat) : readDigits (digits n) 0 = some n := by
  rw [digits]
  split_ifs with hzero
  · rw [hzero]
    decide
  · rw [readDigits_reverse _ fun d hd => Nat.digits_lt_base (by decide) hd, Nat.ofDigits_digits]

theorem digits_cases (n : Nat) : digits n = [0x30] ∨
    ∃ c s, digits n = c :: s ∧ Json.isDigit c = true ∧ c ≠ 0x30 ∧ ∀ d ∈ s, Json.isDigit d = true := by
  rw [digits]
  split_ifs with hzero
  · exact .inl rfl
  right
  have hne : Nat.digits 10 n ≠ [] := Nat.digits_ne_nil_iff_ne_zero.mpr hzero
  have hlast := Nat.getLast_digit_ne_zero 10 hzero
  have hbound : ∀ d ∈ Nat.digits 10 n, d < 10 := fun d hd => Nat.digits_lt_base (by decide) hd
  have hsplit := List.dropLast_append_getLast hne
  refine ⟨.ofNat (0x30 + (Nat.digits 10 n).getLast hne),
    (Nat.digits 10 n).dropLast.reverse.map fun d => .ofNat (0x30 + d), ?_, ?_, ?_, ?_⟩
  · conv_lhs => rw [← hsplit, List.reverse_append]
    rfl
  · exact (isDigit_ofNat (hbound _ (List.getLast_mem hne))).1
  · intro heq
    have hvalue := (isDigit_ofNat (hbound _ (List.getLast_mem hne))).2
    rw [heq] at hvalue
    have : (0x30 : UInt8).toNat = 0x30 := rfl
    omega
  · intro d hd
    obtain ⟨e, he, rfl⟩ := List.mem_map.mp hd
    exact (isDigit_ofNat (hbound e (List.mem_of_mem_dropLast (List.mem_reverse.mp he)))).1

theorem isDigit_ne : ∀ c : UInt8, Json.isDigit c = true → c ≠ 0x2d ∧ c ≠ 0x2b :=
  Hex.forall_byte (by decide +kernel)

theorem parse_format (n : Int) : parse (format n) = some n := by
  have hread := readDigits_digits n.natAbs
  rw [format]
  split_ifs with hneg
  · have hne : (digits n.natAbs).isEmpty = false := by
      rcases digits_cases n.natAbs with h | ⟨c, s, h, -⟩ <;> rw [h] <;> rfl
    have habs : -((n.natAbs : Nat) : Int) = n := by omega
    rw [parse, if_pos rfl, if_neg (by rw [hne]; decide), hread, Option.map_some, habs]
  · have habs : ((n.natAbs : Nat) : Int) = n := by omega
    have hunsigned : ∀ c s, digits n.natAbs = c :: s → Json.isDigit c = true →
        parse (digits n.natAbs) = some n := by
      intro c s h hc
      obtain ⟨hminus, hplus⟩ := isDigit_ne c hc
      rw [h] at hread ⊢
      rw [parse, if_neg hminus, if_neg hplus, hread, Option.map_some, habs]
    rcases digits_cases n.natAbs with h | ⟨c, s, h, hc, -, -⟩
    · exact hunsigned _ _ h (by decide)
    · exact hunsigned c s h hc

theorem numRun_digits {s : List UInt8} (h : ∀ d ∈ s, Json.isDigit d = true) :
    Json.numRun .int s = some .int := by
  induction s with
  | nil => rfl
  | cons d s ih =>
    rw [Json.numRun, Json.numStep, if_pos (h d List.mem_cons_self)]
    exact ih fun e he => h e (List.mem_cons_of_mem _ he)

theorem isNumber_format (n : Int) : Json.isNumber (format n) = true := by
  rw [format]
  rcases digits_cases n.natAbs with h | ⟨c, s, h, hc, hzero, hs⟩
  · rw [h]
    split_ifs <;> rfl
  · have hrun := numRun_digits hs
    rw [h]
    split_ifs
    · simp only [Json.isNumber, Json.numStart, if_true, Option.bind_some, Json.numRun, Json.numStep,
        if_neg hzero, hc, hrun, Json.numEnd]
    · simp only [Json.isNumber, Json.numStart, if_neg (isDigit_ne c hc).1, if_neg hzero, hc, if_true,
        Option.bind_some, hrun, Json.numEnd]

end Decimal
