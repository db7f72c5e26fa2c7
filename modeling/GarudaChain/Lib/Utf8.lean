import Mathlib.Data.List.Basic
import Mathlib.Tactic.Common

/-!
# UTF-8

The characters of UTF-8 as sequences of bytes, the length of the character that a text starts with, and
texts that are made of characters only.
-/

namespace Utf8

def isTail (b : UInt8) : Bool := decide (0x80 ≤ b) && decide (b ≤ 0xbf)

/-- The first two bytes of a character of three bytes: no overlong forms and no surrogates. -/
def isHead3 (a b : UInt8) : Bool :=
  (a == 0xe0 && decide (0xa0 ≤ b) && decide (b ≤ 0xbf)) ||
    (decide (0xe1 ≤ a) && decide (a ≤ 0xec) && isTail b) ||
    (a == 0xed && decide (0x80 ≤ b) && decide (b ≤ 0x9f)) ||
    (decide (0xee ≤ a) && decide (a ≤ 0xef) && isTail b)

/-- The first two bytes of a character of four bytes, up to U+10FFFF. -/
def isHead4 (a b : UInt8) : Bool :=
  (a == 0xf0 && decide (0x90 ≤ b) && decide (b ≤ 0xbf)) ||
    (decide (0xf1 ≤ a) && decide (a ≤ 0xf3) && isTail b) ||
    (a == 0xf4 && decide (0x80 ≤ b) && decide (b ≤ 0x8f))

/-- The bytes are one character. -/
inductive IsRune : List UInt8 → Prop
  | one {a : UInt8} (ha : a < 0x80) : IsRune [a]
  | two {a b : UInt8} (ha : 0xc2 ≤ a ∧ a ≤ 0xdf) (hb : isTail b = true) : IsRune [a, b]
  | three {a b c : UInt8} (hab : isHead3 a b = true) (hc : isTail c = true) : IsRune [a, b, c]
  | four {a b c d : UInt8} (hab : isHead4 a b = true) (hc : isTail c = true)
      (hd : isTail d = true) : IsRune [a, b, c, d]

/-- The text is a sequence of characters. -/
inductive IsUtf8 : List UInt8 → Prop
  | nil : IsUtf8 []
  | cons {r s : List UInt8} (hr : IsRune r) (hs : IsUtf8 s) : IsUtf8 (r ++ s)

/-- The number of bytes of the character that a text starts with, 0 if it starts with none. -/
def runeLen : List UInt8 → Nat
  | [] => 0
  | a :: s =>
    if a < 0x80 then 1
    else match s with
      | [] => 0
      | b :: s =>
        if (0xc2 ≤ a ∧ a ≤ 0xdf) ∧ isTail b then 2
        else match s with
          | [] => 0
          | c :: s =>
            if isHead3 a b ∧ isTail c then 3
            else match s with
              | [] => 0
              | d :: _ => if isHead4 a b ∧ isTail c ∧ isTail d then 4 else 0

theorem isTail_ge {b : UInt8} (h : isTail b = true) : ¬ b < 0x80 := by
  simp only [isTail, Bool.and_eq_true, decide_eq_true_eq] at h
  exact UInt8.not_lt.mpr h.1

theorem isHead3_range {a b : UInt8} (h : isHead3 a b = true) :
    0xe0 ≤ a ∧ a ≤ 0xef ∧ ¬ b < 0x80 := by
  simp only [isHead3, isTail, Bool.or_eq_true, Bool.and_eq_true, decide_eq_true_eq,
    beq_iff_eq] at h
  grind

theorem isHead4_range {a b : UInt8} (h : isHead4 a b = true) : 0xf0 ≤ a ∧ ¬ b < 0x80 := by
  simp only [isHead4, isTail, Bool.or_eq_true, Bool.and_eq_true, decide_eq_true_eq,
    beq_iff_eq] at h
  grind

theorem IsRune.ascii_or {r : List UInt8} (h : IsRune r) :
    (∃ b, r = [b] ∧ b < 0x80) ∨ ∀ b ∈ r, ¬ b < 0x80 := by
  cases h with
  | one ha => exact .inl ⟨_, rfl, ha⟩
  | two ha hb =>
    have hb := isTail_ge hb
    right
    grind
  | three hab hc =>
    have hab := isHead3_range hab
    have hc := isTail_ge hc
    right
    grind
  | four hab hc hd =>
    have hab := isHead4_range hab
    have hc := isTail_ge hc
    have hd := isTail_ge hd
    right
    grind

theorem IsRune.ne_nil {r : List UInt8} (h : IsRune r) : r ≠ [] := by
  cases h <;> simp

theorem IsRune.runeLen_append {r : List UInt8} (h : IsRune r) (s : List UInt8) :
    runeLen (r ++ s) = r.length := by
  cases h with
  | one ha => simp [runeLen, ha]
  | @two a b ha hb =>
    have hge : ¬ a < 0x80 := by grind
    simp [runeLen, hge, ha, hb]
  | @three a b c hab hc =>
    obtain ⟨hlo, -, -⟩ := isHead3_range hab
    have hge : ¬ a < 0x80 := by grind
    have htwo : ¬ ((0xc2 ≤ a ∧ a ≤ 0xdf) ∧ isTail b = true) := by grind
    simp only [List.cons_append, List.nil_append, runeLen, if_neg hge, if_neg htwo,
      if_pos (And.intro hab hc), List.length_cons, List.length_nil]
  | @four a b c d hab hc hd =>
    obtain ⟨hlo, -⟩ := isHead4_range hab
    have hge : ¬ a < 0x80 := by grind
    have htwo : ¬ ((0xc2 ≤ a ∧ a ≤ 0xdf) ∧ isTail b = true) := by grind
    have hthree : ¬ (isHead3 a b = true ∧ isTail c = true) := by
      rintro ⟨h3, -⟩
      have := isHead3_range h3
      grind
    simp only [List.cons_append, List.nil_append, runeLen, if_neg hge, if_neg htwo, if_neg hthree,
      if_pos (And.intro hab (And.intro hc hd)), List.length_cons, List.length_nil]

theorem isRune_take {s : List UInt8} (h : runeLen s ≠ 0) : IsRune (s.take (runeLen s)) := by
  revert h
  fun_cases runeLen s with
  | case2 a s ha => exact fun _ => .one ha
  | case4 a ha b s htwo => exact fun _ => .two htwo.1 htwo.2
  | case6 a ha b htwo c s hthree => exact fun _ => .three hthree.1 hthree.2
  | case8 a ha b htwo c hthree d s hfour => exact fun _ => .four hfour.1 hfour.2.1 hfour.2.2
  | _ => exact fun h => absurd rfl h

/-- A text of ASCII characters. -/
def Ascii (s : List UInt8) : Prop := ∀ b ∈ s, b < 0x80

instance (s : List UInt8) : Decidable (Ascii s) := List.decidableBAll (fun b => b < 0x80) s

theorem isUtf8_of_ascii {s : List UInt8} (h : Ascii s) : IsUtf8 s := by
  induction s with
  | nil => exact .nil
  | cons b s ih =>
    exact .cons (.one (h b List.mem_cons_self)) (ih fun c hc => h c (List.mem_cons_of_mem _ hc))

end Utf8
