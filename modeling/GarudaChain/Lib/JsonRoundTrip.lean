import GarudaChain.Lib.Json

/-!
# Reading what was written

A value whose strings are UTF-8, whose numbers are numbers and which is not nested too deeply is read
back as it was.
-/

namespace Json

open Utf8

theorem feed_cons_of_step {sc sc' : Scanner} {c : UInt8} (h : step sc c = some sc')
    (s : List UInt8) : feed sc (c :: s) = feed sc' s := by
  rw [feed, h]

/-- Inside a string the scanner takes these bytes as they are. -/
def Passes (t : List UInt8) : Prop :=
  ∀ isKey raw stack rest, feed ⟨.inString isKey raw, stack⟩ (t ++ rest) =
    feed ⟨.inString isKey (raw ++ t), stack⟩ rest

theorem passes_nil : Passes [] := by
  intro isKey raw stack rest
  simp

theorem Passes.append {s t : List UInt8} (hs : Passes s) (ht : Passes t) : Passes (s ++ t) := by
  intro isKey raw stack rest
  rw [List.append_assoc, hs, ht, List.append_assoc]

theorem passes_plain {c : UInt8} (hquote : c ≠ 0x22) (hback : c ≠ 0x5c) (hctrl : ¬ c < 0x20) :
    Passes [c] := by
  intro isKey raw stack rest
  exact feed_cons_of_step (by simp [step, hquote, hback, hctrl]) rest

theorem passes_plains {t : List UInt8} (h : ∀ c ∈ t, c ≠ 0x22 ∧ c ≠ 0x5c ∧ ¬ c < 0x20) :
    Passes t := by
  induction t with
  | nil => exact passes_nil
  | cons c t ih =>
    obtain ⟨hquote, hback, hctrl⟩ := h c List.mem_cons_self
    exact (passes_plain hquote hback hctrl).append (ih fun d hd => h d (List.mem_cons_of_mem _ hd))

theorem passes_escape {e : UInt8} (h : e ∈ [0x62, 0x66, 0x6e, 0x72, 0x74, 0x5c, 0x2f, 0x22]) :
    Passes [0x5c, e] := by
  intro isKey raw stack rest
  have hu : e ≠ 0x75 := by
    rintro rfl
    exact absurd h (by decide)
  have hback : step ⟨.inString isKey raw, stack⟩ 0x5c =
      some ⟨.inEscape isKey (raw ++ [0x5c]), stack⟩ := by simp [step]
  have he : step ⟨.inEscape isKey (raw ++ [0x5c]), stack⟩ e =
      some ⟨.inString isKey (raw ++ [0x5c] ++ [e]), stack⟩ := by
    simp only [step, if_neg hu, if_pos h]
  rw [List.cons_append, feed_cons_of_step hback, List.cons_append, feed_cons_of_step he]
  simp

theorem passes_hex {a b c d : UInt8} (ha : (Hex.value a).isSome) (hb : (Hex.value b).isSome)
    (hc : (Hex.value c).isSome) (hd : (Hex.value d).isSome) : Passes [0x5c, 0x75, a, b, c, d] := by
  intro isKey raw stack rest
  have hdigit : ∀ x, (Hex.value x).isSome → (Hex.value x).isNone = false := by
    intro x hx
    simpa using hx
  simp [feed, step, hdigit a ha, hdigit b hb, hdigit c hc, hdigit d hd]

theorem passes_escapeByte (b : UInt8) : Passes (escapeByte b) := by
  obtain ⟨hhi, hlo, -⟩ := Hex.value_digits b
  rw [escapeByte]
  split_ifs with hself h08 h0c h0a h0d h09 hcode
  · refine passes_escape ?_
    rcases hself with rfl | rfl
    · decide
    · decide
  · exact passes_escape (by decide)
  · exact passes_escape (by decide)
  · exact passes_escape (by decide)
  · exact passes_escape (by decide)
  · exact passes_escape (by decide)
  · exact passes_hex (by decide) (by decide) (by simp [hhi]) (by simp [hlo])
  · rw [not_or] at hself hcode
    exact passes_plain hself.1 hself.2 hcode.1

theorem passes_escapeRune {r : List UInt8} (h : ∀ b ∈ r, ¬ b < 0x80) : Passes (escapeRune r) := by
  rw [escapeRune]
  split_ifs with hls hps
  · exact passes_hex (by decide) (by decide) (by decide) (by decide)
  · exact passes_hex (by decide) (by decide) (by decide) (by decide)
  · refine passes_plains fun c hc => ?_
    have hge := h c hc
    refine ⟨?_, ?_, by grind⟩
    · rintro rfl
      exact hge (by decide)
    · rintro rfl
      exact hge (by decide)

/-- What an escaped string is made of: what holds of the pieces and is kept by putting texts together
    holds of the whole. -/
theorem escapeLoop_rule {P : List UInt8 → Prop} (hnil : P [])
    (happend : ∀ {s t}, P s → P t → P (s ++ t)) (hbyte : ∀ b, P (escapeByte b))
    (hrune : ∀ {r : List UInt8}, (∀ b ∈ r, ¬ b < 0x80) → P (escapeRune r))
    (hreplacement : P escapedReplacement) (fuel : Nat) : ∀ s, P (escapeLoop fuel s) := by
  induction fuel with
  | zero => exact fun _ => hnil
  | succ fuel ih =>
    intro s
    cases s with
    | nil => exact hnil
    | cons b s =>
      rw [escapeLoop]
      by_cases hb : b < 0x80
      · rw [if_pos hb]
        exact happend (hbyte b) (ih s)
      · rw [if_neg hb]
        cases hn : runeLen (b :: s) with
        | zero => exact happend hreplacement (ih s)
        | succ n =>
          have htake := isRune_take (s := b :: s) (by omega)
          rw [hn] at htake
          refine happend (hrune ?_) (ih _)
          rcases htake.ascii_or with ⟨c, hc, hlt⟩ | hge
          · rw [List.take_succ_cons, List.cons.injEq] at hc
            exact absurd (hc.1 ▸ hlt) hb
          · exact hge

theorem passes_escape_string (s : List UInt8) : Passes (escape s) :=
  escapeLoop_rule passes_nil Passes.append passes_escapeByte passes_escapeRune
    (passes_hex (by decide) (by decide) (by decide) (by decide)) _ s

/-- A round of the decoding turns `t` into `r`, whatever follows. -/
def Unquotes (t r : List UInt8) : Prop :=
  ∀ fuel rest, unquoteLoop (fuel + 1) (t ++ rest) = r ++ unquoteLoop fuel rest

theorem unquotes_rune {r : List UInt8} (h : IsRune r) (hback : r ≠ [0x5c]) : Unquotes r r := by
  intro fuel rest
  have hlen := h.runeLen_append rest
  cases r with
  | nil => exact absurd rfl h.ne_nil
  | cons b r =>
    have hb : b ≠ 0x5c := by
      rintro rfl
      rcases h.ascii_or with ⟨c, hc, -⟩ | hge
      · rw [List.cons.injEq] at hc
        exact hback (by rw [hc.2])
      · exact hge _ List.mem_cons_self (by decide)
    rw [List.cons_append, List.length_cons] at hlen
    rw [List.cons_append, unquoteLoop, if_neg hb, hlen]
    simp

theorem unquotes_escape {e : UInt8} (h : e ≠ 0x75) : Unquotes [0x5c, e] [unescapeByte e] := by
  intro fuel rest
  have hnot : getu4 (0x5c :: e :: rest) = none := by simp [getu4, h]
  simp [unquoteLoop, hnot]

theorem unquotes_hex {a b c d : UInt8} {n : Nat} (h : hex4 [a, b, c, d] = some n)
    (hn : n < 0xd800) : Unquotes [0x5c, 0x75, a, b, c, d] (encodeRune n) := by
  intro fuel rest
  have hget : getu4 (0x5c :: 0x75 :: a :: b :: c :: d :: rest) = some n := by simp [getu4, h]
  have hnot : ¬ 0xd800 ≤ n := by omega
  simp [unquoteLoop, hget, hnot]

theorem hex4_byte : ∀ b : UInt8, hex4 [0x30, 0x30, Hex.digit (b / 16), Hex.digit (b % 16)] =
    some b.toNat :=
  Hex.forall_byte (by decide +kernel)

theorem unquotes_escapeByte {b : UInt8} (hb : b < 0x80) : Unquotes (escapeByte b) [b] := by
  rw [escapeByte]
  split_ifs with hself h08 h0c h0a h0d h09 hcode
  · rcases hself with rfl | rfl
    · exact unquotes_escape (by decide)
    · exact unquotes_escape (by decide)
  · subst h08
    exact unquotes_escape (by decide)
  · subst h0c
    exact unquotes_escape (by decide)
  · subst h0a
    exact unquotes_escape (by decide)
  · subst h0d
    exact unquotes_escape (by decide)
  · subst h09
    exact unquotes_escape (by decide)
  · have hlt : b.toNat < 0x80 := UInt8.lt_iff_toNat_lt.mp hb
    have hencode : encodeRune b.toNat = [b] := by simp [encodeRune, hlt]
    rw [← hencode]
    exact unquotes_hex (hex4_byte b) (by omega)
  · rw [not_or] at hself
    exact unquotes_rune (.one hb) (by simpa using hself.2)

theorem unquotes_escapeRune {r : List UInt8} (h : IsRune r) (hge : ∀ b ∈ r, ¬ b < 0x80) :
    Unquotes (escapeRune r) r := by
  rw [escapeRune]
  split_ifs with hls hps
  · subst hls
    exact unquotes_hex (n := 0x2028) (by decide) (by decide)
  · subst hps
    exact unquotes_hex (n := 0x2029) (by decide) (by decide)
  · refine unquotes_rune h ?_
    rintro rfl
    exact hge _ List.mem_cons_self (by decide)

theorem escapeLoop_rune {r : List UInt8} (h : IsRune r) : ∃ t, t ≠ [] ∧ Unquotes t r ∧
    ∀ fuel s, escapeLoop (fuel + 1) (r ++ s) = t ++ escapeLoop fuel s := by
  rcases h.ascii_or with ⟨b, rfl, hb⟩ | hge
  · refine ⟨escapeByte b, ?_, unquotes_escapeByte hb, ?_⟩
    · rw [escapeByte]
      split_ifs <;> simp
    · intro fuel s
      rw [List.singleton_append, escapeLoop, if_pos hb]
  · refine ⟨escapeRune r, ?_, unquotes_escapeRune h hge, ?_⟩
    · rw [escapeRune]
      split_ifs
      · simp
      · simp
      · exact h.ne_nil
    · intro fuel s
      have hlen := h.runeLen_append s
      cases r with
      | nil => exact absurd rfl h.ne_nil
      | cons b r =>
        rw [List.cons_append, List.length_cons] at hlen
        rw [List.cons_append, escapeLoop, if_neg (hge b List.mem_cons_self), hlen]
        simp

theorem unquoteLoop_escapeLoop {s : List UInt8} (h : IsUtf8 s) : ∀ fuel fuel', s.length ≤ fuel →
    (escapeLoop fuel s).length ≤ fuel' → unquoteLoop fuel' (escapeLoop fuel s) = s := by
  induction h with
  | nil =>
    intro fuel fuel' _ _
    cases fuel with
    | zero => cases fuel' <;> rfl
    | succ fuel => cases fuel' <;> rfl
  | @cons r s hr hs ih =>
    intro fuel fuel' hfuel hfuel'
    obtain ⟨t, ht, hunquotes, hescape⟩ := escapeLoop_rune hr
    have hrpos := List.length_pos_iff.mpr hr.ne_nil
    have htpos := List.length_pos_iff.mpr ht
    rw [List.length_append] at hfuel
    obtain ⟨fuel, rfl⟩ : ∃ n, fuel = n + 1 := ⟨fuel - 1, by omega⟩
    rw [hescape, List.length_append] at hfuel'
    obtain ⟨fuel', rfl⟩ : ∃ n, fuel' = n + 1 := ⟨fuel' - 1, by omega⟩
    rw [hescape, hunquotes, ih fuel fuel' (by omega) (by omega)]

theorem unquote_escape {s : List UInt8} (h : IsUtf8 s) : unquote (escape s) = s :=
  unquoteLoop_escapeLoop h _ _ (Nat.le_refl _) (Nat.le_refl _)

theorem feed_quote (s : List UInt8) (isKey : Bool) (stack : List Frame) (rest : List UInt8) :
    feed ⟨.inString isKey [], stack⟩ (escape s ++ 0x22 :: rest) =
      (deliverString isKey (escape s) stack).bind fun sc => feed sc rest := by
  rw [passes_escape_string]
  simp only [List.nil_append, feed, step, if_true]
  cases deliverString isKey (escape s) stack <;> rfl

theorem feed_string {s : List UInt8} (h : IsUtf8 s) (stack : List Frame) (rest : List UInt8) :
    feed ⟨.beginValue, stack⟩ (quote s ++ rest) = feed (deliver (.str s) stack) rest := by
  have hopen : step ⟨.beginValue, stack⟩ 0x22 = some ⟨.inString false [], stack⟩ := by
    simp [step, stepBeginValue, isSpace]
  rw [quote, List.cons_append, feed_cons_of_step hopen, List.append_assoc, List.singleton_append,
    feed_quote]
  simp [deliverString, unquote_escape h]

theorem feed_key {s : List UInt8} (h : IsUtf8 s) {mode : Mode}
    (hmode : mode = .beginKey ∨ mode = .beginKeyOrEmpty) (ms : List (List UInt8 × Tree))
    (key : List UInt8) (stack : List Frame) (rest : List UInt8) :
    feed ⟨mode, .obj ms key :: stack⟩ (quote s ++ 0x3a :: rest) =
      feed ⟨.beginValue, .obj ms s :: stack⟩ rest := by
  have hopen : step ⟨mode, .obj ms key :: stack⟩ 0x22 =
      some ⟨.inString true [], .obj ms key :: stack⟩ := by
    rcases hmode with rfl | rfl
    · simp [step, stepBeginKey, isSpace]
    · simp [step, stepBeginKey, isSpace]
  have hcolon : step ⟨.colon, .obj ms s :: stack⟩ 0x3a =
      some ⟨.beginValue, .obj ms s :: stack⟩ := by simp [step, isSpace]
  rw [quote, List.cons_append, feed_cons_of_step hopen, List.append_assoc, List.singleton_append,
    feed_quote]
  simp only [deliverString, if_true, unquote_escape h, Option.bind_some]
  exact feed_cons_of_step hcolon rest

/-- The bytes that can follow a value: a comma, an end of an array or object, and the space at the end
    of the text. -/
def IsEnd (c : UInt8) : Prop := c = 0x2c ∨ c = 0x5d ∨ c = 0x7d ∨ c = 0x20

theorem numStep_of_isEnd {c : UInt8} (h : IsEnd c) (part : NumPart) : numStep part c = none := by
  rcases h with rfl | rfl | rfl | rfl <;> cases part <;> rfl

theorem step_deliver (v : Tree) (stack : List Frame) (c : UInt8) :
    step (deliver v stack) c = stepAfter (deliver v stack) c := by
  rcases stack with _ | ⟨_ | _, _⟩ <;> rfl

theorem feed_numRun (lit : List UInt8) : ∀ {part part' : NumPart} {before : List UInt8}
    {stack : List Frame} {c : UInt8} {rest : List UInt8}, numRun part lit = some part' →
    numEnd part' = true → IsEnd c →
    feed ⟨.inNumber part before, stack⟩ (lit ++ c :: rest) =
      feed (deliver (.num (before ++ lit)) stack) (c :: rest) := by
  induction lit with
  | nil =>
    intro part part' before stack c rest hrun hend hc
    cases hrun
    simp only [List.nil_append, List.append_nil, feed, step_deliver]
    simp only [step, numStep_of_isEnd hc, hend, if_true]
  | cons d lit ih =>
    intro part part' before stack c rest hrun hend hc
    rw [numRun] at hrun
    cases hd : numStep part d with
    | none => simp [hd] at hrun
    | some next =>
      rw [hd] at hrun
      have hstep : step ⟨.inNumber part before, stack⟩ d =
          some ⟨.inNumber next (before ++ [d]), stack⟩ := by simp [step, hd]
      rw [List.cons_append, feed_cons_of_step hstep, ih hrun hend hc]
      simp

theorem numStart_bytes : ∀ c : UInt8, (numStart c).isSome →
    isSpace c = false ∧ c ∉ [0x7b, 0x5b, 0x22, 0x74, 0x66, 0x6e, 0x5d] :=
  Hex.forall_byte (by decide +kernel)

theorem feed_number {lit : List UInt8} (h : isNumber lit = true) {stack : List Frame} {c : UInt8}
    {rest : List UInt8} (hc : IsEnd c) : feed ⟨.beginValue, stack⟩ (lit ++ c :: rest) =
      feed (deliver (.num lit) stack) (c :: rest) := by
  cases lit with
  | nil => simp [isNumber] at h
  | cons d lit =>
    rw [isNumber] at h
    cases hd : numStart d with
    | none => simp [hd] at h
    | some part =>
      rw [hd, Option.bind_some] at h
      cases hrun : numRun part lit with
      | none => simp [hrun] at h
      | some part' =>
        rw [hrun] at h
        obtain ⟨hspace, hnot⟩ := numStart_bytes d (by simp [hd])
        simp only [List.mem_cons, not_or] at hnot
        have hstep : step ⟨.beginValue, stack⟩ d = some ⟨.inNumber part [d], stack⟩ := by
          simp [step, stepBeginValue, hspace, hnot, hd]
        rw [List.cons_append, feed_cons_of_step hstep, feed_numRun lit hrun h hc]
        rfl

mutual

/-- The strings are UTF-8, the numbers are numbers, and there are at most `depth` arrays and objects
    around each other. -/
def Readable (depth : Nat) : Tree → Prop
  | .null => True
  | .bool _ => True
  | .num lit => isNumber lit = true
  | .str s => IsUtf8 s
  | .arr xs => 0 < depth ∧ ReadableElems (depth - 1) xs
  | .obj ms => 0 < depth ∧ ReadableMembers (depth - 1) ms

def ReadableElems (depth : Nat) : List Tree → Prop
  | [] => True
  | x :: xs => Readable depth x ∧ ReadableElems depth xs

def ReadableMembers (depth : Nat) : List (List UInt8 × Tree) → Prop
  | [] => True
  | (k, v) :: ms => IsUtf8 k ∧ Readable depth v ∧ ReadableMembers depth ms

end

theorem step_beginValueOrEmpty {c : UInt8} {stack : List Frame} (hspace : isSpace c = false)
    (hend : c ≠ 0x5d) : step ⟨.beginValueOrEmpty, stack⟩ c = step ⟨.beginValue, stack⟩ c := by
  simp [step, hspace, hend]

theorem feed_beginValueOrEmpty {depth : Nat} {v : Tree} (h : Readable depth v) (stack : List Frame)
    (rest : List UInt8) : feed ⟨.beginValueOrEmpty, stack⟩ (write v ++ rest) =
      feed ⟨.beginValue, stack⟩ (write v ++ rest) := by
  have hfirst : ∃ c s, write v = c :: s ∧ isSpace c = false ∧ c ≠ 0x5d := by
    cases v with
    | null => exact ⟨_, _, rfl, by decide, by decide⟩
    | bool b => cases b <;> exact ⟨_, _, rfl, by decide, by decide⟩
    | num lit =>
      cases lit with
      | nil => simp [Readable, isNumber] at h
      | cons c lit =>
        have hstart : (numStart c).isSome := by
          rw [Readable, isNumber] at h
          cases hc : numStart c with
          | none => simp [hc] at h
          | some part => rfl
        obtain ⟨hspace, hnot⟩ := numStart_bytes c hstart
        refine ⟨c, lit, rfl, hspace, ?_⟩
        rintro rfl
        exact hnot (by decide)
    | str s => exact ⟨_, _, rfl, by decide, by decide⟩
    | arr xs => cases xs <;> exact ⟨_, _, rfl, by decide, by decide⟩
    | obj ms => rcases ms with _ | ⟨⟨k, v⟩, ms⟩ <;> exact ⟨_, _, rfl, by decide, by decide⟩
  obtain ⟨c, s, hwrite, hspace, hend⟩ := hfirst
  rw [hwrite, List.cons_append, feed, feed, step_beginValueOrEmpty hspace hend]

theorem writeElems_head (xs : List Tree) (rest : List UInt8) :
    ∃ c t, writeElems xs ++ rest = c :: t ∧ IsEnd c := by
  cases xs with
  | nil => exact ⟨_, _, rfl, .inr (.inl rfl)⟩
  | cons x xs => exact ⟨_, _, rfl, .inl rfl⟩

theorem writeMembers_head (ms : List (List UInt8 × Tree)) (rest : List UInt8) :
    ∃ c t, writeMembers ms ++ rest = c :: t ∧ IsEnd c := by
  rcases ms with _ | ⟨⟨k, v⟩, ms⟩
  · exact ⟨_, _, rfl, .inr (.inr (.inl rfl))⟩
  · exact ⟨_, _, rfl, .inl rfl⟩

theorem step_openArr {stack : List Frame} (h : stack.length + 1 ≤ maxNestingDepth) :
    step ⟨.beginValue, stack⟩ 0x5b = some ⟨.beginValueOrEmpty, .arr [] :: stack⟩ := by
  simp [step, stepBeginValue, isSpace, push, h]

theorem step_openObj {stack : List Frame} (h : stack.length + 1 ≤ maxNestingDepth) :
    step ⟨.beginValue, stack⟩ 0x7b = some ⟨.beginKeyOrEmpty, .obj [] [] :: stack⟩ := by
  simp [step, stepBeginValue, isSpace, push, h]

theorem feed_literal {c : UInt8} (rest : List UInt8) {v : Tree} {stack : List Frame}
    (hopen : step ⟨.beginValue, stack⟩ c = some ⟨.inLiteral rest v, stack⟩) (hne : rest ≠ [])
    (s : List UInt8) : feed ⟨.beginValue, stack⟩ (c :: (rest ++ s)) = feed (deliver v stack) s := by
  have hrest : ∀ rest : List UInt8, rest ≠ [] →
      feed ⟨.inLiteral rest v, stack⟩ (rest ++ s) = feed (deliver v stack) s := by
    intro rest
    induction rest with
    | nil => exact fun h => absurd rfl h
    | cons d rest ih =>
      intro _
      cases rest with
      | nil => exact feed_cons_of_step (by simp [step]) s
      | cons e rest =>
        rw [List.cons_append, feed_cons_of_step (by simp [step]; rfl)]
        exact ih (by simp)
  rw [feed_cons_of_step hopen, hrest rest hne]

mutual

theorem feed_write : ∀ (v : Tree) {depth : Nat} {stack : List Frame} {c : UInt8}
    {rest : List UInt8}, Readable depth v → stack.length + depth ≤ maxNestingDepth → IsEnd c →
    feed ⟨.beginValue, stack⟩ (write v ++ c :: rest) = feed (deliver v stack) (c :: rest)
  | .null, _, stack, c, rest, _, _, _ =>
    feed_literal [0x75, 0x6c, 0x6c] (by simp [step, stepBeginValue, isSpace]) (by simp) _
  | .bool true, _, stack, c, rest, _, _, _ =>
    feed_literal [0x72, 0x75, 0x65] (by simp [step, stepBeginValue, isSpace]) (by simp) _
  | .bool false, _, stack, c, rest, _, _, _ =>
    feed_literal [0x61, 0x6c, 0x73, 0x65] (by simp [step, stepBeginValue, isSpace]) (by simp) _
  | .num lit, _, stack, c, rest, h, _, hc => feed_number h hc
  | .str s, _, stack, c, rest, h, _, _ => feed_string h stack _
  | .arr [], depth, stack, c, rest, h, hdepth, _ => by
    have hpos : 0 < depth := h.1
    rw [write, List.cons_append, feed_cons_of_step (step_openArr (by omega))]
    exact feed_cons_of_step (by simp [step, stepEndValue, isSpace]) _
  | .arr (x :: xs), depth, stack, c, rest, h, hdepth, _ => by
    obtain ⟨hpos, hx, hxs⟩ : 0 < depth ∧ Readable (depth - 1) x ∧ ReadableElems (depth - 1) xs := h
    obtain ⟨c', t, heq, hc'⟩ := writeElems_head xs (c :: rest)
    rw [write, List.cons_append, feed_cons_of_step (step_openArr (by omega)), List.append_assoc,
      feed_beginValueOrEmpty hx, heq, feed_write x hx (by simp only [List.length_cons]; omega) hc',
      ← heq]
    exact feed_writeElems xs hxs (by omega)
  | .obj [], depth, stack, c, rest, h, hdepth, _ => by
    have hpos : 0 < depth := h.1
    rw [write, List.cons_append, feed_cons_of_step (step_openObj (by omega))]
    exact feed_cons_of_step (by simp [step, stepEndValue, isSpace]) _
  | .obj ((k, v) :: ms), depth, stack, c, rest, h, hdepth, _ => by
    obtain ⟨hpos, hk, hv, hms⟩ : 0 < depth ∧ IsUtf8 k ∧ Readable (depth - 1) v ∧
      ReadableMembers (depth - 1) ms := h
    obtain ⟨c', t, heq, hc'⟩ := writeMembers_head ms (c :: rest)
    rw [write, List.cons_append, feed_cons_of_step (step_openObj (by omega)), List.append_assoc,
      List.cons_append, feed_key hk (.inr rfl), List.append_assoc, heq,
      feed_write v hv (by simp only [List.length_cons]; omega) hc', ← heq]
    exact feed_writeMembers ms hms (by omega)

theorem feed_writeElems : ∀ (xs : List Tree) {depth : Nat} {acc : List Tree} {stack : List Frame}
    {rest : List UInt8}, ReadableElems depth xs → stack.length + 1 + depth ≤ maxNestingDepth →
    feed ⟨.endValue, .arr acc :: stack⟩ (writeElems xs ++ rest) =
      feed (deliver (.arr (acc.reverse ++ xs)) stack) rest
  | [], _, acc, stack, rest, _, _ => by
    rw [List.append_nil]
    exact feed_cons_of_step (by simp [step, stepAfter, stepEndValue, isSpace]) rest
  | x :: xs, depth, acc, stack, rest, h, hdepth => by
    obtain ⟨hx, hxs⟩ : Readable depth x ∧ ReadableElems depth xs := h
    obtain ⟨c', t, heq, hc'⟩ := writeElems_head xs rest
    have hcomma : step ⟨.endValue, .arr acc :: stack⟩ 0x2c =
        some ⟨.beginValue, .arr acc :: stack⟩ := by simp [step, stepAfter, stepEndValue, isSpace]
    rw [writeElems, List.cons_append, feed_cons_of_step hcomma, List.append_assoc, heq,
      feed_write x hx (by simp only [List.length_cons]; omega) hc', ← heq]
    have hrest : feed ⟨.endValue, .arr (x :: acc) :: stack⟩ (writeElems xs ++ rest) =
        feed (deliver (.arr ((x :: acc).reverse ++ xs)) stack) rest := feed_writeElems xs hxs hdepth
    rw [List.reverse_cons, List.append_assoc] at hrest
    exact hrest

theorem feed_writeMembers : ∀ (ms : List (List UInt8 × Tree)) {depth : Nat}
    {acc : List (List UInt8 × Tree)} {key : List UInt8} {stack : List Frame} {rest : List UInt8},
    ReadableMembers depth ms → stack.length + 1 + depth ≤ maxNestingDepth →
    feed ⟨.endValue, .obj acc key :: stack⟩ (writeMembers ms ++ rest) =
      feed (deliver (.obj (acc.reverse ++ ms)) stack) rest
  | [], _, acc, key, stack, rest, _, _ => by
    rw [List.append_nil]
    exact feed_cons_of_step (by simp [step, stepAfter, stepEndValue, isSpace]) rest
  | (k, v) :: ms, depth, acc, key, stack, rest, h, hdepth => by
    obtain ⟨hk, hv, hms⟩ : IsUtf8 k ∧ Readable depth v ∧ ReadableMembers depth ms := h
    obtain ⟨c', t, heq, hc'⟩ := writeMembers_head ms rest
    have hcomma : step ⟨.endValue, .obj acc key :: stack⟩ 0x2c =
        some ⟨.beginKey, .obj acc key :: stack⟩ := by
      simp [step, stepAfter, stepEndValue, isSpace]
    rw [writeMembers, List.cons_append, feed_cons_of_step hcomma, List.append_assoc,
      List.cons_append, feed_key hk (.inl rfl), List.append_assoc, heq,
      feed_write v hv (by simp only [List.length_cons]; omega) hc', ← heq]
    have hrest : feed ⟨.endValue, .obj ((k, v) :: acc) [] :: stack⟩ (writeMembers ms ++ rest) =
        feed (deliver (.obj (((k, v) :: acc).reverse ++ ms)) stack) rest :=
      feed_writeMembers ms hms hdepth
    rw [List.reverse_cons, List.append_assoc] at hrest
    exact hrest

end

theorem parse_write {v : Tree} (h : Readable maxNestingDepth v) : parse (write v) = some v := by
  have hstack : ([] : List Frame).length + maxNestingDepth ≤ maxNestingDepth := by simp
  rw [parse, feed_write v h hstack (.inr (.inr (.inr rfl)))]
  rfl

/-- A string of ASCII characters none of which is escaped. -/
def Plain (s : List UInt8) : Prop := ∀ b ∈ s, b < 0x80 ∧ escapeByte b = [b]

instance (s : List UInt8) : Decidable (Plain s) :=
  List.decidableBAll (fun b => b < 0x80 ∧ escapeByte b = [b]) s

theorem escapeLoop_plain (s : List UInt8) (h : Plain s) :
    ∀ fuel, s.length ≤ fuel → escapeLoop fuel s = s := by
  induction s with
  | nil =>
    intro fuel _
    cases fuel <;> rfl
  | cons b s ih =>
    intro fuel hfuel
    obtain ⟨fuel, rfl⟩ : ∃ n, fuel = n + 1 := ⟨fuel - 1, by simp at hfuel; omega⟩
    obtain ⟨hlt, hesc⟩ := h b List.mem_cons_self
    rw [escapeLoop, if_pos hlt, hesc, ih (fun c hc => h c (List.mem_cons_of_mem _ hc)) fuel
      (by simpa using hfuel)]
    rfl

theorem Plain.escape {s : List UInt8} (h : Plain s) : escape s = s :=
  escapeLoop_plain s h _ (Nat.le_refl _)

theorem Plain.not_mem {s : List UInt8} (h : Plain s) : 0x22 ∉ s ∧ 0x5c ∉ s :=
  ⟨fun hmem => absurd (h _ hmem).2 (by decide), fun hmem => absurd (h _ hmem).2 (by decide)⟩

theorem Plain.isUtf8 {s : List UInt8} (h : Plain s) : IsUtf8 s :=
  isUtf8_of_ascii fun b hb => (h b hb).1

/-- A quote inside an escaped string stands after a backslash. -/
def QuotesEscaped (t : List UInt8) : Prop :=
  ∀ a b, t = a ++ 0x22 :: b → a.getLast? = some 0x5c

theorem quotesEscaped_of_not_mem {t : List UInt8} (h : 0x22 ∉ t) : QuotesEscaped t := by
  rintro a b rfl
  exact absurd (List.mem_append_right a List.mem_cons_self) h

theorem QuotesEscaped.append {s t : List UInt8} (hs : QuotesEscaped s) (ht : QuotesEscaped t) :
    QuotesEscaped (s ++ t) := by
  intro a b h
  rcases List.append_eq_append_iff.mp h with ⟨a', rfl, ht'⟩ | ⟨b', hs', hb'⟩
  · rw [List.getLast?_append, ht a' b ht', Option.some_or]
  · cases b' with
    | nil =>
      rw [List.nil_append] at hb'
      have := ht [] b hb'.symm
      cases this
    | cons c b' =>
      obtain ⟨rfl, -⟩ := List.cons.inj hb'
      exact hs a b' hs'

theorem not_quote_mem_escapeByte : ∀ b : UInt8, b ≠ 0x22 → 0x22 ∉ escapeByte b :=
  Hex.forall_byte (by decide +kernel)

theorem quotesEscaped_escapeByte (b : UInt8) : QuotesEscaped (escapeByte b) := by
  by_cases hb : b = 0x22
  · subst hb
    -- the text is a backslash and a quote, so the quote is the second byte
    intro a t h
    rcases a with _ | ⟨c, _ | ⟨d, a⟩⟩
    · cases h
    · obtain ⟨rfl, -⟩ := List.cons.inj h
      rfl
    · obtain ⟨-, h⟩ := List.cons.inj h
      obtain ⟨-, h⟩ := List.cons.inj h
      exact absurd h.symm (by simp)
  · exact quotesEscaped_of_not_mem (not_quote_mem_escapeByte b hb)

theorem quotesEscaped_escapeRune {r : List UInt8} (h : ∀ b ∈ r, ¬ b < 0x80) :
    QuotesEscaped (escapeRune r) := by
  refine quotesEscaped_of_not_mem ?_
  rw [escapeRune]
  split_ifs with hls hps
  · decide
  · decide
  · exact fun hmem => h _ hmem (by decide)

theorem quotesEscaped_escape (s : List UInt8) : QuotesEscaped (escape s) :=
  escapeLoop_rule (quotesEscaped_of_not_mem (by simp)) QuotesEscaped.append quotesEscaped_escapeByte
    quotesEscaped_escapeRune (quotesEscaped_of_not_mem (by decide)) _ s

theorem escapeByte_or : ∀ b : UInt8, escapeByte b = [b] ∨ 0x5c ∈ escapeByte b :=
  Hex.forall_byte (by decide +kernel)

theorem escapeRune_or (r : List UInt8) : escapeRune r = r ∨ 0x5c ∈ escapeRune r := by
  rw [escapeRune]
  split_ifs with hls hps
  · exact .inr (by decide)
  · exact .inr (by decide)
  · exact .inl rfl

theorem escapeLoop_eq_self (fuel : Nat) : ∀ s : List UInt8, s.length ≤ fuel →
    0x5c ∉ escapeLoop fuel s → escapeLoop fuel s = s := by
  induction fuel with
  | zero =>
    intro s hfuel _
    rw [List.length_eq_zero_iff.mp (Nat.le_zero.mp hfuel)]
    rfl
  | succ fuel ih =>
    intro s hfuel hback
    cases s with
    | nil => rfl
    | cons b s =>
      rw [List.length_cons] at hfuel
      rw [escapeLoop] at hback ⊢
      by_cases hb : b < 0x80
      · rw [if_pos hb, List.mem_append, not_or] at hback
        rw [if_pos hb, (escapeByte_or b).resolve_right hback.1, ih s (by omega) hback.2]
        rfl
      · rw [if_neg hb] at hback ⊢
        cases hn : runeLen (b :: s) with
        | zero =>
          rw [hn, List.mem_append, not_or] at hback
          exact absurd (by decide) hback.1
        | succ n =>
          simp only [hn, List.mem_append, not_or] at hback
          simp only [(escapeRune_or _).resolve_right hback.1]
          rw [ih _ (by simp; omega) hback.2, List.take_append_drop]

theorem quote_unique {x x' h s : List UInt8} (hplain : Plain h) (hlast : x.getLast? ≠ some 0x5c)
    (heq : x ++ quote h = x' ++ quote s) : x = x' ∧ s = h := by
  obtain ⟨hquote, hback⟩ := hplain.not_mem
  have hself : escape s = h → s = h := by
    intro hs
    rw [← hs] at hback ⊢
    exact (escapeLoop_eq_self _ s (Nat.le_refl _) hback).symm
  have hends : x ++ 0x22 :: h = x' ++ 0x22 :: escape s := by
    have hsuffix : (x ++ 0x22 :: h) ++ [0x22] = (x' ++ 0x22 :: escape s) ++ [0x22] := by
      simpa [quote, hplain.escape] using heq
    exact List.append_cancel_right hsuffix
  rcases List.append_eq_append_iff.mp hends with ⟨a, rfl, ha⟩ | ⟨a, rfl, ha⟩
  · cases a with
    | nil =>
      rw [List.nil_append, List.cons.injEq] at ha
      exact ⟨(List.append_nil x).symm, hself ha.2.symm⟩
    | cons c a =>
      obtain ⟨-, rfl⟩ := List.cons.inj ha
      exact absurd (List.mem_append_right a List.mem_cons_self) hquote
  · cases a with
    | nil =>
      rw [List.nil_append, List.cons.injEq] at ha
      exact ⟨List.append_nil x', hself ha.2⟩
    | cons c a =>
      rw [List.cons_append, List.cons.injEq] at ha
      have hback := quotesEscaped_escape s a h ha.2
      rw [List.getLast?_append, List.getLast?_cons, hback] at hlast
      exact absurd rfl hlast

/-- Members of an object, each after a comma. -/
def memberBytes (ms : List (List UInt8 × Tree)) : List UInt8 :=
  ms.flatMap fun p => 0x2c :: (quote p.1 ++ 0x3a :: write p.2)

theorem writeMembers_append (ms ms' : List (List UInt8 × Tree)) :
    writeMembers (ms ++ ms') = memberBytes ms ++ writeMembers ms' := by
  induction ms with
  | nil => rfl
  | cons p ms ih =>
    obtain ⟨k, v⟩ := p
    simp only [List.cons_append, writeMembers, ih, memberBytes, List.flatMap_cons,
      List.append_assoc]

/-- No byte is a control character, so none is a line break. -/
def Printable (s : List UInt8) : Prop := ∀ b ∈ s, ¬ b < 0x20

instance (s : List UInt8) : Decidable (Printable s) :=
  List.decidableBAll (fun b => ¬ b < 0x20) s

theorem Printable.append {s t : List UInt8} (hs : Printable s) (ht : Printable t) :
    Printable (s ++ t) := by
  intro b hb
  rcases List.mem_append.mp hb with hb | hb
  · exact hs b hb
  · exact ht b hb

theorem Printable.cons {c : UInt8} {s : List UInt8} (hc : ¬ c < 0x20) (hs : Printable s) :
    Printable (c :: s) := by
  intro b hb
  rcases List.mem_cons.mp hb with rfl | hb
  · exact hc
  · exact hs b hb

theorem printable_digits : ∀ b : UInt8, ¬ Hex.digit (b / 16) < 0x20 ∧ ¬ Hex.digit (b % 16) < 0x20 :=
  Hex.forall_byte (by decide +kernel)

theorem printable_escapeByte (b : UInt8) : Printable (escapeByte b) := by
  obtain ⟨hhi, hlo⟩ := printable_digits b
  rw [escapeByte]
  split_ifs with hself h08 h0c h0a h0d h09 hcode
  · rcases hself with rfl | rfl <;> decide
  · decide
  · decide
  · decide
  · decide
  · decide
  · exact .cons (by decide) (.cons (by decide) (.cons (by decide) (.cons (by decide)
      (.cons hhi (.cons hlo (fun _ h => by cases h))))))
  · rw [not_or] at hcode
    exact .cons hcode.1 (fun _ h => by cases h)

theorem printable_escapeRune {r : List UInt8} (h : ∀ b ∈ r, ¬ b < 0x80) :
    Printable (escapeRune r) := by
  rw [escapeRune]
  split_ifs with hls hps
  · decide
  · decide
  · intro c hc
    have := h c hc
    grind

theorem printable_quote (s : List UInt8) : Printable (quote s) :=
  .cons (by decide) ((escapeLoop_rule (fun _ h => by cases h) Printable.append printable_escapeByte
    printable_escapeRune (by decide) _ s).append (by decide))

theorem numStart_printable : ∀ c : UInt8, (numStart c).isSome → ¬ c < 0x20 :=
  Hex.forall_byte (by decide +kernel)

theorem numStep_printable (part : NumPart) : ∀ c : UInt8, (numStep part c).isSome → ¬ c < 0x20 := by
  cases part <;> exact Hex.forall_byte (by decide +kernel)

theorem printable_numRun (lit : List UInt8) : ∀ part part', numRun part lit = some part' →
    Printable lit := by
  induction lit with
  | nil => exact fun _ _ _ _ h => by cases h
  | cons c lit ih =>
    intro part part' hrun
    rw [numRun] at hrun
    cases hc : numStep part c with
    | none => simp [hc] at hrun
    | some next =>
      rw [hc] at hrun
      exact .cons (numStep_printable part c (by simp [hc])) (ih next part' hrun)

theorem printable_number {lit : List UInt8} (h : isNumber lit = true) : Printable lit := by
  cases lit with
  | nil => exact fun _ h => by cases h
  | cons c lit =>
    rw [isNumber] at h
    cases hc : numStart c with
    | none => simp [hc] at h
    | some part =>
      rw [hc, Option.bind_some] at h
      cases hrun : numRun part lit with
      | none => simp [hrun] at h
      | some part' =>
        exact .cons (numStart_printable c (by simp [hc])) (printable_numRun lit part part' hrun)

mutual

/-- The numbers are numbers. -/
def Numeric : Tree → Prop
  | .num lit => isNumber lit = true
  | .arr xs => NumericElems xs
  | .obj ms => NumericMembers ms
  | .null | .bool _ | .str _ => True

def NumericElems : List Tree → Prop
  | [] => True
  | x :: xs => Numeric x ∧ NumericElems xs

def NumericMembers : List (List UInt8 × Tree) → Prop
  | [] => True
  | (_, v) :: ms => Numeric v ∧ NumericMembers ms

end

mutual

theorem printable_write : ∀ v : Tree, Numeric v → Printable (write v)
  | .null, _ => by rw [write]; decide
  | .bool true, _ => by rw [write]; decide
  | .bool false, _ => by rw [write]; decide
  | .num _, h => printable_number h
  | .str s, _ => printable_quote s
  | .arr [], _ => by rw [write]; decide
  | .arr (x :: xs), h => by
    obtain ⟨hx, hxs⟩ : Numeric x ∧ NumericElems xs := h
    exact .cons (by decide) ((printable_write x hx).append (printable_writeElems xs hxs))
  | .obj [], _ => by rw [write]; decide
  | .obj ((k, v) :: ms), h => by
    obtain ⟨hv, hms⟩ : Numeric v ∧ NumericMembers ms := h
    exact .cons (by decide) ((printable_quote k).append (.cons (by decide)
      ((printable_write v hv).append (printable_writeMembers ms hms))))

theorem printable_writeElems : ∀ xs : List Tree, NumericElems xs → Printable (writeElems xs)
  | [], _ => by rw [writeElems]; decide
  | x :: xs, h => by
    obtain ⟨hx, hxs⟩ : Numeric x ∧ NumericElems xs := h
    exact .cons (by decide) ((printable_write x hx).append (printable_writeElems xs hxs))

theorem printable_writeMembers : ∀ ms : List (List UInt8 × Tree), NumericMembers ms →
    Printable (writeMembers ms)
  | [], _ => by rw [writeMembers]; decide
  | (k, v) :: ms, h => by
    obtain ⟨hv, hms⟩ : Numeric v ∧ NumericMembers ms := h
    exact .cons (by decide) ((printable_quote k).append (.cons (by decide)
      ((printable_write v hv).append (printable_writeMembers ms hms))))

end

end Json
