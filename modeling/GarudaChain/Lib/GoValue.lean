import GarudaChain.Lib.Decimal
import GarudaChain.Lib.JsonRoundTrip
import GarudaChain.Lib.SortedMap
import Mathlib.Data.List.Lex

/-!
# Values of an interface type of Go, as `encoding/json` writes and reads them

Integers and floating point numbers are both written as numbers, and every number is read as a
`float64`. A map is written in the order of its keys.
-/

namespace Json

/-- `float64` as `strconv` writes and reads it: shortest form that reads back as the same number. -/
structure FloatFormat where
  Float : Type
  /-- `none` for infinities and NaN, which JSON does not have. -/
  format : Float → Option (List UInt8)
  /-- The number that a literal stands for, `none` where it is out of range. -/
  parse : List UInt8 → Option Float
  format_of_parse : ∀ lit x, parse lit = some x → ∃ lit', format x = some lit'
  isNumber_format : ∀ x lit, format x = some lit → isNumber lit = true
  parse_format : ∀ x lit, format x = some lit → parse lit = some x
  /-- Integers up to `2 ^ 53` are floating point numbers and are written without an exponent. -/
  format_parse_int : ∀ n : Int, n.natAbs ≤ 2 ^ 53 →
    ∃ x, parse (Decimal.format n) = some x ∧ format x = some (Decimal.format n)

inductive GoValue (F : Type)
  | nil
  | bool (b : Bool)
  | int (n : Int)
  | float (x : F)
  | string (s : List UInt8)
  | slice (xs : List (GoValue F))
  | map (ms : List (List UInt8 × GoValue F))

/-- Strings are compared byte by byte. -/
def keyRank (k : List UInt8) : List Nat := k.map UInt8.toNat

/-- All values of a map, if there is one under every key. -/
def allValues {α : Type} : List (List UInt8 × Option α) → Option (List (List UInt8 × α))
  | [] => some []
  | (k, v) :: ms =>
    match v, allValues ms with
    | some v, some ms => some ((k, v) :: ms)
    | _, _ => none

variable (fmt : FloatFormat)

mutual

/-- `json.Marshal` up to the text. -/
def toTree : GoValue fmt.Float → Option Tree
  | .nil => some .null
  | .bool b => some (.bool b)
  | .int n => some (.num (Decimal.format n))
  | .float x => (fmt.format x).map .num
  | .string s => some (.str s)
  | .slice xs => (toTrees xs).map .arr
  | .map ms => (allValues (SortedMap.sort keyRank (memberTrees ms))).map .obj

def toTrees : List (GoValue fmt.Float) → Option (List Tree)
  | [] => some []
  | x :: xs =>
    match toTree x, toTrees xs with
    | some t, some ts => some (t :: ts)
    | _, _ => none

def memberTrees : List (List UInt8 × GoValue fmt.Float) → List (List UInt8 × Option Tree)
  | [] => []
  | (k, v) :: ms => (k, toTree v) :: memberTrees ms

end

/-- The members of a map in the order in which they are written. -/
def mapTree (ms : List (List UInt8 × GoValue fmt.Float)) : Option (List (List UInt8 × Tree)) :=
  allValues (SortedMap.sort keyRank (memberTrees fmt ms))

mutual

/-- `json.Unmarshal` into an interface value. -/
def ofTree : Tree → Option (GoValue fmt.Float)
  | .null => some .nil
  | .bool b => some (.bool b)
  | .num lit => (fmt.parse lit).map .float
  | .str s => some (.string s)
  | .arr xs => (ofTrees xs).map .slice
  | .obj ms => (ofMembers ms).map .map

def ofTrees : List Tree → Option (List (GoValue fmt.Float))
  | [] => some []
  | t :: ts =>
    match ofTree t, ofTrees ts with
    | some x, some xs => some (x :: xs)
    | _, _ => none

def ofMembers : List (List UInt8 × Tree) → Option (List (List UInt8 × GoValue fmt.Float))
  | [] => some []
  | (k, t) :: ms =>
    match ofTree t, ofMembers ms with
    | some v, some ms => some ((k, v) :: ms)
    | _, _ => none

end

mutual

/-- Reading a number gives the one that is written like it, and the members of an object are in
    order. -/
def Settled : Tree → Prop
  | .num lit => ∃ x, fmt.parse lit = some x ∧ fmt.format x = some lit
  | .arr xs => SettledElems xs
  | .obj ms => SortedMap.Sorted keyRank ms ∧ SettledMembers ms
  | .null | .bool _ | .str _ => True

def SettledElems : List Tree → Prop
  | [] => True
  | x :: xs => Settled x ∧ SettledElems xs

def SettledMembers : List (List UInt8 × Tree) → Prop
  | [] => True
  | (_, v) :: ms => Settled v ∧ SettledMembers ms

end

variable {fmt}

theorem allValues_map_some {α : Type} (ms : List (List UInt8 × α)) :
    allValues (ms.map fun p => (p.1, some p.2)) = some ms := by
  induction ms with
  | nil => rfl
  | cons p ms ih => simp [allValues, ih]

mutual

theorem toTree_ofTree : ∀ t : Tree, Settled fmt t →
    ∃ v, ofTree fmt t = some v ∧ toTree fmt v = some t
  | .null, _ => ⟨.nil, rfl, rfl⟩
  | .bool b, _ => ⟨.bool b, rfl, rfl⟩
  | .num lit, h => by
    obtain ⟨x, hparse, hformat⟩ : ∃ x, fmt.parse lit = some x ∧ fmt.format x = some lit := h
    exact ⟨.float x, by simp [ofTree, hparse], by simp [toTree, hformat]⟩
  | .str s, _ => ⟨.string s, rfl, rfl⟩
  | .arr xs, h => by
    obtain ⟨vs, hof, hto⟩ := toTrees_ofTrees xs h
    exact ⟨.slice vs, by simp [ofTree, hof], by simp [toTree, hto]⟩
  | .obj ms, h => by
    obtain ⟨hsorted, hms⟩ : SortedMap.Sorted keyRank ms ∧ SettledMembers fmt ms := h
    obtain ⟨vs, hof, hto⟩ := memberTrees_ofMembers ms hms
    refine ⟨.map vs, by simp [ofTree, hof], ?_⟩
    have hsort : SortedMap.sort keyRank (ms.map fun p => (p.1, some p.2)) =
        ms.map fun p => (p.1, some p.2) :=
      SortedMap.sort_of_sorted (hsorted.of_keys (by simp))
    simp [toTree, hto, hsort, allValues_map_some]

theorem toTrees_ofTrees : ∀ ts : List Tree, SettledElems fmt ts →
    ∃ vs, ofTrees fmt ts = some vs ∧ toTrees fmt vs = some ts
  | [], _ => ⟨[], rfl, rfl⟩
  | t :: ts, h => by
    obtain ⟨ht, hts⟩ : Settled fmt t ∧ SettledElems fmt ts := h
    obtain ⟨v, hof, hto⟩ := toTree_ofTree t ht
    obtain ⟨vs, hofs, htos⟩ := toTrees_ofTrees ts hts
    exact ⟨v :: vs, by simp [ofTrees, hof, hofs], by simp [toTrees, hto, htos]⟩

theorem memberTrees_ofMembers : ∀ ms : List (List UInt8 × Tree), SettledMembers fmt ms →
    ∃ vs, ofMembers fmt ms = some vs ∧ memberTrees fmt vs = ms.map fun p => (p.1, some p.2)
  | [], _ => ⟨[], rfl, rfl⟩
  | (k, t) :: ms, h => by
    obtain ⟨ht, hms⟩ : Settled fmt t ∧ SettledMembers fmt ms := h
    obtain ⟨v, hof, hto⟩ := toTree_ofTree t ht
    obtain ⟨vs, hofs, htos⟩ := memberTrees_ofMembers ms hms
    exact ⟨(k, v) :: vs, by simp [ofMembers, hof, hofs], by simp [memberTrees, hto, htos]⟩

end

theorem eq_of_allValues {α : Type} (ms : List (List UInt8 × Option α)) :
    ∀ {ts : List (List UInt8 × α)}, allValues ms = some ts →
      ms = ts.map fun p => (p.1, some p.2) := by
  induction ms with
  | nil =>
    intro ts h
    cases h
    rfl
  | cons p ms ih =>
    obtain ⟨k, v⟩ := p
    intro ts h
    cases v with
    | none => simp [allValues] at h
    | some v =>
      cases hms : allValues ms with
      | none => simp [allValues, hms] at h
      | some ts' =>
        simp only [allValues, hms] at h
        cases h
        rw [ih hms]
        rfl

theorem readableMembers_iff {depth : Nat} {ms : List (List UInt8 × Tree)} :
    ReadableMembers depth ms ↔ ∀ p ∈ ms, Utf8.IsUtf8 p.1 ∧ Readable depth p.2 := by
  induction ms with
  | nil => simp [ReadableMembers]
  | cons p ms ih => simp [ReadableMembers, ih, and_assoc]

theorem settledMembers_iff {ms : List (List UInt8 × Tree)} :
    SettledMembers fmt ms ↔ ∀ p ∈ ms, Settled fmt p.2 := by
  induction ms with
  | nil => simp [SettledMembers]
  | cons p ms ih => simp [SettledMembers, ih]

theorem numericMembers_iff {ms : List (List UInt8 × Tree)} :
    NumericMembers ms ↔ ∀ p ∈ ms, Numeric p.2 := by
  induction ms with
  | nil => simp [NumericMembers]
  | cons p ms ih => simp [NumericMembers, ih]

variable (fmt)

mutual

/-- The strings are UTF-8, the integers are written like floating point numbers, and there are at
    most `depth` slices and maps around each other. -/
def Faithful (depth : Nat) : GoValue fmt.Float → Prop
  | .int n => ∃ x, fmt.parse (Decimal.format n) = some x ∧ fmt.format x = some (Decimal.format n)
  | .string s => Utf8.IsUtf8 s
  | .slice xs => 0 < depth ∧ FaithfulElems (depth - 1) xs
  | .map ms => 0 < depth ∧ FaithfulMembers (depth - 1) ms
  | .nil | .bool _ | .float _ => True

def FaithfulElems (depth : Nat) : List (GoValue fmt.Float) → Prop
  | [] => True
  | x :: xs => Faithful depth x ∧ FaithfulElems depth xs

def FaithfulMembers (depth : Nat) : List (List UInt8 × GoValue fmt.Float) → Prop
  | [] => True
  | (k, v) :: ms => Utf8.IsUtf8 k ∧ Faithful depth v ∧ FaithfulMembers depth ms

end

variable {fmt}

theorem mapTree_spec {ms : List (List UInt8 × GoValue fmt.Float)}
    {ts : List (List UInt8 × Tree)} (h : mapTree fmt ms = some ts) :
    SortedMap.Sorted keyRank ts ∧ ∀ p ∈ ts, (p.1, some p.2) ∈ memberTrees fmt ms := by
  have heq := eq_of_allValues _ h
  constructor
  · have hsorted : SortedMap.Sorted keyRank (SortedMap.sort keyRank (memberTrees fmt ms)) :=
      SortedMap.sort_sorted _
    rw [heq] at hsorted
    exact hsorted.of_keys (by simp)
  · intro p hp
    have hsort : (p.1, some p.2) ∈ SortedMap.sort keyRank (memberTrees fmt ms) := by
      rw [heq]
      exact List.mem_map.mpr ⟨p, hp, rfl⟩
    exact SortedMap.mem_of_mem_sort hsort

mutual

theorem Faithful.toTree : ∀ (v : GoValue fmt.Float) {depth : Nat} {t : Tree},
    Faithful fmt depth v → toTree fmt v = some t → Readable depth t ∧ Settled fmt t
  | .nil, _, _, _, h => by
    cases h
    exact ⟨trivial, trivial⟩
  | .bool b, _, _, _, h => by
    cases h
    exact ⟨trivial, trivial⟩
  | .int n, _, _, hv, h => by
    cases h
    exact ⟨Decimal.isNumber_format n, hv⟩
  | .float x, _, _, _, h => by
    obtain ⟨lit, hlit, rfl⟩ := Option.map_eq_some_iff.mp h
    exact ⟨fmt.isNumber_format x lit hlit, x, fmt.parse_format x lit hlit, hlit⟩
  | .string s, _, _, hv, h => by
    cases h
    exact ⟨hv, trivial⟩
  | .slice xs, depth, _, hv, h => by
    obtain ⟨hpos, hxs⟩ : 0 < depth ∧ FaithfulElems fmt (depth - 1) xs := hv
    obtain ⟨ts, hts, rfl⟩ := Option.map_eq_some_iff.mp h
    obtain ⟨hread, hsettled⟩ := FaithfulElems.toTrees xs hxs hts
    exact ⟨⟨hpos, hread⟩, hsettled⟩
  | .map ms, depth, _, hv, h => by
    obtain ⟨hpos, hms⟩ : 0 < depth ∧ FaithfulMembers fmt (depth - 1) ms := hv
    obtain ⟨ts, hts, rfl⟩ := Option.map_eq_some_iff.mp h
    obtain ⟨hsorted, hmem⟩ := mapTree_spec hts
    have hall := FaithfulMembers.memberTrees ms hms
    refine ⟨⟨hpos, readableMembers_iff.mpr fun p hp => ?_⟩, hsorted,
      settledMembers_iff.mpr fun p hp => ?_⟩
    · obtain ⟨hk, hread, -⟩ := hall p.1 p.2 (hmem p hp)
      exact ⟨hk, hread⟩
    · exact (hall p.1 p.2 (hmem p hp)).2.2

theorem FaithfulElems.toTrees : ∀ (xs : List (GoValue fmt.Float)) {depth : Nat} {ts : List Tree},
    FaithfulElems fmt depth xs → toTrees fmt xs = some ts →
      ReadableElems depth ts ∧ SettledElems fmt ts
  | [], _, _, _, h => by
    cases h
    exact ⟨trivial, trivial⟩
  | x :: xs, depth, _, hv, h => by
    obtain ⟨hx, hxs⟩ : Faithful fmt depth x ∧ FaithfulElems fmt depth xs := hv
    rw [Json.toTrees] at h
    cases ht : Json.toTree fmt x with
    | none => simp [ht] at h
    | some t =>
      cases hts : Json.toTrees fmt xs with
      | none => simp [ht, hts] at h
      | some ts' =>
        rw [ht, hts] at h
        cases h
        obtain ⟨hread, hsettled⟩ := Faithful.toTree x hx ht
        obtain ⟨hreads, hsettleds⟩ := FaithfulElems.toTrees xs hxs hts
        exact ⟨⟨hread, hreads⟩, hsettled, hsettleds⟩

theorem FaithfulMembers.memberTrees : ∀ (ms : List (List UInt8 × GoValue fmt.Float)) {depth : Nat},
    FaithfulMembers fmt depth ms → ∀ k t, (k, some t) ∈ memberTrees fmt ms →
      Utf8.IsUtf8 k ∧ Readable depth t ∧ Settled fmt t
  | [], _, _, _, _, h => by cases h
  | (k, v) :: ms, depth, hv, k', t, h => by
    obtain ⟨hk, hx, hms⟩ : Utf8.IsUtf8 k ∧ Faithful fmt depth v ∧ FaithfulMembers fmt depth ms := hv
    rcases List.mem_cons.mp h with heq | hmem
    · obtain ⟨rfl, ht⟩ := Prod.mk.inj heq
      obtain ⟨hread, hsettled⟩ := Faithful.toTree v hx ht.symm
      exact ⟨hk, hread, hsettled⟩
    · exact FaithfulMembers.memberTrees ms hms k' t hmem

end

mutual

/-- The numbers that are written are numbers. -/
theorem toTree_numeric : ∀ (v : GoValue fmt.Float) {t : Tree}, toTree fmt v = some t → Numeric t
  | .nil, _, h => by
    cases h
    exact trivial
  | .bool b, _, h => by
    cases h
    exact trivial
  | .int n, _, h => by
    cases h
    exact Decimal.isNumber_format n
  | .float x, _, h => by
    obtain ⟨lit, hlit, rfl⟩ := Option.map_eq_some_iff.mp h
    exact fmt.isNumber_format x lit hlit
  | .string s, _, h => by
    cases h
    exact trivial
  | .slice xs, _, h => by
    obtain ⟨ts, hts, rfl⟩ := Option.map_eq_some_iff.mp h
    exact toTrees_numeric xs hts
  | .map ms, _, h => by
    obtain ⟨ts, hts, rfl⟩ := Option.map_eq_some_iff.mp h
    exact numericMembers_iff.mpr fun p hp =>
      memberTrees_numeric ms p.1 p.2 ((mapTree_spec hts).2 p hp)

theorem toTrees_numeric : ∀ (xs : List (GoValue fmt.Float)) {ts : List Tree},
    toTrees fmt xs = some ts → NumericElems ts
  | [], _, h => by
    cases h
    exact trivial
  | x :: xs, _, h => by
    rw [toTrees] at h
    cases ht : toTree fmt x with
    | none => simp [ht] at h
    | some t =>
      cases hts : toTrees fmt xs with
      | none => simp [ht, hts] at h
      | some ts' =>
        rw [ht, hts] at h
        cases h
        exact ⟨toTree_numeric x ht, toTrees_numeric xs hts⟩

theorem memberTrees_numeric : ∀ (ms : List (List UInt8 × GoValue fmt.Float)) (k : List UInt8)
    (t : Tree), (k, some t) ∈ memberTrees fmt ms → Numeric t
  | [], _, _, h => by cases h
  | (k, v) :: ms, k', t, h => by
    rcases List.mem_cons.mp h with heq | hmem
    · exact toTree_numeric v (Prod.mk.inj heq).2.symm
    · exact memberTrees_numeric ms k' t hmem

end

theorem memberTrees_append (ms ms' : List (List UInt8 × GoValue fmt.Float)) :
    memberTrees fmt (ms ++ ms') = memberTrees fmt ms ++ memberTrees fmt ms' := by
  induction ms with
  | nil => rfl
  | cons p ms ih =>
    obtain ⟨k, v⟩ := p
    rw [List.cons_append, memberTrees, memberTrees, ih, List.cons_append]

theorem allValues_isSome {α : Type} {ms : List (List UInt8 × Option α)}
    (h : ∀ p ∈ ms, ∃ v, p.2 = some v) : ∃ ts, allValues ms = some ts := by
  induction ms with
  | nil => exact ⟨[], rfl⟩
  | cons p ms ih =>
    obtain ⟨k, o⟩ := p
    obtain ⟨v, rfl⟩ : ∃ v, o = some v := h (k, o) List.mem_cons_self
    obtain ⟨ts, hts⟩ := ih fun q hq => h q (List.mem_cons_of_mem _ hq)
    exact ⟨(k, v) :: ts, by simp [allValues, hts]⟩

theorem mapTree_isSome {ms : List (List UInt8 × GoValue fmt.Float)}
    (h : ∀ p ∈ memberTrees fmt ms, ∃ t, p.2 = some t) : ∃ ts, mapTree fmt ms = some ts :=
  allValues_isSome fun p hp => h p (SortedMap.mem_of_mem_sort hp)

mutual

theorem toTree_isSome_of_ofTree : ∀ (t : Tree) {v : GoValue fmt.Float}, ofTree fmt t = some v →
    ∃ t', toTree fmt v = some t'
  | .null, _, h => by
    cases h
    exact ⟨_, rfl⟩
  | .bool b, _, h => by
    cases h
    exact ⟨_, rfl⟩
  | .num lit, _, h => by
    obtain ⟨x, hx, rfl⟩ := Option.map_eq_some_iff.mp h
    obtain ⟨lit', hlit'⟩ := fmt.format_of_parse lit x hx
    exact ⟨.num lit', by simp [toTree, hlit']⟩
  | .str s, _, h => by
    cases h
    exact ⟨_, rfl⟩
  | .arr ts, _, h => by
    obtain ⟨xs, hxs, rfl⟩ := Option.map_eq_some_iff.mp h
    obtain ⟨ts', hts'⟩ := toTrees_isSome_of_ofTrees ts hxs
    exact ⟨.arr ts', by simp [toTree, hts']⟩
  | .obj ms, _, h => by
    obtain ⟨vs, hvs, rfl⟩ := Option.map_eq_some_iff.mp h
    obtain ⟨ts', hts'⟩ := mapTree_isSome (memberTrees_isSome_of_ofMembers ms hvs)
    exact ⟨.obj ts', by rw [toTree]; exact Option.map_eq_some_iff.mpr ⟨ts', hts', rfl⟩⟩

theorem toTrees_isSome_of_ofTrees : ∀ (ts : List Tree) {xs : List (GoValue fmt.Float)},
    ofTrees fmt ts = some xs → ∃ ts', toTrees fmt xs = some ts'
  | [], _, h => by
    cases h
    exact ⟨[], rfl⟩
  | t :: ts, _, h => by
    rw [ofTrees] at h
    cases ht : ofTree fmt t with
    | none => simp [ht] at h
    | some x =>
      cases hts : ofTrees fmt ts with
      | none => simp [ht, hts] at h
      | some xs =>
        rw [ht, hts] at h
        cases h
        obtain ⟨t', ht'⟩ := toTree_isSome_of_ofTree t ht
        obtain ⟨ts', hts'⟩ := toTrees_isSome_of_ofTrees ts hts
        exact ⟨t' :: ts', by simp [toTrees, ht', hts']⟩

theorem memberTrees_isSome_of_ofMembers : ∀ (ms : List (List UInt8 × Tree))
    {vs : List (List UInt8 × GoValue fmt.Float)}, ofMembers fmt ms = some vs →
    ∀ p ∈ memberTrees fmt vs, ∃ t, p.2 = some t
  | [], _, h, p, hp => by
    cases h
    cases hp
  | (k, t) :: ms, _, h, p, hp => by
    rw [ofMembers] at h
    cases ht : ofTree fmt t with
    | none => simp [ht] at h
    | some v =>
      cases hms : ofMembers fmt ms with
      | none => simp [ht, hms] at h
      | some vs =>
        rw [ht, hms] at h
        cases h
        rcases List.mem_cons.mp hp with rfl | hp
        · exact toTree_isSome_of_ofTree t ht
        · exact memberTrees_isSome_of_ofMembers ms hms p hp

end

end Json
