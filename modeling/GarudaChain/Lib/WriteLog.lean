import GarudaChain.Lib.Store

/-!
# Stores that are only written to

A store after a list of writes.
-/

namespace Store

variable {κ ν γ : Type} [DecidableEq κ] [DecidableEq γ]

/-- The writes of a list, the first one first. -/
def writeAll (before : κ → κ → Bool) (s : Store κ ν) (es : List (κ × ν)) : Store κ ν :=
  es.foldl (fun s e => s.write before e.1 e.2) s

/-- The number of entries whose key is in a class. -/
def countIn (cls : κ → γ) (s : Store κ ν) (c : γ) : Nat := s.entries.countP fun e => cls e.1 = c

variable (before : κ → κ → Bool) (cls : κ → γ) (s : Store κ ν)

omit [DecidableEq κ] in
theorem countIn_eq_total (c : γ) :
    (s.countIn cls c : Int) = s.total fun k _ => if cls k = c then 1 else 0 := by
  unfold countIn total
  induction s.entries with
  | nil => rfl
  | cons e es ih =>
    rw [List.map_cons, List.sum_cons, ← ih, List.countP_cons]
    by_cases h : cls e.1 = c
    · simp only [h, decide_true, if_true]
      omega
    · simp [h]

theorem countIn_write_of_none {k : κ} (h : s.read k = none) (v : ν) (c : γ) :
    (s.write before k v).countIn cls c = s.countIn cls c + if cls k = c then 1 else 0 := by
  have hwrite := s.total_write before (fun k _ => if cls k = c then 1 else 0) k v
  rw [← countIn_eq_total, ← countIn_eq_total, share, h, Option.elim_none] at hwrite
  split_ifs at hwrite ⊢ <;> omega

theorem countIn_write_of_some {k : κ} {old : ν} (h : s.read k = some old) (v : ν) (c : γ) :
    (s.write before k v).countIn cls c = s.countIn cls c := by
  have hwrite := s.total_write before (fun k _ => if cls k = c then 1 else 0) k v
  rw [← countIn_eq_total, ← countIn_eq_total, share, h, Option.elim_some] at hwrite
  omega

/-- The writes of a list to a class. -/
def writesIn (es : List (κ × ν)) (c : γ) : Nat := es.countP fun e => cls e.1 = c

omit [DecidableEq κ] in
theorem writesIn_cons (e : κ × ν) (es : List (κ × ν)) (c : γ) :
    writesIn cls (e :: es) c = writesIn cls es c + if cls e.1 = c then 1 else 0 := by
  simp [writesIn, List.countP_cons]

theorem countIn_writeAll_le (es : List (κ × ν)) (c : γ) :
    (s.writeAll before es).countIn cls c ≤ s.countIn cls c + writesIn cls es c := by
  induction es generalizing s with
  | nil => exact le_rfl
  | cons e es ih =>
    have hrest := ih (s.write before e.1 e.2)
    rw [writesIn_cons]
    show ((s.write before e.1 e.2).writeAll before es).countIn cls c ≤ _
    cases hread : s.read e.1 with
    | none =>
      rw [s.countIn_write_of_none before cls hread] at hrest
      omega
    | some old =>
      rw [s.countIn_write_of_some before cls hread] at hrest
      omega

/-- The keys of the writes are new and distinct. -/
def Fresh (s : Store κ ν) (es : List (κ × ν)) : Prop :=
  (es.map Prod.fst).Nodup ∧ ∀ e ∈ es, s.read e.1 = none

omit [DecidableEq γ] in
theorem fresh_cons_iff (e : κ × ν) (es : List (κ × ν)) :
    s.Fresh (e :: es) ↔ s.read e.1 = none ∧ (s.write before e.1 e.2).Fresh es := by
  have hread : ∀ e' : κ × ν, (s.write before e.1 e.2).read e'.1 = none ↔
      e'.1 ≠ e.1 ∧ s.read e'.1 = none := by
    intro e'
    by_cases h : e'.1 = e.1
    · rw [h, read_write_self]
      simp
    · rw [s.read_write_of_ne before h]
      simp [h]
  have hmem : e.1 ∉ es.map Prod.fst ↔ ∀ e' ∈ es, e'.1 ≠ e.1 := by
    rw [List.mem_map, not_exists]
    exact forall_congr' fun e' => ⟨fun h he heq => h ⟨he, heq⟩, fun h hmem => h hmem.1 hmem.2⟩
  simp only [Fresh, List.map_cons, List.nodup_cons, List.forall_mem_cons, hread, hmem]
  constructor
  · rintro ⟨⟨hnew, hnodup⟩, hnone, hrest⟩
    exact ⟨hnone, hnodup, fun e' he => ⟨hnew e' he, hrest e' he⟩⟩
  · rintro ⟨hnone, hnodup, hrest⟩
    exact ⟨⟨fun e' he => (hrest e' he).1, hnodup⟩, hnone, fun e' he => (hrest e' he).2⟩

theorem countIn_writeAll_iff (es : List (κ × ν)) :
    (∀ c, (s.writeAll before es).countIn cls c = s.countIn cls c + writesIn cls es c) ↔
      s.Fresh es := by
  induction es generalizing s with
  | nil => exact ⟨fun _ => ⟨List.nodup_nil, List.forall_mem_nil _⟩, fun _ _ => rfl⟩
  | cons e es ih =>
    rw [s.fresh_cons_iff before, ← ih]
    show (∀ c, ((s.write before e.1 e.2).writeAll before es).countIn cls c = _) ↔ _
    cases hread : s.read e.1 with
    | none =>
      simp only [s.countIn_write_of_none before cls hread, writesIn_cons, true_and]
      exact forall_congr' fun c => by omega
    | some old =>
      -- the class of the key is one entry short from here on
      refine ⟨fun h => ?_, fun h => (nomatch h.1)⟩
      have hle := countIn_writeAll_le before cls (s.write before e.1 e.2) es (cls e.1)
      have heq := h (cls e.1)
      rw [s.countIn_write_of_some before cls hread] at hle
      rw [writesIn_cons, if_pos rfl] at heq
      omega

end Store
