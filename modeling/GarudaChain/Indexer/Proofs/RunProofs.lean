import GarudaChain.Indexer.Proofs.ChainProofs

/-!
# Runs of the indexer

The process runs the statements of a chain `F`, block after block, as long as the blocks it gets are
those of `F`.
-/

namespace GarudaChain.Indexer

open Api (GoString goString)

def upTo (F : List Block) (n : Nat) : List Statement := statements 1 (F.tail.take n)

section Position

variable {F : List Block} {n : Nat} {block : Block}

theorem upTo_initial (F : List Block) (n : Nat) : upTo F n <+: statements 1 F.tail := by
  refine ⟨statements (1 + (F.tail.take n).length) (F.tail.drop n), ?_⟩
  rw [upTo, ← statements_append, List.take_append_drop]

theorem upTo_succ (h : F.tail[n]? = some block) :
    upTo F (n + 1) = upTo F n ++ indexBlock (n + 1) block := by
  have hlt : n < F.tail.length := (List.getElem?_eq_some_iff.mp h).1
  rw [upTo, List.take_add_one, h, Option.toList_some, statements_append, List.length_take,
    Nat.min_eq_left hlt.le, Nat.add_comm 1 n, statements, statements, List.append_nil, ← upTo]

theorem mem_insertBlock_of_beyond {L : List Statement} (hL : L <+: statements 1 F.tail)
    (hn : upTo F n <+: L) (hne : L ≠ upTo F n) : ∃ row, .insertBlock (n + 1) row ∈ L := by
  obtain ⟨rest, rfl⟩ := hn
  cases rest with
  | nil => exact absurd (List.append_nil _) hne
  | cons st rest =>
    cases hblock : F.tail[n]? with
    | none =>
      have hall : upTo F n = statements 1 F.tail := by
        rw [upTo, List.take_of_length_le (List.getElem?_eq_none_iff.mp hblock)]
      have := hL.length_le
      rw [← hall, List.length_append, List.length_cons] at this
      omega
    | some block =>
      have hnext := upTo_initial F (n + 1)
      rw [upTo_succ hblock] at hnext
      have hfirst : upTo F n ++ [st] <+: upTo F n ++ indexBlock (n + 1) block := by
        refine List.prefix_of_prefix_length_le ?_ hnext ?_
        · refine List.IsPrefix.trans ?_ hL
          exact ⟨rest, by simp⟩
        · simp [indexBlock]
      obtain rfl : st = .insertBlock (n + 1) block.row := by
        have := (List.prefix_append_right_inj _).mp hfirst
        exact (List.cons_prefix_cons.mp this).1
      exact ⟨block.row, by simp⟩

end Position

/-- Where a process is in the statements of a chain: `P` are those before the next one. -/
inductive At (F : List Block) (s : Process) (P : List Statement) : Prop
  | between (hphase : ∀ c b todo, s.phase ≠ .indexing c b todo)
      (hheight : s.lastHeight = s.tables.lastIndexedHeight)
      (hP : P = upTo F s.tables.lastIndexedHeight) (hpending : ∀ address, net s.pending address = 0)
  | inside (c : Nat) (b : Block) (done : List Statement) (st : Statement) (todo : List Statement)
      (hphase : s.phase = .indexing c b (st :: todo))
      (hheight : s.lastHeight = s.tables.lastIndexedHeight)
      (hblock : done ++ st :: todo = indexBlock (s.lastHeight + 1) b)
      (hP : P = upTo F s.tables.lastIndexedHeight ++ done)
      (hpending : ∀ address, net s.pending address =
        (done.map (Statement.credit (statements 1 F.tail) address)).sum)
  | ended (c : Nat) (b : Block) (hphase : s.phase = .indexing c b [])
      (hheight : s.lastHeight + 1 = s.tables.lastIndexedHeight)
      (hP : P = upTo F s.tables.lastIndexedHeight) (hpending : ∀ address, net s.pending address = 0)

def Follows (F : List Block) (s : Process) : Prop :=
  ∃ P L, Progress (statements 1 F.tail) s.tables P L s.replayed ∧ At F s P

variable {st : Statement} {b : Block} {done todo : List Statement} {F : List Block} {c : Nat} {t : Tables}

section Steps

variable {F : List Block} {s : Process}

theorem exec_eq_none (h : st.exec t = none) :
    ∃ height row, st = .insertBlock height row := by
  cases st with
  | insertBlock height row => exact ⟨height, row, rfl⟩
  | deductSpent outpoint =>
    simp only [Statement.exec] at h
    cases hread : t.utxos.read outpoint with
    | none =>
      rw [hread] at h
      cases h
    | some row =>
      rw [hread] at h
      simp only at h
      split_ifs at h
  | _ => cases h

theorem exec_lastIndexedHeight {t' : Tables} (hexec : st.exec t = some t')
    (hst : ∀ height, st ≠ .setLastIndexedHeight height) :
    t'.lastIndexedHeight = t.lastIndexedHeight := by
  cases st with
  | insertBlock height row =>
    obtain rfl := exec_insertBlock hexec
    rfl
  | deductSpent outpoint =>
    rcases exec_deductSpent hexec with ⟨rfl, -⟩ | ⟨row, owner, -, -, rfl, -⟩ <;> rfl
  | setLastIndexedHeight height => exact absurd rfl (hst height)
  | _ =>
    obtain rfl := Option.some.inj hexec
    rfl

theorem done_eq_nil {height h : Nat} {row : BlockRow}
    (hblock : done ++ .insertBlock h row :: todo = indexBlock height b) : done = [] := by
  cases done with
  | nil => rfl
  | cons first done =>
    have hrest : done ++ .insertBlock h row :: todo =
        b.tx.flatMap (indexTx height b) ++ [.setLastIndexedHeight height] := (List.cons.inj hblock).2
    have hmem : .insertBlock h row ∈ done ++ .insertBlock h row :: todo := by simp
    rw [hrest] at hmem
    simp [mem_indexTx_iff, mem_indexVout_iff, List.mem_flatMap] at hmem

theorem last_or_not {height : Nat}
    (hblock : done ++ st :: todo = indexBlock height b) :
    (todo = [] ∧ st = .setLastIndexedHeight height) ∨
      ((∃ next rest, todo = next :: rest) ∧ ∀ h, st ≠ .setLastIndexedHeight h) := by
  have hlist : indexBlock height b = (.insertBlock height b.row ::
      b.tx.flatMap (indexTx height b)) ++ [.setLastIndexedHeight height] := rfl
  rw [hlist] at hblock
  rcases List.eq_nil_or_concat todo with rfl | ⟨rest, last, rfl⟩
  · exact .inl ⟨rfl, List.singleton_inj.mp (List.append_inj' hblock rfl).2⟩
  · refine .inr ⟨?_, ?_⟩
    · cases rest with
      | nil => exact ⟨last, [], rfl⟩
      | cons next rest => exact ⟨next, rest ++ [last], by simp⟩
    · rintro h rfl
      have hsplit : (done ++ .setLastIndexedHeight h :: rest) ++ [last] =
          (.insertBlock height b.row :: b.tx.flatMap (indexTx height b)) ++
            [.setLastIndexedHeight height] := by simpa using hblock
      have hinit := (List.append_inj' hsplit rfl).1
      have hmem : .setLastIndexedHeight h ∈ done ++ .setLastIndexedHeight h :: rest := by simp
      rw [hinit] at hmem
      simp [mem_indexTx_iff, mem_indexVout_iff, List.mem_flatMap] at hmem

theorem Follows.runStatement (hS : WellFormed (statements 1 F.tail)) {P L : List Statement}
    (hprogress : Progress (statements 1 F.tail) s.tables P L s.replayed)
    (hheight : s.lastHeight = s.tables.lastIndexedHeight)
    (hblock : done ++ st :: todo = indexBlock (s.lastHeight + 1) b)
    (hP : P = upTo F s.tables.lastIndexedHeight ++ done)
    (hpending : ∀ address, net s.pending address =
      (done.map (Statement.credit (statements 1 F.tail) address)).sum)
    (hnext : (st.exec s.tables).isSome → F.tail[s.lastHeight]? = some b) :
    Follows F (s.runStatement c b st todo) := by
  unfold Process.runStatement
  cases hexec : st.exec s.tables with
  | none =>
    obtain ⟨h, row, rfl⟩ := exec_eq_none hexec
    obtain rfl := done_eq_nil hblock
    refine ⟨P, L, hprogress, .between nofun hheight ?_ hpending⟩
    rw [hP, List.append_nil]
  | some tables =>
    have hF := hnext (by rw [hexec]; rfl)
    rw [hheight] at hF hblock
    have hinitial : P ++ [st] <+: statements 1 F.tail := by
      refine List.IsPrefix.trans ⟨todo, ?_⟩ (upTo_initial F (s.tables.lastIndexedHeight + 1))
      rw [upTo_succ hF, ← hblock, hP]
      simp
    obtain ⟨L', hprogress', -⟩ := hprogress.exec hS hinitial hexec
    refine ⟨P ++ [st], L', hprogress', ?_⟩
    rcases last_or_not hblock with ⟨rfl, rfl⟩ | ⟨⟨next, rest, rfl⟩, hst⟩
    · obtain rfl := Option.some.inj hexec
      refine .ended c b rfl (by rw [hheight]) ?_ fun _ => rfl
      rw [hP, List.append_assoc, hblock, upTo_succ hF]
    · have hkeep := exec_lastIndexedHeight hexec hst
      have hafter : st.pendingAfter s.tables s.pending = s.pending ++ st.change s.tables := by
        cases st with
        | setLastIndexedHeight h => exact absurd rfl (hst h)
        | _ => rfl
      refine .inside c b (done ++ [st]) next rest rfl (hheight.trans hkeep.symm) ?_ ?_ ?_
      · rw [List.append_assoc, List.singleton_append, hheight]
        exact hblock
      · rw [hP, List.append_assoc, hkeep]
      · intro address
        rw [hafter, net_append, hpending, net_change hS hinitial hprogress.position
          hprogress.reached hprogress.tables hprogress.known, List.map_append, List.sum_append,
          List.map_singleton, List.sum_singleton]

theorem Follows.advance (hS : WellFormed (statements 1 F.tail)) (h : Follows F s)
    (hnext : ∀ c b st todo, s.phase = .indexing c b (st :: todo) → (st.exec s.tables).isSome →
      F.tail[s.lastHeight]? = some b) : Follows F s.advance := by
  obtain ⟨P, L, hprogress, hat⟩ := h
  cases hat with
  | between hphase hheight hP hpending =>
    cases hcase : s.phase with
    | waiting =>
      rw [Process.advance, hcase]
      exact ⟨P, L, hprogress, .between nofun hheight hP hpending⟩
    | polling chainHeight =>
      rw [Process.advance, hcase]
      simp only
      split_ifs
      · cases s.chain[s.lastHeight + 1]? with
        | none => exact ⟨P, L, hprogress, .between nofun hheight hP hpending⟩
        | some block =>
          refine ⟨P, L, hprogress, .inside chainHeight block [] _ _ rfl hheight rfl ?_ hpending⟩
          rw [hP, List.append_nil]
      · exact ⟨P, L, hprogress, .between nofun hheight hP hpending⟩
    | indexing c b todo => exact absurd hcase (hphase c b todo)
  | inside c b done st todo hphase hheight hblock hP hpending =>
    rw [Process.advance, hphase]
    exact Follows.runStatement hS hprogress hheight hblock hP hpending (hnext c b st todo hphase)
  | ended c b hphase hheight hP hpending =>
    rw [Process.advance, hphase]
    exact ⟨P, L, hprogress, .between nofun hheight hP hpending⟩

theorem Follows.callFails (h : Follows F s) : Follows F s.callFails := by
  unfold Process.callFails
  cases hcase : s.phase with
  | waiting => exact h
  | indexing c b todo => exact h
  | polling chainHeight =>
    obtain ⟨P, L, hprogress, hat⟩ := h
    cases hat with
    | between hphase hheight hP hpending =>
      exact ⟨P, L, hprogress, .between nofun hheight hP hpending⟩
    | inside c b done st todo hphase => rw [hcase] at hphase; cases hphase
    | ended c b hphase => rw [hcase] at hphase; cases hphase

theorem Follows.restart (h : Follows F s) : Follows F s.restart := by
  obtain ⟨P, L, hprogress, hat⟩ := h
  have hback : ∀ done : List Statement, P = upTo F s.tables.lastIndexedHeight ++ done →
      (∀ address, net s.pending address =
        (done.map (Statement.credit (statements 1 F.tail) address)).sum) → Follows F s.restart := by
    intro done hP hpending
    subst hP
    exact ⟨_, L, hprogress.back hpending, .between nofun rfl rfl fun _ => rfl⟩
  cases hat with
  | between hphase hheight hP hpending => exact hback [] (by rw [hP, List.append_nil]) hpending
  | inside c b done st todo hphase hheight hblock hP hpending => exact hback done hP hpending
  | ended c b hphase hheight hP hpending => exact hback [] (by rw [hP, List.append_nil]) hpending

theorem Follows.node (h : Follows F s) (chain : List Block) :
    Follows F { s with chain := chain } := by
  obtain ⟨P, L, hprogress, hat⟩ := h
  refine ⟨P, L, hprogress, ?_⟩
  cases hat with
  | between hphase hheight hP hpending => exact .between hphase hheight hP hpending
  | inside c b done st todo hphase hheight hblock hP hpending =>
    exact .inside c b done st todo hphase hheight hblock hP hpending
  | ended c b hphase hheight hP hpending => exact .ended c b hphase hheight hP hpending

theorem follows_start (F chain : List Block) : Follows F (.start chain) :=
  ⟨[], [], Progress.start _, .between nofun rfl rfl fun _ => rfl⟩

end Steps

/-- The rows of `blocks` are those of the blocks that were recorded, one for each height. -/
structure Recorded (s : Process) : Prop where
  rows : ∀ height row, s.tables.blocks.read height = some row ↔
    ∃ i block, s.recorded[i]? = some block ∧ height = i + 1 ∧ row = block.row
  between : (∀ c b todo, s.phase ≠ .indexing c b todo) → s.recorded.length = s.lastHeight
  inside : ∀ c b todo, s.phase = .indexing c b todo →
    (todo = indexBlock (s.lastHeight + 1) b ∧ s.recorded.length = s.lastHeight) ∨
      ((∀ height row, .insertBlock height row ∉ todo) ∧ s.recorded.length = s.lastHeight + 1 ∧
        s.recorded[s.lastHeight]? = some b)

section Recorded

variable {s : Process}

theorem exec_blocks {t' : Tables} (hexec : st.exec t = some t')
    (hst : ∀ height row, st ≠ .insertBlock height row) : t'.blocks = t.blocks := by
  cases st with
  | insertBlock height row => exact absurd rfl (hst height row)
  | deductSpent outpoint =>
    rcases exec_deductSpent hexec with ⟨rfl, -⟩ | ⟨row, owner, -, -, rfl, -⟩ <;> rfl
  | _ =>
    obtain rfl := Option.some.inj hexec
    rfl

theorem Recorded.runStatement (h : Recorded s) (hphase : s.phase = .indexing c b (st :: todo)) :
    Recorded (s.runStatement c b st todo) := by
  unfold Process.runStatement
  cases hexec : st.exec s.tables with
  | none =>
    obtain ⟨height, row, rfl⟩ := exec_eq_none hexec
    refine ⟨h.rows, fun _ => ?_, nofun⟩
    rcases h.inside c b _ hphase with ⟨-, hlength⟩ | ⟨hnone, -⟩
    · exact hlength
    · exact absurd List.mem_cons_self (hnone height row)
  | some tables =>
    rcases h.inside c b _ hphase with ⟨htodo, hlength⟩ | ⟨hnone, hlength, hlast⟩
    · obtain ⟨rfl, rfl⟩ := List.cons.inj htodo
      have hfree : s.tables.blocks.read (s.lastHeight + 1) = none := by
        cases hread : s.tables.blocks.read (s.lastHeight + 1) with
        | none => rfl
        | some row =>
          obtain ⟨i, block, hblock, hi, -⟩ := (h.rows _ _).mp hread
          have := (List.getElem?_eq_some_iff.mp hblock).1
          omega
      have hnew : (Statement.insertBlock (s.lastHeight + 1) b.row).isNewBlock s.tables = true := by
        rw [Statement.isNewBlock, hfree]
        rfl
      obtain rfl := exec_insertBlock hexec
      have hadd : ∀ i block, (s.recorded ++ [b])[i]? = some block ↔
          (i = s.lastHeight ∧ block = b) ∨ s.recorded[i]? = some block := by
        intro i block
        rw [← hlength]
        rcases Nat.lt_trichotomy i s.recorded.length with hi | rfl | hi
        · rw [List.getElem?_append_left hi]
          simp [hi.ne]
        · simp [eq_comm]
        · rw [List.getElem?_eq_none (by rw [List.length_append, List.length_singleton]; exact hi),
            List.getElem?_eq_none hi.le]
          simp [hi.ne']
      simp only [hnew, if_true]
      refine ⟨?_, fun hne => absurd rfl (hne _ _ _), ?_⟩
      · refine s.tables.blocks.read_insertNew_iff anyOrder h.rows ?_ ?_
        · intro height row
          simp only [hadd]
          constructor
          · rintro ⟨i, block, ⟨rfl, rfl⟩ | hblock, hheight, hrow⟩
            · exact .inl ⟨hheight, hrow⟩
            · exact .inr ⟨i, block, hblock, hheight, hrow⟩
          · rintro (⟨hheight, hrow⟩ | ⟨i, block, hblock, hheight, hrow⟩)
            · exact ⟨_, _, .inl ⟨rfl, rfl⟩, hheight, hrow⟩
            · exact ⟨i, block, .inr hblock, hheight, hrow⟩
        · rintro height row row' ⟨i, block, hblock, hi, rfl⟩ ⟨i', block', hblock', hi', rfl⟩
          obtain rfl : i = i' := by omega
          rw [Option.some.inj (hblock.symm.trans hblock')]
      · intro c' b' todo' hphase'
        obtain ⟨rfl, rfl, rfl⟩ := Phase.indexing.inj hphase'
        refine .inr ⟨?_, ?_, ?_⟩
        · intro height row hmem
          simp [mem_indexTx_iff, mem_indexVout_iff, List.mem_flatMap] at hmem
        · rw [List.length_append, hlength, List.length_singleton]
        · exact (hadd _ _).mpr (.inl ⟨rfl, rfl⟩)
    · have hst : ∀ height row, st ≠ .insertBlock height row := by
        rintro height row rfl
        exact hnone height row List.mem_cons_self
      have hold : st.isNewBlock s.tables = false := by
        cases st with
        | insertBlock height row => exact absurd rfl (hst height row)
        | _ => rfl
      simp only [hold, Bool.false_eq_true, if_false]
      refine ⟨?_, fun hne => absurd rfl (hne _ _ _), ?_⟩
      · rw [exec_blocks hexec hst]
        exact h.rows
      · intro c' b' todo' hphase'
        obtain ⟨rfl, rfl, rfl⟩ := Phase.indexing.inj hphase'
        exact .inr ⟨fun height row hmem => hnone height row (List.mem_cons_of_mem _ hmem), hlength,
          hlast⟩

theorem Recorded.advance (h : Recorded s) : Recorded s.advance := by
  cases hcase : s.phase with
  | waiting =>
    rw [Process.advance, hcase]
    exact ⟨h.rows, fun _ => h.between (by rw [hcase]; nofun), nofun⟩
  | polling chainHeight =>
    have hlength := h.between (by rw [hcase]; nofun)
    rw [Process.advance, hcase]
    simp only
    split_ifs
    · cases s.chain[s.lastHeight + 1]? with
      | none => exact ⟨h.rows, fun _ => hlength, nofun⟩
      | some block =>
        refine ⟨h.rows, fun hne => absurd rfl (hne _ _ _), ?_⟩
        intro c b todo hphase
        obtain ⟨rfl, rfl, rfl⟩ := Phase.indexing.inj hphase
        exact .inl ⟨rfl, hlength⟩
    · exact ⟨h.rows, fun _ => hlength, nofun⟩
  | indexing c b todo =>
    cases todo with
    | nil =>
      rw [Process.advance, hcase]
      refine ⟨h.rows, fun _ => ?_, nofun⟩
      rcases h.inside c b _ hcase with ⟨hnil, -⟩ | ⟨-, hlength, -⟩
      · cases hnil
      · exact hlength
    | cons st todo =>
      rw [Process.advance, hcase]
      exact h.runStatement hcase

theorem Recorded.callFails (h : Recorded s) : Recorded s.callFails := by
  unfold Process.callFails
  cases hcase : s.phase with
  | waiting => exact h
  | indexing c b todo => exact h
  | polling chainHeight => exact ⟨h.rows, fun _ => h.between (by rw [hcase]; nofun), nofun⟩

theorem recorded_advance (s : Process) : s.recorded <+: s.advance.recorded := by
  have hrun : ∀ c b st todo, s.recorded <+: (s.runStatement c b st todo).recorded := by
    intro c b st todo
    unfold Process.runStatement
    cases st.exec s.tables with
    | none => exact List.prefix_refl _
    | some tables =>
      simp only
      split_ifs
      · exact List.prefix_append _ _
      · exact List.prefix_refl _
  unfold Process.advance
  cases s.phase with
  | waiting => exact List.prefix_refl _
  | polling chainHeight =>
    simp only
    split_ifs
    · cases s.chain[s.lastHeight + 1]? <;> exact List.prefix_refl _
    · exact List.prefix_refl _
  | indexing c b todo =>
    cases todo with
    | nil => exact List.prefix_refl _
    | cons st todo => exact hrun c b st todo

theorem Recorded.block_of_exec (h : Recorded s) (hphase : s.phase = .indexing c b (st :: todo))
    (hexec : (st.exec s.tables).isSome) (hF : s.advance.recorded <+: F.tail) :
    F.tail[s.lastHeight]? = some b := by
  have hnext := h.advance
  have hadvance : s.advance = s.runStatement c b st todo := by
    rw [Process.advance, hphase]
  obtain ⟨tables, htables⟩ := Option.isSome_iff_exists.mp hexec
  have hphase' : s.advance.phase = .indexing c b todo := by
    rw [hadvance, Process.runStatement, htables]
  have hheight : s.advance.lastHeight = s.lastHeight := by
    rw [hadvance, Process.runStatement, htables]
  rcases hnext.inside c b todo hphase' with ⟨htodo, -⟩ | ⟨-, -, hlast⟩
  · -- the row comes first, so it is not still to be written
    rcases h.inside c b _ hphase with ⟨hall, -⟩ | ⟨hnone, -⟩
    · have := congrArg List.length hall
      rw [htodo, hheight, List.length_cons] at this
      omega
    · refine absurd ?_ (hnone (s.advance.lastHeight + 1) b.row)
      rw [htodo]
      simp [indexBlock]
  · rw [hheight] at hlast
    obtain ⟨rest, hrest⟩ := hF
    rw [← hrest, List.getElem?_append_left (List.getElem?_eq_some_iff.mp hlast).1, hlast]

end Recorded

theorem run_follows (hS : WellFormed (statements 1 F.tail)) (chain : List Block)
    {events : List Event} (hevents : ∀ e ∈ events, e ≠ .restart) :
    Recorded (Run.run Process.step (.start chain) events) ∧
      ((Run.run Process.step (.start chain) events).recorded <+: F.tail →
        Follows F (Run.run Process.step (.start chain) events)) := by
  have hstart : Recorded (.start chain) ∧ ((Process.start chain).recorded <+: F.tail →
      Follows F (.start chain)) := by
    refine ⟨⟨?_, fun _ => rfl, nofun⟩, fun _ => follows_start F chain⟩
    intro height row
    simp [Process.start, Tables.empty, Store.read, Store.empty]
  refine Run.Along.inv (I := fun s => Recorded s ∧ (s.recorded <+: F.tail → Follows F s)) ?_ hstart
    (Run.along_of_forall_mem hevents)
  rintro s e ⟨hrecorded, hfollows⟩ he
  cases e with
  | node chain =>
    exact ⟨⟨hrecorded.rows, hrecorded.between, hrecorded.inside⟩,
      fun hF => (hfollows hF).node chain⟩
  | advance =>
    refine ⟨hrecorded.advance, fun hF => ?_⟩
    refine (hfollows ((recorded_advance s).trans hF)).advance hS ?_
    intro c b st todo hphase hexec
    exact hrecorded.block_of_exec hphase hexec hF
  | callFails =>
    refine ⟨hrecorded.callFails, fun hF => ?_⟩
    have hsame : s.callFails.recorded = s.recorded := by
      unfold Process.callFails
      cases s.phase <;> rfl
    exact (hfollows (hsame ▸ hF)).callFails
  | restart => exact absurd rfl he

theorem ValidChain.tail {chain : List Block} (h : ValidChain chain) : ValidChain chain.tail := by
  have hsub : (transactions chain.tail).Sublist (transactions chain) := by
    cases chain with
    | nil => exact List.Sublist.refl _
    | cons block chain => exact List.sublist_append_right _ _
  exact ⟨fun tx htx => h.valid tx (hsub.subset htx), h.order.sublist hsub⟩

theorem Follows.of_caughtUp {s : Process} (h : Follows F s) (hcaught : s.CaughtUp) :
    s.lastHeight = s.tables.lastIndexedHeight ∧
      ∃ L, Progress (statements 1 F.tail) s.tables (upTo F s.lastHeight) L s.replayed := by
  obtain ⟨P, L, hprogress, hat⟩ := h
  cases hat with
  | between hphase hheight hP hpending => exact ⟨hheight, L, by rw [hheight, ← hP]; exact hprogress⟩
  | inside c b done st todo hphase => exact absurd hphase (hcaught.1 c b _)
  | ended c b hphase => exact absurd hphase (hcaught.1 c b _)

/-- An indexer that is not stopped and has caught up describes the active chain exactly if every block
    whose row it has written still lies in it. -/
theorem indexer_describes_iff (chain : List Block) (events : List Event) (s : Process)
    (hs : s = Run.run Process.step (.start chain) events) (hevents : ∀ e ∈ events, e ≠ .restart)
    (hvalid : ValidChain s.chain)
    (hhash : ∀ b ∈ s.recorded, ∀ b' ∈ s.chain, b.hash = b'.hash → b = b')
    (hcaught : s.CaughtUp) : Describes s.tables s.chain ↔ s.recorded = s.chain.tail := by
  have hS := wellFormed_statements hvalid.tail 1
  obtain ⟨hrecorded, hfollows⟩ := run_follows hS chain hevents
  rw [← hs] at hrecorded hfollows
  constructor
  · intro hdescribes
    refine List.ext_getElem? ?_
    intro i
    apply Option.ext
    intro block
    rw [List.getElem?_tail]
    constructor
    · intro hblock
      have hread := (hrecorded.rows (i + 1) block.row).mpr ⟨i, block, hblock, rfl, rfl⟩
      obtain ⟨-, block', hblock', hrow⟩ := (hdescribes.blocks _ _).mp hread
      rw [hblock', hhash block (List.mem_of_getElem? hblock) block' (List.mem_of_getElem? hblock')
        (congrArg BlockRow.hash hrow)]
    · intro hblock
      have hread := (hdescribes.blocks (i + 1) block.row).mpr ⟨by omega, block, hblock, rfl⟩
      obtain ⟨i', block', hblock', hi, hrow⟩ := (hrecorded.rows _ _).mp hread
      obtain rfl : i = i' := by omega
      rw [hblock', hhash block' (List.mem_of_getElem? hblock') block (List.mem_of_getElem? hblock)
        (congrArg BlockRow.hash hrow).symm]
  · intro hall
    obtain ⟨-, L, hprogress⟩ := (hfollows (hall ▸ List.prefix_refl _)).of_caughtUp hcaught
    have hlength : s.chain.tail.length ≤ s.lastHeight := by
      rw [← hall, hrecorded.between hcaught.1]
    have hupTo : upTo s.chain s.lastHeight = statements 1 s.chain.tail := by
      rw [upTo, List.take_of_length_le hlength]
    have hL : L = statements 1 s.chain.tail := by
      have hposition := hprogress.position
      rw [hupTo] at hposition
      exact hprogress.reached.eq_of_length_le hposition.length_le
    have htables := hprogress.tables
    rw [hL] at htables
    exact htables.describes hvalid.tail

def genesisBlock : Block := ⟨goString "g", [], 0, 285, []⟩

def sampleBlock (hash previousHash txid : String) (vin : List VIN) (address : String) : Block where
  hash := goString hash
  previousHash := goString previousHash
  time := 1000
  size := 300
  tx := [⟨goString txid, [], 100, vin, [⟨5000000000, 0, [], goString address, []⟩]⟩]

def blockA : Block := sampleBlock "a" "g" "t" [⟨[], 0⟩] "x"

def blockA2 : Block := sampleBlock "a2" "a" "t2" [⟨goString "t", 0⟩] "y"

def blockB : Block := sampleBlock "b" "g" "u" [⟨[], 0⟩] "x"

def blockB2 : Block := sampleBlock "b2" "b" "u2" [⟨goString "u", 0⟩] "y"

theorem validChain_sample {txid txid2 hash hash2 : String}
    (hne : goString txid ≠ goString txid2 ∧ goString txid ≠ [] ∧ goString txid2 ≠ []) :
    ValidChain [genesisBlock, sampleBlock hash "g" txid [⟨[], 0⟩] "x",
      sampleBlock hash2 hash txid2 [⟨goString txid, 0⟩] "y"] := by
  refine ⟨?_, ?_⟩
  · simp only [transactions, genesisBlock, sampleBlock, List.flatMap_cons, List.flatMap_nil,
      List.nil_append, List.append_nil, List.singleton_append, List.mem_cons, List.not_mem_nil,
      or_false, forall_eq_or_imp, forall_eq]
    exact ⟨⟨by simp [TX.spent], by simp, by simp [TX.spent]⟩,
      ⟨by simp [TX.spent, hne.2.1], by simp, by simp [TX.spent, hne]⟩⟩
  · simp only [transactions, genesisBlock, sampleBlock, List.flatMap_cons, List.flatMap_nil,
      List.nil_append, List.append_nil, List.singleton_append, List.pairwise_pair]
    exact ⟨hne.1, by simp [TX.spent], by simp [TX.spent]⟩

def sampleSteps : List Event := List.replicate 18 .advance

theorem indexer_describes_sample :
    (Run.run Process.step (.start [genesisBlock, blockA, blockA2]) sampleSteps).recorded =
        [blockA, blockA2] ∧
      Describes (Run.run Process.step (.start [genesisBlock, blockA, blockA2]) sampleSteps).tables
        [genesisBlock, blockA, blockA2] := by
  have hrun : (Run.run Process.step (.start [genesisBlock, blockA, blockA2]) sampleSteps).chain =
        [genesisBlock, blockA, blockA2] ∧
      (Run.run Process.step (.start [genesisBlock, blockA, blockA2]) sampleSteps).recorded =
        [blockA, blockA2] ∧
      (Run.run Process.step (.start [genesisBlock, blockA, blockA2]) sampleSteps).phase = .waiting ∧
      (Run.run Process.step (.start [genesisBlock, blockA, blockA2]) sampleSteps).lastHeight = 2 := by
    decide
  obtain ⟨hchain, hrecorded, hphase, hheight⟩ := hrun
  refine ⟨hrecorded, ?_⟩
  have hiff := indexer_describes_iff [genesisBlock, blockA, blockA2] sampleSteps _ rfl
    (by decide) (by rw [hchain]; exact validChain_sample (by decide)) ?_ ?_
  · rw [hchain] at hiff
    exact hiff.mpr hrecorded
  · rw [hchain, hrecorded]
    decide
  · exact ⟨by rw [hphase]; nofun, by rw [hchain, hheight]; decide⟩

def sampleReorganisation : List Event :=
  List.replicate 9 .advance ++ .node [genesisBlock, blockB, blockB2] :: List.replicate 11 .advance

/-- The abandoned block is still there, and the first block of the active chain is not. -/
theorem indexer_keepsAbandoned :
    (∀ e ∈ sampleReorganisation, e ≠ .restart) ∧
      ValidChain [genesisBlock, blockA] ∧ ValidChain [genesisBlock, blockB, blockB2] ∧
      ∃ s, s = Run.run Process.step (.start [genesisBlock, blockA]) sampleReorganisation ∧
        s.chain = [genesisBlock, blockB, blockB2] ∧ s.CaughtUp ∧
        s.tables.blocks.read 1 = some blockA.row ∧
        (s.tables.transactions.read (goString "t")).isSome ∧
        (s.tables.utxos.read (goString "t", 0)).isSome ∧
        s.tables.transactions.read (goString "u") = none ∧ ¬ Describes s.tables s.chain := by
  obtain ⟨s, hs⟩ : ∃ s, s = Run.run Process.step (.start [genesisBlock, blockA])
    sampleReorganisation := ⟨_, rfl⟩
  have hrun : s.chain = [genesisBlock, blockB, blockB2] ∧ s.phase = .waiting ∧ s.lastHeight = 2 ∧
      s.tables.blocks.read 1 = some blockA.row ∧
      (s.tables.transactions.read (goString "t")).isSome ∧
      (s.tables.utxos.read (goString "t", 0)).isSome ∧
      s.tables.transactions.read (goString "u") = none := by
    rw [hs]
    decide
  obtain ⟨hchain, hphase, hheight, hrow, htx, hutxo, hmissing⟩ := hrun
  have hvalid : ValidChain [genesisBlock, blockA, blockA2] := validChain_sample (by decide)
  have hsub : (transactions [genesisBlock, blockA]).Sublist
      (transactions [genesisBlock, blockA, blockA2]) := by decide
  refine ⟨by decide, ⟨fun tx htx => hvalid.valid tx (hsub.subset htx), hvalid.order.sublist hsub⟩,
    validChain_sample (by decide), s, hs, hchain, ⟨by rw [hphase]; nofun, by rw [hchain, hheight]; decide⟩,
    hrow, htx, hutxo, hmissing, ?_⟩
  intro hdescribes
  obtain ⟨-, block, hblock, heq⟩ := (hdescribes.blocks 1 _).mp hrow
  rw [hchain] at hblock
  obtain rfl := Option.some.inj hblock
  revert heq
  decide

def Grows (s : Process) : Event → Prop
  | .node chain => s.chain <+: chain
  | _ => True

instance Grows.decidable (s : Process) : (e : Event) → Decidable (Grows s e)
  | .node chain => inferInstanceAs (Decidable (s.chain <+: chain))
  | .advance | .callFails | .restart => .isTrue trivial

structure OnChain (s : Process) : Prop where
  block : ∀ c b todo, s.phase = .indexing c b todo → s.chain[s.lastHeight + 1]? = some b
  first : ∀ c b todo, s.phase = .indexing c b todo → ∀ height row, .insertBlock height row ∈ todo →
    height = s.lastHeight + 1
  rows : ∀ height row, s.tables.blocks.read height = some row → height < s.chain.length

section OnChain

variable {s : Process}

theorem OnChain.idle (h : OnChain s) {s' : Process} (hchain : s'.chain = s.chain)
    (hblocks : s'.tables.blocks = s.tables.blocks)
    (hphase : ∀ c b todo, s'.phase ≠ .indexing c b todo) : OnChain s' where
  block c b todo heq := absurd heq (hphase c b todo)
  first c b todo heq := absurd heq (hphase c b todo)
  rows := by
    rw [hchain, hblocks]
    exact h.rows

theorem OnChain.runStatement (h : OnChain s) (hphase : s.phase = .indexing c b (st :: todo)) :
    OnChain (s.runStatement c b st todo) := by
  unfold Process.runStatement
  cases hexec : st.exec s.tables with
  | none => exact h.idle rfl rfl nofun
  | some tables =>
    have hblock := h.block c b _ hphase
    refine ⟨?_, ?_, ?_⟩
    · intro c' b' todo' hphase'
      obtain ⟨rfl, rfl, rfl⟩ := Phase.indexing.inj hphase'
      exact hblock
    · intro c' b' todo' hphase' height row hmem
      obtain ⟨rfl, rfl, rfl⟩ := Phase.indexing.inj hphase'
      exact h.first _ _ _ hphase height row (List.mem_cons_of_mem _ hmem)
    · intro height row hread
      by_cases hst : ∃ height' row', st = .insertBlock height' row'
      · obtain ⟨height', row', rfl⟩ := hst
        obtain rfl := h.first c b _ hphase _ _ List.mem_cons_self
        obtain rfl := exec_insertBlock hexec
        by_cases hheight : height = s.lastHeight + 1
        · rw [hheight]
          exact (List.getElem?_eq_some_iff.mp hblock).1
        · refine h.rows height row ?_
          rw [← hread]
          simp only [Store.insertNew]
          split_ifs
          · rfl
          · exact (s.tables.blocks.read_write_of_ne anyOrder hheight _).symm
      · rw [exec_blocks hexec fun height' row' heq => hst ⟨height', row', heq⟩] at hread
        exact h.rows height row hread

theorem OnChain.advance (h : OnChain s) : OnChain s.advance := by
  cases hcase : s.phase with
  | waiting =>
    rw [Process.advance, hcase]
    exact h.idle rfl rfl nofun
  | polling chainHeight =>
    rw [Process.advance, hcase]
    simp only
    split_ifs
    · cases hblock : s.chain[s.lastHeight + 1]? with
      | none => exact h.idle rfl rfl nofun
      | some block =>
        refine ⟨?_, ?_, h.rows⟩
        · intro c b todo hphase
          obtain ⟨-, rfl, -⟩ := Phase.indexing.inj hphase
          exact hblock
        · intro c b todo hphase height row hmem
          obtain ⟨-, -, rfl⟩ := Phase.indexing.inj hphase
          exact (mem_insertBlock_indexBlock_iff.mp hmem).1
    · exact h.idle rfl rfl nofun
  | indexing c b todo =>
    cases todo with
    | nil =>
      rw [Process.advance, hcase]
      exact h.idle rfl rfl nofun
    | cons st todo =>
      rw [Process.advance, hcase]
      exact h.runStatement hcase

end OnChain

theorem run_follows_of_grows {chain : List Block} {events : List Event}
    (hS : WellFormed (statements 1 F.tail))
    (hgrows : Run.Along Process.step Grows (.start chain) events)
    (hF : (Run.run Process.step (.start chain) events).chain <+: F) :
    Follows F (Run.run Process.step (.start chain) events) ∧
      OnChain (Run.run Process.step (.start chain) events) := by
  have hstart : OnChain (.start chain) := by
    have hidle : ∀ c b todo, (Process.start chain).phase ≠ .indexing c b todo := by
      intro c b todo hphase
      cases hphase
    refine ⟨fun c b todo heq => absurd heq (hidle c b todo), fun c b todo heq => absurd heq (hidle c b todo), ?_⟩
    intro height row hread
    simp [Process.start, Tables.empty, Store.read, Store.empty] at hread
  refine Run.Along.inv (I := fun s => s.chain <+: F → Follows F s ∧ OnChain s) ?_
    (fun _ => ⟨follows_start F chain, hstart⟩) hgrows hF
  intro s e h he hF
  cases e with
  | node chain =>
    obtain ⟨hfollows, honchain⟩ := h (List.IsPrefix.trans he hF)
    refine ⟨hfollows.node chain, ?_, honchain.first, ?_⟩
    · intro c b todo hphase
      have hblock := honchain.block c b todo hphase
      obtain ⟨rest, rfl⟩ := he
      show (s.chain ++ rest)[s.lastHeight + 1]? = some b
      rw [List.getElem?_append_left (List.getElem?_eq_some_iff.mp hblock).1, hblock]
    · intro height row hread
      exact (honchain.rows height row hread).trans_le he.length_le
  | advance =>
    have hchain : s.advance.chain = s.chain := by
      unfold Process.advance Process.runStatement
      cases s.phase with
      | waiting => rfl
      | polling chainHeight =>
        simp only
        split_ifs
        · cases s.chain[s.lastHeight + 1]? <;> rfl
        · rfl
      | indexing c b todo =>
        cases todo with
        | nil => rfl
        | cons st todo => cases hexec : st.exec s.tables <;> simp [hexec]
    have hF' : s.chain <+: F := hchain ▸ hF
    obtain ⟨hfollows, honchain⟩ := h hF'
    refine ⟨hfollows.advance hS ?_, honchain.advance⟩
    intro c b st todo hphase _
    have hblock := honchain.block c b _ hphase
    obtain ⟨rest, rfl⟩ := hF'
    rw [List.getElem?_tail, List.getElem?_append_left (List.getElem?_eq_some_iff.mp hblock).1, hblock]
  | callFails =>
    have hsame : s.callFails.chain = s.chain ∧ s.callFails.tables = s.tables ∧
        s.callFails.lastHeight = s.lastHeight := by
      unfold Process.callFails
      cases s.phase <;> exact ⟨rfl, rfl, rfl⟩
    obtain ⟨hfollows, honchain⟩ := h (hsame.1 ▸ hF)
    refine ⟨hfollows.callFails, ?_⟩
    show OnChain s.callFails
    unfold Process.callFails
    cases hcase : s.phase with
    | waiting => exact honchain
    | polling chainHeight =>
      refine honchain.idle rfl rfl ?_
      intro c b todo hphase
      cases hphase
    | indexing c b todo => exact honchain
  | restart =>
    obtain ⟨hfollows, honchain⟩ := h hF
    refine ⟨hfollows.restart, honchain.idle rfl rfl ?_⟩
    intro c b todo hphase
    cases hphase

/-- After any stops, an indexer that has caught up with a chain that was never reorganised has the
    balances of the unspent outputs exactly if the changes that were made for blocks whose indexing
    was stopped cancel at every address. -/
theorem indexer_balances_iff (chain : List Block) (events : List Event) (s : Process)
    (hs : s = Run.run Process.step (.start chain) events)
    (hgrows : Run.Along Process.step Grows (.start chain) events) (hvalid : ValidChain s.chain)
    (hcaught : s.CaughtUp) :
    (∀ address, s.tables.balanceSat address = s.tables.unspentSat address) ↔
      ∀ address, net s.replayed address = 0 := by
  have hS := wellFormed_statements hvalid.tail 1
  obtain ⟨hfollows, honchain⟩ := run_follows_of_grows hS hgrows (hs ▸ List.prefix_refl _)
  rw [← hs] at hfollows honchain
  obtain ⟨hheight, L, hprogress⟩ := hfollows.of_caughtUp hcaught
  have hL : L = upTo s.chain s.lastHeight := by
    by_contra hne
    obtain ⟨row, hmem⟩ := mem_insertBlock_of_beyond hprogress.reached hprogress.position hne
    have hlt := honchain.rows _ _ ((hprogress.tables.blocks _ _).mpr hmem)
    have := hcaught.2
    omega
  refine forall_congr' fun address => ?_
  rw [hprogress.balance, hprogress.unspent, hL, upTo, sum_credit_statements]
  omega

def sampleEarlyStop : List Event :=
  List.replicate 4 .advance ++ .restart :: List.replicate 18 .advance

theorem indexer_balances_sample :
    ∃ s, s = Run.run Process.step (.start [genesisBlock, blockA, blockA2]) sampleEarlyStop ∧
      s.CaughtUp ∧ s.tables.balanceSat (goString "x") = 0 ∧
      s.tables.balanceSat (goString "y") = 5000000000 ∧
      ∀ address, s.tables.balanceSat address = s.tables.unspentSat address := by
  obtain ⟨s, hs⟩ : ∃ s, s = Run.run Process.step (.start [genesisBlock, blockA, blockA2])
    sampleEarlyStop := ⟨_, rfl⟩
  have hrun : s.chain = [genesisBlock, blockA, blockA2] ∧ s.phase = .waiting ∧ s.lastHeight = 2 ∧
      s.replayed = [] ∧ s.tables.balanceSat (goString "x") = 0 ∧
      s.tables.balanceSat (goString "y") = 5000000000 := by
    rw [hs]
    decide +kernel
  obtain ⟨hchain, hphase, hheight, hreplayed, hx, hy⟩ := hrun
  have hcaught : s.CaughtUp := ⟨by rw [hphase]; nofun, by rw [hchain, hheight]; decide⟩
  refine ⟨s, hs, hcaught, hx, hy, ?_⟩
  refine (indexer_balances_iff _ _ s hs (by decide) ?_ hcaught).mpr ?_
  · rw [hchain]
    exact validChain_sample (by decide)
  · rw [hreplayed]
    exact fun _ => rfl

def sampleLateStop : List Event :=
  List.replicate 5 .advance ++ .restart :: List.replicate 18 .advance

/-- The first output is counted twice. -/
theorem indexer_doubleCredit :
    Run.Along Process.step Grows (.start [genesisBlock, blockA, blockA2]) sampleLateStop ∧
      ValidChain [genesisBlock, blockA, blockA2] ∧
      ∃ s, s = Run.run Process.step (.start [genesisBlock, blockA, blockA2]) sampleLateStop ∧
        s.chain = [genesisBlock, blockA, blockA2] ∧ s.CaughtUp ∧
        s.tables.balanceSat (goString "x") = 5000000000 ∧
        s.tables.unspentSat (goString "x") = 0 := by
  obtain ⟨s, hs⟩ : ∃ s, s = Run.run Process.step (.start [genesisBlock, blockA, blockA2])
    sampleLateStop := ⟨_, rfl⟩
  have hrun : s.chain = [genesisBlock, blockA, blockA2] ∧ s.phase = .waiting ∧ s.lastHeight = 2 ∧
      s.tables.balanceSat (goString "x") = 5000000000 ∧ s.tables.unspentSat (goString "x") = 0 := by
    rw [hs]
    decide +kernel
  obtain ⟨hchain, hphase, hheight, hbalance, hunspent⟩ := hrun
  exact ⟨by decide, validChain_sample (by decide), s, hs, hchain,
    ⟨by rw [hphase]; nofun, by rw [hchain, hheight]; decide⟩, hbalance, hunspent⟩

end GarudaChain.Indexer
