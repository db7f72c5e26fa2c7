import GarudaChain.Api.Proofs.AuditChainProofs
import GarudaChain.Lib.Run
import Mathlib.Data.List.TakeWhile

/-!
# Runs of the audit chain
-/

namespace GarudaChain.Api

open Json (FloatFormat GoValue Tree)

variable {fmt : FloatFormat} {crypto : ApiCrypto}

theorem splitLines_line {line : GoString} (h : 0x0a ∉ line) (file : Bytes) :
    splitLines (line ++ 0x0a :: file) = line :: splitLines file := by
  induction line with
  | nil => rfl
  | cons c line ih =>
    rw [List.mem_cons, not_or] at h
    rw [List.cons_append, splitLines, if_neg (Ne.symm h.1), ih h.2]

/-- A line that the scanner hands out as it was written. -/
structure IsLine (line : GoString) : Prop where
  printable : Json.Printable line
  ne_nil : line ≠ []
  short : line.length < maxTokenSize

theorem IsLine.not_mem {line : GoString} (h : IsLine line) : 0x0a ∉ line :=
  fun hmem => h.printable _ hmem (by decide)

theorem IsLine.dropCR {line : GoString} (h : IsLine line) : dropCR line = line := by
  rw [Api.dropCR, if_neg]
  intro hlast
  exact h.printable _ (List.mem_of_getLast? hlast) (by decide)

def fileOf (lines : List GoString) : Bytes := lines.flatMap fun line => line ++ [0x0a]

theorem fileOf_append (lines : List GoString) (line : GoString) :
    fileOf (lines ++ [line]) = fileOf lines ++ line ++ [0x0a] := by
  simp [fileOf]

variable {disk line : Bytes} {chain : AuditChain} {lines : List GoString} {path : GoString} {s : AuditState}

theorem splitLines_fileOf (h : ∀ line ∈ lines, IsLine line) :
    splitLines (fileOf lines) = lines := by
  induction lines with
  | nil => rfl
  | cons line lines ih =>
    have hline := (h line List.mem_cons_self).not_mem
    rw [fileOf, List.flatMap_cons, List.append_assoc, List.singleton_append,
      splitLines_line hline, ← fileOf, ih fun l hl => h l (List.mem_cons_of_mem _ hl)]

theorem scanLines_fileOf (h : ∀ line ∈ lines, IsLine line) :
    scanLines (fileOf lines) = (lines, false) := by
  rw [scanLines, splitLines_fileOf h]
  refine Prod.ext ?_ ?_
  · change (lines.takeWhile fun line => decide (line.length < maxTokenSize)).map dropCR = lines
    rw [List.takeWhile_eq_self_iff.mpr fun line hline => decide_eq_true (h line hline).short]
    exact (List.map_congr_left fun line hline => (h line hline).dropCR).trans (List.map_id _)
  · change (lines.any fun line => decide (maxTokenSize ≤ line.length)) = false
    rw [List.any_eq_false]
    intro line hline
    have := (h line hline).short
    simp only [decide_eq_true_eq]
    omega

/-- A line and the entry that is read from it. -/
structure Row (fmt : FloatFormat) (crypto : ApiCrypto) where
  line : GoString
  entry : AuditChainEntry fmt
  isLine : IsLine line
  unmarshal : unmarshalEntry line = some entry
  hash_eq : computeEntryHash crypto entry = entry.hash

/-- Every row names the hash of the row before it. -/
def Chained (start : GoString) (rows : List (Row fmt crypto)) : Prop :=
  HashChain.Linked (·.entry.prevHash) (·.entry.hash) start rows

def tipHash (start : GoString) (rows : List (Row fmt crypto)) : GoString :=
  HashChain.tip (·.entry.hash) start rows

theorem verifyLines_rows (rows : List (Row fmt crypto)) : ∀ {prev : GoString} (n : Nat),
    Chained prev rows →
      verifyLines fmt crypto (rows.map (·.line)) prev n = (n + rows.length, none) := by
  induction rows with
  | nil => exact fun _ _ => rfl
  | cons row rows ih =>
    intro prev n hchained
    obtain ⟨hprev, hrest⟩ := hchained
    have hempty : row.line.isEmpty = false := by simpa using row.isLine.ne_nil
    rw [List.map_cons, verifyLines, hempty]
    simp only [Bool.false_eq_true, if_false, row.unmarshal, hprev, row.hash_eq, ne_eq,
      not_true_eq_false]
    rw [ih (n + 1) hrest, List.length_cons, Nat.add_right_comm, Nat.add_assoc]

theorem recoverLines_rows (rows : List (Row fmt crypto)) : ∀ {prev : GoString} (seq : Int),
    Chained prev rows → ∃ seq',
      recoverLines fmt crypto (rows.map (·.line)) prev seq = .ok (tipHash prev rows, seq') := by
  induction rows with
  | nil => exact fun seq _ => ⟨seq, rfl⟩
  | cons row rows ih =>
    intro prev seq hchained
    obtain ⟨hprev, hrest⟩ := hchained
    obtain ⟨seq', hrecover⟩ := ih row.entry.seq hrest
    refine ⟨seq', ?_⟩
    rw [List.map_cons, recoverLines]
    simp only [row.unmarshal, hprev, row.hash_eq, ne_eq, not_true_eq_false, if_false]
    exact hrecover

def fileOfRows (rows : List (Row fmt crypto)) : Bytes := fileOf (rows.map (·.line))

theorem scanLines_rows (rows : List (Row fmt crypto)) :
    scanLines (fileOfRows rows) = (rows.map (·.line), false) := by
  refine scanLines_fileOf fun line hline => ?_
  obtain ⟨row, -, rfl⟩ := List.mem_map.mp hline
  exact row.isLine

theorem verifyAuditChain_rows {rows : List (Row fmt crypto)} (h : Chained emptyHash rows) :
    verifyAuditChain fmt crypto (fileOfRows rows) = (rows.length, none) := by
  rw [verifyAuditChain, scanLines_rows]
  simp only [verifyLines_rows rows 0 h, Nat.zero_add, Bool.false_eq_true, if_false]

theorem openAuditChain_rows {rows : List (Row fmt crypto)} (h : Chained emptyHash rows) (hpath : path ≠ []) (chain : AuditChain) :
    ∃ seq, openAuditChain fmt crypto path (fileOfRows rows) chain =
      .ok { chain with file := true, prevHash := tipHash emptyHash rows, seq, enabled := true } := by
  obtain ⟨seq, hrecover⟩ := recoverLines_rows rows 0 h
  refine ⟨seq, ?_⟩
  have hempty : path.isEmpty = false := by simpa using hpath
  rw [openAuditChain, hempty, scanLines_rows]
  simp only [Bool.false_eq_true, if_false, hrecover]

theorem plain_computeEntryHash (e : AuditChainEntry fmt) :
    Json.Plain (computeEntryHash crypto e) := by
  rw [computeEntryHash]
  cases e.body with
  | none => exact plain_nil
  | some b => exact plain_encode _

theorem plain_tipHash {start : GoString} (hstart : Json.Plain start)
    (rows : List (Row fmt crypto)) : Json.Plain (tipHash start rows) := by
  rw [tipHash, HashChain.tip_eq_getLast]
  cases rows.getLast? with
  | none => exact hstart
  | some row =>
    rw [Option.map_some, Option.getD_some, ← row.hash_eq]
    exact plain_computeEntryHash _

def newEntry (crypto : ApiCrypto) (ev : AuditEvent fmt) (faults : AppendFaults)
    (chain : AuditChain) : AuditChainEntry fmt :=
  chainEntry crypto ev (wrap64 (chain.seq + 1)) chain.prevHash faults.hashMarshal

theorem appendAuditChain_cases {ev : AuditEvent fmt} {faults : AppendFaults} {disk' : Bytes}
    {chain' : AuditChain}
    (h : appendAuditChain crypto ev faults disk chain = (disk', chain')) :
    chain'.enabled = chain.enabled ∧
      ((disk' = disk ∧ chain'.prevHash = chain.prevHash) ∨
        ∃ line, chain.enabled = true ∧ (newEntry crypto ev faults chain).marshal = some line ∧
          disk' = disk ++ line ++ [0x0a] ∧
          chain'.prevHash =
            if faults.sync then chain.prevHash else (newEntry crypto ev faults chain).hash) := by
  rw [appendAuditChain] at h
  by_cases hoff : (!chain.enabled || !chain.file) = true
  · rw [if_pos hoff] at h
    obtain ⟨rfl, rfl⟩ := Prod.mk.inj h
    exact ⟨rfl, .inl ⟨rfl, rfl⟩⟩
  have henabled : chain.enabled = true := by
    cases hc : chain.enabled with
    | true => rfl
    | false => simp [hc] at hoff
  rw [if_neg hoff] at h
  cases hout : (if faults.lineMarshal then none else (newEntry crypto ev faults chain).marshal) with
  | none =>
    rw [newEntry] at hout
    simp only [hout] at h
    obtain ⟨rfl, rfl⟩ := Prod.mk.inj h
    exact ⟨rfl, .inl ⟨rfl, rfl⟩⟩
  | some line =>
    have hmarshal : (newEntry crypto ev faults chain).marshal = some line := by
      cases hfault : faults.lineMarshal with
      | true => simp [hfault] at hout
      | false => simpa [hfault] using hout
    rw [newEntry] at hout
    simp only [hout] at h
    split_ifs at h with hwrite hsync
    · obtain ⟨rfl, rfl⟩ := Prod.mk.inj h
      exact ⟨rfl, .inl ⟨rfl, rfl⟩⟩
    · obtain ⟨rfl, rfl⟩ := Prod.mk.inj h
      exact ⟨rfl, .inr ⟨line, henabled, hmarshal, rfl, (if_pos hsync).symm⟩⟩
    · obtain ⟨rfl, rfl⟩ := Prod.mk.inj h
      exact ⟨rfl, .inr ⟨line, henabled, hmarshal, rfl, (if_neg hsync).symm⟩⟩

theorem newEntry_eq (crypto : ApiCrypto) (ev : AuditEvent fmt) (faults : AppendFaults) (chain : AuditChain)
    (h : faults.hashMarshal = false) :
    newEntry crypto ev faults chain =
      ev.entry (wrap64 (chain.seq + 1)) chain.prevHash
        (computeEntryHash crypto (ev.entry (wrap64 (chain.seq + 1)) chain.prevHash [])) := by
  rw [newEntry, chainEntry, h]
  rfl

def StableEvent (ev : AuditEvent fmt) : Prop :=
  ∀ (n : Int) (prevHash hash : GoString) (line : Bytes), Json.Plain prevHash → Json.Plain hash →
    (ev.entry (wrap64 n) prevHash hash).marshal = some line →
      ∃ e : AuditChainEntry fmt, unmarshalEntry line = some e ∧ e.marshal = some line

theorem FaithfulEvent.stable {ev : AuditEvent fmt} (h : FaithfulEvent ev) : StableEvent ev := by
  intro n prevHash hash line hprev hhash hline
  obtain ⟨ev', hread, hsame⟩ := h.unmarshal n hprev.isUtf8 hhash.isUtf8 hline
  exact ⟨_, hread, (hsame _ _ _).trans hline⟩

theorem numeric_tree {e : AuditChainEntry fmt} {t : Tree} (h : e.tree = some t) : Json.Numeric t := by
  obtain ⟨ms, hms, rfl⟩ := Option.map_eq_some_iff.mp h
  have hmap : Json.NumericMembers ms := Json.numericMembers_iff.mpr fun p hp =>
    Json.memberTrees_numeric e.metaMap p.1 p.2 ((Json.mapTree_spec hms).2 p hp)
  refine Json.numericMembers_iff.mpr fun p hp => ?_
  rcases (AuditChainEntry.members_spec hp).2 with hseq | hobj | ⟨s, -, hstr⟩
  · rw [hseq]
    exact Decimal.isNumber_format e.seq
  · rw [hobj]
    exact hmap
  · rw [hstr]
    exact trivial

theorem marshal_printable {e : AuditChainEntry fmt} (h : e.marshal = some line) :
    Json.Printable line := by
  obtain ⟨t, ht, rfl⟩ := Option.map_eq_some_iff.mp h
  exact Json.printable_write t (numeric_tree ht)

theorem marshal_isLine {e : AuditChainEntry fmt} (h : e.marshal = some line)
    (hshort : line.length < maxTokenSize) : IsLine line := by
  refine ⟨marshal_printable h, ?_, hshort⟩
  rw [AuditChainEntry.marshal_eq] at h
  obtain ⟨front, -, rfl⟩ := Option.map_eq_some_iff.mp h
  simp [hashBytes, hashKey]

theorem StableEvent.row {ev : AuditEvent fmt} (h : StableEvent ev) (n : Int) {prevHash : GoString}
    (hprev : Json.Plain prevHash)
    (hline : (ev.entry (wrap64 n) prevHash
      (computeEntryHash crypto (ev.entry (wrap64 n) prevHash []))).marshal = some line)
    (hshort : line.length < maxTokenSize) :
    ∃ row : Row fmt crypto, row.line = line ∧ row.entry.prevHash = prevHash ∧
      row.entry.hash = computeEntryHash crypto (ev.entry (wrap64 n) prevHash []) := by
  have hhash : Json.Plain (computeEntryHash crypto (ev.entry (wrap64 n) prevHash [])) :=
    plain_computeEntryHash _
  obtain ⟨e, hread, hmarshal⟩ := h n prevHash _ line hprev hhash hline
  obtain ⟨hprev', hhash'⟩ := hashes_of_marshal hline hmarshal hprev hhash
  have hbody : e.body = (ev.entry (wrap64 n) prevHash []).body :=
    (marshal_eq_iff_body_eq hhash').mp (hmarshal.trans hline.symm)
  have hcompute : computeEntryHash crypto e =
      computeEntryHash crypto (ev.entry (wrap64 n) prevHash []) := by
    rw [computeEntryHash, computeEntryHash, hbody]
  exact ⟨⟨line, e, marshal_isLine hline hshort, hread, hcompute.trans hhash'.symm⟩, rfl, hprev',
    hhash'⟩

/-- The file holds the rows that were written, and unless one was not synced the chain has the last
    hash. -/
structure Recorded (fmt : FloatFormat) (crypto : ApiCrypto) (s : AuditState)
    (rows : List (Row fmt crypto)) : Prop where
  disk : s.disk = fileOfRows rows
  chained : Chained emptyHash rows
  written : s.written = rows.length
  tip : s.chain.enabled = true → s.syncFailed = false → s.chain.prevHash = tipHash emptyHash rows

/-- If an append makes the file longer, all lines before were synced since it was opened, and the line
    has its hash and fits into the buffer of the scanner. -/
def LineInOrder (s : AuditState) (faults : AppendFaults) (disk : Bytes) : Prop :=
  disk = s.disk ∨
    (s.syncFailed = false ∧ faults.hashMarshal = false ∧ disk.length ≤ s.disk.length + maxTokenSize)

def InOrder (crypto : ApiCrypto) (s : AuditState) : AuditOp fmt → Prop
  | .append ev faults =>
    LineInOrder s faults (appendAuditChain crypto ev faults s.disk s.chain).1
  | .openChain _ _ | .closeChain => True

def StableOp : AuditOp fmt → Prop
  | .append ev _ => StableEvent ev
  | .openChain _ _ | .closeChain => True

theorem fileOfRows_append (rows : List (Row fmt crypto)) (row : Row fmt crypto) :
    fileOfRows (rows ++ [row]) = fileOfRows rows ++ row.line ++ [0x0a] := by
  rw [fileOfRows, List.map_append, List.map_singleton, fileOf_append, ← fileOfRows]

theorem auditStep_open {rows : List (Row fmt crypto)}
    (hs : Recorded fmt crypto s rows) (path : GoString) (fails : Bool) :
    Recorded fmt crypto (auditStep fmt crypto s (.openChain path fails)) rows := by
  rw [auditStep]
  by_cases hfails : (fails && !path.isEmpty) = true
  · rw [if_pos hfails]
    exact hs
  rw [if_neg hfails]
  by_cases hpath : path = []
  · subst hpath
    refine ⟨hs.disk, hs.chained, hs.written, ?_⟩
    intro henabled
    cases henabled
  · obtain ⟨seq, hopen⟩ := openAuditChain_rows hs.chained hpath s.chain
    rw [hs.disk, hopen]
    exact ⟨rfl, hs.chained, hs.written, fun _ _ => rfl⟩

theorem auditStep_append {rows : List (Row fmt crypto)}
    (hs : Recorded fmt crypto s rows) {ev : AuditEvent fmt} (hstable : StableEvent ev)
    {faults : AppendFaults} (horder : InOrder crypto s (.append ev faults)) :
    ∃ rows', Recorded fmt crypto (auditStep fmt crypto s (.append ev faults)) rows' := by
  rcases happend : appendAuditChain crypto ev faults s.disk s.chain with ⟨disk, chain⟩
  obtain ⟨henabled, hcases⟩ := appendAuditChain_cases happend
  simp only [InOrder, LineInOrder, happend] at horder
  simp only [auditStep, happend]
  rcases hcases with ⟨rfl, hprev⟩ | ⟨line, hon, hline, hdisk, hprev⟩
  · refine ⟨rows, hs.disk, hs.chained, ?_, ?_⟩
    · simp [hs.written]
    · intro hchain hsync
      simp only [Nat.lt_irrefl, decide_false, Bool.false_and, Bool.or_false] at hsync
      rw [hprev]
      exact hs.tip (henabled ▸ hchain) hsync
  · have hlength : disk.length = s.disk.length + line.length + 1 := by
      rw [hdisk, List.length_append, List.length_append, List.length_singleton]
    have hgrown : s.disk.length < disk.length := by omega
    obtain ⟨hsynced, hmarshal, hshort⟩ :=
      horder.resolve_left fun heq => absurd (congrArg List.length heq) (by omega)
    have htip := hs.tip hon hsynced
    rw [newEntry_eq _ _ _ _ hmarshal] at hline hprev
    obtain ⟨row, hrow, hrowPrev, hrowHash⟩ := hstable.row (s.chain.seq + 1)
      (htip ▸ plain_tipHash plain_emptyHash rows) hline (by omega)
    refine ⟨rows ++ [row], ?_, ?_, ?_, ?_⟩
    · rw [fileOfRows_append, ← hs.disk, hrow]
      exact hdisk
    · exact (HashChain.linked_append _ _ _).mpr ⟨hs.chained, hrowPrev.trans htip⟩
    · simp [hgrown, hs.written]
    · intro _ hsync
      rw [tipHash, HashChain.tip_append, hrowHash]
      simp only [hgrown, decide_true, Bool.true_and, Bool.or_eq_false_iff] at hsync
      rw [hprev, hsync.2]
      rfl

theorem auditStep_recorded {op : AuditOp fmt} (hstable : StableOp op)
    (horder : InOrder crypto s op) (hs : ∃ rows, Recorded fmt crypto s rows) :
    ∃ rows, Recorded fmt crypto (auditStep fmt crypto s op) rows := by
  obtain ⟨rows, hs⟩ := hs
  cases op with
  | openChain path fails => exact ⟨rows, auditStep_open hs path fails⟩
  | append ev faults => exact auditStep_append hs hstable horder
  | closeChain =>
    refine ⟨rows, hs.disk, hs.chained, hs.written, ?_⟩
    intro henabled
    cases henabled

/-- The start of a process on an empty file. -/
def AuditState.initial : AuditState := ⟨[], .initial, 0, false⟩

/-- In every run in which the lines are written in order, the file verifies with as many entries as
    lines were written, and it can be opened again. -/
theorem auditRun_verifies (fmt : FloatFormat) (crypto : ApiCrypto) (ops : List (AuditOp fmt))
    (hstable : ∀ op ∈ ops, StableOp op)
    (horder : Run.Along (auditStep fmt crypto) (InOrder crypto) .initial ops) :
    let s := Run.run (auditStep fmt crypto) .initial ops
    verifyAuditChain fmt crypto s.disk = (s.written, none) ∧
      ∀ (path : GoString) (chain : AuditChain), path ≠ [] →
        ∃ chain', openAuditChain fmt crypto path s.disk chain = .ok chain' ∧ chain'.enabled = true := by
  have hinv : ∃ rows, Recorded fmt crypto (Run.run (auditStep fmt crypto) .initial ops) rows :=
    Run.Along.inv (I := fun s => ∃ rows, Recorded fmt crypto s rows)
      (fun _ op hs h => auditStep_recorded (hstable op h.2) h.1 hs)
      ⟨[], rfl, trivial, rfl, fun h => by cases h⟩ (horder.and_mem fun _ h => h)
  obtain ⟨rows, hrows⟩ := hinv
  intro s
  rw [hrows.disk, hrows.written]
  refine ⟨verifyAuditChain_rows hrows.chained, fun path chain hpath => ?_⟩
  obtain ⟨seq, hopen⟩ := openAuditChain_rows hrows.chained hpath chain
  exact ⟨_, hopen, rfl⟩

instance (s : AuditState) (faults : AppendFaults) (disk : Bytes) :
    Decidable (LineInOrder s faults disk) :=
  inferInstanceAs (Decidable (_ ∨ _))

instance (crypto : ApiCrypto) (s : AuditState) :
    (op : AuditOp fmt) → Decidable (InOrder crypto s op)
  | .append ev faults =>
    inferInstanceAs (Decidable (LineInOrder s faults
      (appendAuditChain crypto ev faults s.disk s.chain).1))
  | .openChain _ _ => inferInstanceAs (Decidable True)
  | .closeChain => inferInstanceAs (Decidable True)

theorem faithful_sampleEvent (hpath : Utf8.Ascii path) {metaMap}
    (hmeta : Json.FaithfulMembers integerFloats (Json.maxNestingDepth - 2) metaMap) :
    FaithfulEvent (sampleEvent path metaMap) := by
  refine ⟨fun s hs => Utf8.isUtf8_of_ascii ?_, hmeta⟩
  have htexts : ∀ s ∈ [goString "2026-04-13T09:20:00Z", goString "mint", goString "::1", [],
      goString "ok"], Utf8.Ascii s := by decide
  simp only [sampleEvent, List.mem_cons, List.not_mem_nil, or_false] at hs
  rcases hs with rfl | rfl | rfl | rfl | rfl | rfl
  · exact htexts _ (by simp)
  · exact htexts _ (by simp)
  · exact htexts _ (by simp)
  · exact hpath
  · exact htexts _ (by simp)
  · exact htexts _ (by simp)

def sampleOps : List (AuditOp integerFloats) :=
  [.openChain (goString "audit.log") false, .append (sampleEvent (goString "/a") []) noFaults,
    .append (sampleEvent (goString "/b") []) { noFaults with write := true }, .closeChain,
    .openChain (goString "audit.log") false,
    .append (sampleEvent (goString "/b") []) { noFaults with sync := true }]

/-- A row that is not synced, and another one after it. -/
def unsyncedOps : List (AuditOp integerFloats) :=
  [.openChain (goString "audit.log") false,
    .append (sampleEvent (goString "/a") []) { noFaults with sync := true },
    .append (sampleEvent (goString "/b") []) noFaults]

theorem stable_sampleEvent : StableEvent (sampleEvent (goString "/a") []) ∧
    StableEvent (sampleEvent (goString "/b") []) := by
  have hmeta : Json.FaithfulMembers integerFloats (Json.maxNestingDepth - 2) [] := trivial
  exact ⟨(faithful_sampleEvent (by decide) hmeta).stable,
    (faithful_sampleEvent (by decide) hmeta).stable⟩

theorem stable_sampleOps : ∀ op ∈ sampleOps, StableOp op := by
  obtain ⟨ha, hb⟩ := stable_sampleEvent
  simp [sampleOps, StableOp, ha, hb]

theorem auditRun_verifies_sample :
    verifyAuditChain integerFloats auditCrypto
      (Run.run (auditStep integerFloats auditCrypto) .initial sampleOps).disk = (2, none) := by
  have hwritten : Run.Along (auditStep integerFloats auditCrypto) (InOrder auditCrypto) .initial
      sampleOps ∧ (Run.run (auditStep integerFloats auditCrypto) .initial sampleOps).written = 2 := by
    decide +kernel
  rw [← hwritten.2]
  exact (auditRun_verifies integerFloats auditCrypto sampleOps stable_sampleOps hwritten.1).1

/-- After a row that is not synced, the next one names the hash before it. -/
theorem auditRun_unsynced : (∀ op ∈ unsyncedOps, StableOp op) ∧
    verifyAuditChain integerFloats auditCrypto
      (Run.run (auditStep integerFloats auditCrypto) .initial unsyncedOps).disk =
        (1, some (.prevHashMismatch 2 2)) := by
  obtain ⟨ha, hb⟩ := stable_sampleEvent
  exact ⟨by simp [unsyncedOps, StableOp, ha, hb], by decide +kernel⟩

theorem recoverLines_plain {hash : GoString} {seq' : Int} :
    ∀ {prev : GoString} {seq : Int}, recoverLines fmt crypto lines prev seq = .ok (hash, seq') →
      Json.Plain prev → Json.Plain hash := by
  induction lines with
  | nil =>
    intro prev seq h hprev
    cases h
    exact hprev
  | cons line lines ih =>
    intro prev seq h hprev
    rw [recoverLines] at h
    cases he : (unmarshalEntry line : Option (AuditChainEntry fmt)) with
    | none => simp [he] at h
    | some e =>
      simp only [he] at h
      split_ifs at h with hlink hhash
      rw [not_not] at hhash
      exact ih h (hhash ▸ plain_computeEntryHash e)

theorem openAuditChain_plain {chain' : AuditChain}
    (h : openAuditChain fmt crypto path disk chain = .ok chain') (hchain : Json.Plain chain.prevHash) :
    Json.Plain chain'.prevHash := by
  rcases hscan : scanLines disk with ⟨lines, tooLong⟩
  rw [openAuditChain, hscan] at h
  by_cases hpath : path.isEmpty
  · rw [if_pos hpath] at h
    cases h
    exact hchain
  rw [if_neg hpath] at h
  cases hrecover : recoverLines fmt crypto lines emptyHash 0 with
  | error err => simp [hrecover] at h
  | ok tail =>
    obtain ⟨hash, seq⟩ := tail
    cases tooLong with
    | true => simp [hrecover] at h
    | false =>
      simp only [hrecover, Bool.false_eq_true, if_false] at h
      cases h
      exact recoverLines_plain hrecover plain_emptyHash

theorem plain_newEntry (ev : AuditEvent fmt) (faults : AppendFaults) (chain : AuditChain) :
    Json.Plain (newEntry crypto ev faults chain).hash := by
  rw [newEntry, chainEntry]
  cases faults.hashMarshal with
  | true => exact plain_nil
  | false => exact plain_computeEntryHash _

theorem auditStep_plain (s : AuditState) (op : AuditOp fmt) (hs : Json.Plain s.chain.prevHash) :
    Json.Plain (auditStep fmt crypto s op).chain.prevHash := by
  cases op with
  | openChain path fails =>
    rw [auditStep]
    by_cases hfails : (fails && !path.isEmpty) = true
    · rw [if_pos hfails]
      exact hs
    rw [if_neg hfails]
    cases hopen : openAuditChain fmt crypto path s.disk s.chain with
    | error err => exact hs
    | ok chain => exact openAuditChain_plain hopen hs
  | append ev faults =>
    rcases happend : appendAuditChain crypto ev faults s.disk s.chain with ⟨disk, chain⟩
    simp only [auditStep, happend]
    rcases (appendAuditChain_cases happend).2 with ⟨-, hprev⟩ | ⟨line, -, -, -, hprev⟩
    · rw [hprev]
      exact hs
    · rw [hprev]
      split_ifs
      · exact hs
      · exact plain_newEntry ev faults s.chain
  | closeChain => exact hs

theorem auditRun_plain (crypto : ApiCrypto) (file : Bytes) (ops : List (AuditOp fmt)) :
    Json.Plain (Run.run (auditStep fmt crypto) ⟨file, .initial, 0, false⟩ ops).chain.prevHash := by
  exact Run.run_inv (I := fun s : AuditState => Json.Plain s.chain.prevHash) auditStep_plain plain_emptyHash ops

theorem appendAuditChain_writes {ev : AuditEvent fmt} {sync : Bool} (henabled : chain.enabled = true) (hfile : chain.file = true)
    (hline : (newEntry crypto ev ⟨false, false, false, sync⟩ chain).marshal = some line) :
    (appendAuditChain crypto ev ⟨false, false, false, sync⟩ disk chain).1 =
      disk ++ line ++ [0x0a] := by
  rw [newEntry] at hline
  cases sync with
  | true => simp [appendAuditChain, henabled, hfile, hline]
  | false => simp [appendAuditChain, henabled, hfile, hline]

end GarudaChain.Api
