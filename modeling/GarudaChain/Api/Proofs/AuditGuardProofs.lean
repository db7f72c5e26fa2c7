import GarudaChain.Api.AuditGuard
import GarudaChain.Api.Proofs.AuditChainProofs
import GarudaChain.Lib.Run

/-!
# The breaker and the witness

The breaker is tested at the start of a request and tripped at the end of one, so all requests that are
under way when it trips go on.
-/

namespace GarudaChain.Api

open Json (FloatFormat)

variable {fmt : FloatFormat} {crypto : ApiCrypto}

def nextEntry (crypto : ApiCrypto) (ev : AuditEvent fmt) (faults : AppendFaults)
    (chain : AuditChain) : AuditChainEntry fmt :=
  chainEntry crypto ev (wrap64 (chain.seq + 1)) chain.prevHash faults.hashMarshal

theorem appendAuditChain_open (crypto : ApiCrypto) {chain : AuditChain} (henabled : chain.enabled = true)
    (hfile : chain.file = true) (ev : AuditEvent fmt) (faults : AppendFaults) (disk : Bytes) :
    (appendAuditChain crypto ev faults disk chain =
        (disk, bumpBreakerLocked { chain with seq := wrap64 (wrap64 (chain.seq + 1) - 1) }) ∧
      (faults.lineMarshal || (nextEntry crypto ev faults chain).marshal.isNone || faults.write)
        = true) ∨
    ∃ line, (nextEntry crypto ev faults chain).marshal = some line ∧ faults.lineMarshal = false ∧
      faults.write = false ∧
      appendAuditChain crypto ev faults disk chain = (disk ++ line ++ [0x0a],
        if faults.sync then bumpBreakerLocked { chain with seq := wrap64 (chain.seq + 1) }
        else { chain with
          seq := wrap64 (chain.seq + 1), prevHash := (nextEntry crypto ev faults chain).hash,
          consecFails := 0 }) := by
  have hon : ¬ (!chain.enabled || !chain.file) = true := by simp [henabled, hfile]
  rw [appendAuditChain, if_neg hon]
  dsimp only
  rw [← nextEntry]
  cases hfault : faults.lineMarshal with
  | true => exact .inl ⟨rfl, rfl⟩
  | false =>
    cases hmarshal : (nextEntry crypto ev faults chain).marshal with
    | none => exact .inl ⟨rfl, rfl⟩
    | some line =>
      simp only [Bool.false_eq_true, if_false]
      cases hwrite : faults.write with
      | true => exact .inl ⟨rfl, rfl⟩
      | false =>
        refine .inr ⟨line, rfl, trivial, rfl, ?_⟩
        cases faults.sync <;> rfl

namespace GateState

/-- Along a run, at most one request is under way, and every call that returned true after the last
    synced entry, but one, has raised the count of failures. -/
structure Counted (s : GateState) : Prop where
  enabled : s.chain.enabled = true
  file : s.chain.file = true
  alone : s.inFlight.length + s.passed.length ≤ 1
  unaudited : s.unaudited + s.passed.length ≤ s.chain.consecFails + 1
  bounded : s.unaudited + s.inFlight.length + s.passed.length ≤ breakerThreshold

/-- A request passes the breaker only while no other one is under way, and while there are at least two
    failures less than the threshold. -/
def PassesInTime (s : GateState) : GateEvent fmt → Prop
  | .arrive _ => s.chain.breakerTripped = true ∨
    (s.inFlight = [] ∧ s.passed = [] ∧ s.chain.consecFails + 1 < breakerThreshold)
  | _ => True

instance (s : GateState) (e : GateEvent fmt) : Decidable (PassesInTime s e) :=
  match e with
  | .arrive _ => inferInstanceAs (Decidable (s.chain.breakerTripped = true ∨
      (s.inFlight = [] ∧ s.passed = [] ∧ s.chain.consecFails + 1 < breakerThreshold)))
  | .rateLimited _ | .refuse _ _ _ | .authorize _ _ _ _ _ | .returnTrue _ | .other _ _ => .isTrue trivial

variable {s : GateState}

/-- What the audit of an event does to the counts: they are cleared, the failures go up, or they stay
    where the event cannot be written at all. -/
structure Audited (logged : Bool) (s s' : GateState) : Prop where
  enabled : s'.chain.enabled = s.chain.enabled
  file : s'.chain.file = s.chain.file
  counts : (s'.unaudited = 0 ∧ s'.chain.consecFails = 0) ∨
    (s'.unaudited = s.unaudited ∧ s'.chain.consecFails = s.chain.consecFails + 1) ∨
    (logged = false ∧ s'.unaudited = s.unaudited ∧ s'.chain = s.chain)

theorem audited_spec (henabled : s.chain.enabled = true) (hfile : s.chain.file = true)
    (ev : AuditEvent fmt) (faults : AppendFaults) :
    Audited ev.marshal.isSome s (s.audited crypto ev faults) := by
  cases hmarshal : ev.marshal with
  | none =>
    refine ⟨?_, ?_, .inr (.inr ⟨rfl, ?_, ?_⟩)⟩ <;>
      simp [GateState.audited, audit, auditSynced, hmarshal]
  | some text =>
    have haudit : audit crypto ev faults s.disk s.chain =
        appendAuditChain crypto ev faults s.disk s.chain := by
      rw [audit, hmarshal]
    rcases appendAuditChain_open crypto henabled hfile ev faults s.disk with
      ⟨happend, hfault⟩ | ⟨line, hline, hlineMarshal, hwrite, happend⟩
    · have hsynced : auditSynced crypto ev faults s.chain = false := by
        rw [auditSynced, ← nextEntry]
        simp only [Bool.or_eq_true, Option.isNone_iff_eq_none] at hfault
        rcases hfault with (hfault | hfault) | hfault <;> simp [hfault]
      refine ⟨?_, ?_, .inr (.inl ⟨?_, ?_⟩)⟩ <;>
        simp [GateState.audited, haudit, happend, hsynced, bumpBreakerLocked]
    · have hsynced : auditSynced crypto ev faults s.chain = !faults.sync := by
        rw [auditSynced, ← nextEntry]
        simp [hmarshal, henabled, hfile, hlineMarshal, hline, hwrite]
      cases hsync : faults.sync with
      | true =>
        rw [hsync] at hsynced happend
        refine ⟨?_, ?_, .inr (.inl ⟨?_, ?_⟩)⟩ <;>
          simp [GateState.audited, haudit, happend, hsynced, bumpBreakerLocked]
      | false =>
        rw [hsync] at hsynced happend
        refine ⟨?_, ?_, .inl ⟨?_, ?_⟩⟩ <;>
          simp [GateState.audited, haudit, happend, hsynced]

/-- An audit keeps the counts, if the requests under way stay or become fewer. -/
theorem Counted.audited (h : Counted s) {s' : GateState} {logged : Bool}
    (haudited : Audited logged s s') {inFlight : List Nat}
    (hlength : inFlight.length ≤ s.inFlight.length) :
    Counted { s' with inFlight := inFlight, passed := s.passed } := by
  have halone := h.alone
  have hunaudited := h.unaudited
  have hbounded := h.bounded
  refine ⟨haudited.enabled.trans h.enabled, haudited.file.trans h.file, ?_, ?_, ?_⟩
  · change inFlight.length + s.passed.length ≤ 1
    omega
  · change s'.unaudited + s.passed.length ≤ s'.chain.consecFails + 1
    rcases haudited.counts with ⟨hzero, -⟩ | ⟨hsame, hfails⟩ | ⟨-, hsame, hchain⟩
    · omega
    · omega
    · rw [hchain]
      omega
  · change s'.unaudited + inFlight.length + s.passed.length ≤ breakerThreshold
    rcases haudited.counts with ⟨hzero, -⟩ | ⟨hsame, -⟩ | ⟨-, hsame, -⟩ <;> omega

/-- The audit of the request under way as authorized: it was alone. -/
theorem Counted.authorized (h : Counted s) {s' : GateState} (haudited : Audited true s s') {id : Nat}
    (hmem : id ∈ s.inFlight) :
    Counted { s' with inFlight := s.inFlight.erase id, passed := id :: s.passed } := by
  have halone := h.alone
  have hunaudited := h.unaudited
  have hbounded := h.bounded
  have herase := List.length_erase_of_mem hmem
  have hpos := List.length_pos_of_mem hmem
  refine ⟨haudited.enabled.trans h.enabled, haudited.file.trans h.file, ?_, ?_, ?_⟩
  · change (s.inFlight.erase id).length + (s.passed.length + 1) ≤ 1
    omega
  · change s'.unaudited + (s.passed.length + 1) ≤ s'.chain.consecFails + 1
    rcases haudited.counts with ⟨hzero, -⟩ | ⟨hsame, hfails⟩ | ⟨hno, -⟩
    · omega
    · omega
    · cases hno
  · change s'.unaudited + (s.inFlight.erase id).length + (s.passed.length + 1) ≤ breakerThreshold
    rcases haudited.counts with ⟨hzero, -⟩ | ⟨hsame, -⟩ | ⟨hno, -⟩
    · omega
    · omega
    · cases hno

theorem Counted.step (h : Counted s) (e : GateEvent fmt) (he : PassesInTime s e) :
    Counted (s.step crypto e) := by
  have hthreshold : breakerThreshold = 3 := rfl
  have halone := h.alone
  have hunaudited := h.unaudited
  have hbounded := h.bounded
  cases e with
  | arrive id =>
    dsimp only [GateState.step]
    split_ifs with hstay
    · exact h
    · have hnot : ¬ s.chain.breakerTripped = true := fun htripped => hstay (by simp [htripped])
      obtain ⟨hflight, hpassed, hroom⟩ := he.resolve_left hnot
      rw [hflight, hpassed] at halone hbounded
      rw [hpassed] at hunaudited
      simp only [List.length_nil] at halone hbounded hunaudited
      refine ⟨h.enabled, h.file, ?_, ?_, ?_⟩
      · change s.inFlight.length + 1 + s.passed.length ≤ 1
        rw [hflight, hpassed]
        simp
      · exact h.unaudited
      · change s.unaudited + (s.inFlight.length + 1) + s.passed.length ≤ breakerThreshold
        rw [hflight, hpassed, List.length_nil]
        omega
  | rateLimited id =>
    have hle := List.length_erase_le (a := id) (l := s.inFlight)
    refine ⟨h.enabled, h.file, ?_, h.unaudited, ?_⟩
    · change (s.inFlight.erase id).length + s.passed.length ≤ 1
      omega
    · change s.unaudited + (s.inFlight.erase id).length + s.passed.length ≤ breakerThreshold
      omega
  | refuse id ev faults =>
    dsimp only [GateState.step]
    split_ifs with hin
    · exact h.audited (audited_spec h.enabled h.file ev faults) List.length_erase_le
    · exact h
  | authorize id time ip path faults =>
    dsimp only [GateState.step]
    split_ifs with hin
    · exact h.authorized (audited_spec h.enabled h.file (adminAuthOk time ip path) faults)
        (by simpa using hin)
    · exact h
  | returnTrue id =>
    dsimp only [GateState.step]
    split_ifs with hin
    · have hmem : id ∈ s.passed := by simpa using hin
      have herase := List.length_erase_of_mem hmem
      have hpos := List.length_pos_of_mem hmem
      refine ⟨h.enabled, h.file, ?_, ?_, ?_⟩
      · change s.inFlight.length + (s.passed.erase id).length ≤ 1
        omega
      · change s.unaudited + 1 + (s.passed.erase id).length ≤ s.chain.consecFails + 1
        omega
      · change s.unaudited + 1 + s.inFlight.length + (s.passed.erase id).length ≤ breakerThreshold
        omega
    · exact h
  | other ev faults => exact h.audited (audited_spec h.enabled h.file ev faults) le_rfl

end GateState

def authorizeUnwritten (id : Nat) : GateEvent integerFloats :=
  .authorize id (goString "t") (goString "::1") (goString "/a") { noFaults with write := true }

def authorizeSynced (id : Nat) : GateEvent integerFloats :=
  .authorize id (goString "t") (goString "::1") (goString "/a") noFaults

def oneByOne : List (GateEvent integerFloats) :=
  [.arrive 0, authorizeSynced 0, .returnTrue 0, .arrive 1, authorizeUnwritten 1, .returnTrue 1,
    .arrive 2, authorizeUnwritten 2, .returnTrue 2]

namespace WitnessState

variable {s : WitnessState fmt}

/-- Some entry in the file has this number and this hash. -/
def Witnessed (s : WitnessState fmt) (seq : Int) (hash : GoString) : Prop :=
  ∃ e ∈ s.entries, e.seq = seq ∧ e.hash = hash

/-- The lines of the entries that were appended to a file. -/
def entryLines (entries : List (AuditChainEntry fmt)) : Bytes :=
  entries.flatMap fun e => (e.marshal.getD []) ++ [0x0a]

/-- Along a run: number and hash in memory, unless the last line is not synced, and those of every
    broadcast are of one entry of the file. -/
structure Truthful (disk : Bytes) (entries : List (AuditChainEntry fmt)) (s : WitnessState fmt) :
    Prop where
  enabled : s.chain.enabled = true
  file : s.chain.file = true
  written : ∃ new, s.entries = entries ++ new ∧ s.disk = disk ++ entryLines new
  int64 : wrap64 s.chain.seq = s.chain.seq
  tail : s.unsynced = false →
    s.chain.prevHash = emptyHash ∨ s.Witnessed s.chain.seq s.chain.prevHash
  broadcasts : ∀ b ∈ s.broadcasts, s.Witnessed b.seq b.tailHash

def CommitsSynced (s : WitnessState fmt) : WitnessOp fmt → Prop
  | .append _ _ => True
  | .commit _ => s.unsynced = false

instance (s : WitnessState fmt) (op : WitnessOp fmt) : Decidable (CommitsSynced s op) :=
  match op with
  | .append _ _ => .isTrue trivial
  | .commit _ => inferInstanceAs (Decidable (s.unsynced = false))

theorem wrap64_wrap64 (x : Int) : wrap64 (wrap64 x) = wrap64 x := by
  have hrange := Int64Lib.wrap64_range x
  exact Int64Lib.wrap64_of_range hrange.1 hrange.2

theorem wrap64_back {x : Int} (h : wrap64 x = x) : wrap64 (wrap64 (x + 1) - 1) = x := by
  rw [sub_eq_add_neg, Int64Lib.wrap64_add_wrap64]
  simpa using h

variable {disk : Bytes} {entries : List (AuditChainEntry fmt)}

theorem step_append (crypto : ApiCrypto) (henabled : s.chain.enabled = true) (hfile : s.chain.file = true)
    (ev : AuditEvent fmt) (faults : AppendFaults) :
    s.step crypto (.append ev faults) = { s with
        chain := bumpBreakerLocked
          { s.chain with seq := wrap64 (wrap64 (s.chain.seq + 1) - 1) } } ∨
      ∃ line, (nextEntry crypto ev faults s.chain).marshal = some line ∧
        s.step crypto (.append ev faults) = { s with
          disk := s.disk ++ line ++ [0x0a]
          chain := if faults.sync then bumpBreakerLocked { s.chain with seq := wrap64 (s.chain.seq + 1) }
            else { s.chain with
              seq := wrap64 (s.chain.seq + 1)
              prevHash := (nextEntry crypto ev faults s.chain).hash
              consecFails := 0 }
          entries := s.entries ++ [nextEntry crypto ev faults s.chain]
          unsynced := faults.sync } := by
  rcases appendAuditChain_open crypto henabled hfile ev faults s.disk with
    ⟨happend, -⟩ | ⟨line, hline, -, -, happend⟩
  · left
    simp only [WitnessState.step, happend, lt_irrefl, if_false]
  · refine .inr ⟨line, hline, ?_⟩
    have hgrown : s.disk.length < (s.disk ++ line ++ [0x0a]).length := by simp
    simp only [WitnessState.step, happend, if_pos hgrown, nextEntry]

theorem commitAuditTail_sent {succeeds : Bool} {chain : AuditChain} {w : Witness} {b : Broadcast}
    (h : (commitAuditTail succeeds chain w).2 = some b) :
    b.seq = chain.seq ∧ b.tailHash = chain.prevHash ∧ chain.prevHash ≠ emptyHash := by
  unfold commitAuditTail at h
  by_cases hnothing : chain.seq ≤ 0 ∨ chain.prevHash = [] ∨ chain.prevHash = emptyHash
  · rw [if_pos hnothing] at h
    cases h
  rw [if_neg hnothing] at h
  by_cases hsame : chain.seq = w.lastSeq ∧ chain.prevHash = w.lastTailHash
  · rw [if_pos hsame] at h
    cases h
  rw [if_neg hsame] at h
  cases hdecode : Hex.decode chain.prevHash with
  | error err =>
    rw [hdecode] at h
    cases h
  | ok tailRaw =>
    rw [hdecode] at h
    dsimp only at h
    split_ifs at h
    all_goals
      obtain rfl := Option.some.inj h
      exact ⟨rfl, rfl, fun heq => hnothing (.inr (.inr heq))⟩

theorem Truthful.append (h : Truthful disk entries s) (ev : AuditEvent fmt) (faults : AppendFaults) :
    Truthful disk entries (s.step crypto (.append ev faults)) := by
  rcases step_append crypto h.enabled h.file ev faults with hstep | ⟨line, hline, hstep⟩
  · rw [hstep]
    have hback := wrap64_back h.int64
    refine ⟨h.enabled, h.file, h.written, ?_, ?_, h.broadcasts⟩
    · exact wrap64_wrap64 _
    · intro hsynced
      change s.chain.prevHash = emptyHash ∨
        s.Witnessed (wrap64 (wrap64 (s.chain.seq + 1) - 1)) s.chain.prevHash
      rw [hback]
      exact h.tail hsynced
  · rw [hstep]
    have hgrown : ∀ {seq hash}, s.Witnessed seq hash →
        ∃ e ∈ s.entries ++ [nextEntry crypto ev faults s.chain], e.seq = seq ∧ e.hash = hash := by
      rintro seq hash ⟨e, he, heq⟩
      exact ⟨e, List.mem_append_left _ he, heq⟩
    refine ⟨?_, ?_, ?_, ?_, ?_, fun b hb => hgrown (h.broadcasts b hb)⟩
    · cases faults.sync <;> exact h.enabled
    · cases faults.sync <;> exact h.file
    · obtain ⟨new, hentries, hdisk⟩ := h.written
      refine ⟨new ++ [nextEntry crypto ev faults s.chain], ?_, ?_⟩
      · simp [hentries]
      · simp [hdisk, entryLines, hline]
    · cases faults.sync <;> exact wrap64_wrap64 _
    · intro hsynced
      change faults.sync = false at hsynced
      rw [hsynced]
      exact .inr ⟨_, List.mem_append_right _ (List.mem_singleton_self _), rfl, rfl⟩

theorem Truthful.commit (h : Truthful disk entries s) (succeeds : Bool)
    (hsynced : s.unsynced = false) :
    Truthful disk entries (s.step crypto (.commit succeeds)) := by
  refine ⟨h.enabled, h.file, h.written, h.int64, h.tail, ?_⟩
  intro b hb
  rcases List.mem_append.mp hb with hold | hnew
  · exact h.broadcasts b hold
  · obtain ⟨hseq, hhash, hne⟩ := commitAuditTail_sent (Option.mem_toList.mp hnew)
    rw [hseq, hhash]
    exact (h.tail hsynced).resolve_left hne

theorem truthful_start (disk : Bytes) {entries : List (AuditChainEntry fmt)}
    (hint64 : ∀ e ∈ entries, wrap64 e.seq = e.seq) :
    Truthful disk entries (WitnessState.start disk entries) := by
  unfold WitnessState.start
  cases hlast : entries.getLast? with
  | none =>
    exact ⟨rfl, rfl, ⟨[], by simp, by simp [entryLines]⟩, rfl, fun _ => .inl rfl,
      fun b hb => by cases hb⟩
  | some e =>
    have hmem := List.mem_of_getLast? hlast
    exact ⟨rfl, rfl, ⟨[], by simp, by simp [entryLines]⟩, hint64 e hmem,
      fun _ => .inr ⟨e, hmem, rfl, rfl⟩, fun b hb => by cases hb⟩

end WitnessState

/-- In every run of appends with any faults, and of commits that are made only while the last line
    that was written is synced: the number and the hash of every broadcast are those of one entry,
    and the entries are those in the file. -/
theorem witnessRun_truthful (crypto : ApiCrypto) (disk : Bytes)
    (entries : List (AuditChainEntry fmt)) (hint64 : ∀ e ∈ entries, wrap64 e.seq = e.seq)
    (ops : List (WitnessOp fmt))
    (hops : Run.Along (WitnessState.step crypto) WitnessState.CommitsSynced
      (WitnessState.start disk entries) ops) :
    let s := Run.run (WitnessState.step crypto) (WitnessState.start disk entries) ops
    (∃ new, s.entries = entries ++ new ∧ s.disk = disk ++ WitnessState.entryLines new) ∧
      ∀ b ∈ s.broadcasts, ∃ e ∈ s.entries, e.seq = b.seq ∧ e.hash = b.tailHash := by
  have htruthful : WitnessState.Truthful disk entries
      (Run.run (WitnessState.step crypto) (WitnessState.start disk entries) ops) := by
    refine hops.inv ?_ (WitnessState.truthful_start disk hint64)
    intro s op hs hop
    cases op with
    | append ev faults => exact hs.append ev faults
    | commit succeeds => exact hs.commit succeeds hop
  exact ⟨htruthful.written, htruthful.broadcasts⟩

def commitAfter (sync : Bool) : List (WitnessOp integerFloats) :=
  [.append (sampleEvent (goString "/a") []) noFaults,
    .append (sampleEvent (goString "/b") []) { noFaults with sync := sync }, .commit true]

theorem witnessRun_truthful_sample :
    (Run.run (WitnessState.step auditCrypto) (WitnessState.start [] []) (commitAfter false)).broadcasts.map
        (·.seq) = [2] ∧
      ∀ b ∈ (Run.run (WitnessState.step auditCrypto) (WitnessState.start [] [])
          (commitAfter false)).broadcasts,
        ∃ e ∈ (Run.run (WitnessState.step auditCrypto) (WitnessState.start [] [])
          (commitAfter false)).entries, e.seq = b.seq ∧ e.hash = b.tailHash := by
  have hvalues : Run.Along (WitnessState.step auditCrypto) WitnessState.CommitsSynced
        (WitnessState.start [] []) (commitAfter false) ∧
      (Run.run (WitnessState.step auditCrypto) (WitnessState.start [] [])
        (commitAfter false)).broadcasts.map (·.seq) = [2] := by
    decide +kernel
  exact ⟨hvalues.2, (witnessRun_truthful auditCrypto [] [] (by simp) _ hvalues.1).2⟩

/-- After a line that is not synced the broadcast has the number of the second entry with the hash of
    the first. -/
theorem witnessRun_mismatched :
    let s := Run.run (WitnessState.step auditCrypto) (WitnessState.start [] []) (commitAfter true)
    s.broadcasts.map (fun b => (b.seq, b.tailHash)) = [(2, Hex.encode firstDigest)] ∧
      s.entries.map (fun e => (e.seq, e.hash == Hex.encode firstDigest)) = [(1, true), (2, false)] := by
  decide +kernel

end GarudaChain.Api
