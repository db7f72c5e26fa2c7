import GarudaChain.Api.AuditChain
import GarudaChain.Api.Proofs.AdminSigProofs
import GarudaChain.Lib.HashChain

/-!
# What the audit chain proves about a file

A file that is accepted is a hash chain, and the text that is hashed ends with the hash before it, so
the last hash fixes all entries.
-/

namespace GarudaChain.Api

open Json (FloatFormat GoValue Tree)

variable {fmt : FloatFormat}

/-- The text of an entry up to the value of `prev_hash`. -/
def AuditChainEntry.head (e : AuditChainEntry fmt) (metaMembers : List (GoString × Tree)) : Bytes :=
  0x7b :: (Json.quote (goString "seq") ++ 0x3a :: (Decimal.format e.seq ++
    (Json.memberBytes ((e.fields metaMembers).drop 1) ++
      0x2c :: (Json.quote (goString "prev_hash") ++ [0x3a]))))

theorem AuditChainEntry.getLast_head (e : AuditChainEntry fmt) (ms : List (GoString × Tree)) :
    (e.head ms).getLast? = some 0x3a := by
  simp [AuditChainEntry.head, List.getLast?_cons, List.getLast?_append]

def hashKey : Bytes := 0x2c :: (Json.quote (goString "hash") ++ [0x3a])

theorem getLast_hashKey : hashKey.getLast? = some 0x3a := by decide

/-- The end of the text of an entry, from the comma before `hash` on. -/
def hashBytes (hash : GoString) : Bytes := hashKey ++ (Json.quote hash ++ [0x7d])

/-- The text of an entry up to the comma before `hash`. -/
def AuditChainEntry.front (e : AuditChainEntry fmt) : Option Bytes :=
  (Json.mapTree fmt e.metaMap).map fun metaMembers => e.head metaMembers ++ Json.quote e.prevHash

theorem AuditChainEntry.marshal_eq (e : AuditChainEntry fmt) :
    e.marshal = e.front.map (· ++ hashBytes e.hash) := by
  rw [AuditChainEntry.marshal, AuditChainEntry.tree, AuditChainEntry.front, Option.map_map,
    Option.map_map]
  congr 1
  funext metaMembers
  have hfields : e.fields metaMembers = (goString "seq", Tree.num (Decimal.format e.seq)) ::
      (e.fields metaMembers).drop 1 := rfl
  rw [Function.comp_apply, hfields, List.cons_append, Json.write, Json.writeMembers_append]
  simp only [Json.writeMembers, Json.write, AuditChainEntry.head, hashBytes, hashKey,
    Function.comp_apply, List.append_assoc, List.cons_append, List.nil_append]

theorem AuditChainEntry.body_eq (e : AuditChainEntry fmt) :
    e.body = e.front.map (· ++ hashBytes []) :=
  AuditChainEntry.marshal_eq { e with hash := [] }

theorem marshal_eq_iff_body_eq {e e' : AuditChainEntry fmt} (h : e.hash = e'.hash) :
    e.marshal = e'.marshal ↔ e.body = e'.body := by
  have hinj : ∀ t : Bytes, Function.Injective (Option.map (· ++ t)) := fun t =>
    Option.map_injective (List.append_left_injective t)
  rw [AuditChainEntry.marshal_eq, AuditChainEntry.marshal_eq, AuditChainEntry.body_eq,
    AuditChainEntry.body_eq, h, (hinj _).eq_iff, (hinj _).eq_iff]

theorem plain_nil : Json.Plain [] := by decide

theorem plain_emptyHash : Json.Plain emptyHash := by decide

theorem plain_hexDigits : ∀ b : UInt8, Json.Plain [Hex.digit (b / 16), Hex.digit (b % 16)] :=
  Hex.forall_byte (by decide +kernel)

theorem plain_encode (bytes : Bytes) : Json.Plain (Hex.encode bytes) := by
  intro c hc
  obtain ⟨b, -, hb⟩ := List.mem_flatMap.mp hc
  exact plain_hexDigits b c hb

theorem hashes_of_marshal {e e' : AuditChainEntry fmt} {line : Bytes} (he : e.marshal = some line)
    (he' : e'.marshal = some line) (hprev : Json.Plain e.prevHash) (hhash : Json.Plain e.hash) :
    e'.prevHash = e.prevHash ∧ e'.hash = e.hash := by
  rw [AuditChainEntry.marshal_eq, AuditChainEntry.front, Option.map_map] at he he'
  obtain ⟨ms, -, hline⟩ := Option.map_eq_some_iff.mp he
  obtain ⟨ms', -, hline'⟩ := Option.map_eq_some_iff.mp he'
  rw [← hline', Function.comp_apply, Function.comp_apply, hashBytes, hashBytes,
    ← List.append_assoc, ← List.append_assoc, ← List.append_assoc, ← List.append_assoc] at hline
  obtain ⟨hfront, hhash'⟩ := Json.quote_unique hhash
    (by rw [List.getLast?_append, getLast_hashKey, Option.some_or]; decide)
    (List.append_cancel_right hline)
  obtain ⟨-, hprev'⟩ := Json.quote_unique hprev
    (by rw [AuditChainEntry.getLast_head]; decide) (List.append_cancel_right hfront)
  exact ⟨hprev', hhash'⟩

def MapWritable (e : AuditChainEntry fmt) : Prop :=
  ∀ p ∈ Json.memberTrees fmt e.metaMap, ∃ t, p.2 = some t

theorem decodeMap_writable {old ms : List (GoString × GoValue fmt.Float)} {t : Tree}
    (h : decodeMap old t = some ms)
    (hold : ∀ p ∈ Json.memberTrees fmt old, ∃ t, p.2 = some t) :
    ∀ p ∈ Json.memberTrees fmt ms, ∃ t, p.2 = some t := by
  cases t with
  | null =>
    cases h
    simp [Json.memberTrees]
  | obj ts =>
    obtain ⟨vs, hvs, rfl⟩ := Option.map_eq_some_iff.mp h
    intro p hp
    rw [Json.memberTrees_append] at hp
    rcases List.mem_append.mp hp with hp | hp
    · exact hold p hp
    · exact Json.memberTrees_isSome_of_ofMembers ts hvs p hp
  | bool | num | str | arr => cases h

theorem decodeMember_writable {e e' : AuditChainEntry fmt} {m : GoString × Tree}
    (h : decodeMember e m = some e') (he : MapWritable e) : MapWritable e' := by
  rw [decodeMember] at h
  cases hfield : matchField m.1 with
  | none =>
    rw [hfield] at h
    cases h
    exact he
  | some field =>
    rw [hfield] at h
    cases field with
    | metaMap =>
      obtain ⟨ms, hms, rfl⟩ := Option.map_eq_some_iff.mp h
      exact decodeMap_writable hms he
    | seq | time | event | ip | path | actor | result | prevHash | hash =>
      obtain ⟨_, -, rfl⟩ := Option.map_eq_some_iff.mp h
      exact he

variable {ms : List (GoString × Tree)} {crypto : ApiCrypto}

theorem decodeMembers_writable {e' : AuditChainEntry fmt} :
    ∀ {e : AuditChainEntry fmt}, decodeMembers ms e = some e' → MapWritable e → MapWritable e' := by
  induction ms with
  | nil =>
    intro e h he
    cases h
    exact he
  | cons m ms ih =>
    intro e h he
    cases hm : decodeMember e m with
    | none => simp [decodeMembers, hm] at h
    | some e₁ =>
      simp only [decodeMembers, hm] at h
      exact ih h (decodeMember_writable hm he)

theorem unmarshalEntry_body {line : GoString} {e : AuditChainEntry fmt}
    (h : unmarshalEntry line = some e) : ∃ b, e.body = some b := by
  have hzero : MapWritable (AuditChainEntry.zero : AuditChainEntry fmt) := by
    intro p hp
    simp [AuditChainEntry.zero, Json.memberTrees] at hp
  have hwritable : MapWritable e := by
    rw [unmarshalEntry] at h
    split at h
    · exact decodeMembers_writable h hzero
    · cases h
      exact hzero
    · cases h
  obtain ⟨ts, hts⟩ := Json.mapTree_isSome hwritable
  exact ⟨_, by rw [AuditChainEntry.body_eq, AuditChainEntry.front, hts, Option.map_some,
    Option.map_some]⟩

theorem decodeMembers_append (ms ms' : List (GoString × Tree)) : ∀ e : AuditChainEntry fmt,
    decodeMembers (ms ++ ms') e = (decodeMembers ms e).bind (decodeMembers ms') := by
  induction ms with
  | nil => exact fun _ => rfl
  | cons m ms ih =>
    intro e
    rw [List.cons_append, decodeMembers, decodeMembers]
    cases decodeMember e m with
    | none => rfl
    | some e => exact ih e

theorem matchField_seq : matchField (goString "seq") = some .seq := by rfl
theorem matchField_time : matchField (goString "time") = some .time := by rfl
theorem matchField_event : matchField (goString "event") = some .event := by rfl
theorem matchField_ip : matchField (goString "ip") = some .ip := by rfl
theorem matchField_path : matchField (goString "path") = some .path := by rfl
theorem matchField_actor : matchField (goString "actor") = some .actor := by rfl
theorem matchField_result : matchField (goString "result") = some .result := by rfl
theorem matchField_meta : matchField (goString "meta") = some .metaMap := by rfl
theorem matchField_prevHash : matchField (goString "prev_hash") = some .prevHash := by rfl
theorem matchField_hash : matchField (goString "hash") = some .hash := by rfl

theorem decodeInt64_format (old n : Int) :
    decodeInt64 old (.num (Decimal.format (wrap64 n))) = some (wrap64 n) := by
  obtain ⟨hlo, hhi⟩ := Int64Lib.wrap64_range n
  rw [decodeInt64, Decimal.parse_format]
  exact Option.filter_some_pos (by simp only [Bool.and_eq_true, decide_eq_true_eq]; omega)

theorem decodeMembers_actor (e' : AuditChainEntry fmt) (actor : GoString) (h : e'.actor = []) :
    decodeMembers (if actor.isEmpty then [] else [(goString "actor", Tree.str actor)]) e' =
      some { e' with actor } := by
  cases actor with
  | nil =>
    cases e'
    cases h
    rfl
  | cons b actor =>
    simp only [List.isEmpty_cons, Bool.false_eq_true, if_false, decodeMembers, decodeMember,
      matchField_actor, decodeString, Option.map_some]

theorem decodeMembers_meta (e' : AuditChainEntry fmt) (h : e'.metaMap = []) {vs : List (GoString × GoValue fmt.Float)}
    (hvs : Json.ofMembers fmt ms = some vs) :
    decodeMembers (if ms.isEmpty then [] else [(goString "meta", Tree.obj ms)]) e' =
      some { e' with metaMap := vs } := by
  cases ms with
  | nil =>
    cases e'
    cases h
    cases hvs
    rfl
  | cons m ms =>
    simp only [List.isEmpty_cons, Bool.false_eq_true, if_false, decodeMembers, decodeMember,
      matchField_meta, decodeMap, hvs, h, List.nil_append, Option.map_some]

def AuditChainEntry.members (e : AuditChainEntry fmt) (ms : List (GoString × Tree)) :
    List (GoString × Tree) :=
  e.fields ms ++ [(goString "prev_hash", .str e.prevHash), (goString "hash", .str e.hash)]

def AuditChainEntry.strings (e : AuditChainEntry fmt) : List GoString :=
  [e.time, e.event, e.ip, e.path, e.actor, e.result, e.prevHash, e.hash]

theorem decodeMembers_members {e : AuditChainEntry fmt} {n : Int} (hseq : e.seq = wrap64 n) {vs : List (GoString × GoValue fmt.Float)}
    (hvs : Json.ofMembers fmt ms = some vs) :
    decodeMembers (e.members ms) .zero = some { e with metaMap := vs } := by
  have hfirst : decodeMembers [(goString "seq", .num (Decimal.format e.seq)),
      (goString "time", .str e.time), (goString "event", .str e.event),
      (goString "ip", .str e.ip), (goString "path", .str e.path)] .zero =
      some (⟨e.seq, e.time, e.event, e.ip, e.path, [], [], [], [], []⟩ : AuditChainEntry fmt) := by
    simp only [decodeMembers, decodeMember, matchField_seq, matchField_time, matchField_event,
      matchField_ip, matchField_path, hseq, decodeInt64_format, decodeString, Option.map_some,
      AuditChainEntry.zero]
  rw [AuditChainEntry.members, AuditChainEntry.fields]
  simp only [decodeMembers_append]
  rw [hfirst, Option.bind_some, decodeMembers_actor _ _ rfl, Option.bind_some]
  simp only [decodeMembers, decodeMember, matchField_result, decodeString, Option.map_some,
    Option.bind_some, matchField_prevHash, matchField_hash]
  rw [decodeMembers_meta _ rfl hvs, Option.bind_some]

theorem AuditChainEntry.members_spec {e : AuditChainEntry fmt}
    {p : GoString × Tree} (hp : p ∈ e.members ms) :
    Utf8.Ascii p.1 ∧ (p.2 = .num (Decimal.format e.seq) ∨ p.2 = .obj ms ∨
      ∃ s ∈ e.strings, p.2 = .str s) := by
  have hnames : ∀ name ∈ ["seq", "time", "event", "ip", "path", "actor", "result", "meta",
      "prev_hash", "hash"], Utf8.Ascii (goString name) := by decide
  have hif : ∀ {c : Bool} {x : GoString × Tree}, (p ∈ if c then [] else [x]) → p = x := by
    intro c x h
    cases c with
    | true => cases h
    | false => exact List.mem_singleton.mp h
  simp only [AuditChainEntry.members, AuditChainEntry.fields, List.mem_append, List.mem_cons,
    List.not_mem_nil, or_false] at hp
  rcases hp with ((((rfl | rfl | rfl | rfl | rfl) | hp) | rfl) | hp) | rfl | rfl
  · exact ⟨hnames "seq" (by simp), .inl rfl⟩
  · exact ⟨hnames "time" (by simp), .inr (.inr ⟨e.time, by simp [strings], rfl⟩)⟩
  · exact ⟨hnames "event" (by simp), .inr (.inr ⟨e.event, by simp [strings], rfl⟩)⟩
  · exact ⟨hnames "ip" (by simp), .inr (.inr ⟨e.ip, by simp [strings], rfl⟩)⟩
  · exact ⟨hnames "path" (by simp), .inr (.inr ⟨e.path, by simp [strings], rfl⟩)⟩
  · rw [hif hp]
    exact ⟨hnames "actor" (by simp), .inr (.inr ⟨e.actor, by simp [strings], rfl⟩)⟩
  · exact ⟨hnames "result" (by simp), .inr (.inr ⟨e.result, by simp [strings], rfl⟩)⟩
  · rw [hif hp]
    exact ⟨hnames "meta" (by simp), .inr (.inl rfl)⟩
  · exact ⟨hnames "prev_hash" (by simp), .inr (.inr ⟨e.prevHash, by simp [strings], rfl⟩)⟩
  · exact ⟨hnames "hash" (by simp), .inr (.inr ⟨e.hash, by simp [strings], rfl⟩)⟩

structure FaithfulEvent (ev : AuditEvent fmt) : Prop where
  strings : ∀ s ∈ [ev.time, ev.event, ev.ip, ev.path, ev.actor, ev.result], Utf8.IsUtf8 s
  metaMap : Json.FaithfulMembers fmt (Json.maxNestingDepth - 2) ev.metaMap

def AuditEvent.entry (ev : AuditEvent fmt) (seq : Int) (prevHash hash : GoString) :
    AuditChainEntry fmt :=
  ⟨seq, ev.time, ev.event, ev.ip, ev.path, ev.actor, ev.result, ev.metaMap, prevHash, hash⟩

theorem FaithfulEvent.readable {ev : AuditEvent fmt} (h : FaithfulEvent ev) (seq : Int)
    {prevHash hash : GoString} (hprev : Utf8.IsUtf8 prevHash) (hhash : Utf8.IsUtf8 hash) (hms : Json.mapTree fmt ev.metaMap = some ms) :
    Json.Readable Json.maxNestingDepth (.obj ((ev.entry seq prevHash hash).members ms)) := by
  have hall := Json.FaithfulMembers.memberTrees ev.metaMap h.metaMap
  have hmembers : Json.ReadableMembers (Json.maxNestingDepth - 2) ms :=
    Json.readableMembers_iff.mpr fun p hp => by
      obtain ⟨hk, hread, -⟩ := hall p.1 p.2 ((Json.mapTree_spec hms).2 p hp)
      exact ⟨hk, hread⟩
  have hstrings : ∀ s ∈ (ev.entry seq prevHash hash).strings, Utf8.IsUtf8 s := by
    intro s hs
    rcases List.mem_append.mp
      (show s ∈ [ev.time, ev.event, ev.ip, ev.path, ev.actor, ev.result] ++ [prevHash, hash] from hs)
      with hs | hs
    · exact h.strings s hs
    · simp only [List.mem_cons, List.not_mem_nil, or_false] at hs
      rcases hs with rfl | rfl
      · exact hprev
      · exact hhash
  refine ⟨by decide, Json.readableMembers_iff.mpr fun p hp => ?_⟩
  obtain ⟨hkey, hvalue⟩ := AuditChainEntry.members_spec hp
  refine ⟨Utf8.isUtf8_of_ascii hkey, ?_⟩
  rcases hvalue with hseq | hobj | ⟨s, hs, hstr⟩
  · rw [hseq]
    exact Decimal.isNumber_format seq
  · rw [hobj]
    exact ⟨by decide, hmembers⟩
  · rw [hstr]
    exact hstrings s hs

theorem AuditEvent.marshal_entry {ev : AuditEvent fmt} {vs : List (GoString × GoValue fmt.Float)}
    (h : Json.mapTree fmt vs = Json.mapTree fmt ev.metaMap) (seq : Int) (prevHash hash : GoString) :
    (AuditEvent.entry { ev with metaMap := vs } seq prevHash hash).marshal =
      (ev.entry seq prevHash hash).marshal := by
  rw [AuditChainEntry.marshal, AuditChainEntry.marshal, AuditChainEntry.tree, AuditChainEntry.tree,
    AuditEvent.entry, AuditEvent.entry, h]
  rfl

theorem mapTree_ofMembers {vs : List (GoString × GoValue fmt.Float)} {depth : Nat}
    (h : Json.FaithfulMembers fmt depth vs)
    (hms : Json.mapTree fmt vs = some ms) :
    ∃ vs', Json.ofMembers fmt ms = some vs' ∧ Json.mapTree fmt vs' = some ms := by
  obtain ⟨hsorted, hmem⟩ := Json.mapTree_spec hms
  have hsettled : Json.SettledMembers fmt ms := Json.settledMembers_iff.mpr fun p hp =>
    (Json.FaithfulMembers.memberTrees vs h p.1 p.2 (hmem p hp)).2.2
  obtain ⟨vs', hof, hto⟩ := Json.memberTrees_ofMembers ms hsettled
  have hsort : SortedMap.sort Json.keyRank (ms.map fun p => (p.1, some p.2)) =
      ms.map fun p => (p.1, some p.2) :=
    SortedMap.sort_of_sorted (hsorted.of_keys (by simp))
  exact ⟨vs', hof, by rw [Json.mapTree, hto, hsort, Json.allValues_map_some]⟩

theorem FaithfulEvent.unmarshal {ev : AuditEvent fmt} (h : FaithfulEvent ev) (n : Int)
    {prevHash hash : GoString} (hprev : Utf8.IsUtf8 prevHash) (hhash : Utf8.IsUtf8 hash)
    {line : Bytes} (hline : (ev.entry (wrap64 n) prevHash hash).marshal = some line) :
    ∃ ev' : AuditEvent fmt, unmarshalEntry line = some (ev'.entry (wrap64 n) prevHash hash) ∧
      ∀ seq prevHash hash, (ev'.entry seq prevHash hash).marshal =
        (ev.entry seq prevHash hash).marshal := by
  obtain ⟨tree, htree, rfl⟩ := Option.map_eq_some_iff.mp hline
  obtain ⟨ms, hms, rfl⟩ := Option.map_eq_some_iff.mp htree
  obtain ⟨vs, hof, hvs⟩ := mapTree_ofMembers h.metaMap hms
  refine ⟨{ ev with metaMap := vs }, ?_, AuditEvent.marshal_entry (hvs.trans hms.symm)⟩
  have hparse := Json.parse_write (h.readable (wrap64 n) hprev hhash hms)
  rw [AuditChainEntry.members] at hparse
  rw [unmarshalEntry, hparse]
  exact decodeMembers_members rfl hof

def lineEntries (fmt : FloatFormat) (lines : List GoString) : List (AuditChainEntry fmt) :=
  (lines.filter fun line => !line.isEmpty).filterMap unmarshalEntry

def auditEntries (fmt : FloatFormat) (file : Bytes) : List (AuditChainEntry fmt) :=
  lineEntries fmt (scanLines file).1

def IsSealed (crypto : ApiCrypto) (e : AuditChainEntry fmt) : Prop :=
  ∃ b, e.body = some b ∧ e.hash = Hex.encode (crypto.sha256 b)

theorem verifyLines_linked {lines : List GoString} :
    ∀ {prev : GoString} {n m : Nat}, verifyLines fmt crypto lines prev n = (m, none) →
      HashChain.Linked (·.prevHash) (·.hash) prev (lineEntries fmt lines) ∧
        ∀ e ∈ lineEntries fmt lines, IsSealed crypto e := by
  induction lines with
  | nil =>
    intro prev n m h
    exact ⟨trivial, by simp [lineEntries]⟩
  | cons line lines ih =>
    intro prev n m h
    by_cases hempty : line.isEmpty
    · simp only [verifyLines, hempty, if_true] at h
      simpa [lineEntries, hempty] using ih h
    · simp only [verifyLines, hempty, Bool.false_eq_true, if_false] at h
      cases he : (unmarshalEntry line : Option (AuditChainEntry fmt)) with
      | none => simp [he] at h
      | some e =>
        have hentries : lineEntries fmt (line :: lines) = e :: lineEntries fmt lines := by
          simp [lineEntries, hempty, he]
        simp only [he] at h
        by_cases hprev : e.prevHash = prev
        · by_cases hhash : computeEntryHash crypto e = e.hash
          · simp only [hprev, hhash, ne_eq, not_true_eq_false, if_false] at h
            obtain ⟨hlinked, hsealed⟩ := ih h
            rw [hentries]
            refine ⟨⟨hprev, hlinked⟩, fun e' he' => ?_⟩
            rcases List.mem_cons.mp he' with rfl | he'
            · obtain ⟨b, hb⟩ := unmarshalEntry_body he
              exact ⟨b, hb, by rw [← hhash, computeEntryHash, hb]⟩
            · exact hsealed e' he'
          · simp [hprev, hhash] at h
        · simp [hprev] at h

theorem verifyAuditChain_linked {file : Bytes}
    (h : (verifyAuditChain fmt crypto file).2 = none) :
    HashChain.Linked (·.prevHash) (·.hash) emptyHash (auditEntries fmt file) ∧
      ∀ e ∈ auditEntries fmt file, IsSealed crypto e := by
  rcases hscan : scanLines file with ⟨lines, tooLong⟩
  rcases hlines : verifyLines fmt crypto lines emptyHash 0 with ⟨n, err⟩
  have hnone : err = none := by
    cases err with
    | none => rfl
    | some err => simp [verifyAuditChain, hscan, hlines] at h
  rw [hnone] at hlines
  rw [auditEntries, hscan]
  exact verifyLines_linked hlines

def NoCollision (crypto : ApiCrypto) (es es' : List (AuditChainEntry fmt)) : Prop :=
  ∀ e ∈ es, ∀ e' ∈ es', e.body.map crypto.sha256 = e'.body.map crypto.sha256 → e.body = e'.body

def NoStart (crypto : ApiCrypto) (es : List (AuditChainEntry fmt)) : Prop :=
  ∀ e ∈ es, computeEntryHash crypto e ≠ emptyHash

instance (crypto : ApiCrypto) (es es' : List (AuditChainEntry fmt)) :
    Decidable (NoCollision crypto es es') :=
  inferInstanceAs (Decidable (∀ e ∈ es, ∀ e' ∈ es',
    e.body.map crypto.sha256 = e'.body.map crypto.sha256 → e.body = e'.body))

instance (crypto : ApiCrypto) (es : List (AuditChainEntry fmt)) : Decidable (NoStart crypto es) :=
  inferInstanceAs (Decidable (∀ e ∈ es, computeEntryHash crypto e ≠ emptyHash))

theorem IsSealed.plain_hash {e : AuditChainEntry fmt}
    (he : IsSealed crypto e) : Json.Plain e.hash := by
  obtain ⟨b, -, hhash⟩ := he
  rw [hhash]
  exact plain_encode _

theorem IsSealed.hash_ne {e : AuditChainEntry fmt} (he : IsSealed crypto e)
    (h : computeEntryHash crypto e ≠ emptyHash) : e.hash ≠ emptyHash := by
  obtain ⟨b, hb, hhash⟩ := he
  rw [computeEntryHash, hb] at h
  rw [hhash]
  exact h

theorem same_marshals {file file' : Bytes}
    (hfile : (verifyAuditChain fmt crypto file).2 = none)
    (hfile' : (verifyAuditChain fmt crypto file').2 = none)
    (hcollision : NoCollision crypto (auditEntries fmt file) (auditEntries fmt file'))
    (hstart : NoStart crypto (auditEntries fmt file))
    (hstart' : NoStart crypto (auditEntries fmt file'))
    (hlast : (auditEntries fmt file).getLast?.map (·.hash) =
      (auditEntries fmt file').getLast?.map (·.hash)) :
    (auditEntries fmt file).map (·.marshal) = (auditEntries fmt file').map (·.marshal) := by
  obtain ⟨hlinked, hsealed⟩ := verifyAuditChain_linked hfile
  obtain ⟨hlinked', hsealed'⟩ := verifyAuditChain_linked hfile'
  have hprev : ∀ e ∈ auditEntries fmt file, Json.Plain e.prevHash :=
    hlinked.prev_of plain_emptyHash fun e he => (hsealed e he).plain_hash
  refine hlinked.same_bodies hlinked' ?_ (fun e he => (hsealed e he).hash_ne (hstart e he))
    (fun e he => (hsealed' e he).hash_ne (hstart' e he)) ?_
  · intro e he e' he' hhash
    obtain ⟨b, hb, heq⟩ := hsealed e he
    obtain ⟨b', hb', heq'⟩ := hsealed' e' he'
    have hdigest : crypto.sha256 b = crypto.sha256 b' :=
      Hex.encode_injective (heq.symm.trans (hhash.trans heq'))
    have hbody : e.body = e'.body :=
      hcollision e he e' he' (by rw [hb, hb', Option.map_some, Option.map_some, hdigest])
    exact ⟨(marshal_eq_iff_body_eq hhash).mpr hbody,
      (hashes_of_marshal hb (hbody.symm.trans hb) (hprev e he) plain_nil).1.symm⟩
  · rw [HashChain.tip_eq_getLast, HashChain.tip_eq_getLast, hlast]

/-- Tamper evidence: beside a file that is accepted, any file that ends with the same hash holds the
    same entries or is reported. -/
theorem auditChain_tamperEvident (fmt : FloatFormat) (crypto : ApiCrypto) (file file' : Bytes)
    (hfile : (verifyAuditChain fmt crypto file).2 = none)
    (hcollision : NoCollision crypto (auditEntries fmt file) (auditEntries fmt file'))
    (hstart : NoStart crypto (auditEntries fmt file))
    (hstart' : NoStart crypto (auditEntries fmt file'))
    (hlast : (auditEntries fmt file).getLast?.map (·.hash) =
      (auditEntries fmt file').getLast?.map (·.hash)) :
    ((verifyAuditChain fmt crypto file').2 = none →
      (auditEntries fmt file).map (·.marshal) = (auditEntries fmt file').map (·.marshal)) ∧
    ((auditEntries fmt file).map (·.marshal) ≠ (auditEntries fmt file').map (·.marshal) →
      ∃ err, (verifyAuditChain fmt crypto file').2 = some err) := by
  have hsame : (verifyAuditChain fmt crypto file').2 = none →
      (auditEntries fmt file).map (·.marshal) = (auditEntries fmt file').map (·.marshal) :=
    fun hfile' => same_marshals hfile hfile' hcollision hstart hstart' hlast
  refine ⟨hsame, fun hne => ?_⟩
  cases herr : (verifyAuditChain fmt crypto file').2 with
  | none => exact absurd (hsame herr) hne
  | some err => exact ⟨err, rfl⟩

/-- The integer that is read as a `float64`: between `2 ^ 53` and `2 ^ 54` only even ones are, and an
    odd one is read as the neighbour that is a multiple of four. -/
def nearestDouble (n : Int) : Option Int :=
  if n.natAbs ≤ 9007199254740992 then some n
  else if 18014398509481984 < n.natAbs then none
  else if n % 2 = 0 then some n
  else if n % 4 = 1 then some (n - 1)
  else some (n + 1)

theorem nearestDouble_even {x : Int} (hrange : x.natAbs ≤ 18014398509481984) (heven : x % 2 = 0) :
    nearestDouble x = some x := by
  rw [nearestDouble, if_neg (by omega : ¬ 18014398509481984 < x.natAbs), if_pos heven, ite_self]

theorem nearestDouble_idem {n x : Int} (h : nearestDouble n = some x) :
    nearestDouble x = some x := by
  rw [nearestDouble] at h
  split_ifs at h with hsmall hlarge heven hmod
  · cases h
    exact if_pos hsmall
  all_goals
    cases h
    exact nearestDouble_even (by omega) (by omega)

/-- Floating point numbers on the integers up to `2 ^ 54`. -/
def integerFloats : FloatFormat where
  Float := Int
  format x := if nearestDouble x = some x then some (Decimal.format x) else none
  parse lit := (Decimal.parse lit).bind nearestDouble
  format_of_parse lit x h := by
    obtain ⟨n, -, hx⟩ := Option.bind_eq_some_iff.mp h
    exact ⟨_, if_pos (nearestDouble_idem hx)⟩
  isNumber_format x lit h := by
    split at h
    · cases h
      exact Decimal.isNumber_format x
    · cases h
  parse_format x lit h := by
    split at h
    case isTrue hx =>
      cases h
      rw [Decimal.parse_format, Option.bind_some, hx]
    case isFalse => cases h
  format_parse_int n hn := by
    have hself : nearestDouble n = some n := if_pos hn
    exact ⟨n, by rw [Decimal.parse_format, Option.bind_some, hself], if_pos hself⟩

def sampleEvent (path : GoString) (metaMap : List (GoString × GoValue Int)) :
    AuditEvent integerFloats :=
  ⟨goString "2026-04-13T09:20:00Z", goString "mint", goString "::1", path, [], goString "ok",
    metaMap⟩

/-- The text that is hashed for an event of the samples. -/
def hashedText (seq : Int) (path : GoString) (metaMap : List (GoString × GoValue Int))
    (prevHash : GoString) : Bytes :=
  (((sampleEvent path metaMap).entry seq prevHash []).body).getD []

def firstDigest : Bytes :=
  digestBytes 0x7abb0c119eaa4d1f9100c9501449afd0a70668c5b438dd22a113626deb47c3aa

def oddInteger : Int := 9007199254740993

def auditDigests : List (Bytes × Bytes) :=
  [(hashedText 1 (goString "/a") [] emptyHash, firstDigest),
    (hashedText 2 (goString "/b") [] (Hex.encode firstDigest),
      digestBytes 0xa96dacfc878612b8bd6736050cfbf2e12baa01e46e27ac136826bcd82e221ab0),
    (hashedText 2 (goString "/b") [] emptyHash,
      digestBytes 0xf1680b2ed8b1ef1bd2e8eca48a9595015f97fdf8b315fae4fd3ae44c2223a4b3),
    (hashedText 1 [0xff] [] emptyHash,
      digestBytes 0xca8650ff6510097f2d3702c3ea129a4329e6c159d39b6bb4d81ad4417407f98d),
    (hashedText 1 [0xef, 0xbf, 0xbd] [] emptyHash,
      digestBytes 0x41087432ac75f5643df53a67863fe83e6b26cf4f78d5b4de6713f8c29219707f),
    (hashedText 1 (goString "/a") [(goString "n", .int oddInteger)] emptyHash,
      digestBytes 0x8a97c7fbfeb4670e9b83ed6b67c4ff07b7f3b0d0bd9b55c6b9009459f5561372),
    (hashedText 1 (goString "/a") [(goString "n", .int (oddInteger - 1))] emptyHash,
      digestBytes 0xc9d13fc42b8fc1d85891df01e7502d437901dbccdcc95f2f13f453d6190f9292),
    (hashedText 1 (goString "/a") [(goString "n", .int 7)] emptyHash,
      digestBytes 0x8fbc1d9a660cdc675bf382912cd91d14a36d9ec0b2f0382fa12183b52418ae32)]

def auditCrypto : ApiCrypto where
  sha256 text := (auditDigests.lookup text).getD (List.replicate 32 0xff)
  hmac _ _ := []

def noFaults : AppendFaults := ⟨false, false, false, false⟩

/-- The chain after it was opened on an empty file. -/
def freshChain : AuditChain := ⟨true, emptyHash, 0, true, 0, false⟩

def sampleRows : Bytes :=
  let (disk, chain) :=
    appendAuditChain auditCrypto (sampleEvent (goString "/a") []) noFaults [] freshChain
  (appendAuditChain auditCrypto (sampleEvent (goString "/b") []) noFaults disk chain).1

def secondRow : Bytes := sampleRows.drop 245

theorem sampleRows_spec :
    let entries := auditEntries integerFloats sampleRows
    let entries' := auditEntries integerFloats secondRow
    (verifyAuditChain integerFloats auditCrypto sampleRows).2 = none ∧
      NoCollision auditCrypto entries entries' ∧ NoStart auditCrypto entries ∧
      NoStart auditCrypto entries' ∧
      entries.getLast?.map (·.hash) = entries'.getLast?.map (·.hash) ∧
      entries.map (·.marshal) ≠ entries'.map (·.marshal) := by
  decide +kernel

theorem auditChain_tamperEvident_deletion :
    (verifyAuditChain integerFloats auditCrypto sampleRows).2 = none ∧
      ∃ err, (verifyAuditChain integerFloats auditCrypto secondRow).2 = some err := by
  obtain ⟨hrows, hcollision, hstart, hstart', hlast, hne⟩ := sampleRows_spec
  exact ⟨hrows, (auditChain_tamperEvident integerFloats auditCrypto sampleRows secondRow hrows
    hcollision hstart hstart' hlast).2 hne⟩

end GarudaChain.Api
