import GarudaChain.Lib.DnsMessage
import GarudaChain.Seeder.Dns

/-!
# Replies of the DNS server
-/

namespace GarudaChain.Seeder

open DnsMessage (nameBytes ValidName questionBytes recordBytes replyBytes)

theorem readParts_eq {fuel : Nat} : ∀ {data rest : Bytes} {parts : List Bytes}, data.length ≤ fuel →
    readParts fuel data = some (parts, rest) → rest ≠ [] → data = nameBytes parts ++ rest := by
  induction fuel with
  | zero =>
    intro data rest parts hfuel h hrest
    cases h
    exact absurd (List.length_eq_zero_iff.mp (by omega)) hrest
  | succ fuel ih =>
    intro data rest parts hfuel h hrest
    cases data with
    | nil =>
      cases h
      exact absurd rfl hrest
    | cons l data =>
      rw [readParts] at h
      split_ifs at h with hzero hshort
      · cases h
        rw [hzero]
        rfl
      · obtain ⟨⟨parts', rest'⟩, hread, heq⟩ := Option.map_eq_some_iff.mp h
        cases heq
        have hdata := ih (by rw [List.length_drop]; simp at hfuel; omega) hread hrest
        have hlength : (data.take l.toNat).length = l.toNat := by
          rw [List.length_take]
          omega
        have hbyte : DnsMessage.toBytes 1 l.toNat = [l] := by simp [DnsMessage.toBytes]
        rw [DnsMessage.nameBytes_cons, hlength, hbyte, List.append_assoc, List.append_assoc, ← hdata,
          List.take_append_drop]
        rfl

def wireQuestion (parts : List Bytes) (q : Question) : DnsMessage.Question := ⟨parts, q.qtype, q.qclass⟩

theorem toBytes_two (b1 b0 : UInt8) : DnsMessage.toBytes 2 (b1.toNat * 256 + b0.toNat) = [b1, b0] := by
  have h1 := b1.toNat_lt
  have h0 := b0.toNat_lt
  have hhigh : (b1.toNat * 256 + b0.toNat) / 256 ^ 1 = b1.toNat := by omega
  have hlow : UInt8.ofNat ((b1.toNat * 256 + b0.toNat) / 256 ^ 0) = b0 := by
    rw [← UInt8.toNat_inj, UInt8.toNat_ofNat']
    omega
  rw [DnsMessage.toBytes, DnsMessage.toBytes, DnsMessage.toBytes, hhigh, hlow, UInt8.ofNat_toNat]

theorem parseQuestion_eq {data rest : Bytes} {parts : List Bytes} {q : Question}
    (hq : parseQuestion data = some q) (hparts : readParts data.length data = some (parts, rest)) :
    q.name = dottedName parts ∧ q.qtype < 2 ^ 16 ∧ q.qclass < 2 ^ 16 ∧
      q.stop = (questionBytes (wireQuestion parts q)).length ∧
      data.take q.stop = questionBytes (wireQuestion parts q) := by
  rw [parseQuestion, hparts, Option.bind_some] at hq
  dsimp only at hq
  split at hq
  · rename_i t1 t0 c1 c0 tail
    have hq := Option.some.inj hq
    have hdata : data = questionBytes (wireQuestion parts q) ++ tail := by
      rw [readParts_eq (le_refl _) hparts (by simp), ← hq]
      simp [questionBytes, wireQuestion, toBytes_two]
    have hstop : q.stop = (questionBytes (wireQuestion parts q)).length := by
      have hlength := congrArg List.length hdata
      rw [List.length_append] at hlength
      rw [← hq] at hlength ⊢
      dsimp only at hlength ⊢
      omega
    refine ⟨by rw [← hq], ?_, ?_, hstop, ?_⟩
    · have ht1 := t1.toNat_lt
      have ht0 := t0.toNat_lt
      rw [← hq]
      dsimp only
      omega
    · have hc1 := c1.toNat_lt
      have hc0 := c0.toNat_lt
      rw [← hq]
      dsimp only
      omega
    · rw [hdata, hstop, List.take_left' rfl]
  · cases hq

theorem encodeName_dottedName {parts : List Bytes} (hne : parts ≠ []) (hdots : ∀ p ∈ parts, dot ∉ p) :
    encodeName (dottedName parts) = nameBytes parts := by
  have htrim : trimDot (dottedName parts) = [dot].intercalate parts := by
    rw [trimDot, dottedName, List.getLast?_concat, if_pos rfl, List.dropLast_concat]
  rw [encodeName, htrim, List.splitOn_intercalate dot hdots hne]
  rfl

theorem length_to4 {ip ip4 : Bytes} (h : to4 ip = some ip4) : ip4.length = 4 := by
  unfold to4 at h
  split_ifs at h with h4 h16
  · cases h
    exact h4
  · cases h
    rw [List.length_drop, h16.1]

theorem length_to16 {ip ip6 : Bytes} (h : to16 ip = some ip6) : ip6.length = 16 := by
  unfold to16 at h
  split_ifs at h with h4 h16
  · cases h
    rw [List.length_append, h4]
    rfl
  · cases h
    exact h16

def dataLength (qtype : Nat) : Nat := if qtype = 28 then 16 else 4

theorem recordOf_bounds {qtype rtype : Nat} {ip rdata : Bytes} (h : recordOf qtype ip = some (rtype, rdata)) :
    rtype < 2 ^ 16 ∧ rdata.length = dataLength qtype := by
  unfold recordOf at h
  split_ifs at h with ha haaaa
  · obtain ⟨ip4, hip4, heq⟩ := Option.map_eq_some_iff.mp h
    cases heq
    exact ⟨by decide, by rw [length_to4 hip4, dataLength, if_neg (by omega)]⟩
  · split at h
    · rename_i ip6 hip6 _
      cases h
      exact ⟨by decide, by rw [length_to16 hip6, dataLength, if_pos haaaa]⟩
    · cases h

def wireRecords (parts : List Bytes) (qtype : Nat) (nodes : List Bytes) : List DnsMessage.Record :=
  ((nodes.filterMap (recordOf qtype)).take maxAnswers).map fun r => ⟨parts, r.1, 1, 30, r.2⟩

theorem collectAnswers_eq (qname : Bytes) (qtype : Nat) (nodes : List Bytes) : ∀ added,
    collectAnswers qname qtype added nodes =
      ((nodes.filterMap (recordOf qtype)).take (maxAnswers - added)).map fun r => buildRR qname r.1 30 r.2 := by
  induction nodes with
  | nil => intro added; simp [collectAnswers]
  | cons ip nodes ih =>
    intro added
    rw [collectAnswers]
    split_ifs with hfull
    · rw [Nat.sub_eq_zero_of_le hfull, List.take_zero, List.map_nil]
    · cases hrecord : recordOf qtype ip with
      | none => rw [List.filterMap_cons_none hrecord]; exact ih added
      | some r =>
        have hsub : maxAnswers - added = (maxAnswers - (added + 1)) + 1 := by omega
        rw [List.filterMap_cons_some hrecord, hsub, List.take_succ_cons, List.map_cons, ← ih (added + 1)]

theorem buildRR_eq {parts : List Bytes} (hne : parts ≠ []) (hdots : ∀ p ∈ parts, dot ∉ p) (rtype : Nat)
    (rdata : Bytes) :
    buildRR (dottedName parts) rtype 30 rdata = recordBytes ⟨parts, rtype, 1, 30, rdata⟩ := by
  simp [buildRR, recordBytes, encodeName_dottedName hne hdots, bytes16, DnsMessage.toBytes]

theorem validRecord_of_mem {parts : List Bytes} (hname : ValidName parts) {qtype : Nat} {nodes : List Bytes}
    {r : DnsMessage.Record} (hr : r ∈ wireRecords parts qtype nodes) :
    DnsMessage.ValidRecord r ∧ r.owner = parts ∧
      (recordBytes r).length = (nameBytes parts).length + 10 + dataLength qtype := by
  obtain ⟨⟨rtype, rdata⟩, hmem, rfl⟩ := List.mem_map.mp hr
  obtain ⟨ip, -, hrecord⟩ := List.mem_filterMap.mp (List.mem_of_mem_take hmem)
  obtain ⟨htype, hlength⟩ := recordOf_bounds hrecord
  have hdata : dataLength qtype ≤ 16 := by
    unfold dataLength
    split_ifs <;> omega
  refine ⟨⟨hname, htype, show 1 < 2 ^ 16 by decide, show 30 < 2 ^ 32 by decide, ?_⟩, rfl, ?_⟩
  · rw [hlength]
    omega
  · simp [recordBytes, hlength]
    omega

section

variable (toLower : Bytes → Bytes) (host : Bytes) (nodes : List Bytes)

def replyRecords (parts : List Bytes) (q : Question) : List DnsMessage.Record :=
  if fqdn toLower q.name = host then wireRecords parts q.qtype nodes else []

/-- The name is legal, it can be read back from its text if there are answers, and all of it fits. -/
structure Answerable (parts : List Bytes) (q : Question) : Prop where
  name : ValidName parts
  text : replyRecords toLower host nodes parts q ≠ [] → parts ≠ [] ∧ ∀ p ∈ parts, dot ∉ p
  fits : 12 + ((nameBytes parts).length + 4) + (replyRecords toLower host nodes parts q).length *
    ((nameBytes parts).length + 10 + dataLength q.qtype) ≤ 512

variable {toLower host nodes} {pkt rest : Bytes} {parts : List Bytes} {q : Question}

theorem replyRecords_spec (hname : ValidName parts) {r : DnsMessage.Record}
    (hr : r ∈ replyRecords toLower host nodes parts q) : DnsMessage.ValidRecord r ∧ r.owner = parts ∧
      (recordBytes r).length = (nameBytes parts).length + 10 + dataLength q.qtype := by
  unfold replyRecords at hr
  split_ifs at hr
  · exact validRecord_of_mem hname hr
  · cases hr

theorem length_replyRecords_le : (replyRecords toLower host nodes parts q).length ≤ maxAnswers := by
  unfold replyRecords wireRecords
  split_ifs
  · rw [List.length_map, List.length_take]
    exact min_le_left _ _
  · exact Nat.zero_le _

theorem buildResponse_eq (txid flags question : Bytes) (records : List DnsMessage.Record)
    (hquestion : question = questionBytes (wireQuestion parts q)) :
    buildResponse txid flags [0, 1] question (records.map recordBytes) =
      replyBytes txid flags (wireQuestion parts q) records := by
  simp [buildResponse, replyBytes, bytes16, DnsMessage.toBytes, hquestion, List.flatMap_def]

theorem answers_eq (hq : q.name = dottedName parts) (h : Answerable toLower host nodes parts q)
    (hhost : fqdn toLower q.name = host) :
    collectAnswers q.name q.qtype 0 nodes = (replyRecords toLower host nodes parts q).map recordBytes := by
  have hrecords : replyRecords toLower host nodes parts q = wireRecords parts q.qtype nodes := if_pos hhost
  rw [collectAnswers_eq, hrecords, wireRecords, List.map_map, Nat.sub_zero]
  refine List.map_congr_left ?_
  intro r hr
  have hsome : replyRecords toLower host nodes parts q ≠ [] := by
    rw [hrecords, wireRecords, ne_eq, List.map_eq_nil_iff]
    exact List.ne_nil_of_mem hr
  obtain ⟨hne, hdots⟩ := h.text hsome
  rw [hq]
  exact buildRR_eq hne hdots r.1 r.2

theorem handle_eq (hone : (pkt.drop 4).take 2 = [0, 1]) (hq : parseQuestion (pkt.drop 12) = some q)
    (hparts : readParts (pkt.drop 12).length (pkt.drop 12) = some (parts, rest))
    (h : Answerable toLower host nodes parts q) :
    ∃ flags : Bytes, flags.length = 2 ∧ (pkt.take 2).length = 2 ∧ handle toLower host nodes pkt =
      some (replyBytes (pkt.take 2) flags (wireQuestion parts q) (replyRecords toLower host nodes parts q)) := by
  obtain ⟨hname, -, -, -, hquestion⟩ := parseQuestion_eq hq hparts
  have hlength : ¬ pkt.length < 12 := by
    intro hlt
    rw [List.drop_eq_nil_of_le hlt.le] at hq
    cases hq
  have htxid : (pkt.take 2).length = 2 := by
    rw [List.length_take]
    omega
  unfold handle
  rw [if_neg hlength, hq]
  simp only [Option.map_some, hone]
  by_cases hhost : fqdn toLower q.name = host
  · refine ⟨[0x84 ||| (pkt.getD 2 0 &&& 0x01), 0x00], rfl, htxid, ?_⟩
    rw [if_neg (not_not.mpr hhost), answers_eq hname h hhost, buildResponse_eq _ _ _ _ hquestion]
  · refine ⟨[0x84 ||| (pkt.getD 2 0 &&& 0x01), 0x03], rfl, htxid, ?_⟩
    have hnone : replyRecords toLower host nodes parts q = [] := if_neg hhost
    rw [if_pos hhost, hnone, ← buildResponse_eq _ _ _ [] hquestion]
    rfl

theorem length_flatMap_records {records : List DnsMessage.Record} {size : Nat}
    (h : ∀ r ∈ records, (recordBytes r).length = size) :
    (records.flatMap recordBytes).length = records.length * size := by
  induction records with
  | nil => simp
  | cons r records ih =>
    obtain ⟨hr, hrecords⟩ := List.forall_mem_cons.mp h
    rw [List.flatMap_cons, List.length_append, hr, ih hrecords, List.length_cons, Nat.succ_mul, Nat.add_comm]

end

def asciiLower (s : Bytes) : Bytes := s.map fun b => if 0x41 ≤ b ∧ b ≤ 0x5a then b + 0x20 else b

def ascii (s : String) : Bytes := s.toUTF8.toList

def seedParts : List Bytes := [ascii "seed", ascii "garudachain", ascii "org"]

def queryFor (parts : List Bytes) : Bytes :=
  [0xab, 0xcd, 1, 0, 0, 1, 0, 0, 0, 0, 0, 0] ++ questionBytes ⟨parts, 1, 1⟩

def seedHost : Bytes := newHost asciiLower (ascii "seed.garudachain.org")

def sampleNode : Bytes := v4InV6Prefix ++ [10, 0, 0, 1]

end GarudaChain.Seeder
