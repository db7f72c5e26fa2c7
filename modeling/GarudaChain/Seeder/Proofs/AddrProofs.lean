import GarudaChain.Seeder.Crawler

/-!
# Reading `addr` messages
-/

namespace GarudaChain.Seeder

variable (ipString : Bytes → String)

@[simp] theorem length_serializeNetAddress (a : NetAddress) : (serializeNetAddress a).length = 30 := by
  simp [serializeNetAddress, a.ip_length]

theorem parseEntry_serialize (a : NetAddress) (rest : Bytes) :
    parseEntry ipString (serializeNetAddress a ++ rest) = a.shown ipString := by
  have hip : ((serializeNetAddress a ++ rest).drop 12).take 16 = a.ip := by
    rw [serializeNetAddress, List.append_assoc, List.append_assoc, List.drop_left' (by simp),
      List.take_left' a.ip_length]
  have hport : ((serializeNetAddress a ++ rest).drop 28).take 2 = (writeLE 2 a.port.toNat).reverse := by
    rw [serializeNetAddress, List.append_assoc, List.drop_left' (by simp [a.ip_length]),
      List.take_left' (by simp)]
  simp only [parseEntry, hip, hport, List.reverse_reverse, readLE_writeLE 2 _ a.port.toNat_lt]
  rfl

theorem parseEntries_flatMap (peers : List NetAddress) (rest : Bytes) :
    parseEntries ipString peers.length (peers.flatMap serializeNetAddress ++ rest) =
      peers.map (NetAddress.shown ipString) := by
  induction peers with
  | nil => rfl
  | cons a peers ih =>
    rw [List.flatMap_cons, List.append_assoc, List.length_cons, parseEntries, if_pos (by simp),
      parseEntry_serialize, List.drop_left' (length_serializeNetAddress a), ih, List.map_cons]

theorem length_parseEntries (count : Nat) (rest : Bytes) :
    (parseEntries ipString count rest).length = min count (rest.length / 30) := by
  induction count generalizing rest with
  | zero => simp [parseEntries]
  | succ count ih =>
    rw [parseEntries]
    split
    · rw [List.length_cons, ih, List.length_drop]
      omega
    · rw [List.length_nil]
      omega

theorem length_flatMap_serialize (peers : List NetAddress) :
    (peers.flatMap serializeNetAddress).length = 30 * peers.length := by
  induction peers with
  | nil => rfl
  | cons a peers ih =>
    rw [List.flatMap_cons, List.length_append, ih, length_serializeNetAddress, List.length_cons]
    omega

theorem parseAddr_addrPayload {peers : List NetAddress} (h : peers.length ≤ 252) :
    parseAddr ipString (addrPayload peers) = peers.map (NetAddress.shown ipString) := by
  have hcount : compactSizeBytes peers.length = [UInt8.ofNat peers.length] := by
    rw [compactSizeBytes, if_pos (by omega)]
    simp [writeLE, Nat.mod_eq_of_lt (show peers.length < 256 by omega)]
  have htoNat : (UInt8.ofNat peers.length).toNat = peers.length := by
    rw [UInt8.toNat_ofNat']
    omega
  rw [addrPayload, serializeVector, hcount, List.singleton_append, parseAddr, htoNat]
  have hread := parseEntries_flatMap ipString peers []
  rwa [List.append_nil] at hread

theorem length_parseAddr_of_long {peers : List NetAddress} (h : 253 ≤ peers.length)
    (hmax : peers.length ≤ 1000) : (parseAddr ipString (addrPayload peers)).length = 253 := by
  have hcount : compactSizeBytes peers.length = 253 :: writeLE 2 peers.length := by
    rw [compactSizeBytes, if_neg (by omega), if_pos (by omega)]
  have h253 : (253 : UInt8).toNat = 253 := rfl
  rw [addrPayload, serializeVector, hcount, List.cons_append, parseAddr, length_parseEntries, h253,
    List.length_append, length_writeLE, length_flatMap_serialize]
  omega

theorem parseAddr_ne_of_long {peers : List NetAddress} (h : 253 < peers.length) (hmax : peers.length ≤ 1000) :
    parseAddr ipString (addrPayload peers) ≠ peers.map (NetAddress.shown ipString) := by
  intro heq
  have hlength := length_parseAddr_of_long ipString h.le hmax
  rw [heq, List.length_map] at hlength
  omega

theorem parseAddr_ne_nil_iff (payload : Bytes) :
    parseAddr ipString payload ≠ [] ↔ 31 ≤ payload.length ∧ payload.head? ≠ some 0 := by
  cases payload with
  | nil => simp [parseAddr]
  | cons count rest =>
    have hcount : count.toNat = 0 ↔ count = 0 := by
      rw [← UInt8.toNat_inj]
      rfl
    rw [parseAddr, ← List.length_pos_iff_ne_nil, length_parseEntries, List.length_cons, List.head?_cons,
      ne_eq, Option.some.injEq, ← hcount]
    omega

theorem getaddr_eq (conn : Bytes) :
    getaddr ipString conn =
      match firstMessage conn with
      | none => []
      | some (hdr, payload) => if payloadLength hdr > 512 * 1024 then [] else parseAddr ipString payload := by
  unfold getaddr firstMessage
  cases readFull 24 conn with
  | none => rfl
  | some r =>
    obtain ⟨hdr, rest⟩ := r
    dsimp only [Option.bind_some]
    cases readFull (payloadLength hdr) rest with
    | none => simp
    | some r => rfl

/-- The peers that `getaddr` returns come from a message with the command `addr`. -/
def FromAddr (conn : Bytes) : Prop :=
  getaddr ipString conn ≠ [] → ∃ hdr payload, firstMessage conn = some (hdr, payload) ∧ command hdr = addrCommand

/-- The next message is an `addr` message, or it is too long or has no entry in it. -/
def NextIsAddr (conn : Bytes) : Prop :=
  ∀ hdr payload, firstMessage conn = some (hdr, payload) → command hdr = addrCommand ∨
    512 * 1024 < payloadLength hdr ∨ payload.length < 31 ∨ payload.head? = some 0

theorem fromAddr_iff (conn : Bytes) : FromAddr ipString conn ↔ NextIsAddr conn := by
  unfold FromAddr NextIsAddr
  rw [getaddr_eq]
  cases firstMessage conn with
  | none => simp
  | some message =>
    obtain ⟨hdr, payload⟩ := message
    dsimp only
    have hread := parseAddr_ne_nil_iff ipString payload
    constructor
    · intro h hdr' payload' heq
      cases heq
      by_contra hnot
      push Not at hnot
      obtain ⟨hcommand, hlength, hsize, hcount⟩ := hnot
      rw [if_neg (by omega)] at h
      obtain ⟨hdr', payload', heq, hcommand'⟩ := h (hread.mpr ⟨hsize, hcount⟩)
      cases heq
      exact hcommand hcommand'
    · intro h hne
      refine ⟨hdr, payload, rfl, ?_⟩
      rcases h hdr payload rfl with hcommand | hlength | hsize | hcount
      · exact hcommand
      · rw [if_pos hlength] at hne
        exact absurd rfl hne
      · split_ifs at hne
        · exact absurd rfl hne
        · have := (hread.mp hne).1
          omega
      · split_ifs at hne
        · exact absurd rfl hne
        · exact absurd hcount (hread.mp hne).2

/-- Up to 252 peers are read as they were sent, from 254 on they are not; and `getaddr` returns peers
    only from `addr` messages exactly if no other message with an entry in it comes first. -/
theorem seeder_reads_addr :
    (∀ peers : List NetAddress, peers.length ≤ 252 →
      parseAddr ipString (addrPayload peers) = peers.map (NetAddress.shown ipString)) ∧
    (∀ peers : List NetAddress, 253 < peers.length → peers.length ≤ 1000 →
      parseAddr ipString (addrPayload peers) ≠ peers.map (NetAddress.shown ipString)) ∧
    ∀ conn, FromAddr ipString conn ↔ NextIsAddr conn :=
  ⟨fun _ h => parseAddr_addrPayload ipString h, fun _ h hmax => parseAddr_ne_of_long ipString h hmax,
    fromAddr_iff ipString⟩

def dottedQuad (ip : Bytes) : String := ".".intercalate (ip.map fun b => toString b.toNat)

def samplePeer : NetAddress := ⟨0, 1, v4InV6Prefix ++ [10, 0, 0, 1], 6300, rfl⟩

def sampleMessage (command payload : Bytes) : Bytes :=
  [0x47, 0x52, 0x44, 0x4d] ++ command ++ writeLE 4 payload.length ++ [0, 0, 0, 0] ++ payload

theorem seeder_reads_addr_sample :
    (parseAddr dottedQuad (addrPayload [samplePeer]) = [⟨"10.0.0.1", 6300⟩]) ∧
      FromAddr dottedQuad (sampleMessage addrCommand (addrPayload [samplePeer])) := by
  obtain ⟨hread, -, hfrom⟩ := seeder_reads_addr dottedQuad
  refine ⟨hread [samplePeer] (by decide), (hfrom _).mpr ?_⟩
  intro hdr payload hmessage
  left
  have hfirst : firstMessage (sampleMessage addrCommand (addrPayload [samplePeer])) =
      some ([0x47, 0x52, 0x44, 0x4d] ++ addrCommand ++ [31, 0, 0, 0, 0, 0, 0, 0], addrPayload [samplePeer]) := by
    decide
  rw [hfirst] at hmessage
  cases hmessage
  decide

def invCommand : Bytes := [0x69, 0x6e, 0x76, 0, 0, 0, 0, 0, 0, 0, 0, 0]

def invPayload : Bytes := 1 :: writeLE 4 2 ++ List.replicate 32 7

/-- A list of 254 peers is not read as it was sent, and the announcement of a block is read as a peer. -/
theorem seeder_misreads_addr :
    (parseAddr dottedQuad (addrPayload (List.replicate 254 samplePeer)) ≠
      (List.replicate 254 samplePeer).map (NetAddress.shown dottedQuad)) ∧
    ¬ FromAddr dottedQuad (sampleMessage invCommand invPayload) := by
  refine ⟨?_, ?_⟩
  · exact parseAddr_ne_of_long dottedQuad (by rw [List.length_replicate]; decide)
      (by rw [List.length_replicate]; decide)
  · intro hfrom
    obtain ⟨hdr, payload, hmessage, hcommand⟩ := hfrom (by decide)
    have hfirst : firstMessage (sampleMessage invCommand invPayload) =
        some ([0x47, 0x52, 0x44, 0x4d] ++ invCommand ++ [37, 0, 0, 0, 0, 0, 0, 0], invPayload) := by
      decide
    rw [hfirst] at hmessage
    cases hmessage
    revert hcommand
    decide

end GarudaChain.Seeder
