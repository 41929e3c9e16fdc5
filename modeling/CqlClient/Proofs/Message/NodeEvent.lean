import CqlClient.Proofs.Message.Event
import CqlClient.Proofs.Wire.Canonical

namespace CqlClient

open Reader

namespace Endpoint

/-- The number of four bytes that has a given upper half and the port as its lower half. -/
def portNumber (port high : UInt16) : Nat := high.toNat * 0x10000 + port.toNat

theorem portNumber_lt (port high : UInt16) : portNumber port high < Nat.pow 256 4 := by
  have hhigh : high.toNat < 0x10000 := high.toNat_lt
  have hlow : port.toNat < 0x10000 := port.toNat_lt
  have hpow : Nat.pow 256 4 = 0x10000 * 0x10000 := rfl
  rw [portNumber]
  omega

@[simp]
theorem portNumber_zero (port : UInt16) : portNumber port 0 = port.toNat := by
  simp [portNumber]

theorem ofNat_portNumber (port high : UInt16) : UInt16.ofNat (portNumber port high) = port := by
  rw [← UInt16.toNat_inj, UInt16.toNat_ofNat', portNumber, Nat.mul_add_mod_of_lt port.toNat_lt]

/-- The bytes of an address with a given upper half of the port's four bytes. -/
def spelling (node : Endpoint) (high : UInt16) : Bytes :=
  Write.byte (UInt8.ofNat node.ip.toBytes.length) ++ node.ip.toBytes ++
    Bytes.ofNat 4 (portNumber node.port high)

theorem spelling_zero (node : Endpoint) : node.spelling 0 = Write.inet node := by
  rw [spelling, portNumber_zero, Write.inet]

theorem spelling_inj {node : Endpoint} {high high' : UInt16} :
    node.spelling high = node.spelling high' ↔ high = high' := by
  refine ⟨fun h => ?_, congrArg _⟩
  have hsame := congrArg Bytes.toNat (List.append_cancel_left h)
  rw [Bytes.toNat_ofNat, Bytes.toNat_ofNat, Nat.mod_eq_of_lt (portNumber_lt _ _),
    Nat.mod_eq_of_lt (portNumber_lt _ _), portNumber, portNumber] at hsame
  rw [← UInt16.toNat_inj]
  omega

end Endpoint

namespace Reader

theorem exists_high_of_int {bytes rest : Bytes} {number : Int32}
    (h : int bytes = .ok (number, rest)) : ∃ high,
      bytes = Bytes.ofNat 4
        (Endpoint.portNumber (UInt16.ofNat number.toUInt32.toNat) high) ++ rest := by
  obtain ⟨value, hfixed, rfl⟩ := map_eq_ok_iff.mp h
  obtain ⟨rfl, hlt⟩ := eq_append_of_fixed hfixed
  have hhigh : value / 0x10000 < 0x10000 := Nat.div_lt_of_lt_mul hlt
  refine ⟨UInt16.ofNat (value / 0x10000), ?_⟩
  rw [UInt32.toUInt32_toInt32, UInt32.toNat_ofNat_of_lt' hlt, Endpoint.portNumber,
    UInt16.toNat_ofNat_of_lt' hhigh, UInt16.toNat_ofNat', Nat.div_add_mod']

theorem exists_high_of_address {n : Nat} {ofOctets : Octets n → IpAddress} {bytes rest : Bytes}
    {node : Endpoint}
    (h : (ofOctets <$> octets n >>= fun ip => do
      return ⟨ip, UInt16.ofNat (← int).toUInt32.toNat⟩ : Reader Endpoint) bytes =
        .ok (node, rest)) :
    ∃ address : Octets n, node.ip = ofOctets address ∧ ∃ high,
      bytes = address.val ++ (Bytes.ofNat 4 (Endpoint.portNumber node.port high) ++ rest) := by
  obtain ⟨ip, behindIp, hip, hport⟩ := bind_eq_ok_iff.mp h
  obtain ⟨address, haddress, rfl⟩ := map_eq_ok_iff.mp hip
  obtain ⟨number, left, hnumber, hnode⟩ := bind_eq_ok_iff.mp hport
  obtain ⟨rfl, rfl⟩ := Prod.mk.inj (Except.ok.inj hnode)
  obtain ⟨high, rfl⟩ := exists_high_of_int hnumber
  exact ⟨address, rfl, high, eq_append_of_octets haddress⟩

theorem inet_eq_ok_iff {bytes rest : Bytes} {node : Endpoint} :
    inet bytes = .ok (node, rest) ↔ ∃ high, bytes = node.spelling high ++ rest := by
  constructor
  · intro hread
    obtain ⟨size, behindSize, hsize, haddress⟩ := bind_eq_ok_iff.mp hread
    obtain rfl := eq_append_of_byte hsize
    simp only [Endpoint.spelling, List.append_assoc]
    -- The size that was read is that of the address, so nothing but the port is left to spell.
    split at haddress
    · next hfour =>
        obtain ⟨address, hip, high, rfl⟩ := exists_high_of_address haddress
        rw [hip, hfour, IpAddress.toBytes, address.property]
        exact ⟨high, rfl⟩
    split at haddress
    · next hsixteen =>
        obtain ⟨address, hip, high, rfl⟩ := exists_high_of_address haddress
        rw [hip, hsixteen, IpAddress.toBytes, address.property]
        exact ⟨high, rfl⟩
    · obtain ⟨ip, left, hrefused, -⟩ := bind_eq_ok_iff.mp haddress
      cases hrefused
  · rintro ⟨high, rfl⟩
    have hreads := reads_address node.ip (Endpoint.portNumber_lt node.port high)
    rw [Endpoint.ofNat_portNumber] at hreads
    exact hreads rest

end Reader

theorem EventType.eq_name_of_ofName {text : String} {kind : EventType}
    (h : ofName text = .ok kind) : text = kind.name := by
  unfold ofName at h
  split at h
  · next found hfound =>
      obtain rfl := Except.ok.inj h
      unfold ofName? at hfound
      split at hfound <;> cases hfound <;> rfl
  · exact nomatch h

theorem TopologyChange.eq_name_of_ofName? {text : String} {change : TopologyChange}
    (h : ofName? text = some change) : text = change.name := by
  unfold ofName? at h
  split at h <;> cases h <;> rfl

theorem StatusChange.eq_name_of_ofName? {text : String} {change : StatusChange}
    (h : ofName? text = some change) : text = change.name := by
  unfold ofName? at h
  split at h <;> cases h <;> rfl

namespace Event

/-- The node that an event is about, unless it is about the schema. -/
def node? : Event → Option Endpoint
  | .topology _ node => some node
  | .status _ node => some node
  | .schema .. => none

def changeName : Event → String
  | .topology change _ => change.name
  | .status change _ => change.name
  | .schema change _ _ => change.name

/-- The bytes of an event about a node with a given upper half of the port. -/
def spelling (event : Event) (node : Endpoint) (high : UInt16) : Bytes :=
  Bytes.ofText event.eventType.name ++ (Bytes.ofText event.changeName ++ node.spelling high)

theorem fits_changeName (event : Event) : (Bytes.ofString event.changeName).FitsShort := by
  cases event with
  | topology change node => exact change.fits_name
  | status change node => exact change.fits_name
  | schema change keyspace table => exact change.fits_name

variable {event : Event} {node : Endpoint} {bytes rest : Bytes}

theorem change_eq_ok_iff {make : String → Endpoint → Reader Event}
    (hmake : ∀ text found left, make text found left = .ok (event, rest) ↔
      text = event.changeName ∧ found = node ∧ left = rest) :
    (do make (← string) (← inet) : Reader Event) bytes = .ok (event, rest) ↔
      ∃ high, bytes = Bytes.ofText event.changeName ++ (node.spelling high ++ rest) := by
  constructor
  · intro hread
    obtain ⟨text, behindText, htext, hnode⟩ := bind_eq_ok_iff.mp hread
    obtain ⟨found, left, hinet, hevent⟩ := bind_eq_ok_iff.mp hnode
    obtain ⟨-, rfl⟩ := string_eq_ok_iff.mp htext
    obtain ⟨high, rfl⟩ := inet_eq_ok_iff.mp hinet
    obtain ⟨rfl, rfl, rfl⟩ := (hmake text found left).mp hevent
    exact ⟨high, rfl⟩
  · rintro ⟨high, rfl⟩
    refine bind_eq_ok_iff.mpr ⟨_, _, string_eq_ok_iff.mpr ⟨event.fits_changeName, rfl⟩, ?_⟩
    refine bind_eq_ok_iff.mpr ⟨node, rest, inet_eq_ok_iff.mpr ⟨high, rfl⟩, ?_⟩
    exact (hmake _ _ _).mpr ⟨rfl, rfl, rfl⟩

theorem readChange_eq_ok_iff (hnode : event.node? = some node) :
    readChange event.eventType bytes = .ok (event, rest) ↔
      ∃ high, bytes = Bytes.ofText event.changeName ++ (node.spelling high ++ rest) := by
  cases event with
  | topology change subject =>
      obtain rfl := Option.some.inj hnode
      refine change_eq_ok_iff fun text found left => ⟨fun hmade => ?_, ?_⟩
      · cases hknown : TopologyChange.ofName? text with
        | none =>
            rw [hknown] at hmade
            exact nomatch hmade
        | some known =>
            rw [hknown] at hmade
            obtain ⟨hsame, rfl⟩ := Prod.mk.inj (Except.ok.inj hmade)
            obtain ⟨rfl, rfl⟩ := topology.inj hsame
            exact ⟨TopologyChange.eq_name_of_ofName? hknown, rfl, rfl⟩
      · rintro ⟨rfl, rfl, rfl⟩
        rw [changeName, change.ofName?_name]
        rfl
  | status change subject =>
      obtain rfl := Option.some.inj hnode
      refine change_eq_ok_iff fun text found left => ⟨fun hmade => ?_, ?_⟩
      · cases hknown : StatusChange.ofName? text with
        | none =>
            rw [hknown] at hmade
            exact nomatch hmade
        | some known =>
            rw [hknown] at hmade
            obtain ⟨hsame, rfl⟩ := Prod.mk.inj (Except.ok.inj hmade)
            obtain ⟨rfl, rfl⟩ := status.inj hsame
            exact ⟨StatusChange.eq_name_of_ofName? hknown, rfl, rfl⟩
      · rintro ⟨rfl, rfl, rfl⟩
        rw [changeName, change.ofName?_name]
        rfl
  | schema change keyspace table => exact nomatch hnode

theorem ensures_eventType (kind : EventType) :
    Ensures (readChange kind) fun event => event.eventType = kind := by
  cases kind with
  | topologyChange =>
      refine (ensures_true _).bind fun name _ => (ensures_true _).bind fun node _ => ?_
      split
      · exact ensures_pure rfl
      · exact ensures_refuse _
  | statusChange =>
      refine (ensures_true _).bind fun name _ => (ensures_true _).bind fun node _ => ?_
      split
      · exact ensures_pure rfl
      · exact ensures_refuse _
  | schemaChange => exact (ensures_true _).bind fun names _ => ensures_pure rfl

/-- An event about a node is read from its spellings and from nothing else. -/
theorem read_eq_ok_iff_spelling (hnode : event.node? = some node) :
    read bytes = .ok (event, rest) ↔ ∃ high, bytes = event.spelling node high ++ rest := by
  simp only [spelling, List.append_assoc]
  constructor
  · intro hread
    obtain ⟨text, behindText, htext, hkind⟩ := bind_eq_ok_iff.mp hread
    obtain ⟨kind, left, hofName, hchange⟩ := bind_eq_ok_iff.mp hkind
    obtain ⟨-, rfl⟩ := string_eq_ok_iff.mp htext
    obtain ⟨known, hknown, hsame⟩ := Except.exists_of_bind_eq_ok hofName
    obtain ⟨rfl, rfl⟩ := Prod.mk.inj (Except.ok.inj hsame)
    obtain rfl := EventType.eq_name_of_ofName hknown
    obtain rfl := ensures_eventType known _ event rest hchange
    obtain ⟨high, rfl⟩ := (readChange_eq_ok_iff hnode).mp hchange
    exact ⟨high, rfl⟩
  · rintro ⟨high, rfl⟩
    have hkind : EventType.ofName event.eventType.name = .ok event.eventType := by
      rw [EventType.ofName, EventType.ofName?_name]
    refine bind_eq_ok_iff.mpr
      ⟨_, _, string_eq_ok_iff.mpr ⟨event.eventType.fits_name, rfl⟩, ?_⟩
    rw [hkind]
    exact (readChange_eq_ok_iff hnode).mpr ⟨high, rfl⟩

theorem write_eq_ok_spelling (hnode : event.node? = some node) :
    event.write = .ok (event.spelling node 0) := by
  have hkind := Write.string_eq_ok event.eventType.fits_name
  have hchange := Write.string_eq_ok event.fits_changeName
  have hbehind : (· ++ Write.inet node) <$> Write.string event.changeName =
      .ok (Bytes.ofText event.changeName ++ node.spelling 0) := by
    rw [hchange, node.spelling_zero]
    rfl
  refine Write.concat_cons_eq_ok_iff.mpr ⟨_, _, hkind, ?_, rfl⟩
  rw [Write.concat_singleton]
  cases event with
  | topology change subject =>
      obtain rfl := Option.some.inj hnode
      exact hbehind
  | status change subject =>
      obtain rfl := Option.some.inj hnode
      exact hbehind
  | schema change keyspace table => exact nomatch hnode

/-- An event about a node is read from its spellings and from nothing else, and the one that is
written has zeros in the upper half of the port. -/
theorem spelling_iff (hnode : event.node? = some node) :
    (read bytes = .ok (event, rest) ↔ ∃ high, bytes = event.spelling node high ++ rest) ∧
      ∀ high, event.write = .ok (event.spelling node high) ↔ high = 0 := by
  refine ⟨read_eq_ok_iff_spelling hnode, fun high => ?_⟩
  rw [write_eq_ok_spelling hnode, Except.ok.injEq, spelling, spelling, List.append_cancel_left_eq,
    List.append_cancel_left_eq, Endpoint.spelling_inj, eq_comm]

def joined : Event := .topology .newNode ⟨.ofOctets 10 0 0 1, 9042⟩

theorem spelling_iff_joined :
    let plain := Bytes.ofText "TOPOLOGY_CHANGE" ++ Bytes.ofText "NEW_NODE" ++
      [4, 10, 0, 0, 1, 0, 0, 0x23, 0x52]
    let wide := Bytes.ofText "TOPOLOGY_CHANGE" ++ Bytes.ofText "NEW_NODE" ++
      [4, 10, 0, 0, 1, 0, 1, 0x23, 0x52]
    read plain = .ok (joined, []) ∧ read wide = .ok (joined, []) ∧
      joined.write = .ok plain ∧ joined.write ≠ .ok wide := by
  intro plain wide
  have hnode : joined.node? = some ⟨.ofOctets 10 0 0 1, 9042⟩ := rfl
  have hplain : plain = joined.spelling ⟨.ofOctets 10 0 0 1, 9042⟩ 0 := by decide +kernel
  have hwide : wide = joined.spelling ⟨.ofOctets 10 0 0 1, 9042⟩ 1 := by decide +kernel
  have hread (high : UInt16) :
      read (joined.spelling ⟨.ofOctets 10 0 0 1, 9042⟩ high) = .ok (joined, []) :=
    (spelling_iff hnode).1.mpr ⟨high, (List.append_nil _).symm⟩
  have hwrite := (@spelling_iff joined _ [] [] hnode).2
  rw [hplain, hwide]
  refine ⟨hread 0, hread 1, (hwrite 0).mpr rfl, fun hsame => ?_⟩
  exact absurd ((hwrite 1).mp hsame) (by decide)

/-- A port that has more than two bytes is read as the port of another node. -/
theorem not_write_read : ¬ ∀ bytes event node rest, event.node? = some node →
    read bytes = .ok (event, rest) → ∃ taken, event.write = .ok taken ∧ bytes = taken ++ rest := by
  intro h
  let wide := Bytes.ofText "TOPOLOGY_CHANGE" ++ Bytes.ofText "NEW_NODE" ++
    [4, 10, 0, 0, 1, 0, 1, 0x23, 0x52]
  have hread : read wide = .ok (joined, []) := by decide +kernel
  obtain ⟨taken, hwrite, hsame⟩ := h wide joined _ [] rfl hread
  rw [List.append_nil] at hsame
  subst hsame
  exact absurd hwrite (by decide +kernel)

end Event

end CqlClient
