import CqlClient.Message.Response
import CqlClient.Proofs.Message.Request
import CqlClient.Proofs.Message.Result
import CqlClient.Proofs.Wire.SelfDelimiting

namespace CqlClient

open Reader

namespace ColumnType

/-- The bytes are read as the type if the reader may go as deep as the type is nested, which is no
deeper than the bytes are many. -/
structure Spells (taken : Bytes) (type : ColumnType) : Prop where
  levels_le : type.levels ≤ taken.length
  reads : ∀ depth, type.levels ≤ depth → Reads (readUpTo depth) taken type

theorem exists_short {bytes rest : Bytes} {id : UInt16} (h : short bytes = .ok (id, rest)) :
    ∃ front, bytes = front ++ rest ∧ 1 ≤ front.length ∧ Reads short front id := by
  obtain ⟨front, rfl, hfront⟩ := ignoresRest_short bytes id rest h
  refine ⟨front, rfl, ?_, hfront⟩
  cases front with
  | nil => exact nomatch hfront []
  | cons b front => exact Nat.le_add_left 1 front.length

/-- The number of a type, with the parts that it announces, spells a type one level deeper than the
parts. -/
theorem spells_of_parts {front back : Bytes} {type : ColumnType} {levels : Nat}
    (hfront : 1 ≤ front.length) (htype : type.levels = levels + 1) (hback : levels ≤ back.length)
    (h : ∀ depth, levels ≤ depth → Reads (readUpTo (depth + 1)) (front ++ back) type) :
    Spells (front ++ back) type where
  levels_le := by
    rw [List.length_append]
    omega
  reads depth hdepth := by
    obtain ⟨depth, rfl⟩ : ∃ less, depth = less + 1 := ⟨depth - 1, by omega⟩
    exact h depth (by omega)

section Parts

variable {front back : Bytes}

theorem spells_custom {name : String} (hfront : 1 ≤ front.length)
    (hshort : Reads short front 0x0000) (hback : Reads string back name) :
    Spells (front ++ back) (custom name) :=
  spells_of_parts hfront rfl (Nat.zero_le _) fun _ _ => hshort.bind (hback.map custom)

theorem Spells.list {element : ColumnType} (hfront : 1 ≤ front.length)
    (hshort : Reads short front 0x0020) (hback : Spells back element) :
    Spells (front ++ back) (list element) :=
  spells_of_parts hfront rfl hback.levels_le fun depth hdepth =>
    hshort.bind ((hback.reads depth hdepth).map ColumnType.list)

theorem Spells.set {element : ColumnType} (hfront : 1 ≤ front.length)
    (hshort : Reads short front 0x0022) (hback : Spells back element) :
    Spells (front ++ back) (set element) :=
  spells_of_parts hfront rfl hback.levels_le fun depth hdepth =>
    hshort.bind ((hback.reads depth hdepth).map ColumnType.set)

theorem Spells.map {key value : ColumnType} {middle : Bytes} (hfront : 1 ≤ front.length)
    (hshort : Reads short front 0x0021) (hkey : Spells middle key) (hvalue : Spells back value) :
    Spells (front ++ (middle ++ back)) (map key value) := by
  have hle : max key.levels value.levels ≤ (middle ++ back).length := by
    have := hkey.levels_le
    have := hvalue.levels_le
    rw [List.length_append]
    omega
  refine spells_of_parts hfront rfl hle fun depth hdepth => ?_
  refine hshort.bind ((hkey.reads depth (by omega)).bind ?_)
  exact (hvalue.reads depth (by omega)).map (ColumnType.map key)

theorem levels_of_simple? {id : UInt16} {type : ColumnType} (h : simple? id = some type) :
    type.levels = 1 := by
  unfold simple? at h
  split at h
  case h_17 => exact nomatch h
  all_goals
    obtain rfl := Option.some.inj h
    rfl

theorem simple?_ne {id : UInt16} {type : ColumnType} (h : simple? id = some type) :
    id ≠ 0x0000 ∧ id ≠ 0x0020 ∧ id ≠ 0x0021 ∧ id ≠ 0x0022 := by
  refine ⟨?_, ?_, ?_, ?_⟩
  all_goals
    rintro rfl
    exact nomatch h

theorem spells_simple {id : UInt16} {type : ColumnType} (hfront : 1 ≤ front.length)
    (hshort : Reads short front id) (h : simple? id = some type) : Spells front type := by
  obtain ⟨hcustom, hlist, hmap, hset⟩ := simple?_ne h
  rw [← List.append_nil front]
  refine spells_of_parts hfront (levels_of_simple? h) (Nat.zero_le _) fun depth _ => ?_
  refine hshort.bind ?_
  rw [if_neg hcustom, if_neg hlist, if_neg hmap, if_neg hset, h]
  exact reads_pure type

end Parts

theorem exists_spells_of_readUpTo {depth : Nat} {bytes rest : Bytes} {type : ColumnType}
    (h : readUpTo depth bytes = .ok (type, rest)) :
    ∃ taken, bytes = taken ++ rest ∧ Spells taken type := by
  induction depth generalizing bytes rest type with
  | zero => exact nomatch h
  | succ depth ih =>
      obtain ⟨id, between, hid, hparts⟩ := bind_eq_ok_iff.mp h
      obtain ⟨front, rfl, hfront, hshort⟩ := exists_short hid
      split at hparts
      · next hcustom =>
          obtain ⟨name, hname, rfl⟩ := map_eq_ok_iff.mp hparts
          obtain ⟨back, rfl, hback⟩ := ignoresRest_string _ _ _ hname
          exact ⟨front ++ back, (List.append_assoc ..).symm,
            spells_custom hfront (hcustom ▸ hshort) hback⟩
      split at hparts
      · next hlist =>
          obtain ⟨element, helement, rfl⟩ := map_eq_ok_iff.mp hparts
          obtain ⟨back, rfl, hback⟩ := ih helement
          exact ⟨front ++ back, (List.append_assoc ..).symm, hback.list hfront (hlist ▸ hshort)⟩
      split at hparts
      · next hmap =>
          obtain ⟨key, _, hkey, hrest⟩ := bind_eq_ok_iff.mp hparts
          obtain ⟨value, _, hvalue, htype⟩ := bind_eq_ok_iff.mp hrest
          obtain ⟨rfl, rfl⟩ := Prod.mk.inj (Except.ok.inj htype)
          obtain ⟨middle, rfl, hmiddle⟩ := ih hkey
          obtain ⟨back, rfl, hback⟩ := ih hvalue
          exact ⟨front ++ (middle ++ back), by simp only [List.append_assoc],
            hmiddle.map hfront (hmap ▸ hshort) hback⟩
      split at hparts
      · next hset =>
          obtain ⟨element, helement, rfl⟩ := map_eq_ok_iff.mp hparts
          obtain ⟨back, rfl, hback⟩ := ih helement
          exact ⟨front ++ back, (List.append_assoc ..).symm, hback.set hfront (hset ▸ hshort)⟩
      cases hsimple : simple? id with
      | none =>
          rw [hsimple] at hparts
          exact nomatch hparts
      | some simple =>
          rw [hsimple] at hparts
          obtain ⟨rfl, rfl⟩ := Prod.mk.inj (Except.ok.inj hparts)
          exact ⟨front, rfl, spells_simple hfront hshort hsimple⟩

theorem ignoresRest_read : IgnoresRest read := by
  intro bytes type rest hread
  obtain ⟨taken, rfl, htaken⟩ := exists_spells_of_readUpTo hread
  refine ⟨taken, rfl, fun others => htaken.reads _ ?_ others⟩
  have := htaken.levels_le
  rw [List.length_append]
  omega

end ColumnType

theorem TableSpec.ignoresRest_read : IgnoresRest TableSpec.read :=
  ignoresRest_string.bind fun keyspace => ignoresRest_string.bind fun table =>
    ignoresRest_pure (TableSpec.mk keyspace table)

theorem ColumnSpec.ignoresRest_read (common : Option TableSpec) :
    IgnoresRest (ColumnSpec.read common) := by
  have hrest (table : TableSpec) : IgnoresRest (do
      let name ← Reader.string
      return ⟨table, name, ← ColumnType.read⟩ : Reader ColumnSpec) :=
    ignoresRest_string.bind fun name => ColumnType.ignoresRest_read.bind fun type =>
      ignoresRest_pure (ColumnSpec.mk table name type)
  cases common with
  | none => exact TableSpec.ignoresRest_read.bind hrest
  | some table => exact (ignoresRest_pure table).bind hrest

theorem Metadata.ignoresRest_read : IgnoresRest Metadata.read := by
  refine ignoresRest_int.bind fun flags => ignoresRest_intLength.bind fun columnCount => ?_
  dsimp only
  rw [ite_bind]
  refine ignoresRest_bytes.optional.bind fun pagingState => ?_
  refine (ignoresRest_pure _).ite ?_
  rw [ite_bind]
  refine TableSpec.ignoresRest_read.optional.bind fun common => ?_
  exact ((ColumnSpec.ignoresRest_read common).many columnCount).bind fun columns =>
    ignoresRest_pure _

theorem Rows.ignoresRest_read : IgnoresRest Rows.read := by
  refine Metadata.ignoresRest_read.bind fun metadata => ignoresRest_intLength.bind fun count => ?_
  exact ((ignoresRest_bytesOpt.many metadata.columnCount).many count).bind fun rows =>
    ignoresRest_pure (Rows.mk metadata rows)

namespace Event

theorem ignoresRest_readSchema : IgnoresRest readSchema := by
  refine (ignoresRest_string.map SchemaChange.ofName).bind fun change => ?_
  exact ignoresRest_string.bind fun keyspace => ignoresRest_string.bind fun table =>
    ignoresRest_pure _

theorem ignoresRest_readChange (kind : EventType) : IgnoresRest (readChange kind) := by
  cases kind with
  | topologyChange =>
      refine ignoresRest_string.bind fun name => ignoresRest_inet.bind fun node => ?_
      split
      · exact ignoresRest_pure _
      · exact ignoresRest_refuse _
  | statusChange =>
      refine ignoresRest_string.bind fun name => ignoresRest_inet.bind fun node => ?_
      split
      · exact ignoresRest_pure _
      · exact ignoresRest_refuse _
  | schemaChange => exact ignoresRest_readSchema.bind fun names => ignoresRest_pure _

theorem ignoresRest_read : IgnoresRest read :=
  ignoresRest_string.bind fun name => (ignoresRest_lift (EventType.ofName name)).bind
    ignoresRest_readChange

end Event

theorem QueryOutcome.ignoresRest_read : IgnoresRest QueryOutcome.read := by
  refine ignoresRest_int.bind fun kind => ?_
  split
  · exact ignoresRest_pure _
  · exact Rows.ignoresRest_read.map _
  · exact ignoresRest_string.map _
  · exact ignoresRest_shortBytes.bind fun id => Metadata.ignoresRest_read.bind fun bindMarkers =>
      Metadata.ignoresRest_read.bind fun columns => ignoresRest_pure _
  · exact Event.ignoresRest_readSchema.bind fun names => ignoresRest_pure _
  · exact ignoresRest_refuse _

theorem DatabaseError.ignoresRest_readFields (code : Int32) :
    IgnoresRest (DatabaseError.readFields code) := by
  unfold DatabaseError.readFields
  split
  case h_4 => -- unavailable
    exact ignoresRest_consistency.bind fun consistency => ignoresRest_int.bind fun required =>
      ignoresRest_int.bind fun alive => ignoresRest_pure _
  case h_8 => -- writeTimeout
    exact ignoresRest_consistency.bind fun consistency => ignoresRest_int.bind fun received =>
      ignoresRest_int.bind fun required => ignoresRest_string.bind fun name => ignoresRest_pure _
  case h_9 => -- readTimeout
    exact ignoresRest_consistency.bind fun consistency => ignoresRest_int.bind fun received =>
      ignoresRest_int.bind fun required => ignoresRest_byte.bind fun data => ignoresRest_pure _
  case h_14 => -- alreadyExists
    exact ignoresRest_string.bind fun keyspace => ignoresRest_string.bind fun table =>
      ignoresRest_pure _
  case h_15 => exact ignoresRest_shortBytes.map _ -- unprepared
  all_goals exact ignoresRest_pure _

theorem ErrorReport.ignoresRest_read : IgnoresRest ErrorReport.read :=
  ignoresRest_int.bind fun code => ignoresRest_string.bind fun reason =>
    (DatabaseError.ignoresRest_readFields code).bind fun error =>
      ignoresRest_pure (ErrorReport.mk error reason)

theorem Response.ignoresRest_read (kind : ResponseOpcode) : IgnoresRest (Response.read kind) := by
  cases kind with
  | error => exact ErrorReport.ignoresRest_read.map Response.error
  | ready => exact ignoresRest_pure Response.ready
  | authenticate => exact ignoresRest_string.map Response.authenticate
  | supported => exact ignoresRest_stringListPairs.map _
  | result => exact QueryOutcome.ignoresRest_read.map Response.result
  | event => exact Event.ignoresRest_read.map Response.event
  | authChallenge => exact ignoresRest_bytesOpt.map Response.authChallenge
  | authSuccess => exact ignoresRest_bytesOpt.map Response.authSuccess

namespace QueryParameters

theorem ignoresRest_readIf {α : Type} {reader : Reader α} (flags flag : UInt8)
    (h : IgnoresRest reader) : IgnoresRest (readIf flags flag reader) :=
  h.optional

theorem ignoresRest_readFlags : IgnoresRest readFlags := by
  intro bytes value rest hread
  cases bytes with
  | nil => cases hread
  | cons flags left =>
      rw [readFlags] at hread
      split at hread
      · cases hread
      · next hknown =>
          obtain ⟨rfl, rfl⟩ := Prod.mk.inj (Except.ok.inj hread)
          exact ⟨[flags], rfl, reads_readFlags (not_not.mp hknown)⟩

theorem ignoresRest_readSerial : IgnoresRest readSerial := by
  refine ignoresRest_consistency.bind fun level => ?_
  split
  · exact ignoresRest_pure _
  · exact ignoresRest_refuse _

theorem ignoresRest_read : IgnoresRest read := by
  refine ignoresRest_consistency.bind fun consistency => ignoresRest_readFlags.bind fun flags => ?_
  refine (ignoresRest_readIf flags 0x01 ignoresRest_bytesOpt.counted).bind fun values => ?_
  refine (ignoresRest_readIf flags 0x04 ignoresRest_int).bind fun pageSize => ?_
  refine (ignoresRest_readIf flags 0x08 ignoresRest_bytes).bind fun pagingState => ?_
  exact (ignoresRest_readIf flags 0x10 ignoresRest_readSerial).bind fun level => ignoresRest_pure _

end QueryParameters

theorem Request.ignoresRest_read (kind : RequestOpcode) : IgnoresRest (Request.read kind) := by
  cases kind with
  | startup => exact ignoresRest_stringPairs.map _
  | credentials => exact ignoresRest_refuse _
  | options => exact ignoresRest_pure Request.options
  | query =>
      exact ignoresRest_longString.bind fun contents =>
        QueryParameters.ignoresRest_read.bind fun parameters => ignoresRest_pure _
  | prepare => exact ignoresRest_longString.map Request.prepare
  | execute =>
      exact ignoresRest_shortBytes.bind fun id =>
        QueryParameters.ignoresRest_read.bind fun parameters => ignoresRest_pure _
  | register =>
      refine ignoresRest_stringList.bind fun names => ?_
      exact (IgnoresRest.mapM (fun name => ignoresRest_lift (EventType.ofName name)) names).bind
        fun events => ignoresRest_pure _
  | batch => exact ignoresRest_refuse _
  | authResponse => exact ignoresRest_bytesOpt.map Request.authResponse

/-- Messages of all kinds, responses and requests, take just their own bytes: with other bytes
behind them they are read as the same message, and cut short anywhere they are refused. -/
theorem selfDelimiting_read :
    (∀ kind, SelfDelimiting (Response.read kind)) ∧ ∀ kind, SelfDelimiting (Request.read kind) :=
  ⟨fun kind => (Response.ignoresRest_read kind).selfDelimiting,
    fun kind => (Request.ignoresRest_read kind).selfDelimiting⟩

end CqlClient
