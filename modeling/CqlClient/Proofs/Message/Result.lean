import CqlClient.Message.Result
import CqlClient.Proofs.Message.Event

namespace CqlClient

open Reader

namespace ColumnType

/-- The names of custom types fit their fields. -/
def NamesFit : ColumnType → Prop
  | .custom name => (Bytes.ofString name).FitsShort
  | .list element => element.NamesFit
  | .map key value => key.NamesFit ∧ value.NamesFit
  | .set element => element.NamesFit
  | _ => True

/-- How deep types are nested, the outermost counted. -/
def levels : ColumnType → Nat
  | .list element => element.levels + 1
  | .map key value => max key.levels value.levels + 1
  | .set element => element.levels + 1
  | _ => 1

theorem write_map (key value : ColumnType) :
    (map key value).write =
      (Write.short 0x0021 ++ ·) <$> Write.concat [key.write, value.write] := by
  rw [write, Write.concat_cons, Write.concat_singleton]
  cases key.write with
  | error e => rfl
  | ok keyType =>
      cases value.write with
      | error e => rfl
      | ok valueType => exact congrArg Except.ok (List.append_assoc ..)

theorem NamesFit.succeeds_write {type : ColumnType} (h : type.NamesFit) :
    Write.Succeeds type.write := by
  induction type with
  | custom name => exact Write.succeeds_map.mpr (Write.succeeds_string.mpr h)
  | list element ih => exact Write.succeeds_map.mpr (ih h)
  | map key value ihKey ihValue =>
      rw [write_map]
      simp [ihKey h.1, ihValue h.2]
  | set element ih => exact Write.succeeds_map.mpr (ih h)
  | _ => exact Write.succeeds_ok _

theorem length_of_write_short {id : UInt16} {parts : Written} {bytes : Bytes}
    (h : (Write.short id ++ ·) <$> parts = .ok bytes) :
    ∃ back, parts = .ok back ∧ bytes.length = back.length + 2 := by
  cases parts with
  | error e => exact nomatch h
  | ok back =>
      obtain rfl := Except.ok.inj h
      refine ⟨back, rfl, ?_⟩
      rw [List.length_append, Write.short, Bytes.length_ofNat]
      exact Nat.add_comm ..

/-- The number of a type takes two bytes, so a form has more bytes than levels. -/
theorem levels_le_length {type : ColumnType} {bytes : Bytes} (h : type.write = .ok bytes) :
    type.levels ≤ bytes.length := by
  induction type generalizing bytes with
  | custom name =>
      obtain ⟨back, -, hlength⟩ := length_of_write_short h
      change 1 ≤ bytes.length
      omega
  | list element ih =>
      obtain ⟨back, hback, hlength⟩ := length_of_write_short h
      have := ih hback
      change element.levels + 1 ≤ bytes.length
      omega
  | map key value ihKey ihValue =>
      rw [write_map] at h
      obtain ⟨back, hback, hlength⟩ := length_of_write_short h
      obtain ⟨keyType, valueType, hkey, hvalue, rfl⟩ := Write.concat_cons_eq_ok_iff.mp hback
      rw [Write.concat_singleton] at hvalue
      have := ihKey hkey
      have := ihValue hvalue
      rw [List.length_append] at hlength
      change max key.levels value.levels + 1 ≤ bytes.length
      omega
  | set element ih =>
      obtain ⟨back, hback, hlength⟩ := length_of_write_short h
      have := ih hback
      change element.levels + 1 ≤ bytes.length
      omega
  | _ =>
      obtain rfl := Except.ok.inj h
      exact Nat.le_of_lt (by decide)

theorem readsBack_readUpTo {type : ColumnType} {depth : Nat} (h : type.levels ≤ depth) :
    ReadsBack (readUpTo depth) type.write type := by
  induction type generalizing depth with
  | custom name =>
      obtain ⟨more, rfl⟩ := Nat.exists_eq_add_of_le' h
      rw [write, Write.append_map_eq_concat]
      refine ReadsBack.bind (reads_short 0x0000).readsBack ?_
      rw [Write.concat_singleton]
      exact (readsBack_string name).map custom
  | list element ih =>
      obtain ⟨more, rfl⟩ := Nat.exists_eq_add_of_le' h
      rw [write, Write.append_map_eq_concat]
      refine ReadsBack.bind (reads_short 0x0020).readsBack ?_
      rw [Write.concat_singleton]
      exact (ih (Nat.le_add_left element.levels more)).map list
  | map key value ihKey ihValue =>
      obtain ⟨more, rfl⟩ := Nat.exists_eq_add_of_le' h
      have hkey : key.levels ≤ more + max key.levels value.levels := by omega
      have hvalue : value.levels ≤ more + max key.levels value.levels := by omega
      rw [write_map, Write.append_map_eq_concat]
      refine ReadsBack.bind (reads_short 0x0021).readsBack ?_
      rw [Write.concat_singleton]
      exact ReadsBack.bind (ihKey hkey) (ReadsBack.bind (ihValue hvalue) (readsBack_pure _))
  | set element ih =>
      obtain ⟨more, rfl⟩ := Nat.exists_eq_add_of_le' h
      rw [write, Write.append_map_eq_concat]
      refine ReadsBack.bind (reads_short 0x0022).readsBack ?_
      rw [Write.concat_singleton]
      exact (ih (Nat.le_add_left element.levels more)).map set
  | _ =>
      cases depth with
      | zero => contradiction
      | succ depth =>
          refine Reads.readsBack ?_
          rw [← List.append_nil (Write.short _)]
          exact (reads_short _).bind (reads_pure _)

theorem readsBack_read (type : ColumnType) : ReadsBack read type.write type := by
  intro bytes hbytes rest
  refine readsBack_readUpTo ?_ bytes hbytes rest
  have := levels_le_length hbytes
  rw [List.length_append]
  omega

theorem namesFit_of_simple? {id : UInt16} {type : ColumnType} (h : simple? id = some type) :
    type.NamesFit := by
  unfold simple? at h
  split at h
  case h_17 => exact nomatch h
  all_goals
    obtain rfl := Option.some.inj h
    exact trivial

theorem ensures_readUpTo (depth : Nat) : Ensures (readUpTo depth) NamesFit := by
  induction depth with
  | zero => exact ensures_throw _
  | succ depth ih =>
      refine (ensures_true _).bind fun id _ => ?_
      split
      · exact ensures_string.map fun name hname => hname
      split
      · exact ih.map fun element helement => helement
      split
      · exact ih.bind fun key hkey => ih.bind fun value hvalue => ensures_pure ⟨hkey, hvalue⟩
      split
      · exact ih.map fun element helement => helement
      split
      · next simple hsimple => exact ensures_pure (namesFit_of_simple? hsimple)
      · exact ensures_throw _

theorem ensures_read : Ensures read NamesFit :=
  fun bytes type rest hread => ensures_readUpTo _ bytes type rest hread

end ColumnType

namespace TableSpec

/-- The names of the keyspace and the table fit their fields. -/
structure NamesFit (spec : TableSpec) : Prop where
  keyspace : (Bytes.ofString spec.keyspace).FitsShort
  table : (Bytes.ofString spec.table).FitsShort

theorem readsBack_read (spec : TableSpec) :
    ReadsBack read (Write.concat [Write.string spec.keyspace, Write.string spec.table]) spec :=
  (readsBack_string spec.keyspace).bind ((readsBack_string spec.table).bind (readsBack_pure spec))

theorem ensures_read : Ensures read NamesFit :=
  ensures_string.bind fun _ hkeyspace => ensures_string.bind fun _ htable =>
    ensures_pure ⟨hkeyspace, htable⟩

end TableSpec

namespace ColumnSpec

/-- The names of the column and in its type fit their fields. -/
structure NamesFit (spec : ColumnSpec) : Prop where
  table : spec.table.NamesFit
  name : (Bytes.ofString spec.name).FitsShort
  type : spec.type.NamesFit

theorem NamesFit.succeeds_write {spec : ColumnSpec} (h : spec.NamesFit) :
    Write.Succeeds spec.write := by
  simp [write, h.table.keyspace, h.table.table, h.name, h.type.succeeds_write]

theorem readsBack_read (spec : ColumnSpec) : ReadsBack (read none) spec.write spec := by
  change ReadsBack _ (Write.concat (
    [Write.string spec.table.keyspace, Write.string spec.table.table] ++
    [Write.string spec.name, spec.type.write])) _
  refine ReadsBack.append (TableSpec.readsBack_read spec.table) ?_
  refine ReadsBack.bind (readsBack_string spec.name) ?_
  exact ReadsBack.bind spec.type.readsBack_read (readsBack_pure spec)

theorem ensures_read {common : Option TableSpec} (h : ∀ table ∈ common, table.NamesFit) :
    Ensures (read common) NamesFit := by
  have hrest {table : TableSpec} (htable : table.NamesFit) : Ensures (do
      let name ← Reader.string
      return ⟨table, name, ← ColumnType.read⟩) NamesFit :=
    ensures_string.bind fun name hname => ColumnType.ensures_read.bind fun type htype =>
      ensures_pure ⟨htable, hname, htype⟩
  cases common with
  | none => exact TableSpec.ensures_read.bind fun table htable => hrest htable
  | some table => exact (ensures_pure (h table rfl)).bind fun table htable => hrest htable

end ColumnSpec

namespace Metadata

/-- There are as many columns as are announced, or they are left out; lengths fit their fields. -/
structure Consistent (metadata : Metadata) : Prop where
  count : metadata.columnCount ≤ 0x7FFFFFFF
  columns : metadata.columns = [] ∨ metadata.columns.length = metadata.columnCount
  pagingState : ∀ state ∈ metadata.pagingState, Bytes.FitsInt state
  names : ∀ spec ∈ metadata.columns, spec.NamesFit

theorem Consistent.succeeds_write {metadata : Metadata} (h : metadata.Consistent) :
    Write.Succeeds metadata.write := by
  have hpaging : Write.Succeeds ((metadata.pagingState.map Write.bytes).getD (.ok [])) := by
    cases hstate : metadata.pagingState with
    | none => exact Write.succeeds_ok []
    | some state => exact Write.succeeds_bytes.mpr (h.pagingState state hstate)
  have hcolumns : ∀ spec ∈ metadata.columns, Write.Succeeds spec.write :=
    fun spec hspec => (h.names spec hspec).succeeds_write
  simpa [write, hpaging] using hcolumns

theorem flags_spec (metadata : Metadata) :
    (metadata.flags &&& morePagesFlag ≠ 0 ↔ metadata.pagingState.isSome) ∧
      (metadata.flags &&& noColumnsFlag ≠ 0 ↔ metadata.columns.isEmpty) ∧
      metadata.flags &&& globalTableFlag = 0 := by
  unfold flags
  generalize metadata.pagingState.isSome = hasState, metadata.columns.isEmpty = noColumns
  revert hasState noColumns
  decide

theorem reads_flags (flags : UInt32) :
    Reads int (Bytes.ofNat 4 flags.toNat) flags.toInt32 := by
  have h := reads_int flags.toInt32
  rwa [Write.int, UInt32.toUInt32_toInt32] at h

theorem Consistent.readsBack_read {metadata : Metadata} (h : metadata.Consistent) :
    ReadsBack read metadata.write metadata := by
  obtain ⟨hpages, hempty, hglobal⟩ := metadata.flags_spec
  rw [write, List.cons_append, Write.concat_ok_append_cons]
  refine ReadsBack.bind (reads_flags metadata.flags).readsBack ?_
  refine ReadsBack.bind (reads_intLength h.count).readsBack ?_
  rw [UInt32.toUInt32_toInt32]
  dsimp only
  rw [ite_bind]
  refine ReadsBack.bind (readsBack_optional hpages fun state _ => readsBack_bytes state) ?_
  obtain ⟨columnCount, pagingState, columns⟩ := metadata
  cases columns with
  | nil =>
      rw [if_pos (hempty.mpr rfl)]
      exact readsBack_pure _
  | cons spec columns =>
      obtain rfl : (spec :: columns).length = columnCount := h.columns.resolve_left nofun
      rw [if_neg (fun hflag => nomatch hempty.mp hflag), if_neg (not_not.mpr hglobal), pure_bind]
      exact (readsBack_many fun column _ => column.readsBack_read).map
        fun columns' => Metadata.mk (spec :: columns).length pagingState columns'

theorem ensures_read : Ensures read Consistent := by
  refine (ensures_true _).bind fun flags _ => ?_
  refine ensures_intLength.bind fun columnCount hcount => ?_
  dsimp only
  rw [ite_bind]
  refine (ensures_optional ensures_bytes).bind fun pagingState hstate => ?_
  split
  · exact ensures_pure ⟨hcount, .inl rfl, hstate, nofun⟩
  rw [ite_bind]
  refine (ensures_optional TableSpec.ensures_read).bind fun common hcommon => ?_
  refine ((ColumnSpec.ensures_read hcommon).many columnCount).bind fun columns hcolumns => ?_
  exact ensures_pure ⟨hcount, .inr hcolumns.1, hstate, hcolumns.2⟩

end Metadata

namespace Rows

/-- Each row has one cell for each column, and the numbers and lengths fit their fields. -/
structure Consistent (rows : Rows) : Prop where
  metadata : rows.metadata.Consistent
  count : rows.rows.length ≤ 0x7FFFFFFF
  cells : ∀ row ∈ rows.rows, row.length = rows.metadata.columnCount
  values : ∀ row ∈ rows.rows, ∀ cell ∈ row, ∀ value ∈ cell, Bytes.FitsInt value

theorem Consistent.succeeds_write {rows : Rows} (h : rows.Consistent) :
    Write.Succeeds rows.write := by
  have hcells : ∀ cell ∈ rows.rows.flatten, Write.Succeeds (Write.bytesOpt cell) := by
    intro cell hcell
    obtain ⟨row, hrow, hmem⟩ := List.mem_flatten.mp hcell
    exact Write.succeeds_bytesOpt.mpr (h.values row hrow cell hmem)
  rw [write, Write.succeeds_concat, List.forall_mem_cons, List.forall_mem_cons,
    List.forall_mem_map]
  exact ⟨h.metadata.succeeds_write, Write.succeeds_ok _, hcells⟩

theorem readsBack_row (row : Row) :
    ReadsBack (many bytesOpt row.length) (Write.concat (row.map Write.bytesOpt)) row :=
  readsBack_many fun cell _ => readsBack_bytesOpt cell

theorem Consistent.readsBack_read {rows : Rows} (h : rows.Consistent) :
    ReadsBack read rows.write rows := by
  refine ReadsBack.bind h.metadata.readsBack_read ?_
  refine ReadsBack.bind (reads_intLength h.count).readsBack ?_
  have hrows : ReadsBack (many (many bytesOpt rows.metadata.columnCount) rows.rows.length)
      (Write.concat (rows.rows.map fun row => Write.concat (row.map Write.bytesOpt)))
      rows.rows := by
    refine readsBack_many fun row hrow => ?_
    rw [← h.cells row hrow]
    exact readsBack_row row
  intro bytes hbytes
  rw [List.map_flatten, Write.concat_flatten_eq_ok_iff, List.map_map] at hbytes
  exact (hrows.map (Rows.mk rows.metadata)) bytes hbytes

theorem ensures_read : Ensures read Consistent := by
  refine Metadata.ensures_read.bind fun metadata hmetadata => ?_
  refine ensures_intLength.bind fun count hcount => ?_
  refine ((ensures_bytesOpt.many metadata.columnCount).many count).bind fun rows hrows => ?_
  obtain ⟨hlength, hcells⟩ := hrows
  exact ensures_pure ⟨hmetadata, hlength.symm ▸ hcount, fun row hrow => (hcells row hrow).1,
    fun row hrow => (hcells row hrow).2⟩

end Rows

namespace QueryOutcome

/-- The outcome has a wire form of its own. -/
def Consistent : QueryOutcome → Prop
  | .void => True
  | .rows data => data.Consistent
  | .setKeyspace keyspace => (Bytes.ofString keyspace).FitsShort
  | .prepared id bindMarkers columns =>
      id.FitsShort ∧ bindMarkers.Consistent ∧ columns.Consistent
  | .schemaChange _ keyspace table => Event.NamesFit keyspace table

theorem Consistent.succeeds_write {outcome : QueryOutcome} (h : outcome.Consistent) :
    Write.Succeeds outcome.write := by
  cases outcome with
  | void => exact Write.succeeds_ok _
  | rows data => exact Write.succeeds_map.mpr (Rows.Consistent.succeeds_write h)
  | setKeyspace keyspace => exact Write.succeeds_map.mpr (Write.succeeds_string.mpr h)
  | prepared id bindMarkers columns =>
      obtain ⟨hid, hmarkers, hcolumns⟩ := h
      simp [write, hid, hmarkers.succeeds_write, hcolumns.succeeds_write]
  | schemaChange change keyspace table =>
      exact Write.succeeds_map.mpr (Event.NamesFit.succeeds_writeSchema h change)

theorem Consistent.readsBack_read {outcome : QueryOutcome} (h : outcome.Consistent) :
    ReadsBack read outcome.write outcome := by
  cases outcome with
  | void =>
      refine Reads.readsBack ?_
      rw [← List.append_nil (Write.int 1)]
      exact (reads_int 1).bind (reads_pure _)
  | rows data =>
      rw [write, Write.append_map_eq_concat]
      refine ReadsBack.bind (reads_int 2).readsBack ?_
      rw [Write.concat_singleton]
      exact (Rows.Consistent.readsBack_read h).map rows
  | setKeyspace keyspace =>
      rw [write, Write.append_map_eq_concat]
      refine ReadsBack.bind (reads_int 3).readsBack ?_
      rw [Write.concat_singleton]
      exact (readsBack_string keyspace).map setKeyspace
  | prepared id bindMarkers columns =>
      obtain ⟨hid, hmarkers, hcolumns⟩ := h
      rw [write, Write.append_map_eq_concat]
      refine ReadsBack.bind (reads_int 4).readsBack ?_
      rw [Write.concat_singleton]
      refine ReadsBack.bind (readsBack_shortBytes id) ?_
      refine ReadsBack.bind hmarkers.readsBack_read ?_
      exact ReadsBack.bind hcolumns.readsBack_read (readsBack_pure _)
  | schemaChange change keyspace table =>
      rw [write, Write.append_map_eq_concat]
      refine ReadsBack.bind (reads_int 5).readsBack ?_
      exact ReadsBack.bind (Event.NamesFit.readsBack_readSchema h change) (readsBack_pure _)

theorem ensures_read : Ensures read Consistent := by
  refine (ensures_true _).bind fun kind _ => ?_
  split
  · exact ensures_pure trivial
  · exact Rows.ensures_read.map fun data hdata => hdata
  · exact ensures_string.map fun keyspace hkeyspace => hkeyspace
  · refine ensures_shortBytes.bind fun id hid => ?_
    refine Metadata.ensures_read.bind fun bindMarkers hmarkers => ?_
    exact Metadata.ensures_read.bind fun columns hcolumns =>
      ensures_pure ⟨hid, hmarkers, hcolumns⟩
  · exact Event.ensures_readSchema.bind fun names hnames => ensures_pure hnames
  · exact ensures_refuse _

end QueryOutcome

end CqlClient
