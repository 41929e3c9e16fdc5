import CqlClient.Message.Event

namespace CqlClient

/-- Type of a column. -/
inductive ColumnType
  | custom (name : String)
  | ascii
  | bigint
  | blob
  | boolean
  | counter
  | decimal
  | double
  | float
  | int
  | timestamp
  | uuid
  | text
  | varint
  | timeuuid
  | inet
  | list (element : ColumnType)
  | map (key value : ColumnType)
  | set (element : ColumnType)
  deriving DecidableEq

namespace ColumnType

/-- Number of the type on the wire. -/
def id : ColumnType → UInt16
  | .custom _ => 0x0000
  | .ascii => 0x0001
  | .bigint => 0x0002
  | .blob => 0x0003
  | .boolean => 0x0004
  | .counter => 0x0005
  | .decimal => 0x0006
  | .double => 0x0007
  | .float => 0x0008
  | .int => 0x0009
  | .timestamp => 0x000B
  | .uuid => 0x000C
  | .text => 0x000D
  | .varint => 0x000E
  | .timeuuid => 0x000F
  | .inet => 0x0010
  | .list _ => 0x0020
  | .map _ _ => 0x0021
  | .set _ => 0x0022

/-- The wire form: number, then the name of a custom type or the types of the elements. -/
def write : ColumnType → Written
  | .custom name => (Write.short 0x0000 ++ ·) <$> Write.string name
  | .list element => (Write.short 0x0020 ++ ·) <$> element.write
  | .map key value => do
      let keyType ← key.write
      let valueType ← value.write
      return Write.short 0x0021 ++ keyType ++ valueType
  | .set element => (Write.short 0x0022 ++ ·) <$> element.write
  | simple => .ok (Write.short simple.id)

/-- The type without parts that has a given number. -/
def simple? : UInt16 → Option ColumnType
  | 0x0001 => some .ascii
  | 0x0002 => some .bigint
  | 0x0003 => some .blob
  | 0x0004 => some .boolean
  | 0x0005 => some .counter
  | 0x0006 => some .decimal
  | 0x0007 => some .double
  | 0x0008 => some .float
  | 0x0009 => some .int
  | 0x000A => some .text
  | 0x000B => some .timestamp
  | 0x000C => some .uuid
  | 0x000D => some .text
  | 0x000E => some .varint
  | 0x000F => some .timeuuid
  | 0x0010 => some .inet
  | _ => none

/-- Read the wire form of a type nested less than `depth` levels deep. -/
def readUpTo : (depth : Nat) → Reader ColumnType
  | 0 => throw .unexpectedEnd
  | depth + 1 => do
      let id ← Reader.short
      if id = 0x0000 then .custom <$> Reader.string
      else if id = 0x0020 then .list <$> readUpTo depth
      else if id = 0x0021 then do
        let key ← readUpTo depth
        return .map key (← readUpTo depth)
      else if id = 0x0022 then .set <$> readUpTo depth
      else
        match simple? id with
        | some simple => return simple
        | none => throw (.typeNotImplemented id)

/-- Read the wire form. Each level of nesting takes two bytes, so their number bounds the depth. -/
def read : Reader ColumnType := fun bytes =>
  readUpTo (bytes.length + 1) bytes

end ColumnType

/-- The keyspace and the table of a column. -/
structure TableSpec where
  keyspace : String
  table : String
  deriving DecidableEq

/-- A column of a result. -/
structure ColumnSpec where
  table : TableSpec
  name : String
  type : ColumnType
  deriving DecidableEq

/-- Shape of the rows of a result. -/
structure Metadata where
  columnCount : Nat := 0
  pagingState : Option Bytes := none
  columns : List ColumnSpec := []
  deriving DecidableEq

namespace TableSpec

/-- Read the names of a keyspace and a table. -/
def read : Reader TableSpec := do
  let keyspace ← Reader.string
  return ⟨keyspace, ← Reader.string⟩

end TableSpec

namespace ColumnSpec

/-- The wire form: keyspace, table, name, type. -/
def write (spec : ColumnSpec) : Written :=
  Write.concat [
    Write.string spec.table.keyspace, Write.string spec.table.table, Write.string spec.name,
    spec.type.write]

/-- Read a column; its table is given once for all columns, or stands before each. -/
def read (common : Option TableSpec) : Reader ColumnSpec := do
  let table ← match common with
    | some table => pure table
    | none => TableSpec.read
  let name ← Reader.string
  return ⟨table, name, ← ColumnType.read⟩

end ColumnSpec

namespace Metadata

/-- One table for all columns is given once. -/
def globalTableFlag : UInt32 := 1

/-- A paging state follows, as more pages can be fetched. -/
def morePagesFlag : UInt32 := 2

/-- The columns are left out. -/
def noColumnsFlag : UInt32 := 4

/-- Flags of the wire form. -/
def flags (metadata : Metadata) : UInt32 :=
  (if metadata.pagingState.isSome then morePagesFlag else 0) |||
    (if metadata.columns.isEmpty then noColumnsFlag else 0)

/-- The wire form: flags, number of columns, paging state, columns. -/
def write (metadata : Metadata) : Written :=
  Write.concat (
    [.ok (Bytes.ofNat 4 metadata.flags.toNat ++ Bytes.ofNat 4 metadata.columnCount),
      (metadata.pagingState.map Write.bytes).getD (.ok [])] ++
    metadata.columns.map ColumnSpec.write)

/-- Read the wire form. -/
def read : Reader Metadata := do
  let flags := (← Reader.int).toUInt32
  let columnCount ← Reader.intLength
  let pagingState ←
    if flags &&& morePagesFlag ≠ 0 then some <$> Reader.bytes else pure none
  if flags &&& noColumnsFlag ≠ 0 then return { columnCount, pagingState }
  let common ←
    if flags &&& globalTableFlag ≠ 0 then some <$> TableSpec.read else pure none
  let columns ← Reader.many (ColumnSpec.read common) columnCount
  return { columnCount, pagingState, columns }

end Metadata

/-- A row: one cell per column, `none` for null. -/
abbrev Row := List (Option Bytes)

/-- Rows of a result. -/
structure Rows where
  metadata : Metadata
  rows : List Row
  deriving DecidableEq

namespace Rows

/-- Rows of a single table with the given columns. -/
def ofTable (keyspace table : String) (columns : List (String × ColumnType)) (rows : List Row) :
    Rows :=
  { metadata := {
      columnCount := columns.length
      columns := columns.map fun column => ⟨⟨keyspace, table⟩, column.1, column.2⟩ }
    rows }

/-- The wire form: metadata, number of rows, cells. -/
def write (rows : Rows) : Written :=
  Write.concat (
    rows.metadata.write :: .ok (Bytes.ofNat 4 rows.rows.length) ::
      rows.rows.flatten.map Write.bytesOpt)

/-- Read the wire form. -/
def read : Reader Rows := do
  let metadata ← Metadata.read
  let count ← Reader.intLength
  return ⟨metadata, ← Reader.many (Reader.many Reader.bytesOpt metadata.columnCount) count⟩

/-- Position of the first column with a given name. -/
def columnIndex? (rows : Rows) (name : String) : Option Nat :=
  rows.metadata.columns.findIdx? fun spec => spec.name = name

end Rows

/-- Outcome of a request that was executed. -/
inductive QueryOutcome
  | void
  | rows (data : Rows)
  | setKeyspace (keyspace : String)
  | prepared (id : Bytes) (bindMarkers : Metadata) (columns : Metadata)
  | schemaChange (change : SchemaChange) (keyspace : String) (table : Option String)
  deriving DecidableEq

namespace QueryOutcome

/-- The wire form: kind and contents. -/
def write : QueryOutcome → Written
  | .void => .ok (Write.int 1)
  | .rows data => (Write.int 2 ++ ·) <$> data.write
  | .setKeyspace keyspace => (Write.int 3 ++ ·) <$> Write.string keyspace
  | .prepared id bindMarkers columns =>
      (Write.int 4 ++ ·) <$> Write.concat [Write.shortBytes id, bindMarkers.write, columns.write]
  | .schemaChange change keyspace table =>
      (Write.int 5 ++ ·) <$> Event.writeSchema change keyspace table

/-- Read the wire form. -/
def read : Reader QueryOutcome := do
  let kind ← Reader.int
  match kind.toInt with
  | 1 => return .void
  | 2 => .rows <$> Rows.read
  | 3 => .setKeyspace <$> Reader.string
  | 4 =>
      let id ← Reader.shortBytes
      let bindMarkers ← Metadata.read
      return .prepared id bindMarkers (← Metadata.read)
  | 5 =>
      let (change, keyspace, table) ← Event.readSchema
      return .schemaChange change keyspace table
  | _ => Reader.refuse (.resultKind kind)

end QueryOutcome

end CqlClient
