import CqlClient.Assoc
import CqlClient.Message.Result

namespace CqlClient

/-- Why a cell cannot be read as a value. -/
inductive CellError
  | badType
  | isNull
  | utf8 (fault : Utf8.Fault)
  | shape (fault : CellFault)
  | parse (error : ParseError)
  deriving DecidableEq, Repr

/-- Wording of a cell error. -/
def CellError.message : CellError → String
  | .badType => "Bad CQL type"
  | .isNull => "Value is null"
  | .utf8 fault => "Malformed value: " ++ fault.message
  | .shape fault => "Malformed value: " ++ fault.message
  | .parse error => "Malformed value: " ++ error.message

/-- Reads a cell of a column of some type; `none` is a null cell. -/
abbrev CellReader (α : Type) := ColumnType → Option Bytes → Except CellError α

namespace CellReader

/-- Read a cell of exactly `size` bytes. -/
def fixed (size : Nat) (cell : Option Bytes) : Except CellError (Octets size) :=
  match cell with
  | none => .error .isNull
  | some bytes =>
      if h : bytes.length = size then .ok ⟨bytes, h⟩
      else .error (.shape (.fixedLength size bytes.length))

/-- Text in an ascii, text or custom column. -/
def string : CellReader String := fun type cell =>
  match type with
  | .ascii | .text | .custom _ =>
      match cell with
      | none => .error .isNull
      | some bytes =>
          match Utf8.decode bytes with
          | .ok text => .ok text
          | .error fault => .error (.utf8 fault)
  | _ => .error .badType

/-- A number of 32 bits in an int column. -/
def int : CellReader Int32 := fun type cell =>
  match type with
  | .int => (fun octets => (UInt32.ofNat (Bytes.toNat octets.val)).toInt32) <$> fixed 4 cell
  | _ => .error .badType

/-- A number of 64 bits in a bigint, counter or timestamp column. -/
def bigint : CellReader Int64 := fun type cell =>
  match type with
  | .bigint | .counter | .timestamp =>
      (fun octets => (UInt64.ofNat (Bytes.toNat octets.val)).toInt64) <$> fixed 8 cell
  | _ => .error .badType

/-- A truth value: one byte, false if it is zero. -/
def boolean : CellReader Bool := fun type cell =>
  match type with
  | .boolean => (fun octets => Bytes.toNat octets.val ≠ 0) <$> fixed 1 cell
  | _ => .error .badType

/-- An identifier in a uuid or timeuuid column. -/
def uuid : CellReader Uuid := fun type cell =>
  match type with
  | .uuid | .timeuuid => Uuid.mk <$> fixed 16 cell
  | _ => .error .badType

/-- An address: four bytes or sixteen. -/
def inet : CellReader IpAddress := fun type cell =>
  match type with
  | .inet =>
      match cell with
      | some bytes =>
          if h : bytes.length = 16 then .ok (.v6 ⟨bytes, h⟩)
          else IpAddress.v4 <$> fixed 4 cell
      | none => .error .isNull
  | _ => .error .badType

/-- The bytes of a blob or custom column. -/
def blob : CellReader Bytes := fun type cell =>
  match type with
  | .blob | .custom _ =>
      match cell with
      | some bytes => .ok bytes
      | none => .error .isNull
  | _ => .error .badType

/-- A value that may be null; the type of a null cell does not matter. -/
def optional {α : Type} (reader : CellReader α) : CellReader (Option α) := fun type cell =>
  match cell with
  | none => .ok none
  | some _ => some <$> reader type cell

/-- Read a counted row of parts that fills a cell. -/
def parts {α : Type} (part : CqlClient.Reader α) (bytes : Bytes) : Except CellError (List α) := do
  let (count, rest) ← liftParse (Reader.short bytes)
  let (values, rest) ← liftParse (Reader.many part count.toNat rest)
  if rest.isEmpty then return values else throw (.shape (.elementCount count))
where
  liftParse {β : Type} (result : Except ParseError β) : Except CellError β :=
    result.mapError .parse

/-- The elements of a list or set; a null cell has none. -/
def list {α : Type} (reader : CellReader α) : CellReader (List α) := fun type cell =>
  match type with
  | .list element | .set element =>
      match cell with
      | none => .ok []
      | some bytes => do
          let elements ← parts Reader.shortBytes bytes
          elements.mapM fun part => reader element (some part)
  | _ => .error .badType

/-- The elements of a list or set, each once. -/
def set {α : Type} [BEq α] (reader : CellReader α) : CellReader (List α) := fun type cell =>
  List.eraseDups <$> list reader type cell

/-- The pairs of a map in the order written; a null cell has none. -/
def pairs {κ α : Type} (key : CellReader κ) (value : CellReader α) : CellReader (List (κ × α)) :=
  fun type cell =>
    match type with
    | .map keyType valueType =>
        match cell with
        | none => .ok []
        | some bytes => do
            let entries ← parts (Reader.pair Reader.shortBytes Reader.shortBytes) bytes
            entries.mapM fun entry => do
              let k ← key keyType (some entry.1)
              return (k, ← value valueType (some entry.2))
    | _ => .error .badType

/-- A map; of pairs with the same key the last stays. -/
def map {κ α : Type} [DecidableEq κ] (key : CellReader κ) (value : CellReader α) :
    CellReader (Assoc κ α) := fun type cell =>
  Assoc.ofList <$> pairs key value type cell

end CellReader

/-- Why a value cannot be taken from a row. -/
inductive RowError
  | badCell (error : CellError) (column : Nat)
  | wrongRowSize (expected actual : Nat)
  | noSuchColumn (name : String)
  deriving DecidableEq, Repr

/-- Wording of a row error. -/
def RowError.message : RowError → String
  | .badCell error column =>
      error.message ++ " in the column with index " ++ toString column
  | .wrongRowSize expected actual =>
      "Wrong row size: expected " ++ toString expected ++ ", actual " ++ toString actual
  | .noSuchColumn name => "No column named " ++ name ++ " in the result"

/-- Take the cell of the first column with a given name from a row. -/
def Rows.get {α : Type} (rows : Rows) (reader : CellReader α) (row : Row) (name : String) :
    Except RowError α :=
  match rows.columnIndex? name with
  | none => .error (.noSuchColumn name)
  | some index =>
      match rows.metadata.columns[index]?, row[index]? with
      | some spec, some cell => (reader spec.type cell).mapError (.badCell · index)
      | _, none => .error (.wrongRowSize (index + 1) row.length)
      | none, _ => .error (.noSuchColumn name)

end CqlClient
