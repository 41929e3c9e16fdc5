import CqlClient.JsonForm.Basic
import CqlClient.Message.Response

/-!
JSON forms of requests and responses and of what they are made of.
-/

namespace CqlClient

namespace ColumnType

/-- The types without parts, by name. -/
def simpleTypes : List (String × ColumnType) :=
  [("ascii", .ascii), ("bigint", .bigint), ("blob", .blob), ("boolean", .boolean),
    ("counter", .counter), ("decimal", .decimal), ("double", .double), ("float", .float),
    ("int", .int), ("timestamp", .timestamp), ("uuid", .uuid), ("text", .text),
    ("varint", .varint), ("timeuuid", .timeuuid), ("inet", .inet)]

/-- The JSON form of a type: its name, or an object for a type with parts. -/
def toJson : ColumnType → Json
  | .custom name => .object [("custom", .ofText name)]
  | .list element => .object [("list", element.toJson)]
  | .map key value => .object [("map", .array [key.toJson, value.toJson])]
  | .set element => .object [("set", element.toJson)]
  | simple => .ofOption (fun entry => .string entry.1) (simpleTypes.find? (·.2 = simple))

/-- A type by its form. -/
def ofJson : Json → Decoded ColumnType
  | .string name =>
      match simpleTypes.lookup name with
      | some simple => .ok simple
      | none => .error "column type expected"
  | .object members => do
      let json := Json.object members
      if json.has "custom" then return .custom (← (json.get "custom").toText)
      else if json.has "list" then return .list (← ofJson ((Json.object members).get "list"))
      else if json.has "set" then return .set (← ofJson ((Json.object members).get "set"))
      else return ← ofPair ((Json.object members).get "map")
  | _ => .error "column type expected"
termination_by json => sizeOf json
decreasing_by
  · exact Json.sizeOf_get_lt members "list"
  · exact Json.sizeOf_get_lt members "set"
  · exact Json.sizeOf_get_lt members "map"
where
  /-- The type of a map by the types of its keys and values. -/
  ofPair : Json → Decoded ColumnType
  | .array [key, value] => do return .map (← ofJson key) (← ofJson value)
  | _ => .error "two column types expected"
  termination_by json => sizeOf json
  decreasing_by
    · exact Json.sizeOf_item_lt (by simp)
    · exact Json.sizeOf_item_lt (by simp)

end ColumnType

/-- The JSON form of a write type: its name. -/
def WriteType.toJson (writeType : WriteType) : Json := .ofText writeType.name

namespace DatabaseError

/-- Name of the error. -/
def kind : DatabaseError → String
  | .serverError => "ServerError"
  | .protocolError => "ProtocolError"
  | .authenticationError => "AuthenticationError"
  | .unavailable .. => "Unavailable"
  | .overloaded => "Overloaded"
  | .isBootstrapping => "IsBootstrapping"
  | .truncateError => "TruncateError"
  | .writeTimeout .. => "WriteTimeout"
  | .readTimeout .. => "ReadTimeout"
  | .syntaxError => "SyntaxError"
  | .unauthorized => "Unauthorized"
  | .invalid => "Invalid"
  | .configError => "ConfigError"
  | .alreadyExists .. => "AlreadyExists"
  | .unprepared _ => "Unprepared"
  | .other _ => "Other"

/-- The errors without fields. -/
def plainErrors : List DatabaseError :=
  [.serverError, .protocolError, .authenticationError, .overloaded, .isBootstrapping,
    .truncateError, .syntaxError, .unauthorized, .invalid, .configError]

/-- The fields of an error. -/
def fields : DatabaseError → List (String × Json)
  | .unavailable level required alive =>
      [("consistency", level.toJson), ("required", .ofInt32 required), ("alive", .ofInt32 alive)]
  | .writeTimeout level received required writeType =>
      [("consistency", level.toJson), ("received", .ofInt32 received),
        ("required", .ofInt32 required), ("write_type", writeType.toJson),
        ("known", writeType.isKnown)]
  | .readTimeout level received required dataPresent =>
      [("consistency", level.toJson), ("received", .ofInt32 received),
        ("required", .ofInt32 required), ("data_present", dataPresent)]
  | .alreadyExists keyspace table =>
      [("keyspace", .ofText keyspace), ("table", .ofText table)]
  | .unprepared id => [("id", id.toJson)]
  | .other code => [("code", .ofInt32 code)]
  | _ => []

/-- The JSON form of an error. -/
def toJson (error : DatabaseError) : Json := .ofKind error.kind error.fields

/-- An error by its form. -/
def ofJson (json : Json) : Decoded DatabaseError := do
  let level := Consistency.ofJson (json.get "consistency")
  let number (name : String) : Decoded Int32 := (json.get name).toInt32
  match ← (json.get "kind").toStr with
  | "Unavailable" => return .unavailable (← level) (← number "required") (← number "alive")
  | "WriteTimeout" =>
      return .writeTimeout (← level) (← number "received") (← number "required")
        (WriteType.ofName (← (json.get "write_type").toText))
  | "ReadTimeout" =>
      return .readTimeout (← level) (← number "received") (← number "required")
        (← (json.get "data_present").toFlag)
  | "AlreadyExists" =>
      return .alreadyExists (← (json.get "keyspace").toText) (← (json.get "table").toText)
  | "Unprepared" => return .unprepared (← Bytes.ofJson (json.get "id"))
  | "Other" => return .other (← number "code")
  | kind =>
      match plainErrors.find? fun error => error.kind = kind with
      | some error => return error
      | none => throw "database error expected"

end DatabaseError

/-- An error of a node with its reason by its fields. -/
def ErrorReport.ofJson (json : Json) : Decoded ErrorReport := do
  return ⟨← DatabaseError.ofJson (json.get "error"),
    ← (json.get "reason").toDefault "" Json.toText⟩

namespace Event

/-- The fields of a schema change. -/
def schemaFields (change : SchemaChange) (keyspace : String) (table : Option String) :
    List (String × Json) :=
  [("change", change.name), ("keyspace", .ofText keyspace), ("table", .ofOption .ofText table)]

/-- The JSON form of an event. -/
def toJson (event : Event) : Json :=
  .object (("event", .string event.eventType.name) :: match event with
    | .topology change node => ("change", .string change.name) :: node.fields
    | .status change node => ("change", .string change.name) :: node.fields
    | .schema change keyspace table => schemaFields change keyspace table)

/-- A schema change by its fields. -/
def schemaOfJson (json : Json) : Decoded (SchemaChange × String × Option String) := do
  return (SchemaChange.ofName (← (json.get "change").toText), ← (json.get "keyspace").toText,
    ← (json.get "table").toOption Json.toText)

/-- An event by its change and the fields that go with it. -/
def ofJson (json : Json) : Decoded Event := do
  let name ← (json.get "change").toText
  match TopologyChange.ofName? name, StatusChange.ofName? name with
  | some change, _ => return .topology change (← Endpoint.ofJson json)
  | none, some change => return .status change (← Endpoint.ofJson json)
  | none, none =>
      let (change, keyspace, table) ← schemaOfJson json
      return .schema change keyspace table

end Event

namespace Metadata

/-- The JSON form of a column. -/
def columnToJson (spec : ColumnSpec) : Json :=
  .array [.ofText spec.table.keyspace, .ofText spec.table.table, .ofText spec.name,
    spec.type.toJson]

/-- A column by its keyspace, table, name and type. -/
def columnOfJson (json : Json) : Decoded ColumnSpec :=
  match json with
  | .array [keyspace, table, name, type] => do
      return ⟨⟨← keyspace.toText, ← table.toText⟩, ← name.toText, ← ColumnType.ofJson type⟩
  | _ => throw "column expected"

/-- The JSON form of metadata. -/
def toJson (metadata : Metadata) : Json :=
  .object [
    ("col_count", .ofNat metadata.columnCount),
    ("paging_state", .ofOption Bytes.toJson metadata.pagingState),
    ("col_specs", .ofList columnToJson metadata.columns)]

/-- Metadata by its form. Without a count the columns are counted. -/
def ofJson (json : Json) : Decoded Metadata := do
  let columns ← (json.get "col_specs").toListOrNone columnOfJson
  return {
    columnCount := ← (json.get "col_count").toDefault columns.length Json.toNat
    pagingState := ← (json.get "paging_state").toOption Bytes.ofJson
    columns }

end Metadata

namespace Rows

/-- The JSON form of cells. -/
def cellsToJson (rows : List Row) : Json :=
  .ofList (.ofList (.ofOption Bytes.toJson)) rows

/-- Cells by their form. -/
def cellsOfJson (json : Json) : Decoded (List Row) :=
  json.toListOrNone (Json.toList (Json.toOption Bytes.ofJson))

/-- Rows of one table by its names and columns. -/
def tableOfJson (json : Json) : Decoded Rows := do
  let columns ← (json.get "columns").toList fun column =>
    match column with
    | .array [name, type] => do return (← name.toText, ← ColumnType.ofJson type)
    | _ => throw "column expected"
  return ofTable (← (json.get "ks").toText) (← (json.get "table").toText) columns
    (← cellsOfJson (json.get "rows"))

end Rows

namespace QueryOutcome

/-- The fields of an outcome. -/
def fields : QueryOutcome → List (String × Json)
  | .void => [("result", "void")]
  | .rows data =>
      [("result", "rows"), ("metadata", data.metadata.toJson),
        ("rows", Rows.cellsToJson data.rows)]
  | .setKeyspace keyspace => [("result", "set_keyspace"), ("keyspace", .ofText keyspace)]
  | .prepared id bindMarkers columns =>
      [("result", "prepared"), ("id", id.toJson), ("prepared_metadata", bindMarkers.toJson),
        ("result_metadata", columns.toJson)]
  | .schemaChange change keyspace table =>
      ("result", "schema_change") :: Event.schemaFields change keyspace table

/-- An outcome by its fields. -/
def ofJson (json : Json) : Decoded QueryOutcome := do
  match ← (json.get "result").toStr with
  | "void" => return .void
  | "rows" =>
      return .rows ⟨← Metadata.ofJson (json.get "metadata"),
        ← Rows.cellsOfJson (json.get "rows")⟩
  | "table" => .rows <$> Rows.tableOfJson json
  | "set_keyspace" => .setKeyspace <$> (json.get "keyspace").toText
  | "prepared" =>
      return .prepared (← Bytes.ofJson (json.get "id"))
        (← Metadata.ofJson (json.get "prepared_metadata"))
        (← Metadata.ofJson (json.get "result_metadata"))
  | "schema_change" =>
      let (change, keyspace, table) ← Event.schemaOfJson json
      return .schemaChange change keyspace table
  | _ => throw "outcome expected"

end QueryOutcome

namespace Response

/-- The fields of a response. -/
def fields : Response → List (String × Json)
  | .error report =>
      [("code", .ofInt32 report.error.code), ("error", report.error.toJson),
        ("reason", .ofText report.reason)]
  | .ready => []
  | .authenticate authenticator => [("authenticator", .ofText authenticator)]
  | .supported options =>
      [("options", .object (options.entries.map fun entry =>
          (entry.1, .ofList .ofText entry.2))),
        ("lz4", listsCompression options "lz4"),
        ("snappy", listsCompression options "snappy")]
  | .result outcome => [("result", .object outcome.fields)]
  | .event change => [("event", change.toJson)]
  | .authChallenge token => [("token", .ofOption Bytes.toJson token)]
  | .authSuccess token => [("token", .ofOption Bytes.toJson token)]

/-- The JSON form of a response. -/
def toJson (response : Response) : Json := .ofKind response.kindName response.fields

/-- A response by its form. -/
def ofJson (json : Json) : Decoded Response := do
  let token := (json.get "token").toOption Bytes.ofJson
  match ← (json.get "kind").toStr with
  | "ERROR" => .error <$> ErrorReport.ofJson json
  | "READY" => return .ready
  | "AUTHENTICATE" => .authenticate <$> (json.get "authenticator").toText
  | "SUPPORTED" =>
      let options ← (json.get "options").toPairs (Json.toList Json.toText)
      return .supported (Assoc.ofList options)
  | "AUTH_SUCCESS" => .authSuccess <$> token
  | "AUTH_CHALLENGE" => .authChallenge <$> token
  | "EVENT" => .event <$> Event.ofJson (json.get "event")
  | "RESULT" => .result <$> QueryOutcome.ofJson (json.get "result")
  | _ => throw "response expected"

end Response

namespace QueryParameters

/-- The most values that are written out. -/
def shownValues : Nat := 64

/-- The JSON form of bound values. -/
def valuesToJson (values : List (Option Bytes)) : Json :=
  if shownValues < values.length then
    .object [
      ("count", .ofNat values.length),
      ("nulls", .ofNat (values.filter Option.isNone).length)]
  else .ofList (.ofOption Bytes.toJson) values

/-- Bound values one by one, or as a repetition. -/
def valuesOfJson (json : Json) : Decoded (List (Option Bytes)) := do
  match json with
  | .object _ =>
      let unit ← (json.get "rep").toOption Bytes.ofJson
      return List.replicate (← (json.get "n").toNat) unit
  | _ => json.toListOrNone (Json.toOption Bytes.ofJson)

/-- The JSON form of parameters. -/
def toJson (p : QueryParameters) : Json :=
  .object [
    ("consistency", p.consistency.toJson),
    ("serial", .ofOption SerialConsistency.toJson p.serialConsistency),
    ("skip_metadata", p.skipMetadata), ("page_size", .ofOption .ofInt32 p.pageSize),
    ("paging_state", .ofOption Bytes.toJson p.pagingState), ("values", valuesToJson p.values)]

/-- Parameters by their form. -/
def ofJson (json : Json) : Decoded QueryParameters := do
  return {
    consistency := ← (json.get "consistency").toDefault .quorum Consistency.ofJson
    serialConsistency := ← (json.get "serial").toOption SerialConsistency.ofJson
    skipMetadata := ← (json.get "skip_metadata").toFlag
    pageSize := ← (json.get "page_size").toOption Json.toInt32
    pagingState := ← (json.get "paging_state").toOption Bytes.ofJson
    values := ← valuesOfJson (json.get "values") }

end QueryParameters

namespace Request

/-- The fields of a request. -/
def fields : Request → List (String × Json)
  | .startup settings =>
      [("request", "STARTUP"),
        ("options", .object (settings.entries.map fun entry => (entry.1, .ofText entry.2)))]
  | .options => [("request", "OPTIONS")]
  | .query contents parameters =>
      [("request", "QUERY"), ("contents", .ofText contents), ("parameters", parameters.toJson)]
  | .prepare contents => [("request", "PREPARE"), ("query", .ofText contents)]
  | .execute id parameters =>
      [("request", "EXECUTE"), ("id", id.toJson), ("parameters", parameters.toJson)]
  | .register events =>
      [("request", "REGISTER"), ("events", .ofList (fun kind => .string kind.name) events)]
  | .authResponse token =>
      [("request", "AUTH_RESPONSE"), ("token", .ofOption Bytes.toJson token)]

/-- A request by its form. The names of events in it may be unknown. -/
def ofJson (json : Json) : Decoded (Except ParseError Request) := do
  let parameters := QueryParameters.ofJson (json.get "parameters")
  match ← (json.get "kind").toStr with
  | "STARTUP" =>
      let settings ← (json.get "options").toPairs Json.toText
      return .ok (.startup (Assoc.ofList settings))
  | "OPTIONS" => return .ok .options
  | "QUERY" => return .ok (.query (← (json.get "contents").toText) (← parameters))
  | "PREPARE" => return .ok (.prepare (← (json.get "query").toText))
  | "EXECUTE" => return .ok (.execute (← Bytes.ofJson (json.get "id")) (← parameters))
  | "REGISTER" =>
      let names ← (json.get "events").toList Json.toText
      return .register <$> names.mapM EventType.ofName
  | "AUTH_RESPONSE" =>
      return .ok (.authResponse (← (json.get "token").toOption Bytes.ofJson))
  | _ => throw "request expected"

end Request

end CqlClient
