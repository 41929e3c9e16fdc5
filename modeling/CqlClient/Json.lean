import CqlClient.Number.Binary64
import CqlClient.Text.Quoted

namespace CqlClient

/-- A number of a JSON text: an integer of at most 64 bits, or else a rounded size with a sign. -/
inductive JsonNumber
  | integer (value : Int)
  | binary (negative : Bool) (size : Binary64)
  deriving DecidableEq, Repr

/-- The number as it is written. -/
def JsonNumber.text : JsonNumber → String
  | .integer value => toString value
  | .binary negative size => (if negative then "-" else "") ++ size.text

/-- A JSON value. -/
inductive Json
  | null
  | boolean (value : Bool)
  | number (value : JsonNumber)
  | string (value : String)
  | array (items : List Json)
  | object (members : List (String × Json))
  deriving Inhabited

namespace Json

/-- The number with a given value. -/
def ofInt (value : Int) : Json := .number (.integer value)

/-- How a character is written in a string. -/
def escape (c : Char) : String :=
  if c = '"' then "\\\""
  else if c = '\\' then "\\\\"
  else if c = '\n' then "\\n"
  else if c = '\r' then "\\r"
  else if c = '\t' then "\\t"
  else if c = '\x08' then "\\b"
  else if c = '\x0c' then "\\f"
  else if c.toNat < 0x20 then "\\u" ++ Text.paddedHex 4 c.toNat
  else c.toString

/-- A string between double quotes. -/
def quote (text : String) : String :=
  text.foldl (fun done c => done ++ escape c) "\"" ++ "\""

mutual

/-- Append the compact text of a value; the members of an object stand in the order of their
names. -/
def write (done : String) : Json → String
  | .null => done ++ "null"
  | .boolean value => done ++ toString value
  | .number value => done ++ value.text
  | .string value => done ++ quote value
  | .array items => writeItems (done ++ "[") "" items
  | .object members => writeMembers done members

/-- Append the items of an array, each after a mark. -/
def writeItems (done mark : String) : List Json → String
  | [] => done ++ "]"
  | item :: items => writeItems (write (done ++ mark) item) "," items

/-- Append the members of an object. -/
def writeMembers (done : String) (members : List (String × Json)) : String :=
  let texts := memberTexts members
  let sorted := texts.mergeSort fun a b => !decide (b.1 < a.1)
  done ++ "\x7b" ++ String.intercalate "," (sorted.map fun entry =>
    quote entry.1 ++ ":" ++ entry.2) ++ "\x7d"

/-- The texts of the members of an object. -/
def memberTexts : List (String × Json) → List (String × String)
  | [] => []
  | (name, value) :: members => (name, write "" value) :: memberTexts members

end

/-- The compact text of a value. -/
def text (value : Json) : String := write "" value

end Json

end CqlClient
