import CqlClient.Bytes
import CqlClient.Json

/-!
Why a text is no JSON, and where that is noticed: lines count from one, and a column is the number
of bytes that were read of its line.
-/

namespace CqlClient.Json

/-- What is wrong with a text that should be JSON. -/
inductive Defect
  | endInValue
  | endInString
  | endInArray
  | endInObject
  | valueExpected
  | wordExpected
  | nameExpected
  | colonExpected
  | itemEndExpected
  | memberEndExpected
  | trailingComma
  | trailingText
  | badNumber
  | numberTooLarge
  | badEscape
  | controlCharacter
  /-- The second half of a pair of code units without the first, or the first without a second. -/
  | loneSurrogate
  /-- No code unit stands after the first half of a pair. -/
  | unpairedSurrogate
  | tooDeep
  | objectExpected (found : Json)

/-- What a value is called where another was expected. -/
def description : Json → String
  | .null => "null"
  | .boolean value => "boolean `" ++ toString value ++ "`"
  | .number (.integer value) => "integer `" ++ toString value ++ "`"
  | .number value => "floating point `" ++ value.text ++ "`"
  | .string value => "string " ++ Text.quoted value
  | .array _ => "sequence"
  | .object _ => "map"

/-- Wording of a defect. -/
def Defect.message : Defect → String
  | .endInValue => "EOF while parsing a value"
  | .endInString => "EOF while parsing a string"
  | .endInArray => "EOF while parsing a list"
  | .endInObject => "EOF while parsing an object"
  | .valueExpected => "expected value"
  | .wordExpected => "expected ident"
  | .nameExpected => "key must be a string"
  | .colonExpected => "expected `:`"
  | .itemEndExpected => "expected `,` or `]`"
  | .memberEndExpected => "expected `,` or `\x7d`"
  | .trailingComma => "trailing comma"
  | .trailingText => "trailing characters"
  | .badNumber => "invalid number"
  | .numberTooLarge => "number out of range"
  | .badEscape => "invalid escape"
  | .controlCharacter => "control character (\\u0000-\\u001F) found while parsing a string"
  | .loneSurrogate => "lone leading surrogate in hex escape"
  | .unpairedSurrogate => "unexpected end of hex escape"
  | .tooDeep => "recursion limit exceeded"
  | .objectExpected found => "invalid type: " ++ found.description ++ ", expected a map"

/-- A defect with the place where it was noticed. -/
structure Fault where
  defect : Defect
  line : Nat
  column : Nat

/-- Wording of a fault. -/
def Fault.message (fault : Fault) : String :=
  fault.defect.message ++ " at line " ++ toString fault.line ++ " column " ++
    toString fault.column

/-- The fault of a text that was read up to its last `unread` bytes. -/
def Fault.ofUnread (text : String) (defect : Defect) (unread : Nat) : Fault :=
  let bytes := Bytes.ofString text
  let read := bytes.take (bytes.length - unread)
  ⟨defect, read.count 10 + 1, (read.reverse.takeWhile (· ≠ 10)).length⟩

end CqlClient.Json
