import CqlClient.Wire.Writer

namespace CqlClient.CellWriter

/-- A text with the 16 low bits of its length in front. -/
def part (text : String) : Bytes :=
  let bytes := Bytes.ofString text
  Bytes.ofNat 2 bytes.length ++ bytes

/-- The cell of a list or set of texts. -/
def strings (texts : List String) : Bytes :=
  Bytes.ofNat 2 texts.length ++ texts.flatMap part

/-- The cell of a map between texts. -/
def stringPairs (pairs : List (String × String)) : Bytes :=
  Bytes.ofNat 2 pairs.length ++ pairs.flatMap fun pair => part pair.1 ++ part pair.2

end CqlClient.CellWriter
