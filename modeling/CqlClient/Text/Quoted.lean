import CqlClient.Bytes
import CqlClient.Text.Unprinted

namespace CqlClient.Text

/-- Hexadecimal digits of a number, lower case, no leading zeros. -/
def hexDigits (value : Nat) : String :=
  String.ofList (Nat.toDigits 16 value)

/-- Hexadecimal digits padded with zeros to at least `width`. -/
def paddedHex (width value : Nat) : String :=
  let digits := hexDigits value
  String.ofList (List.replicate (width - digits.length) '0') ++ digits

/-- How a character is written between double quotes. -/
def escapeChar (c : Char) : String :=
  if c = '\x00' then "\\0"
  else if c = '\t' then "\\t"
  else if c = '\r' then "\\r"
  else if c = '\n' then "\\n"
  else if c = '"' then "\\\""
  else if c = '\\' then "\\\\"
  else if c.toNat < 0x20 || (0x7F ≤ c.toNat && isUnprinted c) then
    "\\u\x7b" ++ hexDigits c.toNat ++ "\x7d"
  else c.toString

/-- A text between double quotes; what cannot be seen is escaped. -/
def quoted (text : String) : String :=
  "\"" ++ String.join (text.toList.map escapeChar) ++ "\""

/-- How a byte is written between double quotes. -/
def escapeByte (b : UInt8) : String :=
  if b = 0 then "\\0"
  else if b = 9 then "\\t"
  else if b = 13 then "\\r"
  else if b = 10 then "\\n"
  else if b = 34 then "\\\""
  else if b = 92 then "\\\\"
  else if 0x20 ≤ b ∧ b < 0x7F then (Char.ofNat b.toNat).toString
  else "\\x" ++ paddedHex 2 b.toNat

/-- Bytes between double quotes, marked as bytes; ASCII as it is, the rest as hexadecimal. -/
def quotedBytes (bytes : Bytes) : String :=
  "b\"" ++ String.join (bytes.map escapeByte) ++ "\""

end CqlClient.Text
