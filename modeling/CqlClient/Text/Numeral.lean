namespace CqlClient.Numeral

/-- Value of an ASCII decimal digit. -/
def digit? (c : Char) : Option Nat :=
  if '0' ≤ c ∧ c ≤ '9' then some (c.toNat - 48) else none

/-- Value of an ASCII hexadecimal digit of either case. -/
def hexDigit? (c : Char) : Option Nat :=
  if '0' ≤ c ∧ c ≤ '9' then some (c.toNat - 48)
  else if 'a' ≤ c ∧ c ≤ 'f' then some (c.toNat - 87)
  else if 'A' ≤ c ∧ c ≤ 'F' then some (c.toNat - 55)
  else none

/-- The number written by a row of digits, continuing from `value`. -/
def digitsFrom? (value : Nat) : List Char → Option Nat
  | [] => some value
  | c :: rest => (digit? c).bind fun d => digitsFrom? (value * 10 + d) rest

/-- The number written by a non-empty row of digits. -/
def digits? (cs : List Char) : Option Nat :=
  if cs.isEmpty then none else digitsFrom? 0 cs

/-- A whole number with at most one sign in front. -/
def signed? : List Char → Option Int
  | '-' :: rest => (digits? rest).map fun n => -(n : Int)
  | '+' :: rest => (digits? rest).map Int.ofNat
  | cs => (digits? cs).map Int.ofNat

/-- A signed number of 64 bits. -/
def int64? (text : String) : Option Int64 :=
  (signed? text.toList).bind fun n =>
    if Int64.minValue.toInt ≤ n ∧ n ≤ Int64.maxValue.toInt then some (Int64.ofInt n) else none

/-- A number of 64 bits without a sign; one plus sign may stand in front. -/
def size? (text : String) : Option Nat :=
  let row := match text.toList with
    | '+' :: rest => rest
    | cs => cs
  (digits? row).bind fun n => if n < UInt64.size then some n else none

/-- A whole number of any length. One sign may stand in front, and underscores anywhere after the
first digit. -/
def integer? (text : String) : Option Int :=
  match text.toList with
  | '-' :: '+' :: _ => none
  | '-' :: rest => (grouped? rest).map fun n => -(n : Int)
  | '+' :: rest => (grouped? rest).map Int.ofNat
  | cs => (grouped? cs).map Int.ofNat
where
  grouped? (cs : List Char) : Option Nat :=
    if cs.head? = some '_' then none else digits? (cs.filter (· ≠ '_'))

end CqlClient.Numeral
