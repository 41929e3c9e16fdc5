namespace CqlClient

/-- A span of time, in whole nanoseconds. -/
structure Duration where
  nanoseconds : Nat
  deriving DecidableEq, Repr, Inhabited

namespace Duration

/-- A whole number of microseconds. -/
def ofMicroseconds (n : Nat) : Duration := ⟨n * 1000⟩

/-- A whole number of milliseconds. -/
def ofMilliseconds (n : Nat) : Duration := ⟨n * 1000000⟩

/-- A whole number of seconds. -/
def ofSeconds (n : Nat) : Duration := ⟨n * 1000000000⟩

/-- Whole milliseconds in the span. -/
def toMilliseconds (d : Duration) : Nat := d.nanoseconds / 1000000

/-- A number of `unit`s with the fraction it needs, at most `places` digits of it. -/
def decimal (value unit places : Nat) : String :=
  let digits := Nat.toDigits 10 (value % unit)
  let fraction := List.replicate (places - digits.length) '0' ++ digits
  let kept := (fraction.reverse.dropWhile (· == '0')).reverse
  toString (value / unit) ++ if value % unit = 0 then "" else "." ++ String.ofList kept

/-- The span in the largest unit of which it holds at least one. -/
def text (d : Duration) : String :=
  let n := d.nanoseconds
  if 1000000000 ≤ n then decimal n 1000000000 9 ++ "s"
  else if 1000000 ≤ n then decimal n 1000000 6 ++ "ms"
  else if 1000 ≤ n then decimal n 1000 3 ++ "µs"
  else toString n ++ "ns"

end Duration

end CqlClient
