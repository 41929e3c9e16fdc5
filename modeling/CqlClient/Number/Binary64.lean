namespace CqlClient

/-- The size of a finite number with a significand of 53 bits: `significand * 2 ^ exponent`. -/
structure Binary64 where
  significand : Nat
  exponent : Int
  deriving DecidableEq, Repr

namespace Binary64

/-- Zero. -/
def zero : Binary64 := ⟨0, 0⟩

/-- The integer nearest to a quotient; a tie goes to the even one. -/
def roundQuotient (numerator denominator : Nat) : Nat :=
  let quotient := numerator / denominator
  let twice := 2 * (numerator % denominator)
  if denominator < twice ∨ (twice = denominator ∧ quotient % 2 = 1) then quotient + 1
  else quotient

/-- The least significand of a number with all its bits: the 53rd bit alone. -/
def leastFull : Nat := 0x10000000000000

/-- A quotient divided by a power of a base. -/
def scaled (base : Nat) (power : Int) (quotient : Nat × Nat) : Nat × Nat :=
  if 0 ≤ power then (quotient.1, quotient.2 * base.pow power.toNat)
  else (quotient.1 * base.pow (-power).toNat, quotient.2)

/-- The number nearest to a quotient; `none` if it is too large. -/
def ofQuotient? (quotient : Nat × Nat) : Option Binary64 :=
  if quotient.1 = 0 then some zero
  else
    let guess : Int := (Nat.log2 quotient.1 : Int) - Nat.log2 quotient.2 - 53
    let (n, d) := scaled 2 guess quotient
    let exponent := max (if d * (2 * leastFull) ≤ n then guess + 1 else guess) (-1074)
    let (n, d) := scaled 2 exponent quotient
    let significand := roundQuotient n d
    let (significand, exponent) :=
      if significand = 2 * leastFull then (leastFull, exponent + 1) else (significand, exponent)
    if 971 < exponent then none else some ⟨significand, exponent⟩

/-- The number as a quotient. -/
def toQuotient (x : Binary64) : Nat × Nat :=
  scaled 2 (-x.exponent) (x.significand, 1)

/-- The number nearest to a natural number. -/
def ofNat? (n : Nat) : Option Binary64 := ofQuotient? (n, 1)

/-- The rounded product. -/
def mul? (x y : Binary64) : Option Binary64 :=
  let (a, b) := x.toQuotient
  let (c, d) := y.toQuotient
  ofQuotient? (a * c, b * d)

/-- The rounded quotient. -/
def div? (x y : Binary64) : Option Binary64 :=
  let (a, b) := x.toQuotient
  let (c, d) := y.toQuotient
  ofQuotient? (a * d, b * c)

/-- Powers of ten up to this exponent are numbers. -/
def maxPower : Nat := 308

/-- `significand * 10 ^ power`, with a rounding in the significand, one in the power of ten and one
in each operation. A number too large is refused, one too small becomes zero. -/
def ofDecimal? (significand : Nat) (power : Int) : Option Binary64 := do
  go 4 (← ofNat? significand) power
where
  go : Nat → Binary64 → Int → Option Binary64
  | 0, _, _ => some zero
  | steps + 1, x, power =>
      if power.natAbs ≤ maxPower then do
        let scale ← ofNat? (Nat.pow 10 power.natAbs)
        if 0 ≤ power then x.mul? scale else x.div? scale
      else if x.significand = 0 then some zero
      else if 0 ≤ power then none
      else do
        go steps (← x.div? (← ofNat? (Nat.pow 10 maxPower))) (power + maxPower)

/-- The exponent of the first decimal digit of a number that is not zero. -/
def decimalExponent (quotient : Nat × Nat) : Int :=
  let bits : Int := (Nat.log2 quotient.1 : Int) - Nat.log2 quotient.2 - 1
  climb 3 (bits * 30103 / 100000 - 1)
where
  climb : Nat → Int → Int
  | 0, e => e
  | steps + 1, e =>
      let (n, d) := scaled 10 (e + 1) quotient
      if d ≤ n then climb steps (e + 1) else e

/-- Whether a quotient lies in the interval of values that round to the number. -/
def covers (x : Binary64) (quotient : Nat × Nat) : Bool :=
  let (n, d) := scaled 2 (x.exponent - 2) quotient
  let below := if x.significand = leastFull ∧ -1074 < x.exponent then 1 else 2
  let low := d * (4 * x.significand - below)
  let high := d * (4 * x.significand + 2)
  if x.significand % 2 = 0 then low ≤ n && n ≤ high else low < n && n < high

/-- The fewest decimal digits that read back as the number, and of those the nearest, with the
exponent of the first of them. -/
def shortest (x : Binary64) : List Char × Int :=
  let value := x.toQuotient
  let first := decimalExponent value
  let candidates := (List.range 17).filterMap fun (extra : Nat) =>
    let power := first - extra
    let (n, d) := scaled 10 power value
    let floor := n / d
    let fits := [floor, floor + 1].filter fun digits => x.covers (scaled 10 (-power) (digits, 1))
    let nearest := roundQuotient n d
    (if fits.contains nearest then some nearest else fits.head?).map fun digits => (digits, power)
  match candidates.head? with
  | none => (['0'], 0)
  | some (digits, power) =>
      let all := Nat.toDigits 10 digits
      let kept := (all.reverse.dropWhile (· == '0')).reverse
      (kept, power + all.length - 1)

/-- Where the positional notation of a number ends: the least and the greatest exponent of the first
digit. -/
def positional : Int × Int := (-5, 15)

/-- The fewest digits that read back, with a point or an exponent always. -/
def text (x : Binary64) : String :=
  if x.significand = 0 then "0.0"
  else
    let (digits, exponent) := x.shortest
    if positional.1 ≤ exponent ∧ exponent ≤ positional.2 then
      if exponent < 0 then
        "0." ++ String.ofList (List.replicate (-exponent - 1).toNat '0' ++ digits)
      else
        let whole := exponent.toNat + 1
        let front := digits.take whole ++ List.replicate (whole - digits.length) '0'
        let back := digits.drop whole
        String.ofList front ++ "." ++ if back.isEmpty then "0" else String.ofList back
    else
      let sign := if exponent < 0 then "-" else "+"
      let point := if digits.length = 1 then "" else "."
      String.ofList (digits.take 1) ++ point ++ String.ofList (digits.drop 1) ++ "e" ++ sign ++
        toString exponent.natAbs

end Binary64

end CqlClient
