import CqlClient.Assoc
import CqlClient.Json.Fault
import CqlClient.Text.Numeral

/-!
Reading JSON. Each reader takes the front of a text and gives what is left, which is shorter, so
that the readers end. Main functions: `parse` reads any value, `parseMembers` an object.
-/

namespace CqlClient.Json

/-- Why reading stopped, and how many bytes were not read then. -/
structure Stop where
  defect : Defect
  unread : Nat

/-- What is left of a text after a part of it. -/
abbrev Rest (cs : List Char) := { rest : List Char // rest.length < cs.length }

/-- What may be left of a text after a part of it that can be empty. -/
abbrev Tail (cs : List Char) := { rest : List Char // rest.length ≤ cs.length }

/-- How many bytes a text has. -/
def byteCount (cs : List Char) : Nat := cs.foldl (fun count c => count + c.utf8Size) 0

/-- Stop before a text of which nothing was read. -/
def Stop.before (defect : Defect) (cs : List Char) : Stop := ⟨defect, byteCount cs⟩

/-- Stop after the first byte of a text, or at its end if it is empty. -/
def Stop.on (defect : Defect) (cs : List Char) : Stop := ⟨defect, byteCount cs - 1⟩

/-- Stop where a text ends or goes on with something else. -/
def Stop.unexpected (atEnd otherwise : Defect) (cs : List Char) : Stop :=
  .on (if cs.isEmpty then atEnd else otherwise) cs

/-- Skip blanks, tabulators and line ends. -/
def skipBlanks (cs : List Char) : Tail cs :=
  ⟨cs.dropWhile fun c => c == ' ' || c == '\t' || c == '\n' || c == '\r',
    (List.dropWhile_sublist _).length_le⟩

/-- The largest integer that is kept exactly. -/
def maxWhole : Nat := UInt64.size - 1

/-- Continue a number by digits as long as it stays within a limit. Tells how many digits were not
used. -/
def absorb (limit value : Nat) : List Nat → Nat × Nat
  | [] => (value, 0)
  | d :: rest =>
      if value * 10 + d ≤ limit then absorb limit (value * 10 + d) rest
      else (value, rest.length + 1)

/-- Values of a row of digits, and what follows it. -/
def readDigits (cs : List Char) : List Nat × Tail cs :=
  let row := cs.takeWhile fun c => (Numeral.digit? c).isSome
  (row.filterMap Numeral.digit?, ⟨cs.drop row.length, by simp⟩)

/-- A point with digits after it, if there is a point. -/
def readFraction (cs : List Char) : Except Stop (Option (List Nat) × Tail cs) :=
  match cs with
  | '.' :: cs =>
      match readDigits cs with
      | ([], rest) => .error (.unexpected .endInValue .badNumber rest)
      | (digits, ⟨rest, h⟩) => .ok (some digits, ⟨rest, Nat.le_succ_of_le h⟩)
  | cs => .ok (none, ⟨cs, Nat.le_refl _⟩)

/-- The power of ten in a number. -/
structure Exponent where
  negative : Bool
  size : Nat
  /-- How many of its last digits do not count, because the size would become too large. -/
  unused : Nat

/-- The largest exponent that is computed with. -/
def maxExponent : Nat := 0x7fffffff

/-- A sign, if there is one. Tells whether it is a minus. -/
def readSign (cs : List Char) : Bool × Tail cs :=
  match cs with
  | '-' :: rest => (true, ⟨rest, Nat.le_succ _⟩)
  | '+' :: rest => (false, ⟨rest, Nat.le_succ _⟩)
  | cs => (false, ⟨cs, Nat.le_refl _⟩)

/-- An exponent with its sign, if there is one. -/
def readExponent (cs : List Char) : Except Stop (Option Exponent × Tail cs) :=
  match cs with
  | [] => .ok (none, ⟨[], Nat.le_refl _⟩)
  | e :: afterMark =>
      if e = 'e' ∨ e = 'E' then
        match readSign afterMark with
        | (negative, ⟨afterSign, hSign⟩) =>
            match readDigits afterSign with
            | ([], rest) => .error (.unexpected .endInValue .badNumber rest)
            | (digits, ⟨rest, hDigits⟩) =>
                let (size, unused) := absorb maxExponent 0 digits
                .ok (some ⟨negative, size, unused⟩,
                  ⟨rest, Nat.le_succ_of_le (Nat.le_trans hDigits hSign)⟩)
      else .ok (none, ⟨e :: afterMark, Nat.le_refl _⟩)

/-- The number with given parts; `none` if it is too large. -/
def ofParts (negative : Bool) (whole : List Nat) (fraction : Option (List Nat))
    (exponent : Option Exponent) : Option JsonNumber :=
  let (value, beyond) := absorb maxWhole 0 whole
  if beyond = 0 ∧ fraction.isNone ∧ exponent.isNone then
    if !negative then some (.integer value)
    else if 0 < value ∧ value ≤ 0x8000000000000000 then some (.integer (-value))
    else (Binary64.ofNat? value).map (.binary true)
  else
    let digits := fraction.getD []
    let (value, unused) := absorb maxWhole value digits
    let power : Int := beyond - (digits.length - unused : Nat)
    match exponent with
    | none => (Binary64.ofDecimal? value power).map (.binary negative)
    | some exponent =>
        if 0 < exponent.unused then
          if value ≠ 0 ∧ !exponent.negative then none else some (.binary negative .zero)
        else
          let power := if exponent.negative then power - exponent.size else power + exponent.size
          (Binary64.ofDecimal? value power).map (.binary negative)

/-- Read a number after its sign. A zero in front stands alone. -/
def readUnsigned (negative : Bool) (cs : List Char) : Except Stop (JsonNumber × Rest cs) :=
  match cs with
  | [] => .error (.on .endInValue [])
  | c :: afterFirst =>
      match Numeral.digit? c, readDigits afterFirst with
      | none, _ => .error (.on .badNumber (c :: afterFirst))
      | some first, (more, ⟨afterWhole, hWhole⟩) =>
          if first = 0 ∧ !more.isEmpty then .error (.on .badNumber afterFirst)
          else do
            let (fraction, ⟨afterFraction, hFraction⟩) ← readFraction afterWhole
            let (exponent, ⟨rest, hExponent⟩) ← readExponent afterFraction
            match ofParts negative (first :: more) fraction exponent with
            | some value =>
                return (value, ⟨rest,
                  Nat.lt_succ_of_le (Nat.le_trans hExponent (Nat.le_trans hFraction hWhole))⟩)
            | none =>
                let ignored := (exponent.map Exponent.unused).getD 0 - 1
                throw ⟨.numberTooLarge, byteCount rest + ignored⟩

/-- The number written by four hexadecimal digits. -/
def readUnit (cs : List Char) : Except Stop (Nat × Rest cs) :=
  match cs with
  | a :: b :: c :: d :: rest =>
      match [a, b, c, d].mapM Numeral.hexDigit? with
      | some digits =>
          .ok (digits.foldl (fun n d => n * 16 + d) 0, ⟨rest, by simp; omega⟩)
      | none => .error ⟨.badEscape, byteCount (a :: b :: c :: d :: rest) - 4⟩
  | cs =>
      if byteCount cs < 4 then .error ⟨.endInString, 0⟩
      else .error ⟨.badEscape, byteCount cs - 4⟩

/-- Read the second half of a pair of code units, as an escape of its own. -/
def readLowUnit (cs : List Char) : Except Stop (Nat × Rest cs) :=
  match cs with
  | '\\' :: 'u' :: digits => do
      let (low, ⟨rest, h⟩) ← readUnit digits
      if 0xDC00 ≤ low ∧ low < 0xE000 then return (low, ⟨rest, by simp; omega⟩)
      else throw (.before .loneSurrogate rest)
  | '\\' :: cs => .error (.unexpected .endInString .unpairedSurrogate cs)
  | cs => .error (.unexpected .endInString .unpairedSurrogate cs)

/-- Read what follows a backslash. A code unit that is the first half of a pair must be followed by
the second. -/
def readEscape (cs : List Char) : Except Stop (Char × Rest cs) :=
  match cs with
  | 'u' :: digits => do
      let (unit, ⟨rest, h⟩) ← readUnit digits
      if 0xD800 ≤ unit ∧ unit < 0xDC00 then
        let (low, ⟨rest, hLow⟩) ← readLowUnit rest
        return (Char.ofNat (0x10000 + (unit - 0xD800) * 0x400 + (low - 0xDC00)),
          ⟨rest, Nat.lt_succ_of_lt (Nat.lt_trans hLow h)⟩)
      else if 0xDC00 ≤ unit ∧ unit < 0xE000 then throw (.before .loneSurrogate rest)
      else return (Char.ofNat unit, ⟨rest, Nat.lt_succ_of_lt h⟩)
  | c :: rest =>
      match [('"', '"'), ('\\', '\\'), ('/', '/'), ('b', '\x08'), ('f', '\x0c'), ('n', '\n'),
          ('r', '\r'), ('t', '\t')].lookup c with
      | some meaning => .ok (meaning, ⟨rest, Nat.lt_succ_self _⟩)
      | none => .error (.on .badEscape (c :: rest))
  | [] => .error (.on .endInString [])

/-- Read the rest of a string that began before `start`. The characters before `cs` are done, and
the last of them stands first. -/
def readString (start done cs : List Char) (inside : cs.length ≤ start.length) :
    Except Stop (String × Rest start) :=
  match cs with
  | [] => .error (.on .endInString [])
  | c :: afterFirst =>
      if c = '"' then .ok (String.ofList done.reverse, ⟨afterFirst, inside⟩)
      else if c = '\\' then
        match readEscape afterFirst with
        | .error stop => .error stop
        | .ok (meaning, ⟨rest, h⟩) =>
            readString start (meaning :: done) rest (Nat.le_of_lt (Nat.lt_trans h inside))
      else if c.toNat < 0x20 then .error (.on .controlCharacter (c :: afterFirst))
      else readString start (c :: done) afterFirst (Nat.le_of_lt inside)
termination_by cs.length
decreasing_by
  · exact Nat.lt_succ_of_lt h
  · exact Nat.lt_succ_self _

/-- Read a string after its quote. -/
def readText (cs : List Char) : Except Stop (String × Rest cs) :=
  readString cs [] cs (Nat.le_refl _)

/-- Read the letters of a word that is given. -/
def readLetters (letters cs : List Char) : Except Stop (Tail cs) :=
  match letters, cs with
  | [], cs => .ok ⟨cs, Nat.le_refl _⟩
  | _ :: _, [] => .error (.on .endInValue [])
  | letter :: letters, c :: cs =>
      if c = letter then do
        let ⟨rest, h⟩ ← readLetters letters cs
        return ⟨rest, Nat.le_succ_of_le h⟩
      else .error (.on .wordExpected (c :: cs))

/-- Read a value that is neither an array nor an object. -/
def readScalar (cs : List Char) : Except Stop (Json × Rest cs) :=
  match cs with
  | [] => .error (.on .endInValue [])
  | c :: afterFirst => do
      match c with
      | 'n' =>
          let ⟨rest, h⟩ ← readLetters "ull".toList afterFirst
          return (.null, ⟨rest, Nat.lt_succ_of_le h⟩)
      | 't' =>
          let ⟨rest, h⟩ ← readLetters "rue".toList afterFirst
          return (.boolean true, ⟨rest, Nat.lt_succ_of_le h⟩)
      | 'f' =>
          let ⟨rest, h⟩ ← readLetters "alse".toList afterFirst
          return (.boolean false, ⟨rest, Nat.lt_succ_of_le h⟩)
      | '"' =>
          let (text, ⟨rest, h⟩) ← readText afterFirst
          return (.string text, ⟨rest, Nat.lt_succ_of_lt h⟩)
      | '-' =>
          let (value, ⟨rest, h⟩) ← readUnsigned true afterFirst
          return (.number value, ⟨rest, Nat.lt_succ_of_lt h⟩)
      | c =>
          if (Numeral.digit? c).isNone then throw (.on .valueExpected (c :: afterFirst))
          let (value, rest) ← readUnsigned false (c :: afterFirst)
          return (.number value, rest)

/-- Read the name of a member and the colon after it. -/
def readName (cs : List Char) : Except Stop (String × Rest cs) :=
  match cs with
  | '"' :: afterQuote => do
      let (name, ⟨afterName, hName⟩) ← readText afterQuote
      match skipBlanks afterName with
      | ⟨[], _⟩ => throw (.on .endInObject [])
      | ⟨c :: rest, h⟩ =>
          if c = ':' then return (name, ⟨rest, Nat.lt_succ_of_lt (Nat.lt_trans h hName)⟩)
          else throw (.on .colonExpected (c :: rest))
  | cs => .error (.unexpected .endInValue .nameExpected cs)

mutual

/-- Read a value that nests at most `depth` levels. -/
def readValue (depth : Nat) (cs : List Char) : Except Stop (Json × Rest cs) :=
  match skipBlanks cs with
  | ⟨[], _⟩ => .error (.on .endInValue [])
  | ⟨c :: inner, h⟩ =>
      if c = '[' then
        match depth with
        | 0 => .error (.on .tooDeep (c :: inner))
        | depth + 1 => do
            let (items, ⟨rest, hRest⟩) ← readArray depth inner
            return (.array items, ⟨rest, Nat.lt_trans hRest h⟩)
      else if c = '\x7b' then
        match depth with
        | 0 => .error (.on .tooDeep (c :: inner))
        | depth + 1 => do
            let (members, ⟨rest, hRest⟩) ← readObject depth inner
            return (.object members, ⟨rest, Nat.lt_trans hRest h⟩)
      else do
        let (value, ⟨rest, hRest⟩) ← readScalar (c :: inner)
        return (value, ⟨rest, Nat.lt_of_lt_of_le hRest h⟩)
termination_by (cs.length, 0)
decreasing_by all_goals exact Prod.Lex.left _ _ h

/-- Read an array after its bracket. -/
def readArray (depth : Nat) (cs : List Char) : Except Stop (List Json × Rest cs) :=
  match skipBlanks cs with
  | ⟨[], _⟩ => .error (.on .endInArray [])
  | ⟨c :: inner, h⟩ =>
      if c = ']' then .ok ([], ⟨inner, h⟩)
      else do
        let (items, ⟨rest, hRest⟩) ← readItems depth [] (c :: inner) (c :: inner) (Nat.le_refl _)
        return (items, ⟨rest, Nat.lt_of_lt_of_le hRest h⟩)
termination_by (cs.length, 2)
decreasing_by
  rcases Nat.lt_or_eq_of_le h with shorter | equal
  · exact Prod.Lex.left _ _ shorter
  · rw [equal]
    exact Prod.Lex.right _ (Nat.lt_succ_self 1)

/-- Read the items from `cs` to the end of an array that began before `start`. The items before `cs`
are done, and the last of them stands first. -/
def readItems (depth : Nat) (done : List Json) (start cs : List Char)
    (inside : cs.length ≤ start.length) : Except Stop (List Json × Rest start) :=
  match readValue depth cs with
  | .error stop => .error stop
  | .ok (item, ⟨afterItem, hItem⟩) =>
      match skipBlanks afterItem with
      | ⟨[], _⟩ => .error (.on .endInArray [])
      | ⟨mark :: afterMark, hMark⟩ =>
          have h := Nat.lt_of_lt_of_le (Nat.lt_trans hMark hItem) inside
          if mark = ']' then .ok ((item :: done).reverse, ⟨afterMark, h⟩)
          else if mark = ',' then
            match skipBlanks afterMark with
            | ⟨next, hNext⟩ =>
                if next.head? = some ']' then .error (.on .trailingComma next)
                else
                  readItems depth (item :: done) start next
                    (Nat.le_of_lt (Nat.lt_of_le_of_lt hNext h))
          else .error (.on .itemEndExpected (mark :: afterMark))
termination_by (cs.length, 1)
decreasing_by
  · exact Prod.Lex.right _ Nat.one_pos
  · exact Prod.Lex.left _ _ (Nat.lt_of_le_of_lt hNext (Nat.lt_trans hMark hItem))

/-- Read an object after its bracket. -/
def readObject (depth : Nat) (cs : List Char) :
    Except Stop (List (String × Json) × Rest cs) :=
  match skipBlanks cs with
  | ⟨[], _⟩ => .error (.on .endInObject [])
  | ⟨c :: inner, h⟩ =>
      if c = '\x7d' then .ok ([], ⟨inner, h⟩)
      else do
        let (members, ⟨rest, hRest⟩) ←
          readMembers depth [] (c :: inner) (c :: inner) (Nat.le_refl _)
        return (members, ⟨rest, Nat.lt_of_lt_of_le hRest h⟩)
termination_by (cs.length, 2)
decreasing_by
  rcases Nat.lt_or_eq_of_le h with shorter | equal
  · exact Prod.Lex.left _ _ shorter
  · rw [equal]
    exact Prod.Lex.right _ (Nat.lt_succ_self 1)

/-- Read the members from `cs` to the end of an object that began before `start`. The members before
`cs` are done, and the last of them stands first; of those with the same name the last stays. -/
def readMembers (depth : Nat) (done : List (String × Json)) (start cs : List Char)
    (inside : cs.length ≤ start.length) :
    Except Stop (List (String × Json) × Rest start) :=
  match readName cs with
  | .error stop => .error stop
  | .ok (name, ⟨afterName, hName⟩) =>
      match readValue depth afterName with
      | .error stop => .error stop
      | .ok (value, ⟨afterValue, hValue⟩) =>
          let done := (name, value) :: done
          match skipBlanks afterValue with
          | ⟨[], _⟩ => .error (.on .endInObject [])
          | ⟨mark :: afterMark, hMark⟩ =>
              have shorter := Nat.lt_trans hMark (Nat.lt_trans hValue hName)
              have h := Nat.lt_of_lt_of_le shorter inside
              if mark = '\x7d' then
                .ok ((Assoc.ofList done.reverse).entries, ⟨afterMark, h⟩)
              else if mark = ',' then
                match skipBlanks afterMark with
                | ⟨next, hNext⟩ =>
                    if next.head? = some '\x7d' then .error (.on .trailingComma next)
                    else
                      readMembers depth done start next
                        (Nat.le_of_lt (Nat.lt_of_le_of_lt hNext h))
              else .error (.on .memberEndExpected (mark :: afterMark))
termination_by (cs.length, 1)
decreasing_by
  · exact Prod.Lex.left _ _ hName
  · exact Prod.Lex.left _ _ (Nat.lt_of_le_of_lt hNext shorter)

end

/-- How many levels a text may nest. -/
def maxDepth : Nat := 127

/-- Stop if a text goes on after its value. -/
def finish (cs : List Char) : Except Stop Unit :=
  match skipBlanks cs with
  | ⟨[], _⟩ => .ok ()
  | ⟨rest, _⟩ => .error (.on .trailingText rest)

/-- Locate in a text where reading it stopped. -/
def locate {α : Type} (text : String) : Except Stop α → Except Fault α
  | .ok value => .ok value
  | .error stop => .error (.ofUnread text stop.defect stop.unread)

/-- The value of a text, which nests at most `depth` levels. -/
def parse (depth : Nat) (text : String) : Except Fault Json :=
  locate text do
    let (value, rest) ← readValue depth text.toList
    finish rest
    return value

/-- The members of the object that a text writes, which nests at most `depth` levels. Of another
value only its kind is looked at. -/
def parseMembers (depth : Nat) (text : String) : Except Fault (List (String × Json)) :=
  locate text do
    let cs := (skipBlanks text.toList).val
    if cs.head? = some '[' then throw (.before (.objectExpected (.array [])) cs)
    match ← readValue depth cs with
    | (.object members, rest) =>
        finish rest
        return members
    | (value, rest) => throw (.before (.objectExpected value) rest)

end CqlClient.Json
