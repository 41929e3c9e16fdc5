namespace CqlClient.Text

/-- The character around a literal of the query language. -/
def apostrophe : Char := Char.ofNat 39

/-- Characters as they stand inside a literal: an apostrophe is written twice. -/
def doubleApostrophes : List Char → List Char
  | [] => []
  | c :: rest =>
      if c = apostrophe then apostrophe :: apostrophe :: doubleApostrophes rest
      else c :: doubleApostrophes rest

/-- A text as a literal of the query language. -/
def literal (text : String) : String :=
  String.ofList (apostrophe :: (doubleApostrophes text.toList ++ [apostrophe]))

end CqlClient.Text
