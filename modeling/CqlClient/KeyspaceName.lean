namespace CqlClient

/-- Why a text is not the name of a keyspace. -/
inductive KeyspaceNameError
  | empty
  | tooLong (name : String) (length : Nat)
  | illegalCharacter (name : String) (character : Char)
  deriving DecidableEq, Repr

namespace KeyspaceNameError

/-- Name of the error. -/
def kind : KeyspaceNameError → String
  | .empty => "Empty"
  | .tooLong _ _ => "TooLong"
  | .illegalCharacter _ _ => "IllegalCharacter"

/-- Wording of the error. -/
def message : KeyspaceNameError → String
  | .empty => "Keyspace name is empty"
  | .tooLong name length =>
      "Keyspace name too long, must be up to 48 characters, found " ++ toString length ++
        " characters. Bad keyspace name: '" ++ name ++ "'"
  | .illegalCharacter name character =>
      "Illegal character found: '" ++ character.toString ++
        "', only alphanumeric and underscores allowed. Bad keyspace name: '" ++ name ++ "'"

end KeyspaceNameError

/-- Whether a character may stand in the name of a keyspace: ASCII letters, digits and the
underscore. -/
def isKeyspaceCharacter (c : Char) : Bool :=
  c.isAlphanum || c == '_'

/-- The longest name of a keyspace. -/
def maxKeyspaceNameLength : Nat := 48

/-- What is wrong with the name of a keyspace, if anything is. -/
def keyspaceNameFault? (name : String) : Option KeyspaceNameError :=
  if name.isEmpty then some .empty
  else if maxKeyspaceNameLength < name.length then some (.tooLong name name.length)
  else (name.toList.find? fun c => !isKeyspaceCharacter c).map (.illegalCharacter name)

/-- A name that can stand in a USE statement. -/
structure KeyspaceName where
  text : String
  /-- Whether the name is quoted, which keeps its case. -/
  isCaseSensitive : Bool
  isValid : keyspaceNameFault? text = none
  deriving DecidableEq

namespace KeyspaceName

/-- The name with a given text, or what is wrong with it. -/
def ofText (text : String) (isCaseSensitive : Bool) : Except KeyspaceNameError KeyspaceName :=
  match h : keyspaceNameFault? text with
  | none => .ok ⟨text, isCaseSensitive, h⟩
  | some fault => .error fault

/-- The statement that switches a connection to the keyspace. -/
def useStatement (name : KeyspaceName) : String :=
  if name.isCaseSensitive then "USE \"" ++ name.text ++ "\"" else "USE " ++ name.text

/-- Whether a node's answer names the keyspace, up to the case of ASCII letters. -/
def isNamedBy (name : KeyspaceName) (answer : String) : Bool :=
  answer.toLower == name.text.toLower

end KeyspaceName

end CqlClient
