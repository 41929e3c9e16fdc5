import CqlClient.Bytes

namespace CqlClient

/-- Answers a node that asks who the client is. All that an answer may depend on is what the node
sent so far. -/
structure Authenticator where
  /-- The first token, for a node that announced its authenticator. -/
  start : (announced : String) → Except String (Option Bytes)
  /-- The answer to the last of the challenges so far. -/
  answer : (announced : String) → (challenges : List (Option Bytes)) →
    Except String (Option Bytes)
  /-- Whether the token with which the node accepts is accepted in turn. -/
  finish : (announced : String) → (challenges : List (Option Bytes)) → (token : Option Bytes) →
    Except String Unit

namespace Authenticator

/-- The token that carries a user name and a password. -/
def plainToken (username password : String) : Bytes :=
  0 :: (Bytes.ofString username ++ 0 :: Bytes.ofString password)

/-- A user name and a password, sent at once; no challenge can be answered. -/
def plainText (username password : String) : Authenticator where
  start _ := .ok (some (plainToken username password))
  answer _ _ := .error "Challenges are not expected during plain text authentication"
  finish _ _ _ := .ok ()

end Authenticator

/-- An exchange with one node. -/
structure AuthSession where
  authenticator : Authenticator
  announced : String
  /-- The challenges so far. -/
  challenges : List (Option Bytes)

namespace AuthSession

/-- Begin an exchange. Gives the first token. -/
def start (authenticator : Authenticator) (announced : String) :
    Except String (Option Bytes × AuthSession) :=
  (authenticator.start announced).map fun token => (token, ⟨authenticator, announced, []⟩)

/-- Answer a challenge. -/
def answer (session : AuthSession) (challenge : Option Bytes) :
    Except String (Option Bytes × AuthSession) :=
  let session := { session with challenges := session.challenges ++ [challenge] }
  (session.authenticator.answer session.announced session.challenges).map fun token =>
    (token, session)

/-- Check the last token of the node. -/
def finish (session : AuthSession) (token : Option Bytes) : Except String Unit :=
  session.authenticator.finish session.announced session.challenges token

end AuthSession

end CqlClient
