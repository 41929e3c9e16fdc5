import CqlClient.Ring.Token

namespace CqlClient

/-- Tokens with their owners, in the order of the tokens. An owner stands once for each of its
tokens. -/
structure TokenRing (α : Type) where
  entries : List (Token × α)
  deriving DecidableEq

namespace TokenRing

variable {α : Type}

/-- The ring without entries. -/
def empty : TokenRing α := ⟨[]⟩

instance : Inhabited (TokenRing α) := ⟨empty⟩

/-- The ring of the given entries. Of equal tokens, the one that came first stays first. -/
def ofEntries (entries : List (Token × α)) : TokenRing α :=
  ⟨entries.mergeSort fun a b => a.1.atMost b.1⟩

/-- The entries in the order met when going once around the ring from a token on: first those with a
token that is not smaller, then the others. -/
def walk (ring : TokenRing α) (token : Token) : List (Token × α) :=
  ring.entries.dropWhile (·.1.before token) ++ ring.entries.takeWhile (·.1.before token)

/-- The owners met when going once around the ring. -/
def owners (ring : TokenRing α) (token : Token) : List α :=
  (ring.walk token).map Prod.snd

/-- The owner of a token: that of the smallest token which is not smaller, or else of the smallest
token of the ring. -/
def owner? (ring : TokenRing α) (token : Token) : Option α :=
  (ring.owners token).head?

/-- Number of entries. -/
def size (ring : TokenRing α) : Nat := ring.entries.length

/-- Whether there are no entries. -/
def isEmpty (ring : TokenRing α) : Bool := ring.entries.isEmpty

/-- The ring without the entries of an owner. -/
def without [DecidableEq α] (ring : TokenRing α) (owner : α) : TokenRing α :=
  ⟨ring.entries.filter fun entry => entry.2 ≠ owner⟩

end TokenRing

end CqlClient
