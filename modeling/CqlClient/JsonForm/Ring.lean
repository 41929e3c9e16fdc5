import CqlClient.JsonForm.Basic
import CqlClient.Placement.Strategy
import CqlClient.Ring.Partitioner

/-!
JSON forms of tokens and of replication strategies.
-/

namespace CqlClient

namespace Partitioner

/-- The partitioners by their short names. -/
def shortNames : List (String × Partitioner) :=
  [("Murmur3", .murmur3), ("Random", .random), ("ByteOrdered", .byteOrdered),
    ("OrderPreserving", .orderPreserving)]

/-- A partitioner by its short name; the usual one for null. -/
def ofJson (json : Json) : Decoded Partitioner := do
  match shortNames.lookup (← json.toDefault "Murmur3" Json.toStr) with
  | some partitioner => return partitioner
  | none => throw "partitioner expected"

end Partitioner

/-- The JSON form of a bad token. -/
def TokenTextError.toJson (error : TokenTextError) : Json :=
  .failure "TokenParseError" error.message

namespace Token

/-- Short name of the partitioner of a token. -/
def kind : Token → String
  | .murmur3 _ => "Murmur3"
  | .random _ => "Random"
  | .byteOrdered _ => "ByteOrdered"
  | .orderPreserving _ => "OrderPreserving"

/-- The JSON form of a token. -/
def toJson (token : Token) : Json := .object [("kind", token.kind), ("value", .ofText token.text)]

/-- A token by its text, by the key that it belongs to, or by its hash. The text may be bad. -/
def ofJson (json : Json) : Decoded (Except TokenTextError Token) := do
  match json with
  | .string text => return Partitioner.murmur3.parseToken text
  | _ =>
      if json.has "hash" then
        match Numeral.int64? (← (json.get "hash").toStr) with
        | some hash => return .ok (.ofHash hash)
        | none => throw "hash expected"
      let partitioner ← Partitioner.ofJson (json.get "p")
      if json.has "key" then return .ok (partitioner.token (← Bytes.ofJson (json.get "key")))
      else return partitioner.parseToken (← (json.get "text").toText)

end Token

/-- The JSON form of a strategy error; where options cannot be read, only its kind. -/
def StrategyError.toJson : StrategyError → Json
  | .unreadable fault => .object [("error", kind (.unreadable fault))]
  | error => .failure error.kind error.message

namespace Strategy

/-- Pairs in the order of their first parts. -/
def sortedPairs {α : Type} (encode : α → Json) (pairs : Assoc String α) : Json :=
  .ofList (fun pair => .array [.ofText pair.1, encode pair.2])
    (pairs.entries.mergeSort fun a b => !decide (b.1 < a.1))

/-- The JSON form of a strategy. -/
def toJson : Strategy → Json
  | .simple count => .ofKind "Simple" [("rf", .ofDecimal count)]
  | .acrossDatacenters count => .ofKind "OldNetworkTopology" [("rf", .ofDecimal count)]
  | .perDatacenter factors =>
      .ofKind "NetworkTopology" [("rf", sortedPairs (fun (n : Nat) => .ofDecimal n) factors)]
  | .single => .ofKind "Local" []
  | .other className options =>
      .ofKind "Other" [("name", .ofText className), ("data", sortedPairs .ofText options)]

/-- A strategy by its form. -/
def ofJson (json : Json) : Decoded Strategy := do
  match ← (json.get "kind").toStr with
  | "Simple" => .simple <$> (json.get "rf").toNat
  | "OldNetworkTopology" => .acrossDatacenters <$> (json.get "rf").toNat
  | "NetworkTopology" =>
      return .perDatacenter (Assoc.ofList (← (json.get "rf").toPairs Json.toNat))
  | "Local" => return .single
  | "Other" => return .other (← (json.get "name").toText) .empty
  | _ => throw "strategy expected"

end Strategy

end CqlClient
