import CqlClient.Json.Reader
import CqlClient.Text.Blank

namespace CqlClient

/-- How a keyspace places its replicas. -/
inductive Strategy
  /-- The first distinct owners met on the ring. -/
  | simple (replicas : Nat)
  /-- A number of replicas for each datacenter, spread over its racks. -/
  | perDatacenter (replicas : Assoc String Nat)
  /-- The owner, a node of another datacenter, a node of another rack, then the next owners. -/
  | acrossDatacenters (replicas : Nat)
  /-- A single replica. -/
  | single
  /-- A strategy that cannot be computed with. -/
  | other (className : String) (options : Assoc String String)
  deriving DecidableEq

/-- Why the options of a strategy have no meaning. -/
inductive StrategyError
  | unreadable (fault : Json.Fault)
  | unexpectedValue (value : Json) (option : String)
  | missingFactor
  | badFactor (option value : String)

namespace StrategyError

/-- Name of the error. -/
def kind : StrategyError → String
  | .unreadable _ => "BadOptions"
  | .unexpectedValue _ _ => "BadOptions"
  | .missingFactor => "MissingReplicationFactor"
  | .badFactor _ _ => "BadReplicationFactor"

/-- Wording of the error. -/
def message : StrategyError → String
  | .unreadable fault => "Strategy options are not a JSON map: " ++ fault.message
  | .unexpectedValue value option =>
      "Strategy options are not a JSON map: unexpected value " ++ value.text ++ " for " ++ option
  | .missingFactor => "Missing replication_factor option"
  | .badFactor option value =>
      "Invalid replication factor " ++ Text.quoted value ++ " for " ++ option

end StrategyError

namespace Strategy

/-- Name of the option with the number of replicas. -/
def factorOption : String := "replication_factor"

/-- Name of the option that repeats the class. -/
def classOption : String := "class"

/-- Options are strings; numbers stand for their text. -/
def optionText (member : String × Json) : Except StrategyError (String × String) :=
  match member.2 with
  | .string text => .ok (member.1, text)
  | .number value => .ok (member.1, value.text)
  | value => .error (.unexpectedValue value member.1)

/-- The options written by a text; a blank text has none. -/
def readOptions (text : String) : Except StrategyError (Assoc String String) := do
  if (Text.trimBlanks text).isEmpty then return .empty
  let members ← (Json.parseMembers Json.maxDepth text).mapError .unreadable
  return Assoc.ofList (← members.mapM optionText)

/-- The number of replicas that an option asks for. -/
def readFactor (option value : String) : Except StrategyError Nat :=
  match Numeral.size? (Text.trimBlanks value) with
  | some n => .ok n
  | none => .error (.badFactor option value)

/-- The number of replicas of a strategy with only one. -/
def onlyFactor (options : Assoc String String) : Except StrategyError Nat :=
  match options.get? factorOption with
  | some value => readFactor factorOption value
  | none => .error .missingFactor

/-- A class name without the package in front. -/
def simpleName (className : String) : String :=
  String.ofList (className.toList.reverse.takeWhile (· ≠ '.')).reverse

/-- The strategy with a given class, qualified or not, and options. -/
def ofSchema (className options : String) : Except StrategyError Strategy := do
  let options := (← readOptions options).erase classOption
  match simpleName className with
  | "SimpleStrategy" => return .simple (← onlyFactor options)
  | "OldNetworkTopologyStrategy" => return .acrossDatacenters (← onlyFactor options)
  | "NetworkTopologyStrategy" =>
      let factors ← options.entries.mapM fun option => do
        return (option.1, ← readFactor option.1 option.2)
      return .perDatacenter (Assoc.ofList factors)
  | "LocalStrategy" => return .single
  | _ => return .other className options

end Strategy

end CqlClient
