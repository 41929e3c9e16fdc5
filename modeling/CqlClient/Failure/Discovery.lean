import CqlClient.Failure.Attempt
import CqlClient.Placement.Strategy
import CqlClient.Ring.Partitioner

namespace CqlClient

/-- Failure to read the system tables. -/
inductive MetadataError
  | query (table : String) (error : AttemptError)
  | badRow (table reason : String)
  | missingLocalRow
  | unknownPartitioner (className : String)
  | badToken (error : TokenTextError)
  | badStrategy (keyspace : String) (error : StrategyError)
  | timeout (deadline : Duration)

namespace MetadataError

/-- Name of the error. -/
def kind : MetadataError → String
  | .query _ _ => "Query"
  | .badRow _ _ => "BadRow"
  | .missingLocalRow => "MissingLocalRow"
  | .unknownPartitioner _ => "UnknownPartitioner"
  | .badToken _ => "TokenParseError"
  | .badStrategy _ _ => "Replication"
  | .timeout _ => "Timeout"

/-- Wording of the error. -/
def message : MetadataError → String
  | .query table error => "Failed to query " ++ table ++ ": " ++ error.message
  | .badRow table reason => "Bad row in " ++ table ++ ": " ++ reason
  | .missingLocalRow => "system.local returned no rows"
  | .unknownPartitioner className => "Unknown partitioner: " ++ className
  | .badToken error => error.message
  | .badStrategy keyspace error =>
      "Bad replication of keyspace " ++ keyspace ++ ": " ++ error.message
  | .timeout deadline => "Reading metadata timed out after " ++ deadline.text

end MetadataError

/-- What is wrong with a configuration. -/
inductive ConfigError
  | noSeeds
  | badSeed (text : String)
  deriving DecidableEq, Repr

namespace ConfigError

/-- Name of the error. -/
def kind : ConfigError → String
  | .noSeeds => "EmptySeedList"
  | .badSeed _ => "BadSeed"

/-- Wording of the error. -/
def message : ConfigError → String
  | .noSeeds => "Empty seed list"
  | .badSeed text => "Invalid seed address: " ++ text

end ConfigError

/-- Failure to discover a cluster. -/
inductive DiscoveryError
  | noAvailablePeers (last : ConnectionError)
  | metadata (error : MetadataError)
  | config (error : ConfigError)

namespace DiscoveryError

/-- Name of the error. -/
def kind : DiscoveryError → String
  | .noAvailablePeers _ => "NoAvailablePeers"
  | .metadata error => "Metadata." ++ error.kind
  | .config error => error.kind

/-- Wording of the error. -/
def message : DiscoveryError → String
  | .noAvailablePeers last => "Could not connect to any seed, last error: " ++ last.message
  | .metadata error => error.message
  | .config error => error.message

end DiscoveryError

end CqlClient
