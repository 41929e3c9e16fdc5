import CqlClient.Address
import CqlClient.Assoc
import CqlClient.Authentication
import CqlClient.Bytes
import CqlClient.Cell.Reader
import CqlClient.Cell.Writer
import CqlClient.Client
import CqlClient.Client.ClusterAccess
import CqlClient.Client.SessionAccess
import CqlClient.Cluster.Control
import CqlClient.Cluster.EventHandling
import CqlClient.Cluster.SystemTables
import CqlClient.Cluster.View
import CqlClient.Cluster.Worker
import CqlClient.Compression
import CqlClient.Compression.Factor
import CqlClient.Compression.Lz4
import CqlClient.Compression.Snappy
import CqlClient.Config
import CqlClient.Connection.Exchange
import CqlClient.Connection.Handshake
import CqlClient.Connection.Lifecycle
import CqlClient.Connection.Pending
import CqlClient.Connection.Reply
import CqlClient.Consistency
import CqlClient.Failure.Attempt
import CqlClient.Failure.Connection
import CqlClient.Failure.Discovery
import CqlClient.Frame
import CqlClient.Hash.Md5
import CqlClient.Hash.Murmur3
import CqlClient.Json
import CqlClient.Json.Access
import CqlClient.Json.Fault
import CqlClient.Json.Reader
import CqlClient.JsonForm.Basic
import CqlClient.JsonForm.Failure
import CqlClient.JsonForm.Message
import CqlClient.JsonForm.Rehearsal
import CqlClient.JsonForm.Ring
import CqlClient.JsonForm.Topology
import CqlClient.KeyspaceName
import CqlClient.Message.DatabaseError
import CqlClient.Message.Event
import CqlClient.Message.EventType
import CqlClient.Message.Request
import CqlClient.Message.Response
import CqlClient.Message.Result
import CqlClient.Network
import CqlClient.Number.Binary64
import CqlClient.Placement.Replicas
import CqlClient.Placement.Strategy
import CqlClient.Rehearsal.Run
import CqlClient.Rehearsal.Script
import CqlClient.Rehearsal.Stage
import CqlClient.Retry.Context
import CqlClient.Retry.Policy
import CqlClient.Ring.Partitioner
import CqlClient.Ring.Token
import CqlClient.Ring.TokenRing
import CqlClient.Routing.Policy
import CqlClient.Routing.Rotation
import CqlClient.Session
import CqlClient.Session.ConnectionCache
import CqlClient.Session.Execution
import CqlClient.Session.QueryResult
import CqlClient.Statement.Prepared
import CqlClient.Statement.Query
import CqlClient.Text.Blank
import CqlClient.Text.Duration
import CqlClient.Text.Literal
import CqlClient.Text.Numeral
import CqlClient.Text.Quoted
import CqlClient.Text.Unprinted
import CqlClient.Text.Utf16
import CqlClient.Text.Utf8
import CqlClient.Topology.Keyspace
import CqlClient.Topology.Peer
import CqlClient.Topology.Snapshot
import CqlClient.Uuid
import CqlClient.Wire.Error
import CqlClient.Wire.Reader
import CqlClient.Wire.Writer
import CqlClient.Proofs.Assoc
import CqlClient.Proofs.Ring.TokenOrder
import CqlClient.Proofs.Topology.Consistency
import CqlClient.Proofs.Cluster.Agreement
import CqlClient.Proofs.Connection.LateAnswers
import CqlClient.Proofs.Placement.Spread
import CqlClient.Proofs.Placement.Distinct
import CqlClient.Proofs.Routing.Plans
import CqlClient.Proofs.Wire.RoundTrip
import CqlClient.Proofs.Wire.Accepted
import CqlClient.Proofs.Compression.Factor
import CqlClient.Proofs.Compression.Lz4
import CqlClient.Proofs.Compression.Snappy
import CqlClient.Proofs.Compression.Runs
import CqlClient.Proofs.Frame.Transport
import CqlClient.Proofs.Frame.Outgrown
import CqlClient.Proofs.Message.Event
import CqlClient.Proofs.Message.DatabaseError
import CqlClient.Proofs.Message.Request
import CqlClient.Proofs.Message.Result
import CqlClient.Proofs.Message.Response
import CqlClient.Proofs.Message.Delimited
import CqlClient.Proofs.Wire.SelfDelimiting
import CqlClient.Proofs.Connection.Pending
import CqlClient.Proofs.Session.Execution
import CqlClient.Proofs.Connection.Handshake
import CqlClient.Proofs.Connection.Lifecycle
import CqlClient.Proofs.Connection.Outcomes
import CqlClient.Proofs.Connection.Fairness
import CqlClient.Proofs.Connection.Dialogue
import CqlClient.Proofs.Connection.Conformance
import CqlClient.Proofs.Connection.Opening
import CqlClient.Proofs.Client.Waiting
import CqlClient.Proofs.Client.Quiet
import CqlClient.Proofs.Client.Opening
import CqlClient.Proofs.Cluster.Refresh
import CqlClient.Proofs.Cluster.UnlistedPeer
import CqlClient.Proofs.Retry.Opening
import CqlClient.Proofs.Cluster.Registration
import CqlClient.Proofs.Cluster.Following
import CqlClient.Proofs.Cluster.Notification
import CqlClient.Proofs.Ring.Canonical
import CqlClient.Proofs.Placement.HistoryIndependence
import CqlClient.Proofs.Session.Termination
import CqlClient.Proofs.Client.Contact
import CqlClient.Proofs.Cluster.Failover
import CqlClient.Proofs.Placement.Racks
import CqlClient.Proofs.Session.Limits
import CqlClient.Session.Sharing
import CqlClient.Proofs.Connection.Completion
import CqlClient.Proofs.Session.Sharing
import CqlClient.Proofs.Routing.Eligibility
import CqlClient.Proofs.Cluster.ControlNode
import CqlClient.Proofs.Ring.Walk
import CqlClient.Proofs.Placement.Independence
import CqlClient.Proofs.Placement.Across
import CqlClient.Proofs.Placement.Coincidence
import CqlClient.Proofs.Connection.Streams
import CqlClient.Proofs.Frame.Stream
import CqlClient.Proofs.Routing.Rotation
import CqlClient.Proofs.Session.Spelling
import CqlClient.Proofs.Ring.TokenText
import CqlClient.Proofs.Hash.Murmur3
import CqlClient.Proofs.Wire.Canonical
import CqlClient.Proofs.Cell.Collections
import CqlClient.Proofs.Cell.RowAccess
import CqlClient.Proofs.Message.RowCount
import CqlClient.Proofs.Message.NodeEvent
import CqlClient.Proofs.Ring.TokenComparison
import CqlClient.Proofs.Retry.Cursor
import CqlClient.Proofs.Text.Literal
import CqlClient.Proofs.Client.Statements
