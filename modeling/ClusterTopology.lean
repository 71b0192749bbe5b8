import ClusterTopology.Cluster
import ClusterTopology.CommandLine
import ClusterTopology.Component.Data
import ClusterTopology.Json.Document
import ClusterTopology.Main
import ClusterTopology.Pd.Instance
import ClusterTopology.Simulation.Run
import ClusterTopology.Tidb.Instance
import ClusterTopology.Time
import ClusterTopology.Proofs.Discoverer.Transition
import ClusterTopology.Proofs.Discoverer.Run
import ClusterTopology.Proofs.Discoverer.Cycles
import ClusterTopology.Proofs.Discoverer.Subscribers
import ClusterTopology.Proofs.Discoverer.Requests
import ClusterTopology.Proofs.Discoverer.Unread
import ClusterTopology.Proofs.Discoverer.Closing
import ClusterTopology.Proofs.Discoverer.Starts
import ClusterTopology.Proofs.Discoverer.Supervision
import ClusterTopology.Proofs.Discoverer.Flights
import ClusterTopology.Proofs.Mailbox.Board
import ClusterTopology.Proofs.Mailbox.Refinement
import ClusterTopology.Proofs.Cluster.Blocks
import ClusterTopology.Proofs.Cluster.Calls
import ClusterTopology.Proofs.Cluster.AllOrNothing
import ClusterTopology.Proofs.Cluster.Composition
import ClusterTopology.Proofs.Url.Below
import ClusterTopology.Proofs.Cluster.Answers
import ClusterTopology.Proofs.Cluster.Course
import ClusterTopology.Proofs.Cluster.Budget
import ClusterTopology.Proofs.Discoverer.Following
import ClusterTopology.Proofs.Discoverer.Exhaustive
import ClusterTopology.Proofs.Text.Basic
import ClusterTopology.Proofs.Address.Reading
import ClusterTopology.Proofs.Url.Host
import ClusterTopology.Proofs.Url.PlainNames
import ClusterTopology.Proofs.Address.Endpoint
import ClusterTopology.Proofs.Tidb.Heartbeats
import ClusterTopology.Proofs.Tidb.Entries
import ClusterTopology.Proofs.Data.Records
import ClusterTopology.Proofs.Tidb.Servers
import ClusterTopology.Proofs.Tidb.Order
import ClusterTopology.Proofs.Discoverer.Dropping
import ClusterTopology.Proofs.Discoverer.Prospects
import ClusterTopology.Proofs.Discoverer.Ticks
import ClusterTopology.Proofs.Discoverer.Rate
import ClusterTopology.Proofs.Discoverer.ClockRange
import ClusterTopology.Proofs.Config.Expansion
import ClusterTopology.Proofs.Config.GivenEndpoints
import ClusterTopology.Proofs.Pd.Stores
import ClusterTopology.Proofs.Pd.Members
import ClusterTopology.Proofs.Pd.Nulls
import ClusterTopology.Proofs.Pd.EmptyLists
import ClusterTopology.Proofs.Text.Quoting
import ClusterTopology.Proofs.Tls.Sections
import ClusterTopology.Proofs.Tls.Settings
import ClusterTopology.Proofs.Tls.Redaction
import ClusterTopology.Proofs.Tls.Credentials
import ClusterTopology.Proofs.Json.Tokens
import ClusterTopology.Proofs.Json.Strings
import ClusterTopology.Proofs.Json.Numbers
import ClusterTopology.Proofs.Json.Writing
import ClusterTopology.Proofs.Data.Readability
import ClusterTopology.Proofs.Data.Replacement
import ClusterTopology.Proofs.Component.Persistence
