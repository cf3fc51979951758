import VaultProjection.Backoff
import VaultProjection.Base64
import VaultProjection.Bytes
import VaultProjection.Cluster.Call
import VaultProjection.Cluster.Error
import VaultProjection.Cluster.Recorder
import VaultProjection.Config.Basic
import VaultProjection.Config.Flags
import VaultProjection.Decimal.Double
import VaultProjection.Decimal.Numeral
import VaultProjection.Decimal.Shortest
import VaultProjection.Digest
import VaultProjection.Dispatch
import VaultProjection.Entries
import VaultProjection.Event
import VaultProjection.Json.Basic
import VaultProjection.Json.Decode
import VaultProjection.Json.Fault
import VaultProjection.Json.Merge
import VaultProjection.Json.Number
import VaultProjection.Json.Raw
import VaultProjection.Json.Read
import VaultProjection.Json.Shape
import VaultProjection.Json.Write
import VaultProjection.Key
import VaultProjection.Kube.Meta
import VaultProjection.Kube.Output
import VaultProjection.Main
import VaultProjection.Pass.Basic
import VaultProjection.Pass.Drift
import VaultProjection.Pass.Error
import VaultProjection.Pass.Status
import VaultProjection.Pass.Structural
import VaultProjection.Pattern.Basic
import VaultProjection.Pattern.Bracket
import VaultProjection.Pattern.CharSet
import VaultProjection.Pattern.Escape
import VaultProjection.Pattern.Flags
import VaultProjection.Pattern.Match
import VaultProjection.Pattern.Read
import VaultProjection.Pem
import VaultProjection.Projection.Document
import VaultProjection.Projection.Error
import VaultProjection.Projection.Handler
import VaultProjection.Projection.Transform
import VaultProjection.Proofs.Backing.Law
import VaultProjection.Proofs.Backing.Runs
import VaultProjection.Proofs.Convergence.Converges
import VaultProjection.Proofs.Convergence.Passes
import VaultProjection.Proofs.Convergence.Steps
import VaultProjection.Proofs.Convergence.World
import VaultProjection.Proofs.Digest.Preimage
import VaultProjection.Proofs.Idempotence.Again
import VaultProjection.Proofs.Idempotence.Backend
import VaultProjection.Proofs.Idempotence.Steps
import VaultProjection.Proofs.Idempotence.Writes
import VaultProjection.Proofs.Json.Lexing
import VaultProjection.Proofs.Json.Reading
import VaultProjection.Proofs.Json.Values
import VaultProjection.Proofs.Json.Writing
import VaultProjection.Proofs.Pass.Audit
import VaultProjection.Proofs.Pass.Independence
import VaultProjection.Proofs.Pass.Kick
import VaultProjection.Proofs.Pass.Outputs
import VaultProjection.Proofs.Pass.Ownership
import VaultProjection.Proofs.Pass.Payload
import VaultProjection.Proofs.Pass.Pool
import VaultProjection.Proofs.Pass.Run
import VaultProjection.Proofs.Pass.Served
import VaultProjection.Proofs.Pass.Transcript
import VaultProjection.Proofs.Pem.Cutting
import VaultProjection.Proofs.Pem.Lines
import VaultProjection.Proofs.Pem.Segments
import VaultProjection.Proofs.Pem.Written
import VaultProjection.Proofs.Projection.Chain
import VaultProjection.Proofs.Projection.Layout
import VaultProjection.Proofs.Projection.Pipeline
import VaultProjection.Proofs.Projection.Reads
import VaultProjection.Proofs.Projection.Recipe
import VaultProjection.Proofs.Queue.Allowance
import VaultProjection.Proofs.Queue.Callers
import VaultProjection.Proofs.Queue.Deadlines
import VaultProjection.Proofs.Queue.Deletion
import VaultProjection.Proofs.Queue.Delivery
import VaultProjection.Proofs.Queue.Growth
import VaultProjection.Proofs.Queue.Keys
import VaultProjection.Proofs.Queue.Pair
import VaultProjection.Proofs.Queue.Sound
import VaultProjection.Proofs.Queue.View
import VaultProjection.Proofs.Queue.Wakeups
import VaultProjection.Proofs.Resource.RoundTrip
import VaultProjection.Proofs.Settlement.Budget
import VaultProjection.Proofs.Settlement.Settles
import VaultProjection.Proofs.Status.Attempts
import VaultProjection.Proofs.Status.Exact
import VaultProjection.Proofs.Status.Groups
import VaultProjection.Proofs.Status.Patch
import VaultProjection.Proofs.Text.Base64
import VaultProjection.Proofs.Text.Offsets
import VaultProjection.Proofs.Text.Search
import VaultProjection.Proofs.Text.Strict
import VaultProjection.Proofs.Vault.Missing
import VaultProjection.Proofs.Watch.Coverage
import VaultProjection.Proofs.Watch.Inert
import VaultProjection.Proofs.Watch.Owner
import VaultProjection.Proofs.Watch.Replay
import VaultProjection.Proofs.Watch.Resync
import VaultProjection.Proofs.Watch.Shelf
import VaultProjection.Proofs.Watch.Steps
import VaultProjection.Queue.Basic
import VaultProjection.Queue.Pair
import VaultProjection.Resource.Basic
import VaultProjection.Resource.Definition
import VaultProjection.Resource.Form
import VaultProjection.Retry
import VaultProjection.Server
import VaultProjection.Sha256
import VaultProjection.Simulation.ApiServer
import VaultProjection.Simulation.Bench
import VaultProjection.Simulation.Follower
import VaultProjection.Simulation.ObjectStore
import VaultProjection.Simulation.Site
import VaultProjection.Simulation.Step
import VaultProjection.Simulation.Watch
import VaultProjection.Startup
import VaultProjection.Status.Update
import VaultProjection.Telemetry.Exposition
import VaultProjection.Telemetry.Filter
import VaultProjection.Telemetry.Log
import VaultProjection.Telemetry.Meter
import VaultProjection.Text.Basic
import VaultProjection.Text.CaseFold
import VaultProjection.Text.Category
import VaultProjection.Text.CodeTable
import VaultProjection.Text.CombiningClass
import VaultProjection.Text.Composed
import VaultProjection.Text.Decomposition
import VaultProjection.Text.Direction
import VaultProjection.Text.Joining
import VaultProjection.Text.Lowercase
import VaultProjection.Text.Quoted
import VaultProjection.Text.Visible
import VaultProjection.Timestamp
import VaultProjection.Vault.Answer
import VaultProjection.Vault.Api
import VaultProjection.Vault.Credential
import VaultProjection.Vault.Error
import VaultProjection.Vault.Service
import VaultProjection.Watch.Cache
import VaultProjection.Watch.Follow
import VaultProjection.Web.Address
import VaultProjection.Web.Host
import VaultProjection.Web.Label
import VaultProjection.Web.Name
import VaultProjection.Web.NameMap
import VaultProjection.Web.Path
import VaultProjection.Web.Percent
import VaultProjection.Web.Punycode
import VaultProjection.Web.Query
import VaultProjection.Web.Request
import VaultProjection.Yaml.Block
import VaultProjection.Yaml.Core
import VaultProjection.Yaml.Cursor
import VaultProjection.Yaml.Document
import VaultProjection.Yaml.Node
import VaultProjection.Yaml.Scalar
import VaultProjection.Yaml.Token
