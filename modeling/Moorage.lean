import Moorage.Text.Cut
import Moorage.Text.Blank
import Moorage.Text.Digits
import Moorage.Path
import Moorage.Duration
import Moorage.Instant
import Moorage.Decimal.Binary64
import Moorage.Decimal.Shortest
import Moorage.Text.Quoted
import Moorage.Error
import Moorage.Naming
import Moorage.Settings
import Moorage.Resource
import Moorage.Yaml.Cursor
import Moorage.Yaml.Token
import Moorage.Yaml.Token.Scalar
import Moorage.Yaml.Token.Lexer
import Moorage.Yaml.Node
import Moorage.Yaml.Value
import Moorage.Resource.Shape
import Moorage.Document
import Moorage.Graph
import Moorage.Terminal
import Moorage.Digest.Sha256
import Moorage.Image.Name
import Moorage.Ports
import Moorage.Release
import Moorage.Target
import Moorage.Cluster.K3s
import Moorage.Cluster.Nomad
import Moorage.Container.Blueprint
import Moorage.Kubeconfig
import Moorage.Program
import Moorage.Service
import Moorage.Text.Utf8
import Moorage.Container.Lifecycle
import Moorage.Health
import Moorage.Kubeconfig.Copies
import Moorage.Provider
import Moorage.Board
import Moorage.Walk
import Moorage.Rehearsal.FileTree
import Moorage.Rehearsal.Script
import Moorage.Rehearsal.World
import Moorage.Rehearsal.Stage
import Moorage.Json.Reader
import Moorage.Tar
import Moorage.Docker.Frames
import Moorage.Http
import Moorage.Docker
import Moorage.Docker.Client
import Moorage.Cluster.Nomad.Nodes
import Moorage.Kubernetes.Access
import Moorage.Kubernetes.Pods
import Moorage.Release.Helm
import Moorage.Host
import Moorage.CommandLine
import Moorage.Command
import Moorage.Rehearsal.Machine
import Moorage.Resource.Json
import Moorage.Http.Wire
import Moorage.Main
import Moorage.Proofs.Fold
import Moorage.Proofs.Digraph.Order
import Moorage.Proofs.Digraph.Reach
import Moorage.Proofs.Digraph.Acyclic
import Moorage.Proofs.Graph.Coherent
import Moorage.Proofs.Graph.Dependence
import Moorage.Proofs.Graph.Denotation
import Moorage.Proofs.Graph.Build
import Moorage.Proofs.Graph.Closure
import Moorage.Proofs.Graph.Failure
import Moorage.Proofs.Ports
import Moorage.Proofs.Path
import Moorage.Proofs.Document
import Moorage.Proofs.Reference
import Moorage.Proofs.Naming
import Moorage.Proofs.Target
import Moorage.Proofs.Registry
import Moorage.Proofs.Walk.Awaits
import Moorage.Proofs.Walk.Run
import Moorage.Proofs.Walk.Queue
import Moorage.Proofs.Board
import Moorage.Proofs.Walk.Block
import Moorage.Proofs.Walk.Flow
import Moorage.Proofs.Walk.Marks
import Moorage.Proofs.Walk.Failures
import Moorage.Proofs.Walk.Reached
import Moorage.Proofs.Walk.StartOrder
import Moorage.Proofs.Walk.Completion
import Moorage.Proofs.Walk.Accounting
import Moorage.Proofs.Walk.Confluence
import Moorage.Proofs.Walk.History
import Moorage.Proofs.Command
import Moorage.Proofs.Program.Exchange
import Moorage.Proofs.Program.Ensures
import Moorage.Proofs.Program.Fallible
import Moorage.Proofs.Program.Calls
import Moorage.Proofs.Service
import Moorage.Proofs.Failing
import Moorage.Proofs.Blame
import Moorage.Proofs.Host
import Moorage.Proofs.Poll
import Moorage.Proofs.Container.Engine
import Moorage.Proofs.Container.Steps
import Moorage.Proofs.Container.Create
import Moorage.Proofs.Service.FailFast
import Moorage.Proofs.Container.Labels
import Moorage.Proofs.Container.Removal
import Moorage.Proofs.Provider.Calls
import Moorage.Proofs.Provider.Cleanup
import Moorage.Proofs.Provider.PublishedHost
import Moorage.Proofs.Document.Rebase
import Moorage.Proofs.Provider.Mounts
import Moorage.Proofs.Docker.Tasks
import Moorage.Proofs.Docker.Failures
import Moorage.Proofs.Docker.Staging
import Moorage.Proofs.Provider.Network
import Moorage.Proofs.Provider.Configuration
import Moorage.Proofs.Provider.Isolation
import Moorage.Proofs.Provider.K8sCluster.Steps
import Moorage.Proofs.Provider.K8sCluster.BringUp
import Moorage.Proofs.Provider.K8sCluster.Order
import Moorage.Proofs.Provider.Helm
import Moorage.Proofs.Provider.Agreement
import Moorage.Proofs.Provider.Blame
import Moorage.Proofs.Provider.Report
import Moorage.Proofs.Service.Moment
import Moorage.Proofs.Rehearsal.Clock
import Moorage.Proofs.Poll.Course
import Moorage.Proofs.Poll.Timing
import Moorage.Proofs.Health
import Moorage.Proofs.Address
import Moorage.Proofs.Kubeconfig
import Moorage.Proofs.Container.Blueprint
import Moorage.Proofs.Container.Publication
import Moorage.Proofs.Container.LookUpFirst
import Moorage.Proofs.Service.Files
import Moorage.Proofs.Graph.Root
import Moorage.Proofs.Ports.Allocation
import Moorage.Proofs.Text.Number
import Moorage.Proofs.Container.Range
import Moorage.Proofs.Image.Name
import Moorage.Proofs.Provider.K8sCluster.Images
import Moorage.Proofs.Container.Limits
