import SubpathCsi.Act
import SubpathCsi.Admission.Event
import SubpathCsi.Admission.Response
import SubpathCsi.Admission.Review
import SubpathCsi.Admission.Server
import SubpathCsi.Calendar
import SubpathCsi.Calendar.Reader
import SubpathCsi.CommandLine.Arguments
import SubpathCsi.CommandLine.Commands
import SubpathCsi.Config
import SubpathCsi.Credential
import SubpathCsi.Descriptor.Basic
import SubpathCsi.Descriptor.Reader
import SubpathCsi.Duration
import SubpathCsi.Failure
import SubpathCsi.Failure.Kind
import SubpathCsi.Failure.Message
import SubpathCsi.Failure.Placeholder
import SubpathCsi.Http.Basic
import SubpathCsi.Ini
import SubpathCsi.Json.Basic
import SubpathCsi.Json.Display
import SubpathCsi.Json.Patch
import SubpathCsi.Json.Printer
import SubpathCsi.Json.Reader
import SubpathCsi.Json.Shape
import SubpathCsi.Keyed
import SubpathCsi.Kube.Claim
import SubpathCsi.Kube.Client
import SubpathCsi.Kube.Meta
import SubpathCsi.Kube.Request
import SubpathCsi.Kube.Secret
import SubpathCsi.Kube.StorageClass
import SubpathCsi.Kube.Volume
import SubpathCsi.Locks
import SubpathCsi.Main
import SubpathCsi.Manager
import SubpathCsi.MountInput
import SubpathCsi.Number.Binary64
import SubpathCsi.Number.Decimal
import SubpathCsi.Number.Integer
import SubpathCsi.Number.Numeral
import SubpathCsi.Number.Places
import SubpathCsi.Number.Shortest
import SubpathCsi.Pod.InitContainer
import SubpathCsi.Pod.Injection
import SubpathCsi.Pod.MountPath
import SubpathCsi.Pod.Mutation
import SubpathCsi.Pod.Names
import SubpathCsi.Pod.Pair
import SubpathCsi.Pod.RuntimeClass
import SubpathCsi.Pod.Taken
import SubpathCsi.Quantity
import SubpathCsi.Remote
import SubpathCsi.Remote.Cluster
import SubpathCsi.Remote.Fault
import SubpathCsi.Settings.Basic
import SubpathCsi.Settings.FormatOptions
import SubpathCsi.Settings.Resolve
import SubpathCsi.Sharing
import SubpathCsi.Shell.Quote
import SubpathCsi.Sidecar.Basic
import SubpathCsi.Sidecar.Build
import SubpathCsi.Sidecar.Commands
import SubpathCsi.Sidecar.Script
import SubpathCsi.Template
import SubpathCsi.Template.Claim
import SubpathCsi.Text.Base64
import SubpathCsi.Text.Blank
import SubpathCsi.Text.Checksum
import SubpathCsi.Text.Digit
import SubpathCsi.Text.LetterCase
import SubpathCsi.Text.Printable
import SubpathCsi.Text.Quoted
import SubpathCsi.Text.Split
import SubpathCsi.TextMap
import SubpathCsi.Volume.Capability
import SubpathCsi.Volume.Deletion
import SubpathCsi.Volume.Expansion
import SubpathCsi.Volume.Provision
import SubpathCsi.Yaml.Cursor
import SubpathCsi.Yaml.Display
import SubpathCsi.Yaml.Node
import SubpathCsi.Yaml.Scalar
import SubpathCsi.Yaml.Tag
import SubpathCsi.Yaml.Timestamp
import SubpathCsi.Yaml.Token
import SubpathCsi.Yaml.Token.Lexer
import SubpathCsi.Yaml.Value
import SubpathCsi.Proofs.Act.Effect
import SubpathCsi.Proofs.Act.Trace
import SubpathCsi.Proofs.Clients
import SubpathCsi.Proofs.Volume.Deletion
import SubpathCsi.Proofs.Volume.LastRemoval
import SubpathCsi.Proofs.Volume.Provision
import SubpathCsi.Proofs.Volume.SharedSubpath
import SubpathCsi.Proofs.Pod.Tenancy
import SubpathCsi.Proofs.Volume.Interleaving
import SubpathCsi.Proofs.Volume.Permission
import SubpathCsi.Proofs.Pod.Filling
import SubpathCsi.Proofs.Pod.Injection
import SubpathCsi.Proofs.Pod.UniqueName
import SubpathCsi.Proofs.Pod.Names
import SubpathCsi.Proofs.Pod.Pair
import SubpathCsi.Proofs.Pod.Mutation
import SubpathCsi.Proofs.Json.Patch
import SubpathCsi.Proofs.Admission.Review
import SubpathCsi.Proofs.Pod.Runtime
import SubpathCsi.Proofs.Pod.Placed
import SubpathCsi.Proofs.Pod.Rounds
import SubpathCsi.Proofs.Pod.Standing
import SubpathCsi.Proofs.Pod.Workload
import SubpathCsi.Proofs.Pod.Alignment
import SubpathCsi.Proofs.Pod.Generated
import SubpathCsi.Proofs.Secrets
import SubpathCsi.Proofs.Writers
import SubpathCsi.Proofs.Volume.Release
import SubpathCsi.Proofs.Volume.Retry
import SubpathCsi.Proofs.Act.Ends
import SubpathCsi.Proofs.Json.Typed
import SubpathCsi.Proofs.Pod.Rejection
import SubpathCsi.Proofs.Admission.Reading
import SubpathCsi.Proofs.Admission.Repetition
import SubpathCsi.Proofs.Admission.Bystander
import SubpathCsi.Proofs.Sidecar.Secrecy
import SubpathCsi.Proofs.Text.Split
import SubpathCsi.Proofs.Shell.Quote
import SubpathCsi.Proofs.Shell.Plain
import SubpathCsi.Proofs.Shell.Flags
import SubpathCsi.Proofs.Sidecar.MountCommand
import SubpathCsi.Proofs.Sidecar.MountOptions
import SubpathCsi.Proofs.Path
import SubpathCsi.Proofs.Sidecar.QuotaPath
import SubpathCsi.Proofs.Volume.Attributes
import SubpathCsi.Proofs.Volume.ReadOnly
import SubpathCsi.Proofs.Text.Base64
import SubpathCsi.Proofs.Shell.References
import SubpathCsi.Proofs.Sidecar.Credentials
import SubpathCsi.Proofs.Manager
import SubpathCsi.Proofs.Quantity
import SubpathCsi.Proofs.Yaml.Node
import SubpathCsi.Proofs.Yaml.Value
import SubpathCsi.Proofs.Settings.Embedded
import SubpathCsi.Proofs.Shell.Expansion
import SubpathCsi.Proofs.Sidecar.Authentication
import SubpathCsi.Proofs.Settings.Caches
import SubpathCsi.Proofs.Settings.CacheOption
import SubpathCsi.Proofs.Sidecar.CacheMounts
import SubpathCsi.Proofs.Sidecar.MountPaths
import SubpathCsi.Proofs.Text.Blank
import SubpathCsi.Proofs.Settings.FormatOptions
import SubpathCsi.Proofs.Sidecar.PostStart
import SubpathCsi.Proofs.Template.Reference
import SubpathCsi.Proofs.Template.Segments
import SubpathCsi.Proofs.Pod.Profile
import SubpathCsi.Proofs.Number.Binary64
import SubpathCsi.Proofs.Duration
import SubpathCsi.Proofs.Config.Fields
import SubpathCsi.Proofs.Config.Lifetime
import SubpathCsi.Proofs.Ini
import SubpathCsi.Proofs.Config.Precedence
import SubpathCsi.Proofs.CommandLine.SubpathReport
