import NetworkSlice.Address.Text
import NetworkSlice.Address.Partition
import NetworkSlice.Table
import NetworkSlice.Decimal.Shortest
import NetworkSlice.Text.Inspect
import NetworkSlice.Text.Percent
import NetworkSlice.Text.Base64
import NetworkSlice.Domain.Name
import NetworkSlice.Json.Printer
import NetworkSlice.Json.Reader
import NetworkSlice.Wire.Record
import NetworkSlice.Slice.Wire
import NetworkSlice.Settings.Wire
import NetworkSlice.Resource.Wire
import NetworkSlice.Plan.Composer
import NetworkSlice.Cluster.Rehearsal
import NetworkSlice.Service
import NetworkSlice.Wire.Document
import NetworkSlice.Command
import NetworkSlice.Command.Folder
import NetworkSlice.Main
import NetworkSlice.Proofs.Attempt
import NetworkSlice.Proofs.Address.SubBlocks
import NetworkSlice.Proofs.Address.Sets
import NetworkSlice.Proofs.Address.Carving
import NetworkSlice.Proofs.Plan.Steps
import NetworkSlice.Proofs.Plan.Addresses
import NetworkSlice.Proofs.Plan.Errors
import NetworkSlice.Proofs.Credential.Vault
import NetworkSlice.Proofs.Operation.Interleaving
import NetworkSlice.Proofs.Operation.Report
import NetworkSlice.Proofs.Operation.Isolation
import NetworkSlice.Proofs.Operation.Turns
import NetworkSlice.Proofs.Operation.Conduct
import NetworkSlice.Proofs.Operation.Phases
import NetworkSlice.Proofs.Operation.Deadline
import NetworkSlice.Proofs.Service.Steps
import NetworkSlice.Proofs.Service.Separation
import NetworkSlice.Proofs.Service.Deadline
import NetworkSlice.Proofs.Slice.Graph
import NetworkSlice.Proofs.Plan.Neighbors
import NetworkSlice.Proofs.Slice.Faults
import NetworkSlice.Proofs.Plan.Acceptance
import NetworkSlice.Proofs.Operation.Contact
import NetworkSlice.Proofs.Service.Contact
import NetworkSlice.Proofs.Operation.Store
import NetworkSlice.Proofs.Service.Compensation
import NetworkSlice.Proofs.Plan.Overlays
import NetworkSlice.Proofs.Text.Digit
import NetworkSlice.Proofs.Text.Blank
import NetworkSlice.Proofs.Address.Text
import NetworkSlice.Proofs.Address.BlockText
import NetworkSlice.Proofs.Table
import NetworkSlice.Proofs.Json.Sorted
import NetworkSlice.Proofs.Wire.Format
import NetworkSlice.Proofs.Wire.Record
import NetworkSlice.Proofs.Wire.RoundTrip
import NetworkSlice.Proofs.Service.Instant
import NetworkSlice.Proofs.Api.Addresses
import NetworkSlice.Proofs.Plan.Scopes
import NetworkSlice.Proofs.Wire.Sources
import NetworkSlice.Proofs.Wire.Request
import NetworkSlice.Proofs.Operation.Lifecycle
import NetworkSlice.Proofs.Plan.Strays
import NetworkSlice.Proofs.Slice.Offence
import NetworkSlice.Proofs.Plan.Links
import NetworkSlice.Proofs.Slice.Orientation
import NetworkSlice.Proofs.Plan.Orientation
import NetworkSlice.Proofs.Operation.Answers
import NetworkSlice.Proofs.Operation.Submission
import NetworkSlice.Proofs.Text.Base64
import NetworkSlice.Proofs.Credential.Halves
import NetworkSlice.Proofs.Api.Secrets
import NetworkSlice.Proofs.Json.Equality
import NetworkSlice.Proofs.Api.Listing
import NetworkSlice.Proofs.Http.Path
import NetworkSlice.Proofs.Http.Url
import NetworkSlice.Proofs.Api.Segments
import NetworkSlice.Proofs.Operation.History
import NetworkSlice.Proofs.Plan.Provider
import NetworkSlice.Proofs.Resource.Object
import NetworkSlice.Proofs.Service.Namespace
import NetworkSlice.Proofs.Address.Tiling
