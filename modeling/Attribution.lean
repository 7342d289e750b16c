import Attribution.Main
import Attribution.Proofs.Cgroup.Classification
import Attribution.Proofs.Cgroup.Joining
import Attribution.Proofs.Cgroup.Kind
import Attribution.Proofs.Cgroup.OwnPath
import Attribution.Proofs.Cgroup.Paths
import Attribution.Proofs.Cgroup.Relative
import Attribution.Proofs.Cgroup.Route
import Attribution.Proofs.Cgroup.Sheet
import Attribution.Proofs.Conntrack.Batch
import Attribution.Proofs.Conntrack.Line
import Attribution.Proofs.Conntrack.Lookup
import Attribution.Proofs.Container.Identity
import Attribution.Proofs.Engine.Forwarding
import Attribution.Proofs.Engine.Payloads
import Attribution.Proofs.Event.Decoding
import Attribution.Proofs.Event.Shape
import Attribution.Proofs.Fanout.Calls
import Attribution.Proofs.Files.Joining
import Attribution.Proofs.Files.Listing
import Attribution.Proofs.Json.Fields
import Attribution.Proofs.Kernel.Version
import Attribution.Proofs.Probe.Catalog
import Attribution.Proofs.Probe.Selection
import Attribution.Proofs.Registry.Batches
import Attribution.Proofs.Registry.Consistency
import Attribution.Proofs.Registry.Founding
import Attribution.Proofs.Registry.Ownership
import Attribution.Proofs.Registry.Places
import Attribution.Proofs.Registry.Purging
import Attribution.Proofs.Registry.Standing
import Attribution.Proofs.Registry.Trackers
import Attribution.Proofs.System.Answers
import Attribution.Proofs.System.Basic
import Attribution.Proofs.System.Interruption
import Attribution.Proofs.System.Listing
import Attribution.Proofs.System.Lookups
import Attribution.Proofs.System.Neighbours
import Attribution.Proofs.System.Recheck
import Attribution.Proofs.System.Relocation
import Attribution.Proofs.System.Resolution
import Attribution.Proofs.System.Start
import Attribution.Proofs.System.Tracked
import Attribution.Proofs.System.Transparency
import Attribution.Proofs.Text.Digits
import Attribution.Proofs.Text.Pieces
import Attribution.Proofs.Text.Search
import Attribution.Proofs.Tracker.Abandonment
import Attribution.Proofs.Tracker.Acts
import Attribution.Proofs.Tracker.Counters
import Attribution.Proofs.Tracker.Redirections
import Attribution.Proofs.Tracker.Representation
import Attribution.Proofs.Tracker.Requests
import Attribution.Proofs.Tracker.Reuse
import Attribution.Proofs.Tracker.Sharing
import Attribution.Proofs.Tracker.Summaries
