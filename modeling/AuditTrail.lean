import AuditTrail.Engine.Entities
import AuditTrail.Engine.Requests
import AuditTrail.Entity.Decode
import AuditTrail.Event.Summary
import AuditTrail.Log.Output
import AuditTrail.Request.Codec
import AuditTrail.Rule.Describe
import AuditTrail.Store.Dump
import AuditTrail.Store.Faulty
import AuditTrail.Store.Memory
import AuditTrail.Proofs.Store.Contract
import AuditTrail.Proofs.Store.Trace
import AuditTrail.Proofs.Store.Agreement
import AuditTrail.Proofs.Handler.Interleaving
import AuditTrail.Proofs.Handler.Sequence
import AuditTrail.Proofs.Rule.Memory
import AuditTrail.Proofs.Rule.Caching
import AuditTrail.Proofs.Rule.Precedence
import AuditTrail.Proofs.Mutation.Probes
import AuditTrail.Proofs.Mutation.Suppression
import AuditTrail.Proofs.Mutation.Changes
import AuditTrail.Proofs.Mutation.Blank
import AuditTrail.Proofs.Mutation.Confidentiality
import AuditTrail.Proofs.Mutation.Saves
import AuditTrail.Proofs.Mutation.Positions
import AuditTrail.Proofs.Settings.Snapshots
import AuditTrail.Proofs.Engine.Delivery
import AuditTrail.Proofs.Config.RoundTrip
import AuditTrail.Proofs.Handler.Background
import AuditTrail.Proofs.Handler.Shutdown
import AuditTrail.Proofs.Time.Calendar
import AuditTrail.Proofs.Number.Digits
import AuditTrail.Proofs.Identity.Uuid
import AuditTrail.Proofs.Time.Timestamp
import AuditTrail.Proofs.Event.RoundTrip
import AuditTrail.Proofs.Store.Insertion
import AuditTrail.Proofs.Store.Links
import AuditTrail.Proofs.Store.Mirrors
import AuditTrail.Proofs.Store.AppendOnly
import AuditTrail.Proofs.Store.Ownership
import AuditTrail.Proofs.Store.Lookup
import AuditTrail.Proofs.Store.Reading
import AuditTrail.Proofs.Mutation.Differences
import AuditTrail.Proofs.Mutation.SaveEvent
import AuditTrail.Proofs.Glob.Reading
import AuditTrail.Proofs.Regex.Matching
import AuditTrail.Proofs.Glob.Brackets
import AuditTrail.Proofs.Glob.Lowering
import AuditTrail.Proofs.Glob.Matching
import AuditTrail.Proofs.Time.Components
import AuditTrail.Proofs.Pattern.Table
import AuditTrail.Proofs.Rule.Files
import AuditTrail.Proofs.Pattern.Anchored
import AuditTrail.Proofs.Time.Past
import AuditTrail.Proofs.Handler.Retention
import AuditTrail.Proofs.Config.Overflow
import AuditTrail.Proofs.Config.Union
import AuditTrail.Proofs.Request.Capture
import AuditTrail.Proofs.Store.Deletions
import AuditTrail.Proofs.Store.Statements
import AuditTrail.Proofs.Handler.Batches
import AuditTrail.Proofs.Rule.Monotonicity
import AuditTrail.Proofs.Rule.Case
import AuditTrail.Proofs.Settings.Interleaving
import AuditTrail.Proofs.Settings.Overtaking
import AuditTrail.Proofs.Identity.Mirrors
