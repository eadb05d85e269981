import Bookwarden.Lib.Assoc
import Bookwarden.Lib.Runs
import Bookwarden.Lib.Observe
import Bookwarden.Lib.Fencing
import Bookwarden.Lib.WorkQueue
import Bookwarden.Python
import Bookwarden.Exceptions
import Bookwarden.Isbn
import Bookwarden.Identity.Evidence
import Bookwarden.Identity.Resolve
import Bookwarden.Identity.Noninterference
import Bookwarden.Providers
import Bookwarden.Identity.TierA
import Bookwarden.Pipeline.Package
import Bookwarden.Storage.Models
import Bookwarden.Writer.Readback
import Bookwarden.CertificateA.Store
import Bookwarden.CertificateA.Fencing
import Bookwarden.CertificateA.Worker
import Bookwarden.CertificateA.RunInvariant
import Bookwarden.CertificateA.Resume
import Bookwarden.Ledger.Tables
import Bookwarden.Ledger.Coordinator
import Bookwarden.Ledger.Writer
import Bookwarden.Ledger.Reconcile
import Bookwarden.Ledger.System
import Bookwarden.Ledger.Settle
import Bookwarden.Ledger.Parts
import Bookwarden.Ledger.Queueing
import Bookwarden.Ledger.Consistency
import Bookwarden.Ledger.Pilots
import Bookwarden.Ledger.Recovery
import Bookwarden.Ledger.Authorization
import Bookwarden.CertificateA.Cancellation
import Bookwarden.Durable.Store
import Bookwarden.Durable.Lease
import Bookwarden.Durable.Recovery
import Bookwarden.Extractors.Multiformat
import Bookwarden.Pipeline.Process
import Bookwarden.Pipeline.Resilience
import Bookwarden.Pipeline.Merge
import Bookwarden.Providers.Enrichers
import Bookwarden.Pipeline.LlmNeutrality
import Bookwarden.Ocr.Recognition
import Bookwarden.Extractors.FileKeys
import Bookwarden.Pipeline.EnricherKeys
import Bookwarden.Pipeline.EvidenceIds
import Bookwarden.Ledger.Relocation
import Bookwarden.CanonicalJson
import Bookwarden.Ledger.UndoQueue
import Bookwarden.CertificateA.Start
import Bookwarden.CertificateA.StartOnce
import Bookwarden.Queue.Jobs
import Bookwarden.Queue.LostUpdate
import Bookwarden.Lib.Slots
import Bookwarden.Retention.RestorePoints
import Bookwarden.Identity.Identifiers
import Bookwarden.Identity.Patch
import Bookwarden.Identity.FieldPatch
import Bookwarden.Identity.TwoRecords
import Bookwarden.Identity.Order
import Bookwarden.Lib.Reread
import Bookwarden.Pipeline.Validation
import Bookwarden.Pipeline.SealedRoundTrip
import Bookwarden.Isbn.Canonical
import Bookwarden.Ocr.Authority
import Bookwarden.Providers.Egress
import Bookwarden.Lib.KeepFirst
import Bookwarden.Ocr.ImageBudget
import Bookwarden.Extractors.EditionPages
import Bookwarden.Lib.Halting
import Bookwarden.Pipeline.Frozen
import Bookwarden.Lib.SharedFiles
import Bookwarden.Offline.Files
import Bookwarden.Offline.Source
import Bookwarden.Offline.Integrity
import Bookwarden.Offline.Inventory
import Bookwarden.Lib.Regroup
import Bookwarden.Lib.Xml
import Bookwarden.Writer.TargetOpf
import Bookwarden.Isbn.Agreement
import Bookwarden.Verification.Verdict
import Bookwarden.Verification.IsbnRule
import Bookwarden.Verification.Text
import Bookwarden.Verification.Rules
import Bookwarden.Verification.Engine
import Bookwarden.Verification.Total
import Bookwarden.Verification.Reflexive
import Bookwarden.Lib.Pairing
import Bookwarden.Verification.AuthorOrder
import Bookwarden.Verification.AutoApply
import Bookwarden.Llm.Shape
import Bookwarden.Llm.Router
import Bookwarden.Llm.Privacy
import Bookwarden.Verification.Witness
import Bookwarden.Verification.Replay
import Bookwarden.Lib.Forest
import Bookwarden.Lib.Grouping
import Bookwarden.Curation.DisjointSetUnion
import Bookwarden.Curation.Duplicates
import Bookwarden.Curation.Clusters
import Bookwarden.Lib.Ranking
import Bookwarden.Providers.Consensus
import Bookwarden.Providers.Fairness
import Bookwarden.Lib.Gaps
import Bookwarden.Curation.SeriesGaps
import Bookwarden.Curation.SeriesTopology
import Bookwarden.Curation.Consolidator
import Bookwarden.Curation.SameRecords
import Bookwarden.Calibre.ContentServer
import Bookwarden.Calibre.Aggregation
import Bookwarden.Extractors.MobiPalmDoc
import Bookwarden.Extractors.MobiBounds
import Bookwarden.Paths
import Bookwarden.Extractors.ZipMember
import Bookwarden.Extractors.ZipLimits
import Bookwarden.Calibre.Streaming
import Bookwarden.Verification.Resumable
import Bookwarden.Lib.EditDistance
import Bookwarden.Lib.Keyset
import Bookwarden.Providers.Similarity
import Bookwarden.Verification.Spaces
import Bookwarden.Verification.AuthorNames
import Bookwarden.Audit.LegacyAudit
import Bookwarden.Comics.Pipeline
import Bookwarden.Verification.Calibration
import Bookwarden.Lib.Recency
import Bookwarden.Providers.Cache
import Bookwarden.Lib.Collect
import Bookwarden.Retention.Expiry
import Bookwarden.Lib.Openat
import Bookwarden.Security.Files
import Bookwarden.Lib.Crash
import Bookwarden.Retention.Quarantine
import Bookwarden.Retention.QuarantineDisk
import Bookwarden.Retention.QuarantineRecovery
import Bookwarden.Retention.QuarantineRuns
import Bookwarden.Retention.Passes
