import PushLedger.Main
import PushLedger.Configuration.Document
import PushLedger.Database.Listing
import PushLedger.Database.Past
import PushLedger.Session.Basic
import PushLedger.Subscription.Document
import PushLedger.Proofs.Replacement
import PushLedger.Proofs.Sweeping
import PushLedger.Proofs.Transitions
import PushLedger.Proofs.Invariants
import PushLedger.Proofs.Warnings
import PushLedger.Proofs.Expiry
import PushLedger.Proofs.Roster
import PushLedger.Proofs.Coverage
import PushLedger.Proofs.Refinement
import PushLedger.Proofs.Rollback
import PushLedger.Proofs.Rebuilding
import PushLedger.Proofs.Updating
import PushLedger.Proofs.Opening
import PushLedger.Proofs.Identity
import PushLedger.Proofs.Footprint
import PushLedger.Proofs.Ownership
import PushLedger.Proofs.ByteOrder
import PushLedger.Proofs.Stamps
import PushLedger.Proofs.LifeCycle
import PushLedger.Proofs.Legibility
import PushLedger.Proofs.RowPasses
import PushLedger.Proofs.Schedules
import PushLedger.Proofs.Records
import PushLedger.Proofs.Redaction
import PushLedger.Proofs.Interleaving
import PushLedger.Proofs.Ages
import PushLedger.Proofs.SweepEffect
import PushLedger.Proofs.UpsertEffect
import PushLedger.Proofs.Folders
import PushLedger.Proofs.Commands
import PushLedger.Proofs.Calendar
import PushLedger.Proofs.DatedStamps
import PushLedger.Proofs.Readoption
import PushLedger.Proofs.Elapsed
import PushLedger.Proofs.Reports
import PushLedger.Proofs.Lookups
import PushLedger.Proofs.Origins
import PushLedger.Proofs.TopicLists
import PushLedger.Proofs.LogConfiguration
import PushLedger.Proofs.Usage
import PushLedger.Proofs.Cutoffs
import PushLedger.Proofs.ConfigurationTexts
import PushLedger.Proofs.RoundTrips
