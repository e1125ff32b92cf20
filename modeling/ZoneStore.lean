import ZoneStore.Backend.Operation
import ZoneStore.Settings
import ZoneStore.Proofs.Outcome
import ZoneStore.Proofs.Template.Grammar
import ZoneStore.Proofs.Template.Composition
import ZoneStore.Proofs.Template.Markers
import ZoneStore.Proofs.Statement.Binding
import ZoneStore.Proofs.Pattern.Matching
import ZoneStore.Proofs.Text.ByteOrder
import ZoneStore.Proofs.Text.Fields
import ZoneStore.Proofs.Backend.OpenIds
import ZoneStore.Proofs.Table.Replay
import ZoneStore.Proofs.Table.Alterations
import ZoneStore.Proofs.Store.Isolation
import ZoneStore.Proofs.Store.Effects
import ZoneStore.Proofs.Backend.Reading
import ZoneStore.Proofs.Backend.Journal
import ZoneStore.Proofs.Backend.Recording
import ZoneStore.Proofs.Backend.Serial
import ZoneStore.Proofs.Backend.Views
import ZoneStore.Proofs.Backend.Operations
import ZoneStore.Proofs.Zone.ReadBack
import ZoneStore.Proofs.Zone.Replacement
import ZoneStore.Proofs.Zone.RecordSets
import ZoneStore.Proofs.Zone.Attempts
import ZoneStore.Proofs.Zone.Content
import ZoneStore.Proofs.Zone.Independence
import ZoneStore.Proofs.Zone.Search
import ZoneStore.Proofs.Zone.Subzone
import ZoneStore.Proofs.Zone.OrderingChain
import ZoneStore.Proofs.Table.Ownership
import ZoneStore.Proofs.Domain.Orphans
import ZoneStore.Proofs.Backend.Upkeep
import ZoneStore.Proofs.Backend.AllOrNothing
import ZoneStore.Proofs.Backend.Accounting
import ZoneStore.Proofs.Domain.DomainLists
import ZoneStore.Proofs.Domain.Kinds
import ZoneStore.Proofs.Domain.Notification
import ZoneStore.Proofs.Domain.TsigKeys
import ZoneStore.Proofs.Domain.UniqueKeys
import ZoneStore.Proofs.Backend.Issued
import ZoneStore.Proofs.Dnssec.Unsigned
import ZoneStore.Proofs.Backend.Tracing
import ZoneStore.Proofs.Backend.Written
import ZoneStore.Proofs.Backend.Readable
import ZoneStore.Proofs.Backend.RoundTrip
import ZoneStore.Proofs.Zone.Confinement
import ZoneStore.Proofs.Zone.EmptyNonTerminals
import ZoneStore.Proofs.Zone.HashedNames
import ZoneStore.Proofs.Zone.OrderUpdates
import ZoneStore.Proofs.Domain.Removal
import ZoneStore.Proofs.Dnssec.MetadataEntries
import ZoneStore.Proofs.Dnssec.MetadataViews
import ZoneStore.Proofs.Dnssec.KeyEvents
import ZoneStore.Proofs.Dnssec.StoredKeys
import ZoneStore.Proofs.Dnssec.KeyHistories
import ZoneStore.Proofs.Zone.RecordReads
import ZoneStore.Proofs.Domain.DomainEvents
import ZoneStore.Proofs.Domain.StoredDomains
import ZoneStore.Proofs.Domain.DomainHistories
import ZoneStore.Proofs.Template.Faults
import ZoneStore.Proofs.Text.Numerals
import ZoneStore.Proofs.Domain.SoaSerials
import ZoneStore.Proofs.Domain.AutoprimaryEvents
import ZoneStore.Proofs.Domain.Authorization
