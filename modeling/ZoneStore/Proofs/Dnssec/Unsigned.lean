import ZoneStore.Proofs.Backend.Issued
import ZoneStore.Proofs.Backend.Upkeep

/-!
# The signing mode switched off

With the signing mode off nothing that belongs to signing is ever stored. The operations that need
the mode are refused before they look at a transaction or at a table
(`Operation.run_of_needsDnssec`). The others add no key, no metadata value and no ordering key of an
empty non-terminal, and every record that they add is authoritative
(`Operation.Issues.sparesSigning`). So after every run there are no keys and no metadata, and the
records are as they are without signatures (`Tables.Unsigned`), in the committed tables and in what
the open transactions see (`Backend.unsigned_operated`).
-/

set_option autoImplicit false

namespace ZoneStore

open Backend

/-! ## Tables without signatures -/

/-- A record is authoritative; an empty non-terminal has no ordering key. -/
structure RecordRow.Unsigned (r : RecordRow) : Prop where
  auth : r.type ≠ none → r.auth = some 1
  ordername : r.type = none → r.ordername = none

/-- There are no keys and no metadata, and no record belongs to a signed zone. -/
structure Tables.Unsigned (t : Tables) : Prop where
  keys : t.keys = []
  metadata : t.metadata = []
  records : ∀ r ∈ t.records, r.Unsigned

theorem Tables.unsigned_empty : Tables.empty.Unsigned :=
  ⟨rfl, rfl, fun _ hr => absurd hr List.not_mem_nil⟩

namespace Mutation

/-- The mutation adds nothing that belongs to signing. -/
structure SparesSigning (m : Mutation) : Prop where
  signs : m.signs = false
  record : ∀ row, m.newRecord? = some row → row.Unsigned

/-- A mutation that adds no record, no metadata value and no key, and does not order, adds nothing
that belongs to signing. -/
theorem SparesSigning.of_newRecord? {m : Mutation} (hsigns : m.signs = false)
    (hrecord : m.newRecord? = none) : m.SparesSigning := by
  refine ⟨hsigns, ?_⟩
  intro row hrow
  rw [hrecord] at hrow
  cases hrow

theorem SparesSigning.of_removes {m : Mutation} (h : m.removes = true) : m.SparesSigning := by
  cases m <;> first | exact .of_newRecord? rfl rfl | cases h

/-- With the signing mode off a record is added as authoritative. -/
theorem sparesSigning_insertion (r : ResourceRecord) (ordername : String) :
    (r.insertion false ordername).SparesSigning := by
  refine ⟨rfl, ?_⟩
  intro row hrow
  cases hrow
  exact ⟨fun _ => rfl, nofun⟩

theorem sparesSigning_insertEmptyNonTerminal (zone : Option Int) (name : Option String)
    (auth : Option Int) : (insertEmptyNonTerminal zone name none auth).SparesSigning := by
  refine ⟨rfl, ?_⟩
  intro row hrow
  cases hrow
  exact ⟨fun h => absurd rfl h, fun _ => rfl⟩

end Mutation

theorem Tables.Unsigned.alters {t t' : Tables} {m : Mutation} (h : t.Unsigned)
    (hspares : m.SparesSigning) (hm : m.Alters t t') : t'.Unsigned := by
  have hsigns := hspares.signs
  cases hm with
  | addRecord hnew =>
    refine { h with records := ?_ }
    intro r hr
    rcases List.mem_append.1 hr with hr | hr
    · exact h.records r hr
    · obtain rfl := List.mem_singleton.1 hr
      have hrow := hspares.record _ hnew
      exact ⟨hrow.auth, hrow.ordername⟩
  | removeRecords => exact { h with records := fun r hr => h.records r (mem_without.1 hr).1 }
  | reorderRecords | addMetadata | addKey => cases hsigns
  | removeMetadata =>
    refine { h with metadata := ?_ }
    simp [without, h.metadata]
  | reviseKeys =>
    refine { h with keys := ?_ }
    simp [revise, h.keys]
  | removeKeys =>
    refine { h with keys := ?_ }
    simp [without, h.keys]
  | _ => exact ⟨h.keys, h.metadata, h.records⟩

theorem Mutation.SparesSigning.upholds {m : Mutation} (h : m.SparesSigning) :
    m.Upholds Tables.Unsigned :=
  upholds_of_alters fun _ _ ht hm => ht.alters h hm

/-! ## Operations -/

namespace Operation

variable {α : Type} {b : Backend}

/-- With the signing mode off, an operation that needs it is refused, and the backend is as before:
the tables, the transactions and all counts. -/
theorem run_of_needsDnssec (op : Operation α) (hb : b.dnssec = false)
    (h : op.needsDnssec = true) : op.run.run b = (.error .dnssecRequired, b) := by
  cases op with
  | feedHashedEmptyNonTerminals | orderRecords | setDomainMetadata | addDomainKey | domainKeys
  | removeDomainKey | setDomainKeyActive | setDomainKeyPublished =>
    exact Backend.run_guarded_of_false hb
  | _ => cases h

/-- With the signing mode off, an operation that does not need it issues nothing that belongs to
signing. -/
theorem Issues.sparesSigning {op : Operation α} {m : Mutation} (hm : op.Issues false m)
    (h : op.needsDnssec = false) : m.SparesSigning := by
  have hnot : ¬ op.needsDnssec = true := by simp [h]
  cases hm with
  | removal hremoves => exact .of_removes hremoves
  | record _ ordername => exact Mutation.sparesSigning_insertion _ ordername
  | emptyNonTerminal _ key auth hkey =>
    obtain rfl := hkey.resolve_right hnot
    exact Mutation.sparesSigning_insertEmptyNonTerminal _ _ auth
  | comment => exact .of_newRecord? rfl rfl
  | order _ _ _ _ _ hneeds => exact absurd hneeds hnot
  | metadata _ _ _ hneeds => exact absurd hneeds hnot
  | administration hadmin _ hsigns =>
    have hspares : m.signs = false := Bool.eq_false_iff.2 fun hs => hnot (hsigns hs)
    exact .of_newRecord? hspares (Mutation.newRecord?_eq_none hadmin.records)

end Operation

/-! ## Runs -/

/-- With the signing mode off, one operation leaves tables without signatures so. -/
theorem Backend.Obeys.unsigned_next {b : Backend} (hb : b.Obeys .full Tables.Unsigned)
    (hdnssec : b.dnssec = false) (op : AnyOperation) :
    (b.next op.step).Obeys .full Tables.Unsigned := by
  cases hneeds : op.2.needsDnssec with
  | true =>
    have hrun : b.next op.step = b := congrArg Prod.snd (op.2.run_of_needsDnssec hdnssec hneeds)
    rw [hrun]
    exact hb
  | false =>
    refine op.2.obeys hb fun m hm => ?_
    have hissued := op.2.issues_mutations b m hm
    rw [hdnssec] at hissued
    exact (hissued.sparesSigning hneeds).upholds

/-- After a run of operations in which the signing mode is off, there are no keys, no metadata and
no records of a signed zone: not in the committed tables, and not in the view of any open
transaction. With the signing mode off, each operation that needs it is refused, whatever its
arguments are and whatever the backend is like, and the backend stays as it is. -/
theorem Backend.unsigned_operated (connections : Nat) (hasher : Option Hasher)
    (ops : List AnyOperation) :
    (∃ tables, (operated connections false hasher ops).store.database.tables = some tables ∧
      tables.Unsigned) ∧
    (∀ handle c view, (operated connections false hasher ops).transaction? handle = some c →
      c.view? (operated connections false hasher ops).store.database = some view → view.Unsigned) ∧
    ∀ (b : Backend) {α : Type} (op : Operation α), b.dnssec = false → op.needsDnssec = true →
      op.run.run b = (.error .dnssecRequired, b) := by
  have hobeys : (operated connections false hasher ops).Obeys .full Tables.Unsigned := by
    refine operated_induction (obeys_on_empty Tables.unsigned_empty connections false hasher) ?_
    intro op _ b hdnssec _ hb
    exact hb.unsigned_next hdnssec op
  obtain ⟨tables, htables, -⟩ := records_whole connections false hasher ops
  refine ⟨⟨tables, htables, hobeys.store.database tables htables⟩, ?_, ?_⟩
  · intro handle c view hc hview
    exact (hobeys.transactions handle c hc).view? hobeys.store.database hview
  · intro b α op hb hneeds
    exact op.run_of_needsDnssec hb hneeds

end ZoneStore
