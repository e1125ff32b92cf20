import ZoneStore.Proofs.Backend.RoundTrip
import ZoneStore.Proofs.Zone.Attempts
import ZoneStore.Proofs.Zone.Content

/-!
# Exchanging empty non-terminals

What an exchange of empty non-terminals does to the tables that the transaction sees
(`Tables.ExchangesEmpty`): of the empty non-terminals of the zone those to be erased go, and those
of the names to be inserted are appended, while every other row stays. A name to be inserted is the
name of one afterwards, whether it was to be erased or not, and the exchange can be repeated without
effect if it erases what it inserts (`empty_non_terminals_exchanged`).

Rows without a type are listed as empty non-terminals, and so are rows whose type is the empty text,
which an exchange does not reach. So after a commit the zone is listed with none exactly if it has
no row of the latter kind, as it never has if no record with an empty type was fed
(`empty_non_terminals_removed`, `untyped_record_remains`).
-/

set_option autoImplicit false

namespace ZoneStore

/-! ## Rows of empty non-terminals -/

/-- The empty non-terminal is to be removed: all are, or those of the names to erase. -/
def RecordRow.Erased (erase : TextMap Unit) (removeAll : Bool) (r : RecordRow) : Prop :=
  removeAll = true ∨ ∃ name ∈ erase.keys, r.name = some name

instance (erase : TextMap Unit) (removeAll : Bool) :
    DecidablePred (RecordRow.Erased erase removeAll) :=
  fun _ => inferInstanceAs (Decidable (_ ∨ _))

/-- The row stands for the name as an enabled, authoritative empty non-terminal of the zone. -/
structure RecordRow.StandsFor (zone : Int) (row : RecordRow) (name : String) : Prop where
  domainId : row.domainId = some zone
  name : row.name = some name
  type : row.type = none
  content : row.content = none
  ttl : row.ttl = none
  prio : row.prio = none
  disabled : row.disabled = some 0
  ordername : row.ordername = none
  auth : row.auth = some 1

theorem RecordRow.standsFor_of_unnumbered {zone : Int} {row : RecordRow} {name : String}
    (h : row.unnumbered = .emptyNonTerminal (some zone) (some name) none (some 1)) :
    row.StandsFor zone name := by
  constructor
  · exact congrArg RecordRow.domainId h
  · exact congrArg RecordRow.name h
  · exact congrArg RecordRow.type h
  · exact congrArg RecordRow.content h
  · exact congrArg RecordRow.ttl h
  · exact congrArg RecordRow.prio h
  · exact congrArg RecordRow.disabled h
  · exact congrArg RecordRow.ordername h
  · exact congrArg RecordRow.auth h

/-- A row that stands for a name is an empty non-terminal of the zone. -/
theorem RecordRow.StandsFor.isEmptyNonTerminal {zone : Int} {row : RecordRow} {name : String}
    (h : row.StandsFor zone name) : (row.isIn (some zone) && row.isEmptyNonTerminal) = true := by
  simp [RecordRow.isIn, RecordRow.isEmptyNonTerminal, h.domainId, h.type]

namespace Tables

/-- The empty non-terminals of a zone: its rows without a type. -/
def emptyNonTerminals (t : Tables) (zone : Int) : List RecordRow :=
  t.records.filter fun r => r.isIn (some zone) && r.isEmptyNonTerminal

/-- All rows of records but the empty non-terminals of a zone. -/
def recordsBeside (t : Tables) (zone : Int) : List RecordRow :=
  t.records.filter fun r => !(r.isIn (some zone) && r.isEmptyNonTerminal)

/-- The rows of a zone that have a type. -/
def typedRows (t : Tables) (zone : Int) : List RecordRow :=
  (t.zoneRows zone).filter fun r => !r.isEmptyNonTerminal

/-- The rows that an exchange takes and those that it gives. -/
def emptyExchange (zone : Int) (insert erase : TextMap Unit) (removeAll : Bool) :
    Exchange RecordRow where
  takes r := r.isIn (some zone) && r.isEmptyNonTerminal && decide (r.Erased erase removeAll)
  gives := insert.keys.map fun name => .emptyNonTerminal (some zone) (some name) none (some 1)

/-- Exchanging the empty non-terminals of a zone leads from the one tables to the others. -/
structure ExchangesEmpty (zone : Int) (insert erase : TextMap Unit) (removeAll : Bool)
    (before after : Tables) : Prop where
  records : ∃ added,
    after.records = without (emptyExchange zone insert erase removeAll).takes before.records ++
        added ∧
      added.map RecordRow.unnumbered = (emptyExchange zone insert erase removeAll).gives
  others : { after with records := before.records } = before

variable {zone : Int} {insert erase : TextMap Unit} {removeAll : Bool} {before after : Tables}

/-! ## What an exchange does -/

/-- The removals of single names together. -/
theorem runAll_removals (t : Tables) (zone : Int) (names : List String) :
    t.runAll (names.map fun name => .removeEmptyNonTerminal (some zone) (some name)) =
      .ok { t with
        records := without (fun r => r.isIn (some zone) && r.isEmptyNonTerminal &&
          decide (∃ name ∈ names, r.name = some name)) t.records } := by
  induction names generalizing t with
  | nil => simp [without]
  | cons name rest ih =>
    rw [List.map_cons, runAll_cons]
    refine (ih _).trans (congrArg (fun rows => Except.ok { t with records := rows }) ?_)
    -- A row is left by all removals if it is left by the first and by the others.
    show without _ (without _ t.records) = _
    rw [without, without, List.filter_filter]
    refine List.filter_congr fun r _ => ?_
    rw [Bool.eq_iff_iff]
    simp only [RecordRow.isNamed, Bool.and_eq_true, Bool.not_eq_true', ← Bool.not_eq_true,
      holds_some_iff, decide_eq_true_iff, List.mem_cons, exists_eq_or_imp]
    generalize (∃ name ∈ rest, r.name = some name) = others
    tauto

/-- An exchange is never refused, and does what it is to do. -/
theorem exists_exchangesEmpty (zone : Int) (insert erase : TextMap Unit) (removeAll : Bool)
    (before : Tables) :
    ∃ after,
      before.runAll (Update.exchangeEmptyNonTerminals zone insert erase removeAll) = .ok after ∧
      before.ExchangesEmpty zone insert erase removeAll after := by
  have hremoved : before.runAll
      (if removeAll then [.removeEmptyNonTerminals (some zone)]
        else erase.keys.map fun name => .removeEmptyNonTerminal (some zone) (some name)) =
      .ok { before with
        records := without (emptyExchange zone insert erase removeAll).takes before.records } := by
    cases removeAll with
    | true =>
      simp [Mutation.apply, deleteRecords, Change.deletion, emptyExchange, RecordRow.Erased]
    | false =>
      simp only [Bool.false_eq_true, if_false]
      rw [runAll_removals]
      simp [emptyExchange, RecordRow.Erased]
  obtain ⟨added, hrun, hadded⟩ := exists_runAll_insertions
    { before with
      records := without (emptyExchange zone insert erase removeAll).takes before.records }
    (emptyExchange zone insert erase removeAll).gives
  refine ⟨{ before with
    records := without (emptyExchange zone insert erase removeAll).takes before.records ++ added },
    ?_, ⟨added, rfl, ?_⟩, rfl⟩
  · refine runAll_append_of_ok hremoved ?_
    rw [runAll_insertEmptyNonTerminals]
    exact hrun
  · rw [map_eq_map_iff_forall₂.2 hadded, emptyExchange, List.map_map]
    rfl

namespace ExchangesEmpty

/-- The rows afterwards: those that were not taken, and then one for each name. -/
theorem exists_added (h : before.ExchangesEmpty zone insert erase removeAll after) :
    ∃ added,
      after.records =
          without (emptyExchange zone insert erase removeAll).takes before.records ++ added ∧
        List.Forall₂ (RecordRow.StandsFor zone) added insert.keys := by
  obtain ⟨added, hrecords, hadded⟩ := h.records
  exact ⟨added, hrecords,
    (map_eq_map_iff_forall₂.1 hadded).imp fun _ _ => RecordRow.standsFor_of_unnumbered⟩

/-- The empty non-terminals afterwards: those that were not erased, and then those inserted. -/
theorem emptyNonTerminals (h : before.ExchangesEmpty zone insert erase removeAll after) :
    ∃ added,
      after.emptyNonTerminals zone =
          ((before.emptyNonTerminals zone).filter fun r => ¬ r.Erased erase removeAll) ++ added ∧
        List.Forall₂ (RecordRow.StandsFor zone) added insert.keys := by
  obtain ⟨added, hrecords, hstands⟩ := h.exists_added
  refine ⟨added, ?_, hstands⟩
  have hnew : added.filter (fun r => r.isIn (some zone) && r.isEmptyNonTerminal) = added := by
    refine List.filter_eq_self.2 fun row hrow => ?_
    obtain ⟨name, -, hname⟩ := exists_of_mem_left hstands hrow
    exact hname.isEmptyNonTerminal
  rw [Tables.emptyNonTerminals, hrecords, List.filter_append, hnew, Tables.emptyNonTerminals,
    without, List.filter_filter, List.filter_filter]
  -- An empty non-terminal of the zone is not taken exactly if it is not erased.
  refine congrArg (· ++ added) (List.filter_congr fun r _ => ?_)
  cases hempty : r.isIn (some zone) && r.isEmptyNonTerminal <;> simp [emptyExchange, hempty]

/-- Every other row is as before. -/
theorem recordsBeside (h : before.ExchangesEmpty zone insert erase removeAll after) :
    after.recordsBeside zone = before.recordsBeside zone := by
  obtain ⟨added, hrecords, hstands⟩ := h.exists_added
  have hnew : added.filter (fun r => !(r.isIn (some zone) && r.isEmptyNonTerminal)) = [] := by
    refine List.filter_eq_nil_iff.2 fun row hrow => ?_
    obtain ⟨name, -, hname⟩ := exists_of_mem_left hstands hrow
    simp [hname.isEmptyNonTerminal]
  rw [Tables.recordsBeside, hrecords, List.filter_append, hnew, List.append_nil]
  refine filter_without (fun r htakes => ?_) before.records
  rw [(Bool.and_eq_true_iff.1 htakes).1]
  rfl

/-- The names of the empty non-terminals afterwards. -/
theorem exists_name_iff (h : before.ExchangesEmpty zone insert erase removeAll after)
    (name : String) :
    (∃ r ∈ after.emptyNonTerminals zone, r.name = some name) ↔
      name ∈ insert.keys ∨
        (∃ r ∈ before.emptyNonTerminals zone, r.name = some name) ∧
          removeAll = false ∧ name ∉ erase.keys := by
  obtain ⟨added, hrows, hadded⟩ := h.emptyNonTerminals
  have herased {r : RecordRow} (hname : r.name = some name) :
      ¬ r.Erased erase removeAll ↔ removeAll = false ∧ name ∉ erase.keys := by
    simp [RecordRow.Erased, hname]
  rw [hrows]
  constructor
  · rintro ⟨r, hr, hname⟩
    rcases List.mem_append.1 hr with hr | hr
    · obtain ⟨hold, hkept⟩ := List.mem_filter.1 hr
      exact Or.inr ⟨⟨r, hold, hname⟩, (herased hname).1 (of_decide_eq_true hkept)⟩
    · obtain ⟨name', hname', hstands⟩ := exists_of_mem_left hadded hr
      obtain rfl := Option.some.inj (hname.symm.trans hstands.name)
      exact Or.inl hname'
  · rintro (hinsert | ⟨⟨r, hold, hname⟩, hkept⟩)
    · obtain ⟨row, hrow, hstands⟩ := exists_of_mem_right hadded hinsert
      exact ⟨row, List.mem_append_right _ hrow, hstands.name⟩
    · refine ⟨r, List.mem_append_left _ (List.mem_filter.2 ⟨hold, ?_⟩), hname⟩
      exact decide_eq_true ((herased hname).2 hkept)

theorem recordContent (h : before.ExchangesEmpty zone insert erase removeAll after) :
    after.recordContent = (emptyExchange zone insert erase removeAll).apply before.recordContent := by
  obtain ⟨added, hrecords, hadded⟩ := h.records
  rw [Tables.recordContent, hrecords]
  exact Exchange.map_without_append (g := RecordRow.unnumbered) (fun _ => rfl) hadded _

end ExchangesEmpty

/-- An exchange that erases what it inserts covers itself. -/
theorem emptyExchange_covers (h : removeAll = true ∨ ∀ name ∈ insert.keys, name ∈ erase.keys) :
    (emptyExchange zone insert erase removeAll).Covers
      (emptyExchange zone insert erase removeAll) := by
  refine ⟨fun _ htakes => htakes, fun row hrow => ?_⟩
  obtain ⟨name, hname, rfl⟩ := List.mem_map.1 hrow
  have herased : (RecordRow.emptyNonTerminal (some zone) (some name) none (some 1)).Erased erase
      removeAll := h.imp_right fun hsubset => ⟨name, hsubset name hname, rfl⟩
  simp [emptyExchange, RecordRow.isIn, RecordRow.isEmptyNonTerminal, RecordRow.emptyNonTerminal]
  exact herased

end Tables

namespace Backend

variable {b : Backend} {id zone : Int} {insert erase : TextMap Unit} {removeAll : Bool}
  {before tables : Tables}

/-- Two exchanges of one kind in an open transaction: both are carried out if it can write, and
otherwise what it sees does not change. -/
theorem Reachable.exchangeEmpty_twice (h : b.Reachable) (hopen : b.view? id = some before)
    (zone : Int) (insert erase : TextMap Unit) (removeAll : Bool) :
    ∃ after again,
      (b.afterAll [.updateEmptyNonTerminals id zone insert erase removeAll]).view? id =
        some after ∧
      (b.afterAll [.updateEmptyNonTerminals id zone insert erase removeAll,
        .updateEmptyNonTerminals id zone insert erase removeAll]).view? id = some again ∧
      (b.Writable id ∧
          b.AllSucceed [.updateEmptyNonTerminals id zone insert erase removeAll,
            .updateEmptyNonTerminals id zone insert erase removeAll] ∧
          before.ExchangesEmpty zone insert erase removeAll after ∧
          after.ExchangesEmpty zone insert erase removeAll again ∨
        ¬ b.Writable id ∧ after = before ∧ again = before) := by
  have hop := Operation.isUpdate_updateEmptyNonTerminals id b.dnssec zone insert erase removeAll
  obtain ⟨after, hafter, hone⟩ := h.updates_cases hopen (.cons hop .nil)
  obtain ⟨again, hagain, htwo⟩ := h.updates_cases hopen (.cons hop (.cons hop .nil))
  refine ⟨after, again, hafter, hagain, ?_⟩
  rcases hone with ⟨hwritable, -, hrun⟩ | ⟨hblocked, hsame⟩
  · obtain ⟨-, hsucceed, hrun'⟩ := htwo.resolve_right fun hno => hno.1 hwritable
    obtain ⟨t, hfirst, hexchanges⟩ :=
      Tables.exists_exchangesEmpty zone insert erase removeAll before
    obtain ⟨u, hsecond, hexchanges'⟩ := Tables.exists_exchangesEmpty zone insert erase removeAll t
    rw [List.flatten_singleton] at hrun
    rw [List.flatten_cons, List.flatten_singleton] at hrun'
    obtain rfl := Except.ok.inj (hrun.symm.trans hfirst)
    obtain rfl := Except.ok.inj (hrun'.symm.trans (Tables.runAll_append_of_ok hfirst hsecond))
    exact Or.inl ⟨hwritable, hsucceed, hexchanges, hexchanges'⟩
  · obtain ⟨-, hsame'⟩ := htwo.resolve_left fun hyes => hblocked hyes.1
    exact Or.inr ⟨hblocked, hsame, hsame'⟩

/-- An exchange that succeeds is carried out, in a transaction that cannot write too: then it has
nothing to do. -/
theorem Reachable.exchangesEmpty_of_ok (h : b.Reachable) (hopen : b.view? id = some before)
    (hafter : ((updateEmptyNonTerminals id zone insert erase removeAll).run b).2.view? id =
      some tables)
    (hok : ((updateEmptyNonTerminals id zone insert erase removeAll).run b).1 = .ok ()) :
    before.ExchangesEmpty zone insert erase removeAll tables := by
  obtain ⟨after, hview, ⟨-, hrun⟩ | ⟨-, herror, -⟩⟩ := h.update_cases hopen
    (Update.neverRefused_exchangeEmptyNonTerminals zone insert erase removeAll)
  · obtain ⟨after', hrun', hexchanges⟩ :=
      Tables.exists_exchangesEmpty zone insert erase removeAll before
    obtain rfl := Except.ok.inj (hrun.symm.trans hrun')
    obtain rfl := Option.some.inj (hafter.symm.trans hview)
    exact hexchanges
  · cases hok.symm.trans herror

/-- Exchanging the empty non-terminals of a zone, in every state that a run can reach and in every
open transaction. If the call succeeds, as it does in a transaction that can write, the empty
non-terminals of the zone are those that were not erased, followed by one for each name to insert,
and every other row and table is as before; if it fails, nothing changes. If the call erases what it
inserts, repeating it changes nothing but ids. -/
theorem empty_non_terminals_exchanged (b : Backend) (hreachable : b.Reachable) (id : Int)
    (hopen : b.inProgress id = true) (zone : Int) (insert erase : TextMap Unit)
    (removeAll : Bool) :
    ∃ before after again, b.view? id = some before ∧
      (b.afterAll [.updateEmptyNonTerminals id zone insert erase removeAll]).view? id =
        some after ∧
      (b.afterAll [.updateEmptyNonTerminals id zone insert erase removeAll,
        .updateEmptyNonTerminals id zone insert erase removeAll]).view? id = some again ∧
      (b.Writable id → b.AllSucceed [.updateEmptyNonTerminals id zone insert erase removeAll,
        .updateEmptyNonTerminals id zone insert erase removeAll]) ∧
      (((updateEmptyNonTerminals id zone insert erase removeAll).run b).1 = .ok () →
        (∃ added,
          after.emptyNonTerminals zone =
            ((before.emptyNonTerminals zone).filter fun r => ¬ r.Erased erase removeAll) ++
              added ∧
          List.Forall₂ (RecordRow.StandsFor zone) added insert.keys) ∧
        (∀ name, (∃ r ∈ after.emptyNonTerminals zone, r.name = some name) ↔
          name ∈ insert.keys ∨
            (∃ r ∈ before.emptyNonTerminals zone, r.name = some name) ∧
              removeAll = false ∧ name ∉ erase.keys) ∧
        after.recordsBeside zone = before.recordsBeside zone ∧
        { after with records := before.records } = before) ∧
      (∀ fault, ((updateEmptyNonTerminals id zone insert erase removeAll).run b).1 =
        .error fault → after = before) ∧
      (removeAll = true ∨ (∀ name ∈ insert.keys, name ∈ erase.keys) →
        again.recordContent = after.recordContent ∧
          { again with records := after.records } = after) := by
  obtain ⟨before, hbefore⟩ := hreachable.exists_view hopen
  obtain ⟨after, again, hafter, hagain, hcases⟩ :=
    hreachable.exchangeEmpty_twice hbefore zone insert erase removeAll
  refine ⟨before, after, again, hbefore, hafter, hagain, ?_, ?_, ?_, ?_⟩
  · intro hwritable
    exact (hcases.resolve_right fun hno => hno.1 hwritable).2.1
  · intro hok
    have hexchanges := hreachable.exchangesEmpty_of_ok hbefore hafter hok
    exact ⟨hexchanges.emptyNonTerminals, hexchanges.exists_name_iff, hexchanges.recordsBeside,
      hexchanges.others⟩
  · rintro fault herror
    rcases hcases with ⟨-, ⟨hok, -⟩, -⟩ | ⟨-, hsame, -⟩
    · cases herror.symm.trans hok
    · exact hsame
  · intro hself
    rcases hcases with ⟨-, -, hexchanges, hexchanges'⟩ | ⟨-, rfl, rfl⟩
    · refine ⟨?_, hexchanges'.others⟩
      rw [hexchanges'.recordContent, hexchanges.recordContent,
        Exchange.apply_apply (Tables.emptyExchange_covers hself)]
    · exact ⟨rfl, rfl⟩

/-- An empty non-terminal is erased and inserted again, and then it is there once. -/
theorem empty_non_terminals_exchanged_hollow :
    ∃ after row,
      ((updateEmptyNonTerminals 7 1 (.setOf ["www.example.org"]) (.setOf ["www.example.org"])
        false).run hollow).2.view? 7 = some after ∧
      after.emptyNonTerminals 1 = [row] ∧ row.StandsFor 1 "www.example.org" := by
  obtain ⟨before, after, again, hbefore, hafter, -, -, hexchanged, -, -⟩ :=
    empty_non_terminals_exchanged hollow ⟨8, false, none, _, rfl⟩ 7 rfl 1
      (.setOf ["www.example.org"]) (.setOf ["www.example.org"]) false
  obtain ⟨⟨added, hrows, hadded⟩, -⟩ := hexchanged rfl
  obtain rfl := Option.some.inj (hbefore.symm.trans rfl)
  obtain ⟨row, rest, hrow, hrest, rfl⟩ := List.forall₂_cons_right_iff.1 hadded
  obtain rfl := List.forall₂_nil_right_iff.1 hrest
  exact ⟨after, row, hafter, hrows, hrow⟩

/-! ## Listed empty non-terminals -/

/-- The rows of a zone are its empty non-terminals and its rows that have a type. -/
theorem zoneRows_perm (t : Tables) (zone : Int) :
    (t.zoneRows zone).Perm (t.emptyNonTerminals zone ++ t.typedRows zone) := by
  have hempty : (t.zoneRows zone).filter RecordRow.isEmptyNonTerminal =
      t.emptyNonTerminals zone := by
    rw [Tables.zoneRows, List.filter_filter, Tables.emptyNonTerminals]
    exact List.filter_congr fun r _ => Bool.and_comm _ _
  have hsplit := List.filter_append_perm RecordRow.isEmptyNonTerminal (t.zoneRows zone)
  rw [hempty] at hsplit
  exact hsplit.symm

/-- A zone is listed with what its empty non-terminals and its other rows are read as. -/
theorem list_of_parts (hb : b.store.Calm) (hfree : b.HasFree)
    (htables : b.store.database.tables = some tables) (name : String)
    {empty typed : List ResourceRecord}
    (hempty : List.Forall₂ (fun row r => ResourceRecord.ofListingRow row = .ok r)
      (tables.emptyNonTerminals zone) empty)
    (htyped : List.Forall₂ (fun row r => ResourceRecord.ofListingRow row = .ok r)
      (tables.typedRows zone) typed) :
    ∃ listed, ((list name (some zone) true).run b).1 = .ok listed ∧
      listed.Perm (empty ++ typed) := by
  obtain ⟨records, hrecords, hperm⟩ :=
    List.perm_comp_forall₂ (zoneRows_perm tables zone) (List.rel_append hempty htyped)
  obtain ⟨listed, hlisted, hperm'⟩ := list_of_forall₂ hb hfree htables name hrecords
  exact ⟨listed, hlisted, hperm'.trans hperm⟩

/-- A row is listed as an empty non-terminal if it has no type, or the empty text as its type. -/
theorem isEmptyNonTerminal_of_ofListingRow {row : RecordRow} {r : ResourceRecord}
    (h : ResourceRecord.ofListingRow row = .ok r) :
    r.isEmptyNonTerminal = true ↔ row.isEmptyNonTerminal = true ∨ row.type = some "" := by
  obtain ⟨-, -, htype⟩ := key_of_ofListingRow h
  rw [ResourceRecord.isEmptyNonTerminal, String.isEmpty_iff, ← htype,
    RecordRow.isEmptyNonTerminal]
  cases row.type <;> simp

/-- After a run in which no record with the empty text as its type was given no row has it. -/
theorem type_ne_empty_of_operated {connections : Nat} {dnssec : Bool} {hasher : Option Hasher}
    {ops : List AnyOperation}
    (hgiven : ∀ r ∈ (Writings.ofRun connections dnssec hasher ops).records, r.qtype ≠ "")
    (htables : (operated connections dnssec hasher ops).store.database.tables = some tables) :
    ∀ row ∈ tables.records, row.type ≠ some "" := by
  obtain ⟨tables', htables', hall⟩ := allWritten_operated connections dnssec hasher ops
  obtain rfl := Option.some.inj (htables.symm.trans htables')
  intro row hrow
  cases hall.records row hrow with
  | record hr => exact fun h => hgiven _ hr (Option.some.inj h)
  | emptyNonTerminal => exact fun h => nomatch h

/-- If one backend has all rows of another but the empty non-terminals of a zone, the listings of
the zone differ in what these are read as. Of what is left, the rows with the empty text as their
type are listed as empty non-terminals. -/
theorem list_beside {b' : Backend} (hb : b.store.Calm) (hfree : b.HasFree) (hb' : b'.store.Calm)
    (hfree' : b'.HasFree)
    (htables : b.store.database.tables = some tables)
    (htables' : b'.store.database.tables =
      some { tables with records := tables.recordsBeside zone })
    (hread : ∀ row ∈ tables.records, ∃ r, ResourceRecord.ofListingRow row = .ok r)
    (name : String) :
    ∃ listed removed remaining untyped,
      ((list name (some zone) true).run b).1 = .ok listed ∧
      ((list name (some zone) true).run b').1 = .ok remaining ∧
      listed.Perm (removed ++ remaining) ∧
      List.Forall₂ (fun row r => ResourceRecord.ofListingRow row = .ok r)
        (tables.emptyNonTerminals zone) removed ∧
      List.Forall₂ (fun row r => ResourceRecord.ofListingRow row = .ok r)
        ((tables.zoneRows zone).filter fun row => row.type = some "") untyped ∧
      (listed.filter ResourceRecord.isEmptyNonTerminal).Perm (removed ++ untyped) ∧
      (remaining.filter ResourceRecord.isEmptyNonTerminal).Perm untyped := by
  obtain ⟨removed, hremoved⟩ := mapM_succeeds_iff.2 fun row
    (hrow : row ∈ tables.emptyNonTerminals zone) => hread row (List.mem_filter.1 hrow).1
  obtain ⟨typed, htyped⟩ := mapM_succeeds_iff.2 fun row (hrow : row ∈ tables.typedRows zone) =>
    hread row (List.mem_filter.1 (List.mem_filter.1 hrow).1).1
  rw [mapM_eq_ok_iff] at hremoved htyped
  obtain ⟨listed, hlisted, hperm⟩ := list_of_parts hb hfree htables name hremoved htyped
  -- The rows of the zone that are left are those with a type.
  have hleft : ({ tables with records := tables.recordsBeside zone } : Tables).zoneRows zone =
      tables.typedRows zone := by
    rw [Tables.typedRows, Tables.zoneRows, Tables.zoneRows, Tables.recordsBeside,
      List.filter_filter, List.filter_filter]
    refine List.filter_congr fun r _ => ?_
    cases r.isIn (some zone) <;> simp
  obtain ⟨remaining, hremaining, hperm'⟩ := list_of_forall₂ hb' hfree' htables' name (hleft ▸ htyped)
  have hempty : removed.filter ResourceRecord.isEmptyNonTerminal = removed := by
    refine List.filter_eq_self.2 fun r hr => ?_
    obtain ⟨row, hrow, hread⟩ := exists_of_mem_right hremoved hr
    have hnull := (Bool.and_eq_true_iff.1 (List.mem_filter.1 hrow).2).2
    exact (isEmptyNonTerminal_of_ofListingRow hread).2 (Or.inl hnull)
  have huntyped : List.Forall₂ (fun row r => ResourceRecord.ofListingRow row = .ok r)
      ((tables.zoneRows zone).filter fun row => row.type = some "")
      (typed.filter ResourceRecord.isEmptyNonTerminal) := by
    have hrows : ((tables.typedRows zone).filter fun row =>
        row.isEmptyNonTerminal || decide (row.type = some "")) =
        (tables.zoneRows zone).filter fun row => row.type = some "" := by
      rw [Tables.typedRows, List.filter_filter]
      refine List.filter_congr fun row _ => ?_
      rw [RecordRow.isEmptyNonTerminal]
      cases row.type <;> simp
    rw [← hrows]
    refine List.rel_filter (fun {row r} hrow => ?_) htyped
    simp only [Bool.or_eq_true, decide_eq_true_iff]
    exact (isEmptyNonTerminal_of_ofListingRow hrow).symm
  refine ⟨listed, removed, remaining, typed.filter ResourceRecord.isEmptyNonTerminal, hlisted,
    hremaining, hperm.trans (hperm'.symm.append_left _), hremoved, huntyped, ?_, hperm'.filter _⟩
  have hfilter := hperm.filter ResourceRecord.isEmptyNonTerminal
  rwa [List.filter_append, hempty] at hfilter

/-- Removing all empty non-terminals of a zone, after every run of operations that leaves a
connection free, and in every open transaction that can write and has changed nothing yet. The call
and the commit succeed, and take away exactly the rows without a type; what these are listed as is
gone from the listing, and everything else is still there. Listed as empty non-terminals, however,
are also the rows whose type is the empty text, and these remain. So what is listed as empty
non-terminals is what is removed exactly if the zone has no such row, as it never has if no record
with an empty type was given in the run. -/
theorem empty_non_terminals_removed (connections : Nat) (dnssec : Bool) (hasher : Option Hasher)
    (ops : List AnyOperation) (b : Backend) (hb : b = operated connections dnssec hasher ops)
    (hfree : b.HasFree) (id : Int) (hwritable : b.Writable id)
    (hview : b.view? id = b.store.database.tables) (zone : Int)
    (name : String) :
    ∃ tables listed removed remaining untyped, b.store.database.tables = some tables ∧
      ((list name (some zone) true).run b).1 = .ok listed ∧
      b.AllSucceed [.updateEmptyNonTerminals id zone .empty .empty true, .commitTransaction id] ∧
      (b.afterAll [.updateEmptyNonTerminals id zone .empty .empty true,
        .commitTransaction id]).store.database.tables =
          some { tables with records := tables.recordsBeside zone } ∧
      ((list name (some zone) true).run (b.afterAll
        [.updateEmptyNonTerminals id zone .empty .empty true, .commitTransaction id])).1 =
          .ok remaining ∧
      listed.Perm (removed ++ remaining) ∧
      List.Forall₂ (fun row r => ResourceRecord.ofListingRow row = .ok r)
        (tables.emptyNonTerminals zone) removed ∧
      List.Forall₂ (fun row r => ResourceRecord.ofListingRow row = .ok r)
        ((tables.zoneRows zone).filter fun row => row.type = some "") untyped ∧
      (listed.filter ResourceRecord.isEmptyNonTerminal).Perm (removed ++ untyped) ∧
      (remaining.filter ResourceRecord.isEmptyNonTerminal).Perm untyped ∧
      (removed.Perm (listed.filter ResourceRecord.isEmptyNonTerminal) ↔ untyped = []) ∧
      ((∀ r ∈ (Writings.ofRun connections dnssec hasher ops).records, r.qtype ≠ "") →
        untyped = []) := by
  subst hb
  have hreachable : (operated connections dnssec hasher ops).Reachable :=
    reachable_operated connections dnssec hasher ops
  obtain ⟨tables, view, hworking⟩ := hreachable.working hwritable
  have htables := hworking.tables
  obtain rfl : view = tables :=
    Option.some.inj (hworking.view?_eq.symm.trans (hview.trans htables))
  -- The call leaves the rows beside the empty non-terminals, and the commit makes them lasting.
  obtain ⟨after, hrun, hok, hafter⟩ :=
    hworking.update (Update.neverRefused_exchangeEmptyNonTerminals zone .empty .empty true)
  obtain rfl : { view with records := view.recordsBeside zone } = after :=
    Except.ok.inj hrun
  obtain ⟨hcommit, hcalm, hfree', hlast⟩ := hafter.commit
  obtain ⟨listed, removed, remaining, untyped, hlisted, hremaining, hperm, hremoved, huntyped,
      hempty, hleft⟩ :=
    list_beside (calm_operated connections dnssec hasher ops) hfree hcalm hfree' htables hlast
      (fun row hrow => (whole_of_operated htables row hrow).exists_ofListingRow) name
  refine ⟨view, listed, removed, remaining, untyped, htables, hlisted, ⟨hok, hcommit, trivial⟩,
    hlast, hremaining, hperm, hremoved, huntyped, hempty, hleft, ?_, ?_⟩
  · constructor
    · intro hagree
      have hlength := (hagree.trans hempty).length_eq
      rw [List.length_append] at hlength
      exact List.eq_nil_of_length_eq_zero (by omega)
    · rintro rfl
      rw [List.append_nil] at hempty
      exact hempty.symm
  · intro hgiven
    have hnone : ((view.zoneRows zone).filter fun row => row.type = some "") = [] := by
      refine List.filter_eq_nil_iff.2 fun row hrow htype => ?_
      exact type_ne_empty_of_operated hgiven htables row (List.mem_filter.1 hrow).1
        (of_decide_eq_true htype)
    rw [hnone] at huntyped
    exact List.forall₂_nil_left_iff.1 huntyped

/-- A run that adds an empty non-terminal, and opens another transaction. -/
def hollowing : List AnyOperation :=
  [⟨Unit, .startTransaction 7 0⟩,
   ⟨Unit, .feedEmptyNonTerminals 7 1 (TextMap.empty.insert "www.example.org" true)⟩,
   ⟨Unit, .commitTransaction 7⟩,
   ⟨Unit, .startTransaction 8 0⟩]

/-- After its removal no empty non-terminal is listed. -/
theorem empty_non_terminals_removed_hollowing :
    ∃ remaining,
      ((list "example.org" (some 1) true).run ((operated 8 false none hollowing).afterAll
        [.updateEmptyNonTerminals 8 1 .empty .empty true, .commitTransaction 8])).1 =
          .ok remaining ∧
      remaining.filter ResourceRecord.isEmptyNonTerminal = [] := by
  obtain ⟨tables, listed, removed, remaining, untyped, -, -, -, -, hremaining, -, -, -, -, hleft,
      -, hgiven⟩ :=
    empty_non_terminals_removed 8 false none hollowing _ rfl (by decide) 8
      ⟨_, rfl, by decide, by decide⟩ rfl 1 "example.org"
  obtain rfl := hgiven fun r hr => absurd hr List.not_mem_nil
  exact ⟨remaining, hremaining, hleft.eq_nil⟩

/-- A run that feeds a record with the empty text as its type, and opens another transaction. -/
def untypedFeeding : List AnyOperation :=
  [⟨Unit, .startTransaction 7 0⟩,
   ⟨Unit, .feedRecord 7 (.plain 1 "www.example.org" "" "" 0) ""⟩,
   ⟨Unit, .commitTransaction 7⟩,
   ⟨Unit, .startTransaction 8 0⟩]

/-- The record is listed as an empty non-terminal, and the removal of all of them leaves it. -/
theorem untyped_record_remains :
    (operated 8 false none untypedFeeding).Writable 8 ∧
      ((list "example.org" (some 1) true).run (operated 8 false none untypedFeeding)).1 =
        .ok [.plain 1 "www.example.org" "" "" 0] ∧
      (operated 8 false none untypedFeeding).AllSucceed
        [.updateEmptyNonTerminals 8 1 .empty .empty true, .commitTransaction 8] ∧
      ((list "example.org" (some 1) true).run ((operated 8 false none untypedFeeding).afterAll
        [.updateEmptyNonTerminals 8 1 .empty .empty true, .commitTransaction 8])).1 =
          .ok [.plain 1 "www.example.org" "" "" 0] ∧
      (ResourceRecord.plain 1 "www.example.org" "" "" 0).isEmptyNonTerminal = true := by
  refine ⟨⟨_, rfl, by decide, by decide⟩, ?_, ⟨rfl, rfl, trivial⟩, ?_, rfl⟩
  · decide +kernel
  · decide +kernel

end Backend

end ZoneStore
