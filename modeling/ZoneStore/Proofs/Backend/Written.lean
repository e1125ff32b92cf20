import ZoneStore.Proofs.Backend.AllOrNothing
import ZoneStore.Proofs.Backend.Issued
import ZoneStore.Proofs.Backend.Tracing

/-!
# What a run has written

`Writings.ofRun` collects what the operations of a run have written: the records, the names of empty
non-terminals and the comments that they gave, the serial and the time of the last check that were
last noted of each domain, and the key that was last added under each id. All that is stored after
the run is among that: every committed record, up to its ordering key and its authority, and every
comment is one that was given (`Backend.wrote_operated`), every domain has the serial and the time
that were last noted of it since it was created (`Backend.notes_operated`), and every signing key
has the flags and the material with which it was added (`Backend.keyed_operated`).
-/

set_option autoImplicit false

namespace ZoneStore

open Backend

/-- What is noted of a domain: the serial that was last notified, and the time of the last check. -/
structure DomainNotes where
  /-- The notified serial. -/
  serial : Option Int
  /-- The time of the last check. -/
  check : Option Int
deriving DecidableEq, Repr

/-- Nothing is noted of a new domain. -/
def DomainNotes.blank : DomainNotes := ⟨none, none⟩

/-- What is noted of the domain of a row. -/
def DomainRow.notes (d : DomainRow) : DomainNotes := ⟨d.notifiedSerial, d.lastCheck⟩

/-- What the operations of a run have written. -/
structure Writings where
  /-- The records that were given. -/
  records : List ResourceRecord
  /-- The zones and names of the empty non-terminals that were given. -/
  emptyNonTerminals : List (Int × String)
  /-- The comments that were given. -/
  comments : List Comment
  /-- What was last noted of the domain of an id and a name. -/
  notes : Int → String → DomainNotes
  /-- The signing key that was last added under an id. -/
  keys : Int → Option SigningKey

/-! ## What single operations write -/

namespace Operation

/-- What is noted of the domain of an id and a name after the operation. A domain that is created
under that name is a new one. -/
def noted (id : Int) (name : String) : {α : Type} → Operation α → DomainNotes → DomainNotes
  | _, setNotified domain serial, notes =>
    if domain = id then { notes with serial := some serial } else notes
  | _, setFresh domain now, notes =>
    if domain = id then { notes with check := some now } else notes
  | _, createDomain domain _ _ _, notes | _, createSlaveDomain _ domain, notes =>
    if domain = name then .blank else notes
  | _, _, notes => notes

/-- The signing key under an id after the operation, given its outcome. -/
def keyed (id : Int) : {α : Type} → Operation α → Except Fault α → Option SigningKey →
    Option SigningKey
  | _, addDomainKey _ key, .ok added, before => if added = id then some key else before
  | _, _, _, before => before

end Operation

/-- What is noted of the domain of an id and a name after an operation. One that fails notes
nothing. -/
def DomainNotes.after (id : Int) (name : String) : Tracer DomainNotes :=
  fun op outcome notes => if op.succeeded outcome then op.noted id name notes else notes

/-- What a run of operations has written. -/
def Writings.ofRun (connections : Nat) (dnssec : Bool) (hasher : Option Hasher)
    (ops : List AnyOperation) :
    Writings where
  records := ops.flatMap fun op => op.2.recordsGiven
  emptyNonTerminals := ops.flatMap fun op => op.2.namesGiven
  comments := ops.flatMap fun op => op.2.commentsGiven
  notes id name :=
    (on (.on .empty connections) dnssec hasher).trace (DomainNotes.after id name) .blank ops
  keys id := (on (.on .empty connections) dnssec hasher).trace (Operation.keyed id) none ops

/-! ## Records and comments -/

/-- The row of a record that was given, or of an empty non-terminal, under any id, ordering key and
authority. -/
inductive RecordRow.Written (w : Writings) : RecordRow → Prop where
  /-- A record. -/
  | record {r : ResourceRecord} (hr : r ∈ w.records) (id : Int) (key : Option String)
      (auth : Option Int) :
      Written w { r.toRow true "" with id := id, ordername := key, auth := auth }
  /-- An empty non-terminal. -/
  | emptyNonTerminal {zone : Int} {name : String} (hname : (zone, name) ∈ w.emptyNonTerminals)
      (id : Int) (key : Option String) (auth : Option Int) :
      Written w { RecordRow.emptyNonTerminal (some zone) (some name) key auth with id := id }

namespace RecordRow.Written

variable {w : Writings} {row : RecordRow}

theorem renumbered (h : row.Written w) (id : Int) : { row with id := id }.Written w := by
  cases h with
  | record hr => exact .record hr id _ _
  | emptyNonTerminal hname => exact .emptyNonTerminal hname id _ _

theorem reordered (h : row.Written w) (key : Option String) (auth : Option Int) :
    { row with ordername := key, auth := auth }.Written w := by
  cases h with
  | record hr id => exact .record hr id key auth
  | emptyNonTerminal hname id => exact .emptyNonTerminal hname id key auth

end RecordRow.Written

/-- Records and comments were given, and each metadata value has a kind. -/
structure Tables.Written (w : Writings) (t : Tables) : Prop where
  records : ∀ row ∈ t.records, row.Written w
  comments : ∀ row ∈ t.comments, Comment.ofRow row ∈ w.comments
  metadata : ∀ row ∈ t.metadata, ∃ kind, row.kind = some kind

theorem Tables.written_empty (w : Writings) : Tables.empty.Written w :=
  ⟨fun _ h => absurd h List.not_mem_nil, fun _ h => absurd h List.not_mem_nil,
    fun _ h => absurd h List.not_mem_nil⟩

/-- What the mutation adds to records, comments and metadata was given. -/
def Mutation.Gives (w : Writings) : Mutation → Prop
  | insertRecord row => row.Written w
  | insertEmptyNonTerminal zone name key auth =>
    (RecordRow.emptyNonTerminal zone name key auth).Written w
  | insertComment zone name type modifiedAt account comment =>
    ∃ c ∈ w.comments, insertComment zone name type modifiedAt account comment = c.insertion
  | addMetadata _ kind _ => ∃ text, kind = some text
  | _ => True

namespace Mutation

variable {w : Writings} {m : Mutation}

theorem gives_of_removes (h : m.removes = true) : m.Gives w := by
  cases m <;> first | exact trivial | cases h

/-- What is administrated is no record, no comment and no metadata. -/
theorem gives_of_target (h : m.IsAdministrative) (hmetadata : m.target ≠ .domainmetadata) :
    m.Gives w := by
  cases m with
  | insertRecord | insertEmptyNonTerminal => exact absurd rfl h.records
  | insertComment => exact absurd rfl h.comments
  | addMetadata => exact absurd rfl hmetadata
  | _ => trivial

theorem Gives.written (h : m.Gives w) {row : RecordRow} (hrow : m.newRecord? = some row) :
    row.Written w := by
  cases m with
  | insertRecord | insertEmptyNonTerminal =>
    cases hrow
    exact h
  | _ => cases hrow

theorem gives_insertion {r : ResourceRecord} (hr : r ∈ w.records) (dnssec : Bool)
    (ordername : String) : (r.insertion dnssec ordername).Gives w :=
  .record hr 0 _ _

theorem gives_insertEmptyNonTerminal {zone : Int} {name : String}
    (hname : (zone, name) ∈ w.emptyNonTerminals) (key : Option String) (auth : Option Int) :
    (insertEmptyNonTerminal (some zone) (some name) key auth).Gives w :=
  .emptyNonTerminal hname 0 key auth

theorem gives_commentInsertion {c : Comment} (hc : c ∈ w.comments) : c.insertion.Gives w :=
  ⟨c, hc, rfl⟩

end Mutation

theorem Tables.Written.alters {w : Writings} {t t' : Tables} {m : Mutation} (h : t.Written w)
    (hgives : m.Gives w) (hm : m.Alters t t') : t'.Written w := by
  cases hm with
  | addRecord hrow =>
    refine { h with records := ?_ }
    intro row hmem
    rcases List.mem_append.1 hmem with hmem | hmem
    · exact h.records row hmem
    · obtain rfl := List.mem_singleton.1 hmem
      exact (hgives.written hrow).renumbered _
  | removeRecords =>
    exact { h with records := fun row hrow => h.records row (mem_without.1 hrow).1 }
  | reorderRecords =>
    refine { h with records := ?_ }
    intro row hrow
    obtain ⟨before, hbefore, rfl | rfl⟩ := exists_of_mem_revise hrow
    · exact h.records _ hbefore
    · exact (h.records _ hbefore).reordered _ _
  | addComment =>
    refine { h with comments := ?_ }
    intro row hrow
    rcases List.mem_append.1 hrow with hrow | hrow
    · exact h.comments row hrow
    · obtain rfl := List.mem_singleton.1 hrow
      obtain ⟨c, hc, heq⟩ := hgives
      cases heq
      exact hc
  | removeComments =>
    exact { h with comments := fun row hrow => h.comments row (mem_without.1 hrow).1 }
  | addMetadata kind content =>
    refine { h with metadata := ?_ }
    intro row hrow
    rcases List.mem_append.1 hrow with hrow | hrow
    · exact h.metadata row hrow
    · obtain rfl := List.mem_singleton.1 hrow
      exact hgives
  | removeMetadata =>
    exact { h with metadata := fun row hrow => h.metadata row (mem_without.1 hrow).1 }
  | _ => exact ⟨h.records, h.comments, h.metadata⟩

/-- What the operation gives is among what was written. -/
structure Operation.WritesTo {α : Type} (op : Operation α) (w : Writings) : Prop where
  records : ∀ r ∈ op.recordsGiven, r ∈ w.records
  names : ∀ n ∈ op.namesGiven, n ∈ w.emptyNonTerminals
  comments : ∀ c ∈ op.commentsGiven, c ∈ w.comments

theorem Writings.writesTo_ofRun {connections : Nat} {dnssec : Bool} {hasher : Option Hasher}
    {ops : List AnyOperation}
    {op : AnyOperation} (hop : op ∈ ops) : op.2.WritesTo (.ofRun connections dnssec hasher ops) where
  records _ hr := List.mem_flatMap.2 ⟨op, hop, hr⟩
  names _ hn := List.mem_flatMap.2 ⟨op, hop, hn⟩
  comments _ hc := List.mem_flatMap.2 ⟨op, hop, hc⟩

/-- What the mutations of an operation add was given by it. -/
theorem Operation.Issues.gives {α : Type} {op : Operation α} {w : Writings} {dnssec : Bool}
    {m : Mutation} (hm : op.Issues dnssec m) (h : op.WritesTo w) : m.Gives w := by
  cases hm with
  | removal hremoves => exact Mutation.gives_of_removes hremoves
  | record hr ordername => exact Mutation.gives_insertion (h.records _ hr) dnssec ordername
  | emptyNonTerminal hname key auth =>
    exact Mutation.gives_insertEmptyNonTerminal (h.names _ hname) key auth
  | order => trivial
  | comment hc => exact Mutation.gives_commentInsertion (h.comments _ hc)
  | metadata name kind => exact ⟨kind, rfl⟩
  | administration hadmin hmetadata => exact Mutation.gives_of_target hadmin hmetadata

/-- After a run all records and comments, in the committed tables and in the view of any open
transaction, are ones that were given. -/
theorem Backend.wrote_operated (connections : Nat) (dnssec : Bool) (hasher : Option Hasher)
    (ops : List AnyOperation) :
    (operated connections dnssec hasher ops).Obeys .full
      (Tables.Written (.ofRun connections dnssec hasher ops)) := by
  refine operated_induction (obeys_on_empty (Tables.written_empty _) connections dnssec hasher) ?_
  intro op hop b _ _ hb
  refine op.2.obeys hb fun m hm => Mutation.upholds_of_alters fun t t' ht hm' => ?_
  exact ht.alters ((op.2.issues_mutations b m hm).gives (Writings.writesTo_ofRun hop)) hm'

/-! ## Domains and keys -/

namespace Mutation

theorem marks_of_removes {m : Mutation} (h : m.removes = true) : m.marks = false := by
  cases m <;> first | rfl | cases h

theorem IsZoneUpdate.marks {m : Mutation} (h : m.IsZoneUpdate) : m.marks = false := by
  rcases h.target with h | h <;> cases m <;> first | rfl | cases h

end Mutation

/-- Every domain was there, with the same id, name and notes, and every key, with the same id, flags
and material. -/
structure Tables.Unmarked (t t' : Tables) : Prop where
  domains : ∀ d' ∈ t'.domains, ∃ d ∈ t.domains, d.id = d'.id ∧ d.name = d'.name ∧ d.notes = d'.notes
  keys : ∀ k' ∈ t'.keys, ∃ k ∈ t.keys, k.id = k'.id ∧ k.flags = k'.flags ∧ k.content = k'.content

namespace Tables.Unmarked

variable {t t' t'' : Tables}

theorem refl (t : Tables) : t.Unmarked t :=
  ⟨fun d hd => ⟨d, hd, rfl, rfl, rfl⟩, fun k hk => ⟨k, hk, rfl, rfl, rfl⟩⟩

theorem trans (h : t.Unmarked t') (h' : t'.Unmarked t'') : t.Unmarked t'' := by
  constructor
  · intro d'' hd''
    obtain ⟨d', hd', hid', hname', hnotes'⟩ := h'.domains d'' hd''
    obtain ⟨d, hd, hid, hname, hnotes⟩ := h.domains d' hd'
    exact ⟨d, hd, hid.trans hid', hname.trans hname', hnotes.trans hnotes'⟩
  · intro k'' hk''
    obtain ⟨k', hk', hid', hflags', hcontent'⟩ := h'.keys k'' hk''
    obtain ⟨k, hk, hid, hflags, hcontent⟩ := h.keys k' hk'
    exact ⟨k, hk, hid.trans hid', hflags.trans hflags', hcontent.trans hcontent'⟩

theorem of_alters {m : Mutation} (hm : m.Alters t t') (h : m.marks = false) : t.Unmarked t' := by
  have same := refl t
  cases hm with
  | addDomain | addKey => cases h
  | reviseDomains m p f hid hname hserial hcheck =>
    refine { same with domains := ?_ }
    intro d' hd'
    obtain ⟨d, hd, rfl⟩ := List.mem_map.1 hd'
    by_cases hp : p d = true
    · rw [if_pos hp]
      -- Only the mutations that note something would change the notes.
      have hserial : (f d).notifiedSerial = d.notifiedSerial := by
        rcases hserial d hp with heq | rfl
        · exact heq
        · cases h
      have hcheck : (f d).lastCheck = d.lastCheck := by
        rcases hcheck d hp with heq | rfl
        · exact heq
        · cases h
      refine ⟨d, hd, (hid d).symm, (hname d).symm, ?_⟩
      rw [DomainRow.notes, DomainRow.notes, hserial, hcheck]
    · rw [if_neg hp]
      exact ⟨d, hd, rfl, rfl, rfl⟩
  | removeDomain => exact { same with domains := fun d hd => same.domains d (mem_without.1 hd).1 }
  | reviseKeys m p f hmarks =>
    refine { same with keys := ?_ }
    intro k' hk'
    obtain ⟨k, hk, rfl | rfl⟩ := exists_of_mem_revise hk'
    · exact ⟨_, hk, rfl, rfl, rfl⟩
    · obtain ⟨active, published, heq⟩ := hmarks k
      rw [heq]
      exact ⟨k, hk, rfl, rfl, rfl⟩
  | removeKeys => exact { same with keys := fun k hk => same.keys k (mem_without.1 hk).1 }
  | _ => exact ⟨same.domains, same.keys⟩

theorem of_runAll {ms : List Mutation} (hms : ∀ m ∈ ms, m.marks = false)
    (hrun : t.runAll ms = .ok t') : t.Unmarked t' :=
  Tables.runAll_induction (P := t.Unmarked)
    (fun m hm _ _ h halters => h.trans (of_alters halters (hms m hm))) (refl t) hrun

end Tables.Unmarked

namespace Operation

variable {α : Type} {b : Backend}

theorem noted_of_marks (op : Operation α) (h : op.marks = false) (id : Int) (name : String)
    (notes : DomainNotes) : op.noted id name notes = notes := by
  cases op <;> first | rfl | cases h

theorem keyed_of_marks (op : Operation α) (h : op.marks = false) (id : Int)
    (outcome : Except Fault α) (before : Option SigningKey) :
    op.keyed id outcome before = before := by
  cases op <;> first | rfl | cases h

/-- An operation that fails adds no key. -/
theorem keyed_of_failed (op : Operation α) {outcome : Except Fault α}
    (h : op.succeeded outcome = false) (id : Int) (before : Option SigningKey) :
    op.keyed id outcome before = before := by
  cases op with
  | addDomainKey =>
    cases outcome with
    | error fault => rfl
    | ok added => cases h
  | _ => rfl

/-- An operation that marks nothing issues nothing that does. -/
theorem Issues.marks_eq_false {op : Operation α} {dnssec : Bool} {m : Mutation}
    (hm : op.Issues dnssec m) (h : op.marks = false) : m.marks = false := by
  cases hm with
  | removal hremoves => exact Mutation.marks_of_removes hremoves
  | administration _ _ _ hmarks => exact hmarks.trans h
  | record | emptyNonTerminal | order | comment | metadata => rfl

/-- An operation marks nothing unless it is one of those that do, and succeeds. -/
theorem Advances.unmarked {op : Operation α} {t t' : Tables} (h : op.Advances b t t')
    (hmarks : op.marks = true → op.succeeded (op.run.run b).1 = false) : t.Unmarked t' := by
  cases h with
  | updates ms hdone hms hrun => exact .of_runAll (fun m hm => (hms m hm).marks) hrun
  | done ms hdone hdeed hrun =>
    cases hm : op.marks with
    | true =>
      rw [hmarks hm] at hdone
      cases hdone
    | false =>
      refine .of_runAll (fun m hmem => ?_) hrun
      have hissued := op.issues_mutations b m
      rw [hdeed] at hissued
      exact (hissued hmem).marks_eq_false hm

/-- An operation that marks and succeeds has carried out its mutations. -/
theorem Advances.runAll {op : Operation α} {t t' : Tables} {ms : List Mutation}
    (h : op.Advances b t t') (hdone : op.succeeded (op.run.run b).1 = true)
    (hdeed : op.deed b = .atOnce ms) : t.runAll ms = .ok t' := by
  cases h with
  | updates ms' hnone => exact absurd hdeed (hnone hdone ms)
  | done ms' _ hdeed' hrun =>
    rw [hdeed] at hdeed'
    cases hdeed'
    exact hrun

end Operation

/-! ## What is noted of domains -/

namespace Tables

/-- A domain of the given id and name, if there is one, has the given notes. -/
def Noted (id : Int) (name : String) (notes : DomainNotes) (t : Tables) : Prop :=
  ∀ d ∈ t.domains, d.id = id → d.name = name → d.notes = notes

namespace Noted

variable {id domain : Int} {name other : String} {notes : DomainNotes} {t t' : Tables}

theorem unmarked (h : t.Noted id name notes) (hsame : t.Unmarked t') : t'.Noted id name notes := by
  intro d' hd' hid hname
  obtain ⟨d, hd, hid', hname', hnotes⟩ := hsame.domains d' hd'
  rw [← hnotes]
  exact h d hd (hid'.trans hid) (hname'.trans hname)

/-- The notes of one domain are revised. -/
theorem revised (h : t.Noted id name notes) {f : DomainRow → DomainRow}
    {g : DomainNotes → DomainNotes} (hid : ∀ d, (f d).id = d.id) (hname : ∀ d, (f d).name = d.name)
    (hnotes : ∀ d, (f d).notes = g d.notes) :
    Noted id name (if domain = id then g notes else notes)
      { t with domains := revise (fun d => holds (some d.id) (some domain)) f t.domains } := by
  intro d' hd' hdid hdname
  obtain ⟨d, hd, rfl⟩ := List.mem_map.1 hd'
  by_cases hp : d.id = domain
  · have hholds : holds (some d.id) (some domain) = true := by simp [hp]
    rw [if_pos hholds] at hdid hdname ⊢
    rw [hid] at hdid
    rw [if_pos (hp.symm.trans hdid), hnotes, h d hd hdid ((hname d).symm.trans hdname)]
  · have hholds : ¬ holds (some d.id) (some domain) = true := by simp [hp]
    rw [if_neg hholds] at hdid hdname ⊢
    rw [if_neg fun heq => hp (hdid.trans heq.symm)]
    exact h d hd hdid hdname

/-- A new domain has no notes yet. Its name was free, so it is not taken for another one. -/
theorem created (h : t.Noted id name notes) {kind masters account : Option String}
    (hrun : t.runAll [.insertDomain kind (some other) masters account] = .ok t') :
    t'.Noted id name (if other = name then .blank else notes) := by
  rw [runAll_singleton] at hrun
  obtain ⟨change, hchange, rfl⟩ := map_eq_ok_iff.1 hrun
  obtain ⟨role, domain, -, hdomain, hfree, htables⟩ := Mutation.insertDomain_eq_ok hchange
  obtain rfl := Option.some.inj hdomain
  rw [htables]
  intro d hd hid hname
  rcases List.mem_append.1 hd with hd | hd
  · have hother : other ≠ name := by
      rintro rfl
      exact List.any_eq_false.1 hfree d hd (Text.alike_iff.2 (congrArg Text.collationKey hname))
    rw [if_neg hother]
    exact h d hd hid hname
  · obtain rfl := List.mem_singleton.1 hd
    rw [if_pos hname]
    rfl

end Noted

end Tables

/-- One operation. -/
theorem Operation.Advances.noted {α : Type} {op : Operation α} {b : Backend} {t t' : Tables}
    (h : op.Advances b t t') {id : Int} {name : String} {notes : DomainNotes}
    (ht : t.Noted id name notes) :
    t'.Noted id name (DomainNotes.after id name op (op.run.run b).1 notes) := by
  unfold DomainNotes.after
  cases hdone : op.succeeded (op.run.run b).1 with
  | false => exact ht.unmarked (h.unmarked fun _ => hdone)
  | true =>
    rw [if_pos rfl]
    cases hmarks : op.marks with
    | false =>
      rw [op.noted_of_marks hmarks]
      exact ht.unmarked (h.unmarked fun hm => absurd (hmarks.symm.trans hm) Bool.false_ne_true)
    | true =>
      cases op with
      | setNotified domain serial =>
        obtain rfl := Except.ok.inj (h.runAll hdone rfl)
        exact ht.revised (g := fun n => { n with serial := some serial }) (fun _ => rfl)
          (fun _ => rfl) fun _ => rfl
      | setFresh domain now =>
        obtain rfl := Except.ok.inj (h.runAll hdone rfl)
        exact ht.revised (g := fun n => { n with check := some now }) (fun _ => rfl)
          (fun _ => rfl) fun _ => rfl
      | createDomain | createSlaveDomain => exact ht.created (h.runAll hdone rfl)
      | addDomainKey =>
        -- A key is no domain.
        obtain ⟨change, hchange, rfl⟩ := map_eq_ok_iff.1
          ((Tables.runAll_singleton _ _).symm.trans (h.runAll hdone rfl))
        rcases Mutation.addKey_eq_ok hchange with rfl | ⟨domain, word, -, -, rfl⟩
        · exact ht
        · exact ht
      | _ => cases hmarks

/-- Each domain has the notes that were last made of it since it was created. -/
def Tables.HasNotes (w : Writings) (t : Tables) : Prop :=
  ∀ d ∈ t.domains, d.notes = w.notes d.id d.name

theorem Backend.notes_operated (connections : Nat) (dnssec : Bool) (hasher : Option Hasher)
    (ops : List AnyOperation)
    {tables : Tables}
    (htables : (operated connections dnssec hasher ops).store.database.tables = some tables) :
    tables.HasNotes (.ofRun connections dnssec hasher ops) := by
  intro d hd
  have hstart : Tables.empty.Noted d.id d.name .blank := fun _ h => absurd h List.not_mem_nil
  obtain ⟨t, ht, hnoted⟩ := trace_induction (f := DomainNotes.after d.id d.name)
    (S := Tables.Noted d.id d.name) hstart (fun _ _ _ _ _ _ _ _ h hs => h.noted hs) connections
    dnssec hasher
    ops
  obtain rfl := Option.some.inj (ht.symm.trans htables)
  exact hnoted d hd rfl rfl

/-- The serial that was noted last counts. -/
example : (Writings.ofRun 8 false none [⟨Unit, .createDomain "example.org" .master [] ""⟩,
    ⟨Unit, .setNotified 1 7⟩, ⟨Unit, .setNotified 1 8⟩]).notes 1 "example.org" = ⟨some 8, none⟩ :=
  rfl

/-! ## Signing keys -/

namespace Tables

/-- A signing key of the given id, if there is one, has the flags and the material of the given
key. -/
def Keyed (id : Int) (key : Option SigningKey) (t : Tables) : Prop :=
  ∀ k ∈ t.keys, k.id = id →
    ∃ added, key = some added ∧ k.flags = added.flags.toNat ∧ k.content = some added.content

namespace Keyed

variable {id : Int} {key : Option SigningKey} {t t' : Tables}

theorem unmarked (h : t.Keyed id key) (hsame : t.Unmarked t') : t'.Keyed id key := by
  intro k' hk' hid
  obtain ⟨k, hk, hid', hflags, hcontent⟩ := hsame.keys k' hk'
  rw [← hflags, ← hcontent]
  exact h k hk (hid'.trans hid)

/-- A key is added under a new id. -/
theorem added (h : t.Keyed id key) {domain new : Int} {added : SigningKey}
    (hnew : new = nextId KeyRow.id t.keys) :
    Keyed id (if new = id then some added else key) { t with keys := t.keys ++
      [⟨new, domain, added.flags.toNat, some (storedBool added.active),
        some (storedBool added.published), some added.content⟩] } := by
  intro k hk hid
  rcases List.mem_append.1 hk with hk | hk
  · have hother : new ≠ id := by
      have hlt := lt_nextId KeyRow.id hk
      omega
    rw [if_neg hother]
    exact h k hk hid
  · obtain rfl := List.mem_singleton.1 hk
    rw [if_pos hid]
    exact ⟨added, rfl, rfl, rfl⟩

end Keyed

end Tables

/-- The key that is added gets the next id. -/
theorem Operation.Advances.eq_nextId {b : Backend} {t : Tables} {name : String} {key : SigningKey}
    {domain new : Int}
    (h : (Operation.addDomainKey name key).Advances b t { t with keys := t.keys ++
      [⟨new, domain, key.flags.toNat, some (storedBool key.active),
        some (storedBool key.published), some key.content⟩] })
    (hdone : ((Backend.addDomainKey name key).run b).1.isOk = true) :
    new = nextId KeyRow.id t.keys := by
  obtain ⟨change, hchange, heq⟩ := map_eq_ok_iff.1
    ((Tables.runAll_singleton _ _).symm.trans (h.runAll hdone rfl))
  have hkeys := congrArg Tables.keys heq
  rcases Mutation.addKey_eq_ok hchange with rfl | ⟨owner, word, -, -, rfl⟩
  · simp [Change.nothing] at hkeys
  · simp only [Change.insertion, List.append_cancel_left_eq, List.cons.injEq,
      KeyRow.mk.injEq] at hkeys
    exact hkeys.1.1.symm

/-- One operation. -/
theorem Operation.Advances.keyed {α : Type} {op : Operation α} {b : Backend} {t t' : Tables}
    (h : op.Advances b t t') (hb : b.store.Calm) (ht : b.store.database.tables = some t)
    (ht' : (op.run.run b).2.store.database.tables = some t') {id : Int} {key : Option SigningKey}
    (hkeyed : t.Keyed id key) : t'.Keyed id (op.keyed id (op.run.run b).1 key) := by
  cases hdone : op.succeeded (op.run.run b).1 with
  | false =>
    rw [op.keyed_of_failed hdone]
    exact hkeyed.unmarked (h.unmarked fun _ => hdone)
  | true =>
    cases hmarks : op.marks with
    | false =>
      rw [op.keyed_of_marks hmarks]
      exact hkeyed.unmarked (h.unmarked fun hm => absurd (hmarks.symm.trans hm) Bool.false_ne_true)
    | true =>
      cases op with
      | setNotified | setFresh =>
        obtain rfl := Except.ok.inj (h.runAll hdone rfl)
        exact hkeyed
      | createDomain | createSlaveDomain =>
        obtain ⟨change, hchange, rfl⟩ := map_eq_ok_iff.1
          ((Tables.runAll_singleton _ _).symm.trans (h.runAll hdone rfl))
        obtain ⟨role, domain, -, -, -, htables⟩ := Mutation.insertDomain_eq_ok hchange
        rw [htables]
        exact hkeyed
      | addDomainKey name added =>
        cases hadded : ((Backend.addDomainKey name added).run b).1 with
        | error fault =>
          simp only [Operation.succeeded, Operation.run, hadded] at hdone
          cases hdone
        | ok new =>
          obtain ⟨u, u', hu, hu', domain, -, rfl⟩ :=
            (allOrNothing_addDomainKey hb name added).done new hadded
          obtain rfl := Option.some.inj (ht.symm.trans hu)
          obtain rfl := Option.some.inj (ht'.symm.trans hu')
          simp only [Operation.run, hadded]
          exact hkeyed.added (h.eq_nextId hdone)
      | _ => cases hmarks

/-- Each signing key has the flags and the material of the key that was last added under its id. -/
def Tables.HasKeys (w : Writings) (t : Tables) : Prop :=
  ∀ k ∈ t.keys, ∃ added, w.keys k.id = some added ∧ k.flags = added.flags.toNat ∧
    k.content = some added.content

theorem Backend.keyed_operated (connections : Nat) (dnssec : Bool) (hasher : Option Hasher)
    (ops : List AnyOperation)
    {tables : Tables}
    (htables : (operated connections dnssec hasher ops).store.database.tables = some tables) :
    tables.HasKeys (.ofRun connections dnssec hasher ops) := by
  intro k hk
  have hstart : Tables.empty.Keyed k.id none := fun _ h => absurd h List.not_mem_nil
  obtain ⟨t, ht, hkeyed⟩ := trace_induction (f := Operation.keyed k.id) (S := Tables.Keyed k.id)
    hstart (fun _ _ _ _ _ hb ht ht' h hs => h.keyed hb ht ht' hs) connections dnssec hasher ops
  obtain rfl := Option.some.inj (ht.symm.trans htables)
  exact hkeyed k hk rfl

/-! ## All that is stored -/

/-- All that the tables hold was written. -/
structure Tables.AllWritten (w : Writings) (t : Tables) : Prop extends t.Written w where
  notes : t.HasNotes w
  keys : t.HasKeys w

theorem Backend.allWritten_operated (connections : Nat) (dnssec : Bool) (hasher : Option Hasher)
    (ops : List AnyOperation) :
    ∃ tables, (operated connections dnssec hasher ops).store.database.tables = some tables ∧
      tables.AllWritten (.ofRun connections dnssec hasher ops) := by
  obtain ⟨tables, htables, -⟩ := records_whole connections dnssec hasher ops
  have hwritten := (wrote_operated connections dnssec hasher ops).store.database tables htables
  exact ⟨tables, htables, hwritten, notes_operated connections dnssec hasher ops htables,
    keyed_operated connections dnssec hasher ops htables⟩

end ZoneStore
