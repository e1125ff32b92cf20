import ZoneStore.Proofs.Table.Replay

/-!
# What a mutation does to the tables

`Mutation.Alters` lists what a mutation that is not refused may do: at most one table changes, by a
new row at its end, by the removal of rows, or by a revision of rows in place. Every invariant of
the tables is a case analysis on it, and `Tables.runAll_induction` carries an invariant through a
list of mutations.
-/

set_option autoImplicit false

namespace ZoneStore

/-- Domains, signing keys and autoprimaries are as before, unless theirs is the table that was
written. -/
structure Tables.KeepsBeside (t t' : Tables) (written : TableName) : Prop where
  domains : written ≠ .domains → t'.domains = t.domains
  keys : written ≠ .cryptokeys → t'.keys = t.keys
  autoprimaries : written ≠ .supermasters → t'.autoprimaries = t.autoprimaries

theorem Tables.KeepsBeside.refl (t : Tables) (written : TableName) : t.KeepsBeside t written :=
  ⟨fun _ => rfl, fun _ => rfl, fun _ => rfl⟩

namespace Mutation

/-- The record that a mutation adds, before it has an id. -/
def newRecord? : Mutation → Option RecordRow
  | insertRecord row => some row
  | insertEmptyNonTerminal zone name ordername auth =>
    some (.emptyNonTerminal zone name ordername auth)
  | _ => none

/-- What a mutation that is not refused may do to the tables. -/
inductive Alters (t : Tables) : Mutation → Tables → Prop where
  /-- No row is affected. -/
  | nothing (m : Mutation) : Alters t m t
  /-- A record is added under the next id. -/
  | addRecord {m : Mutation} {row : RecordRow} (hrow : m.newRecord? = some row) :
      Alters t m
        { t with records := t.records ++ [{ row with id := nextId RecordRow.id t.records }] }
  /-- Records are removed. -/
  | removeRecords (m : Mutation) (p : RecordRow → Bool) :
      Alters t m { t with records := without p t.records }
  /-- Records get another ordering key and authority. -/
  | reorderRecords (zone : Option Int) (name : Option String) (type : Scope String)
      (change : KeyChange) (auth : Option Int) (p : RecordRow → Bool) :
      Alters t (.order zone name type change auth)
        { t with
          records := revise p (fun r => { r with ordername := change.key, auth := auth })
            t.records }
  /-- A domain is added under the next id. Its name was free. -/
  | addDomain (kind name : String) (masters account : Option String)
      (hfree : t.domains.any (·.isNamed (some name)) = false) :
      Alters t (.insertDomain (some kind) (some name) masters account)
        { t with domains := t.domains ++
            [⟨nextId DomainRow.id t.domains, name, masters, none, kind, none, account⟩] }
  /-- Domains are revised, but keep id and name; the notified serial and the time of the last check
  are only set by the mutations that give them. -/
  | reviseDomains (m : Mutation) (p : DomainRow → Bool) (f : DomainRow → DomainRow)
      (hid : ∀ d, (f d).id = d.id) (hname : ∀ d, (f d).name = d.name)
      (hserial : ∀ d, p d = true → (f d).notifiedSerial = d.notifiedSerial ∨
        m = .setNotifiedSerial (some d.id) (f d).notifiedSerial)
      (hcheck : ∀ d, p d = true → (f d).lastCheck = d.lastCheck ∨
        m = .setLastCheck (some d.id) (f d).lastCheck) :
      Alters t m { t with domains := revise p f t.domains }
  /-- The domain of a name is removed. -/
  | removeDomain (name : Option String) :
      Alters t (.deleteDomain name) { t with domains := without (·.isNamed name) t.domains }
  /-- A comment is added under the next id. -/
  | addComment (zone : Int) (name type : String) (modifiedAt : Int) (account : Option String)
      (comment : String) :
      Alters t
        (.insertComment (some zone) (some name) (some type) (some modifiedAt) account
          (some comment))
        { t with comments := t.comments ++
            [⟨nextId CommentRow.id t.comments, zone, name, type, modifiedAt, account, comment⟩] }
  /-- Comments are removed. -/
  | removeComments (m : Mutation) (p : CommentRow → Bool) :
      Alters t m { t with comments := without p t.comments }
  /-- A metadata value is added to the domain of a name. -/
  | addMetadata {name : Option String} {domain : Int} (kind content : Option String)
      (hdomain : t.domainId? name = some domain) :
      Alters t (.addMetadata name kind content)
        { t with metadata := t.metadata ++
            [⟨nextId MetadataRow.id t.metadata, domain, kind, content⟩] }
  /-- Metadata values are removed. -/
  | removeMetadata (m : Mutation) (p : MetadataRow → Bool) :
      Alters t m { t with metadata := without p t.metadata }
  /-- A key is added to the domain of a name. -/
  | addKey {name : Option String} {domain : Int} (flags : Int) (active published : Option Int)
      (content : Option String) (hdomain : t.domainId? name = some domain) :
      Alters t (.addKey name (some flags) active published content)
        { t with keys := t.keys ++
            [⟨nextId KeyRow.id t.keys, domain, flags, active, published, content⟩] }
  /-- Keys are marked as active or not, or as published or not. -/
  | reviseKeys (m : Mutation) (p : KeyRow → Bool) (f : KeyRow → KeyRow)
      (hmarks : ∀ k, ∃ active published, f k = { k with active := active, published := published }) :
      Alters t m { t with keys := revise p f t.keys }
  /-- Keys are removed. -/
  | removeKeys (m : Mutation) (p : KeyRow → Bool) :
      Alters t m { t with keys := without p t.keys }
  /-- An autoprimary is added under the next id. There was none of that address and nameserver. -/
  | addAutoprimary (ip nameserver account : String)
      (hfree : t.autoprimaries.any (Tables.isAutoprimary (some ip) (some nameserver)) = false) :
      Alters t (.addAutoprimary (some ip) (some nameserver) (some account))
        { t with autoprimaries := t.autoprimaries ++
            [⟨nextId AutoprimaryRow.id t.autoprimaries, ip, nameserver, account⟩] }
  /-- Autoprimaries are removed. -/
  | removeAutoprimaries (m : Mutation) (p : AutoprimaryRow → Bool) :
      Alters t m { t with autoprimaries := without p t.autoprimaries }
  /-- A TSIG key takes the place of the one of that name and algorithm. -/
  | setTsigKey (name algorithm secret : Option String) :
      Alters t (.setTsigKey name algorithm secret)
        { t with tsigKeys := without (Tables.isTsigKey name algorithm) t.tsigKeys ++
            [⟨nextId TsigRow.id t.tsigKeys, name, algorithm, secret⟩] }
  /-- TSIG keys are removed. -/
  | removeTsigKeys (m : Mutation) (p : TsigRow → Bool) :
      Alters t m { t with tsigKeys := without p t.tsigKeys }

/-! ## The mutations that may be refused -/

variable {t : Tables} {change : Change}

theorem required_eq_ok {α : Type} {table : TableName} {column : String} {value : Option α} {a : α}
    (h : required table column value = .ok a) : value = some a := by
  cases value with
  | none => cases h
  | some b =>
    cases h
    rfl

/-- A column that has a value holds what is asked for only if that is the value. -/
theorem eq_some_of_holds {α : Type} [DecidableEq α] {a : α} {asked : Option α}
    (h : holds (some a) asked = true) : asked = some a := by
  cases asked with
  | none => cases h
  | some b => exact congrArg some (eq_of_beq h).symm

/-- A domain is added only under a name that is free. -/
theorem insertDomain_eq_ok {kind name masters account : Option String}
    (h : t.insertDomain kind name masters account = .ok change) :
    ∃ role domain, kind = some role ∧ name = some domain ∧
      t.domains.any (·.isNamed (some domain)) = false ∧
      change.tables = { t with domains := t.domains ++
        [⟨nextId DomainRow.id t.domains, domain, masters, none, role, none, account⟩] } := by
  obtain ⟨domain, hdomain, h⟩ := bind_eq_ok_iff.1 h
  obtain ⟨role, hrole, h⟩ := bind_eq_ok_iff.1 h
  obtain rfl := required_eq_ok hdomain
  obtain rfl := required_eq_ok hrole
  split at h
  · cases h
  · rename_i hfree
    cases h
    exact ⟨role, domain, rfl, rfl, Bool.eq_false_iff.2 hfree, rfl⟩

theorem alters_insertDomain {kind name masters account : Option String}
    (h : t.insertDomain kind name masters account = .ok change) :
    Alters t (.insertDomain kind name masters account) change.tables := by
  obtain ⟨role, domain, rfl, rfl, hfree, htables⟩ := insertDomain_eq_ok h
  rw [htables]
  exact .addDomain _ _ _ _ hfree

theorem alters_setKind {name kind : Option String} (h : t.setKind name kind = .ok change) :
    Alters t (.setKind name kind) change.tables := by
  cases kind with
  | some kind =>
    cases h
    exact .reviseDomains _ _ _ (fun _ => rfl) (fun _ => rfl) (fun _ _ => Or.inl rfl)
      fun _ _ => Or.inl rfl
  | none =>
    simp only [Tables.setKind] at h
    split at h
    · cases h
    · cases h
      exact .nothing _

/-- An autoprimary is added only if there is none of its address and nameserver. -/
theorem addAutoprimary_eq_ok {ip nameserver account : Option String}
    (h : t.addAutoprimary ip nameserver account = .ok change) :
    ∃ address server owner, ip = some address ∧ nameserver = some server ∧ account = some owner ∧
      t.autoprimaries.any (Tables.isAutoprimary (some address) (some server)) = false ∧
      change.tables = { t with autoprimaries := t.autoprimaries ++
        [⟨nextId AutoprimaryRow.id t.autoprimaries, address, server, owner⟩] } := by
  obtain ⟨address, haddress, h⟩ := bind_eq_ok_iff.1 h
  obtain ⟨server, hserver, h⟩ := bind_eq_ok_iff.1 h
  obtain ⟨owner, howner, h⟩ := bind_eq_ok_iff.1 h
  obtain rfl := required_eq_ok haddress
  obtain rfl := required_eq_ok hserver
  obtain rfl := required_eq_ok howner
  split at h
  · cases h
  · rename_i hfree
    cases h
    exact ⟨address, server, owner, rfl, rfl, rfl, Bool.eq_false_iff.2 hfree, rfl⟩

theorem alters_addAutoprimary {ip nameserver account : Option String}
    (h : t.addAutoprimary ip nameserver account = .ok change) :
    Alters t (.addAutoprimary ip nameserver account) change.tables := by
  obtain ⟨address, server, owner, rfl, rfl, rfl, hfree, htables⟩ := addAutoprimary_eq_ok h
  rw [htables]
  exact .addAutoprimary _ _ _ hfree

theorem alters_insertComment {zone : Option Int} {name type : Option String}
    {modifiedAt : Option Int} {account comment : Option String}
    (h : t.insertComment zone name type modifiedAt account comment = .ok change) :
    Alters t (.insertComment zone name type modifiedAt account comment) change.tables := by
  obtain ⟨zone, hzone, h⟩ := bind_eq_ok_iff.1 h
  obtain ⟨name, hname, h⟩ := bind_eq_ok_iff.1 h
  obtain ⟨type, htype, h⟩ := bind_eq_ok_iff.1 h
  obtain ⟨time, htime, h⟩ := bind_eq_ok_iff.1 h
  obtain ⟨comment, hcomment, h⟩ := bind_eq_ok_iff.1 h
  obtain rfl := required_eq_ok hzone
  obtain rfl := required_eq_ok hname
  obtain rfl := required_eq_ok htype
  obtain rfl := required_eq_ok htime
  obtain rfl := required_eq_ok hcomment
  cases h
  exact .addComment _ _ _ _ _ _

theorem alters_addMetadata (t : Tables) (name kind content : Option String) :
    Alters t (.addMetadata name kind content) (t.addMetadata name kind content).tables := by
  unfold Tables.addMetadata
  split
  · exact .nothing _
  · rename_i domain hdomain
    exact .addMetadata _ _ hdomain

/-- A key is added to the domain of the name under the next id, or there is no such domain. -/
theorem addKey_eq_ok {name : Option String} {flags active published : Option Int}
    {content : Option String} (h : t.addKey name flags active published content = .ok change) :
    change = .nothing t ∨ ∃ domain word, t.domainId? name = some domain ∧ flags = some word ∧
      change = .insertion
        { t with keys := t.keys ++
          [⟨nextId KeyRow.id t.keys, domain, word, active, published, content⟩] }
        (nextId KeyRow.id t.keys) := by
  unfold Tables.addKey at h
  split at h
  · exact Or.inl (Except.ok.inj h).symm
  · rename_i domain hdomain
    obtain ⟨word, hword, h⟩ := bind_eq_ok_iff.1 h
    exact Or.inr ⟨domain, word, hdomain, required_eq_ok hword, (Except.ok.inj h).symm⟩

theorem alters_addKey {name : Option String} {flags active published : Option Int}
    {content : Option String} (h : t.addKey name flags active published content = .ok change) :
    Alters t (.addKey name flags active published content) change.tables := by
  rcases addKey_eq_ok h with rfl | ⟨domain, word, hdomain, rfl, rfl⟩
  · exact .nothing _
  · exact .addKey _ _ _ _ hdomain

/-- A mutation that is not refused does what it may do. -/
theorem alters {m : Mutation} (h : m.apply t = .ok change) : Alters t m change.tables := by
  cases m with
  | insertDomain => exact alters_insertDomain h
  | setKind => exact alters_setKind h
  | addAutoprimary => exact alters_addAutoprimary h
  | insertComment => exact alters_insertComment h
  | addKey => exact alters_addKey h
  | addMetadata name kind content =>
    cases h
    exact alters_addMetadata t name kind content
  | insertRecord | insertEmptyNonTerminal =>
    cases h
    exact .addRecord rfl
  | removeEmptyNonTerminals | removeEmptyNonTerminal | deleteZone | deleteRecords =>
    cases h
    exact .removeRecords _ _
  | order =>
    cases h
    exact .reorderRecords _ _ _ _ _ _
  | setMasters | setAccount =>
    cases h
    exact .reviseDomains _ _ _ (fun _ => rfl) (fun _ => rfl) (fun _ _ => Or.inl rfl)
      fun _ _ => Or.inl rfl
  | setNotifiedSerial domain serial =>
    cases h
    refine .reviseDomains _ _ _ (fun _ => rfl) (fun _ => rfl) (fun d hd => ?_)
      fun _ _ => Or.inl rfl
    exact Or.inr (congrArg (Mutation.setNotifiedSerial · serial) (eq_some_of_holds hd))
  | setLastCheck domain time =>
    cases h
    refine .reviseDomains _ _ _ (fun _ => rfl) (fun _ => rfl) (fun _ _ => Or.inl rfl)
      fun d hd => ?_
    exact Or.inr (congrArg (Mutation.setLastCheck · time) (eq_some_of_holds hd))
  | deleteDomain name =>
    cases h
    exact .removeDomain name
  | deleteRecordSetComments | deleteComments =>
    cases h
    exact .removeComments _ _
  | clearMetadataOfKind | clearMetadata =>
    cases h
    exact .removeMetadata _ _
  | setKeyActive | setKeyPublished =>
    cases h
    exact .reviseKeys _ _ _ fun _ => ⟨_, _, rfl⟩
  | removeKey | clearKeys =>
    cases h
    exact .removeKeys _ _
  | removeAutoprimary =>
    cases h
    exact .removeAutoprimaries _ _
  | setTsigKey =>
    cases h
    exact .setTsigKey _ _ _
  | deleteTsigKey =>
    cases h
    exact .removeTsigKeys _ _

/-- A mutation of another table leaves the domains, the signing keys or the autoprimaries as they
are. -/
theorem keepsBeside_target {m : Mutation} (happly : m.apply t = .ok change) :
    t.KeepsBeside change.tables m.target := by
  cases m with
  | insertDomain =>
    obtain ⟨role, domain, -, -, -, htables⟩ := insertDomain_eq_ok happly
    rw [htables]
    exact ⟨fun h => absurd rfl h, fun _ => rfl, fun _ => rfl⟩
  | setKind name kind =>
    simp only [apply, Tables.setKind] at happly
    split at happly
    · cases happly
      exact ⟨fun h => absurd rfl h, fun _ => rfl, fun _ => rfl⟩
    · split at happly
      · cases happly
      · cases happly
        exact .refl t _
  | setMasters | setAccount | setNotifiedSerial | setLastCheck | deleteDomain =>
    cases happly
    exact ⟨fun h => absurd rfl h, fun _ => rfl, fun _ => rfl⟩
  | addKey =>
    rcases addKey_eq_ok happly with rfl | ⟨domain, word, -, -, rfl⟩
    · exact .refl t _
    · exact ⟨fun _ => rfl, fun h => absurd rfl h, fun _ => rfl⟩
  | setKeyActive | setKeyPublished | removeKey | clearKeys =>
    cases happly
    exact ⟨fun _ => rfl, fun h => absurd rfl h, fun _ => rfl⟩
  | addAutoprimary =>
    obtain ⟨address, server, owner, -, -, -, -, htables⟩ := addAutoprimary_eq_ok happly
    rw [htables]
    exact ⟨fun _ => rfl, fun _ => rfl, fun h => absurd rfl h⟩
  | removeAutoprimary =>
    cases happly
    exact ⟨fun _ => rfl, fun _ => rfl, fun h => absurd rfl h⟩
  | insertComment =>
    obtain ⟨zone, -, happly⟩ := bind_eq_ok_iff.1 happly
    obtain ⟨name, -, happly⟩ := bind_eq_ok_iff.1 happly
    obtain ⟨type, -, happly⟩ := bind_eq_ok_iff.1 happly
    obtain ⟨time, -, happly⟩ := bind_eq_ok_iff.1 happly
    obtain ⟨comment, -, happly⟩ := bind_eq_ok_iff.1 happly
    cases happly
    exact ⟨fun _ => rfl, fun _ => rfl, fun _ => rfl⟩
  | addMetadata name kind content =>
    cases happly
    unfold Tables.addMetadata
    split
    · exact .refl t _
    · exact ⟨fun _ => rfl, fun _ => rfl, fun _ => rfl⟩
  | _ =>
    cases happly
    exact ⟨fun _ => rfl, fun _ => rfl, fun _ => rfl⟩

end Mutation

/-! ## Invariants of the tables -/

section Rows

variable {α : Type} {p : α → Bool} {f : α → α} {rows : List α} {r : α}

/-- What is left without the rows that a condition admits, with the condition as a proposition. -/
theorem without_eq_filter {q : α → Prop} [DecidablePred q] (h : ∀ a, p a = true ↔ q a)
    (rows : List α) : without p rows = rows.filter fun a => ¬ q a := by
  refine List.filter_congr fun a _ => ?_
  rw [Bool.eq_iff_iff, Bool.not_eq_true', ← Bool.not_eq_true, h, decide_eq_true_iff]

theorem mem_without : r ∈ without p rows ↔ r ∈ rows ∧ p r = false := by
  rw [without, List.mem_filter, Bool.not_eq_true']

/-- Where rows are taken out and others of their sort are put at the end, the rows of another sort
are as before. -/
theorem filter_without_append {q : α → Bool} {added : List α}
    (hdisjoint : ∀ a, q a = true → p a = false) (hadded : ∀ a ∈ added, q a = true) :
    (without q rows ++ added).filter p = rows.filter p := by
  have hnew : added.filter p = [] := by
    rw [List.filter_eq_nil_iff]
    intro a ha
    simp [hdisjoint a (hadded a ha)]
  have hold : (without q rows).filter p = rows.filter p := by
    rw [without, List.filter_filter]
    refine List.filter_congr fun a _ => ?_
    cases hq : q a with
    | false => simp
    | true => simp [hdisjoint a hq]
  rw [List.filter_append, hnew, hold, List.append_nil]

/-- The rows of the sort that was taken out are those that were put at the end. -/
theorem filter_without_append_self {added : List α} (hadded : ∀ a ∈ added, p a = true) :
    (without p rows ++ added).filter p = added := by
  have hold : (without p rows).filter p = [] := by
    rw [List.filter_eq_nil_iff]
    intro a ha
    simp [(mem_without.1 ha).2]
  rw [List.filter_append, hold, List.filter_eq_self.2 hadded, List.nil_append]

/-- A row of a revised list is one of before, revised or not. -/
theorem exists_of_mem_revise (h : r ∈ revise p f rows) :
    ∃ s ∈ rows, r = s ∨ r = f s := by
  obtain ⟨s, hs, rfl⟩ := List.mem_map.1 h
  refine ⟨s, hs, ?_⟩
  split
  · exact Or.inr rfl
  · exact Or.inl rfl

/-- A column that the revision keeps is as before, row by row. -/
theorem map_revise {β : Type} {column : α → β} (h : ∀ r, column (f r) = column r) :
    (revise p f rows).map column = rows.map column := by
  rw [revise, List.map_map]
  refine List.map_congr_left fun r _ => ?_
  show column (if p r then f r else r) = column r
  split
  · exact h r
  · rfl

/-- A row under the next id comes after all rows that are there. -/
theorem pairwise_append_nextId {id : α → Int} (h : (rows.map id).Pairwise (· < ·))
    (hr : id r = nextId id rows) : ((rows ++ [r]).map id).Pairwise (· < ·) := by
  rw [List.map_append, List.pairwise_append]
  refine ⟨h, List.pairwise_singleton _ _, ?_⟩
  intro i hi j hj
  obtain ⟨s, hs, rfl⟩ := List.mem_map.1 hi
  obtain rfl := List.mem_singleton.1 hj
  rw [hr]
  exact lt_nextId id hs

theorem pairwise_without {id : α → Int} (h : (rows.map id).Pairwise (· < ·)) :
    ((without p rows).map id).Pairwise (· < ·) :=
  h.sublist (List.filter_sublist.map id)

/-- A row under the next id may be appended to the rows, or to those of them that are kept. -/
theorem nodup_append_nextId {id : α → Int} {kept : List α} (h : (rows.map id).Nodup)
    (hkept : kept.Sublist rows) (hr : id r = nextId id rows) : ((kept ++ [r]).map id).Nodup := by
  rw [List.map_append, List.nodup_append]
  refine ⟨h.sublist (hkept.map id), List.pairwise_singleton _ _, ?_⟩
  intro i hi j hj
  obtain ⟨s, hs, rfl⟩ := List.mem_map.1 hi
  obtain rfl := List.mem_singleton.1 hj
  rw [hr]
  exact Int.ne_of_lt (lt_nextId id (hkept.subset hs))

theorem nodup_without {β : Type} {column : α → β} (h : (rows.map column).Nodup) :
    ((without p rows).map column).Nodup :=
  h.sublist (List.filter_sublist.map column)

theorem nodup_revise {β : Type} {column : α → β} (h : (rows.map column).Nodup)
    (hcolumn : ∀ r, column (f r) = column r) : ((revise p f rows).map column).Nodup := by
  rwa [map_revise hcolumn]

theorem pairwise_append_singleton {R : α → α → Prop} (h : rows.Pairwise R)
    (hr : ∀ s ∈ rows, R s r) : (rows ++ [r]).Pairwise R := by
  rw [List.pairwise_append]
  refine ⟨h, List.pairwise_singleton _ _, ?_⟩
  intro s hs t ht
  obtain rfl := List.mem_singleton.1 ht
  exact hr s hs

end Rows

/-- What each of the mutations keeps, the whole list keeps. -/
theorem Tables.runAll_induction {P : Tables → Prop} {ms : List Mutation}
    (hstep : ∀ m ∈ ms, ∀ t t', P t → m.Alters t t' → P t') {t t' : Tables} (ht : P t)
    (hrun : t.runAll ms = .ok t') : P t' :=
  runAll_apply_induction (fun m hm t _ ht happly => hstep m hm t _ ht (Mutation.alters happly)) ht
    hrun

/-! ## The order of the ids -/

/-- Records and comments are in the order of their ids. -/
structure Tables.InOrder (t : Tables) : Prop where
  records : (t.records.map RecordRow.id).Pairwise (· < ·)
  comments : (t.comments.map CommentRow.id).Pairwise (· < ·)

theorem Tables.inOrder_empty : Tables.empty.InOrder := ⟨.nil, .nil⟩

/-- New rows come last under a greater id, and revised ones keep their ids. -/
theorem Tables.InOrder.alters {t t' : Tables} {m : Mutation} (h : t.InOrder)
    (hm : m.Alters t t') : t'.InOrder := by
  cases hm with
  | addRecord => exact ⟨pairwise_append_nextId h.records rfl, h.comments⟩
  | removeRecords => exact ⟨pairwise_without h.records, h.comments⟩
  | reorderRecords =>
    refine ⟨?_, h.comments⟩
    show ((revise _ _ t.records).map RecordRow.id).Pairwise (· < ·)
    rw [map_revise]
    · exact h.records
    · intro r
      rfl
  | addComment => exact ⟨h.records, pairwise_append_nextId h.comments rfl⟩
  | removeComments => exact ⟨h.records, pairwise_without h.comments⟩
  | _ => exact ⟨h.records, h.comments⟩

end ZoneStore
