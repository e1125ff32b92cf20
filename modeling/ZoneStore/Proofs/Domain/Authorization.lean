import ZoneStore.Proofs.Backend.RoundTrip
import ZoneStore.Proofs.Domain.AutoprimaryEvents
import ZoneStore.Proofs.Domain.UniqueKeys
import ZoneStore.Proofs.Zone.OrderingChain

/-!
# Who may provision zones

After every run of operations the autoprimaries are those that its events have left
(`Backend.primaries_operated`), and no two of them are at one address and of nameservers that are
alike. So the list of all autoprimaries tells who may provision a zone from an address: it is the
first of the given nameservers that has an entry at the address, with the account of the one entry
that it has (`Backend.authorization`). For nameservers without `U+0000`, to be alike is to be equal
up to ASCII case (`Text.alike_iff_agree`).
-/

set_option autoImplicit false

namespace ZoneStore

open Backend

/-! ## Rows of autoprimaries -/

namespace Tables

variable {t t' : Tables}

/-- The autoprimaries of the rows. -/
def primaries (t : Tables) : List Autoprimary := t.autoprimaries.map .ofRow

/-- Mutations of other tables leave the autoprimaries as they are. -/
theorem primaries_of_runAll {ms : List Mutation} (hms : ∀ m ∈ ms, m.target ≠ .supermasters)
    (hrun : t.runAll ms = .ok t') : t'.primaries = t.primaries := by
  refine runAll_apply_induction (P := fun u => u.primaries = t.primaries) ?_ rfl hrun
  intro m hm u change hu happly
  rw [← hu, primaries, (Mutation.keepsBeside_target happly).autoprimaries (hms m hm)]
  rfl

/-- There is one autoprimary of an address and nameserver. -/
theorem UniqueKeys.eq_of_isAt (h : t.UniqueKeys) {ip nameserver : String} {p q : Autoprimary}
    (hp : p ∈ t.primaries) (hq : q ∈ t.primaries) (hpat : p.isAt ip nameserver = true)
    (hqat : q.isAt ip nameserver = true) : p = q := by
  obtain ⟨a, ha, rfl⟩ := List.mem_map.1 hp
  obtain ⟨c, hc, rfl⟩ := List.mem_map.1 hq
  obtain ⟨hpip, hpname⟩ := Autoprimary.isAt_iff.1 hpat
  obtain ⟨hqip, hqname⟩ := Autoprimary.isAt_iff.1 hqat
  have hsymm : Std.Symm fun a other : AutoprimaryRow =>
      ¬ (a.ip = other.ip ∧ Text.alike a.nameserver other.nameserver = true) :=
    ⟨fun _ _ hne hsame => hne ⟨hsame.1.symm, Text.alike_comm _ _ ▸ hsame.2⟩⟩
  by_contra hne
  have hname : Text.alike a.nameserver c.nameserver = true :=
    Text.alike_trans hpname (Text.alike_comm nameserver _ ▸ hqname)
  exact h.autoprimaries.forall ha hc (fun hsame => hne (congrArg _ hsame))
    ⟨hpip.trans hqip.symm, hname⟩

end Tables

/-! ## Single operations -/

namespace Operation

variable {α : Type} {op : Operation α} {b : Backend} {t t' : Tables}

/-- Only what gives a result is an event. -/
theorem exists_ok_of_autoprimaryEvent? {outcome : Except Fault α} {e : AutoprimaryEvent}
    (h : op.autoprimaryEvent? outcome = some e) : ∃ a, outcome = .ok a := by
  cases outcome with
  | ok a => exact ⟨a, rfl⟩
  | error fault => cases op <;> cases h

/-- An operation that is an event does to the autoprimaries what the event tells. -/
theorem Advances.primaries_of_event (h : op.Advances b t t') {e : AutoprimaryEvent}
    (he : op.autoprimaryEvent? (op.run.run b).1 = some e) : t'.primaries = e.apply t.primaries := by
  obtain ⟨a, ha⟩ := exists_ok_of_autoprimaryEvent? he
  rw [ha] at he
  cases op with
  | addAutoprimary p =>
    obtain rfl := Option.some.inj he
    have hrun := h.runAll (by rw [ha]; rfl) rfl
    rw [Tables.runAll_singleton] at hrun
    obtain ⟨change, hchange, rfl⟩ := map_eq_ok_iff.1 hrun
    obtain ⟨ip, nameserver, account, ⟨⟩, ⟨⟩, ⟨⟩, -, htables⟩ :=
      Mutation.addAutoprimary_eq_ok hchange
    rw [htables, Tables.primaries, List.map_append]
    rfl
  | removeAutoprimary ip nameserver =>
    obtain rfl := Option.some.inj he
    obtain rfl := Except.ok.inj (h.runAll (by rw [ha]; rfl) rfl)
    rw [Tables.primaries, AutoprimaryEvent.apply, Tables.primaries, List.filter_map]
    rfl
  | _ => cases he

/-- An operation that writes autoprimaries is an event, if it gives a result. -/
theorem not_written_of_no_event {a : α} (h : op.autoprimaryEvent? (.ok a) = none) :
    TableName.supermasters ∉ op.written := by
  cases op with
  | addAutoprimary | removeAutoprimary => cases h
  | _ => simp [written]

/-- An operation that is no event leaves the autoprimaries as they are. -/
theorem Advances.primaries_of_no_event (h : op.Advances b t t')
    (he : op.autoprimaryEvent? (op.run.run b).1 = none) : t'.primaries = t.primaries := by
  cases h with
  | updates ms _ hms hrun =>
    refine Tables.primaries_of_runAll (fun m hm htarget => ?_) hrun
    rcases (hms m hm).target with h | h <;> cases h.symm.trans htarget
  | done ms hdone hdeed hrun =>
    obtain ⟨a, ha⟩ := exists_ok_of_succeeded hdone
    rw [ha] at he
    refine Tables.primaries_of_runAll (fun m hm htarget => ?_) hrun
    exact not_written_of_no_event he (htarget ▸ op.target_of_atOnce hdeed hm)

/-- One operation. -/
theorem Advances.primaries (h : op.Advances b t t') :
    t'.primaries =
      (op.autoprimaryEvent? (op.run.run b).1).toList.foldl AutoprimaryEvent.apply t.primaries := by
  cases he : op.autoprimaryEvent? (op.run.run b).1 with
  | none => exact h.primaries_of_no_event he
  | some e => exact h.primaries_of_event he

end Operation

/-! ## Runs -/

/-- The events of a run from the empty database. -/
def AutoprimaryEvent.ofRun (connections : Nat) (dnssec : Bool) (hasher : Option Hasher)
    (ops : List AnyOperation) :
    List AutoprimaryEvent :=
  (on (.on .empty connections) dnssec hasher).trace
    (fun op outcome events => events ++ (op.autoprimaryEvent? outcome).toList) [] ops

namespace Backend

/-- After every run of operations the autoprimaries are those that its events have left. -/
theorem primaries_operated {connections : Nat} {dnssec : Bool} {hasher : Option Hasher}
    {ops : List AnyOperation}
    {t : Tables} (ht : (operated connections dnssec hasher ops).store.database.tables = some t) :
    t.primaries = AutoprimaryEvent.left (AutoprimaryEvent.ofRun connections dnssec hasher ops) := by
  obtain ⟨u, hu, hleft⟩ := trace_induction
    (S := fun events t => t.primaries = AutoprimaryEvent.left events)
    (f := fun op outcome events => events ++ (op.autoprimaryEvent? outcome).toList)
    (s := []) rfl
    (fun _ _ _ _ _ _ _ _ h hs => by
      rw [h.primaries, hs, AutoprimaryEvent.left, AutoprimaryEvent.left, List.foldl_append])
    connections dnssec hasher ops
  obtain rfl := Option.some.inj (ht.symm.trans hu)
  exact hleft

end Backend

/-! ## The first nameserver with an entry -/

/-- The record in a place has an entry at the address, and none in front of it has. -/
structure IsFirstEntry (entries : List Autoprimary) (ip : String) (nsset : List ResourceRecord)
    (i : Nat) (record : ResourceRecord) (p : Autoprimary) : Prop where
  /-- The record stands in the place. -/
  stands : nsset[i]? = some record
  /-- The entry is one of those that are listed. -/
  listed : p ∈ entries
  /-- It is at the address, of the nameserver that the record names. -/
  isAt : p.isAt ip record.content = true
  /-- No record in front of this one has an entry at the address. -/
  least : ∀ earlier ∈ nsset.take i, ∀ q ∈ entries, q.isAt ip earlier.content = false

/-- The content of the first record that has an entry at the address, with the entry's account. -/
def firstEntry (entries : List Autoprimary) (ip : String) (nsset : List ResourceRecord) :
    Option (String × String) :=
  nsset.findSome? fun record =>
    (entries.find? (·.isAt ip record.content)).map fun p => (record.content, p.account)

section FirstEntry

variable {entries : List Autoprimary} {ip : String} {nsset : List ResourceRecord} {i : Nat}
  {record : ResourceRecord}

/-- The order of the entries does not matter. -/
theorem isFirstEntry_congr {entries' : List Autoprimary} {p : Autoprimary}
    (h : ∀ p, p ∈ entries ↔ p ∈ entries') :
    IsFirstEntry entries ip nsset i record p ↔ IsFirstEntry entries' ip nsset i record p := by
  constructor
  · intro hfirst
    exact ⟨hfirst.stands, (h p).1 hfirst.listed, hfirst.isAt,
      fun r hr q hq => hfirst.least r hr q ((h q).2 hq)⟩
  · intro hfirst
    exact ⟨hfirst.stands, (h p).2 hfirst.listed, hfirst.isAt,
      fun r hr q hq => hfirst.least r hr q ((h q).1 hq)⟩

theorem firstEntry_eq_none_iff : firstEntry entries ip nsset = none ↔
    ∀ record ∈ nsset, ∀ p ∈ entries, p.isAt ip record.content = false := by
  simp [firstEntry, List.findSome?_eq_none_iff]

/-- The record in front of which none has an entry is found, if it has the one entry. -/
theorem firstEntry_eq_some {p : Autoprimary}
    (hunique : ∀ q ∈ entries, q.isAt ip record.content = true → q = p)
    (h : IsFirstEntry entries ip nsset i record p) :
    firstEntry entries ip nsset = some (record.content, p.account) := by
  obtain ⟨hi, hrecord⟩ := List.getElem?_eq_some_iff.1 h.stands
  refine List.findSome?_eq_some_iff.2 ⟨nsset.take i, record, nsset.drop (i + 1), ?_, ?_, ?_⟩
  · rw [← hrecord, ← List.drop_eq_getElem_cons hi, List.take_append_drop]
  · cases hfound : entries.find? (·.isAt ip record.content) with
    | none => exact absurd h.isAt (List.find?_eq_none.1 hfound p h.listed)
    | some q =>
      have hq : q.isAt ip record.content = true := by simpa using List.find?_some hfound
      obtain rfl := hunique q (List.mem_of_find?_eq_some hfound) hq
      rfl
  · intro earlier hearlier
    rw [Option.map_eq_none_iff, List.find?_eq_none]
    intro q hq
    exact Bool.eq_false_iff.1 (h.least earlier hearlier q hq)

/-- What is found is the content of a first record with an entry. -/
theorem exists_isFirstEntry {c a : String} (h : firstEntry entries ip nsset = some (c, a)) :
    ∃ i record p, IsFirstEntry entries ip nsset i record p ∧ c = record.content ∧ a = p.account := by
  obtain ⟨earlier, record, later, hsplit, hfound, hearlier⟩ := List.findSome?_eq_some_iff.1 h
  obtain ⟨p, hp, heq⟩ := Option.map_eq_some_iff.1 hfound
  obtain ⟨rfl, rfl⟩ := Prod.mk.inj heq
  refine ⟨earlier.length, record, p, ⟨?_, List.mem_of_find?_eq_some hp, ?_, ?_⟩, rfl, rfl⟩
  · rw [hsplit]
    simp
  · simpa using List.find?_some hp
  · intro r hr q hq
    rw [hsplit, List.take_left] at hr
    have hnone := Option.map_eq_none_iff.1 (hearlier r hr)
    exact Bool.eq_false_iff.2 (List.find?_eq_none.1 hnone q hq)

end FirstEntry

/-! ## Answers -/

namespace Backend

variable {t : Tables}

theorem answers_listAutoprimaries (t : Tables) :
    Answers t listAutoprimaries (Autoprimary.sort t.primaries) :=
  answers_fetch_map rfl fun rows => Autoprimary.sort (rows.map Autoprimary.ofRow)

/-- The loop over the nameservers stops at the first one that has an entry. -/
theorem answers_authorize (t : Tables) (ip domain : String) (nsset : List ResourceRecord) :
    Answers t (authorize ip domain nsset) (firstEntry t.primaries ip nsset) := by
  rw [authorize]
  induction nsset with
  | nil => exact answers_pure none
  | cons record rest ih =>
    rw [List.map_cons, firstAutoprimary]
    refine (answers_fetch rfl).bind (onlyReads_fetch _) ?_
    have hfind : t.primaries.find? (·.isAt ip record.content) =
        (t.autoprimaries.filter
          (Tables.isAutoprimary (some ip) (some record.content))).head?.map .ofRow := by
      rw [List.head?_filter, Tables.primaries, List.find?_map]
      rfl
    rw [firstEntry, List.findSome?_cons, hfind]
    cases (t.autoprimaries.filter
        (Tables.isAutoprimary (some ip) (some record.content))).head? with
    | some row => exact answers_pure _
    | none => exact ih

/-- What is told of the autoprimaries on a backend, after the given events. -/
structure Authorizes (b : Backend) (events : List AutoprimaryEvent) (entries : List Autoprimary) :
    Prop where
  /-- The entries are what is listed. -/
  listed : (listAutoprimaries.run b).1 = .ok entries
  /-- They are the autoprimaries that the events have left. -/
  left : entries.Perm (AutoprimaryEvent.left events)
  /-- The answer is the first record that has an entry at the address, with the account of this
  entry, and there is none exactly if no record has one. -/
  authorized : ∀ ip domain nsset, ∃ answer, ((authorize ip domain nsset).run b).1 = .ok answer ∧
    (∀ c a, answer = some (c, a) ↔
      ∃ i record p, IsFirstEntry entries ip nsset i record p ∧ c = record.content ∧ a = p.account) ∧
    (answer = none ↔ ∀ record ∈ nsset, ∀ p ∈ entries, p.isAt ip record.content = false)
  /-- An autoprimary that was added and not removed since is found by its nameserver in any ASCII
  case, if no record in front has an entry at the address. -/
  added : ∀ before p later, events = before ++ .added p :: later →
    (∀ e ∈ later, e.removes p = false) → ∀ domain nsset i record, nsset[i]? = some record →
    Text.alike record.content p.nameserver = true →
    (∀ earlier ∈ nsset.take i, ∀ q ∈ entries, q.isAt p.ip earlier.content = false) →
    ((authorize p.ip domain nsset).run b).1 = .ok (some (record.content, p.account))
  /-- What was removed and not added since is not found by a nameserver like its own. -/
  removed : ∀ before ip nameserver later, events = before ++ .removed ip nameserver :: later →
    (∀ e ∈ later, e.adds ip nameserver = false) → ∀ domain nsset,
    (∀ record ∈ nsset, Text.alike record.content nameserver = true) →
    ((authorize ip domain nsset).run b).1 = .ok none
  /-- The answer does not depend on the domain. -/
  anyDomain : ∀ ip domain domain' nsset,
    ((authorize ip domain nsset).run b).1 = ((authorize ip domain' nsset).run b).1

/-- Who may provision zones, after every run of operations that leaves a connection free: for every
address, domain and list of nameserver records, the first record that has an entry at the address,
told by the list of all autoprimaries. Adding an autoprimary authorizes it until it is removed, and
removing one refuses it until it is added again. -/
theorem authorization (connections : Nat) (dnssec : Bool) (hasher : Option Hasher)
    (ops : List AnyOperation) (hfree : (operated connections dnssec hasher ops).HasFree) :
    ∃ entries, (operated connections dnssec hasher ops).Authorizes
      (AutoprimaryEvent.ofRun connections dnssec hasher ops) entries := by
  obtain ⟨t, ht, -⟩ := records_whole connections dnssec hasher ops
  have hcalm := calm_operated connections dnssec hasher ops
  have hunique := (reachable_operated connections dnssec hasher ops).uniqueKeys ht
  have hleft := primaries_operated ht
  have hsort (p : Autoprimary) : p ∈ Autoprimary.sort t.primaries ↔ p ∈ t.primaries :=
    List.mem_mergeSort
  have hanswer (ip domain : String) (nsset : List ResourceRecord) :=
    answers_authorize t ip domain nsset _ hcalm hfree ht
  have hfirst {ip : String} {nsset : List ResourceRecord} {i : Nat} {record : ResourceRecord}
      {p : Autoprimary} (h : IsFirstEntry t.primaries ip nsset i record p) :
      firstEntry t.primaries ip nsset = some (record.content, p.account) :=
    firstEntry_eq_some (fun q hq hqat => hunique.eq_of_isAt hq h.listed hqat h.isAt) h
  refine ⟨Autoprimary.sort t.primaries, ?_⟩
  constructor
  case listed => exact answers_listAutoprimaries t _ hcalm hfree ht
  case left => exact hleft ▸ List.mergeSort_perm _ _
  case authorized =>
    intro ip domain nsset
    simp only [isFirstEntry_congr hsort, hsort]
    refine ⟨_, hanswer ip domain nsset, fun c a => ⟨exists_isFirstEntry, ?_⟩,
      firstEntry_eq_none_iff⟩
    rintro ⟨i, record, p, h, rfl, rfl⟩
    exact hfirst h
  case added =>
    intro before p later hevents hlater domain nsset i record hstands halike hleast
    simp only [hsort] at hleast
    have hlisted : p ∈ t.primaries := hleft ▸ AutoprimaryEvent.mem_left_of_added hevents hlater
    have hisAt : p.isAt p.ip record.content = true :=
      Autoprimary.isAt_iff.2 ⟨rfl, Text.alike_comm record.content _ ▸ halike⟩
    rw [hanswer, hfirst ⟨hstands, hlisted, hisAt, hleast⟩]
  case removed =>
    intro before ip nameserver later hevents hlater domain nsset halike
    have hnone := AutoprimaryEvent.not_isAt_left_of_removed hevents hlater
    rw [← hleft] at hnone
    rw [hanswer, firstEntry_eq_none_iff.2]
    intro record hrecord p hp
    rw [Autoprimary.isAt_congr (halike record hrecord)]
    exact hnone p hp
  case anyDomain =>
    intro ip domain domain' nsset
    rw [hanswer, hanswer]

/-- An autoprimary is added, another account is refused in its place, and one at another address is
added and removed. -/
def provisioning : List AnyOperation :=
  [⟨Unit, .addAutoprimary ⟨"192.0.2.1", "ns2.example.com", "acme"⟩⟩,
   ⟨Unit, .addAutoprimary ⟨"192.0.2.1", "NS2.example.com", "other"⟩⟩,
   ⟨Unit, .addAutoprimary ⟨"192.0.2.9", "ns2.example.com", "other"⟩⟩,
   ⟨Unit, .removeAutoprimary "192.0.2.9" "NS2.EXAMPLE.COM"⟩]

/-- The nameserver record of a zone. -/
def nameserverRecord (nameserver : String) : ResourceRecord :=
  ⟨0, "example.org", "NS", nameserver, 3600, 0, false, true, none⟩

/-- The refused call is no event, and the nameserver is found in another spelling behind an unknown
one. -/
theorem authorization_provisioning :
    AutoprimaryEvent.ofRun 8 false none provisioning =
        [.added ⟨"192.0.2.1", "ns2.example.com", "acme"⟩,
          .added ⟨"192.0.2.9", "ns2.example.com", "other"⟩,
          .removed "192.0.2.9" "NS2.EXAMPLE.COM"] ∧
      ((authorize "192.0.2.1" "example.org" [nameserverRecord "ns1.example.com",
        nameserverRecord "Ns2.Example.Com"]).run (operated 8 false none provisioning)).1 =
          .ok (some ("Ns2.Example.Com", "acme")) ∧
      ((authorize "192.0.2.9" "example.org" [nameserverRecord "Ns2.Example.Com"]).run
        (operated 8 false none provisioning)).1 = .ok none := by
  have hevents : AutoprimaryEvent.ofRun 8 false none provisioning =
      [.added ⟨"192.0.2.1", "ns2.example.com", "acme"⟩,
        .added ⟨"192.0.2.9", "ns2.example.com", "other"⟩,
        .removed "192.0.2.9" "NS2.EXAMPLE.COM"] := rfl
  obtain ⟨entries, h⟩ := authorization 8 false none provisioning (by decide)
  rw [hevents] at h
  refine ⟨hevents, ?_, ?_⟩
  · refine h.added [] ⟨"192.0.2.1", "ns2.example.com", "acme"⟩ _ rfl (by decide) "example.org"
      [nameserverRecord "ns1.example.com", nameserverRecord "Ns2.Example.Com"] 1
      (nameserverRecord "Ns2.Example.Com") rfl (by decide) ?_
    intro earlier hearlier q hq
    obtain rfl := List.mem_singleton.1 hearlier
    obtain rfl : q = ⟨"192.0.2.1", "ns2.example.com", "acme"⟩ :=
      List.mem_singleton.1 (h.left.mem_iff.1 hq)
    decide
  · exact h.removed [.added ⟨"192.0.2.1", "ns2.example.com", "acme"⟩,
      .added ⟨"192.0.2.9", "ns2.example.com", "other"⟩] "192.0.2.9" "NS2.EXAMPLE.COM" [] rfl
      (fun _ he => absurd he List.not_mem_nil) "example.org" _ (by decide)

end Backend

end ZoneStore
