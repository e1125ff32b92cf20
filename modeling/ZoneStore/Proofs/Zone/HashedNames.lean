import ZoneStore.Proofs.Backend.Operations
import ZoneStore.Proofs.Zone.Attempts
import ZoneStore.Proofs.Zone.ReadBack

/-!
# Names of hashed zones

What feeding the empty non-terminals of a hashed zone does to the tables that the transaction sees.
A number that is not in use is reported before anything else, and a missing hasher before the first
name is added: whether one is missed is decided on the whole map (`Update.AsksForHash`), so a map
whose first names need no key adds none of them. Otherwise every name of the map gets a row of its
own (`RecordRow.IsHashed`). Where no name asks for a hash the call is the one that feeds the names
of a zone that is not hashed (`hashed_names_fed`).
-/

set_option autoImplicit false

namespace ZoneStore

/-- Some name of the map gets a hash for its ordering key: every name of a narrow zone does, and in
any zone one without authority. -/
def Update.AsksForHash (names : TextMap Bool) (narrow : Bool) : Prop :=
  narrow = true ∧ names.entries ≠ [] ∨ ∃ n ∈ names.entries, n.2 = false

/-- The row is that of a name and its authority in a hashed zone: an enabled empty non-terminal
whose ordering key, if it gets one, is the hash as it was given. -/
structure RecordRow.IsHashed (hasher : Option Hasher) (zone : Int) (zoneName : String)
    (narrow : Bool) (row : RecordRow) (n : String × Bool) : Prop where
  domainId : row.domainId = some zone
  name : row.name = some n.1
  type : row.type = none
  content : row.content = none
  ttl : row.ttl = none
  prio : row.prio = none
  disabled : row.disabled = some 0
  hashed : narrow = true ∨ n.2 = false →
    ∃ hash, hasher = some hash ∧ row.ordername = some (hash zoneName n.1)
  unhashed : narrow = false → n.2 = true → row.ordername = none
  auth : row.auth = some (storedBool n.2)

namespace Update

variable {hasher : Option Hasher} {zone : Int} {zoneName : String} {names : TextMap Bool}
  {narrow : Bool}

/-- The check that is made before the first name is added finds each name that asks for a hash. -/
theorem any_needsHash_iff :
    names.entries.any (fun n => needsHash narrow n.2) = true ↔ AsksForHash names narrow := by
  rw [List.any_eq_true, AsksForHash]
  constructor
  · rintro ⟨n, hn, hneeds⟩
    rcases Bool.or_eq_true_iff.1 hneeds with hnarrow | hauth
    · exact Or.inl ⟨hnarrow, List.ne_nil_of_mem hn⟩
    · exact Or.inr ⟨n, hn, by simpa using hauth⟩
  · rintro (⟨hnarrow, hne⟩ | ⟨n, hn, hauth⟩)
    · obtain ⟨n, hn⟩ := List.exists_mem_of_ne_nil _ hne
      exact ⟨n, hn, Bool.or_eq_true_iff.2 (Or.inl hnarrow)⟩
    · exact ⟨n, hn, Bool.or_eq_true_iff.2 (Or.inr (by simp [hauth]))⟩

/-- A hasher is there for each name that asks for a hash. -/
theorem exists_hasher {n : String × Bool} (h : ¬ (hasher = none ∧ AsksForHash names narrow))
    (hn : n ∈ names.entries) (hasks : narrow = true ∨ n.2 = false) :
    ∃ hash, hasher = some hash := by
  refine Option.ne_none_iff_exists'.1 fun hnone => h ⟨hnone, ?_⟩
  rcases hasks with hnarrow | hauth
  · exact Or.inl ⟨hnarrow, List.ne_nil_of_mem hn⟩
  · exact Or.inr ⟨n, hn, hauth⟩

/-- The row that is made of a name. -/
theorem isHashed_of_unnumbered {row : RecordRow} {n : String × Bool}
    (h : row.unnumbered = .emptyNonTerminal (some zone) (some n.1)
      (if needsHash narrow n.2 then hasher.map fun hash => hash zoneName n.1 else none)
      (some (storedBool n.2)))
    (hhasher : narrow = true ∨ n.2 = false → ∃ hash, hasher = some hash) :
    row.IsHashed hasher zone zoneName narrow n := by
  have hkey : row.ordername =
      if needsHash narrow n.2 then hasher.map fun hash => hash zoneName n.1 else none :=
    congrArg RecordRow.ordername h
  constructor
  · exact congrArg RecordRow.domainId h
  · exact congrArg RecordRow.name h
  · exact congrArg RecordRow.type h
  · exact congrArg RecordRow.content h
  · exact congrArg RecordRow.ttl h
  · exact congrArg RecordRow.prio h
  · exact congrArg RecordRow.disabled h
  · intro hasks
    obtain ⟨hash, rfl⟩ := hhasher hasks
    have hneeds : needsHash narrow n.2 = true := by simpa [needsHash] using hasks
    exact ⟨hash, rfl, by rw [hkey, if_pos hneeds, Option.map_some]⟩
  · intro hnarrow hauth
    rw [hkey, hnarrow, hauth]
    rfl
  · exact congrArg RecordRow.auth h

/-- Feeding the names appends one row for each of them. -/
theorem exists_runAll_hashed (h : ¬ (hasher = none ∧ AsksForHash names narrow)) (zone : Int)
    (zoneName : String) (t : Tables) :
    ∃ added, t.runAll (hashedEmptyNonTerminals hasher zone zoneName names narrow) =
        .ok { t with records := t.records ++ added } ∧
      List.Forall₂ (RecordRow.IsHashed hasher zone zoneName narrow) added names.entries := by
  rw [hashedEmptyNonTerminals, Tables.runAll_insertEmptyNonTerminals]
  obtain ⟨added, hrun, hadded⟩ := Tables.exists_runAll_insertions t (names.entries.map fun n =>
    .emptyNonTerminal (some zone) (some n.1)
      (if needsHash narrow n.2 then hasher.map fun hash => hash zoneName n.1 else none)
      (some (storedBool n.2)))
  refine ⟨added, hrun, ?_⟩
  rw [List.forall₂_map_right_iff] at hadded
  refine List.forall₂_iff_zip.2 ⟨hadded.length_eq, fun {row n} hzip => ?_⟩
  exact isHashed_of_unnumbered ((List.forall₂_iff_zip.1 hadded).2 hzip)
    fun hasks => exists_hasher h (List.of_mem_zip hzip).2 hasks

/-- Without a name that asks for a hash the names are those of a zone that is not hashed. -/
theorem hashedEmptyNonTerminals_of_authoritative (hauth : ∀ n ∈ names.entries, n.2 = true) :
    hashedEmptyNonTerminals hasher zone zoneName names false =
      emptyNonTerminals true zone names := by
  apply List.map_congr_left
  intro n hn
  rw [hauth n hn]
  rfl

end Update

namespace Backend

variable {b : Backend} {id zone : Int} {zoneName : String} {names : TextMap Bool} {narrow : Bool}

/-- Without a hasher that some name asks for, the work in the transaction only fails. -/
theorem run_feedHashed_of_missing (hdnssec : b.dnssec = true)
    (h : b.hasher = none ∧ Update.AsksForHash names narrow) :
    (feedHashedEmptyNonTerminals id zone zoneName names narrow).run b =
      (inTransaction id (throw .hasherMissing : ConnectionM Unit)).run b := by
  have hcheck : (b.hasher.isNone && names.entries.any fun n => needsHash narrow n.2) = true := by
    rw [h.1, Update.any_needsHash_iff.2 h.2]
    rfl
  rw [feedHashedEmptyNonTerminals, run_guarded_of_true hdnssec, Action.run_bind, Action.run_get]
  simp only [hcheck, if_true]
  rfl

/-- Otherwise the call is an update. -/
theorem run_feedHashed_of_not_missing (hdnssec : b.dnssec = true)
    (h : ¬ (b.hasher = none ∧ Update.AsksForHash names narrow)) :
    (feedHashedEmptyNonTerminals id zone zoneName names narrow).run b =
      (Backend.update id
        (Update.hashedEmptyNonTerminals b.hasher zone zoneName names narrow)).run b := by
  have hcheck : (b.hasher.isNone && names.entries.any fun n => needsHash narrow n.2) = false := by
    rw [← Bool.not_eq_true, Bool.and_eq_true, Option.isNone_iff_eq_none, Update.any_needsHash_iff]
    exact h
  rw [feedHashedEmptyNonTerminals, run_guarded_of_true hdnssec, Action.run_bind, Action.run_get]
  simp only [hcheck, Bool.false_eq_true, if_false]
  rfl

/-- Feeding the names of a hashed zone in the signing mode, in every state that a run can reach. A
number that is not in use is reported whatever hasher there is. In an open transaction the hasher is
missed exactly if there is none and some name asks for a hash; whatever the failure, the transaction
then sees what it saw. If the transaction can write and no hasher is missed, the call succeeds, and
a success adds one row for each name of the map and changes nothing else. Where every name has
authority and the zone is not narrow the call is that for a zone that is not hashed. -/
theorem hashed_names_fed (b : Backend) (hreachable : b.Reachable) (hdnssec : b.dnssec = true)
    (id zone : Int) (zoneName : String) (names : TextMap Bool) (narrow : Bool) :
    (b.inProgress id = false →
      (feedHashedEmptyNonTerminals id zone zoneName names narrow).run b =
        (.error (.noActiveTransaction id), b)) ∧
    (b.inProgress id = true → ∃ before after, b.view? id = some before ∧
      ((feedHashedEmptyNonTerminals id zone zoneName names narrow).run b).2.view? id =
        some after ∧
      (((feedHashedEmptyNonTerminals id zone zoneName names narrow).run b).1 =
        .error .hasherMissing ↔ b.hasher = none ∧ Update.AsksForHash names narrow) ∧
      (∀ fault, ((feedHashedEmptyNonTerminals id zone zoneName names narrow).run b).1 =
        .error fault → after = before) ∧
      (¬ (b.hasher = none ∧ Update.AsksForHash names narrow) → b.Writable id →
        ((feedHashedEmptyNonTerminals id zone zoneName names narrow).run b).1 = .ok ()) ∧
      (((feedHashedEmptyNonTerminals id zone zoneName names narrow).run b).1 = .ok () →
        (∃ added, after.records = before.records ++ added ∧
          List.Forall₂ (RecordRow.IsHashed b.hasher zone zoneName narrow) added names.entries) ∧
        { after with records := before.records } = before)) ∧
    (narrow = false → (∀ n ∈ names.entries, n.2 = true) →
      (feedHashedEmptyNonTerminals id zone zoneName names narrow).run b =
        (feedEmptyNonTerminals id zone names).run b) := by
  refine ⟨?_, ?_, ?_⟩
  · intro hclosed
    have hfree : b.registry.connection? id = none := Registry.connection?_of_free hclosed
    by_cases hmissing : b.hasher = none ∧ Update.AsksForHash names narrow
    · rw [run_feedHashed_of_missing hdnssec hmissing, run_inTransaction_of_none hfree]
    · rw [run_feedHashed_of_not_missing hdnssec hmissing, Backend.update,
        run_inTransaction_of_none hfree]
  · intro hopen
    obtain ⟨before, hbefore⟩ := hreachable.exists_view hopen
    by_cases hmissing : b.hasher = none ∧ Update.AsksForHash names narrow
    · obtain ⟨herror, hsame⟩ := run_inTransaction_throw (α := Unit) hbefore .hasherMissing
      rw [run_feedHashed_of_missing hdnssec hmissing]
      refine ⟨before, before, hbefore, hsame, iff_of_true herror hmissing, fun _ _ => rfl,
        fun h => absurd hmissing h, ?_⟩
      intro hok
      cases hok.symm.trans herror
    · obtain ⟨after, hafter, hcases⟩ := hreachable.update_cases hbefore
        (Update.neverRefused_hashedEmptyNonTerminals b.hasher zone zoneName names narrow)
      obtain ⟨added, hrun, hadded⟩ :=
        Update.exists_runAll_hashed hmissing zone zoneName before
      rw [run_feedHashed_of_not_missing hdnssec hmissing]
      refine ⟨before, after, hbefore, hafter, iff_of_false ?_ hmissing, ?_, ?_, ?_⟩
      · -- An update either succeeds or is refused by a lock.
        intro herror
        rcases hcases with ⟨hok, -⟩ | ⟨-, hlocked, -⟩
        · cases hok.symm.trans herror
        · cases hlocked.symm.trans herror
      · intro fault herror
        rcases hcases with ⟨hok, -⟩ | ⟨-, -, hsame⟩
        · cases hok.symm.trans herror
        · exact hsame
      · intro _ hwritable
        exact (hcases.resolve_right fun hblocked => hblocked.1 hwritable).1
      · intro hok
        rcases hcases with ⟨-, hrun'⟩ | ⟨-, hlocked, -⟩
        · obtain rfl := Except.ok.inj (hrun'.symm.trans hrun)
          exact ⟨⟨added, rfl, hadded⟩, rfl⟩
        · cases hok.symm.trans hlocked
  · rintro rfl hauth
    have hnone : ¬ (b.hasher = none ∧ Update.AsksForHash names false) := by
      rintro ⟨-, ⟨hnarrow, -⟩ | ⟨n, hn, hno⟩⟩
      · cases hnarrow
      · cases (hauth n hn).symm.trans hno
    rw [run_feedHashed_of_not_missing hdnssec hnone,
      Update.hashedEmptyNonTerminals_of_authoritative hauth, feedEmptyNonTerminals]
    simp only [Action.run_bind, Action.run_get, hdnssec]

/-- A backend in the signing mode with an open transaction and a hasher that shows what it is
given. -/
def hashing : Backend :=
  operated 8 true (some fun zoneName name => "H(" ++ name ++ "|" ++ zoneName ++ ")")
    [⟨Unit, .startTransaction 7 0⟩]

/-- Of two names the one without authority gets a hash. -/
theorem hashed_names_fed_hashing :
    ∃ after first second,
      ((feedHashedEmptyNonTerminals 7 1 "example.org"
        (.ofList [("a.example.org", true), ("b.example.org", false)]) false).run hashing).2.view? 7 =
          some after ∧
      after.records = [first, second] ∧ first.ordername = none ∧
      second.ordername = some "H(b.example.org|example.org)" := by
  obtain ⟨-, hopen, -⟩ := hashed_names_fed hashing ⟨8, true, _, _, rfl⟩ rfl 7 1 "example.org"
    (.ofList [("a.example.org", true), ("b.example.org", false)]) false
  obtain ⟨before, after, hbefore, hafter, -, -, -, hfed⟩ := hopen rfl
  obtain ⟨⟨added, hrows, hadded⟩, -⟩ := hfed rfl
  obtain rfl := Option.some.inj (hbefore.symm.trans rfl)
  obtain ⟨first, others, hfirst, hothers, rfl⟩ := List.forall₂_cons_right_iff.1 hadded
  obtain ⟨second, last, hsecond, hlast, rfl⟩ := List.forall₂_cons_right_iff.1 hothers
  obtain rfl := List.forall₂_nil_right_iff.1 hlast
  obtain ⟨hash, hhash, hkey⟩ := hsecond.hashed (Or.inr rfl)
  obtain rfl := Option.some.inj hhash
  exact ⟨after, first, second, hafter, hrows, hfirst.unhashed rfl rfl, hkey⟩

end Backend

end ZoneStore
