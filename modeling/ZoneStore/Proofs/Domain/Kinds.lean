import ZoneStore.Proofs.Backend.Tracing

/-!
# Kinds of domains as they are stored

Only the creation of a domain and the operation that sets its kind write a kind, so after every run
of operations each domain has the text of a kind that one of them gave (`Backend.kinds_operated`).
Where these kinds were read from texts, the stored text of a master is the same for all masters, in
one spelling (`DomainKind.ofText_eq_master_iff`).
-/

set_option autoImplicit false

namespace ZoneStore

/-! ## Kinds that are read from texts -/

namespace DomainKind

/-- The stored form of a kind that was read is read as that kind. -/
theorem ofText_text_ofText (s : String) : ofText (ofText s).text = ofText s := by
  by_cases hmaster : Text.agree s master.text = true
  · have hkind : ofText s = .master := if_pos hmaster
    rw [hkind]
    rfl
  by_cases hslave : Text.agree s slave.text = true
  · have hkind : ofText s = .slave := (if_neg hmaster).trans (if_pos hslave)
    rw [hkind]
    rfl
  by_cases hnative : Text.agree s native.text = true
  · have hkind : ofText s = .native :=
      (if_neg hmaster).trans ((if_neg hslave).trans (if_pos hnative))
    rw [hkind]
    rfl
  -- Any other text is kept as it is.
  · have hkind : ofText s = .other s :=
      (if_neg hmaster).trans ((if_neg hslave).trans (if_neg hnative))
    rw [hkind]
    exact hkind

/-- The stored form of a kind that was read names a master only if it is the stored form of one. -/
theorem ofText_eq_master_iff {kind : String} (h : ∃ s, kind = (ofText s).text) :
    ofText kind = .master ↔ kind = masterKind := by
  obtain ⟨s, rfl⟩ := h
  rw [ofText_text_ofText]
  constructor
  · intro hmaster
    rw [hmaster]
    rfl
  · intro hstored
    rw [← ofText_text_ofText, hstored]
    rfl

end DomainKind

/-! ## Where kinds come from -/

/-- The kind that a mutation writes, if it writes one. -/
def Mutation.kind? : Mutation → Option (Option String)
  | insertDomain kind _ _ _ => some kind
  | setKind _ kind => some kind
  | _ => none

/-- The kind that an operation gives to a domain, if it gives one. -/
def Operation.kind? : {α : Type} → Operation α → Option DomainKind
  | _, createDomain _ kind _ _ => some kind
  | _, createSlaveDomain _ _ => some .slave
  | _, setKind _ kind => some kind
  | _, _ => none

namespace Tables

variable {t t' : Tables} {kinds : List DomainKind}

/-- Each domain has the stored form of one of the kinds. -/
def HasKinds (kinds : List DomainKind) (t : Tables) : Prop :=
  ∀ d ∈ t.domains, d.kind ∈ kinds.map DomainKind.text

theorem HasKinds.revise (h : t.HasKinds kinds) {p : DomainRow → Bool} {f : DomainRow → DomainRow}
    (hf : ∀ d, (f d).kind = d.kind) :
    HasKinds kinds { t with domains := ZoneStore.revise p f t.domains } := by
  intro d hd
  obtain ⟨d', hd', rfl | rfl⟩ := exists_of_mem_revise hd
  · exact h d hd'
  · rw [hf]
    exact h d' hd'

/-- A mutation writes no other kind than its own. -/
theorem HasKinds.apply (h : t.HasKinds kinds) {m : Mutation} {change : Change}
    (happly : m.apply t = .ok change)
    (hkind : ∀ kind, m.kind? = some (some kind) → kind ∈ kinds.map DomainKind.text) :
    change.tables.HasKinds kinds := by
  by_cases htarget : m.target = .domains
  · cases m with
    | insertDomain =>
      obtain ⟨kind, name, rfl, rfl, -, htables⟩ := Mutation.insertDomain_eq_ok happly
      rw [htables]
      intro d hd
      rcases List.mem_append.1 hd with hd | hd
      · exact h d hd
      · obtain rfl := List.mem_singleton.1 hd
        exact hkind kind rfl
    | setKind name kind =>
      cases kind with
      | some kind =>
        cases happly
        intro d hd
        obtain ⟨d', hd', rfl | rfl⟩ := exists_of_mem_revise hd
        · exact h d hd'
        · exact hkind kind rfl
      | none =>
        simp only [Mutation.apply, setKind] at happly
        split at happly
        · cases happly
        · cases happly
          exact h
    | setMasters | setAccount | setNotifiedSerial | setLastCheck =>
      cases happly
      exact h.revise fun _ => rfl
    | deleteDomain =>
      cases happly
      exact fun d hd => h d (mem_without.1 hd).1
    | _ => cases htarget
  · rw [HasKinds, (Mutation.keepsBeside_target happly).domains htarget]
    exact h

theorem HasKinds.runAll (h : t.HasKinds kinds) {ms : List Mutation}
    (hms : ∀ m ∈ ms, ∀ kind, m.kind? = some (some kind) → kind ∈ kinds.map DomainKind.text)
    (hrun : t.runAll ms = .ok t') : t'.HasKinds kinds :=
  runAll_apply_induction (fun m hm _ _ h happly => h.apply happly (hms m hm)) h hrun

end Tables

theorem Mutation.kind?_of_target {m : Mutation} (h : m.target ≠ .domains) : m.kind? = none := by
  cases m with
  | insertDomain | setKind => exact absurd rfl h
  | _ => rfl

theorem Mutation.kind?_of_removes {m : Mutation} (h : m.removes = true) : m.kind? = none := by
  cases m with
  | insertDomain | setKind => cases h
  | _ => rfl

theorem Mutation.IsZoneUpdate.kind? {m : Mutation} (h : m.IsZoneUpdate) : m.kind? = none := by
  refine kind?_of_target fun htarget => ?_
  rcases h.target with h | h <;> cases h.symm.trans htarget

/-- What an operation does at once writes the kind that it gives, if any. -/
theorem Operation.kind?_of_atOnce {α : Type} (op : Operation α) {b : Backend} {ms : List Mutation}
    (h : op.deed b = .atOnce ms) : ∀ m ∈ ms, ∀ kind, m.kind? = some (some kind) →
      kind ∈ op.kind?.toList.map DomainKind.text := by
  have none_of {m : Mutation} (hm : m.kind? = none) :
      ∀ kind, m.kind? = some (some kind) → kind ∈ op.kind?.toList.map DomainKind.text := by
    intro kind hkind
    cases hm.symm.trans hkind
  cases op with
  | createDomain | createSlaveDomain | setKind =>
    cases h
    refine List.forall_mem_singleton.2 ?_
    rintro kind ⟨⟩
    exact List.mem_singleton_self _
  | deleteDomain name =>
    intro m hm
    have hmem : m ∈ (Operation.deed b (.deleteDomain name)).mutations := by
      rw [h]
      exact hm
    exact none_of (Mutation.kind?_of_removes (removes_of_mem_removal hmem))
  | setNotified | setFresh | setMasters | setAccount =>
    cases h
    exact List.forall_mem_singleton.2 (none_of rfl)
  | _ =>
    intro m hm
    have hwritten := target_of_atOnce _ h hm
    refine none_of (Mutation.kind?_of_target fun htarget => ?_)
    simp [written, htarget] at hwritten

/-- One operation. -/
theorem Operation.Advances.hasKinds {α : Type} {op : Operation α} {b : Backend} {t t' : Tables}
    (h : op.Advances b t t') {kinds : List DomainKind} (ht : t.HasKinds kinds) :
    t'.HasKinds (kinds ++ op.kind?.toList) := by
  have hmore : t.HasKinds (kinds ++ op.kind?.toList) := by
    intro d hd
    rw [List.map_append]
    exact List.mem_append_left _ (ht d hd)
  cases h with
  | done ms _ hdeed hrun =>
    refine hmore.runAll (fun m hm kind hkind => ?_) hrun
    rw [List.map_append]
    exact List.mem_append_right _ (op.kind?_of_atOnce hdeed m hm kind hkind)
  | updates ms _ hms hrun =>
    refine hmore.runAll (fun m hm kind hkind => ?_) hrun
    cases (hms m hm).kind?.symm.trans hkind

namespace Backend

/-- The kinds that a run gives, one after another. -/
theorem trace_kinds (b : Backend) (kinds : List DomainKind) (ops : List AnyOperation) :
    b.trace (fun op _ kinds => kinds ++ op.kind?.toList) kinds ops =
      kinds ++ ops.flatMap fun op => op.2.kind?.toList := by
  induction ops generalizing b kinds with
  | nil => exact (List.append_nil kinds).symm
  | cons op rest ih => rw [trace, ih, List.append_assoc, List.flatMap_cons]

/-- After every run of operations each domain has the stored form of a kind that one of them gave.
-/
theorem kinds_operated {connections : Nat} {dnssec : Bool} {hasher : Option Hasher}
    {ops : List AnyOperation}
    {t : Tables} (ht : (operated connections dnssec hasher ops).store.database.tables = some t) :
    ∀ d ∈ t.domains, ∃ op ∈ ops, ∃ kind, op.2.kind? = some kind ∧ d.kind = kind.text := by
  intro d hd
  obtain ⟨t', ht', hkinds⟩ := trace_induction (S := Tables.HasKinds)
    (f := fun op _ kinds => kinds ++ op.kind?.toList) (s := [])
    (fun d hd => absurd hd List.not_mem_nil) (fun _ _ _ _ _ _ _ _ h hs => h.hasKinds hs)
    connections dnssec hasher ops
  obtain rfl := Option.some.inj (ht.symm.trans ht')
  rw [trace_kinds, List.nil_append] at hkinds
  obtain ⟨kind, hkind, htext⟩ := List.mem_map.1 (hkinds d hd)
  obtain ⟨op, hop, hkind⟩ := List.mem_flatMap.1 hkind
  exact ⟨op, hop, kind, Option.mem_toList.1 hkind, htext.symm⟩

end Backend

end ZoneStore
