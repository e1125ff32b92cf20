import ZoneStore.Proofs.Zone.Attempts
import ZoneStore.Proofs.Zone.OrderingChain

/-!
# Updates of ordering keys

What setting or clearing the ordering key of a name does to the tables that the transaction sees
(`Tables.Reorders`): the enabled rows of the name in the zone, of one type if one is given, get the
key and the authority, and nothing else changes. Once the transaction is committed, the position up
to a key that was set is that key. A name whose keys were cleared is at no position of the chain
until a write gives one of its enabled rows a key: only a row that is added with one, or another
update of the name, does (`Mutation.GivesKey`, `keys_updated`).

A position has to have a name. A single statement can store a record without one, and if that
record carries the key the position cannot be read (`nameless_position`).
-/

set_option autoImplicit false

namespace ZoneStore

/-! ## Rows that an update reaches -/

/-- The row is an enabled one of the name in the zone. -/
structure RecordRow.EnabledAt (zone : Int) (name : String) (r : RecordRow) : Prop where
  domainId : r.domainId = some zone
  name : r.name = some name
  disabled : r.disabled = some 0

/-- The update of a name reaches the row: an enabled one of the name in the zone, of the type that
is given, if one is. -/
def RecordRow.IsReordered (zone : Int) (qname : String) (qtype : Option String) (r : RecordRow) :
    Prop :=
  r.EnabledAt zone qname ∧ ∀ type, qtype = some type → r.type = some type

/-- Updating the ordering key of a name leads from the one tables to the others. -/
structure Tables.Reorders (zone : Int) (qname : String) (qtype key : Option String) (auth : Bool)
    (before after : Tables) : Prop where
  records : List.Forall₂ (fun r r' =>
      (r.IsReordered zone qname qtype →
        r' = { r with ordername := key, auth := some (storedBool auth) }) ∧
      (¬ r.IsReordered zone qname qtype → r' = r))
    before.records after.records
  others : { after with records := before.records } = before

section Updating

variable {zone : Int} {name qname : String} {qtype key : Option String} {auth : Bool}
  {before after : Tables}

/-- The condition under which an enabled record is one of the name. -/
theorem RecordRow.enabledAt_iff {r : RecordRow} :
    (r.isIn (some zone) && r.isNamed (some name) && r.isEnabled) = true ↔ r.EnabledAt zone name := by
  rw [Bool.and_eq_true, Bool.and_eq_true, RecordRow.isIn, RecordRow.isNamed, RecordRow.isEnabled,
    holds_some_iff, holds_some_iff, beq_iff_eq]
  constructor
  · rintro ⟨⟨hzone, hname⟩, henabled⟩
    exact ⟨hzone, hname, henabled⟩
  · rintro ⟨hzone, hname, henabled⟩
    exact ⟨⟨hzone, hname⟩, henabled⟩

/-- The statement of an update: which types it reaches, and which key it sets. -/
theorem Update.exists_order (zone : Int) (qname : String) (qtype ordername : Option String)
    (auth : Bool) :
    ∃ type change, Update.order zone qname qtype ordername auth =
        .order (some zone) (some qname) type change (some (storedBool auth)) ∧
      (∀ column, type.admits column = true ↔ ∀ t, qtype = some t → column = some t) ∧
      change.key = ordername.map Text.lowercase := by
  refine ⟨_, _, rfl, ?_, ?_⟩
  · intro column
    cases qtype with
    | none => exact iff_of_true rfl (by rintro t ⟨⟩)
    | some t => simp [Scope.admits, holds_some_iff]
  · cases ordername <;> rfl

/-- An update is never refused, and does what it is to do. -/
theorem Tables.exists_reorders (zone : Int) (qname : String) (qtype ordername : Option String)
    (auth : Bool) (before : Tables) :
    ∃ after, before.runAll [Update.order zone qname qtype ordername auth] = .ok after ∧
      Reorders zone qname qtype (ordername.map Text.lowercase) auth before after := by
  obtain ⟨type, change, horder, htype, hkey⟩ :=
    Update.exists_order zone qname qtype ordername auth
  have hcondition (r : RecordRow) :
      (r.isIn (some zone) && r.isNamed (some qname) && type.admits r.type && r.isEnabled) = true ↔
        r.IsReordered zone qname qtype := by
    rw [RecordRow.IsReordered, ← RecordRow.enabledAt_iff, ← htype]
    simp only [Bool.and_eq_true]
    tauto
  rw [horder, ← hkey]
  refine ⟨_, rfl, ⟨?_, rfl⟩⟩
  simp only [reorderRecords, revise, List.forall₂_map_right_iff, List.forall₂_same]
  intro r _
  constructor
  · intro hreordered
    rw [if_pos ((hcondition r).2 hreordered)]
  · intro hother
    rw [if_neg fun h => hother ((hcondition r).1 h)]

/-- After an update of every type each enabled row of the name has the key. -/
theorem Tables.Reorders.key_of_enabledAt (h : before.Reorders zone qname none key auth after)
    {r : RecordRow} (hr : r ∈ after.records) (hat : r.EnabledAt zone qname) :
    r.ordername = key := by
  obtain ⟨r', hr', hreordered, hother⟩ := exists_of_mem_right h.records hr
  by_cases hat' : r'.IsReordered zone qname none
  · rw [hreordered hat']
  · -- A row that was not reached is the same as before, so it is not of the name.
    rw [hother hat'] at hat
    exact absurd ⟨hat, by rintro t ⟨⟩⟩ hat'

/-- An enabled row of the name is there after an update if there was one before. -/
theorem Tables.Reorders.exists_enabledAt (h : before.Reorders zone qname none key auth after)
    (hbefore : ∃ r ∈ before.records, r.EnabledAt zone qname) :
    ∃ r ∈ after.records, r.EnabledAt zone qname ∧ r.ordername = key := by
  obtain ⟨r, hr, hat⟩ := hbefore
  obtain ⟨r', hr', hreordered, -⟩ := exists_of_mem_left h.records hr
  have hat' : r'.EnabledAt zone qname := by
    rw [hreordered ⟨hat, by rintro t ⟨⟩⟩]
    exact ⟨hat.domainId, hat.name, hat.disabled⟩
  exact ⟨r', hr', hat', h.key_of_enabledAt hr' hat'⟩

end Updating

/-! ## Names that carry a key -/

/-- An enabled row of the name in the zone has an ordering key. -/
def Tables.IsKeyed (zone : Int) (name : String) (t : Tables) : Prop :=
  ∃ r ∈ t.records, r.EnabledAt zone name ∧ r.ordername ≠ none

/-- The mutation can give a key to an enabled row of the name in the zone: it adds one that has a
key, or it sets the key of the name. -/
inductive Mutation.GivesKey (zone : Int) (name : String) : Mutation → Prop where
  /-- A row of the name is added with a key. -/
  | added {m : Mutation} {row : RecordRow} (hrow : m.newRecord? = some row)
      (hat : row.EnabledAt zone name) (hkey : row.ordername ≠ none) : GivesKey zone name m
  /-- The key of the name is set. -/
  | ordered (type : Scope String) (key : String) (auth : Option Int) :
      GivesKey zone name (.order (some zone) (some name) type (.set (some key)) auth)

section Keys

variable {zone : Int} {name : String} {t t' : Tables} {m : Mutation} {ms : List Mutation}

/-- Setting keys gives one to an enabled row of the name only if it sets that of the name. -/
theorem Mutation.givesKey_order {asked : Option Int} {owner : Option String}
    {type : Scope String} {change : KeyChange} {auth : Option Int}
    (hbefore : ¬ t.IsKeyed zone name)
    (hafter : (t.reorderRecords
      (fun r => r.isIn asked && r.isNamed owner && type.admits r.type && r.isEnabled)
      fun r => { r with ordername := change.key, auth := auth }).tables.IsKeyed zone name) :
    (Mutation.order asked owner type change auth).GivesKey zone name := by
  obtain ⟨r, hr, hat, hkey⟩ := hafter
  obtain ⟨s, hs, hcases⟩ := List.exists_of_mem_map hr
  split at hcases
  · rename_i hreached
    subst hcases
    simp only [Bool.and_eq_true] at hreached
    obtain ⟨⟨⟨hzone, hname⟩, -⟩, -⟩ := hreached
    rw [RecordRow.isIn, show s.domainId = some zone from hat.domainId] at hzone
    rw [RecordRow.isNamed, show s.name = some name from hat.name] at hname
    obtain rfl := eq_some_of_holds hzone
    obtain rfl := eq_some_of_holds hname
    cases change with
    | clear => exact absurd rfl hkey
    | set given =>
      obtain ⟨key, rfl⟩ := Option.ne_none_iff_exists'.1 hkey
      exact .ordered type key auth
  · subst hcases
    exact absurd ⟨s, hs, hat, hkey⟩ hbefore

/-- Any other mutation gives one only if it adds a row that has it. -/
theorem Mutation.givesKey_of_alters (hm : m.Alters t t')
    (horder : ∀ asked owner type change auth, m ≠ .order asked owner type change auth)
    (hbefore : ¬ t.IsKeyed zone name) (hafter : t'.IsKeyed zone name) : m.GivesKey zone name := by
  cases hm with
  | addRecord hrow =>
    obtain ⟨r, hr, hat, hkey⟩ := hafter
    rcases List.mem_append.1 hr with hr | hr
    · exact absurd ⟨r, hr, hat, hkey⟩ hbefore
    · obtain rfl := List.mem_singleton.1 hr
      exact .added hrow ⟨hat.domainId, hat.name, hat.disabled⟩ hkey
  | removeRecords m p =>
    obtain ⟨r, hr, hat, hkey⟩ := hafter
    exact absurd ⟨r, (mem_without.1 hr).1, hat, hkey⟩ hbefore
  | reorderRecords => exact absurd rfl (horder _ _ _ _ _)
  | _ => exact absurd hafter hbefore

/-- What one mutation does: a name that carries no key carries one afterwards only if the mutation
gives it. -/
theorem Mutation.givesKey_of_apply {change : Change} (h : m.apply t = .ok change)
    (hbefore : ¬ t.IsKeyed zone name) (hafter : change.tables.IsKeyed zone name) :
    m.GivesKey zone name := by
  by_cases horder : ∃ asked owner type change auth, m = .order asked owner type change auth
  · obtain ⟨asked, owner, type, key, auth, rfl⟩ := horder
    cases h
    exact givesKey_order hbefore hafter
  · refine givesKey_of_alters (alters h) ?_ hbefore hafter
    rintro asked owner type key auth rfl
    exact horder ⟨asked, owner, type, key, auth, rfl⟩

/-- What a list of mutations does: one of them gives the name the key that it carries in the end. -/
theorem Tables.exists_givesKey (hrun : t.runAll ms = .ok t') (hbefore : ¬ t.IsKeyed zone name)
    (hafter : t'.IsKeyed zone name) : ∃ m ∈ ms, m.GivesKey zone name := by
  induction ms generalizing t with
  | nil =>
    cases hrun
    exact absurd hafter hbefore
  | cons m rest ih =>
    rw [runAll_cons] at hrun
    obtain ⟨change, hchange, hrest⟩ := bind_eq_ok_iff.1 hrun
    by_cases hkeyed : change.tables.IsKeyed zone name
    · exact ⟨m, List.mem_cons_self, Mutation.givesKey_of_apply hchange hbefore hkeyed⟩
    · obtain ⟨m', hm', hgives⟩ := ih hrest hkeyed
      exact ⟨m', List.mem_cons_of_mem _ hm', hgives⟩

end Keys

/-! ## Steps that give a name a key -/

namespace Backend

variable {b : Backend} {j : Journal} {zone : Int} {name key : String} {tables : Tables}

/-- In the committed tables an enabled row of the name in the zone has an ordering key. -/
def IsKeyed (b : Backend) (zone : Int) (name : String) : Prop :=
  ∃ tables, b.store.database.tables = some tables ∧ tables.IsKeyed zone name

/-- After the step, but not before it, the name carries a key, and among the mutations that the step
lets take effect is one that gives it. -/
structure StepGivesKey (b : Backend) (step : Step) (zone : Int) (name : String) : Prop where
  before : ¬ b.IsKeyed zone name
  after : (b.next step).IsKeyed zone name
  write : ∀ j : Journal, j.Matches b →
    ∃ more, (b.noteStep j step).blocks = j.blocks ++ more ∧
      ∃ m ∈ more.flatten, m.GivesKey zone name

/-- A step adds blocks to the journal. -/
theorem exists_blocks_noteStep (b : Backend) (j : Journal) (step : Step) :
    ∃ more, (b.noteStep j step).blocks = j.blocks ++ more := by
  have recorded (deed : Deed) (done : Bool) :
      ∃ more, (j.record deed done).blocks = j.blocks ++ more := by
    cases done with
    | false => exact ⟨[], (List.append_nil _).symm⟩
    | true =>
      obtain ⟨more, hmore, -⟩ := j.note_blocks deed
      exact ⟨more, hmore⟩
  cases step with
  | operation op => exact recorded _ _
  | statement op => exact recorded _ _

/-- What one step does: a name that carries no key carries one afterwards only if the step gives
it. -/
theorem stepGivesKey_of_isKeyed {step : Step} (hbefore : ¬ b.IsKeyed zone name)
    (hafter : (b.next step).IsKeyed zone name) : b.StepGivesKey step zone name := by
  refine ⟨hbefore, hafter, fun j hj => ?_⟩
  obtain ⟨more, hblocks⟩ := b.exists_blocks_noteStep j step
  obtain ⟨t, ht, -⟩ := hj.committed
  obtain ⟨t', ht', hrun⟩ := hj.committed_append (hj.next step).1 hblocks ht
  obtain ⟨t'', ht'', hkeyed⟩ := hafter
  obtain rfl := Option.some.inj (ht'.symm.trans ht'')
  refine ⟨more, hblocks, Tables.exists_givesKey hrun ?_ hkeyed⟩
  intro hkeyed
  exact hbefore ⟨t, ht, hkeyed⟩

/-- What a run does: if it ends with a name that carries a key, but begins without, one of its steps
gives it. -/
theorem exists_stepGivesKey {steps : List Step} (hbefore : ¬ b.IsKeyed zone name)
    (hafter : (b.after steps).IsKeyed zone name) :
    ∃ earlier step rest, steps = earlier ++ step :: rest ∧
      (b.after earlier).StepGivesKey step zone name := by
  induction steps generalizing b with
  | nil => exact absurd hafter hbefore
  | cons step rest ih =>
    by_cases hkeyed : (b.next step).IsKeyed zone name
    · exact ⟨[], step, rest, rfl, stepGivesKey_of_isKeyed hbefore hkeyed⟩
    · obtain ⟨earlier, step', rest', rfl, hgives⟩ := ih hkeyed hafter
      exact ⟨step :: earlier, step', rest', rfl, hgives⟩

/-! ## Positions after an update -/

/-- A position that an ordering query gives is that of an enabled record of the zone with its name
and its key. -/
theorem exists_carrier_of_orderEntry (hb : b.store.Calm)
    (htables : b.store.database.tables = some tables) {q : Query (String × Option String)}
    {position : Option (String × Option String)} (hq : q.rows tables = .ok position.toList)
    (hposition : ∀ p, position = some p → p ∈ tables.orderingChain (some zone)) {e : OrderEntry}
    (h : ((orderEntry q).run b).1 = .ok (some e)) :
    ∃ r ∈ tables.records, r.Carries zone e.ordername ∧ r.name = some e.name := by
  have hfree := hasFree_of_fetch_bind h
  rw [run_orderEntry_fst hb hfree htables, hq] at h
  cases position with
  | none => cases h
  | some p =>
    obtain ⟨key, column⟩ := p
    cases column with
    | none => cases h
    | some owner =>
      obtain rfl := Option.some.inj (Except.ok.inj h)
      exact Tables.mem_orderingChain.1 (hposition _ rfl)

/-- Whatever an ordering query gives is the name and the key of an enabled record of the zone. -/
theorem exists_carrier_of_ordering (hb : b.store.Calm)
    (htables : b.store.database.tables = some tables) (zone : Int) (key : String) :
    ∀ op ∈ orderingOperations zone key, ∀ e, (op.run.run b).1 = .ok (some e) →
      ∃ r ∈ tables.records, r.Carries zone e.ordername ∧ r.name = some e.name := by
  intro op hop e h
  simp only [orderingOperations, List.mem_cons, List.not_mem_nil, or_false] at hop
  rcases hop with rfl | rfl | rfl | rfl
  · exact exists_carrier_of_orderEntry hb htables rfl (fun p hp => List.mem_of_head? hp) h
  · exact exists_carrier_of_orderEntry hb htables rfl
      (fun p hp => (List.mem_filter.1 (List.mem_of_getLast? hp)).1) h
  · exact exists_carrier_of_orderEntry hb htables rfl
      (fun p hp => (List.mem_filter.1 (List.mem_of_getLast? hp)).1) h
  · exact exists_carrier_of_orderEntry hb htables rfl
      (fun p hp => (List.mem_filter.1 (List.mem_of_head? hp)).1) h

/-- Only names that carry a key are at a position of the chain. -/
theorem isKeyed_of_ordering (hb : b.store.Calm)
    (htables : b.store.database.tables = some tables) {op : Operation (Option OrderEntry)}
    (hop : op ∈ orderingOperations zone key) {e : OrderEntry}
    (h : (op.run.run b).1 = .ok (some e)) : b.IsKeyed zone e.name := by
  obtain ⟨r, hr, hcarries, hname⟩ := exists_carrier_of_ordering hb htables zone key op hop e h
  refine ⟨tables, htables, r, hr, ⟨holds_some_iff.1 hcarries.isIn, hname, ?_⟩, ?_⟩
  · exact beq_iff_eq.1 hcarries.enabled
  · rw [hcarries.key]
    exact Option.some_ne_none _

/-- Up to a key of the zone the position is the key itself, with the name of a record that carries
it, if that record has one. -/
theorem exists_orderBefore_of_mem (hb : b.store.Calm) (hfree : b.HasFree)
    (htables : b.store.database.tables = some tables) (hkey : key ∈ tables.orderingKeys zone) :
    ∃ r ∈ tables.records, r.Carries zone key ∧
      ∀ owner, r.name = some owner →
        ((orderBefore zone key).run b).1 = .ok (some ⟨key, owner⟩) := by
  obtain ⟨q, hq, rfl⟩ := Tables.mem_orderingKeys_iff_exists_chain.1 hkey
  have hrun := run_orderEntry_fst hb hfree htables (.orderBefore (some zone) (some q.1))
  -- There is a position up to the key, and it is not behind the one that has the key.
  obtain ⟨p, hp⟩ : ∃ p, ((tables.orderingChain (some zone)).filter fun p =>
      (compare p.1 q.1).isLE).getLast? = some p := by
    rw [← Option.ne_none_iff_exists', Ne, List.getLast?_eq_none_iff]
    refine List.ne_nil_of_mem (List.mem_filter.2 ⟨hq, ?_⟩)
    exact Tables.isLE_compare_iff.2 (le_refl q.1)
  have hlast := getLast?_filter_of_pairwise (tables.pairwise_orderingChain (some zone))
    (fun x => le_refl x.1) hp
  obtain ⟨hmem, hle, hgreatest⟩ := hlast
  have heq : p.1 = q.1 := le_antisymm (Tables.isLE_compare_iff.1 hle)
    (hgreatest q hq (Tables.isLE_compare_iff.2 (le_refl q.1)))
  have hrows : (Query.orderBefore (some zone) (some q.1)).rows tables = .ok [p] :=
    congrArg (fun position => Except.ok (Option.toList position)) hp
  rw [hrows] at hrun
  obtain ⟨r, hr, hcarries, hname⟩ := Tables.mem_orderingChain.1 hmem
  obtain ⟨found, column⟩ := p
  obtain rfl : found = q.1 := heq
  refine ⟨r, hr, hcarries, fun owner howner => ?_⟩
  obtain rfl : some owner = column := howner.symm.trans hname
  exact hrun

/-! ## The theorem -/

/-- Updating ordering keys in a transaction that can write. -/
theorem Working.orderRecords {id : Int} {committed before : Tables}
    (h : b.Working id committed before) (hdnssec : b.dnssec = true) (zone : Int) (qname : String)
    (qtype ordername : Option String) (auth : Bool) :
    ∃ after, ((Backend.orderRecords id zone qname qtype ordername auth).run b).1 = .ok () ∧
      Working ((Backend.orderRecords id zone qname qtype ordername auth).run b).2 id committed
        after ∧
      before.Reorders zone qname qtype (ordername.map Text.lowercase) auth after := by
  have hms : ∀ m ∈ [Update.order zone qname qtype ordername auth], m.NeverRefused := fun m hm =>
    List.mem_singleton.1 hm ▸ Update.neverRefused_order zone qname qtype ordername auth
  obtain ⟨after, hrun, hok, hworking⟩ := h.update hms
  obtain ⟨after', hrun', hreorders⟩ :=
    Tables.exists_reorders zone qname qtype ordername auth before
  obtain rfl := Except.ok.inj (hrun.symm.trans hrun')
  rw [Backend.orderRecords, run_guarded_of_true hdnssec]
  exact ⟨after, hok, hworking, hreorders⟩

/-- Updating the ordering key and the authority of a name in the signing mode, in every state that a
run can reach and in every open transaction that can write. The call succeeds, the transaction then
sees the enabled rows of the name changed and nothing else, and a commit makes this the committed
tables. After a run of operations: if a key was set for every type and the name has an enabled row,
the position up to that key is the key itself, with the name of an enabled record that carries it;
if the key was cleared for every type, no later operation leads to a position with that name unless
one of the operations in between has given an enabled row of the name a key. -/
theorem keys_updated (b : Backend) (hreachable : b.Reachable) (hdnssec : b.dnssec = true)
    (id : Int) (hwritable : b.Writable id) (zone : Int) (qname : String)
    (qtype ordername : Option String) (auth : Bool) :
    ∃ before after b', b.view? id = some before ∧
      b.AllSucceed [.orderRecords id zone qname qtype ordername auth, .commitTransaction id] ∧
      (b.afterAll [.orderRecords id zone qname qtype ordername auth]).view? id = some after ∧
      before.Reorders zone qname qtype (ordername.map Text.lowercase) auth after ∧
      b.afterAll [.orderRecords id zone qname qtype ordername auth, .commitTransaction id] = b' ∧
      b'.store.database.tables = some after ∧
      ∀ connections dnssec hasher ops, b = operated connections dnssec hasher ops →
        (∀ k, qtype = none → ordername = some k → (∃ r ∈ before.records, r.EnabledAt zone qname) →
          ∃ r ∈ after.records, ∃ owner, r.Carries zone (Text.lowercase k) ∧ r.name = some owner ∧
            ((orderBefore zone (Text.lowercase k)).run b').1 =
              .ok (some ⟨Text.lowercase k, owner⟩)) ∧
        (qtype = none → ordername = none → ∀ (later : List AnyOperation) (key : String),
          ∀ op ∈ orderingOperations zone key, ∀ e,
            (op.run.run (b'.after (later.map AnyOperation.step))).1 = .ok (some e) →
              e.name = qname →
              ∃ earlier step rest, later.map AnyOperation.step = earlier ++ step :: rest ∧
                (b'.after earlier).StepGivesKey step zone qname) := by
  obtain ⟨committed, before, hworking⟩ := hreachable.working hwritable
  obtain ⟨after, hok, hafter, hreorders⟩ :=
    hworking.orderRecords hdnssec zone qname qtype ordername auth
  obtain ⟨hcommit, hcalm, hfree, htables⟩ := hafter.commit
  refine ⟨before, after, _, hworking.view?_eq, ⟨hok, hcommit, trivial⟩, hafter.view?_eq, hreorders,
    rfl, htables, ?_⟩
  rintro connections dnssec hasher ops rfl
  -- The two operations make the run one of operations that is longer.
  have hlonger : (operated connections dnssec hasher
      (ops ++ [⟨Unit, .orderRecords id zone qname qtype ordername auth⟩,
        ⟨Unit, .commitTransaction id⟩])).store.database.tables = some after := by
    rw [operated_append]
    exact htables
  constructor
  · rintro k rfl rfl hbefore
    obtain ⟨r, hr, hat, hkey⟩ := hreorders.exists_enabledAt hbefore
    obtain ⟨row, hrow, hcarries, hfound⟩ :=
      exists_orderBefore_of_mem hcalm hfree htables (Tables.mem_orderingKeys.2
        ⟨r, hr, beq_iff_eq.2 hat.disabled, holds_some_iff.2 hat.domainId, hkey⟩)
    obtain ⟨owner, hname⟩ := (whole_of_operated hlonger row hrow).name
    exact ⟨row, hrow, owner, hcarries, hname, hfound owner hname⟩
  · rintro rfl rfl later key op hop e h rfl
    refine exists_stepGivesKey ?_ ?_
    · rintro ⟨tables, htables', r, hr, hat, hkey⟩
      obtain rfl := Option.some.inj (htables.symm.trans htables')
      exact hkey (hreorders.key_of_enabledAt hr hat)
    · obtain ⟨j, hj⟩ := ((hreachable.operation _).operation _).matches
      have hlater := (hj.after (later.map AnyOperation.step)).1
      obtain ⟨tables, htables', -⟩ := hlater.committed
      exact isKeyed_of_ordering hlater.calm htables' hop h

/-- A backend in the signing mode on which a record was fed, in a transaction that is open. -/
def signing : Backend :=
  operated 8 true none
    [⟨Unit, .startTransaction 7 0⟩,
     ⟨Unit, .feedRecord 7 (.plain 1 "www.example.org" "A" "192.0.2.1" 60) ""⟩]

/-- The record gets a key, and is found at its position. -/
theorem keys_updated_signing :
    ((orderBefore 1 "www").run (signing.afterAll
      [.orderRecords 7 1 "www.example.org" none (some "WWW") true, .commitTransaction 7])).1 =
        .ok (some ⟨"www", "www.example.org"⟩) := by
  obtain ⟨before, after, b', hbefore, -, -, hreorders, rfl, -, hoperated⟩ :=
    keys_updated signing ⟨8, true, none, _, rfl⟩ rfl 7 ⟨_, rfl, by decide, by decide⟩ 1
      "www.example.org" none (some "WWW") true
  obtain rfl := Option.some.inj (hbefore.symm.trans rfl)
  obtain ⟨r, hr, owner, -, hname, hfound⟩ :=
    (hoperated 8 true none _ rfl).1 "WWW" rfl rfl ⟨_, List.mem_cons_self, ⟨rfl, rfl, rfl⟩⟩
  obtain ⟨s, hs, hreordered, -⟩ := exists_of_mem_right hreorders.records hr
  obtain rfl := List.mem_singleton.1 hs
  have hlower : Text.lowercase "WWW" = "www" := by decide +kernel
  rw [hreordered ⟨⟨rfl, rfl, rfl⟩, by rintro t ⟨⟩⟩] at hname
  obtain rfl := Option.some.inj hname
  rwa [hlower] at hfound

/-- A backend in the signing mode on which a record was fed, and a single statement has stored one
that has an ordering key but no name. A transaction is open. -/
def nameless : Backend :=
  (on (.on .empty 8) true none).after
    [.operation (.startTransaction 7 0),
     .operation (.feedRecord 7 (.plain 1 "www.example.org" "A" "192.0.2.1" 60) ""),
     .operation (.commitTransaction 7),
     .statement (.perform "insert-record-query"
      ⟨[("domain_id", .integer 1), ("qtype", .text "A"), ("content", .text "192.0.2.2"),
        ("ttl", .integer 60), ("disabled", .integer 0), ("ordername", .text "www")]⟩),
     .operation (.startTransaction 7 0)]

theorem reachable_nameless : nameless.Reachable := ⟨8, true, none, _, rfl⟩

/-- The name has an enabled row and its key is set, but the position up to the key cannot be read:
the record without a name carries the same key. -/
theorem nameless_position :
    nameless.Reachable ∧ nameless.dnssec = true ∧ nameless.Writable 7 ∧
      (∃ before, nameless.view? 7 = some before ∧
        ∃ r ∈ before.records, r.EnabledAt 1 "www.example.org") ∧
      nameless.AllSucceed
        [.orderRecords 7 1 "www.example.org" none (some "WWW") true, .commitTransaction 7] ∧
      ((orderBefore 1 (Text.lowercase "WWW")).run (nameless.afterAll
          [.orderRecords 7 1 "www.example.org" none (some "WWW") true, .commitTransaction 7])).1 =
        .error (.database (.nullColumn 1 "name")) := by
  refine ⟨reachable_nameless, rfl, ⟨_, rfl, by decide, by decide⟩,
    ⟨_, rfl, _, List.mem_cons_self, ⟨rfl, rfl, rfl⟩⟩, ⟨rfl, rfl, trivial⟩, ?_⟩
  -- The two records carry one key, so they keep their order on the chain.
  have hchain {t : Tables}
      (h : (t.records.filter fun r => r.isEnabled && r.isIn (some 1)).filterMap
        (fun r => r.ordername.map fun key => (key, r.name)) =
          [("www", some "www.example.org"), ("www", none)]) :
      t.orderingChain (some 1) = [("www", some "www.example.org"), ("www", none)] := by
    rw [Tables.orderingChain, h]
    exact List.mergeSort_of_pairwise (by decide)
  obtain ⟨j, hj⟩ := ((reachable_nameless.operation
    (.orderRecords 7 1 "www.example.org" none (some "WWW") true)).operation
      (.commitTransaction 7)).matches
  have hlower : Text.lowercase "WWW" = "www" := by decide +kernel
  rw [hlower]
  refine (run_orderEntry_fst hj.calm (by decide) rfl _).trans ?_
  simp only [Query.orderBefore, Query.selecting]
  rw [hchain (by decide +kernel)]
  rfl

end Backend

end ZoneStore
