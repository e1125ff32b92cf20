import Mathlib.Data.Finset.Card
import Mathlib.Data.Finset.Dedup
import ZoneStore.Proofs.Backend.Operations
import ZoneStore.Proofs.Text.ByteOrder
import ZoneStore.Proofs.Zone.ReadBack

/-!
# Positions on the ordering chain

The ordering keys of a zone are those that its enabled records carry (`Tables.orderingKeys`), in the
order of their bytes. An answer `Picks` a key if it is the best of the keys asked for and comes with
the name of a record that carries it. After every run of operations the four ordering queries pick
the least key, the greatest one that is not empty, the greatest one up to a given key and the least
one beyond it; and a walk from the least key, each step asking for the key beyond the one just
given, visits every key once in increasing order and then ends (`Backend.ordering_chain`).
-/

set_option autoImplicit false

namespace ZoneStore

/-! ## Ordering keys -/

/-- The record is an enabled one of the zone and carries the ordering key. -/
structure RecordRow.Carries (zone : Int) (key : String) (r : RecordRow) : Prop where
  enabled : r.isEnabled = true
  isIn : r.isIn (some zone) = true
  key : r.ordername = some key

namespace Tables

/-- The enabled records of a zone that have an ordering key. -/
def carriers (tables : Tables) (zone : Int) : List RecordRow :=
  tables.records.filter fun r => r.isEnabled && r.isIn (some zone) && r.ordername.isSome

/-- The ordering keys of the enabled records of a zone. -/
def orderingKeys (tables : Tables) (zone : Int) : Finset String :=
  ((tables.carriers zone).filterMap RecordRow.ordername).toFinset

/-- The tables that hold the carriers of a zone and nothing else. -/
def onlyCarriers (tables : Tables) (zone : Int) : Tables :=
  { Tables.empty with records := tables.carriers zone }

variable {tables : Tables} {zone : Int} {key : String}

theorem mem_orderingKeys :
    key ∈ tables.orderingKeys zone ↔ ∃ r ∈ tables.records, r.Carries zone key := by
  rw [orderingKeys, List.mem_toFinset, List.mem_filterMap]
  constructor
  · rintro ⟨r, hr, hkey⟩
    obtain ⟨hr, hcarries⟩ := List.mem_filter.1 hr
    simp only [Bool.and_eq_true] at hcarries
    exact ⟨r, hr, hcarries.1.1, hcarries.1.2, hkey⟩
  · rintro ⟨r, hr, hcarries⟩
    refine ⟨r, List.mem_filter.2 ⟨hr, ?_⟩, hcarries.key⟩
    simp [hcarries.enabled, hcarries.isIn, hcarries.key]

/-- The chain holds the ordering keys with the names of the records that carry them. -/
theorem mem_orderingChain {p : String × Option String} :
    p ∈ tables.orderingChain (some zone) ↔
      ∃ r ∈ tables.records, r.Carries zone p.1 ∧ r.name = p.2 := by
  rw [orderingChain, List.mem_mergeSort, List.mem_filterMap]
  constructor
  · rintro ⟨r, hr, hp⟩
    obtain ⟨hr, hcarries⟩ := List.mem_filter.1 hr
    simp only [Bool.and_eq_true] at hcarries
    obtain ⟨key, hkey, rfl⟩ := Option.map_eq_some_iff.1 hp
    exact ⟨r, hr, ⟨hcarries.1, hcarries.2, hkey⟩, rfl⟩
  · rintro ⟨r, hr, hcarries, hname⟩
    refine ⟨r, List.mem_filter.2 ⟨hr, ?_⟩, ?_⟩
    · simp [hcarries.enabled, hcarries.isIn]
    · rw [hcarries.key, hname]
      rfl

theorem mem_orderingKeys_iff_exists_chain : key ∈ tables.orderingKeys zone ↔
    ∃ p ∈ tables.orderingChain (some zone), p.1 = key := by
  rw [mem_orderingKeys]
  constructor
  · rintro ⟨r, hr, hcarries⟩
    exact ⟨(key, r.name), mem_orderingChain.2 ⟨r, hr, hcarries, rfl⟩, rfl⟩
  · rintro ⟨p, hp, rfl⟩
    obtain ⟨r, hr, hcarries, -⟩ := mem_orderingChain.1 hp
    exact ⟨r, hr, hcarries⟩

theorem isLE_compare_iff {a b : String} : (compare a b).isLE = true ↔ a ≤ b :=
  Std.LawfulBCmp.isLE_iff_le

theorem isGT_compare_iff {a b : String} : (compare a b).isGT = true ↔ b < a := by
  rw [← not_le, ← isLE_compare_iff]
  cases compare a b <;> simp

/-- The chain is in the order of its keys. -/
theorem pairwise_orderingChain (tables : Tables) (zone : Option Int) :
    (tables.orderingChain zone).Pairwise fun p q => p.1 ≤ q.1 := by
  refine List.Pairwise.imp isLE_compare_iff.1 (List.pairwise_mergeSort ?_ ?_ _)
  · intro p q r hpq hqr
    exact isLE_compare_iff.2 (le_trans (isLE_compare_iff.1 hpq) (isLE_compare_iff.1 hqr))
  · intro p q
    rw [Bool.or_eq_true, isLE_compare_iff, isLE_compare_iff]
    exact le_total p.1 q.1

/-- Only the carriers of a zone are on its chain. -/
theorem orderingChain_onlyCarriers (tables : Tables) (zone : Int) :
    (tables.onlyCarriers zone).orderingChain (some zone) = tables.orderingChain (some zone) := by
  have hfilter (rows : List RecordRow) :
      ((rows.filter fun r => r.isEnabled && r.isIn (some zone) && r.ordername.isSome).filter
        fun r => r.isEnabled && r.isIn (some zone)).filterMap
          (fun r => r.ordername.map fun key => (key, r.name)) =
      (rows.filter fun r => r.isEnabled && r.isIn (some zone)).filterMap
        fun r => r.ordername.map fun key => (key, r.name) := by
    induction rows with
    | nil => rfl
    | cons r rest ih =>
      cases hin : r.isEnabled && r.isIn (some zone) with
      | false => simpa [hin] using ih
      | true =>
        -- A record without a key is left out by either list.
        cases hkey : r.ordername with
        | none => simpa [hin, hkey] using ih
        | some key => simpa [hin, hkey] using ih
  rw [orderingChain, orderingChain, onlyCarriers, carriers, hfilter]

end Tables

/-! ## The first and the last row of a kind -/

section Rows

variable {α : Type} {R : α → α → Prop} {p : α → Bool} {rows : List α} {x : α}

/-- The first row of a kind is in order with every other one of the kind. -/
theorem head?_filter_of_pairwise (h : rows.Pairwise R) (hrefl : ∀ x, R x x)
    (hx : (rows.filter p).head? = some x) :
    x ∈ rows ∧ p x = true ∧ ∀ y ∈ rows, p y = true → R x y := by
  obtain ⟨rest, hrest⟩ := List.head?_eq_some_iff.1 hx
  have hsorted : (x :: rest).Pairwise R := hrest ▸ h.sublist List.filter_sublist
  have hmem : x ∈ rows.filter p := by
    rw [hrest]
    exact List.mem_cons_self
  refine ⟨(List.mem_filter.1 hmem).1, (List.mem_filter.1 hmem).2, ?_⟩
  intro y hy hpy
  have hy' : y ∈ x :: rest := hrest ▸ List.mem_filter.2 ⟨hy, hpy⟩
  rcases List.mem_cons.1 hy' with rfl | hy'
  · exact hrefl y
  · exact (List.pairwise_cons.1 hsorted).1 y hy'

/-- Every other row of a kind is in order with the last one. -/
theorem getLast?_filter_of_pairwise (h : rows.Pairwise R) (hrefl : ∀ x, R x x)
    (hx : (rows.filter p).getLast? = some x) :
    x ∈ rows ∧ p x = true ∧ ∀ y ∈ rows, p y = true → R y x := by
  obtain ⟨init, hinit⟩ := List.getLast?_eq_some_iff.1 hx
  have hsorted : (init ++ [x]).Pairwise R := hinit ▸ h.sublist List.filter_sublist
  have hmem : x ∈ rows.filter p := by
    rw [hinit]
    exact List.mem_append_right _ (List.mem_singleton_self x)
  refine ⟨(List.mem_filter.1 hmem).1, (List.mem_filter.1 hmem).2, ?_⟩
  intro y hy hpy
  have hy' : y ∈ init ++ [x] := hinit ▸ List.mem_filter.2 ⟨hy, hpy⟩
  rcases List.mem_append.1 hy' with hy' | hy'
  · exact (List.pairwise_append.1 hsorted).2.2 y hy' x (List.mem_singleton_self x)
  · obtain rfl := List.mem_singleton.1 hy'
    exact hrefl y

end Rows

/-! ## Answers -/

/-- The answer is the best one of the ordering keys asked for, with the name of an enabled record of
the zone that carries it; where no key is asked for it is none. -/
inductive Tables.Picks (tables : Tables) (zone : Int) (asked : String → Prop)
    (better : String → String → Prop) : Option OrderEntry → Prop where
  /-- A key is given. -/
  | key {e : OrderEntry} (hasked : asked e.ordername)
      (hbest : ∀ key ∈ tables.orderingKeys zone, asked key → better e.ordername key)
      (hcarrier : ∃ r ∈ tables.records, r.Carries zone e.ordername ∧ r.name = some e.name) :
      Picks tables zone asked better (some e)
  /-- There is no key to give. -/
  | none (h : ∀ key ∈ tables.orderingKeys zone, ¬ asked key) : Picks tables zone asked better none

/-- The order of keys by their bytes. -/
def KeyLE (a b : String) : Prop := Text.bytes a ≤ Text.bytes b

/-- The strict order of keys by their bytes. -/
def KeyLT (a b : String) : Prop := Text.bytes a < Text.bytes b

theorem keyLE_iff {a b : String} : KeyLE a b ↔ a ≤ b := Text.bytes_le_bytes_iff

theorem keyLT_iff {a b : String} : KeyLT a b ↔ a < b := Text.bytes_lt_bytes_iff

/-- A position of the chain as it is answered. -/
def OrderEntry.ofPosition (p : String × Option String) : OrderEntry := ⟨p.1, p.2.getD ""⟩

/-- A position of the chain that is best among those asked for is the answer. -/
theorem Tables.picks_of_position {tables : Tables} {zone : Int} {asked : String → Prop}
    {better : String → String → Prop} {position : Option (String × Option String)}
    (hwhole : ∀ r ∈ tables.records, r.Whole)
    (hsome : ∀ p, position = some p → p ∈ tables.orderingChain (some zone) ∧ asked p.1 ∧
      ∀ q ∈ tables.orderingChain (some zone), asked q.1 → better p.1 q.1)
    (hnone : position = none → ∀ q ∈ tables.orderingChain (some zone), ¬ asked q.1) :
    tables.Picks zone asked better (position.map OrderEntry.ofPosition) := by
  cases position with
  | none =>
    refine .none fun key hkey => ?_
    obtain ⟨q, hq, rfl⟩ := mem_orderingKeys_iff_exists_chain.1 hkey
    exact hnone rfl q hq
  | some p =>
    obtain ⟨hp, hasked, hbest⟩ := hsome p rfl
    refine .key hasked ?_ ?_
    · intro key hkey haskedkey
      obtain ⟨q, hq, rfl⟩ := mem_orderingKeys_iff_exists_chain.1 hkey
      exact hbest q hq haskedkey
    · obtain ⟨r, hr, hcarries, hname⟩ := mem_orderingChain.1 hp
      obtain ⟨name, hrow⟩ := (hwhole r hr).name
      refine ⟨r, hr, hcarries, ?_⟩
      rw [OrderEntry.ofPosition, ← hname, hrow]
      rfl

namespace Backend

variable {α β : Type} {tables : Tables} {zone : Int}

/-- On every backend that knows every statement, has the given committed tables and a free
connection, the action gives the answer. -/
def Answers (tables : Tables) (x : BackendM α) (a : α) : Prop :=
  ∀ b : Backend, b.store.Calm → b.HasFree → b.store.database.tables = some tables →
    (x.run b).1 = .ok a

/-- An action that only reads leaves the tables to the one after it. -/
theorem Answers.bind {x : BackendM α} {f : α → BackendM β} {a : α} {c : β}
    (hx : Answers tables x a) (hreads : OnlyReads x) (hf : Answers tables (f a) c) :
    Answers tables (x >>= f) c := by
  intro b hb hfree htables
  obtain ⟨-, hcalm, hsame⟩ := hreads b tables hb htables
  have hanswer := hx b hb hfree htables
  rw [Action.run_bind]
  rcases hrun : x.run b with ⟨outcome, b'⟩
  rw [hrun] at hanswer hcalm hsame
  obtain rfl : outcome = .ok a := hanswer
  exact hf b' hcalm (hsame.hasFree_iff.2 hfree)
    ((congrArg Database.tables hsame.database).trans htables)

theorem answers_pure (a : α) : Answers tables (pure a) a := fun _ _ _ _ => rfl

/-- A query answers the rows that it selects. -/
theorem answers_fetch {ρ : Type} {q : Query ρ} {rows : List ρ} (hq : q.rows tables = .ok rows) :
    Answers tables (fetch q) rows := by
  intro b hb hfree htables
  obtain ⟨b', hrun⟩ := run_fetch_fst hb hfree htables q
  rw [hrun, hq]
  rfl

/-- What is made of the rows of a query. -/
theorem answers_fetch_map {ρ : Type} {q : Query ρ} {rows : List ρ} (hq : q.rows tables = .ok rows)
    (f : List ρ → α) : Answers tables (do return f (← fetch q)) (f rows) :=
  (answers_fetch hq).bind (onlyReads_fetch q) (answers_pure _)

/-- An ordering query reads the rows that it selects, and gives the first. -/
theorem run_orderEntry_fst {b : Backend} (hb : b.store.Calm) (hfree : b.HasFree)
    (htables : b.store.database.tables = some tables) (q : Query (String × Option String)) :
    ((orderEntry q).run b).1 =
      ((q.rows tables >>= fun rows => rows.mapM OrderEntry.ofColumns).mapError .database).map
        List.head? :=
  run_readRows_fst hb hfree htables q OrderEntry.ofColumns List.head?

/-- An ordering query answers the position that it selects, if that has a name. -/
theorem answers_orderEntry {q : Query (String × Option String)}
    {position : Option (String × Option String)} (hq : q.rows tables = .ok position.toList)
    (hname : ∀ p, position = some p → ∃ name, p.2 = some name) :
    Answers tables (orderEntry q) (position.map OrderEntry.ofPosition) := by
  intro b hb hfree htables
  rw [run_orderEntry_fst hb hfree htables, hq]
  cases position with
  | none => rfl
  | some p =>
    obtain ⟨key, column⟩ := p
    obtain ⟨name, rfl⟩ := hname (key, column) rfl
    rfl

/-- A position of the chain has a name where every record has one. -/
theorem exists_name_of_mem_chain (hwhole : ∀ r ∈ tables.records, r.Whole)
    {p : String × Option String} (hp : p ∈ tables.orderingChain (some zone)) :
    ∃ name, p.2 = some name := by
  obtain ⟨r, hr, -, hname⟩ := Tables.mem_orderingChain.1 hp
  rw [← hname]
  exact (hwhole r hr).name

/-- The first position of a kind has the least key of the kind. -/
theorem exists_answer_head (hwhole : ∀ r ∈ tables.records, r.Whole)
    {q : Query (String × Option String)} {asked : String → Prop}
    {p : String × Option String → Bool} (hp : ∀ x, p x = true ↔ asked x.1)
    (hq : q.rows tables = .ok ((tables.orderingChain (some zone)).filter p).head?.toList) :
    ∃ answer, Answers tables (orderEntry q) answer ∧ tables.Picks zone asked KeyLE answer := by
  have hsorted := tables.pairwise_orderingChain (some zone)
  have hhead {x} := head?_filter_of_pairwise (x := x) (p := p) hsorted fun x => le_refl x.1
  refine ⟨_, answers_orderEntry hq ?_, Tables.picks_of_position hwhole ?_ ?_⟩
  · intro x hx
    exact exists_name_of_mem_chain hwhole (hhead hx).1
  · intro x hx
    obtain ⟨hmem, hpx, hleast⟩ := hhead hx
    refine ⟨hmem, (hp x).1 hpx, ?_⟩
    intro y hy hasked
    exact keyLE_iff.2 (hleast y hy ((hp y).2 hasked))
  · intro hnone y hy hasked
    rw [List.head?_eq_none_iff, List.filter_eq_nil_iff] at hnone
    exact hnone y hy ((hp y).2 hasked)

/-- The last position of a kind has the greatest key of the kind. -/
theorem exists_answer_last (hwhole : ∀ r ∈ tables.records, r.Whole)
    {q : Query (String × Option String)} {asked : String → Prop}
    {p : String × Option String → Bool} (hp : ∀ x, p x = true ↔ asked x.1)
    (hq : q.rows tables = .ok ((tables.orderingChain (some zone)).filter p).getLast?.toList) :
    ∃ answer, Answers tables (orderEntry q) answer ∧
      tables.Picks zone asked (fun a b => KeyLE b a) answer := by
  have hsorted := tables.pairwise_orderingChain (some zone)
  have hlast {x} := getLast?_filter_of_pairwise (x := x) (p := p) hsorted fun x => le_refl x.1
  refine ⟨_, answers_orderEntry hq ?_, Tables.picks_of_position hwhole ?_ ?_⟩
  · intro x hx
    exact exists_name_of_mem_chain hwhole (hlast hx).1
  · intro x hx
    obtain ⟨hmem, hpx, hgreatest⟩ := hlast hx
    refine ⟨hmem, (hp x).1 hpx, ?_⟩
    intro y hy hasked
    exact keyLE_iff.2 (hgreatest y hy ((hp y).2 hasked))
  · intro hnone y hy hasked
    rw [List.getLast?_eq_none_iff, List.filter_eq_nil_iff] at hnone
    exact hnone y hy ((hp y).2 hasked)

theorem exists_answer_orderFirst (hwhole : ∀ r ∈ tables.records, r.Whole) (zone : Int) :
    ∃ answer, Answers tables (orderFirst zone) answer ∧
      tables.Picks zone (fun _ => True) KeyLE answer := by
  refine exists_answer_head hwhole (p := fun _ => true) (fun _ => by simp) ?_
  rw [List.filter_true]
  rfl

theorem exists_answer_orderAfter (hwhole : ∀ r ∈ tables.records, r.Whole) (zone : Int)
    (key : String) :
    ∃ answer, Answers tables (orderAfter zone key) answer ∧
      tables.Picks zone (fun k => KeyLT key k) KeyLE answer := by
  refine exists_answer_head hwhole (fun x => ?_) rfl
  rw [keyLT_iff]
  exact Tables.isGT_compare_iff

theorem exists_answer_orderBefore (hwhole : ∀ r ∈ tables.records, r.Whole) (zone : Int)
    (key : String) :
    ∃ answer, Answers tables (orderBefore zone key) answer ∧
      tables.Picks zone (fun k => KeyLE k key) (fun a b => KeyLE b a) answer := by
  refine exists_answer_last hwhole (fun x => ?_) rfl
  rw [keyLE_iff]
  exact Tables.isLE_compare_iff

theorem exists_answer_orderLast (hwhole : ∀ r ∈ tables.records, r.Whole) (zone : Int) :
    ∃ answer, Answers tables (orderLast zone) answer ∧
      tables.Picks zone (fun k => k ≠ "") (fun a b => KeyLE b a) answer := by
  refine exists_answer_last hwhole (fun x => ?_) rfl
  exact bne_iff_ne

/-! ## Walking along the chain -/

/-- The position behind the given key, or the first one. -/
def orderNext (zone : Int) : Option String → BackendM (Option OrderEntry)
  | none => orderFirst zone
  | some key => orderAfter zone key

/-- The answers of a walk along the chain, which starts behind the given key or with the first
position. Each question asks for the position behind the one just given. The walk ends with the
first answer that gives none, or after so many questions. -/
def walk (zone : Int) : Nat → Option String → BackendM (List (Option OrderEntry))
  | 0, _ => return []
  | questions + 1, key => do
    match ← orderNext zone key with
    | none => return [none]
    | some e => return some e :: (← walk zone questions (some e.ordername))

/-- The key is behind the given one, if one is given. -/
def IsBehind (start : Option String) (key : String) : Prop := ∀ k, start = some k → k < key

instance (start : Option String) : DecidablePred (IsBehind start) :=
  match start with
  | none => fun _ => .isTrue fun _ h => nomatch h
  | some k => fun key => decidable_of_iff (k < key)
      ⟨fun h _ heq => Option.some.inj heq ▸ h, fun h => h k rfl⟩

theorem isBehind_some {k key : String} : IsBehind (some k) key ↔ k < key := by
  constructor
  · intro h
    exact h k rfl
  · rintro h k' heq
    exact Option.some.inj heq ▸ h

theorem onlyReads_orderNext (zone : Int) (start : Option String) :
    OnlyReads (orderNext zone start) := by
  cases start with
  | none => exact onlyReads_orderEntry _
  | some key => exact onlyReads_orderEntry _

theorem exists_answer_orderNext (hwhole : ∀ r ∈ tables.records, r.Whole) (zone : Int)
    (start : Option String) :
    ∃ answer, Answers tables (orderNext zone start) answer ∧
      tables.Picks zone (IsBehind start) KeyLE answer := by
  cases start with
  | none =>
    have hasked : (fun _ => True) = IsBehind none := by
      funext key
      exact propext ⟨fun _ _ h => (nomatch h), fun _ => trivial⟩
    exact hasked ▸ exists_answer_orderFirst hwhole zone
  | some key =>
    have hasked : (fun k => KeyLT key k) = IsBehind (some key) := by
      funext k
      exact propext (keyLT_iff.trans isBehind_some.symm)
    exact hasked ▸ exists_answer_orderAfter hwhole zone key

/-- A walk gives each key behind its start once, in increasing order, and then ends. -/
theorem exists_walk (hwhole : ∀ r ∈ tables.records, r.Whole) (zone : Int) (start : Option String) :
    ∃ entries : List OrderEntry,
      (entries.map OrderEntry.ordername).Pairwise (· < ·) ∧
      (∀ key, key ∈ entries.map OrderEntry.ordername ↔
        key ∈ tables.orderingKeys zone ∧ IsBehind start key) ∧
      (∀ e ∈ entries, ∃ r ∈ tables.records, r.Carries zone e.ordername ∧ r.name = some e.name) ∧
      ∀ questions, Answers tables (walk zone questions start)
        ((entries.map some ++ [none]).take questions) := by
  -- Each answer leaves fewer keys behind it.
  induction hn : ((tables.orderingKeys zone).filter (IsBehind start)).card using
    Nat.strong_induction_on generalizing start with
  | _ n ih =>
    obtain ⟨answer, hanswer, hpicks⟩ := exists_answer_orderNext hwhole zone start
    cases hpicks with
    | none hnone =>
      refine ⟨[], List.Pairwise.nil, ?_, ?_, ?_⟩
      · intro key
        refine ⟨fun h => absurd h List.not_mem_nil, ?_⟩
        rintro ⟨hkey, hbehind⟩
        exact absurd hbehind (hnone key hkey)
      · intro e he
        exact absurd he List.not_mem_nil
      · intro questions
        cases questions with
        | zero => exact answers_pure _
        | succ questions =>
          have hend : (List.map some [] ++ [none]).take (questions + 1) =
              [(none : Option OrderEntry)] := by
            simp
          rw [hend]
          exact hanswer.bind (onlyReads_orderNext zone start) (answers_pure _)
    | @key e hasked hbest hcarrier =>
      have hmem : e.ordername ∈ tables.orderingKeys zone := by
        obtain ⟨r, hr, hcarries, -⟩ := hcarrier
        exact Tables.mem_orderingKeys.2 ⟨r, hr, hcarries⟩
      have hbeyond {key : String} (h : e.ordername < key) : IsBehind start key :=
        fun k hk => lt_trans (hasked k hk) h
      have hfewer : ((tables.orderingKeys zone).filter (IsBehind (some e.ordername))).card < n := by
        rw [← hn]
        refine Finset.card_lt_card ((Finset.ssubset_iff_of_subset ?_).2 ?_)
        · intro key hkey
          obtain ⟨hkey, hbehind⟩ := Finset.mem_filter.1 hkey
          exact Finset.mem_filter.2 ⟨hkey, hbeyond (isBehind_some.1 hbehind)⟩
        · refine ⟨e.ordername, Finset.mem_filter.2 ⟨hmem, hasked⟩, ?_⟩
          intro h
          exact lt_irrefl _ (isBehind_some.1 (Finset.mem_filter.1 h).2)
      obtain ⟨entries, hsorted, hkeys, hcarriers, hwalk⟩ := ih _ hfewer (some e.ordername) rfl
      refine ⟨e :: entries, ?_, ?_, ?_, ?_⟩
      · rw [List.map_cons, List.pairwise_cons]
        exact ⟨fun key hkey => isBehind_some.1 ((hkeys key).1 hkey).2, hsorted⟩
      · intro key
        rw [List.map_cons, List.mem_cons, hkeys, isBehind_some]
        constructor
        · rintro (rfl | ⟨hkey, hlt⟩)
          · exact ⟨hmem, hasked⟩
          · exact ⟨hkey, hbeyond hlt⟩
        · rintro ⟨hkey, hbehind⟩
          -- The answer is the least key behind the start, so any other one is behind it.
          rcases eq_or_lt_of_le (keyLE_iff.1 (hbest key hkey hbehind)) with heq | hlt
          · exact Or.inl heq.symm
          · exact Or.inr ⟨hkey, hlt⟩
      · intro e' he'
        rcases List.mem_cons.1 he' with rfl | he'
        · exact hcarrier
        · exact hcarriers e' he'
      · intro questions
        cases questions with
        | zero => exact answers_pure _
        | succ questions =>
          refine hanswer.bind (onlyReads_orderNext zone start) ?_
          intro b hb hfree htables
          have hrest := hwalk questions b hb hfree htables
          simp only [Action.run_bind]
          rcases hrun : (walk zone questions (some e.ordername)).run b with ⟨outcome, b'⟩
          rw [hrun] at hrest
          obtain rfl : outcome = _ := hrest
          rfl

/-- Between the answers for the keys up to a given one and for those beyond it there is no key. -/
theorem not_between {before after : Option OrderEntry} {key : String}
    (hbefore : tables.Picks zone (fun k => KeyLE k key) (fun a b => KeyLE b a) before)
    (hafter : tables.Picks zone (fun k => KeyLT key k) KeyLE after) :
    ∀ e ∈ before, ∀ e' ∈ after, ∀ k ∈ tables.orderingKeys zone,
      ¬ (KeyLT e.ordername k ∧ KeyLT k e'.ordername) := by
  rintro e rfl e' rfl k hk ⟨hlt, hlt'⟩
  cases hbefore with
  | key _ hgreatest =>
    cases hafter with
    | key _ hleast =>
      rw [keyLT_iff] at hlt hlt'
      rcases le_or_gt k key with hle | hgt
      · have h := keyLE_iff.1 (hgreatest k hk (keyLE_iff.2 hle))
        exact absurd hlt (not_lt.2 h)
      · have h := keyLE_iff.1 (hleast k hk (keyLT_iff.2 hgt))
        exact absurd hlt' (not_lt.2 h)

/-- The ordering operations on a zone. -/
def orderingOperations (zone : Int) (key : String) : List (Operation (Option OrderEntry)) :=
  [.orderFirst zone, .orderLast zone, .orderBefore zone key, .orderAfter zone key]

/-- An ordering query is answered by the rows that it selects. -/
theorem run_orderEntry_congr {b b' : Backend} {tables' : Tables}
    {q : Query (String × Option String)} (hb : b.store.Calm) (hb' : b'.store.Calm)
    (hfree : b.HasFree) (hfree' : b'.HasFree) (htables : b.store.database.tables = some tables)
    (htables' : b'.store.database.tables = some tables') (hq : q.rows tables = q.rows tables') :
    ((orderEntry q).run b).1 = ((orderEntry q).run b').1 := by
  rw [run_orderEntry_fst hb hfree htables, run_orderEntry_fst hb' hfree' htables', hq]

/-- The ordering operations on a zone are answered by the enabled records of the zone that have an
ordering key. -/
theorem run_ordering_onlyCarriers {b : Backend} (hb : b.store.Calm) (hfree : b.HasFree)
    (htables : b.store.database.tables = some tables) (zone : Int) (key : String) :
    ∀ op ∈ orderingOperations zone key,
      (op.run.run b).1 = (op.run.run (holding (tables.onlyCarriers zone) b.dnssec b.hasher)).1 := by
  have hchain := tables.orderingChain_onlyCarriers zone
  have congr {q : Query (String × Option String)}
      (hq : q.rows tables = q.rows (tables.onlyCarriers zone)) :
      ((orderEntry q).run b).1 =
        ((orderEntry q).run (holding (tables.onlyCarriers zone) b.dnssec b.hasher)).1 :=
    run_orderEntry_congr hb (Store.calm_on _ _) hfree (hasFree_holding _ _ _) htables rfl hq
  intro op hop
  simp only [orderingOperations, List.mem_cons, List.not_mem_nil, or_false] at hop
  rcases hop with rfl | rfl | rfl | rfl
  · exact congr (by simp only [Query.orderFirst, Query.selecting, hchain])
  · exact congr (by simp only [Query.orderLast, Query.selecting, hchain])
  · exact congr (by simp only [Query.orderBefore, Query.selecting, hchain])
  · exact congr (by simp only [Query.orderAfter, Query.selecting, hchain])

/-! ## The theorem -/

/-- After every run of operations that leaves a connection free, and for every zone, each ordering
query gives the position that it asks for: the least key, the greatest key but the empty one, the
greatest key up to a given one and the least key beyond it, with no key in between; always with the
name of an enabled record of the zone that carries the key. A walk gives each key once in increasing
order, and ends after as many positions as there are keys. No other record matters to an answer. -/
theorem ordering_chain (connections : Nat) (dnssec : Bool) (hasher : Option Hasher)
    (ops : List AnyOperation) (hfree : (operated connections dnssec hasher ops).HasFree)
    (zone : Int) :
    ∃ tables, (operated connections dnssec hasher ops).store.database.tables = some tables ∧
      (∃ first, ((orderFirst zone).run (operated connections dnssec hasher ops)).1 = .ok first ∧
        tables.Picks zone (fun _ => True) KeyLE first) ∧
      (∃ last, ((orderLast zone).run (operated connections dnssec hasher ops)).1 = .ok last ∧
        tables.Picks zone (fun k => k ≠ "") (fun a b => KeyLE b a) last) ∧
      (∀ key, ∃ before after,
        ((orderBefore zone key).run (operated connections dnssec hasher ops)).1 = .ok before ∧
        ((orderAfter zone key).run (operated connections dnssec hasher ops)).1 = .ok after ∧
        tables.Picks zone (fun k => KeyLE k key) (fun a b => KeyLE b a) before ∧
        tables.Picks zone (fun k => KeyLT key k) KeyLE after ∧
        ∀ e ∈ before, ∀ e' ∈ after, ∀ k ∈ tables.orderingKeys zone,
          ¬ (KeyLT e.ordername k ∧ KeyLT k e'.ordername)) ∧
      (∃ entries : List OrderEntry,
        (entries.map OrderEntry.ordername).Pairwise KeyLT ∧
        (∀ key, key ∈ entries.map OrderEntry.ordername ↔ key ∈ tables.orderingKeys zone) ∧
        entries.length = (tables.orderingKeys zone).card ∧
        (∀ e ∈ entries, ∃ r ∈ tables.records, r.Carries zone e.ordername ∧ r.name = some e.name) ∧
        ∀ questions, ((walk zone questions none).run (operated connections dnssec hasher ops)).1 =
          .ok ((entries.map some ++ [none]).take questions)) ∧
      ∀ key, ∀ op ∈ orderingOperations zone key,
        (op.run.run (operated connections dnssec hasher ops)).1 =
          (op.run.run (holding (tables.onlyCarriers zone) dnssec hasher)).1 := by
  obtain ⟨tables, htables, hwhole⟩ := records_whole connections dnssec hasher ops
  obtain ⟨hmatches, hmode⟩ := (Journal.Matches.on_empty connections dnssec hasher).after
    (ops.map AnyOperation.step)
  have hcalm : (operated connections dnssec hasher ops).store.Calm := hmatches.calm
  refine ⟨tables, htables, ?_, ?_, ?_, ?_, ?_⟩
  · obtain ⟨first, hfirst, hpicks⟩ := exists_answer_orderFirst hwhole zone
    exact ⟨first, hfirst _ hcalm hfree htables, hpicks⟩
  · obtain ⟨last, hlast, hpicks⟩ := exists_answer_orderLast hwhole zone
    exact ⟨last, hlast _ hcalm hfree htables, hpicks⟩
  · intro key
    obtain ⟨before, hbefore, hpicks⟩ := exists_answer_orderBefore hwhole zone key
    obtain ⟨after, hafter, hpicks'⟩ := exists_answer_orderAfter hwhole zone key
    exact ⟨before, after, hbefore _ hcalm hfree htables, hafter _ hcalm hfree htables, hpicks, hpicks',
      not_between hpicks hpicks'⟩
  · obtain ⟨entries, hsorted, hkeys, hcarriers, hwalk⟩ := exists_walk hwhole zone none
    have hall (key : String) : key ∈ entries.map OrderEntry.ordername ↔
        key ∈ tables.orderingKeys zone := by
      rw [hkeys]
      exact and_iff_left fun k hk => (nomatch hk)
    refine ⟨entries, hsorted.imp keyLT_iff.2, hall, ?_, hcarriers, ?_⟩
    · -- No key is given twice, so there are as many positions as keys.
      have hnodup : (entries.map OrderEntry.ordername).Nodup := hsorted.imp ne_of_lt
      have hset : (entries.map OrderEntry.ordername).toFinset = tables.orderingKeys zone := by
        ext key
        rw [List.mem_toFinset, hall]
      rw [← hset, List.toFinset_card_of_nodup hnodup, List.length_map]
    · intro questions
      exact hwalk questions _ hcalm hfree htables
  · intro key op hop
    have hanswer := run_ordering_onlyCarriers hcalm hfree htables zone key op hop
    -- The mode of operation is still the one that the run began with.
    rw [show (operated connections dnssec hasher ops).dnssec = dnssec from hmode.dnssec,
      show (operated connections dnssec hasher ops).hasher = hasher from hmode.hasher] at hanswer
    exact hanswer

/-- Two records with ordering keys, fed in one transaction. -/
def orderedOnce : List AnyOperation :=
  [⟨_, .startTransaction 1 0⟩,
   ⟨_, .feedRecord 1 (.plain 1 "example.org" "A" "192.0.2.1" 60) "b"⟩,
   ⟨_, .feedRecord 1 (.plain 1 "www.example.org" "A" "192.0.2.2" 60) "a"⟩,
   ⟨_, .commitTransaction 1⟩]

/-- The only connection is free again once the transaction has ended, and the least key is found. -/
theorem ordering_chain_orderedOnce :
    (operated 1 true none orderedOnce).HasFree ∧
    ∃ tables first, (operated 1 true none orderedOnce).store.database.tables = some tables ∧
      ((orderFirst 1).run (operated 1 true none orderedOnce)).1 = .ok first ∧
      tables.Picks 1 (fun _ => True) KeyLE first := by
  have hfree : (operated 1 true none orderedOnce).HasFree := by decide
  obtain ⟨tables, htables, ⟨first, hfirst, hpicks⟩, -⟩ :=
    ordering_chain 1 true none orderedOnce hfree 1
  exact ⟨hfree, tables, first, htables, hfirst, hpicks⟩

end Backend

end ZoneStore
