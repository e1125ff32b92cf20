import Mathlib.Logic.Function.Basic
import ZoneStore.Proofs.Backend.Reading

/-!
# The journal of a run

A `Journal` notes what the deeds of a run amount to: the blocks of mutations that have taken effect
on the committed tables, each committed transaction as one block at the position of its commit, and
for every open transaction the mutations that it has made so far. `Journal.Matches` is the invariant
that ties it to a backend: the committed tables are what the blocks lead to from the empty tables,
every open transaction follows its own part of the journal, with at most one writer among them
(`Isolated`), and no number is reserved for a transaction that is not open. What takes effect at
once, work in a transaction and the end of one keep the invariant.
-/

set_option autoImplicit false

namespace ZoneStore

/-- What a transaction is known by: its number, or the name under which it is held. -/
inductive Handle where
  /-- The number of a registered transaction. -/
  | numbered (id : Int)
  /-- The name of a held transaction. -/
  | named (name : String)
deriving DecidableEq, Repr

/-- The connection of an open transaction. -/
def Backend.transaction? (b : Backend) : Handle → Option Connection
  | .numbered id => b.registry.connection? id
  | .named name => b.held.find? name

/-- An updated function has a value at the updated place or at another one. -/
theorem update_eq_some_iff {α : Type} {f : Handle → Option α} {v : Option α} {h h' : Handle}
    {a : α} :
    Function.update f h v h' = some a ↔ h' = h ∧ v = some a ∨ h' ≠ h ∧ f h' = some a := by
  by_cases heq : h' = h
  · subst heq
    simp
  · simp [heq]

/-- What a step of a run sets out to do. -/
inductive Deed where
  /-- The committed tables are read. -/
  | reading
  /-- Mutations take effect on the committed tables as a whole. -/
  | atOnce (ms : List Mutation)
  /-- A transaction is opened, with its first mutations. -/
  | start (h : Handle) (ms : List Mutation)
  /-- Mutations are run in a transaction. -/
  | work (h : Handle) (ms : List Mutation)
  /-- A transaction is ended. -/
  | finish (h : Handle) (ending : Ending)

/-- The mutations that a deed carries out by itself. -/
def Deed.mutations : Deed → List Mutation
  | .reading | .finish _ _ => []
  | .atOnce ms | .start _ ms | .work _ ms => ms

/-- The mutations that a deed adds to those of a transaction. -/
def Deed.queued : Deed → List Mutation
  | .start _ ms | .work _ ms => ms
  | _ => []

theorem Deed.mem_mutations_of_queued {deed : Deed} {m : Mutation} (h : m ∈ deed.queued) :
    m ∈ deed.mutations := by
  cases deed with
  | start | work => exact h
  | reading | atOnce | finish => cases h

/-- What the deeds of a run have amounted to. -/
structure Journal where
  /-- The mutations that have taken effect, block by block. -/
  blocks : List (List Mutation)
  /-- The mutations of each open transaction. -/
  pending : Handle → Option (List Mutation)

namespace Journal

/-- The journal of a run without a step. -/
def empty : Journal := ⟨[], fun _ => none⟩

/-- Notes a deed that was done. Work in a transaction that is not open is none. -/
def note (j : Journal) : Deed → Journal
  | .reading => j
  | .atOnce ms => { j with blocks := j.blocks ++ [ms] }
  | .start h ms => { j with pending := Function.update j.pending h (some ms) }
  | .work h ms =>
    match j.pending h with
    | none => j
    | some log => { j with pending := Function.update j.pending h (some (log ++ ms)) }
  | .finish h ending =>
    match j.pending h with
    | none => j
    | some log =>
      { blocks := match ending with
          | .commit => j.blocks ++ [log]
          | .rollback => j.blocks
        pending := Function.update j.pending h none }

/-- Notes a deed if it was done; one that failed leaves no trace. -/
def record (j : Journal) (deed : Deed) (done : Bool) : Journal := if done then j.note deed else j

/-- What a deed lets take effect is a block of its own, or a transaction that it ends. -/
theorem note_blocks (j : Journal) (deed : Deed) :
    ∃ more, (j.note deed).blocks = j.blocks ++ more ∧
      ∀ ms ∈ more, deed = .atOnce ms ∨ ∃ h, j.pending h = some ms := by
  have stays : ∃ more, j.blocks = j.blocks ++ more ∧
      ∀ ms ∈ more, deed = .atOnce ms ∨ ∃ h, j.pending h = some ms :=
    ⟨[], (List.append_nil _).symm, fun ms hms => absurd hms List.not_mem_nil⟩
  cases deed with
  | reading => exact stays
  | atOnce ms => exact ⟨[ms], rfl, fun ms' hms => Or.inl (List.mem_singleton.1 hms ▸ rfl)⟩
  | start h ms => exact stays
  | work h ms =>
    simp only [note]
    cases j.pending h with
    | none => exact stays
    | some log => exact stays
  | finish h ending =>
    simp only [note]
    cases hlog : j.pending h with
    | none => exact stays
    | some log =>
      cases ending with
      | rollback => exact stays
      | commit => exact ⟨[log], rfl, fun ms hms => Or.inr ⟨h, List.mem_singleton.1 hms ▸ hlog⟩⟩

/-- What a deed leaves pending are mutations that it queues or ones that were pending before. -/
theorem mem_pending_note {j : Journal} {deed : Deed} {h : Handle} {log : List Mutation}
    (hlog : (j.note deed).pending h = some log) {m : Mutation} (hm : m ∈ log) :
    m ∈ deed.queued ∨ ∃ h' log', j.pending h' = some log' ∧ m ∈ log' := by
  have before (hbefore : j.pending h = some log) :
      ∃ h' log', j.pending h' = some log' ∧ m ∈ log' := ⟨h, log, hbefore, hm⟩
  cases deed with
  | reading => exact Or.inr (before hlog)
  | atOnce ms => exact Or.inr (before hlog)
  | start h' ms =>
    rcases update_eq_some_iff.1 hlog with ⟨-, heq⟩ | ⟨-, hlog⟩
    · obtain rfl := Option.some.inj heq
      exact Or.inl hm
    · exact Or.inr (before hlog)
  | work h' ms =>
    simp only [note] at hlog
    cases hlog' : j.pending h' with
    | none =>
      rw [hlog'] at hlog
      exact Or.inr (before hlog)
    | some log' =>
      rw [hlog'] at hlog
      rcases update_eq_some_iff.1 hlog with ⟨-, heq⟩ | ⟨-, hlog⟩
      · obtain rfl := Option.some.inj heq
        rcases List.mem_append.1 hm with hm | hm
        · exact Or.inr ⟨h', log', hlog', hm⟩
        · exact Or.inl hm
      · exact Or.inr (before hlog)
  | finish h' ending =>
    simp only [note] at hlog
    cases hlog' : j.pending h' with
    | none =>
      rw [hlog'] at hlog
      exact Or.inr (before hlog)
    | some log' =>
      rw [hlog'] at hlog
      rcases update_eq_some_iff.1 hlog with ⟨-, heq⟩ | ⟨-, hlog⟩
      · cases heq
      · exact Or.inr (before hlog)

end Journal

/-! ## Isolated transactions -/

/-- Every open transaction follows its own log, at most one of them is the writer, and the database
is locked by that one only. -/
structure Isolated (db : Database) (transactions : Handle → Option Connection)
    (pending : Handle → Option (List Mutation)) : Prop where
  follows : ∀ h c, transactions h = some c → ∃ log, pending h = some log ∧ c.Follows db log
  free : ∀ h, transactions h = none → pending h = none
  single : ∀ h h' c c', transactions h = some c → transactions h' = some c' →
    c.isWriter = true → c'.isWriter = true → h = h'
  locked : db.locked = true → ∃ h c, transactions h = some c ∧ c.isWriter = true

namespace Isolated

variable {db db' : Database} {transactions : Handle → Option Connection}
  {pending : Handle → Option (List Mutation)} {h : Handle} {c c' : Connection}
  {log log' ms : List Mutation}

theorem none (db : Database) (hlocked : db.locked = false) :
    Isolated db (fun _ => Option.none) (fun _ => Option.none) where
  follows h c hc := by cases hc
  free _ _ := rfl
  single h h' c c' hc := by cases hc
  locked hdb := by simp [hlocked] at hdb

/-- What takes effect at once does not matter to the open transactions. -/
theorem moves (hi : Isolated db transactions pending) (hdb : db.Moves db' ms) :
    Isolated db' transactions pending := by
  cases hlocked : db.locked with
  | true =>
    rw [hdb.refused hlocked]
    exact hi
  | false =>
    -- Without a lock there is no writer, and a transaction that only reads keeps its view.
    refine ⟨?_, hi.free, hi.single, ?_⟩
    · intro h c hc
      obtain ⟨log, hlog, hfollows⟩ := hi.follows h c hc
      have hwriter : c.isWriter = false := by
        by_contra hw
        have := hfollows.locked (by simpa using hw)
        simp [hlocked] at this
      exact ⟨log, hlog, hfollows.of_advances hwriter hdb.advances⟩
    · intro hl
      rw [hdb.locked, hlocked] at hl
      cases hl

/-- Work in one transaction, which may be a new one, does not matter to the others. -/
theorem work (hi : Isolated db transactions pending)
    (hdb : db.Grants db' ((transactions h).any Connection.isWriter) c'.isWriter)
    (hfollows : c'.Follows db' log') :
    Isolated db' (Function.update transactions h (some c'))
      (Function.update pending h (some log')) := by
  -- Whoever is the writer beside this transaction rules out that this one is.
  have apart (h' : Handle) (d : Connection) (hd : transactions h' = some d)
      (hwriter : d.isWriter = true) (hwriter' : c'.isWriter = true) : h' = h := by
    rcases hdb.asked hwriter' with hbefore | hfree
    · obtain ⟨c, hc, hcw⟩ := (Option.any_eq_true _ _).1 hbefore
      exact hi.single h' h d c hd hc hwriter hcw
    · obtain ⟨log, -, hlog⟩ := hi.follows h' d hd
      rw [hlog.locked hwriter] at hfree
      cases hfree
  refine ⟨?_, ?_, ?_, ?_⟩
  · intro h' d hd
    rcases update_eq_some_iff.1 hd with ⟨rfl, heq⟩ | ⟨hne, hd⟩
    · obtain rfl := Option.some.inj heq
      exact ⟨log', Function.update_self .., hfollows⟩
    · obtain ⟨log, hlog, hd⟩ := hi.follows h' d hd
      exact ⟨log, by rw [Function.update_of_ne hne, hlog], hd.of_grants hdb⟩
  · intro h' hd
    by_cases heq : h' = h
    · rw [heq, Function.update_self] at hd
      cases hd
    · rw [Function.update_of_ne heq] at hd ⊢
      exact hi.free h' hd
  · intro h' h'' d d' hd hd' hw hw'
    rcases update_eq_some_iff.1 hd with ⟨rfl, heq⟩ | ⟨-, hbefore⟩ <;>
      rcases update_eq_some_iff.1 hd' with ⟨rfl, heq'⟩ | ⟨-, hbefore'⟩
    · rfl
    · obtain rfl := Option.some.inj heq
      exact (apart h'' d' hbefore' hw' hw).symm
    · obtain rfl := Option.some.inj heq'
      exact apart h' d hbefore hw hw'
    · exact hi.single h' h'' d d' hbefore hbefore' hw hw'
  · intro hl
    rw [hdb.locked, Bool.or_eq_true] at hl
    rcases hl with hl | hl
    · obtain ⟨h', d, hd, hw⟩ := hi.locked hl
      by_cases heq : h' = h
      · subst heq
        exact ⟨h', c', Function.update_self .., hdb.keeps (by simp [hd, hw])⟩
      · exact ⟨h', d, by rw [Function.update_of_ne heq, hd], hw⟩
    · exact ⟨h, c', Function.update_self .., hl⟩

/-- The end of one transaction does not matter to the others. -/
theorem finish (hi : Isolated db transactions pending) (hc : transactions h = some c)
    (hdb : db.Releases db' c.isWriter ms) :
    Isolated db' (Function.update transactions h Option.none)
      (Function.update pending h Option.none) := by
  -- What is open afterwards was open before, under another handle.
  have others {h' : Handle} {d : Connection}
      (hd : Function.update transactions h Option.none h' = some d) :
      h' ≠ h ∧ transactions h' = some d := by
    rcases update_eq_some_iff.1 hd with ⟨-, heq⟩ | hd
    · cases heq
    · exact hd
  refine ⟨?_, ?_, ?_, ?_⟩
  · intro h' d hd
    obtain ⟨hne, hd⟩ := others hd
    obtain ⟨log, hlog, hfollows⟩ := hi.follows h' d hd
    refine ⟨log, by rw [Function.update_of_ne hne, hlog], ?_⟩
    -- Only the end of the writer changes the database, and then no other transaction is one.
    cases hwriter : c.isWriter with
    | false =>
      rw [hdb.idle hwriter]
      exact hfollows
    | true =>
      have hother : d.isWriter = false := by
        by_contra hw
        exact hne (hi.single h' h d c hd hc (by simpa using hw) hwriter)
      exact hfollows.of_advances hother hdb.advances
  · intro h' hd
    by_cases heq : h' = h
    · rw [heq, Function.update_self]
    · rw [Function.update_of_ne heq] at hd ⊢
      exact hi.free h' hd
  · intro h' h'' d d' hd hd' hw hw'
    exact hi.single h' h'' d d' (others hd).2 (others hd').2 hw hw'
  · -- A lock that stays belongs to another transaction.
    intro hl
    rw [hdb.locked, Bool.and_eq_true, Bool.not_eq_true'] at hl
    obtain ⟨h', d, hd, hw⟩ := hi.locked hl.1
    have heq : h' ≠ h := by
      rintro rfl
      obtain rfl : d = c := Option.some.inj (hd.symm.trans hc)
      simp [hl.2] at hw
    exact ⟨h', d, by rw [Function.update_of_ne heq, hd], hw⟩

end Isolated

/-! ## Journals that match a backend -/

/-- The journal accounts for the state of the backend: the committed tables are what its blocks
lead to, and the open transactions, one under every number in use, follow their own parts of it. -/
structure Journal.Matches (j : Journal) (b : Backend) : Prop where
  calm : b.store.Calm
  filled : b.registry.Filled
  isolated : Isolated b.store.database b.transaction? j.pending
  committed : ∃ tables, b.store.database.tables = some tables ∧
    Tables.empty.runAll j.blocks.flatten = .ok tables

namespace Backend

variable {b b' : Backend}

theorem transaction?_numbered {id : Int} {v : Option Connection}
    (hregistry : ∀ l, b'.registry.connection? l = if l = id then v else b.registry.connection? l)
    (hheld : b'.held = b.held) :
    b'.transaction? = Function.update b.transaction? (.numbered id) v := by
  funext h
  cases h with
  | numbered l =>
    by_cases heq : l = id <;> simp [transaction?, hregistry, heq]
  | named name => simp [transaction?, hheld]

theorem transaction?_named {name : String} {v : Option Connection}
    (hregistry : ∀ l, b'.registry.connection? l = b.registry.connection? l)
    (hheld : ∀ l, b'.held.find? l = if l = name then v else b.held.find? l) :
    b'.transaction? = Function.update b.transaction? (.named name) v := by
  funext h
  cases h with
  | numbered id => simp [transaction?, hregistry]
  | named l => by_cases heq : l = name <;> simp [transaction?, hheld, heq]

theorem transaction?_congr
    (hregistry : ∀ l, b'.registry.connection? l = b.registry.connection? l)
    (hheld : b'.held = b.held) : b'.transaction? = b.transaction? := by
  funext h
  cases h <;> simp [transaction?, hregistry, hheld]

end Backend

namespace Journal.Matches

variable {j : Journal} {b b' : Backend} {h : Handle} {c c' : Connection}
  {log log' ms : List Mutation}

/-- A backend without a transaction on empty tables matches the empty journal. -/
theorem on_empty (connections : Nat) (dnssec : Bool) (hasher : Option Hasher) :
    Journal.empty.Matches (.on (.on .empty connections) dnssec hasher) where
  calm := Store.calm_on _ _
  filled := Registry.filled_empty
  isolated := by
    have hnone : (Backend.on (.on .empty connections) dnssec hasher).transaction? =
        fun _ => none := by
      funext h
      cases h <;> rfl
    rw [hnone]
    exact Isolated.none _ rfl
  committed := ⟨.empty, rfl, rfl⟩

/-- The open transaction of a handle has its part in the journal. -/
theorem pending (hj : j.Matches b) (hc : b.transaction? h = some c) :
    ∃ log, j.pending h = some log ∧ c.Follows b.store.database log :=
  hj.isolated.follows h c hc

theorem pending_eq_none (hj : j.Matches b) (hc : b.transaction? h = none) : j.pending h = none :=
  hj.isolated.free h hc

/-- The blocks lead to the committed tables. -/
theorem runAll_blocks (hj : j.Matches b) {tables : Tables}
    (htables : b.store.database.tables = some tables) :
    Tables.empty.runAll j.blocks.flatten = .ok tables := by
  obtain ⟨committed, hcommitted, hrun⟩ := hj.committed
  obtain rfl := Option.some.inj (hcommitted.symm.trans htables)
  exact hrun

/-- Where one journal goes on from another one, its further blocks lead from the tables of the one
backend to those of the other. -/
theorem committed_append {j' : Journal} (hj : j.Matches b) (hj' : j'.Matches b')
    {more : List (List Mutation)} (hblocks : j'.blocks = j.blocks ++ more) {tables : Tables}
    (htables : b.store.database.tables = some tables) :
    ∃ tables', b'.store.database.tables = some tables' ∧
      tables.runAll more.flatten = .ok tables' := by
  obtain ⟨after, hafter, hrun'⟩ := hj'.committed
  rw [hblocks, List.flatten_append, Tables.runAll_append, hj.runAll_blocks htables] at hrun'
  exact ⟨after, hafter, hrun'⟩

/-- Mutations that take effect at once are a block of their own. -/
theorem moves (hj : j.Matches b) {s : Store} (hcalm : s.Calm)
    (hdb : b.store.database.Moves s.database ms) {blocks : List (List Mutation)}
    (hblocks : blocks.flatten = j.blocks.flatten ++ ms) :
    Journal.Matches { j with blocks := blocks } { b with store := s } where
  calm := hcalm
  filled := hj.filled
  isolated := hj.isolated.moves hdb
  committed := by
    obtain ⟨tables, htables, hrun⟩ := hj.committed
    obtain ⟨tables', htables', hms⟩ := hdb.tables tables htables
    exact ⟨tables', htables', by rw [hblocks, Tables.runAll_append_of_ok hrun hms]⟩

/-- What leaves database and transactions as they are needs no note. -/
theorem same (hj : j.Matches b) (hcalm : b'.store.Calm) (hfilled : b'.registry.Filled)
    (htransactions : b'.transaction? = b.transaction?)
    (hdb : b'.store.database = b.store.database) : j.Matches b' where
  calm := hcalm
  filled := hfilled
  isolated := by
    rw [htransactions, hdb]
    exact hj.isolated
  committed := by
    rw [hdb]
    exact hj.committed

/-- Work in a transaction, which may be a new one, makes its part of the journal longer. -/
theorem work (hj : j.Matches b) (hcalm : b'.store.Calm) (hfilled : b'.registry.Filled)
    (htransactions : b'.transaction? = Function.update b.transaction? h (some c'))
    (hdb : b.store.database.Grants b'.store.database ((b.transaction? h).any Connection.isWriter)
      c'.isWriter)
    (hfollows : c'.Follows b'.store.database log') :
    Journal.Matches { j with pending := Function.update j.pending h (some log') } b' where
  calm := hcalm
  filled := hfilled
  isolated := htransactions ▸ hj.isolated.work hdb hfollows
  committed := by
    obtain ⟨tables, htables, hrun⟩ := hj.committed
    exact ⟨tables, hdb.tables.trans htables, hrun⟩

/-- The end of a transaction moves its part of the journal to the blocks, or discards it. -/
theorem finish (hj : j.Matches b) (hc : b.transaction? h = some c) (hlog : j.pending h = some log)
    (hcalm : b'.store.Calm) (hfilled : b'.registry.Filled)
    (htransactions : b'.transaction? = Function.update b.transaction? h none) (ending : Ending)
    (hdb : b.store.database.Releases b'.store.database c.isWriter (ending.keeps log)) :
    (j.note (.finish h ending)).Matches b' := by
  obtain ⟨tables, htables, hrun⟩ := hj.committed
  obtain ⟨tables', htables', hms⟩ := hdb.tables tables htables
  simp only [Journal.note, hlog]
  refine ⟨hcalm, hfilled, htransactions ▸ hj.isolated.finish hc hdb, tables', htables', ?_⟩
  cases ending with
  | commit =>
    -- The log becomes the last block, behind everything that has taken effect so far.
    simp only [List.flatten_append, List.flatten_singleton]
    exact Tables.runAll_append_of_ok hrun hms
  | rollback =>
    obtain rfl : tables = tables' := Except.ok.inj hms
    exact hrun

end Journal.Matches

end ZoneStore
