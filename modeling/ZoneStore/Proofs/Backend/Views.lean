import ZoneStore.Proofs.Backend.Serial

/-!
# Views of numbered transactions

What a numbered transaction sees (`Backend.view?`) is what its log leads to from the committed
tables, once its mutations get to the tables at all (`Backend.Writable`). `Backend.Logging` keeps
the log of such a transaction, and `Backend.Working` what it sees: mutations that no tables refuse
succeed and change the view as they would change committed tables, while the committed tables stay
(`Working.update`), and a commit makes the view the committed tables (`Working.commit`).
-/

set_option autoImplicit false

namespace ZoneStore

/-- A transaction that can write sees what its log leads to from the tables committed now. -/
theorem Connection.Follows.exists_view {c : Connection} {db : Database} {log : List Mutation}
    (h : c.Follows db log) (hcan : c.CanWrite db) :
    ∃ committed view, db.tables = some committed ∧ committed.runAll log = .ok view ∧
      c.view? db = some view := by
  obtain ⟨hview, hmay⟩ := hcan
  unfold Connection.Follows at h
  unfold Connection.view? at hview ⊢
  unfold Connection.mayWrite at hmay
  cases hmode : c.mode with
  | autocommit => simp [hmode] at h
  | begun =>
    simp only [hmode] at h hview ⊢
    obtain ⟨committed, hcommitted⟩ := Option.isSome_iff_exists.1 hview
    subst h
    exact ⟨committed, committed, hcommitted, rfl, hcommitted⟩
  | reading view version =>
    -- A reader may only write while its view is of the current version.
    simp only [hmode, Bool.and_eq_true, beq_iff_eq] at h hmay ⊢
    obtain ⟨rfl, -, hcurrent⟩ := h
    exact ⟨view, view, hcurrent hmay.2, rfl, rfl⟩
  | writing view altered =>
    simp only [hmode] at h ⊢
    obtain ⟨-, committed, hcommitted, hrun, -⟩ := h
    exact ⟨committed, view, hcommitted, hrun, rfl⟩

namespace Backend

/-- What a numbered transaction sees, if the number is in use. -/
def view? (b : Backend) (id : Int) : Option Tables :=
  (b.registry.connection? id).bind fun c => c.view? b.store.database

/-- The number is in use, and mutations of its transaction get to the tables. -/
def Writable (b : Backend) (id : Int) : Prop :=
  ∃ c, b.registry.connection? id = some c ∧ c.CanWrite b.store.database

/-- A numbered transaction that can write, with the mutations that it has run. -/
structure Logging (b : Backend) (id : Int) (log : List Mutation) : Prop where
  calm : b.store.Calm
  active : ∃ c, b.registry.connection? id = some c ∧ c.Follows b.store.database log ∧
    c.CanWrite b.store.database

/-- A numbered transaction that can write and sees the given tables, which its log leads to from
the committed ones. -/
structure Working (b : Backend) (id : Int) (committed view : Tables) : Prop where
  tables : b.store.database.tables = some committed
  logging : ∃ log, b.Logging id log ∧ committed.runAll log = .ok view

variable {b : Backend} {id : Int} {log ms : List Mutation} {committed view : Tables}

namespace Logging

/-- Mutations that no tables refuse make the log longer, and the committed tables stay. -/
theorem update (h : b.Logging id log) (hms : ∀ m ∈ ms, m.NeverRefused) :
    ((Backend.update id ms).run b).1 = .ok () ∧
      ((Backend.update id ms).run b).2.Logging id (log ++ ms) ∧
      ((Backend.update id ms).run b).2.store.database.tables = b.store.database.tables ∧
      ((Backend.update id ms).run b).2.store.pool.free = b.store.pool.free := by
  obtain ⟨c, hfind, hfollows, hcan⟩ := h.active
  have hok := Work.run_performAll_fst (w := ⟨c, b.store⟩) h.calm.repertoire hfollows hcan hms
  have hlogged := Work.logsWhole_performAll hms ⟨c, b.store⟩ log h.calm.repertoire hfollows
  rw [hok, carriedOut_ok] at hlogged
  -- The first mutation makes the transaction the writer; without any it is what it was.
  have hcan' : ((Work.performAll ms).run ⟨c, b.store⟩).2.connection.CanWrite
      ((Work.performAll ms).run ⟨c, b.store⟩).2.store.database := by
    cases ms with
    | nil => exact hcan
    | cons m rest =>
      exact Connection.canWrite_of_isWriter (hlogged.follows.isWriter_of_ne_nil (by simp)) _
  rw [Backend.update, run_inTransaction_of_some hfind]
  refine ⟨hok, ⟨.of_work h.calm hlogged.repertoire hlogged.pool, _, ?_, hlogged.follows, hcan'⟩,
    hlogged.grants.tables, congrArg Pool.free hlogged.pool⟩
  exact (Registry.connection?_put hfind _ id).trans (if_pos rfl)

/-- The end of the transaction lets its log take effect or discards it, and gives its connection
back. -/
theorem finish (h : b.Logging id log) (htables : b.store.database.tables = some committed)
    (ending : Ending) :
    ((endTransaction id ending).run b).1 = .ok () ∧
      ((endTransaction id ending).run b).2.store.Calm ∧
      ((endTransaction id ending).run b).2.store.pool.free = b.store.pool.free + 1 ∧
      ∃ last, ((endTransaction id ending).run b).2.store.database.tables = some last ∧
        committed.runAll (ending.keeps log) = .ok last := by
  obtain ⟨c, hfind, hfollows, -⟩ := h.active
  obtain ⟨t, hclose, ht, hmore, hreleases⟩ :=
      Store.close_releases h.calm hfollows (Repertoire.endingFault?_full ending)
  rw [endTransaction, run_endWith_of_some hfind, hclose]
  exact ⟨rfl, ht, hmore, hreleases.tables committed htables⟩

/-- What the transaction sees is what its log leads to from the committed tables. -/
theorem exists_view (h : b.Logging id log) :
    ∃ committed view, b.store.database.tables = some committed ∧
      committed.runAll log = .ok view ∧ b.view? id = some view := by
  obtain ⟨c, hfind, hfollows, hcan⟩ := h.active
  rw [view?, hfind]
  exact hfollows.exists_view hcan

end Logging

/-- In a state that a run can reach every transaction that can write is of this kind. -/
theorem Reachable.working (h : b.Reachable) (hwritable : b.Writable id) :
    ∃ committed view, b.Working id committed view := by
  obtain ⟨j, hj⟩ := h.matches
  obtain ⟨c, hfind, hcan⟩ := hwritable
  have hopen : b.transaction? (.numbered id) = some c := hfind
  obtain ⟨log, -, hfollows⟩ := hj.pending hopen
  have hlogging : b.Logging id log := ⟨hj.calm, c, hfind, hfollows, hcan⟩
  obtain ⟨committed, view, htables, hrun, -⟩ := hlogging.exists_view
  exact ⟨committed, view, htables, log, hlogging, hrun⟩

namespace Working

theorem view?_eq (h : b.Working id committed view) : b.view? id = some view := by
  obtain ⟨log, hlogging, hrun⟩ := h.logging
  obtain ⟨committed', view', htables, hrun', hview⟩ := hlogging.exists_view
  obtain rfl := Option.some.inj (h.tables.symm.trans htables)
  obtain rfl := Except.ok.inj (hrun.symm.trans hrun')
  exact hview

/-- Mutations that no tables refuse change the view, and the committed tables stay. -/
theorem update (h : b.Working id committed view) (hms : ∀ m ∈ ms, m.NeverRefused) :
    ∃ after, view.runAll ms = .ok after ∧ ((Backend.update id ms).run b).1 = .ok () ∧
      ((Backend.update id ms).run b).2.Working id committed after := by
  obtain ⟨log, hlogging, hrun⟩ := h.logging
  obtain ⟨hok, hlogging', htables, -⟩ := hlogging.update hms
  obtain ⟨committed', after, hcommitted', hafter, -⟩ := hlogging'.exists_view
  obtain rfl := Option.some.inj (h.tables.symm.trans (htables.symm.trans hcommitted'))
  refine ⟨after, ?_, hok, hcommitted', log ++ ms, hlogging', hafter⟩
  rw [Tables.runAll_append, hrun] at hafter
  exact hafter

/-- A commit makes the view the committed tables, and its connection is free then. -/
theorem commit (h : b.Working id committed view) :
    ((commitTransaction id).run b).1 = .ok () ∧ ((commitTransaction id).run b).2.store.Calm ∧
      ((commitTransaction id).run b).2.HasFree ∧
      ((commitTransaction id).run b).2.store.database.tables = some view := by
  obtain ⟨log, hlogging, hrun⟩ := h.logging
  obtain ⟨hok, hcalm, hmore, last, hlast, hrun'⟩ := hlogging.finish h.tables .commit
  obtain rfl := Except.ok.inj (hrun.symm.trans hrun')
  exact ⟨hok, hcalm, Nat.lt_of_lt_of_eq (Nat.succ_pos _) hmore.symm, hlast⟩

end Working

end Backend

end ZoneStore
