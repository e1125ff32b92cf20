import ZoneStore.Proofs.Zone.Replacement

/-!
# Attempts to update

An operation that updates a zone is a list of mutations that no tables refuse, run in a numbered
transaction (`Operation.IsUpdate`). In every state that a run can reach an open transaction either
can write (`Backend.Working`), or it is blocked (`Backend.Blocked`): another transaction is the
writer, or others have committed since its view was fixed. In the one case a sequence of updates is
carried out as a whole on what the transaction sees, in the other the transaction sees what it saw
(`Backend.Reachable.updates_cases`).
-/

set_option autoImplicit false

namespace ZoneStore

/-- The operation runs these mutations in a numbered transaction, in the given mode. -/
structure Operation.IsUpdate (op : Operation Unit) (id : Int) (dnssec : Bool) (ms : List Mutation) :
    Prop where
  neverRefused : ∀ m ∈ ms, m.NeverRefused
  run_eq : ∀ b : Backend, b.dnssec = dnssec → op.run.run b = (Backend.update id ms).run b

/-! ## Connections that may not write -/

namespace Connection

variable {c c' : Connection} {db : Database} {view : Tables}

theorem view?_congr (h : c'.mode = c.mode) : c'.view? db = c.view? db := by
  simp only [view?, h]

theorem mayWrite_congr (h : c'.mode = c.mode) : c'.mayWrite db = c.mayWrite db := by
  simp only [mayWrite, h]

/-- A connection that may not write is refused every mutation. -/
theorem mutate_of_blocked (hview : c.view? db = some view) (hmay : c.mayWrite db = false)
    (m : Mutation) : c.mutate db m = (.error .locked, c.after (.error .locked), db) := by
  simp only [mutate, hview, hmay, Bool.false_eq_true, if_false]

end Connection

/-- The first of the mutations of a connection that may not write is refused, and ends them. -/
theorem Work.run_performAll_of_blocked {w : Work} {view : Tables}
    (hw : w.store.repertoire = .full) (hview : w.connection.view? w.store.database = some view)
    (hmay : w.connection.mayWrite w.store.database = false) (m : Mutation) (rest : List Mutation) :
    (performAll (m :: rest)).run w =
      (.error (.database .locked),
        w.count.keep (w.connection.after (.error .locked)) w.store.database) := by
  have hmutate := Connection.mutate_of_blocked hview hmay m
  have hperform : (perform m).run w =
      (.error (.database .locked),
        w.count.keep (w.connection.after (.error .locked)) w.store.database) := by
    rw [run_perform_of_own (by rw [hw]; rfl), run_mutate]
    simp only [count, hmutate]
    rfl
  rw [performAll, Action.run_bind, hperform]

/-! ## Transactions that can write, and blocked ones -/

namespace Backend

variable {b : Backend} {id : Int} {ms : List Mutation} {committed view before : Tables}

/-- Work that only fails leaves what the transaction sees. -/
theorem run_inTransaction_throw {α : Type} (hopen : b.view? id = some view) (fault : Fault) :
    ((inTransaction id (throw fault : ConnectionM α)).run b).1 = .error fault ∧
      ((inTransaction id (throw fault : ConnectionM α)).run b).2.view? id = some view := by
  obtain ⟨c, hfind, hview⟩ := Option.bind_eq_some_iff.1 hopen
  rw [run_inTransaction_of_some hfind]
  refine ⟨rfl, ?_⟩
  rw [view?, (Registry.connection?_put hfind _ id).trans (if_pos rfl)]
  exact hview

/-- A numbered transaction that sees the given tables and may not write. -/
structure Blocked (b : Backend) (id : Int) (view : Tables) : Prop where
  repertoire : b.store.repertoire = .full
  active : ∃ c, b.registry.connection? id = some c ∧ c.view? b.store.database = some view ∧
    c.mayWrite b.store.database = false

namespace Blocked

theorem view?_eq (h : b.Blocked id view) : b.view? id = some view := by
  obtain ⟨c, hfind, hview, -⟩ := h.active
  rw [view?, hfind]
  exact hview

theorem not_writable (h : b.Blocked id view) : ¬ b.Writable id := by
  rintro ⟨c, hfind, -, hmay⟩
  obtain ⟨c', hfind', -, hmay'⟩ := h.active
  obtain rfl := Option.some.inj (hfind.symm.trans hfind')
  rw [hmay] at hmay'
  cases hmay'

/-- An update is refused, unless there is nothing to do, and the transaction stays blocked. -/
theorem update (h : b.Blocked id view) (ms : List Mutation) :
    ((Backend.update id ms).run b).2.Blocked id view ∧
      (ms = [] ∨ ((Backend.update id ms).run b).1 = .error (.database .locked)) := by
  obtain ⟨c, hfind, hview, hmay⟩ := h.active
  rw [Backend.update, run_inTransaction_of_some hfind]
  cases ms with
  | nil =>
    refine ⟨⟨h.repertoire, c, ?_, hview, hmay⟩, Or.inl rfl⟩
    exact (Registry.connection?_put hfind c id).trans (if_pos rfl)
  | cons m rest =>
    have hmode : (c.after (.error .locked)).mode = c.mode := c.mode_after _
    rw [Work.run_performAll_of_blocked h.repertoire hview hmay]
    refine ⟨⟨h.repertoire, c.after (.error .locked), ?_, ?_, ?_⟩, Or.inr rfl⟩
    · exact (Registry.connection?_put hfind _ id).trans (if_pos rfl)
    · exact (Connection.view?_congr hmode).trans hview
    · exact (Connection.mayWrite_congr hmode).trans hmay

end Blocked

theorem Working.writable (h : b.Working id committed view) : b.Writable id := by
  obtain ⟨log, hlogging, -⟩ := h.logging
  obtain ⟨c, hfind, -, hcan⟩ := hlogging.active
  exact ⟨c, hfind, hcan⟩

/-- In a state that a run can reach a number in use is that of a transaction that sees tables. -/
theorem Reachable.exists_view (h : b.Reachable) (hopen : b.inProgress id = true) :
    ∃ view, b.view? id = some view := by
  obtain ⟨j, hj⟩ := h.matches
  obtain ⟨c, hfind⟩ := hj.filled.exists_connection hopen
  have htransaction : b.transaction? (.numbered id) = some c := hfind
  obtain ⟨log, -, hfollows⟩ := hj.pending htransaction
  obtain ⟨committed, hcommitted, -⟩ := hj.committed
  rw [view?, hfind]
  unfold Connection.Follows at hfollows
  cases hmode : c.mode with
  | autocommit => simp [hmode] at hfollows
  | begun => exact ⟨committed, by simpa [Connection.view?, hmode] using hcommitted⟩
  | reading view version => exact ⟨view, by simp [Connection.view?, hmode]⟩
  | writing view altered => exact ⟨view, by simp [Connection.view?, hmode]⟩

/-- In a state that a run can reach an open transaction can write or is blocked. -/
theorem Reachable.working_or_blocked (h : b.Reachable) (hopen : b.view? id = some view) :
    (∃ committed, b.Working id committed view) ∨ b.Blocked id view := by
  obtain ⟨c, hfind, hview⟩ := Option.bind_eq_some_iff.1 hopen
  cases hmay : c.mayWrite b.store.database with
  | true =>
    have hwritable : b.Writable id := ⟨c, hfind, by rw [hview]; rfl, hmay⟩
    obtain ⟨committed, view', hworking⟩ := h.working hwritable
    obtain rfl := Option.some.inj (hworking.view?_eq.symm.trans hopen)
    exact Or.inl ⟨committed, hworking⟩
  | false =>
    obtain ⟨j, hj⟩ := h.matches
    exact Or.inr ⟨hj.calm.repertoire, c, hfind, hview, hmay⟩

/-! ## Sequences of updates -/

variable {op : Operation Unit} {ops : List (Operation Unit)} {mss : List (List Mutation)}
  {dnssec : Bool}

/-- An update leaves the mode of operation alone. -/
theorem dnssec_of_isUpdate (h : op.IsUpdate id dnssec ms) (hmode : b.dnssec = dnssec) :
    (op.run.run b).2.dnssec = dnssec := by
  rw [h.run_eq b hmode]
  exact (run_inTransaction_mode id _ b).1.trans hmode

/-- Updates in a transaction that can write succeed and are carried out one after another. -/
theorem Working.updates (h : b.Working id committed view) (hmode : b.dnssec = dnssec)
    (hops : List.Forall₂ (fun op ms => Operation.IsUpdate op id dnssec ms) ops mss) :
    ∃ after, b.AllSucceed ops ∧ (b.afterAll ops).Working id committed after ∧
      view.runAll mss.flatten = .ok after := by
  induction hops generalizing b view with
  | nil => exact ⟨view, trivial, h, rfl⟩
  | @cons op ms ops mss hop _ ih =>
    -- The rest is carried out on what the first update leaves.
    obtain ⟨middle, hrun, hok, hworking⟩ := h.update hop.neverRefused
    rw [← hop.run_eq b hmode] at hok hworking
    obtain ⟨after, hsucceed, hafter, hrest⟩ := ih hworking (dnssec_of_isUpdate hop hmode)
    exact ⟨after, ⟨hok, hsucceed⟩, hafter, Tables.runAll_append_of_ok hrun hrest⟩

/-- A blocked transaction stays blocked. -/
theorem Blocked.updates (h : b.Blocked id view) (hmode : b.dnssec = dnssec)
    (hops : List.Forall₂ (fun op ms => Operation.IsUpdate op id dnssec ms) ops mss) :
    (b.afterAll ops).Blocked id view := by
  induction hops generalizing b with
  | nil => exact h
  | @cons op ms ops mss hop _ ih =>
    have hblocked := (h.update ms).1
    rw [← hop.run_eq b hmode] at hblocked
    exact ih hblocked (dnssec_of_isUpdate hop hmode)

/-- Updates in an open transaction are carried out as a whole on what it sees if it can write, and
otherwise change nothing of that. -/
theorem Reachable.updates_cases (h : b.Reachable) (hopen : b.view? id = some before)
    (hops : List.Forall₂ (fun op ms => Operation.IsUpdate op id b.dnssec ms) ops mss) :
    ∃ after, (b.afterAll ops).view? id = some after ∧
      (b.Writable id ∧ b.AllSucceed ops ∧ before.runAll mss.flatten = .ok after ∨
        ¬ b.Writable id ∧ after = before) := by
  rcases h.working_or_blocked hopen with ⟨committed, hworking⟩ | hblocked
  · obtain ⟨after, hsucceed, hafter, hrun⟩ := hworking.updates rfl hops
    exact ⟨after, hafter.view?_eq, Or.inl ⟨hworking.writable, hsucceed, hrun⟩⟩
  · exact ⟨before, (hblocked.updates rfl hops).view?_eq, Or.inr ⟨hblocked.not_writable, rfl⟩⟩

/-- An update that succeeds is carried out, and one that fails changes nothing that the transaction
sees. It only fails in a transaction that cannot write. -/
theorem Reachable.update_cases (h : b.Reachable) (hopen : b.view? id = some before)
    (hms : ∀ m ∈ ms, m.NeverRefused) :
    ∃ after, ((Backend.update id ms).run b).2.view? id = some after ∧
      (((Backend.update id ms).run b).1 = .ok () ∧ before.runAll ms = .ok after ∨
        ¬ b.Writable id ∧ ((Backend.update id ms).run b).1 = .error (.database .locked) ∧
          after = before) := by
  rcases h.working_or_blocked hopen with ⟨committed, hworking⟩ | hblocked
  · obtain ⟨after, hrun, hok, hafter⟩ := hworking.update hms
    exact ⟨after, hafter.view?_eq, Or.inl ⟨hok, hrun⟩⟩
  · obtain ⟨hafter, rfl | herror⟩ := hblocked.update ms
    · -- Without a mutation there is nothing to refuse.
      obtain ⟨c, hfind, -⟩ := hblocked.active
      refine ⟨before, hafter.view?_eq, Or.inl ⟨?_, rfl⟩⟩
      rw [Backend.update, run_inTransaction_of_some hfind]
      rfl
    · exact ⟨before, hafter.view?_eq, Or.inr ⟨hblocked.not_writable, herror, rfl⟩⟩

end Backend

/-! ## The operations that are updates -/

namespace Operation

variable {id : Int} {dnssec : Bool}

theorem isUpdate_replaceRecordSet (id : Int) (dnssec : Bool) (zone : Int) (qname qtype : String)
    (given : List ResourceRecord) :
    (replaceRecordSet id zone qname qtype given).IsUpdate id dnssec
      (Update.recordSet dnssec zone qname qtype given) :=
  ⟨Update.neverRefused_recordSet dnssec zone qname qtype given, fun _ h => h ▸ rfl⟩

theorem isUpdate_replaceComments (id : Int) (dnssec : Bool) (zone : Int) (qname qtype : String)
    (given : List Comment) :
    (replaceComments id zone qname qtype given).IsUpdate id dnssec
      (Update.comments zone qname qtype given) :=
  ⟨Update.neverRefused_comments zone qname qtype given, fun _ _ => rfl⟩

theorem isUpdate_updateEmptyNonTerminals (id : Int) (dnssec : Bool) (zone : Int)
    (insert erase : TextMap Unit) (removeAll : Bool) :
    (updateEmptyNonTerminals id zone insert erase removeAll).IsUpdate id dnssec
      (Update.exchangeEmptyNonTerminals zone insert erase removeAll) :=
  ⟨Update.neverRefused_exchangeEmptyNonTerminals zone insert erase removeAll, fun _ _ => rfl⟩

end Operation

end ZoneStore
