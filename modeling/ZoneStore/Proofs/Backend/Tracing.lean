import ZoneStore.Proofs.Backend.Operations

/-!
# Tracing a run of operations

`Backend.trace` carries a value along a run, operation by operation with their outcomes. What it is
compared with are the committed tables: an operation replaces them by what the mutations of its deed
lead to, if it takes effect at once and succeeds, and otherwise by what zone updates lead to, which
a transaction has collected (`Operation.Advances`). An invariant of value and tables that single
operations keep holds after every run (`Backend.trace_induction`).
-/

set_option autoImplicit false

namespace ZoneStore

open Backend

/-- Only what gives a result has done its deed. -/
theorem Operation.exists_ok_of_succeeded {α : Type} {op : Operation α} {outcome : Except Fault α}
    (h : op.succeeded outcome = true) : ∃ a, outcome = .ok a := by
  cases outcome with
  | ok a => exact ⟨a, rfl⟩
  | error fault => cases op <;> cases h

/-- What an operation makes of the committed tables. -/
inductive Operation.Advances {α : Type} (op : Operation α) (b : Backend) (t t' : Tables) :
    Prop where
  /-- It succeeds, and its mutations have taken effect at once. -/
  | done (ms : List Mutation) (hdone : op.succeeded (op.run.run b).1 = true)
      (hdeed : op.deed b = .atOnce ms) (hrun : t.runAll ms = .ok t')
  /-- It fails, or does not take effect at once. Only zone updates have taken effect, if any. -/
  | updates (ms : List Mutation)
      (hdone : op.succeeded (op.run.run b).1 = true → ∀ ms', op.deed b ≠ .atOnce ms')
      (hms : ∀ m ∈ ms, m.IsZoneUpdate) (hrun : t.runAll ms = .ok t')

/-- So it is a block of an operation that leads from the tables before to those after. -/
theorem Operation.Advances.exists_block {α : Type} {op : Operation α} {b : Backend} {t t' : Tables}
    (h : op.Advances b t t') : ∃ ms, OperationBlock ms ∧ t.runAll ms = .ok t' := by
  cases h with
  | updates ms _ hms hrun => exact ⟨ms, .updates hms, hrun⟩
  | done ms _ hdeed hrun =>
    have hblock := op.deed_ofOperation b
    rw [hdeed] at hblock
    exact ⟨ms, hblock, hrun⟩

theorem Journal.Matches.advances {j : Journal} {b : Backend} (hj : j.Matches b)
    (hops : j.OfOperations) (op : AnyOperation) {t : Tables}
    (ht : b.store.database.tables = some t) :
    ∃ t', (b.next op.step).store.database.tables = some t' ∧ op.2.Advances b t t' := by
  have hnext := (hj.next op.step).1
  cases hdone : op.2.succeeded (op.2.run.run b).1 with
  | false =>
    have hsame : (b.noteStep j op.step).blocks = j.blocks ++ [] := by
      simp [noteStep, AnyOperation.step, hdone, Journal.record]
    obtain ⟨t', ht', hrun⟩ := hj.committed_append hnext hsame ht
    refine ⟨t', ht', .updates [] ?_ (fun m hm => absurd hm List.not_mem_nil) hrun⟩
    intro h
    rw [hdone] at h
    cases h
  | true =>
    obtain ⟨more, hblocks, hmore⟩ := j.note_blocks (op.2.deed b)
    have hnoted : (b.noteStep j op.step).blocks = j.blocks ++ more := by
      simp [noteStep, AnyOperation.step, hdone, Journal.record, hblocks]
    obtain ⟨t', ht', hrun⟩ := hj.committed_append hnext hnoted ht
    refine ⟨t', ht', ?_⟩
    by_cases hatOnce : ∃ ms, op.2.deed b = .atOnce ms
    · obtain ⟨ms, hdeed⟩ := hatOnce
      have hms : more = [ms] := by
        rw [hdeed] at hblocks
        exact (List.append_cancel_left hblocks).symm
      refine .done ms hdone hdeed ?_
      rwa [hms, List.flatten_singleton] at hrun
    · refine .updates more.flatten (fun _ ms hms => hatOnce ⟨ms, hms⟩) ?_ hrun
      intro m hm
      obtain ⟨ms, hms, hm⟩ := List.mem_flatten.1 hm
      rcases hmore ms hms with hdeed | ⟨h, hlog⟩
      · exact absurd ⟨ms, hdeed⟩ hatOnce
      · exact hops.pending h ms hlog m hm

/-- What each operation makes of a value, given its outcome. -/
abbrev Tracer (σ : Type) : Type 1 := ∀ {α : Type}, Operation α → Except Fault α → σ → σ

namespace Backend

variable {σ : Type}

/-- What a run makes of a value. -/
def trace (f : Tracer σ) (b : Backend) (s : σ) : List AnyOperation → σ
  | [] => s
  | op :: rest => trace f (b.next op.step) (f op.2 (op.2.run.run b).1 s) rest

theorem trace_append (f : Tracer σ) (b : Backend) (s : σ) (ops more : List AnyOperation) :
    b.trace f s (ops ++ more) =
      (b.after (ops.map AnyOperation.step)).trace f (b.trace f s ops) more := by
  induction ops generalizing b s with
  | nil => rfl
  | cons op rest ih => exact ih (b.next op.step) (f op.2 (op.2.run.run b).1 s)

/-- What holds of a value and empty tables, and is kept by each operation of a run, holds of what
the run makes of the value and of the tables that it commits. -/
theorem trace_induction {f : Tracer σ} {S : σ → Tables → Prop} {s : σ} (hstart : S s .empty)
    (hstep : ∀ (b : Backend) (op : AnyOperation) (s : σ) (t t' : Tables), b.store.Calm →
      b.store.database.tables = some t → (b.next op.step).store.database.tables = some t' →
      op.2.Advances b t t' → S s t → S (f op.2 (op.2.run.run b).1 s) t')
    (connections : Nat) (dnssec : Bool) (hasher : Option Hasher) (ops : List AnyOperation) :
    ∃ tables, (operated connections dnssec hasher ops).store.database.tables = some tables ∧
      S ((on (.on .empty connections) dnssec hasher).trace f s ops) tables := by
  have run {b : Backend} {j : Journal} {s : σ} {t : Tables} (hj : j.Matches b)
      (hops : j.OfOperations) (ht : b.store.database.tables = some t) (hs : S s t) :
      ∃ tables, (b.after (ops.map AnyOperation.step)).store.database.tables = some tables ∧
        S (b.trace f s ops) tables := by
    induction ops generalizing b j s t with
    | nil => exact ⟨t, ht, hs⟩
    | cons op rest ih =>
      obtain ⟨t', ht', hadvances⟩ := hj.advances hops op ht
      have hops' : (b.noteStep j op.step).OfOperations := hops.record (op.2.deed_ofOperation b) _
      exact ih (hj.next op.step).1 hops' ht' (hstep b op s t t' hj.calm ht ht' hadvances hs)
  exact run (Journal.Matches.on_empty connections dnssec hasher) .empty rfl hstart

end Backend

end ZoneStore
