import ZoneStore.Proofs.Table.Replay
import ZoneStore.Store.Database

/-!
# Isolation of a connection

What one statement, and the end of a transaction, do to the committed tables and to the view of the
connection that runs them. `Connection.Follows` relates a connection in a transaction to the log of
the mutations that it has run: its view is what the log leads to from the committed tables. The
relation is kept by every statement of the connection (`Follows.mutate`, `Follows.select`), and by
what others do meanwhile, because only the writer has a log that is not empty and nothing is
committed while there is a writer (`Follows.of_advances`, `Follows.of_grants`).
-/

set_option autoImplicit false

namespace ZoneStore

/-- The mutations that took effect: the given ones after a success, none after a failure. -/
def carriedOut {ε α : Type} (outcome : Except ε α) (ms : List Mutation) : List Mutation :=
  match outcome with
  | .ok _ => ms
  | .error _ => []

@[simp] theorem carriedOut_ok {ε α : Type} (a : α) (ms : List Mutation) :
    carriedOut (.ok a : Except ε α) ms = ms := rfl

@[simp] theorem carriedOut_error {ε α : Type} (e : ε) (ms : List Mutation) :
    carriedOut (.error e : Except ε α) ms = [] := rfl

@[simp] theorem carriedOut_nil {ε α : Type} (outcome : Except ε α) :
    carriedOut outcome [] = [] := by
  cases outcome <;> rfl

@[simp] theorem carriedOut_mapError {ε ε' α : Type} (f : ε → ε') (outcome : Except ε α)
    (ms : List Mutation) : carriedOut (outcome.mapError f) ms = carriedOut outcome ms := by
  cases outcome <;> rfl

/-- The mutations of a log that take effect when its transaction ends. -/
def Ending.keeps (log : List Mutation) : Ending → List Mutation
  | .commit => log
  | .rollback => []

/-- Whether the transaction of the connection is the writer: from its first mutation that gets to
the tables until its end, even if the mutation finds no row or is refused by a constraint. -/
def Connection.isWriter (c : Connection) : Bool :=
  match c.mode with
  | .writing _ _ => true
  | _ => false

/-! ## What a step may do to the database -/

namespace Database

/-- The version does not fall, and while it stays the committed tables stay as well. -/
structure Advances (before after : Database) : Prop where
  version : before.version ≤ after.version
  tables : before.version = after.version → before.tables = after.tables

theorem Advances.refl (db : Database) : db.Advances db := ⟨Nat.le_refl _, fun _ => rfl⟩

theorem Advances.trans {a b c : Database} (h : a.Advances b) (h' : b.Advances c) :
    a.Advances c := by
  refine ⟨Nat.le_trans h.version h'.version, ?_⟩
  intro heq
  -- The version in the middle lies between two equal ones.
  have hab : a.version = b.version := Nat.le_antisymm h.version (heq ▸ h'.version)
  exact (h.tables hab).trans (h'.tables (hab ▸ heq))

/-- Work within a transaction: the committed tables stay, and the transaction may become the writer
where there is none. The flags tell whether it is the writer before and after. -/
structure Grants (before after : Database) (writer writer' : Bool) : Prop where
  tables : after.tables = before.tables
  version : after.version = before.version
  locked : after.locked = (before.locked || writer')
  keeps : writer = true → writer' = true
  asked : writer' = true → writer = true ∨ before.locked = false

theorem Grants.refl {db : Database} {writer : Bool} (h : writer = true → db.locked = true) :
    db.Grants db writer writer := by
  refine ⟨rfl, rfl, ?_, id, Or.inl⟩
  cases writer with
  | false => simp
  | true => simp [h rfl]

/-- Nothing is done, and there is nothing to hold the lock for. -/
theorem Grants.idle (db : Database) : db.Grants db false false := .refl fun h => by cases h

theorem Grants.trans {a b c : Database} {u v w : Bool} (h : a.Grants b u v) (h' : b.Grants c v w) :
    a.Grants c u w where
  tables := h'.tables.trans h.tables
  version := h'.version.trans h.version
  locked := by
    rw [h'.locked, h.locked]
    -- A writer in the middle is still the writer at the end.
    have hvw := h'.keeps
    cases v <;> cases w <;> simp_all
  keeps hu := h'.keeps (h.keeps hu)
  asked hw := by
    rcases h'.asked hw with hv | hb
    · exact h.asked hv
    · rw [h.locked, Bool.or_eq_false_iff] at hb
      exact Or.inr hb.1

theorem Grants.advances {a b : Database} {u v : Bool} (h : a.Grants b u v) : a.Advances b :=
  ⟨Nat.le_of_eq h.version.symm, fun _ => h.tables.symm⟩

/-- The mutations take effect on the committed tables as a whole, and only where there is no
writer. -/
structure Moves (before after : Database) (ms : List Mutation) : Prop where
  advances : before.Advances after
  locked : after.locked = before.locked
  refused : before.locked = true → after = before
  bare : before.tables = none → after.tables = none
  tables : ∀ t, before.tables = some t → ∃ t', after.tables = some t' ∧ t.runAll ms = .ok t'

theorem Moves.refl (db : Database) : db.Moves db [] :=
  ⟨.refl db, rfl, fun _ => rfl, id, fun t ht => ⟨t, ht, rfl⟩⟩

theorem Moves.trans {a b c : Database} {ms more : List Mutation} (h : a.Moves b ms)
    (h' : b.Moves c more) : a.Moves c (ms ++ more) where
  advances := h.advances.trans h'.advances
  locked := h'.locked.trans h.locked
  refused hlocked := (h'.refused (h.locked.trans hlocked)).trans (h.refused hlocked)
  bare hbare := h'.bare (h.bare hbare)
  tables t ht := by
    obtain ⟨t', ht', hms⟩ := h.tables t ht
    obtain ⟨t'', ht'', hmore⟩ := h'.tables t' ht'
    exact ⟨t'', ht'', Tables.runAll_append_of_ok hms hmore⟩

/-- The end of a transaction: if it is the writer there is none afterwards, and the mutations take
effect on the committed tables; otherwise nothing happens. -/
structure Releases (before after : Database) (writer : Bool) (ms : List Mutation) : Prop where
  advances : before.Advances after
  locked : after.locked = (before.locked && !writer)
  idle : writer = false → after = before
  bare : before.tables = none → after.tables = none
  tables : ∀ t, before.tables = some t → ∃ t', after.tables = some t' ∧ t.runAll ms = .ok t'

/-- A transaction from its beginning to its end is one move. -/
theorem Grants.moves {a b c : Database} {writer : Bool} {ms : List Mutation}
    (h : a.Grants b false writer) (h' : b.Releases c writer ms) : a.Moves c ms where
  advances := h.advances.trans h'.advances
  locked := by
    rw [h'.locked, h.locked]
    cases writer with
    | false => simp
    | true => simpa using (h.asked rfl).symm
  refused hlocked := by
    cases writer with
    | false =>
      -- Nothing was done under the foreign lock, and the end of a reader does nothing.
      have hlock := h.locked
      rw [Bool.or_false] at hlock
      exact (h'.idle rfl).trans (Database.ext h.tables h.version hlock)
    | true => simpa [hlocked] using h.asked rfl
  bare hbare := h'.bare (h.tables.trans hbare)
  tables t ht := h'.tables t (h.tables.trans ht)

end Database

namespace Connection

variable {c c' : Connection} {db db' : Database} {log : List Mutation}

/-! ## Statements of a connection -/

@[simp] theorem mode_after (c : Connection) (outcome : Except DatabaseFault Change) :
    (c.after outcome).mode = c.mode := by
  cases outcome <;> rfl

/-- A mutation is refused without a trace, or its tables are placed: those that it left, or the
view itself where it is refused on its own account. -/
theorem mutate_cases (c : Connection) (db : Database) (m : Mutation) :
    (∃ fault, ∃ c' : Connection, c.mutate db m = (.error fault, c', db) ∧ c'.mode = c.mode) ∨
    ∃ view tables alters outcome, ∃ c' : Connection, c.view? db = some view ∧ c.mayWrite db = true ∧
      c.mutate db m = (outcome, c'.place db tables alters) ∧ c'.mode = c.mode ∧
      view.runAll (carriedOut outcome [m]) = .ok tables ∧ (alters = false → tables = view) := by
  unfold mutate
  cases hview : c.view? db with
  | none => exact Or.inl ⟨_, _, rfl, rfl⟩
  | some view =>
    cases hmay : c.mayWrite db with
    | false => exact Or.inl ⟨_, _, rfl, c.mode_after _⟩
    | true =>
      -- From here on the transaction is granted the lock, even if the tables refuse the mutation.
      right
      cases happly : m.apply view with
      | ok change =>
        refine ⟨view, change.tables, change.alters, .ok change.rows, c.after (.ok change), rfl, rfl,
          by simp only [happly, if_true], c.mode_after _, ?_, Mutation.honest happly⟩
        rw [carriedOut_ok, Tables.runAll_singleton, happly]
        rfl
      | error fault =>
        exact ⟨view, view, false, .error fault, c.after (.error fault), rfl, rfl,
          by simp only [happly, if_true], c.mode_after _, rfl, fun _ => rfl⟩

/-- Whether a mutation of the connection gets to the tables. -/
def CanWrite (c : Connection) (db : Database) : Prop :=
  (c.view? db).isSome = true ∧ c.mayWrite db = true

theorem canWrite_of_isWriter (h : c.isWriter = true) (db : Database) : c.CanWrite db := by
  unfold isWriter at h
  cases hmode : c.mode with
  | writing view altered => exact ⟨by simp [view?, hmode], by simp [mayWrite, hmode]⟩
  | _ => simp [hmode] at h

/-- Where no transaction is the writer, one that has just begun can write. -/
theorem canWrite_of_begun {tables : Tables} (hmode : c.mode = .begun)
    (htables : db.tables = some tables) (hlocked : db.locked = false) : c.CanWrite db := by
  constructor
  · simp [view?, hmode, htables]
  · simp [mayWrite, hmode, hlocked]

/-- Where the connection can write, only the tables could refuse a mutation. -/
theorem exists_mutate_ok {m : Mutation} (h : c.CanWrite db) (hm : m.NeverRefused) :
    ∃ rows, (c.mutate db m).1 = .ok rows := by
  obtain ⟨view, hview⟩ := Option.isSome_iff_exists.1 h.1
  obtain ⟨change, hchange⟩ := hm view
  refine ⟨change.rows, ?_⟩
  simp only [mutate, hview, h.2, if_true, hchange]

/-- Outside a transaction a mutation takes effect on the committed tables, if it succeeds. -/
theorem mutate_moves (hmode : c.mode = .autocommit) (m : Mutation) :
    (c.mutate db m).2.1.mode = .autocommit ∧
      db.Moves (c.mutate db m).2.2 (carriedOut (c.mutate db m).1 [m]) := by
  rcases c.mutate_cases db m with
    ⟨fault, c', h, hc'⟩ | ⟨view, tables, alters, outcome, c', hview, hmay, h, hc', hrun, halters⟩
  · rw [h]
    exact ⟨hc'.trans hmode, .refl db⟩
  · simp only [view?, hmode] at hview
    simp only [mayWrite, hmode, Bool.not_eq_true'] at hmay
    rw [h]
    simp only [place, hc'.trans hmode, true_and]
    refine ⟨⟨?_, ?_⟩, rfl, ?_, ?_, ?_⟩
    · cases alters <;> simp [Database.install]
    · -- Without an alteration the version stays, and so do the tables.
      intro hversion
      cases alters with
      | false => simp [Database.install, halters rfl, hview]
      | true => simp [Database.install] at hversion
    · intro hlocked
      simp [hlocked] at hmay
    · intro hbare
      rw [hview] at hbare
      cases hbare
    · intro t ht
      obtain rfl : view = t := Option.some.inj (hview.symm.trans ht)
      exact ⟨tables, rfl, hrun⟩

/-- Outside a transaction a query begins none. -/
theorem mode_select {ρ : Type} (hmode : c.mode = .autocommit) (db : Database) (q : Query ρ) :
    (c.select db q).2.mode = .autocommit := by
  unfold select
  cases c.view? db with
  | none => exact hmode
  | some view =>
    rw [hmode]
    exact hmode

/-- A connection is in no transaction once its transaction was to end. -/
theorem mode_finish (c : Connection) (db : Database) (ending : Ending) :
    (c.finish db ending).2.1.mode = .autocommit := by
  unfold finish
  cases hmode : c.mode with
  | autocommit => exact hmode
  | begun | reading | writing => rfl

/-! ## The log of a transaction -/

/-- The connection is in a transaction whose view is what the log leads to from the committed
tables. Only the writer has run mutations; a view that was fixed by reading is that of its
version. -/
def Follows (db : Database) (c : Connection) (log : List Mutation) : Prop :=
  match c.mode with
  | .autocommit => False
  | .begun => log = []
  | .reading view version =>
    log = [] ∧ version ≤ db.version ∧ (version = db.version → db.tables = some view)
  | .writing view altered =>
    db.locked = true ∧ ∃ committed, db.tables = some committed ∧
      committed.runAll log = .ok view ∧ (altered = false → view = committed)

/-- Only the mode of a connection counts for what it follows. -/
theorem follows_congr (h : c'.mode = c.mode) : c'.Follows db log ↔ c.Follows db log := by
  simp only [Follows, h]

theorem isWriter_congr (h : c'.mode = c.mode) : c'.isWriter = c.isWriter := by
  simp only [isWriter, h]

/-- A transaction that has only begun follows the empty log, whatever is committed. -/
theorem follows_of_begun (h : c.mode = .begun) (db : Database) : c.Follows db [] := by
  simp only [Follows, h]

theorem isWriter_of_begun (h : c.mode = .begun) : c.isWriter = false := by
  simp only [isWriter, h]

namespace Follows

/-- While a transaction is the writer the database is locked. -/
theorem locked (h : c.Follows db log) (hwriter : c.isWriter = true) : db.locked = true := by
  unfold isWriter at hwriter
  unfold Follows at h
  cases hmode : c.mode with
  | writing view altered =>
    rw [hmode] at h
    exact h.1
  | _ => simp [hmode] at hwriter

/-- Only the writer has run mutations. -/
theorem isWriter_of_ne_nil (h : c.Follows db log) (hlog : log ≠ []) : c.isWriter = true := by
  unfold Follows at h
  unfold isWriter
  cases hmode : c.mode with
  | autocommit => simp [hmode] at h
  | begun =>
    simp only [hmode] at h
    exact absurd h hlog
  | reading view version =>
    simp only [hmode] at h
    exact absurd h.1 hlog
  | writing view altered => rfl

/-- What others commit does not matter to a transaction that is not the writer. -/
theorem of_advances (h : c.Follows db log) (hwriter : c.isWriter = false)
    (hdb : db.Advances db') : c.Follows db' log := by
  unfold isWriter at hwriter
  unfold Follows at h ⊢
  cases hmode : c.mode with
  | autocommit => simp [hmode] at h
  | begun => simpa [hmode] using h
  | reading view version =>
    simp only [hmode] at h ⊢
    obtain ⟨hlog, hle, heq⟩ := h
    refine ⟨hlog, Nat.le_trans hle hdb.version, ?_⟩
    intro hversion
    -- A version that is still the current one has not been left since the view was fixed.
    have hstays : db.version = db'.version :=
      Nat.le_antisymm hdb.version (hversion ▸ hle)
    rw [← hdb.tables hstays]
    exact heq (hversion.trans hstays.symm)
  | writing view altered => simp [hmode] at hwriter

/-- Work in another transaction matters to none. -/
theorem of_grants {writer writer' : Bool} (h : c.Follows db log)
    (hdb : db.Grants db' writer writer') : c.Follows db' log := by
  cases hwriter : c.isWriter with
  | false => exact h.of_advances hwriter hdb.advances
  | true =>
    have hlocked : db'.locked = true := by rw [hdb.locked, h.locked hwriter, Bool.true_or]
    unfold isWriter at hwriter
    unfold Follows at h ⊢
    cases hmode : c.mode with
    | writing view altered =>
      simp only [hmode] at h ⊢
      exact ⟨hlocked, hdb.tables ▸ h.2⟩
    | _ => simp [hmode] at hwriter

/-- Placing what mutations left of the view makes the transaction the writer and adds them to the
log. -/
theorem place {view tables : Tables} {alters : Bool} {ms : List Mutation} (h : c.Follows db log)
    (hview : c.view? db = some view) (hmay : c.mayWrite db = true)
    (hrun : view.runAll ms = .ok tables) (halters : alters = false → tables = view) :
    (c.place db tables alters).1.Follows (c.place db tables alters).2 (log ++ ms) ∧
      db.Grants (c.place db tables alters).2 c.isWriter true ∧
      (c.place db tables alters).1.isWriter = true := by
  -- From its first mutation on the transaction works on the tables that are committed now.
  have first (hlog : log = []) (hlocked : db.locked = false) (hdb : db.tables = some view)
      (hplace : c.place db tables alters =
        ({ c with mode := .writing tables alters }, { db with locked := true })) :
      (c.place db tables alters).1.Follows (c.place db tables alters).2 (log ++ ms) ∧
        db.Grants (c.place db tables alters).2 c.isWriter true ∧
        (c.place db tables alters).1.isWriter = true := by
    subst hlog
    rw [hplace]
    exact ⟨⟨rfl, view, hdb, hrun, halters⟩,
      ⟨rfl, rfl, by simp, fun _ => rfl, fun _ => Or.inr hlocked⟩, rfl⟩
  unfold Follows at h
  unfold view? at hview
  unfold mayWrite at hmay
  cases hmode : c.mode with
  | autocommit => simp [hmode] at h
  | begun =>
    simp only [hmode] at h hview hmay
    exact first h (by simpa using hmay) hview (by simp [Connection.place, hmode])
  | reading seen version =>
    -- A reader is only granted the lock while its view is of the current version.
    simp only [hmode, Bool.and_eq_true, Bool.not_eq_true', beq_iff_eq, Option.some.injEq]
      at h hview hmay
    subst hview
    exact first h.1 hmay.1 (h.2.2 hmay.2) (by simp [Connection.place, hmode])
  | writing seen altered =>
    -- The writer has the lock already, and its log becomes longer.
    simp only [hmode, Option.some.injEq] at h hview
    subst hview
    obtain ⟨hlocked, committed, hdb, hlog, haltered⟩ := h
    have hwriter : c.isWriter = true := by simp [isWriter, hmode]
    rw [hwriter]
    simp only [Connection.place, hmode]
    refine ⟨⟨hlocked, committed, hdb, Tables.runAll_append_of_ok hlog hrun, fun hno => ?_⟩,
      .refl fun _ => hlocked, rfl⟩
    rw [Bool.or_eq_false_iff] at hno
    rw [halters hno.2, haltered hno.1]

/-- A mutation is added to the log if it succeeds. -/
theorem mutate (h : c.Follows db log) (m : Mutation) :
    (c.mutate db m).2.1.Follows (c.mutate db m).2.2 (log ++ carriedOut (c.mutate db m).1 [m]) ∧
      db.Grants (c.mutate db m).2.2 c.isWriter (c.mutate db m).2.1.isWriter := by
  rcases c.mutate_cases db m with
    ⟨fault, c', hm, hc'⟩ | ⟨view, tables, alters, outcome, c', hview, hmay, hm, hc', hrun, halters⟩
  · rw [hm]
    simp only [carriedOut_error, List.append_nil, isWriter_congr hc']
    exact ⟨(follows_congr hc').2 h, .refl h.locked⟩
  · rw [hm, ← isWriter_congr hc']
    have hview : c'.view? db = some view := by simpa only [view?, hc'] using hview
    have hmay : c'.mayWrite db = true := by simpa only [mayWrite, hc'] using hmay
    obtain ⟨hfollows, hgrants, hwriter⟩ :=
      place ((follows_congr hc').2 h) hview hmay hrun halters
    exact ⟨hfollows, by rwa [hwriter]⟩

/-- A transaction that has run a mutation with success is the writer. -/
theorem isWriter_of_mutate {m : Mutation} {rows : Nat} (h : c.Follows db log)
    (hm : (c.mutate db m).1 = .ok rows) : (c.mutate db m).2.1.isWriter = true := by
  rcases c.mutate_cases db m with
    ⟨fault, c', heq, -⟩ | ⟨view, tables, alters, outcome, c', hview, hmay, heq, hc', hrun, halters⟩
  · rw [heq] at hm
    cases hm
  · rw [heq]
    have hview : c'.view? db = some view := by simpa only [view?, hc'] using hview
    have hmay : c'.mayWrite db = true := by simpa only [mayWrite, hc'] using hmay
    exact (place ((follows_congr hc').2 h) hview hmay hrun halters).2.2

/-- A query adds nothing to the log. -/
theorem select {ρ : Type} (h : c.Follows db log) (q : Query ρ) :
    (c.select db q).2.Follows db log ∧ (c.select db q).2.isWriter = c.isWriter := by
  unfold Connection.select
  cases hview : c.view? db with
  | none => exact ⟨h, rfl⟩
  | some view =>
    cases hmode : c.mode with
    | begun =>
      -- The first query fixes the view, which is that of the current version.
      simp only [view?, hmode] at hview
      simp only [Follows, hmode] at h
      exact ⟨⟨h, Nat.le_refl _, fun _ => hview⟩, by simp [isWriter, hmode]⟩
    | _ => exact ⟨h, rfl⟩

/-- A transaction can always be ended; a commit makes its log take effect, a rollback nothing. -/
theorem finish (h : c.Follows db log) (ending : Ending) :
    ∃ c' db', c.finish db ending = (.ok (), c', db') ∧ c'.mode = .autocommit ∧
      db.Releases db' c.isWriter (ending.keeps log) := by
  -- A transaction that is not the writer has nothing to commit.
  have quiet (hlog : log = []) (hwriter : c.isWriter = false) :
      db.Releases db c.isWriter (ending.keeps log) := by
    subst hlog
    rw [hwriter]
    exact ⟨.refl db, by simp, fun _ => rfl, id, fun t ht => ⟨t, ht, by cases ending <;> rfl⟩⟩
  unfold Follows at h
  cases hmode : c.mode with
  | autocommit => simp [hmode] at h
  | begun =>
    simp only [hmode] at h
    exact ⟨{ c with mode := .autocommit }, db, by simp only [Connection.finish, hmode], rfl,
      quiet h (by simp [isWriter, hmode])⟩
  | reading view version =>
    simp only [hmode] at h
    exact ⟨{ c with mode := .autocommit }, db, by simp only [Connection.finish, hmode], rfl,
      quiet h.1 (by simp [isWriter, hmode])⟩
  | writing view altered =>
    simp only [hmode] at h
    obtain ⟨hlocked, committed, hdb, hrun, haltered⟩ := h
    have hwriter : c.isWriter = true := by simp [isWriter, hmode]
    rw [hwriter]
    cases ending with
    | rollback =>
      refine ⟨{ c with mode := .autocommit }, { db with locked := false },
        by simp only [Connection.finish, hmode], rfl, ?_⟩
      exact ⟨⟨Nat.le_refl _, fun _ => rfl⟩, by simp, by simp, id, fun t ht => ⟨t, ht, rfl⟩⟩
    | commit =>
      refine ⟨{ c with mode := .autocommit }, { db with locked := false }.install view altered,
        by simp only [Connection.finish, hmode], rfl, ⟨?_, ?_⟩, ?_, by simp, ?_, fun t ht => ?_⟩
      · cases altered <;> simp [Database.install]
      · -- Only a writer that altered nothing leaves the version as it is.
        intro hversion
        cases altered with
        | false => simp [Database.install, haltered rfl, hdb]
        | true => simp [Database.install] at hversion
      · simp [Database.install]
      · intro hbare
        rw [hdb] at hbare
        cases hbare
      · obtain rfl : committed = t := Option.some.inj (hdb.symm.trans ht)
        exact ⟨view, rfl, hrun⟩

end Follows

end Connection

end ZoneStore
