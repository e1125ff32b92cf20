import ZoneStore.Proofs.Backend.Journal

/-!
# Recording what actions do

`Records x deed` says of an action on a backend that whatever it does is the given deed, if it
succeeds, and nothing, if it fails: a journal that matches the backend still does so once the deed
is noted. The mode of operation stays. The lemmas below give the deed of every kind of action:
reading, what takes effect at once, and opening, working in and ending a transaction.
-/

set_option autoImplicit false

namespace ZoneStore

namespace Backend

variable {α β : Type}

/-- On every backend the action does the given deed if it succeeds, and nothing if it fails. -/
def Records (x : BackendM α) (deed : Backend → Deed) : Prop :=
  ∀ (b : Backend) (j : Journal), j.Matches b →
    (j.record (deed b) (x.run b).1.isOk).Matches (x.run b).2 ∧ b.SameMode (x.run b).2

theorem OnlyReads.matches {x : BackendM α} (hx : OnlyReads x) {b : Backend} {j : Journal}
    (hj : j.Matches b) : j.Matches (x.run b).2 ∧ b.SameMode (x.run b).2 := by
  obtain ⟨tables, htables, -⟩ := hj.committed
  obtain ⟨-, hcalm, hsame⟩ := hx b tables hj.calm htables
  have htransactions := transaction?_congr (fun _ => by rw [hsame.registry]) hsame.held
  exact ⟨hj.same hcalm (hsame.registry ▸ hj.filled) htransactions hsame.database, hsame.toSameMode⟩

theorem OnlyReads.records {x : BackendM α} (hx : OnlyReads x) : Records x fun _ => .reading := by
  intro b j hj
  have hread := hx.matches hj
  cases (x.run b).1 <;> exact hread

/-- The deed that is told by what is read first. -/
def deedAfter (deed : α → Deed) : Except Fault α → Deed
  | .ok a => deed a
  | .error _ => .reading

/-- What is read first tells what is done, but does nothing itself. -/
theorem OnlyReads.bind_records {x : BackendM α} {f : α → BackendM β} {deed : α → Deed}
    (hx : OnlyReads x) (hf : ∀ a, Records (f a) fun _ => deed a) :
    Records (x >>= f) fun b => deedAfter deed (x.run b).1 := by
  intro b j hj
  obtain ⟨hread, hmode⟩ := hx.matches hj
  simp only [Action.run_bind]
  rcases hrun : x.run b with ⟨outcome, b'⟩
  rw [hrun] at hread hmode
  cases outcome with
  | error fault => exact ⟨hread, hmode⟩
  | ok a =>
    obtain ⟨hmatches, hmode'⟩ := hf a b' j hread
    exact ⟨hmatches, hmode.trans hmode'⟩

/-- The state is there to be read. -/
theorem records_get {f : Backend → BackendM α} {deed : Backend → Backend → Deed}
    (hf : ∀ b, Records (f b) (deed b)) : Records (get >>= f) fun b => deed b b :=
  fun b j hj => hf b b j hj

theorem Records.guarded {x : BackendM α} {deed : Backend → Deed} (hx : Records x deed) :
    Records (do requireDnssec; x) deed := by
  intro b j hj
  cases hdnssec : b.dnssec with
  | true =>
    rw [run_guarded_of_true hdnssec]
    exact hx b j hj
  | false =>
    rw [run_guarded_of_false hdnssec]
    exact ⟨hj, .refl b⟩

/-! ### On the committed tables -/

/-- An action on the store that carries out mutations as a whole is a block of its own. -/
theorem records_onStore {x : StoreM α} {ms : List Mutation}
    (hx : ∀ s : Store, s.Calm → s.Carries .full (x.run s).2 (carriedOut (x.run s).1 ms)) :
    Records (onStore x) fun _ => .atOnce ms := by
  intro b j hj
  obtain ⟨hcalm, hfree, hmoves⟩ := hx b.store hj.calm
  rw [run_onStore]
  cases houtcome : (x.run b.store).1 with
  | error fault =>
    -- A failure moves nothing, so the blocks stay as they are.
    rw [houtcome] at hmoves
    exact ⟨hj.moves hcalm hmoves (List.append_nil _).symm, sameMode_of_free hfree⟩
  | ok a =>
    rw [houtcome] at hmoves
    exact ⟨hj.moves hcalm hmoves (by simp), sameMode_of_free hfree⟩

theorem records_direct {x : ConnectionM α} {ms : List Mutation} (hx : Work.Does x ms) :
    Records (onStore (Store.direct x)) fun _ => .atOnce ms :=
  records_onStore fun _ hs => Store.direct_carries hx hs

/-- An action on a connection that carries out nothing is not noted. -/
theorem records_direct_reading {x : ConnectionM α} (hx : Work.Does x []) :
    Records (onStore (Store.direct x)) fun _ => .reading := by
  intro b j hj
  obtain ⟨hcalm, hfree, hmoves⟩ := Store.direct_carries hx hj.calm
  rw [carriedOut_nil] at hmoves
  rw [run_onStore]
  have hnext := hj.moves hcalm hmoves (List.append_nil _).symm
  refine ⟨?_, sameMode_of_free hfree⟩
  cases ((Store.direct x).run b.store).1 <;> exact hnext

theorem records_atomically {x : ConnectionM α} {ms : List Mutation} (hx : Work.Logs x ms) :
    Records (onStore (Store.atomically x)) fun _ => .atOnce ms :=
  records_onStore fun _ hs => Store.atomically_carries hx hs

theorem records_perform (m : Mutation) : Records (perform m) fun _ => .atOnce [m] := by
  intro b j hj
  have hdirect := records_direct (Work.does_perform m) b j hj
  simp only [perform, Action.run_bind]
  rcases hrun : (onStore (Store.perform m)).run b with ⟨outcome, b'⟩
  rw [show (onStore (Store.direct (Work.perform m))).run b = (outcome, b') from hrun] at hdirect
  cases outcome <;> exact hdirect

/-! ## Numbered transactions -/

/-- The first mutations of a transaction that is started for a zone. -/
def openingLog (zone : Int) : List Mutation := if 0 < zone then [.deleteZone (some zone)] else []

/-- A transaction that is opened has its first mutations in its log and keeps a connection; one that
fails to open leaves nothing. -/
theorem run_opener {s : Store} (hs : s.Calm) (zone : Int) :
    match (opener zone).run s with
    | (.ok c, t) => s.Opens .full t c (openingLog zone)
    | (.error _, t) => s.Carries .full t [] := by
  by_cases hfree : s.HasFree
  · obtain ⟨c, t, hbegin, hmode, ht, hdb, hless⟩ := hs.begin hfree
    have hlog := Connection.follows_of_begun hmode t.database
    have hwriter := Connection.isWriter_of_begun hmode
    simp only [opener, Action.run_bind, hbegin]
    by_cases hzone : 0 < zone
    · rw [if_pos hzone, openingLog, if_pos hzone]
      have hwithin := Store.within_logged (Work.does_perform (.deleteZone (some zone))).logs
        ht hdb hless hlog hwriter
      rw [Action.run_bind]
      rcases hrun : (Store.within c (Work.perform (.deleteZone (some zone)))).run t with
        ⟨outcome, u⟩
      rw [hrun] at hwithin
      cases outcome <;> exact hwithin
    · rw [if_neg hzone, openingLog, if_neg hzone]
      exact ⟨ht, hless, hlog, by rw [hwriter, hdb]; exact .idle _⟩
  · simp only [opener, Action.run_bind, Store.run_begin_of_none hfree]
    exact hs.carries_nil

theorem transaction?_registered (b : Backend) (id : Int) (c : Connection) :
    (registered b id c).transaction? = Function.update b.transaction? (.numbered id) (some c) :=
  transaction?_numbered (fun l => b.registry.connection?_enter id l c) rfl

/-- A transaction that is registered keeps the connection that its opener took. -/
theorem sameMode_registered {b : Backend} {s : Store} {id : Int}
    (hid : b.registry.contains id = false) (hfree : s.pool.free + 1 = b.store.pool.free)
    (c : Connection) : b.SameMode (registered { b with store := s } id c) := by
  refine ⟨rfl, rfl, ?_⟩
  have hopened := Registry.opened_enter hid c
  show s.pool.free + (b.registry.enter id c).opened + b.held.size = b.connections
  unfold connections
  omega

theorem records_startTransaction (id zone : Int) :
    Records (startTransaction id zone) fun _ => .start (.numbered id) (openingLog zone) := by
  intro b j hj
  cases hid : b.registry.contains id with
  | true =>
    -- A conflict is counted and leaves no other trace.
    rw [startTransaction, run_startWith_of_contains hid]
    exact ⟨hj.same hj.calm hj.filled (transaction?_congr (fun _ => rfl) rfl) rfl, rfl, rfl, rfl⟩
  | false =>
    have hnone : b.transaction? (.numbered id) = none := Registry.connection?_of_free hid
    have hopener := run_opener hj.calm zone
    rw [startTransaction, run_startWith_of_free hid]
    rcases hrun : (opener zone).run b.store with ⟨outcome, t⟩
    rw [hrun] at hopener
    cases outcome with
    | error fault =>
      -- The opener has rolled back what it did, and the number is released.
      exact ⟨hj.moves hopener.calm hopener.moves (List.append_nil _).symm,
        sameMode_of_free hopener.free⟩
    | ok c =>
      refine ⟨?_, sameMode_registered hid hopener.free c⟩
      refine hj.work hopener.calm (hj.filled.insert id _ c) (transaction?_registered _ id c) ?_
        hopener.follows
      rw [hnone]
      exact hopener.grants

/-- A number with a part in the journal is in use. -/
theorem contains_of_pending {b : Backend} {j : Journal} {id : Int} {log : List Mutation}
    (hj : j.Matches b) (hlog : j.pending (.numbered id) = some log) :
    b.registry.contains id = true := by
  cases hfind : b.registry.connection? id with
  | some c => exact Registry.contains_of_connection? hfind
  | none =>
    rw [hj.pending_eq_none (h := .numbered id) hfind] at hlog
    cases hlog

/-- Contenders for one number start one transaction together, and only if the number is free. -/
theorem matches_contend (id : Int) (contenders : Nat) {b : Backend} {j : Journal}
    (hj : j.Matches b) : ∃ outcomes, ((contend id contenders).run b).1 = .ok outcomes ∧
      (j.record (.start (.numbered id) []) (outcomes.any Except.isOk)).Matches
        ((contend id contenders).run b).2 ∧ b.SameMode ((contend id contenders).run b).2 ∧
      (b.registry.contains id = true → outcomes.any Except.isOk = false) := by
  induction contenders generalizing b j with
  | zero => exact ⟨[], rfl, hj, .refl b, fun _ => rfl⟩
  | succ n ih =>
    obtain ⟨hfirst, hmode⟩ := records_startTransaction id 0 b j hj
    rcases hstart : (startTransaction id 0).run b with ⟨outcome, b'⟩
    rw [hstart] at hfirst hmode
    obtain ⟨outcomes, houtcomes, hmatches, hmode', hlater⟩ := ih hfirst
    rcases hrest : (contend id n).run b' with ⟨_, b''⟩
    simp only [hrest] at houtcomes hmatches hmode'
    subst houtcomes
    have hrun : (contend id (n + 1)).run b = (.ok (outcome :: outcomes), b'') := by
      simp [contend, hstart, hrest]
    rw [hrun]
    refine ⟨outcome :: outcomes, rfl, ?_, hmode.trans hmode', ?_⟩
    · cases outcome with
      | error fault => exact hmatches
      | ok _ =>
        -- Once the transaction is open, the number is taken for the others.
        have hcontains : b'.registry.contains id = true :=
          contains_of_pending hfirst (Function.update_self ..)
        rw [hlater hcontains] at hmatches
        exact hmatches
    · intro hcontains
      rw [startTransaction, run_startWith_of_contains hcontains] at hstart
      obtain ⟨rfl, rfl⟩ := Prod.mk.inj hstart
      exact hlater hcontains

/-- Work on the connection of an open transaction. -/
theorem matches_work {b b' : Backend} {j : Journal} {h : Handle} {c : Connection}
    {x : ConnectionM α} {ms : List Mutation} (hx : Work.LogsWhole x ms) (hj : j.Matches b)
    (hc : b.transaction? h = some c) (hstore : b'.store = (x.run ⟨c, b.store⟩).2.store)
    (hfilled : b'.registry.Filled)
    (htransactions : b'.transaction? =
      Function.update b.transaction? h (some (x.run ⟨c, b.store⟩).2.connection)) :
    (j.record (.work h ms) (x.run ⟨c, b.store⟩).1.isOk).Matches b' := by
  obtain ⟨log, hlog, hfollows⟩ := hj.pending hc
  have hlogged := hx ⟨c, b.store⟩ log hj.calm.repertoire hfollows
  have hcalm := Store.CalmWith.of_work hj.calm hlogged.repertoire hlogged.pool
  have hgrants := hlogged.grants
  rw [← hstore] at hcalm hgrants
  have hnext := hj.work hcalm hfilled htransactions (by simpa [hc] using hgrants)
    (by simpa [hstore] using hlogged.follows)
  cases houtcome : (x.run ⟨c, b.store⟩).1 with
  | ok a =>
    rw [houtcome, carriedOut_ok] at hnext
    simp only [Journal.record, Except.isOk, Except.toBool, if_true, Journal.note, hlog]
    exact hnext
  | error fault =>
    -- The log is as before, so noting it again changes nothing.
    rw [houtcome, carriedOut_error, List.append_nil, ← hlog, Function.update_eq_self] at hnext
    exact hnext

/-- Work in a numbered transaction. -/
theorem records_inTransaction {id : Int} {x : ConnectionM α} {ms : List Mutation}
    (hx : Work.LogsWhole x ms) : Records (inTransaction id x) fun _ => .work (.numbered id) ms := by
  intro b j hj
  cases hfind : b.registry.connection? id with
  | none =>
    rw [run_inTransaction_of_none hfind]
    exact ⟨hj, .refl b⟩
  | some c =>
    rw [run_inTransaction_of_some hfind]
    have hc : b.transaction? (.numbered id) = some c := hfind
    refine ⟨matches_work hx hj hc rfl (hj.filled.put hfind _)
      (transaction?_numbered (fun l => Registry.connection?_put hfind _ l) rfl), rfl, rfl, ?_⟩
    -- The connection stays that of the transaction.
    obtain ⟨log, -, hfollows⟩ := hj.pending hc
    have hpool := (hx ⟨c, b.store⟩ log hj.calm.repertoire hfollows).pool
    show (x.run ⟨c, b.store⟩).2.store.pool.free + (b.registry.put id _).opened + b.held.size =
      b.connections
    rw [Registry.opened_put hfind, hpool]
    rfl

theorem records_endTransaction (id : Int) (ending : Ending) :
    Records (endTransaction id ending) fun _ => .finish (.numbered id) ending := by
  intro b j hj
  cases hfind : b.registry.connection? id with
  | none =>
    rw [endTransaction, run_endWith_of_free (hj.filled.free_of_connection? hfind)]
    exact ⟨hj, .refl b⟩
  | some c =>
    have hc : b.transaction? (.numbered id) = some c := hfind
    obtain ⟨log, hlog, hfollows⟩ := hj.pending hc
    obtain ⟨t, hclose, ht, hmore, hreleases⟩ :=
      Store.close_releases hj.calm hfollows (Repertoire.endingFault?_full ending)
    rw [endTransaction, run_endWith_of_some hfind, hclose]
    refine ⟨hj.finish hc hlog ht (hj.filled.erase id) ?_ ending hreleases, rfl, rfl, ?_⟩
    · exact transaction?_numbered (fun l => Registry.connection?_erase _ id l) rfl
    · have hopened := Registry.opened_erase hfind
      show t.pool.free + (b.registry.erase id).opened + b.held.size = b.connections
      unfold connections
      omega

/-- A commit that succeeds has given a connection back. -/
theorem hasFree_of_commit {b : Backend} {j : Journal} (hj : j.Matches b) {id : Int}
    (h : ((commitTransaction id).run b).1 = .ok ()) :
    ((commitTransaction id).run b).2.HasFree := by
  rw [commitTransaction, endTransaction] at h ⊢
  cases hfind : b.registry.connection? id with
  | none =>
    rw [run_endWith_of_free (hj.filled.free_of_connection? hfind)] at h
    cases h
  | some c =>
    obtain ⟨log, -, hfollows⟩ := hj.pending (h := .numbered id) hfind
    obtain ⟨t, hclose, -, hmore, -⟩ :=
      Store.close_releases hj.calm hfollows (Repertoire.endingFault?_full .commit)
    rw [run_endWith_of_some hfind, hclose]
    exact Nat.lt_of_lt_of_eq (Nat.succ_pos _) hmore.symm

/-! ## Held transactions -/

/-- Without a transaction under the name there is nothing to note. -/
theorem record_of_pending_none {j : Journal} {h : Handle} (hlog : j.pending h = none)
    (done : Bool) : (∀ ms, j.record (.work h ms) done = j) ∧
      ∀ ending, j.record (.finish h ending) done = j := by
  cases done <;> simp [Journal.record, Journal.note, hlog]

/-- A held transaction that is worked in keeps its connection. -/
theorem sameMode_insert_held {b : Backend} {s : Store} {name : String} {c : Connection}
    (hfind : b.held.find? name = some c) (hpool : s.pool = b.store.pool) (d : Connection) :
    b.SameMode { b with store := s, held := b.held.insert name d } := by
  refine ⟨rfl, rfl, ?_⟩
  have hsize := Registry.size_insert_of_contains (r := b.held) (k := name)
    (by rw [Registry.contains, hfind]; rfl) d
  show s.pool.free + b.registry.opened + (b.held.insert name d).size = b.connections
  rw [hsize, hpool]
  rfl

/-- A held transaction that is ended gives its connection back. -/
theorem sameMode_erase_held {b : Backend} {s : Store} {name : String} {c : Connection}
    (hfind : b.held.find? name = some c) (hfree : s.pool.free = b.store.pool.free + 1) :
    b.SameMode { b with store := s, held := b.held.erase name } := by
  refine ⟨rfl, rfl, ?_⟩
  have hsize := Registry.size_erase (r := b.held) (k := name)
    (Registry.contains_iff_mem_keys.1 (by rw [Registry.contains, hfind]; rfl))
  show s.pool.free + b.registry.opened + (b.held.erase name).size = b.connections
  unfold connections
  omega

/-- Work in a held transaction. -/
theorem records_inHeld {name : String} {x : ConnectionM α} {ms : List Mutation}
    (hx : Work.LogsWhole x ms) : Records (inHeld name x) fun _ => .work (.named name) ms := by
  intro b j hj
  cases hfind : b.held.find? name with
  | none =>
    have hrun : (inHeld name x).run b = (.ok none, b) := by simp [inHeld, hfind]
    rw [hrun, (record_of_pending_none (hj.pending_eq_none (h := .named name) hfind) _).1]
    exact ⟨hj, .refl b⟩
  | some c =>
    have hc : b.transaction? (.named name) = some c := hfind
    have hrun : (inHeld name x).run b =
        ((x.run ⟨c, b.store⟩).1.map some,
          { b with
            store := (x.run ⟨c, b.store⟩).2.store
            held := b.held.insert name (x.run ⟨c, b.store⟩).2.connection }) := by
      simp only [inHeld, Action.run_bind, Action.run_get, hfind, run_onStore, Store.run_runOn,
        Action.run_modify, Action.run_ofExcept]
      cases (x.run ⟨c, b.store⟩).1 <;> rfl
    have hok : ((x.run ⟨c, b.store⟩).1.map some).isOk = (x.run ⟨c, b.store⟩).1.isOk := by
      cases (x.run ⟨c, b.store⟩).1 <;> rfl
    obtain ⟨log, -, hfollows⟩ := hj.pending hc
    rw [hrun, hok]
    exact ⟨matches_work hx hj hc rfl hj.filled
      (transaction?_named (fun _ => rfl) fun l => Registry.find?_insert _ name l _),
      sameMode_insert_held hfind (hx ⟨c, b.store⟩ log hj.calm.repertoire hfollows).pool _⟩

theorem records_endHeld (name : String) (ending : Ending) :
    Records (endHeld name ending) fun _ => .finish (.named name) ending := by
  intro b j hj
  cases hfind : b.held.find? name with
  | none =>
    have hrun : (endHeld name ending).run b = (.ok none, b) := by simp [endHeld, hfind]
    rw [hrun, (record_of_pending_none (hj.pending_eq_none (h := .named name) hfind) _).2]
    exact ⟨hj, .refl b⟩
  | some c =>
    have hc : b.transaction? (.named name) = some c := hfind
    obtain ⟨log, hlog, hfollows⟩ := hj.pending hc
    obtain ⟨t, hclose, ht, hmore, hreleases⟩ :=
      Store.close_releases hj.calm hfollows (Repertoire.endingFault?_full ending)
    have hrun : (endHeld name ending).run b =
        (.ok (some ()), { b with store := t, held := b.held.erase name }) := by
      simp [endHeld, hfind, hclose]
    rw [hrun]
    refine ⟨hj.finish hc hlog ht ?_ ?_ ending hreleases, sameMode_erase_held hfind hmore⟩
    · exact hj.filled
    · exact transaction?_named (fun _ => rfl) fun l => Registry.find?_erase _ name l

theorem records_dropHeld (name : String) :
    Records (dropHeld name) fun _ => .finish (.named name) .rollback := by
  intro b j hj
  cases hfind : b.held.find? name with
  | none =>
    have hrun : (dropHeld name).run b = (.ok none, b) := by simp [dropHeld, hfind]
    rw [hrun, (record_of_pending_none (hj.pending_eq_none (h := .named name) hfind) _).2]
    exact ⟨hj, .refl b⟩
  | some c =>
    have hc : b.transaction? (.named name) = some c := hfind
    obtain ⟨log, hlog, hfollows⟩ := hj.pending hc
    obtain ⟨hcalm, hreleases⟩ := hj.calm.release_follows hfollows
    have hrun : (dropHeld name).run b =
        (.ok (some ()), { b with store := b.store.release c, held := b.held.erase name }) := by
      simp [dropHeld, hfind]
    rw [hrun]
    refine ⟨hj.finish hc hlog hcalm ?_ ?_ .rollback hreleases,
      sameMode_erase_held hfind (Store.free_release b.store c)⟩
    · exact hj.filled
    · exact transaction?_named (fun _ => rfl) fun l => Registry.find?_erase _ name l

/-- A transaction that is held under a name takes the place of the one that was held under it, which
is rolled back. -/
theorem records_holdTransaction (name : String) :
    Records (holdTransaction name) fun _ => .start (.named name) [] := by
  intro b j hj
  by_cases hfree : b.HasFree
  · obtain ⟨c, t, hbegin, hmode, ht, hdb, hless⟩ := hj.calm.begin hfree
    have hfollows := Connection.follows_of_begun hmode
    have hgrants (db : Database) : db.Grants db false c.isWriter := by
      rw [Connection.isWriter_of_begun hmode]
      exact .idle db
    cases hfind : b.held.find? name with
    | none =>
      have hrun : (holdTransaction name).run b =
          (.ok (), { b with store := t, held := b.held.insert name c }) := by
        simp [holdTransaction, hbegin, hfind]
      have hnone : b.transaction? (.named name) = none := hfind
      rw [hrun]
      refine ⟨hj.work ht hj.filled (transaction?_named (fun _ => rfl)
        fun l => Registry.find?_insert _ name l _) ?_ (hfollows _), rfl, rfl, ?_⟩
      · rw [hnone]
        exact hdb ▸ hgrants _
      · have hsize := Registry.size_insert_of_free (r := b.held) (k := name)
          (by rw [Registry.contains, hfind]; rfl) c
        show t.pool.free + b.registry.opened + (b.held.insert name c).size = b.connections
        unfold connections
        omega
    | some old =>
      have hc : b.transaction? (.named name) = some old := hfind
      obtain ⟨log, hlog, hold⟩ := hj.pending hc
      obtain ⟨hcalm, hreleases⟩ := ht.release_follows (hdb ▸ hold)
      have hrun : (holdTransaction name).run b =
          (.ok (), { b with store := t.release old, held := b.held.insert name c }) := by
        simp [holdTransaction, hbegin, hfind]
      rw [hrun]
      -- The old transaction ends before the new one is there.
      let ended : Backend := { b with store := t.release old, held := b.held.erase name }
      have htransactions :
          ended.transaction? = Function.update b.transaction? (.named name) none :=
        transaction?_named (fun _ => rfl) fun l => Registry.find?_erase _ name l
      have hfilled : ended.registry.Filled := hj.filled
      have hended : (j.note (.finish (.named name) .rollback)).Matches ended :=
        hj.finish hc hlog hcalm hfilled htransactions .rollback (hdb ▸ hreleases)
      have hnone : ended.transaction? (.named name) = none := by
        rw [htransactions, Function.update_self]
      have hjournal : j.note (.start (.named name) []) =
          { j.note (.finish (.named name) .rollback) with
            pending := Function.update (j.note (.finish (.named name) .rollback)).pending
              (.named name) (some []) } := by
        simp [Journal.note, hlog]
      refine ⟨?_, rfl, rfl, ?_⟩
      · -- Noting the new transaction overwrites the part of the old one.
        show (j.note (.start (.named name) [])).Matches _
        rw [hjournal]
        refine hended.work hcalm hfilled (transaction?_named (fun _ => rfl) fun l => ?_)
          (hnone ▸ hgrants _) (hfollows _)
        show (b.held.insert name c).find? l =
          if l = name then some c else (b.held.erase name).find? l
        by_cases heq : l = name <;> simp [Registry.find?_insert, Registry.find?_erase, heq]
      · -- The new transaction keeps one connection, and the old one has given one back.
        have hsize := Registry.size_insert_of_contains (r := b.held) (k := name)
          (by rw [Registry.contains, hfind]; rfl) c
        show t.pool.free + 1 + b.registry.opened + (b.held.insert name c).size = b.connections
        rw [hsize, hless]
        rfl
  · have hrun : (holdTransaction name).run b = (.error (.database .noConnection), b) := by
      simp only [holdTransaction, Action.run_bind, run_onStore, Store.run_begin_of_none hfree]
    rw [hrun]
    exact ⟨hj, .refl b⟩

end Backend

end ZoneStore
