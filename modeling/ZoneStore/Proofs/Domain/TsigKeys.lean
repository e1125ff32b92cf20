import ZoneStore.Proofs.Domain.UniqueKeys
import ZoneStore.Proofs.Zone.OrderingChain

/-!
# TSIG keys and their readers

A TSIG key is stored under its name and algorithm, and is read by its name alone: of the keys of a
name the reader gets one whose algorithm no other one's is ahead of (`Tables.IsLeading`). So a key
that was just stored is the one that is read unless a key of the same name has an algorithm ahead of
its own, and then one of those is. The listing has it in any case, and what the readers tell of
other names and algorithms is as before (`Backend.tsigKey_stored`).
-/

set_option autoImplicit false

namespace ZoneStore

/-! ## The order of algorithms -/

theorem orderOptional_eq_compare {α : Type} [Ord α] (a b : Option α) :
    orderOptional a b = compare a b := by
  cases a <;> cases b <;> rfl

/-- Whether an algorithm is ahead of another one: an absent one is ahead of every text, and texts
are compared by the collation. -/
def IsAhead (a b : Option String) : Prop :=
  orderOptional (a.map Text.collationKey) (b.map Text.collationKey) = .lt

instance (a b : Option String) : Decidable (IsAhead a b) := inferInstanceAs (Decidable (_ = _))

namespace IsAhead

variable {a b c : Option String}

theorem asymm (hab : IsAhead a b) : ¬ IsAhead b a := by
  rw [IsAhead, orderOptional_eq_compare] at *
  exact Std.OrientedCmp.not_lt_of_lt hab

theorem congr_left (h : a.map Text.collationKey = b.map Text.collationKey) :
    IsAhead a c ↔ IsAhead b c := by
  rw [IsAhead, IsAhead, h]

/-- What no algorithm is ahead of is ahead of whatever any algorithm is ahead of. -/
theorem of_not (h : ¬ IsAhead b a) (hbc : IsAhead b c) : IsAhead a c := by
  rw [IsAhead, orderOptional_eq_compare] at *
  refine Std.TransCmp.lt_of_isLE_of_lt ?_ hbc
  rwa [Ordering.isLE_iff_ne_gt, Std.OrientedCmp.gt_iff_lt]

/-- Of two algorithms that are not alike one is ahead of the other. -/
theorem eq_of_not (hab : ¬ IsAhead a b) (hba : ¬ IsAhead b a) :
    a.map Text.collationKey = b.map Text.collationKey := by
  rw [IsAhead, orderOptional_eq_compare] at hab hba
  have hsame : compare (a.map Text.collationKey) (b.map Text.collationKey) = .eq := by
    cases h : compare (a.map Text.collationKey) (b.map Text.collationKey) with
    | lt => exact absurd h hab
    | eq => rfl
    | gt => exact absurd (Std.OrientedCmp.gt_iff_lt.1 h) hba
  exact Std.LawfulEqCmp.eq_of_compare hsame

end IsAhead

theorem isLE_orderAlgorithms_iff {k l : TsigRow} :
    (Query.orderAlgorithms k l).isLE = true ↔ ¬ IsAhead l.algorithm k.algorithm := by
  rw [Query.orderAlgorithms, IsAhead, orderOptional_eq_compare, orderOptional_eq_compare,
    Ordering.isLE_iff_ne_gt, Std.OrientedCmp.gt_iff_lt]

/-! ## The keys of a name -/

/-- Whether a key has a name like the one asked for. -/
def TsigRow.IsNamed (k : TsigRow) (name : String) : Prop := holdsAnyCase k.name (some name) = true

instance (k : TsigRow) (name : String) : Decidable (k.IsNamed name) :=
  inferInstanceAs (Decidable (_ = _))

namespace Tables

variable {t : Tables} {name : String} {k : TsigRow}

/-- The keys of a name in the order in which the reader takes them. -/
def tsigKeysUnder (t : Tables) (name : String) : List TsigRow :=
  (t.tsigKeys.filter fun k => holdsAnyCase k.name (some name)).mergeSort fun a b =>
    (Query.orderAlgorithms a b).isLE

/-- The key has the name, and no other key of the name has an algorithm ahead of its own. -/
structure IsLeading (t : Tables) (name : String) (k : TsigRow) : Prop where
  mem : k ∈ t.tsigKeys
  named : k.IsNamed name
  leads : ∀ other ∈ t.tsigKeys, other.IsNamed name → ¬ IsAhead other.algorithm k.algorithm

theorem mem_tsigKeysUnder : k ∈ t.tsigKeysUnder name ↔ k ∈ t.tsigKeys ∧ k.IsNamed name := by
  rw [tsigKeysUnder, List.mem_mergeSort, List.mem_filter]
  rfl

theorem pairwise_tsigKeysUnder (t : Tables) (name : String) :
    (t.tsigKeysUnder name).Pairwise fun k l => ¬ IsAhead l.algorithm k.algorithm := by
  refine List.Pairwise.imp isLE_orderAlgorithms_iff.1 (List.pairwise_mergeSort ?_ ?_ _)
  · intro a b c hab hbc
    rw [isLE_orderAlgorithms_iff] at *
    intro hca
    exact hab (IsAhead.of_not hbc hca)
  · intro a b
    rw [Bool.or_eq_true, isLE_orderAlgorithms_iff, isLE_orderAlgorithms_iff]
    by_cases hba : IsAhead b.algorithm a.algorithm
    · exact Or.inr hba.asymm
    · exact Or.inl hba

/-- The first key is a leading one. -/
theorem isLeading_of_head? (h : (t.tsigKeysUnder name).head? = some k) : t.IsLeading name k := by
  obtain ⟨rest, hrest⟩ := List.head?_eq_some_iff.1 h
  have hsorted : (k :: rest).Pairwise fun k l => ¬ IsAhead l.algorithm k.algorithm :=
    hrest ▸ t.pairwise_tsigKeysUnder name
  have hmem {other : TsigRow} (hother : other ∈ k :: rest) :
      other ∈ t.tsigKeys ∧ other.IsNamed name := mem_tsigKeysUnder.1 (hrest ▸ hother)
  refine ⟨(hmem List.mem_cons_self).1, (hmem List.mem_cons_self).2, ?_⟩
  intro other hother hnamed
  have hlisted : other ∈ k :: rest := hrest ▸ mem_tsigKeysUnder.2 ⟨hother, hnamed⟩
  rcases List.mem_cons.1 hlisted with rfl | hlater
  · exact fun hahead => hahead.asymm hahead
  · exact (List.pairwise_cons.1 hsorted).1 other hlater

theorem exists_isLeading (hk : k ∈ t.tsigKeys) (hnamed : k.IsNamed name) :
    ∃ first, (t.tsigKeysUnder name).head? = some first ∧ t.IsLeading name first := by
  cases hfirst : (t.tsigKeysUnder name).head? with
  | none =>
    rw [List.head?_eq_none_iff] at hfirst
    have hlisted := mem_tsigKeysUnder.2 ⟨hk, hnamed⟩
    rw [hfirst] at hlisted
    cases hlisted
  | some first => exact ⟨first, rfl, isLeading_of_head? hfirst⟩

end Tables

/-! ## Storing a key -/

/-- The row of a key. -/
def TsigKey.toRow (key : TsigKey) (id : Int) : TsigRow :=
  ⟨id, some key.name, some key.algorithm, some key.secret⟩

/-- Whether the key is alike to another one in name and in algorithm. -/
def TsigKey.clashes (key other : TsigKey) : Bool :=
  Text.alike other.name key.name && Text.alike other.algorithm key.algorithm

namespace Tables

variable {t t' : Tables} {key : TsigKey} {name : String} {id : Int} {k : TsigRow}

/-- The tables with a key in place of the one of its name and algorithm. -/
structure Stores (t t' : Tables) (key : TsigKey) (id : Int) : Prop where
  tables : t' = { t with tsigKeys := t'.tsigKeys }
  rows : t'.tsigKeys =
    without (isTsigKey (some key.name) (some key.algorithm)) t.tsigKeys ++ [key.toRow id]

theorem isTsigKey_iff : isTsigKey (some key.name) (some key.algorithm) k = true ↔
    k.IsNamed key.name ∧
      k.algorithm.map Text.collationKey = (some key.algorithm).map Text.collationKey := by
  rw [isTsigKey, Bool.and_eq_true, TsigRow.IsNamed]
  refine and_congr_right fun _ => ?_
  cases k.algorithm with
  | none => exact iff_of_false Bool.false_ne_true (by rintro ⟨⟩)
  | some algorithm => exact Text.alike_iff.trans (Option.some_inj).symm

theorem isNamed_congr_alike {other : String} (h : Text.alike name other = true) :
    k.IsNamed name ↔ k.IsNamed other := by
  rw [Text.alike_iff] at h
  cases hname : k.name <;> simp [TsigRow.IsNamed, hname, holdsAnyCase, Text.alike, h]

namespace Stores

variable (h : t.Stores t' key id)
include h

theorem mem_iff : k ∈ t'.tsigKeys ↔
    k ∈ t.tsigKeys ∧ isTsigKey (some key.name) (some key.algorithm) k = false ∨ k = key.toRow id := by
  rw [h.rows, List.mem_append, mem_without, List.mem_singleton]

/-- Under another name there are the keys of before. -/
theorem tsigKeysUnder_of_not_alike (hname : Text.alike name key.name = false) :
    t'.tsigKeysUnder name = t.tsigKeysUnder name := by
  have hother (k : TsigRow) (hnamed : k.IsNamed key.name) :
      holdsAnyCase k.name (some name) = false := by
    cases hcolumn : k.name with
    | none => rfl
    | some column =>
      rw [TsigRow.IsNamed, hcolumn] at hnamed
      refine Bool.eq_false_iff.2 fun halike => ?_
      cases hname.symm.trans (Text.alike_trans (Text.alike_comm column name ▸ halike) hnamed)
  rw [tsigKeysUnder, h.rows, filter_without_append]
  · rfl
  · exact fun k hk => hother k (isTsigKey_iff.1 hk).1
  · exact List.forall_mem_singleton.2 (isTsigKey_iff.2 ⟨Text.alike_self _, rfl⟩)

/-- Keys of another name or algorithm are read as before. -/
theorem filter_clashes : (t'.tsigKeys.map TsigKey.ofRow).filter (fun k => !key.clashes k) =
    (t.tsigKeys.map TsigKey.ofRow).filter fun k => !key.clashes k := by
  have hreplaced (k : TsigRow) (hk : isTsigKey (some key.name) (some key.algorithm) k = true) :
      ((fun k => !key.clashes k) ∘ TsigKey.ofRow) k = false := by
    cases hname : k.name with
    | none => simp [isTsigKey, holdsAnyCase, hname] at hk
    | some name =>
      cases halgorithm : k.algorithm with
      | none => simp [isTsigKey, holdsAnyCase, halgorithm] at hk
      | some algorithm =>
        simpa [isTsigKey, holdsAnyCase, hname, halgorithm, TsigKey.clashes, TsigKey.ofRow] using hk
  rw [List.filter_map, List.filter_map, h.rows, filter_without_append hreplaced]
  exact List.forall_mem_singleton.2 (isTsigKey_iff.2 ⟨Text.alike_self _, rfl⟩)

/-- If no key of the name is ahead of the new one, the new one is the only one that leads. -/
theorem eq_of_isLeading (hname : Text.alike name key.name = true)
    (hnone : ∀ k ∈ t.tsigKeys, k.IsNamed name → ¬ IsAhead k.algorithm (some key.algorithm))
    (hk : t'.IsLeading name k) : k = key.toRow id := by
  have hnamed : (key.toRow id).IsNamed name := (Text.alike_comm key.name name).trans hname
  have hnew : ¬ IsAhead (some key.algorithm) k.algorithm :=
    hk.leads (key.toRow id) (h.mem_iff.2 (Or.inr rfl)) hnamed
  rcases h.mem_iff.1 hk.mem with ⟨hold, hother⟩ | rfl
  · -- An older key with this algorithm would have been replaced.
    have hsame := IsAhead.eq_of_not (hnone k hold hk.named) hnew
    have hreplaced := isTsigKey_iff.2 ⟨(isNamed_congr_alike hname).1 hk.named, hsame⟩
    cases hother.symm.trans hreplaced
  · rfl

/-- If a key of the name is ahead of the new one, then so is one that leads, and it led before. -/
theorem isLeading_of_isAhead {ahead : TsigRow} (hahead : ahead ∈ t.tsigKeys)
    (hnamed : ahead.IsNamed name) (hbefore : IsAhead ahead.algorithm (some key.algorithm))
    (hk : t'.IsLeading name k) :
    t.IsLeading name k ∧ IsAhead k.algorithm (some key.algorithm) := by
  -- What is replaced is at the place of the new key, so nothing of it is ahead of anything.
  have hkept {other : TsigRow} (hother : other ∈ t.tsigKeys)
      (hfirst : IsAhead other.algorithm (some key.algorithm)) : other ∈ t'.tsigKeys := by
    refine h.mem_iff.2 (Or.inl ⟨hother, Bool.eq_false_iff.2 fun hreplaced => ?_⟩)
    have hself := (IsAhead.congr_left (isTsigKey_iff.1 hreplaced).2).1 hfirst
    exact hself.asymm hself
  have hfirst : IsAhead k.algorithm (some key.algorithm) :=
    IsAhead.of_not (hk.leads ahead (hkept hahead hbefore) hnamed) hbefore
  refine ⟨⟨?_, hk.named, ?_⟩, hfirst⟩
  · rcases h.mem_iff.1 hk.mem with ⟨hold, -⟩ | rfl
    · exact hold
    · exact absurd hfirst hfirst.asymm
  · intro other hother hnamed hlater
    exact hk.leads other (hkept hother (IsAhead.of_not hlater.asymm hfirst)) hnamed hlater

end Stores

end Tables

namespace Backend

variable {t t' : Tables}

theorem answers_tsigKeys (t : Tables) :
    Answers t tsigKeys (TsigKey.sort (t.tsigKeys.map TsigKey.ofRow)) :=
  answers_fetch_map rfl fun rows => TsigKey.sort (rows.map TsigKey.ofRow)

theorem answers_tsigKey? (t : Tables) (name : String) :
    Answers t (tsigKey? name)
      ((t.tsigKeysUnder name).head?.map fun row => { TsigKey.ofRow row with name := name }) :=
  answers_fetch_map rfl fun rows => rows.head?.map fun row => { TsigKey.ofRow row with name := name }

/-- What the readers tell before and after a key was stored in the given tables. -/
structure StoresTsigKey (before : Tables) (b b' : Backend) (key : TsigKey) : Prop where
  /-- The key is listed, and the keys of other names or algorithms are those of before. -/
  listed : ∃ keys keys', (tsigKeys.run b).1 = .ok keys ∧ (tsigKeys.run b').1 = .ok keys' ∧
    key ∈ keys' ∧
    (keys'.filter fun k => !key.clashes k).Perm (keys.filter fun k => !key.clashes k)
  /-- What is read by another name is as before. -/
  others : ∀ name, Text.alike name key.name = false →
    ((tsigKey? name).run b').1 = ((tsigKey? name).run b).1
  /-- The key is read by its name and every name like it, if no key of the name is ahead of it. -/
  read : ∀ name, Text.alike name key.name = true →
    (∀ k ∈ before.tsigKeys, k.IsNamed name → ¬ IsAhead k.algorithm (some key.algorithm)) →
    ((tsigKey? name).run b').1 = .ok (some { key with name := name })
  /-- If a key of the name is ahead of it, one that led before is read. -/
  hidden : ∀ name, Text.alike name key.name = true → ∀ k ∈ before.tsigKeys, k.IsNamed name →
    IsAhead k.algorithm (some key.algorithm) →
    ∃ first, before.IsLeading name first ∧ IsAhead first.algorithm (some key.algorithm) ∧
      ((tsigKey? name).run b').1 = .ok (some { TsigKey.ofRow first with name := name })

theorem storesTsigKey_of_stores {b b' : Backend} {key : TsigKey} {id : Int} (hb : b.store.Calm)
    (hfree : b.HasFree) (ht : b.store.database.tables = some t) (hb' : b'.store.Calm)
    (hfree' : b'.HasFree) (ht' : b'.store.database.tables = some t') (h : t.Stores t' key id) :
    StoresTsigKey t b b' key where
  listed := by
    refine ⟨_, _, answers_tsigKeys t b hb hfree ht, answers_tsigKeys t' b' hb' hfree' ht', ?_, ?_⟩
    · refine List.mem_mergeSort.2 (List.mem_map.2 ⟨key.toRow id, ?_, rfl⟩)
      exact h.mem_iff.2 (Or.inr rfl)
    · have hperm (keys : List TsigKey) := (List.mergeSort_perm keys fun a b =>
        (TsigKey.order a b).isLE).filter fun k => !key.clashes k
      exact (hperm _).trans (h.filter_clashes ▸ (hperm _).symm)
  others name hname := by
    rw [answers_tsigKey? t name b hb hfree ht, answers_tsigKey? t' name b' hb' hfree' ht',
      h.tsigKeysUnder_of_not_alike hname]
  read name hname hnone := by
    have hnamed : (key.toRow id).IsNamed name := (Text.alike_comm key.name name).trans hname
    obtain ⟨first, hfirst, hleads⟩ := Tables.exists_isLeading (h.mem_iff.2 (Or.inr rfl)) hnamed
    rw [answers_tsigKey? t' name b' hb' hfree' ht', hfirst, h.eq_of_isLeading hname hnone hleads]
    rfl
  hidden name hname k hk hnamed hahead := by
    have hleading {first : TsigRow} := h.isLeading_of_isAhead hk hnamed hahead (k := first)
    have hnew : (key.toRow id).IsNamed name := (Text.alike_comm key.name name).trans hname
    obtain ⟨first, hfirst, hleads⟩ := Tables.exists_isLeading (h.mem_iff.2 (Or.inr rfl)) hnew
    refine ⟨first, (hleading hleads).1, (hleading hleads).2, ?_⟩
    rw [answers_tsigKey? t' name b' hb' hfree' ht', hfirst]
    rfl

/-- Storing a TSIG key after a run of operations. The key is listed, and all that the readers tell
of other names and algorithms is as before. Read by its name it is given back exactly as it was
stored, unless a key of that name has an algorithm ahead of its own: the reader then gives one of
those, which no other is ahead of. -/
theorem tsigKey_stored (connections : Nat) (dnssec : Bool) (hasher : Option Hasher)
    (ops : List AnyOperation) (key : TsigKey)
    (hstored : ((setTsigKey key).run (operated connections dnssec hasher ops)).1 = .ok ()) :
    ∃ before, (operated connections dnssec hasher ops).store.database.tables = some before ∧
      StoresTsigKey before (operated connections dnssec hasher ops)
        ((setTsigKey key).run (operated connections dnssec hasher ops)).2 key := by
  have hreachable := reachable_operated connections dnssec hasher ops
  obtain ⟨j, hj⟩ := hreachable.matches
  obtain ⟨j', hj'⟩ := (hreachable.operation (.setTsigKey key)).matches
  obtain ⟨before, change, hbefore, happly, hafter⟩ := exists_change_of_perform hj.calm hstored
  obtain rfl := Except.ok.inj happly
  obtain ⟨hfree, hfree'⟩ := hasFree_of_perform hj.calm hstored
  exact ⟨before, hbefore,
    storesTsigKey_of_stores hj.calm hfree hbefore hj'.calm hfree' hafter ⟨rfl, rfl⟩⟩

/-- TSIG keys of two names are stored. -/
def transfers : List AnyOperation :=
  [⟨Unit, .setTsigKey ⟨"xfr-key", "hmac-md5", "b2xk"⟩⟩,
   ⟨Unit, .setTsigKey ⟨"other-key", "hmac-md5", "b3RoZXI="⟩⟩]

/-- A backend with TSIG keys of two names. -/
def transferring : Backend := operated 8 false none transfers

/-- A key that takes the place of the only one of its name is read by a name like its own, and the
other key stays. -/
theorem tsigKey_stored_transferring :
    ((setTsigKey ⟨"XFR-key", "HMAC-MD5", "bmV3"⟩).run transferring).1 = .ok () ∧
      ((tsigKey? "xfr-key").run
        ((setTsigKey ⟨"XFR-key", "HMAC-MD5", "bmV3"⟩).run transferring).2).1 =
          .ok (some ⟨"xfr-key", "HMAC-MD5", "bmV3"⟩) ∧
      ((tsigKey? "other-key").run
        ((setTsigKey ⟨"XFR-key", "HMAC-MD5", "bmV3"⟩).run transferring).2).1 =
          ((tsigKey? "other-key").run transferring).1 := by
  obtain ⟨before, hbefore, hstores⟩ :=
    tsigKey_stored 8 false none transfers ⟨"XFR-key", "HMAC-MD5", "bmV3"⟩ rfl
  obtain rfl := Option.some.inj (hbefore.symm.trans rfl)
  exact ⟨rfl, hstores.read "xfr-key" (by decide) (by decide), hstores.others "other-key" (by decide)⟩

/-- A key is not read by its name if one of the same name has an algorithm ahead of its own. -/
theorem tsigKey_hidden :
    ¬ ∀ b : Backend, b.Reachable → ∀ key, ((setTsigKey key).run b).1 = .ok () →
      ((tsigKey? key.name).run ((setTsigKey key).run b).2).1 = .ok (some key) := by
  intro h
  have hread := h transferring (reachable_operated 8 false none _)
    ⟨"xfr-key", "hmac-sha256", "c2VjcmV0"⟩ rfl
  obtain ⟨j, hj⟩ := ((reachable_operated 8 false none _).operation
    (.setTsigKey ⟨"xfr-key", "hmac-sha256", "c2VjcmV0"⟩)).matches
  have hgiven := (answers_tsigKey? _ "xfr-key" _ hj.calm (by decide) rfl).symm.trans hread
  rw [Tables.tsigKeysUnder, List.mergeSort_of_pairwise (by decide)] at hgiven
  revert hgiven
  decide

end Backend

end ZoneStore
