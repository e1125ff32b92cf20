import ZoneStore.Proofs.Table.Replay
import ZoneStore.Zone.Update

/-!
# The statements of zone updates

Every zone update is a list of mutations, and what holds of the statements that an update is made
of holds of each mutation in its list (`Update.forall_mem_recordSet` and the lemmas after it). In
particular no zone update is ever refused by the tables: its mutations insert records, insert
comments all of whose columns are given, delete, and revise. So an update is only refused as a
whole, by a lock.
-/

set_option autoImplicit false

namespace ZoneStore

namespace Update

/-! ## The mutations of an update -/

variable {P : Mutation → Prop}

theorem forall_mem_recordSet {dnssec : Bool} {zone : Int} {qname qtype : String}
    {records : List ResourceRecord}
    (hrecords : P (.deleteRecords (some zone) (some qname) (typeScope qtype)))
    (hcomments : P (.deleteRecordSetComments (some zone) (some qname) (some qtype)))
    (hinsertion : ∀ r ∈ records, P (r.insertion dnssec "")) :
    ∀ m ∈ recordSet dnssec zone qname qtype records, P m := by
  intro m hm
  rcases List.mem_cons.1 hm with rfl | hm
  · exact hrecords
  · rcases List.mem_append.1 hm with hm | hm
    · split at hm
      · obtain rfl := List.mem_singleton.1 hm
        exact hcomments
      · cases hm
    · obtain ⟨r, hr, rfl⟩ := List.mem_map.1 hm
      exact hinsertion r hr

theorem forall_mem_emptyNonTerminals {dnssec : Bool} {zone : Int} {names : TextMap Bool}
    (h : ∀ name ∈ names.keys, ∀ auth,
      P (.insertEmptyNonTerminal (some zone) (some name) none auth)) :
    ∀ m ∈ emptyNonTerminals dnssec zone names, P m := by
  intro m hm
  obtain ⟨n, hn, rfl⟩ := List.mem_map.1 hm
  exact h n.1 (List.mem_map_of_mem hn) _

theorem forall_mem_hashedEmptyNonTerminals {hasher : Option Hasher} {zone : Int}
    {zoneName : String} {names : TextMap Bool} {narrow : Bool}
    (h : ∀ name ∈ names.keys, ∀ key auth,
      P (.insertEmptyNonTerminal (some zone) (some name) key auth)) :
    ∀ m ∈ hashedEmptyNonTerminals hasher zone zoneName names narrow, P m := by
  intro m hm
  obtain ⟨n, hn, rfl⟩ := List.mem_map.1 hm
  exact h n.1 (List.mem_map_of_mem hn) _ _

theorem forall_mem_exchangeEmptyNonTerminals {zone : Int} {insert erase : TextMap Unit}
    {removeAll : Bool} (hall : P (.removeEmptyNonTerminals (some zone)))
    (hone : ∀ name, P (.removeEmptyNonTerminal (some zone) (some name)))
    (hinsert : ∀ name ∈ insert.keys,
      P (.insertEmptyNonTerminal (some zone) (some name) none (some 1))) :
    ∀ m ∈ exchangeEmptyNonTerminals zone insert erase removeAll, P m := by
  intro m hm
  rcases List.mem_append.1 hm with hm | hm
  · split at hm
    · obtain rfl := List.mem_singleton.1 hm
      exact hall
    · obtain ⟨qname, -, rfl⟩ := List.mem_map.1 hm
      exact hone qname
  · obtain ⟨qname, hqname, rfl⟩ := List.mem_map.1 hm
    exact hinsert qname hqname

theorem forall_mem_comments {zone : Int} {qname qtype : String} {given : List Comment}
    (hdelete : P (.deleteRecordSetComments (some zone) (some qname) (some qtype)))
    (hinsertion : ∀ c ∈ given, P c.insertion) :
    ∀ m ∈ comments zone qname qtype given, P m := by
  intro m hm
  rcases List.mem_cons.1 hm with rfl | hm
  · exact hdelete
  · obtain ⟨c, hc, rfl⟩ := List.mem_map.1 hm
    exact hinsertion c hc

end Update

/-! ## Updates that are never refused -/

theorem neverRefused_insertion (dnssec : Bool) (ordername : String) (r : ResourceRecord) :
    (r.insertion dnssec ordername).NeverRefused :=
  fun _ => ⟨_, rfl⟩

/-- A comment has a value for each column that takes no `NULL`. -/
theorem neverRefused_commentInsertion (c : Comment) : c.insertion.NeverRefused := fun _ => ⟨_, rfl⟩

namespace Update

theorem neverRefused_recordSet (dnssec : Bool) (zone : Int) (qname qtype : String)
    (records : List ResourceRecord) :
    ∀ m ∈ recordSet dnssec zone qname qtype records, m.NeverRefused :=
  forall_mem_recordSet (fun _ => ⟨_, rfl⟩) (fun _ => ⟨_, rfl⟩)
    fun r _ => neverRefused_insertion dnssec "" r

theorem neverRefused_emptyNonTerminals (dnssec : Bool) (zone : Int) (names : TextMap Bool) :
    ∀ m ∈ emptyNonTerminals dnssec zone names, m.NeverRefused :=
  forall_mem_emptyNonTerminals fun _ _ _ _ => ⟨_, rfl⟩

theorem neverRefused_hashedEmptyNonTerminals (hasher : Option Hasher) (zone : Int)
    (zoneName : String) (names : TextMap Bool) (narrow : Bool) :
    ∀ m ∈ hashedEmptyNonTerminals hasher zone zoneName names narrow, m.NeverRefused :=
  forall_mem_hashedEmptyNonTerminals fun _ _ _ _ _ => ⟨_, rfl⟩

theorem neverRefused_exchangeEmptyNonTerminals (zone : Int) (insert erase : TextMap Unit)
    (removeAll : Bool) :
    ∀ m ∈ exchangeEmptyNonTerminals zone insert erase removeAll, m.NeverRefused :=
  forall_mem_exchangeEmptyNonTerminals (fun _ => ⟨_, rfl⟩) (fun _ _ => ⟨_, rfl⟩)
    fun _ _ _ => ⟨_, rfl⟩

theorem neverRefused_order (zone : Int) (qname : String) (qtype ordername : Option String)
    (auth : Bool) : (order zone qname qtype ordername auth).NeverRefused :=
  fun _ => ⟨_, rfl⟩

theorem neverRefused_comments (zone : Int) (qname qtype : String) (given : List Comment) :
    ∀ m ∈ comments zone qname qtype given, m.NeverRefused :=
  forall_mem_comments (fun _ => ⟨_, rfl⟩) fun c _ => neverRefused_commentInsertion c

end Update

end ZoneStore
