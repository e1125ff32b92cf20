import ZoneStore.Backend.State

/-!
# TSIG keys

A TSIG key is stored under its name and algorithm, in place of a key that is alike in both. Reading
by name gives one key, the one with the least algorithm, under the name asked for.
-/

set_option autoImplicit false

namespace ZoneStore

/-- A TSIG key. -/
structure TsigKey where
  /-- The name. -/
  name : String
  /-- The algorithm. -/
  algorithm : String
  /-- The secret, as it is stored. -/
  secret : String
deriving DecidableEq, Repr

namespace TsigKey

/-- Reads a row; absent texts are empty. -/
def ofRow (row : TsigRow) : TsigKey :=
  ⟨row.name.getD "", row.algorithm.getD "", row.secret.getD ""⟩

/-- The order of TSIG keys: by name, algorithm and secret. -/
def order (a b : TsigKey) : Ordering :=
  (compare a.name b.name).then <|
  (compare a.algorithm b.algorithm).then <|
  compare a.secret b.secret

/-- The keys in increasing order. -/
def sort (keys : List TsigKey) : List TsigKey := keys.mergeSort fun a b => (order a b).isLE

end TsigKey

namespace Backend

/-- The TSIG key of a name. -/
def tsigKey? (name : String) : BackendM (Option TsigKey) := do
  let rows ← fetch (.tsigKeysOfName (some name))
  return rows.head?.map fun row => { TsigKey.ofRow row with name := name }

/-- Stores a TSIG key in place of the one of that name and algorithm. -/
def setTsigKey (key : TsigKey) : BackendM Unit :=
  perform (.setTsigKey (some key.name) (some key.algorithm) (some key.secret))

/-- Deletes the TSIG keys of a name. -/
def deleteTsigKey (name : String) : BackendM Unit := perform (.deleteTsigKey (some name))

/-- Every TSIG key. -/
def tsigKeys : BackendM (List TsigKey) := do
  return TsigKey.sort ((← fetch .tsigKeys).map TsigKey.ofRow)

end Backend

end ZoneStore
