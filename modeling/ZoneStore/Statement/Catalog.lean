import ZoneStore.Statement.Arguments

/-!
# Catalogs

A catalog holds compiled statements by name. It is built from templates; where a name is listed more
than once the last template counts, and one malformed template refuses the whole list
(`ofTemplates`).
-/

set_option autoImplicit false

namespace ZoneStore

/-- Compiled statements with their names, in the order in which they were listed. -/
structure Catalog where
  /-- The listed statements; the last one of a name is the one that counts. -/
  entries : List (String × CompiledStatement)
deriving DecidableEq, Repr

namespace Catalog

/-- Compiles one entry of a list of templates. -/
def compileEntry (entry : String × String) : Except Fault (String × CompiledStatement) :=
  match Template.compile entry.2 with
  | .ok statement => .ok (entry.1, statement)
  | .error cause => .error (.malformedTemplate cause)

/-- Compiles templates with their names; the first malformed one is reported. -/
def ofTemplates (templates : List (String × String)) : Except Fault Catalog :=
  (templates.mapM compileEntry).map Catalog.mk

/-- The number of different names. -/
def size (catalog : Catalog) : Nat := (catalog.entries.map Prod.fst).eraseDups.length

/-- Whether the catalog holds no statement. -/
def isEmpty (catalog : Catalog) : Bool := catalog.entries.isEmpty

/-- The statement of a name. -/
def statement (catalog : Catalog) (name : String) : Except Fault CompiledStatement :=
  match catalog.entries.reverse.find? (·.1 == name) with
  | some entry => .ok entry.2
  | none => .error (.unknownStatement name)

/-- The text of a named statement, and one value for each of its parameters. -/
def prepare (catalog : Catalog) (name : String) (args : Arguments) :
    Except Fault (String × List Value) :=
  (catalog.statement name).map fun statement => (statement.sql, args.bind statement.names)

end Catalog

end ZoneStore
