import CqlClient.Placement.Strategy

namespace CqlClient

/-- Put a name into an ascending list of names, each once. -/
def insertName (name : String) : List String → List String
  | [] => [name]
  | first :: rest =>
      if name < first then name :: first :: rest
      else if name = first then first :: rest
      else first :: insertName name rest

theorem mem_insertName {name other : String} {names : List String} :
    other ∈ insertName name names ↔ other = name ∨ other ∈ names := by
  induction names with
  | nil => simp [insertName]
  | cons first rest ih =>
      rw [insertName]
      split
      · simp
      · split
        · next h => simp [h]
        · simp only [List.mem_cons, ih]
          constructor
          · rintro (h | h | h) <;> simp [h]
          · rintro (h | h | h) <;> simp [h]

/-- A keyspace of the cluster. -/
structure Keyspace where
  name : String
  strategy : Strategy
  durableWrites : Bool := true
  /-- Names of the tables, in ascending order. -/
  tables : List String := []
  deriving DecidableEq

namespace Keyspace

/-- The keyspace with a table more. -/
def addTable (keyspace : Keyspace) (table : String) : Keyspace :=
  { keyspace with tables := insertName table keyspace.tables }

/-- The keyspace without a table. -/
def removeTable (keyspace : Keyspace) (table : String) : Keyspace :=
  { keyspace with tables := keyspace.tables.filter (· ≠ table) }

/-- The keyspace with the tables of another one besides its own. -/
def keepTables (keyspace old : Keyspace) : Keyspace :=
  old.tables.foldl addTable keyspace

end Keyspace

end CqlClient
