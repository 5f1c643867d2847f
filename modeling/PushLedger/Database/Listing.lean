import PushLedger.Database.Basic

/-!
# What a database holds

Reports on a database: its rows with the columns that the table has, its version stamps, and the
names of its tables, views, indexes and triggers.
-/

namespace PushLedger

namespace Table

/-- The rows by ascending id, each with the cells of the columns that the table has. -/
def cells (t : Table) : List (List Cell) :=
  t.rows.map fun row => t.layout.columns.map row.cell

/-- The columns with their declared types; a column without a type ends in a space. -/
def columnTexts (t : Table) : List String :=
  t.layout.columns.map fun column => s!"{column.name} {t.layout.declaredType column}"

end Table

namespace VersionTable

/-- Rows by ascending id. -/
def ordered (rows : List (Cell × Cell)) : List (Cell × Cell) :=
  rows.mergeSort fun a b => a.1.order b.1 != .gt

/-- The columns of a further table. -/
def columnTexts : List String := [s!"{Column.id.name} INT", s!"{versionName} "]

end VersionTable

namespace Database

/-- The version stamps by ascending id. -/
def versionRows (db : Database) : Option (List (Cell × Cell)) :=
  db.versions.map fun t => VersionTable.ordered t.rows

/-- The rows that are found under the name of the subscription table. -/
def cells (db : Database) : Option (List (List Cell)) :=
  match db.subscriptions with
  | some t => some t.cells
  | none => db.tableNamesake?.map fun t =>
      (VersionTable.ordered t.rows).map fun row => [row.1, row.2]

/-- The names of everything that the database holds, in order. -/
def objectNames (db : Database) : List String :=
  let ofTable := match db.subscriptions with
    | none => []
    | some t =>
        s!"table {Table.name}" ::
          ((if t.indexed then Table.indexNames.map fun name => s!"index {name}" else []) ++
            Guard.listing t.guard)
  let ofVersions := db.versions.toList.map fun t => s!"table {t.name}"
  let ofOthers := db.others.flatMap fun t => s!"table {t.name}" :: Guard.listing t.guard
  let ofFixtures := db.fixtures.map fun fixture => s!"{fixture.label.1} {fixture.label.2}"
  (ofTable ++ ofVersions ++ ofOthers ++ ofFixtures).mergeSort fun a b => decide (a ≤ b)

/-- The columns that are found under the name of the subscription table. -/
def columnTexts (db : Database) : List String :=
  match db.subscriptions, db.tableNamesake? with
  | some t, _ => t.columnTexts
  | none, some _ => VersionTable.columnTexts
  | none, none => []

end Database
end PushLedger
