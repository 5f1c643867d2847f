import PushLedger.Database.Basic

/-!
# Changes from outside

A database file is open to other programs. What they do to it follows the rules of the table and
none of the ledger's own: they write single cells, insert rows, move the stamp, drop tables, and put
guards on the table.
-/

namespace PushLedger

/-- A row as somebody else writes it: some columns by name, and the cells for them. -/
abbrev LooseRow := List (String × Cell)

namespace LooseRow

/-- The cell under a name, if the row mentions the name. -/
def cellOf? (row : LooseRow) (name : String) : Option Cell :=
  (row.find? fun entry => entry.1 == name).map Prod.snd

/-- The cell for a column, if the row mentions the column. -/
def cell? (row : LooseRow) (column : Column) : Option Cell := row.cellOf? column.name

/-- The content of the row in a layout; a column that is not mentioned has its default. -/
def content (row : LooseRow) (layout : Layout) : Content :=
  .build fun column => (row.cell? column).getD (layout.defaultCell column)

/-- The id that the row asks for; none if it leaves the choice to the table. -/
def id? (row : LooseRow) : Except StorageFault (Option Int) :=
  match (row.cell? .id).map Affinity.numeric.apply with
  | none => .ok none
  | some .null => .ok none
  | some (.integer n) => .ok (some n)
  | some _ => .error .mismatch

/-- The first name that is none of the given columns. -/
def unknownName? (row : LooseRow) (columns : List String) : Option String :=
  (row.map Prod.fst).find? fun name => !columns.contains name

end LooseRow

/-- Inserts a row of another program. -/
def Table.insertLoose (t : Table) (row : LooseRow) : Except StorageFault Table :=
  match row.unknownName? (t.layout.columns.map Column.name) with
  | some name => .error (.noTargetColumn Table.name name)
  | none => do
      let id? ← row.id?
      return (← t.insert id? (row.content t.layout)).1

namespace OtherTable

/-- Inserts a row of another program. A guard that watches one topic asks the new row for a column
that the table lacks. -/
def insertLoose (t : OtherTable) (row : LooseRow) : Except StorageFault OtherTable :=
  match row.unknownName? [Column.id.name, VersionTable.versionName] with
  | some name => .error (.noTargetColumn Table.name name)
  | none =>
      match t.guard with
      | some ⟨.insert, some _, _⟩ => .error (.noColumn s!"NEW.{Column.topic.name}")
      | some ⟨.insert, none, some message⟩ => .error (.refused message)
      | some ⟨.insert, none, none⟩ => .ok t
      | _ => do
          let id := (row.cell? .id).getD .null
          let version := (row.cellOf? VersionTable.versionName).getD .null
          t.insert id version

/-- Writes one cell of the row with the given id and counts the row. -/
def overwrite (t : OtherTable) (id : Int) (columnName : String) (cell : Cell) :
    Except StorageFault (OtherTable × Nat) :=
  let isMeant := fun (row : Cell × Cell) => row.1.isInteger id
  let put := fun (change : Cell × Cell → Cell × Cell) =>
    ({ t with rows := t.rows.map fun row => if isMeant row then change row else row },
      t.rows.countP isMeant)
  if columnName = VersionTable.versionName then .ok (put fun row => (row.1, cell))
  else if columnName = Column.id.name then
    let stored := Affinity.numeric.apply cell
    let others := t.rows.filter fun row => !isMeant row
    if t.rows.any isMeant && VersionTable.hasId others stored then
      .error (.duplicate t.name [Column.id.name])
    else .ok (put fun row => (stored, row.2))
  else .error (.noColumn columnName)

end OtherTable

namespace Database

/-- The database with another version of the namesake of the subscription table. -/
def withNamesake (db : Database) (t : OtherTable) : Database := db.withOther Table.name (some t)

/-- Writes a cell of the row with an id, and counts the rows written. -/
def overwriteCell (db : Database) (id : Int) (columnName : String) (cell : Cell) :
    Except StorageFault (Database × Nat) :=
  match db.tableNamesake? with
  | some namesake => do
      let (t, changed) ← namesake.overwrite id columnName cell
      return (db.withNamesake t, changed)
  | none => do
      let t ← db.writable .id
      match Column.ofName? columnName with
      | none => throw (.noColumn columnName)
      | some column =>
          let (t, changed) ← t.overwrite id column cell
          return (db.withTable t, changed)

/-- Inserts a row. -/
def insertLoose (db : Database) (row : LooseRow) : Except StorageFault Database :=
  match db.tableNamesake? with
  | some namesake => return db.withNamesake (← namesake.insertLoose row)
  | none => do
      let t ← db.writable .id
      return db.withTable (← t.insertLoose row)

/-- Moves the stamp. -/
def restamp (db : Database) (version : Cell) : Except StorageFault Database :=
  match db.versions with
  | some t => .ok { db with versions := some (t.restamp version) }
  | none => .error db.noVersionTable

/-- Drops a table by name, and with it what belongs to it. -/
def dropTable (db : Database) (name : String) : Except StorageFault Database :=
  let left := db.withoutFixturesOf name
  if sameName name Table.name && db.subscriptions.isSome then
    .ok { left with subscriptions := none }
  else if db.versions.any fun t => sameName name t.name then .ok { left with versions := none }
  else match db.foreign? name with
    | some .table => .ok (left.withOther name none)
    | some .view => .error (.viewDropped name)
    | _ => .error (.noTable name)

/-- Takes the guard off the table, if there is one. -/
def unguard (db : Database) : Database :=
  { db with
    subscriptions := db.subscriptions.map fun t => { t with guard := none }
    others := db.others.map fun t => { t with guard := none } }

/-- Puts a guard on the table, in the place of the one before. -/
def setGuard (db : Database) (g : Guard) : Except StorageFault Database :=
  match db.subscriptions, db.tableNamesake? with
  | some t, _ => .ok (db.withTable { t with guard := some g })
  | none, some t => .ok (db.withNamesake { t with guard := some g })
  | none, none =>
      if db.namesake? = some .view then .error (.viewGuarded Table.name)
      else .error (.noTable s!"main.{Table.name}")

end Database
end PushLedger
