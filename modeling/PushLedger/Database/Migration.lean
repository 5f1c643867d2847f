import PushLedger.Database.Basic
import PushLedger.Time.Stamp

/-!
# Bringing a database up to date

Two steps lead to the present layout. The first creates what is missing: the table in its first
layout, the version table, the indexes. The second rebuilds the table: it copies every row under
its id, turns stamps into milliseconds, owners of nothing but spaces into no owner, and flags into
zero or one, and then puts the copy in the place of the old table. Each step is said statement by
statement, and any of them may meet a name that something else bears.

Both steps together either succeed or leave the database as it was, since each returns a new
database or a fault. The stamp is written last, as part of the same result.
-/

namespace PushLedger

/-- The present version. -/
def latestVersion : Nat := 2

/-- The milliseconds that a rebuild makes of an old stamp. What is neither an integer nor a date
becomes zero, which makes the row due. -/
def Cell.rebuiltStamp : Cell → Cell
  | .integer n => .integer n
  | .text s =>
      match Stamp.seconds? s with
      | some seconds => .integer (seconds * 1000)
      | none => .integer 0
  | _ => .integer 0

/-- The content that a rebuild makes of an old row. -/
def Content.rebuilt (content : Content) : Content where
  topic := Affinity.text.apply content.topic
  userId := if content.userId.isSpaces then .null else Affinity.text.apply content.userId
  endpoint := Affinity.text.apply content.endpoint
  keyAuth := Affinity.text.apply content.keyAuth
  keyP256dh := Affinity.text.apply content.keyP256dh
  updatedAt := Affinity.numeric.apply content.updatedAt.rebuiltStamp
  warningSent := .integer (if content.warningSent.isTrue then 1 else 0)

/-- A rebuilt row, or the fault of a required cell that is empty. -/
def Row.rebuilt (row : Row) : Except StorageFault Row :=
  let content := row.toContent.rebuilt
  match content.firstMissing? .epoch with
  | some column => .error (.missingValue Database.rebuildName column.name)
  | none => .ok { content with id := row.id }

namespace Database

/-- The fault of two rows that agree in topic and endpoint. -/
def clashFault : StorageFault :=
  .duplicate Table.name [Column.topic.name, Column.endpoint.name]

/-- What the statement that creates something comes to. -/
inductive Creation
  /-- It is there already, and nothing happens. -/
  | there
  | refused (fault : StorageFault)
  /-- It is to be made. -/
  | due
deriving DecidableEq, Repr

/-- Carries out the statement, where `made` is what making it leaves. -/
def Creation.carry (creation : Creation) (db : Database) (made : Except StorageFault Database) :
    Except StorageFault Database :=
  match creation with
  | there => .ok db
  | refused fault => .error fault
  | due => made

/-- The fault that a list of statements meets before one of them makes something. -/
def Creation.firstFault? : List Creation → Option StorageFault
  | [] => none
  | there :: rest => firstFault? rest
  | refused fault :: _ => some fault
  | due :: _ => none

/-- Creating a table that the ledger does not find, unless its name is borne. An index in the way of
a table is no reason to leave it at that. -/
def missingTable (db : Database) (name : String) : Creation :=
  match db.foreign? name with
  | none => .due
  | some .index => .refused (.indexExists name)
  | some _ => .there

/-- Creating the subscription table. -/
def tableCreation (db : Database) : Creation :=
  if db.subscriptions.isSome then .there else db.missingTable Table.name

/-- Creating the version table. -/
def versionTableCreation (db : Database) : Creation :=
  if db.versions.isSome then .there else db.missingTable VersionTable.properName

/-- Creating an index, unless it is there; with `tolerant` any other index of its name counts for it.
A namesake of the table cannot have it, for it is a view or lacks the first column. -/
def indexCreation (db : Database) (tolerant : Bool) (index : String × Column) : Creation :=
  if db.subscriptions.any Table.indexed then .there
  else if db.namesake? = some .view then .refused .viewIndexed
  else match db.foreign? index.1, db.table index.2 (some (.index index.1)) with
    | some .index, _ => if tolerant then .there else .refused (.indexTaken index.1)
    | some _, _ => .refused (.nameTaken index.1)
    | none, .error fault => .refused fault
    | none, .ok _ => .due

/-- Creating the table that a rebuild fills. -/
def copyCreation (db : Database) : Creation :=
  match db.foreign? rebuildName with
  | none => .due
  | some .table => .refused (.tableExists rebuildName)
  | some .view => .refused (.viewExists rebuildName)
  | some .index => .refused (.indexExists rebuildName)

/-- The statement that creates the table, unless something has its name. -/
def createTable (db : Database) : Except StorageFault Database :=
  db.tableCreation.carry db (.ok (db.withTable (.empty .dated false)))

/-- The statement that creates the version table, unless something has its name. -/
def createVersionTable (db : Database) : Except StorageFault Database :=
  db.versionTableCreation.carry db (.ok { db with versions := some .own })

/-- The index that lets no two rows agree in topic and endpoint. It is created last, and with it the
table is indexed. -/
def uniqueIndexName : String := "idx_topic_endpoint"

/-- What the creation of an index leaves. -/
def withIndex (db : Database) (name : String) : Except StorageFault Database :=
  if name ≠ uniqueIndexName then .ok db else do
    let t ← db.table .topic
    if Row.anyClash t.rows then throw clashFault
    return db.withTable { t with indexed := true }

/-- The statement that creates one index. -/
def createIndex (tolerant : Bool) (db : Database) (index : String × Column) :
    Except StorageFault Database :=
  (db.indexCreation tolerant index).carry db (db.withIndex index.1)

/-- The statements that create the indexes. -/
def createIndexes (db : Database) (tolerant : Bool) : Except StorageFault Database :=
  Table.indexes.foldlM (createIndex tolerant) db

/-- The first step creates the table, the version table and the indexes, each unless it is there. -/
def createMissing (db : Database) : Except StorageFault Database := do
  let db ← db.createTable
  let db ← db.createVersionTable
  db.createIndexes true

/-- The statement that creates the table of the copy. -/
def createCopy (db : Database) : Except StorageFault Database :=
  db.copyCreation.carry db (.ok (db.withOther rebuildName (some (.empty rebuildName))))

/-- The statement that copies the rows. Until it is renamed the copy is known by its name only, and
its rows are handed on. -/
def copiedRows (db : Database) : Except StorageFault (List Row) := do
  let t ← db.table .topic (some .rowCopy)
  if !t.layout.flagged then throw (.noColumn Column.warningSent.name (some .rowCopy))
  t.rows.mapM Row.rebuilt

/-- The statement that drops the old table, and with it the indexes and triggers of it. -/
def dropOldTable (db : Database) : Database :=
  { db.withoutFixturesOf Table.name with subscriptions := none }

/-- What keeps a text from being read: a table or a view that is missing, or a flaw of its own. -/
def obscurity? (db : Database) (body : Body) : Option String :=
  match body.needs.find? fun name => !db.hasTable name with
  | some missing => some s!"no such table: main.{missing}"
  | none => body.flaw

/-- The fault of the first view or trigger whose text cannot be read. -/
def unresolved? (db : Database) : Option StorageFault :=
  db.fixtures.findSome? fun fixture =>
    (fixture.body?.bind db.obscurity?).map (.unresolved fixture.label.1 fixture.label.2)

/-- The copy of rows, before it is indexed. The counter of ids starts again at the greatest id. -/
def copyOf (rows : List Row) : Table where
  layout := .epoch
  indexed := false
  rows := rows
  counter := (rows.foldl (fun last row => max last row.id) (0 : Int)).toNat
  guard := none

/-- The statement that gives the name of the old table to the copy. The texts of views and triggers
are read, and follow the renaming. -/
def renameCopy (db : Database) (rows : List Row) : Except StorageFault Database :=
  match db.unresolved? with
  | some fault => .error fault
  | none =>
      let renamed := db.fixtures.map (Fixture.renamed rebuildName Table.name)
      .ok { (db.withOther rebuildName none).withTable (copyOf rows) with fixtures := renamed }

/-- The second step rebuilds the table in the present layout. Between dropping the old table and
renaming the copy there is none. -/
def rebuild (db : Database) : Except StorageFault Database := do
  let db ← db.createCopy
  let rows ← db.copiedRows
  let db ← db.dropOldTable.renameCopy rows
  db.createIndexes false

/-- The fault that an old database meets before the first write of its update. Without one, the
update comes to that write: something is missing, or the rebuild may start. -/
def obstacle? (db : Database) (version : Nat) : Option StorageFault :=
  let first := db.tableCreation :: db.versionTableCreation :: Table.indexes.map (db.indexCreation true)
  Creation.firstFault? ((if version < 1 then first else []) ++ [db.copyCreation])

/-- The steps that a database of the given version still needs. -/
def runSteps (db : Database) (version : Nat) : Except StorageFault Database := do
  let created ← if version < 1 then db.createMissing else pure db
  if version < 2 then created.rebuild else pure created

/-- Writes the present version as the stamp. -/
def stamped (db : Database) : Except StorageFault Database :=
  match db.versions with
  | some t => do return { db with versions := some (← t.setStamp latestVersion) }
  | none => .error db.noVersionTable

/-- Brings a database up to date. The result tells the version it came from, if it was old. -/
def migrate (db : Database) : Except DatabaseFault (Database × Option Nat) :=
  match db.currentVersion with
  | .error fault => .error (.storage fault)
  | .ok version =>
      if latestVersion < version then .error (.unsupportedVersion version latestVersion)
      else if version = latestVersion then .ok (db, none)
      else match db.runSteps version >>= stamped with
        | .ok updated => .ok (updated, some version)
        | .error fault => .error (.storage fault)

end Database
end PushLedger
