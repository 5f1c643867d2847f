import PushLedger.Database.Outside
import PushLedger.Text.Blank

/-!
# Databases with a past

What earlier programs may have left in a file: a table in one of the layouts with rows that came and
went, version stamps, and the remains of an interrupted rebuild. Building it goes through the same
inserts as everything else, so affinities, ids and constraints apply, and a past that cannot have
been is a fault.
-/

namespace PushLedger

/-- What is to be found in a database. -/
structure Past where
  layout : Option Layout := none
  indexed : Bool := false
  rows : List LooseRow := []
  /-- Rows that were deleted after all had been inserted. -/
  deletedIds : List Int := []
  /-- The table of a rebuild exists. -/
  interrupted : Bool := false
  /-- The name of the version table and its rows. -/
  versions : Option (String × List (Cell × Cell)) := none

namespace Database

/-- How the names begin that belong to the storage itself. -/
def reservedStart : String := "sqlite_"

/-- What keeps a new table from having a name. -/
def nameObstacle? (db : Database) (name : String) : Option StorageFault :=
  let indexed := db.subscriptions.any Table.indexed && Table.indexNames.any (sameName name)
  if reservedStart.toList.isPrefixOf (Text.toAsciiLower name).toList then some (.reservedName name)
  else if db.foreign? name = some .view then some (.viewExists name)
  else if db.hasTable name then some (.tableExists name)
  else if indexed || db.foreign? name = some .index then some (.indexExists name)
  else none

/-- Creates a table of stamps whose version column has no type. Only under a spelling of its proper
name is it the version table. -/
def createVersions (db : Database) (name : String) (rows : List (Cell × Cell)) :
    Except StorageFault Database := do
  if let some fault := db.nameObstacle? name then throw fault
  if sameName name VersionTable.properName then
    let blank := VersionTable.blank name .numeric .none
    let filled ← rows.foldlM (fun t row => t.insert row.1 row.2) blank
    return { db with versions := some filled }
  else
    let filled ← rows.foldlM (fun t row => t.insert row.1 row.2) (OtherTable.empty name)
    return db.withOther name (some filled)

end Database

namespace Past

/-- The subscription table of a past. -/
def table (p : Past) (layout : Layout) : Except StorageFault Table := do
  let filled ← p.rows.foldlM Table.insertLoose (.empty layout p.indexed)
  let (t, _) ← filled.delete fun row => row.id ∈ p.deletedIds
  return t

/-- The subscription table of a past, if it has one. Without it there is nothing to be indexed, to
be inserted into or to be deleted from. -/
def table? (p : Past) : Except StorageFault (Option Table) :=
  match p.layout with
  | some layout => some <$> p.table layout
  | none =>
      if p.indexed then .error (.noTable s!"main.{Table.name}")
      else if p.rows.isEmpty && p.deletedIds.isEmpty then .ok none
      else .error (.noTable Table.name)

/-- The database of a past. -/
def database (p : Past) : Except StorageFault Database := do
  let subscriptions ← p.table?
  let others := if p.interrupted then [OtherTable.empty Database.rebuildName] else []
  let db : Database := { subscriptions, versions := none, others }
  match p.versions with
  | none => return db
  | some (name, rows) => db.createVersions name rows

end Past
end PushLedger
