import PushLedger.Database.Fixture
import PushLedger.Table.Basic

/-!
# The database

A database holds at most one subscription table and at most one table of version stamps. Whatever
else there is may stand in the way of a rebuild or of an index by its name, and may bear the name of
the subscription table where that is missing. Every statement on subscriptions meets such a namesake:
it misses its columns there, and a view it cannot write.

Table names are compared without regard to the case of letters, with one exception that the ledger
makes itself: it looks for its version table under the exact spelling. A stamp under another
spelling is invisible to that question and visible to every statement.
-/

namespace PushLedger

/-- Everything that one store keeps. -/
structure Database where
  subscriptions : Option Table
  versions : Option VersionTable
  others : List OtherTable
  fixtures : List Fixture := []
deriving DecidableEq, Repr

/-- Why a database could not be brought into use. -/
inductive DatabaseFault
  | storage (fault : StorageFault)
  /-- The stamp is newer than every version that this ledger knows. -/
  | unsupportedVersion (found latest : Nat)
deriving DecidableEq, Repr

namespace DatabaseFault

/-- The wording of a fault. -/
def message : DatabaseFault → String
  | storage fault => fault.message
  | unsupportedVersion found latest =>
      s!"subscription store schema version {found} is newer than supported {latest}"

end DatabaseFault

namespace Database

/-- A database without any table. -/
def empty : Database := { subscriptions := none, versions := none, others := [] }

instance : Inhabited Database := ⟨empty⟩

/-- The name of the table that a rebuild fills before it takes the place of the old one. -/
def rebuildName : String := "subscriptions_next"

/-- The further table of a name. -/
def other? (db : Database) (name : String) : Option OtherTable :=
  db.others.find? fun t => sameName name t.name

/-- Replaces the further table of a name, or drops it. -/
def withOther (db : Database) (name : String) (t : Option OtherTable) : Database :=
  { db with others := (db.others.filter fun other => !sameName name other.name) ++ t.toList }

/-- What bears a name, apart from the ledger's own tables. -/
def foreign? (db : Database) (name : String) : Option Bearer :=
  if (db.other? name).isSome then some .table else db.fixtures.findSome? (Fixture.bearer? name)

/-- A further table or a view has the name. -/
def hasFurther (db : Database) (name : String) : Bool :=
  (db.other? name).isSome || db.fixtures.any fun fixture => fixture.bearer? name == some .view

/-- A table or a view has the name. -/
def hasTable (db : Database) (name : String) : Bool :=
  db.subscriptions.isSome && sameName name Table.name ||
    db.versions.any (fun t => sameName name t.name) || db.hasFurther name

/-- The database without the indexes and triggers of a table. -/
def withoutFixturesOf (db : Database) (table : String) : Database :=
  { db with fixtures := db.fixtures.filter fun fixture => !fixture.isOf table }

/-- What bears the name of the subscription table where that is missing. -/
def namesake? (db : Database) : Option Bearer :=
  if db.subscriptions.isNone then db.foreign? Table.name else none

/-- The table among the namesakes. -/
def tableNamesake? (db : Database) : Option OtherTable :=
  if db.subscriptions.isNone then db.other? Table.name else none

/-- The subscription table, or the fault of missing it. A namesake lacks the first column that the
statement names. -/
def table (db : Database) (named : Column) (statement : Option UpdateStatement := none) :
    Except StorageFault Table :=
  match db.subscriptions, db.namesake? with
  | some t, _ => .ok t
  | none, some .table => .error (.noColumn named.name statement)
  | none, some .view => .error (.noColumn named.name statement)
  | none, _ => .error (.noTable Table.name)

/-- The subscription table for statements that write it. -/
def writable (db : Database) (named : Column) : Except StorageFault Table :=
  if db.namesake? = some .view then .error (.viewModified Table.name) else db.table named

/-- The subscription table for statements that write by the warning flag. -/
def flaggedTable (db : Database) (named : Column) : Except StorageFault Table := do
  let t ← db.writable named
  if t.layout.flagged then return t else throw (.noColumn Column.warningSent.name)

/-- The database with another subscription table. -/
def withTable (db : Database) (t : Table) : Database := { db with subscriptions := some t }

/-- The version table exists under its proper spelling. -/
def hasVersionTable (db : Database) : Bool :=
  db.versions.any fun t => t.name == VersionTable.properName

/-- The fault of writing into a version table that is not there. -/
def noVersionTable (db : Database) : StorageFault :=
  if db.foreign? VersionTable.properName = some .view then .viewModified VersionTable.properName
  else .noTable VersionTable.properName

/-- The greatest version number that a stamp is read as. -/
def greatestVersion : Int := 4294967295

/-- The stamped version; zero for a database without a version table or without a stamp. -/
def currentVersion (db : Database) : Except StorageFault Nat :=
  if !db.hasVersionTable then .ok 0 else
  match db.versions.bind VersionTable.stamp? with
  | none => .ok 0
  | some (.integer n) =>
      if 0 ≤ n ∧ n ≤ greatestVersion then .ok n.toNat else .error (.outOfRange n 0)
  | some cell => .error (.wrongClass cell.storageClass 0 VersionTable.versionName)

end Database
end PushLedger
