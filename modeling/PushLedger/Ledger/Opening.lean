import PushLedger.Ledger.Outcome

/-!
# Opening and closing

A store is opened by bringing its database up to date. If that fails, the store does not come into
being and the database is as it was.
-/

namespace PushLedger.Database

/-- What is reported of a migration that did something. -/
def migrationEvents : Option Nat → List Event
  | none => []
  | some version => [.migrated version latestVersion]

/-- Brings a database up to date as one change. -/
def update (db : Database) : Outcome Unit :=
  match db.migrate with
  | .ok (updated, fromVersion) => ⟨.ok (), updated, migrationEvents fromVersion⟩
  | .error fault => ⟨.error (.database fault), db, []⟩

/-- Reports an update as the opening of a store. -/
def reported (mode : OpenMode) (updated : Outcome Unit) : Outcome Unit :=
  let ending := match updated.result with
    | .ok _ => Event.opened mode
    | .error fault => .openFailed mode .bootstrap (fault.report StorageFault.updateExcerpt?)
  { updated with events := .openStarted mode :: updated.events ++ [ending] }

/-- Opens a store on a database. -/
def openStore (db : Database) (mode : OpenMode) : Outcome Unit := reported mode db.update

/-- What is reported when a database cannot even be reached. -/
def unreachable (mode : OpenMode) (fault : StorageFault) : List Event :=
  [.openStarted mode, .openFailed mode .connect fault.message]

/-- Closes a store; the database stays as it is. -/
def closeStore (db : Database) : Outcome Unit := ⟨.ok (), db, [.closed]⟩

end PushLedger.Database
