import PushLedger.Database.Migration
import PushLedger.Database.Script
import PushLedger.Subscription.Basic
import PushLedger.Journal.Event

/-!
# Outcomes

An operation on a database yields a result or a fault, the database afterwards, and the events it
reports. A change is computed as a new database or a fault, and `Outcome.transact` is the only place
where a changed database is put in force: after a fault it is the old one, whole.
-/

namespace PushLedger

/-- Why an operation of the ledger failed. -/
inductive LedgerFault
  | validation (fault : ValidationFault)
  | database (fault : DatabaseFault)
  /-- A stored row says something that no row can mean. -/
  | invalidData (detail : String)
deriving DecidableEq, Repr

namespace LedgerFault

/-- A fault of the storage. -/
def storage (fault : StorageFault) : LedgerFault := .database (.storage fault)

/-- The wording of a fault. -/
def message : LedgerFault → String
  | validation fault => fault.message
  | database fault => fault.message
  | invalidData detail => s!"invalid persisted subscription data: {detail}"

/-- The wording of a fault in a report, given where the operation meets faults of the storage. -/
def report (excerpt? : StorageFault → Option Excerpt) : LedgerFault → String
  | database (.storage fault) => fault.reportIn (excerpt? fault)
  | fault => fault.message

/-- The wordings of the faults behind a fault, the nearest first. -/
def causes : LedgerFault → List String
  | validation fault => [fault.message]
  | database fault => [fault.message]
  | invalidData _ => []

end LedgerFault

/-- What an operation leaves behind. -/
structure Outcome (α : Type) where
  result : Except LedgerFault α
  database : Database
  events : List Event

namespace Outcome

/-- Puts a change in force if it succeeded, and keeps the database otherwise. -/
def transact {α : Type} (db : Database) (change : Except StorageFault (Database × α))
    (events : α → List Event) : Outcome α :=
  match change with
  | .ok (changed, value) => ⟨.ok value, changed, events value⟩
  | .error fault => ⟨.error (.storage fault), db, []⟩

/-- An outcome that only reads. -/
def read {α : Type} (db : Database) (result : Except LedgerFault α) (events : α → List Event) :
    Outcome α :=
  match result with
  | .ok value => ⟨.ok value, db, events value⟩
  | .error fault => ⟨.error fault, db, []⟩

/-- The outcome with its result turned into another. -/
def map {α β : Type} (f : α → β) (outcome : Outcome α) : Outcome β :=
  ⟨outcome.result.map f, outcome.database, outcome.events⟩

/-- The outcome with events in front of its own. -/
def after {α : Type} (earlier : List Event) (outcome : Outcome α) : Outcome α :=
  { outcome with events := earlier ++ outcome.events }

/-- A change that failed has changed nothing. -/
theorem transact_database_of_error {α : Type} {db : Database}
    {change : Except StorageFault (Database × α)} {events : α → List Event} {fault : LedgerFault}
    (failed : (transact db change events).result = .error fault) :
    (transact db change events).database = db := by
  cases change with
  | ok pair => simp [transact] at failed
  | error cause => rfl

end Outcome
end PushLedger
