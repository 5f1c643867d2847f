import PushLedger.Ledger.Operations
import PushLedger.Ledger.Sweep
import PushLedger.Ledger.Opening

/-!
# Runs

What a store offers, as data: an operation is applied to a database at a clock reading and leaves an
outcome. A run applies operations one after another, each to the database that the one before left
behind, whether it succeeded or failed.
-/

namespace PushLedger

/-- What a store can be asked for. -/
inductive Operation
  | upsert (draft : NewSubscription.Draft)
  | lookup (topic : String)
  | removeEndpoint (endpoint : String)
  | removeOwner (owner : String)
  | sweep (warning expiry : Span)
  /-- The store is closed and opened again. -/
  | reopen
deriving DecidableEq

/-- What a store answers. -/
inductive Answer
  | done
  | found (subscriptions : List Subscription)
  | removed (count : Nat)
  | swept (outcome : SweepOutcome)
deriving DecidableEq, Repr

namespace Database

/-- Closes a store on the database and opens it again. -/
def reopenStore (db : Database) : Outcome Unit :=
  let closed := db.closeStore
  (closed.database.openStore .file).after closed.events

end Database

namespace Operation

/-- Applies an operation. -/
def run (operation : Operation) (db : Database) (now : Instant) : Outcome Answer :=
  match operation with
  | upsert draft => (db.upsert draft now).map fun _ => .done
  | lookup topic => (db.lookup topic).map .found
  | removeEndpoint endpoint => (db.removeEndpoint endpoint).map .removed
  | removeOwner owner => (db.removeOwner owner).map .removed
  | sweep warning expiry => (db.sweep warning expiry now).map .swept
  | reopen => db.reopenStore.map fun _ => .done

/-- The outcomes of a run and the database that it leaves. -/
def runAll (db : Database) : List (Instant × Operation) → List (Outcome Answer) × Database
  | [] => ([], db)
  | (now, operation) :: rest =>
      let outcome := operation.run db now
      let (outcomes, final) := runAll outcome.database rest
      (outcome :: outcomes, final)

end Operation
end PushLedger
