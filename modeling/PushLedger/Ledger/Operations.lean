import PushLedger.Ledger.Reading
import PushLedger.Subscription.Origin

/-!
# Replacing, looking up and removing

A request replaces all rows of its endpoint: the old ones go, and each of its topics gets a row
that is stamped with the clock and not yet warned. Removal takes rows by endpoint or by owner and
does not ask for their state. A blank owner owns nothing.
-/

namespace PushLedger.Database

/-- The content of a new row. -/
def freshContent (request : NewSubscription) (now : Instant) (topic : String) : Content where
  topic := .text topic
  userId := .ofText? request.userId
  endpoint := .text request.endpoint
  keyAuth := .text request.keyAuth
  keyP256dh := .text request.keyP256dh
  updatedAt := .integer now.millis
  warningSent := .integer 0

/-- Inserts the rows of a request in the order of its topics. -/
def insertTopics (request : NewSubscription) (now : Instant) (t : Table) :
    Except StorageFault Table :=
  request.topics.names.foldlM
    (fun t topic => return (← t.insert none (freshContent request now topic)).1) t

/-- Replaces the rows of an endpoint; the number is that of the rows that were there before. -/
def replaceRows (db : Database) (request : NewSubscription) (now : Instant) :
    Except StorageFault (Database × Nat) := do
  let t ← db.writable .endpoint
  let (t, replaced) ← t.delete fun row => row.endpoint.isText request.endpoint
  if !t.layout.flagged then throw (.noTargetColumn Table.name Column.warningSent.name)
  let t ← insertTopics request now t
  return (db.withTable t, replaced)

/-- Replaces the rows of an endpoint as one change and reports how many topics it now has. -/
def replace (db : Database) (request : NewSubscription) (now : Instant) : Outcome Nat :=
  (Outcome.transact db (db.replaceRows request now) fun replaced =>
    [.upserted (Origin.redact request.endpoint) replaced request.topics.size]).map
    fun _ => request.topics.size

/-- Checks a draft and, if it stands, replaces the rows of its endpoint. -/
def upsert (db : Database) (draft : NewSubscription.Draft) (now : Instant) : Outcome Unit :=
  match draft.check with
  | .error fault => ⟨.error (.validation fault), db, []⟩
  | .ok request => (db.replace request now).map fun _ => ()

/-- The subscriptions of a topic. -/
def lookup (db : Database) (topic : String) : Outcome (List Subscription) :=
  let found := match db.table .topic with
    | .error fault => .error (.storage fault)
    | .ok t => t.lookup topic
  Outcome.read db found fun found => [.lookedUp found.length]

/-- Deletes the rows that a predicate on one column selects. -/
def deleteRows (db : Database) (column : Column) (selected : Cell → Bool) :
    Except StorageFault (Database × Nat) := do
  let t ← db.writable column
  let (t, removed) ← t.delete fun row => selected (row.cell column)
  return (db.withTable t, removed)

/-- Removes the rows of an endpoint and counts them. -/
def removeEndpoint (db : Database) (endpoint : String) : Outcome Nat :=
  Outcome.transact db (db.deleteRows .endpoint fun cell => cell.isText endpoint) fun removed =>
    [.removedByEndpoint (Origin.redact endpoint) removed]

/-- Removes the rows of an owner and counts them. -/
def removeOwner (db : Database) (owner : String) : Outcome Nat :=
  match normalizeOwner (some owner) with
  | none => ⟨.ok 0, db, []⟩
  | some owner =>
      Outcome.transact db (db.deleteRows .userId fun cell => cell.isText owner) fun removed =>
        [.removedByOwner removed]

end PushLedger.Database
