import PushLedger.Ledger.Opening
import PushLedger.Ledger.Operations
import PushLedger.Ledger.Sweep
import PushLedger.Disk.Basic
import PushLedger.Disk.Location

/-!
# Stores in files

A store in a file is a database, the place where it is kept, and what a write meets: nothing on an
ordinary file, a fault on one that may only be read. Every change ends with the database back in its
place.

The place of a file is found by reading its path from left to right, where a double dot takes back
the name before it whether or not that name exists.
-/

namespace PushLedger

/-- An open store. -/
structure FileStore where
  database : Database
  /-- Where the database is kept; nowhere for one that is nobody else's. -/
  place : Option Place
  /-- The fault that a write meets. -/
  refusal : Option StorageFault
deriving DecidableEq, Repr

/-- What a location leads to. -/
structure Reach where
  /-- The database, or the fault that the first look at it meets. -/
  database : Except StorageFault Database
  place : Option Place
  refusal : Option StorageFault

namespace Disk

/-- The longest path of a database. Its journal has a longer one. -/
def longestPath : Nat := 504

/-- The longest path that may be met on the way to a database. -/
def longestPassage : Nat := 511

/-- The longest name that leaves room for an ending. -/
def longestWith (ending : String) : Nat := longestName - ending.length

/-- What a journal adds to the name of its file. -/
def journalEnding : String := "-journal"

/-- What a lock adds to the name of its file. -/
def lockEnding : String := ".lock"

/-- Goes one name further. A name may be missing, but nothing goes on behind a file. -/
def nameStep (d : Disk) (trail : Trail) (step : String) : Option Trail := do
  if step = Path.up then return trail.tail
  let further ← match d.walkStep trail step with
    | .ok further => some further
    | .error .notFound => some ((step, none) :: trail)
    | .error _ => none
  if longestPassage < further.pathLength then none else return further

/-- The way to the place that a path of a database names. -/
def databaseTrail? (d : Disk) (working : Place) (path : String) : Option Trail := do
  let trail ← (stepsFrom working path).foldlM d.nameStep []
  if trail.isEmpty ∨ longestPath < trail.pathLength then none else return trail

/-- The database in the content of a file. A file of at most one byte counts as empty. -/
def databaseOf : FileContent → Except StorageFault Database
  | .database db => .ok db
  | .text text => if text.utf8ByteSize ≤ 1 then .ok .empty else .error .notADatabase
  | .log lines => if lines.isEmpty then .ok .empty else .error .notADatabase

/-- The fault that writes meet at a location, as far as the location decides. -/
def refusalOf (location : Location) : Option StorageFault :=
  let named := location.path ≠ "" && location.path ≠ ":memory:" && location.access ≠ .memory
  if location.access = .readOnly || (location.immutable && named) then some .readOnly else none

/-- The last name of a trail is too long to have something added to it. -/
def isCramped (trail : Trail) (ending : String) : Bool :=
  trail.head?.any fun last => longestWith ending < last.1.utf8ByteSize

/-- Reaches for a database and makes an empty file where there is none. A lock that cannot be placed
lets the file be made and keeps it from being read; a journal that cannot be placed keeps it from
being written. -/
def reach (d : Disk) (working : Place) (text : String) : Except StorageFault (Disk × Reach) := do
  let location ← Location.ofText text
  let refusal := refusalOf location
  if location.isPrivate then return (d, ⟨.ok .empty, none, refusal⟩)
  let some trail := d.databaseTrail? working location.path | throw (.cannotOpen text)
  if location.pattern.any fun path => (d.find? working path).isNone then throw .unreadable
  let unwritable := if isCramped trail journalEnding then some StorageFault.noJournal else none
  let refusal := refusal.or unwritable
  let found := fun (content : FileContent) =>
    let database := if location.lockedBeside && isCramped trail lockEnding then
      .error .unreadable else databaseOf content
    (⟨database, some trail.place, refusal⟩ : Reach)
  match d.reached trail with
  | some (.folder _) =>
      if location.access = .readOnly then throw .unreadable else throw (.cannotOpen text)
  | some (.file content) => return (d, found content)
  | none =>
      let blank := FileContent.text ""
      if location.access = .create && (d.reached trail.tail).any Node.isFolder then
        return (d.put trail.place (.file blank), found blank)
      else throw (.cannotOpen text)

end Disk

namespace FileStore

/-- Puts the database back in its place. -/
def save (store : FileStore) (d : Disk) : Disk :=
  match store.place with
  | none => d
  | some place => d.put place (.file (.database store.database))

/-- Puts the database that an operation left in the place of the old one. -/
def settle {α : Type} (store : FileStore) (d : Disk) (outcome : Outcome α) :
    Outcome α × FileStore × Disk :=
  let store := { store with database := outcome.database }
  (outcome, store, store.save d)

/-- Meets a refusal instead of writing. -/
def refuse {α : Type} (store : FileStore) (d : Disk) (fault : StorageFault) (events : List Event) :
    Outcome α × FileStore × Disk :=
  (⟨.error (.storage fault), store.database, events⟩, store, d)

/-- Sweeps the store. Ages in the wrong order are reported before the first write, and a table that
cannot be swept is found out before it. -/
def sweep (store : FileStore) (warning expiry : Span) (now : Instant) (d : Disk) :
    Outcome SweepOutcome × FileStore × Disk :=
  match store.refusal, store.database.flaggedTable .warningSent with
  | some fault, .ok _ => store.refuse d fault (Database.misconfiguration warning expiry)
  | _, _ => store.settle d (store.database.sweep warning expiry now)

/-- Replaces the rows of an endpoint. A draft that does not stand, and a table that is missing, are
found out before any write. -/
def upsert (store : FileStore) (draft : NewSubscription.Draft) (now : Instant) (d : Disk) :
    Outcome Unit × FileStore × Disk :=
  match store.refusal, draft.check, store.database.writable .endpoint with
  | some fault, .ok _, .ok _ => store.refuse d fault []
  | _, _, _ => store.settle d (store.database.upsert draft now)

/-- The subscriptions of a topic. -/
def lookup (store : FileStore) (topic : String) : Outcome (List Subscription) :=
  store.database.lookup topic

/-- Brings a database up to date, unless that comes to a write and writes are refused. -/
def update (db : Database) (refusal : Option StorageFault) : Outcome Unit :=
  match refusal, db.currentVersion with
  | some fault, .ok version =>
      if version < latestVersion then
        ⟨.error (.storage ((db.obstacle? version).getD fault)), db, []⟩
      else db.update
  | _, _ => db.update

/-- The update of what cannot be looked at. -/
def updateNothing (fault : StorageFault) : Outcome Unit := ⟨.error (.storage fault), .empty, []⟩

/-- Opens the store that a location names. -/
def openAt (d : Disk) (working : Place) (text : String) :
    Except LedgerFault FileStore × Disk × List Event :=
  match d.reach working text with
  | .error fault => (.error (.storage fault), d, Database.unreachable .file fault)
  | .ok (d, reach) =>
      let updated := match reach.database with
        | .ok database => update database reach.refusal
        | .error fault => updateNothing fault
      let opened := Database.reported .file updated
      match opened.result with
      | .error fault => (.error fault, d, opened.events)
      | .ok _ =>
          let store : FileStore := ⟨opened.database, reach.place, reach.refusal⟩
          (.ok store, store.save d, opened.events)

end FileStore
end PushLedger
