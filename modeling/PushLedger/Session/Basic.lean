import PushLedger.Ledger.Run
import PushLedger.Database.Outside

/-!
# Sessions

A session is one database, one clock that is set by hand, and numbered places for stores. Several
stores may be open on the session's database at once; a store may also have a database of its own,
on the session's clock or on the wall clock. Between the operations of the stores, other programs
may change the session's database.

Every step yields an answer and the events that it reports. A step that fails leaves the session as
it was, apart from what the events say.
-/

namespace PushLedger

/-- What an open store works on. -/
inductive Connection
  /-- The database and the clock of the session. -/
  | shared
  /-- A database of its own; `walled` puts it on the wall clock. -/
  | own (database : Database) (walled : Bool)
deriving DecidableEq, Repr

/-- A session. -/
structure Session where
  database : Database
  clock : Instant
  /-- The reading of the wall clock. -/
  wall : Instant
  /-- The open stores by their places. -/
  stores : List (Nat × Connection)

/-- What other programs do to the session's database. -/
inductive Interference
  | overwrite (id : Int) (column : String) (cell : Cell)
  | insert (row : LooseRow)
  | restamp (version : Cell)
  | drop (table : String)
  | setGuard (g : Guard)
  | unguard
deriving DecidableEq, Repr

/-- A step of a session. -/
inductive Step
  | openShared (place : Nat)
  | openOwn (place : Nat) (walled : Bool)
  | close (place : Nat)
  | setClock (reading : Instant)
  | advanceClock (span : Span)
  | operate (place : Nat) (operation : Operation)
  /-- A request is carried out on the session's database without a check. -/
  | replace (request : NewSubscription)
  | readVersion
  | update
  | interfere (change : Interference)
deriving DecidableEq

/-- Why a step failed. -/
inductive StepFault
  /-- No store is open at the place. -/
  | noStore
  | ledger (fault : LedgerFault)
  /-- The storage refused another program. -/
  | refused (fault : StorageFault)
deriving DecidableEq, Repr

/-- What a step answers. -/
inductive StepAnswer
  | done
  | answered (answer : Answer)
  | clock (reading : Instant)
  | inserted (count : Nat)
  | version (number : Nat)
  | changed (count : Nat)
deriving DecidableEq

/-- What a step leaves behind. -/
structure StepOutcome where
  result : Except StepFault StepAnswer
  session : Session
  events : List Event

namespace Session

/-- A session on a database. -/
def start (database : Database) (clock wall : Instant) : Session := ⟨database, clock, wall, []⟩

/-- The store at a place. -/
def store? (s : Session) (place : Nat) : Option Connection :=
  (s.stores.find? fun store => store.1 = place).map Prod.snd

/-- The session with nothing at a place. -/
def withoutStore (s : Session) (place : Nat) : Session :=
  { s with stores := s.stores.filter fun store => store.1 ≠ place }

/-- The session with a store at a place. -/
def withStore (s : Session) (place : Nat) (connection : Connection) : Session :=
  { s.withoutStore place with
    stores := (place, connection) :: (s.withoutStore place).stores }

/-- The outcome of something that happened to the session's database. -/
def shared {α : Type} (s : Session) (outcome : Outcome α) (answer : α → StepAnswer) :
    StepOutcome where
  result := match outcome.result with
    | .ok value => .ok (answer value)
    | .error fault => .error (.ledger fault)
  session := { s with database := outcome.database }
  events := outcome.events

/-- Opens a store on the session's database. -/
def openShared (s : Session) (place : Nat) : StepOutcome :=
  let outcome := s.database.openStore .file
  let stepped := s.shared outcome fun _ => .done
  match outcome.result with
  | .ok _ => { stepped with session := stepped.session.withStore place .shared }
  | .error _ => stepped

/-- Opens a store on a database of its own. -/
def openOwn (s : Session) (place : Nat) (walled : Bool) : StepOutcome :=
  let outcome := Database.empty.openStore .memory
  match outcome.result with
  | .ok _ => ⟨.ok .done, s.withStore place (.own outcome.database walled), outcome.events⟩
  | .error fault => ⟨.error (.ledger fault), s, outcome.events⟩

/-- Closes the store at a place. -/
def close (s : Session) (place : Nat) : StepOutcome :=
  match s.store? place with
  | none => ⟨.error .noStore, s, []⟩
  | some _ => ⟨.ok .done, s.withoutStore place, (s.database.closeStore).events⟩

/-- Applies an operation of the store at a place. -/
def operate (s : Session) (place : Nat) (operation : Operation) : StepOutcome :=
  match s.store? place with
  | none => ⟨.error .noStore, s, []⟩
  | some .shared => s.shared (operation.run s.database s.clock) .answered
  | some (.own database walled) =>
      let outcome := operation.run database (if walled then s.wall else s.clock)
      { s.shared outcome .answered with
        session := s.withStore place (.own outcome.database walled) }

/-- Lets another program change the session's database. -/
def interfere (s : Session) (change : Interference) : StepOutcome :=
  let put := fun (changed : Except StorageFault (Database × StepAnswer)) =>
    match changed with
    | .ok (database, answer) => ⟨.ok answer, { s with database }, []⟩
    | .error fault => ⟨.error (.refused fault), s, []⟩
  match change with
  | .overwrite id column cell => put do
      let (database, count) ← s.database.overwriteCell id column cell
      return (database, .changed count)
  | .insert row => put do return (← s.database.insertLoose row, .done)
  | .restamp version => put do return (← s.database.restamp version, .done)
  | .drop table => put do return (← s.database.dropTable table, .done)
  | .setGuard g => put do return (← s.database.unguard.setGuard g, .done)
  | .unguard => put (.ok (s.database.unguard, .done))

/-- Takes a step. -/
def step (s : Session) : Step → StepOutcome
  | .openShared place => s.openShared place
  | .openOwn place walled => s.openOwn place walled
  | .close place => s.close place
  | .setClock reading => ⟨.ok (.clock reading), { s with clock := reading }, []⟩
  | .advanceClock span =>
      let reading := s.clock.advance span
      ⟨.ok (.clock reading), { s with clock := reading }, []⟩
  | .operate place operation => s.operate place operation
  | .replace request => s.shared (s.database.replace request s.clock) .inserted
  | .readVersion =>
      match s.database.currentVersion with
      | .ok number => ⟨.ok (.version number), s, []⟩
      | .error fault => ⟨.error (.ledger (.storage fault)), s, []⟩
  | .update => s.shared s.database.update fun _ => .done
  | .interfere change => s.interfere change

end Session
end PushLedger
