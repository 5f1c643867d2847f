import PushLedger.Journal.Logging
import PushLedger.Disk.Basic

/-!
# The log of a process

A process has at most one log. Its records go to a file in the configured directory. The file comes
into being with the first record that the configured level lets pass; the lines themselves wait in
the log until they are flushed.
-/

namespace PushLedger

/-- The log of a process. -/
structure Logger where
  active : Option LogSettings
  /-- The process has a log of another kind, which leaves no place for this one. -/
  occupied : Bool
  /-- The lines that have not reached the file yet. -/
  pending : List String
deriving DecidableEq, Repr

namespace Logger

/-- A process without a log. -/
def idle : Logger := ⟨none, false, []⟩

/-- The file to which records go. -/
def fileName : String := "webpush_store_rCURRENT.log"

/-- The level that a process asks for by itself. -/
def defaultLevel : LogLevel := .debug

/-- The lines of the records that a level lets pass. How long operations took is supplied as
text. -/
def lines (level : LogLevel) (elapsed : String) (events : List Event) : List String :=
  (events.filter fun event => level.admits event.level).map (Event.line elapsed)

/-- The place of the file. -/
def place? (logger : Logger) (disk : Disk) : Option Place := do
  let settings ← logger.active
  match disk.locate [] s!"{settings.directory}/{fileName}" with
  | .ok trail => return trail.place
  | .error _ => none

/-- Takes up the records of events, if there is a log, and makes the file for the first of them. -/
def write (logger : Logger) (disk : Disk) (elapsed : String) (events : List Event) :
    Logger × Disk :=
  match logger.active.map fun settings => lines settings.level elapsed events with
  | none => (logger, disk)
  | some [] => (logger, disk)
  | some new =>
      let disk := match logger.place? disk with
        | none => disk
        | some place =>
            if (disk.node? place).isNone then disk.put place (.file (.log [])) else disk
      ({ logger with pending := logger.pending ++ new }, disk)

/-- A file's content with lines at its end. A database takes none. -/
def extended (lines : List String) : FileContent → FileContent
  | .log earlier => .log (earlier ++ lines)
  | .text text => .log ((if text.isEmpty then [] else [text]) ++ lines)
  | .database db => .database db

/-- Brings the waiting lines into the file. -/
def flush (logger : Logger) (disk : Disk) : Logger × Disk :=
  let disk := match logger.place? disk with
    | none => disk
    | some place =>
        match disk.file? place with
        | none => disk
        | some content => disk.put place (.file (extended logger.pending content))
  ({ logger with pending := [] }, disk)

/-- What the attempt to start a log comes to, and the disk it leaves behind. -/
def attempt (logger : Logger) (disk : Disk) (settings : LogSettings) :
    Disk × Except LoggingFault Unit :=
  match disk.makeFolders settings.directory with
  | (disk, .error fault) =>
      (disk, .error (.directoryNotMade settings.directory fault.message))
  | (disk, .ok _) => (disk, if logger.occupied then .error .placeTaken else .ok ())

/-- Configures the log of a process. -/
def configure (logger : Logger) (disk : Disk) (elapsed level directory : String) :
    Except LoggingFault Unit × Logger × Disk :=
  match LogPlan.ofRequest logger.active level directory with
  | .start settings =>
      let (disk, attempted) := logger.attempt disk settings
      let (answer, active) := (LogPlan.start settings).settle logger.active attempted
      let logger := { logger with active }
      let started := if attempted.isOk then [Event.loggingStarted settings.level settings.directory]
        else []
      (answer, logger.write disk elapsed started)
  | plan =>
      let (answer, active) := plan.settle logger.active (.ok ())
      (answer, { logger with active }, disk)

end Logger
end PushLedger
