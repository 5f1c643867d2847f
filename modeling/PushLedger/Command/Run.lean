import PushLedger.Command.Arguments
import PushLedger.Command.Report
import PushLedger.Disk.FileStore
import PushLedger.Journal.Logger

/-!
# The command

The command opens a store, sweeps it once, prints a report and closes the store. It stops at the
first fault: in the arguments, in the configuration, in the log, in opening, in the sweep. What had
been printed before stays printed.
-/

namespace PushLedger.Command

/-- What surrounds a command: the files, the working folder and the clock. -/
structure Surroundings where
  disk : Disk
  working : Place
  now : Instant
  /-- What the log says about how long an operation took. -/
  elapsed : String

/-- What a command leaves behind. -/
structure Ending where
  succeeded : Bool
  output : String
  errors : String
  disk : Disk
  /-- The log, with the lines that have not been flushed. -/
  logger : Logger

namespace Ending

/-- The code that a process returns. -/
def exitCode (ending : Ending) : Nat := if ending.succeeded then 0 else 1

/-- A command that stopped with a message. -/
def failure (lines : List String) (message : String) (disk : Disk) (logger : Logger) : Ending :=
  ⟨false, textOf lines, textOf [s!"error: {message}"], disk, logger⟩

end Ending

/-- The command after its log has been configured. -/
def sweepStore (configuration : Configuration) (s : Surroundings) (logger : Logger) : Ending :=
  let (opened, disk, events) := FileStore.openAt s.disk s.working configuration.path
  let (logger, disk) := logger.write disk s.elapsed events
  match opened with
  | .error fault =>
      .failure [versionLine] (fault.report StorageFault.updateExcerpt?) disk logger
  | .ok store =>
      let ages := configuration.sweep
      let (swept, store, disk) := store.sweep ages.warning ages.expiry s.now disk
      let (logger, disk) := logger.write disk s.elapsed swept.events
      match swept.result with
      | .error fault =>
          .failure [versionLine] (fault.report StorageFault.sweepExcerpt?) disk logger
      | .ok outcome =>
          let (logger, disk) := logger.write disk s.elapsed store.database.closeStore.events
          ⟨true, textOf (versionLine :: sweepLines outcome), "", disk, logger⟩

/-- Runs the command. -/
def run (arguments : List String) (s : Surroundings) : Ending :=
  match Arguments.parse arguments with
  | .error fault => .failure [] fault.message s.disk .idle
  | .ok parsed =>
      match parsed.configuration.check with
      | .error fault => .failure [] fault.message s.disk .idle
      | .ok _ =>
          match parsed.logDirectory with
          | none => sweepStore parsed.configuration s .idle
          | some directory =>
              match Logger.idle.configure s.disk s.elapsed Logger.defaultLevel.name directory with
              | (.error fault, logger, disk) => .failure [] fault.message disk logger
              | (.ok _, logger, disk) =>
                  sweepStore parsed.configuration { s with disk } logger

end PushLedger.Command
