import PushLedger.Journal.Event
import PushLedger.Disk.Path

/-!
# Configuring the log

The log is configured once, by a level and an absolute directory. Asking again for the same is
accepted and does nothing; asking for something else is refused and changes nothing. Until the first
request has succeeded, every sound request is a new attempt.

Whether a request is refused, superfluous or an attempt is decided from the text of the request and
the settings in force alone. What the attempt meets on the disk and in the process is given to
`settle`, which turns it into the settings that are in force afterwards.
-/

namespace PushLedger

/-- A level and a directory. -/
structure LogSettings where
  level : LogLevel
  directory : String
deriving DecidableEq, Repr

/-- Why the log could not be configured. -/
inductive LoggingFault
  /-- No level has this name. -/
  | unsupportedLevel (spelling : String)
  /-- The directory cannot be meant; the text says why. -/
  | invalidDirectory (detail : String)
  | directoryNotMade (path detail : String)
  /-- The process has no place for a log. -/
  | notStarted (detail : String)
  /-- The log is configured in another way already. -/
  | conflict (active requested : String)
deriving DecidableEq, Repr

namespace LoggingFault

/-- The wording of a fault. -/
def message : LoggingFault → String
  | unsupportedLevel spelling =>
      s!"unsupported log level `{spelling}`; expected trace|debug|info|warn|error"
  | invalidDirectory detail => detail
  | directoryNotMade path detail => s!"failed to create log directory `{path}`: {detail}"
  | notStarted detail => s!"failed to start logger: {detail}"
  | conflict active requested =>
      s!"logging already initialized with `{active}`; refusing to switch to `{requested}`"

/-- The wordings of the faults behind a fault. -/
def causes : LoggingFault → List String
  | directoryNotMade _ detail => [detail]
  | _ => []

/-- What is said of an empty directory. -/
def emptyDirectory : LoggingFault := .invalidDirectory "log_dir cannot be empty"

/-- What is said of a directory that does not start at the root. -/
def relativeDirectory (directory : String) : LoggingFault :=
  .invalidDirectory s!"log_dir must be an absolute path, got `{directory}`"

/-- What is said when the process has a log of another kind. -/
def placeTaken : LoggingFault := .notStarted "Logger initialization failed"

end LoggingFault

namespace LogSettings

/-- The settings that a level and a directory ask for: a known level, and a directory that starts
at the root. The level is looked at first. -/
def ofText (level directory : String) : Except LoggingFault LogSettings :=
  let spelling := LogLevel.normalSpelling level
  match LogLevel.ofSpelling? spelling with
  | none => .error (.unsupportedLevel spelling)
  | some level =>
      if directory.isEmpty then .error .emptyDirectory
      else if Path.isAbsolute directory then .ok { level, directory }
      else .error (.relativeDirectory directory)

/-- The conflict of a request with the settings in force. Directories are compared as paths, and
before levels. -/
def conflict? (active requested : LogSettings) : Option LoggingFault :=
  if !Path.same active.directory requested.directory then
    some (.conflict active.directory requested.directory)
  else if active.level ≠ requested.level then
    some (.conflict active.level.name requested.level.name)
  else none

end LogSettings

/-- What a request leads to. -/
inductive LogPlan
  | refuse (fault : LoggingFault)
  /-- The request asks for what is in force. -/
  | keep
  /-- The directory is to be made and the log to be started. -/
  | start (settings : LogSettings)
deriving DecidableEq, Repr

namespace LogPlan

/-- What a request leads to, given the settings in force. -/
def ofRequest (active : Option LogSettings) (level directory : String) : LogPlan :=
  match LogSettings.ofText level directory with
  | .error fault => .refuse fault
  | .ok requested =>
      match active with
      | none => .start requested
      | some active =>
          match active.conflict? requested with
          | some fault => .refuse fault
          | none => .keep

/-- The answer to a request and the settings in force afterwards, given what an attempt to start the
log comes to. -/
def settle (plan : LogPlan) (active : Option LogSettings) (attempt : Except LoggingFault Unit) :
    Except LoggingFault Unit × Option LogSettings :=
  match plan with
  | refuse fault => (.error fault, active)
  | keep => (.ok (), active)
  | start settings =>
      match attempt with
      | .ok _ => (.ok (), some settings)
      | .error fault => (.error fault, active)

end LogPlan
end PushLedger
