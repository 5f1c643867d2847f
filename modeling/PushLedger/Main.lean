import PushLedger.Command.Run
import PushLedger.Database.Snapshot
import PushLedger.Json.Printer
import PushLedger.Json.Reader
import Std.Time.DateTime.Timestamp

/-!
# The program

Looks up on the real disk what a command may touch, runs the command, and writes back what it has
changed. A database is kept in its file as a snapshot.
-/

namespace PushLedger.Program

/-- The path of a place. -/
def pathOf (place : Place) : String := "/" ++ "/".intercalate place

/-- What the bytes of a file hold. -/
def contentOf (bytes : ByteArray) : FileContent :=
  match String.fromUTF8? bytes with
  | none => .text "bytes that are no text"
  | some text =>
      match Database.ofSnapshot? (Json.read text).1 with
      | some db => .database db
      | none => .text text

/-- The bytes of a file. A line that does not end in a line break gets one. -/
def bytesOf : FileContent → ByteArray
  | .text text => text.toUTF8
  | .database db => db.snapshot.render.toUTF8
  | .log lines =>
      ("".intercalate (lines.map fun line =>
        if line.toList.getLast? = some '\n' then line else line ++ "\n")).toUTF8

/-- Looks up one place. -/
def lookUp (disk : Disk) (place : Place) : IO Disk := do
  let path := (← IO.currentDir) / pathOf place
  if ← path.isDir then
    if (disk.node? place).isSome then return disk else return disk.put place (.folder [])
  if ← path.pathExists then return disk.put place (.file (contentOf (← IO.FS.readBinFile path)))
  return disk

/-- Looks up every place along a path. -/
def lookUpAll (working : Place) (disk : Disk) (path : String) : IO Disk := do
  let mut place := if Path.isAbsolute path then [] else working
  let mut seen := disk
  for step in Path.steps path do
    place := if step = Path.up then place.dropLast else place ++ [step]
    seen ← lookUp seen place
  return seen

/-- The paths that a command may touch. -/
def touched (arguments : List String) : List String :=
  match Command.Arguments.parse arguments with
  | .error _ => []
  | .ok parsed =>
      let database := match Location.ofText parsed.configuration.path with
        | .ok location =>
            if location.isPrivate then [] else location.path :: location.pattern.toList
        | .error _ => []
      let log := parsed.logDirectory.toList.map fun directory => directory ++ "/" ++ Logger.fileName
      database ++ log

/-- Writes what differs from an earlier disk. -/
partial def writeBack (before : Disk) (place : Place) : Node → IO Unit
  | .file content => do
      if before.file? place ≠ some content then
        IO.FS.writeBinFile (pathOf place) (bytesOf content)
  | .folder entries => do
      if (before.node? place).isNone then IO.FS.createDirAll (pathOf place)
      for (name, node) in entries do
        writeBack before (place ++ [name]) node

/-- Runs the command on the real disk. -/
def run (arguments : List String) : IO UInt32 := do
  let working := Path.steps (← IO.currentDir).toString
  let mut disk ← lookUpAll [] Disk.empty (pathOf working)
  for path in touched arguments do
    disk ← lookUpAll working disk path
  let now := (← Std.Time.Timestamp.now).toMillisecondsSinceUnixEpoch.val
  let ending := Command.run arguments ⟨disk, working, .ofMillis now, "0"⟩
  writeBack disk [] (ending.logger.flush ending.disk).2.root
  IO.print ending.output
  IO.eprint ending.errors
  return ending.exitCode.toUInt32

end PushLedger.Program

/-- Opens a store, sweeps it, and reports. -/
def main (arguments : List String) : IO UInt32 := PushLedger.Program.run arguments
