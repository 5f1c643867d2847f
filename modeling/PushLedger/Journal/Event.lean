import PushLedger.Journal.Level

/-!
# Events

Each operation of the ledger reports what it did as an event with typed fields. The text of a log
record is made from the event alone, so what an event does not carry cannot be logged: no event
holds a key, and endpoints enter only in their redacted form.
-/

namespace PushLedger

/-- The version of this library. -/
def libraryVersion : String := "0.1.0"

/-- Where an opened database lives. -/
inductive OpenMode
  | file | memory
deriving DecidableEq, Repr

/-- The name of a mode. -/
def OpenMode.name : OpenMode → String
  | .file => "file"
  | .memory => "memory"

/-- The step at which opening failed. -/
inductive OpenStage
  /-- The database could not be reached. -/
  | connect
  /-- It was reached and could not be brought up to date. -/
  | bootstrap
deriving DecidableEq, Repr

/-- The code of a stage in records. -/
def OpenStage.code : OpenStage → String
  | .connect => "db_open_failed"
  | .bootstrap => "db_bootstrap_failed"

/-- What an operation reports. -/
inductive Event
  | openStarted (mode : OpenMode)
  | openFailed (mode : OpenMode) (stage : OpenStage) (fault : String)
  | opened (mode : OpenMode)
  | migrated (fromVersion toVersion : Nat)
  | closed
  | upserted (origin : String) (replaced topics : Nat)
  | lookedUp (found : Nat)
  | removedByEndpoint (origin : String) (removed : Nat)
  | removedByOwner (removed : Nat)
  | sweepMisconfigured (warningMillis expiryMillis : Nat)
  | swept (expired warned targets : Nat)
  | loggingStarted (level : LogLevel) (directory : String)
deriving DecidableEq, Repr

namespace Event

/-- The level of an event's record. -/
def level : Event → LogLevel
  | openFailed _ _ _ => .error
  | sweepMisconfigured _ _ => .warn
  | lookedUp _ => .debug
  | _ => .info

/-- The text of an event's record. How long an operation took is not part of the event and is
supplied as text. -/
def message (elapsed : String) : Event → String
  | openStarted mode => s!"event=db_open module=db status=start mode={mode.name}"
  | openFailed mode stage fault =>
      s!"event=db_open module=db status=error mode={mode.name} duration_ms={elapsed} " ++
        s!"error_code={stage.code} error={fault}"
  | opened mode =>
      s!"event=db_open module=db status=ok mode={mode.name} duration_ms={elapsed}"
  | migrated fromVersion toVersion =>
      "event=schema_migrate module=db status=ok " ++
        s!"from_version={fromVersion} to_version={toVersion}"
  | closed => "event=db_close module=store status=ok"
  | upserted origin replaced topics =>
      s!"event=subscription_upsert module=repo status=ok endpoint={origin} " ++
        s!"replaced_rows={replaced} topics={topics}"
  | lookedUp found => s!"event=subscription_lookup module=repo status=ok matches={found}"
  | removedByEndpoint origin removed =>
      s!"event=subscription_remove module=repo status=ok by=endpoint endpoint={origin} " ++
        s!"removed_rows={removed}"
  | removedByOwner removed =>
      s!"event=subscription_remove module=repo status=ok by=user_id removed_rows={removed}"
  | sweepMisconfigured warningMillis expiryMillis =>
      "event=expiry_sweep module=sweep status=misconfigured " ++
        s!"warning_ms={warningMillis} expiry_ms={expiryMillis}"
  | swept expired warned targets =>
      s!"event=expiry_sweep module=sweep status=ok duration_ms={elapsed} " ++
        s!"expired_rows={expired} warned_rows={warned} targets={targets}"
  | loggingStarted level directory =>
      s!"event=logging_init module=logging status=ok level={level.name} " ++
        s!"log_dir={directory} version={libraryVersion}"

/-- The line of an event's record: its level and its text. -/
def line (elapsed : String) (event : Event) : String :=
  s!"{event.level.mark} {event.message elapsed}"

end Event
end PushLedger
