import PushLedger.Configuration.Basic
import PushLedger.Json.Record

/-!
# Configurations as JSON

Configurations are strict: a name that is not known, or known and repeated, is refused, so that a
typing error cannot turn an age into its default. Only what is not given has its default.
-/

namespace PushLedger

open Json

namespace SweepConfiguration

/-- A sweep as far as it has been read. -/
structure Draft where
  warningAfter : Option Nat := none
  expireAfter : Option Nat := none
deriving DecidableEq, Repr

/-- The fields of a sweep. -/
def fields : List (RecordField Draft) :=
  [ { name := "warning_after_secs"
      given := fun draft => draft.warningAfter.isSome
      take := fun value draft => do
        return { draft with warningAfter := some (← value.readUnsigned) }
      defaulted := true },
    { name := "expire_after_secs"
      given := fun draft => draft.expireAfter.isSome
      take := fun value draft => do
        return { draft with expireAfter := some (← value.readUnsigned) }
      defaulted := true } ]

/-- The sweep of a draft. -/
def Draft.complete (draft : Draft) : SweepConfiguration where
  warningAfter := draft.warningAfter.getD SweepConfiguration.default.warningAfter
  expireAfter := draft.expireAfter.getD SweepConfiguration.default.expireAfter

/-- How a sweep is read. -/
def record : Record Draft SweepConfiguration where
  name := "SweepConfig"
  fields := fields
  strict := true
  blank := {}
  complete := fun draft => .ok draft.complete

/-- Reads a sweep from JSON text. -/
def ofJson (text : String) : Read SweepConfiguration := decode record.read text

/-- A sweep as a value. -/
def toJson (c : SweepConfiguration) : Value :=
  .ofMembers
    [ ("warning_after_secs", .ofInt c.warningAfter), ("expire_after_secs", .ofInt c.expireAfter) ]

end SweepConfiguration

namespace Configuration

/-- A configuration as far as it has been read. -/
structure Draft where
  path : Option String := none
  sweep : Option SweepConfiguration := none
deriving DecidableEq, Repr

/-- The fields of a configuration. -/
def fields : List (RecordField Draft) :=
  [ { name := "db_path"
      given := fun draft => draft.path.isSome
      take := fun value draft => do
        return { draft with path := some (← value.readString .path) }
      defaulted := false },
    { name := "sweep"
      given := fun draft => draft.sweep.isSome
      take := fun value draft => do
        return { draft with sweep := some (← SweepConfiguration.record.read value) }
      defaulted := true } ]

/-- The configuration of a draft. -/
def Draft.complete (draft : Draft) : Read Configuration := do
  let path ← orMissing "db_path" draft.path
  return { path, sweep := draft.sweep.getD .default }

/-- How a configuration is read. -/
def record : Record Draft Configuration where
  name := "StoreConfig"
  fields := fields
  strict := true
  blank := {}
  complete := Draft.complete

/-- Reads a configuration from JSON text. -/
def ofJson (text : String) : Read Configuration := decode record.read text

/-- A configuration as a value. -/
def toJson (c : Configuration) : Value :=
  .ofMembers [("db_path", .ofText c.path), ("sweep", c.sweep.toJson)]

end Configuration
end PushLedger
