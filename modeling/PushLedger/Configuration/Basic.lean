import PushLedger.Time.Span

/-!
# Configuration

A sweep is configured by two ages in seconds, at which subscriptions are warned and expire. A store
is configured by its location and its sweep. A sound configuration has a location, ages above
zero, and a warning before the expiry; the first of these that fails is reported.
-/

namespace PushLedger

/-- What is wrong with a configuration. -/
inductive ConfigurationFault
  | emptyPath
  /-- An age is zero; the field says which. -/
  | zeroDuration (field : String)
  | warningNotBeforeExpiry (warningAfter expireAfter : Nat)
deriving DecidableEq, Repr

/-- The wording of a fault. -/
def ConfigurationFault.message : ConfigurationFault → String
  | emptyPath => "db_path cannot be empty"
  | zeroDuration field => s!"{field} must be greater than zero"
  | warningNotBeforeExpiry warningAfter expireAfter =>
      s!"warning_after_secs ({warningAfter}) must be less than expire_after_secs ({expireAfter})"

/-- The ages of warning and expiry, in seconds. -/
structure SweepConfiguration where
  warningAfter : Nat := 55 * 86400
  expireAfter : Nat := 60 * 86400
deriving DecidableEq, Repr

namespace SweepConfiguration

/-- Fifty-five and sixty days. -/
def default : SweepConfiguration := {}

instance : Inhabited SweepConfiguration := ⟨default⟩

/-- The age of warning. -/
def warning (c : SweepConfiguration) : Span := .ofSeconds c.warningAfter

/-- The age of expiry. -/
def expiry (c : SweepConfiguration) : Span := .ofSeconds c.expireAfter

/-- The first thing wrong with the ages. -/
def check (c : SweepConfiguration) : Except ConfigurationFault Unit :=
  if c.warningAfter = 0 then .error (.zeroDuration "warning_after_secs")
  else if c.expireAfter = 0 then .error (.zeroDuration "expire_after_secs")
  else if c.expireAfter ≤ c.warningAfter then
    .error (.warningNotBeforeExpiry c.warningAfter c.expireAfter)
  else .ok ()

end SweepConfiguration

/-- The location of a store and its sweep. -/
structure Configuration where
  path : String
  sweep : SweepConfiguration := .default
deriving DecidableEq, Repr

namespace Configuration

/-- The configuration of a location with the default ages. -/
def ofPath (path : String) : Configuration := { path }

/-- The first thing wrong with a configuration. -/
def check (c : Configuration) : Except ConfigurationFault Unit :=
  if c.path.isEmpty then .error .emptyPath else c.sweep.check

end Configuration
end PushLedger
