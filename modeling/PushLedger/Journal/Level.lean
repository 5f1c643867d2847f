import PushLedger.Text.Blank

/-!
# Levels of log records

Five levels, from the most severe to the most detailed. A configured level lets a record pass that
is at least as severe.
-/

namespace PushLedger

/-- How severe a record is. -/
inductive LogLevel
  | error | warn | info | debug | trace
deriving DecidableEq, Repr

namespace LogLevel

/-- The place of a level, the most severe first. -/
def rank : LogLevel → Nat
  | .error => 1
  | .warn => 2
  | .info => 3
  | .debug => 4
  | .trace => 5

/-- The configured level lets a record of the other level pass. -/
def admits (configured record : LogLevel) : Bool := record.rank ≤ configured.rank

/-- The name of a level in a configuration. -/
def name : LogLevel → String
  | .error => "error"
  | .warn => "warn"
  | .info => "info"
  | .debug => "debug"
  | .trace => "trace"

/-- The mark of a level in front of a record. -/
def mark : LogLevel → String
  | .error => "ERROR"
  | .warn => "WARN"
  | .info => "INFO"
  | .debug => "DEBUG"
  | .trace => "TRACE"

/-- The spelling under which level names are compared: no blanks around it, small ASCII letters. -/
def normalSpelling (text : String) : String := Text.toAsciiLower (Text.trimBlanks text)

/-- The level of a normal spelling. -/
def ofSpelling? : String → Option LogLevel
  | "trace" => some .trace
  | "debug" => some .debug
  | "info" => some .info
  | "warn" => some .warn
  | "warning" => some .warn
  | "error" => some .error
  | _ => none

end LogLevel
end PushLedger
