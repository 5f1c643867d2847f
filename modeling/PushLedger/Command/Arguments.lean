import PushLedger.Configuration.Basic
import PushLedger.Word

/-!
# Arguments of the command line

An optional `--log-dir` with a directory comes first; then the location of the database, alone or
with the two ages in seconds. Numbers are plain decimal digits, with a plus sign in front if one
likes.
-/

namespace PushLedger.Command

/-- What the command line asks for. -/
structure Arguments where
  configuration : Configuration
  logDirectory : Option String
deriving DecidableEq, Repr

/-- Why a text is no number. -/
inductive NumberFault
  | empty
  | invalidDigit
  | tooLarge
deriving DecidableEq, Repr

/-- Why arguments were not accepted. -/
inductive ArgumentFault
  /-- The flag for the log stands alone. -/
  | noDirectory
  /-- Too few or too many arguments. -/
  | misused
  /-- An age is no number. -/
  | badNumber (name value : String) (fault : NumberFault)
deriving DecidableEq, Repr

/-- The wording of a fault in a number. -/
def NumberFault.message : NumberFault → String
  | empty => "cannot parse integer from empty string"
  | invalidDigit => "invalid digit found in string"
  | tooLarge => "number too large to fit in target type"

/-- How the command is used. -/
def usage : String :=
  "usage: webpush_cli [--log-dir <dir>] <db-path> [<warning-secs> <expire-secs>]"

/-- The wording of a fault in the arguments. -/
def ArgumentFault.message : ArgumentFault → String
  | noDirectory => "--log-dir requires a directory"
  | misused => usage
  | badNumber name value fault => s!"invalid {name} `{value}`: {fault.message}"

/-- The flag in front of the directory for the log. -/
def logFlag : String := "--log-dir"

/-- The number that the digits continue. The first character that is no digit, or digit that makes
the number too large, ends the reading. -/
def readDigits : List Char → Nat → Except NumberFault Nat
  | [], n => .ok n
  | c :: rest, n =>
      if !c.isDigit then .error .invalidDigit
      else
        let next := n * 10 + (c.toNat - '0'.toNat)
        if next ≤ Word.greatestUnsigned then readDigits rest next else .error .tooLarge

/-- The unsigned word that a text names. -/
def readNumber (text : String) : Except NumberFault Nat :=
  match text.toList with
  | [] => .error .empty
  | '+' :: [] => .error .invalidDigit
  | '+' :: digits => readDigits digits 0
  | digits => readDigits digits 0

/-- An age among the arguments. -/
def readAge (name value : String) : Except ArgumentFault Nat :=
  match readNumber value with
  | .ok n => .ok n
  | .error fault => .error (.badNumber name value fault)

/-- The configuration that the arguments after the flag name. -/
def readConfiguration : List String → Except ArgumentFault Configuration
  | [path] => .ok (.ofPath path)
  | [path, warning, expire] => do
      let warningAfter ← readAge "warning-secs" warning
      let expireAfter ← readAge "expire-secs" expire
      return { path, sweep := { warningAfter, expireAfter } }
  | _ => .error .misused

/-- The flag with its directory, and the other arguments. -/
def splitFlag : List String → Except ArgumentFault (Option String × List String)
  | [flag] => if flag = logFlag then .error .noDirectory else .ok (none, [flag])
  | flag :: directory :: rest =>
      if flag = logFlag then .ok (some directory, rest)
      else .ok (none, flag :: directory :: rest)
  | [] => .ok (none, [])

namespace Arguments

/-- What a list of arguments asks for. -/
def parse (arguments : List String) : Except ArgumentFault Arguments := do
  let (logDirectory, rest) ← splitFlag arguments
  return { configuration := ← readConfiguration rest, logDirectory }

/-- The arguments that ask for something, with both ages. -/
def render (a : Arguments) : List String :=
  (match a.logDirectory with
    | some directory => [logFlag, directory]
    | none => []) ++
  [a.configuration.path, toString a.configuration.sweep.warningAfter,
    toString a.configuration.sweep.expireAfter]

end Arguments
end PushLedger.Command
