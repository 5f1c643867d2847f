import PushLedger.Json.Amount
import PushLedger.Text.Quoted

/-!
# Faults of JSON text

Text is either malformed, or it is sound as far as it was read and says something else than was
expected. The second kind has a cause for each of its cases, and one function words them.
-/

namespace PushLedger.Json

/-- What was found where something else was expected. -/
inductive Found
  | null
  | boolean (b : Bool)
  | integer (n : Int)
  | real (x : Binary64)
  | text (s : String)
  | sequence
  | map
deriving DecidableEq, Repr

/-- What was expected. -/
inductive Expected
  | unsigned
  | signed
  | text
  | boolean
  | path
  | unit
  | record (name : String)
deriving DecidableEq, Repr

/-- Why sound text was not accepted. -/
inductive DataFault
  | wrongType (found : Found) (expected : Expected)
  /-- An integer outside the range of its field. -/
  | wrongValue (n : Int) (expected : Expected)
  /-- An array that ends too early. -/
  | wrongLength (length : Nat) (record : String) (fields : Nat)
  | missingField (name : String)
  | duplicateField (name : String)
  | unknownField (name : String) (known : List String)
  | unknownVariant (name : String) (known : List String)
deriving DecidableEq, Repr

/-- Why text was not accepted. -/
inductive ReadFault
  | malformed
  | data (fault : DataFault)
deriving DecidableEq, Repr

/-- The wording of what was found. -/
def Found.message : Found → String
  | null => "null"
  | boolean b => s!"boolean `{b}`"
  | integer n => s!"integer `{n}`"
  | real x => s!"floating point `{String.ofList (Number.exactText x)}`"
  | text s => s!"string {Text.quote s}"
  | sequence => "sequence"
  | map => "map"

/-- The wording of what was expected. -/
def Expected.message : Expected → String
  | unsigned => "u64"
  | signed => "i64"
  | text => "a string"
  | boolean => "a boolean"
  | path => "path string"
  | unit => "unit"
  | record name => s!"struct {name}"

/-- A choice of names. -/
def choice (names : List String) : String :=
  match names.map fun name => s!"`{name}`" with
  | [] => ""
  | [only] => only
  | [one, other] => s!"{one} or {other}"
  | several => "one of " ++ ", ".intercalate several

/-- The wording of a fault. -/
def DataFault.message : DataFault → String
  | wrongType found expected => s!"invalid type: {found.message}, expected {expected.message}"
  | wrongValue n expected => s!"invalid value: integer `{n}`, expected {expected.message}"
  | wrongLength length record fields =>
      s!"invalid length {length}, expected struct {record} with {fields} elements"
  | missingField name => s!"missing field `{name}`"
  | duplicateField name => s!"duplicate field `{name}`"
  | unknownField name known => s!"unknown field `{name}`, expected {choice known}"
  | unknownVariant name known => s!"unknown variant `{name}`, expected {choice known}"

end PushLedger.Json
