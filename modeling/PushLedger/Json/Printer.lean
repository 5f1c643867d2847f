import PushLedger.Json.Value

/-!
# Writing JSON text

Values are written without blanks. A string escapes the quote, the backslash and the controls below
the space, and nothing else; a unit is written as it was read.
-/

namespace PushLedger.Json

/-- The hexadecimal digit of a number below sixteen. -/
def hexDigit (n : Nat) : Char := Nat.digitChar (n % 16)

/-- A unit as an escape. -/
def unitEscape (n : Nat) : List Char :=
  ['\\', 'u', hexDigit (n / 4096), hexDigit (n / 256), hexDigit (n / 16), hexDigit n]

/-- A character inside a string. -/
def charText (c : Char) : List Char :=
  if c = '"' then ['\\', '"']
  else if c = '\\' then ['\\', '\\']
  else if c = '\n' then ['\\', 'n']
  else if c = '\r' then ['\\', 'r']
  else if c = '\t' then ['\\', 't']
  else if c = '\x08' then ['\\', 'b']
  else if c = '\x0C' then ['\\', 'f']
  else if c.toNat < 0x20 then unitEscape c.toNat
  else [c]

/-- A piece of a string. -/
def Piece.print : Piece → List Char
  | .char c => charText c
  | .unit n => unitEscape n

/-- A string with its quotes. -/
def printString (pieces : List Piece) : List Char :=
  '"' :: (pieces.flatMap Piece.print ++ ['"'])

/-- A number. -/
def Numeral.print (n : Numeral) : List Char :=
  let fraction := if n.fraction.isEmpty then [] else '.' :: n.fraction
  let exponent := match n.exponent with
    | none => []
    | some (negative, digits) => 'e' :: Number.withSign negative digits
  Number.withSign n.negative (n.whole ++ fraction ++ exponent)

mutual

/-- The text of a value. -/
def Value.print : Value → List Char
  | .null => "null".toList
  | .boolean true => "true".toList
  | .boolean false => "false".toList
  | .number numeral => numeral.print
  | .string pieces => printString pieces
  | .array items => '[' :: (items.print true ++ [']'])
  | .object members => '\x7b' :: (members.print true ++ ['\x7d'])
  | .broken => []

/-- The text of the items, with a comma in front of each but the first. -/
def Items.print (isFirst : Bool) : Items → List Char
  | .done => []
  | .more value rest =>
      (if isFirst then [] else [',']) ++ value.print ++ rest.print false
  | .broken => []

/-- The text of the members, with a comma in front of each but the first. -/
def Members.print (isFirst : Bool) : Members → List Char
  | .done => []
  | .more name value rest =>
      (if isFirst then [] else [',']) ++ printString name ++ ':' :: value.print ++ rest.print false
  | .broken => []

end

/-- The text of a value as a string. -/
def Value.render (value : Value) : String := String.ofList value.print

/-- A real by its shortest digits; an infinity has no number and becomes null. -/
def Value.ofReal (x : Binary64) : Value :=
  match x.magnitude with
  | .infinite => .null
  | .finite mantissa exponent =>
      let d := Number.shortest mantissa exponent
      .number ⟨x.negative, Number.digitChars d.digits, [],
        some (d.power < 0, Number.digitChars d.power.natAbs)⟩

end PushLedger.Json
