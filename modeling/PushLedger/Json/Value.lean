import PushLedger.Number.Decimal

/-!
# JSON values as they were written

A value keeps what its text said: numbers as digits, strings as characters and escaped units. What
a number or a string means is asked later and may fail, which is why a string whose escapes name no
character may stand where nobody looks at it.

A text that goes wrong somewhere still has a value up to that place. The place itself is marked, so
that a reader who walks the value in the order of the text meets the same first fault as one who
reads the text itself.
-/

namespace PushLedger.Json

/-- A number as its text has it. -/
structure Numeral where
  negative : Bool
  whole : List Char
  fraction : List Char
  /-- The sign and the digits of the exponent; `true` is the minus sign. -/
  exponent : Option (Bool × List Char)
deriving DecidableEq, Repr

/-- A piece of a string: a character, or a 16-bit unit given by four hexadecimal digits. -/
inductive Piece
  | char (c : Char)
  | unit (n : Nat)
deriving DecidableEq, Repr

mutual

/-- A value. -/
inductive Value
  | null
  | boolean (b : Bool)
  | number (numeral : Numeral)
  | string (pieces : List Piece)
  | array (items : Items)
  | object (members : Members)
  /-- No value can be read here. -/
  | broken

/-- The values of an array. -/
inductive Items
  | done
  | more (value : Value) (rest : Items)
  /-- Neither another value nor the end of the array follows. -/
  | broken

/-- The members of an object. -/
inductive Members
  | done
  | more (name : List Piece) (value : Value) (rest : Members)
  /-- Neither another member nor the end of the object follows. -/
  | broken

end

instance : Inhabited Value := ⟨.null⟩

mutual

/-- Nothing in the value is broken. -/
def Value.sound : Value → Bool
  | .array items => items.sound
  | .object members => members.sound
  | .broken => false
  | _ => true

/-- Nothing in the items is broken, and their array ends. -/
def Items.sound : Items → Bool
  | .done => true
  | .more value rest => value.sound && rest.sound
  | .broken => false

/-- Nothing in the members is broken, and their object ends. -/
def Members.sound : Members → Bool
  | .done => true
  | .more _ value rest => value.sound && rest.sound
  | .broken => false

end

namespace Piece

/-- The units that begin a pair. -/
def isHigh (n : Nat) : Bool := 0xD800 ≤ n && n ≤ 0xDBFF

/-- The units that end a pair. -/
def isLow (n : Nat) : Bool := 0xDC00 ≤ n && n ≤ 0xDFFF

/-- The character that a pair of units names. -/
def paired (high low : Nat) : Char :=
  Char.ofNat (0x10000 + (high - 0xD800) * 0x400 + (low - 0xDC00))

/-- The characters of a string. A half of a pair without its other half names nothing. -/
def chars? : List Piece → Option (List Char)
  | [] => some []
  | .char c :: rest => (chars? rest).map (c :: ·)
  | .unit high :: .unit low :: rest =>
      if isHigh high && isLow low then (chars? rest).map (paired high low :: ·)
      else if isHigh high || isLow high then none
      else (chars? (.unit low :: rest)).map (Char.ofNat high :: ·)
  | .unit n :: rest =>
      if isHigh n || isLow n then none else (chars? rest).map (Char.ofNat n :: ·)

/-- The text of a string. -/
def text? (pieces : List Piece) : Option String := (chars? pieces).map String.ofList

/-- A text as a string without escaped units. -/
def ofText (s : String) : List Piece := s.toList.map .char

end Piece

namespace Value

/-- A text as a value. -/
def ofText (s : String) : Value := .string (Piece.ofText s)

/-- A text, or null for none. -/
def ofText? : Option String → Value
  | none => .null
  | some s => ofText s

/-- An integer as a value. -/
def ofInt (n : Int) : Value :=
  .number ⟨n < 0, Number.digitChars n.natAbs, [], none⟩

/-- A list of values as an array. -/
def ofList (values : List Value) : Value := .array (values.foldr .more .done)

/-- An object with the given members in order. -/
def ofMembers (members : List (String × Value)) : Value :=
  .object (members.foldr (fun member rest => .more (Piece.ofText member.1) member.2 rest) .done)

/-- An array of texts. -/
def ofTexts (texts : List String) : Value := ofList (texts.map ofText)

end Value
end PushLedger.Json
