import PushLedger.Json.Fault
import PushLedger.Json.Reader

/-!
# Reading records

A record is read from an object, member by member, or from an array in the order of its fields. Its
fields are collected in a draft. Faults are found in the order of the text: an unknown or repeated
name before its value, a missing field at the end of the object, in the order of the record.

A strict record refuses unknown names; any other skips them, as long as their values are sound.
-/

namespace PushLedger.Json

/-- The result of reading. -/
abbrev Read := Except ReadFault

/-- A fault of sound text. -/
def refuse {α : Type} (fault : DataFault) : Read α := .error (.data fault)

/-- Refuses a value for what it is. A string or a number is read before it is refused. -/
def mismatch {α : Type} (value : Value) (expected : Expected) : Read α :=
  match value with
  | .null => refuse (.wrongType .null expected)
  | .boolean b => refuse (.wrongType (.boolean b) expected)
  | .number numeral =>
      match numeral.amount? with
      | some (.integer n) => refuse (.wrongType (.integer n) expected)
      | some (.real x) => refuse (.wrongType (.real x) expected)
      | none => .error .malformed
  | .string pieces =>
      match Piece.text? pieces with
      | some s => refuse (.wrongType (.text s) expected)
      | none => .error .malformed
  | .array _ => refuse (.wrongType .sequence expected)
  | .object _ => refuse (.wrongType .map expected)
  | .broken => .error .malformed

namespace Value

/-- A text where a text of some kind is expected. -/
def readString (value : Value) (expected : Expected) : Read String :=
  match value with
  | .string pieces =>
      match Piece.text? pieces with
      | some s => .ok s
      | none => .error .malformed
  | other => mismatch other expected

/-- A text or null. -/
def readOptional (value : Value) : Read (Option String) :=
  match value with
  | .null => .ok none
  | other => (other.readString .text).map some

/-- A truth value. -/
def readBoolean (value : Value) : Read Bool :=
  match value with
  | .boolean b => .ok b
  | other => mismatch other .boolean

/-- An integer within bounds. -/
def readInteger (value : Value) (expected : Expected) (least greatest : Int) : Read Int :=
  match value with
  | .number numeral =>
      match numeral.integer? with
      | some n =>
          if least ≤ n ∧ n ≤ greatest then .ok n else refuse (.wrongValue n expected)
      | none => mismatch (.number numeral) expected
  | other => mismatch other expected

/-- An integer that fits a signed word. -/
def readSigned (value : Value) : Read Int :=
  value.readInteger .signed Word.least Word.greatest

/-- An integer that fits an unsigned word. -/
def readUnsigned (value : Value) : Read Nat :=
  (value.readInteger .unsigned 0 Word.greatestUnsigned).map Int.toNat

/-- Nothing but null. -/
def readUnit (value : Value) : Read Unit :=
  match value with
  | .null => .ok ()
  | other => mismatch other .unit

end Value

/-- A field of a record that is read into a draft. -/
structure RecordField (δ : Type) where
  name : String
  /-- The draft has the field already. -/
  given : δ → Bool
  /-- Puts a value into the draft. -/
  take : Value → δ → Read δ
  /-- An array may end before this field. -/
  defaulted : Bool

/-- How a record is read. -/
structure Record (δ α : Type) where
  name : String
  fields : List (RecordField δ)
  strict : Bool
  /-- The draft that nothing has been read into. -/
  blank : δ
  /-- The record of a draft, or the fault of its first missing field. -/
  complete : δ → Read α

namespace Record

variable {δ α : Type}

/-- Reads the members of an object into a draft. -/
def takeMembers (r : Record δ α) : Members → δ → Read δ
  | .done, draft => .ok draft
  | .broken, _ => .error .malformed
  | .more pieces value rest, draft =>
      match Piece.text? pieces with
      | none => .error .malformed
      | some name =>
          match r.fields.find? fun field => field.name == name with
          | some field =>
              if field.given draft then refuse (.duplicateField name)
              else do takeMembers r rest (← field.take value draft)
          | none =>
              if r.strict then refuse (.unknownField name (r.fields.map RecordField.name))
              else if value.sound then takeMembers r rest draft
              else .error .malformed

/-- Reads the items of an array into a draft, one for each field. -/
def takeItems (r : Record δ α) : List (RecordField δ) → Nat → Items → δ → Read δ
  | [], _, .done, draft => .ok draft
  | [], _, _, _ => .error .malformed
  | field :: fields, count, .done, draft =>
      if field.defaulted then takeItems r fields (count + 1) .done draft
      else refuse (.wrongLength count r.name r.fields.length)
  | field :: fields, count, .more value rest, draft => do
      takeItems r fields (count + 1) rest (← field.take value draft)
  | _ :: _, _, .broken, _ => .error .malformed

/-- Reads a record. -/
def read (r : Record δ α) (value : Value) : Read α :=
  match value with
  | .object members => do r.complete (← r.takeMembers members r.blank)
  | .array items => do r.complete (← r.takeItems r.fields 0 items r.blank)
  | other => mismatch other (.record r.name)

end Record

/-- The value of a field, or the fault of its absence. -/
def orMissing {α : Type} (name : String) : Option α → Read α
  | some a => .ok a
  | none => refuse (.missingField name)

/-- Reads a whole text. What follows the value has to be blank; this is looked at last. -/
def decode {α : Type} (reader : Value → Read α) (text : String) : Read α :=
  let (value, rest) := Json.read text
  match reader value with
  | .ok a => if (skipBlanks rest).isEmpty then .ok a else .error .malformed
  | .error fault => .error fault

end PushLedger.Json
