import PushLedger.Json.Amount

/-!
# Looking into JSON values

Questions to a value whose answer is nothing when the value is of another kind. Nothing is worded
and nothing is blamed here; readers that have to explain a fault are records.
-/

namespace PushLedger.Json

/-- The values of an array as far as they were read. -/
def Items.toList : Items → List Value
  | .more value rest => value :: rest.toList
  | _ => []

/-- The names and values of an object as far as they were read; a name that is no text is left
out. -/
def Members.toList : Members → List (String × Value)
  | .more pieces value rest =>
      match Piece.text? pieces with
      | some name => (name, value) :: rest.toList
      | none => rest.toList
  | _ => []

namespace Value

/-- The values of an array. -/
def items? : Value → Option (List Value)
  | .array items => some items.toList
  | _ => none

/-- The names and values of an object. -/
def members? : Value → Option (List (String × Value))
  | .object members => some members.toList
  | _ => none

/-- The first value of a name that is not null. -/
def member? (value : Value) (name : String) : Option Value := do
  match ← (← value.members?).find? fun member => member.1 == name with
  | (_, .null) => none
  | (_, value) => some value

/-- The text of a string. -/
def text? : Value → Option String
  | .string pieces => Piece.text? pieces
  | _ => none

/-- The integer that a number is. -/
def int? : Value → Option Int
  | .number numeral => numeral.integer?
  | _ => none

/-- The truth value. -/
def truth? : Value → Option Bool
  | .boolean b => some b
  | _ => none

/-- The text of a member. -/
def textAt? (value : Value) (name : String) : Option String := value.member? name >>= text?

/-- The integer of a member. -/
def intAt? (value : Value) (name : String) : Option Int := value.member? name >>= int?

/-- The values of a member that is an array. -/
def itemsAt? (value : Value) (name : String) : Option (List Value) := value.member? name >>= items?

/-- The truth value of a member; false if there is none. -/
def truthAt (value : Value) (name : String) : Bool := (value.member? name >>= truth?).getD false

end Value
end PushLedger.Json
