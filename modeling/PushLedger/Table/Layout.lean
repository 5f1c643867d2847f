import PushLedger.Cell.Affinity

/-!
# Columns and layouts

The ledger's table has eight columns. Four layouts of it are met in files: the first published
one, with stamps as text; the present one, with stamps in milliseconds; and two without types and
constraints, of which the second lacks the warning flag.

A layout says what a column does to a cell that is written into it, whether it may stay empty,
and whether ids are counted, so that they are never given twice.
-/

namespace PushLedger

/-- The columns of the ledger's table, in order. -/
inductive Column
  | id | topic | userId | endpoint | keyAuth | keyP256dh | updatedAt | warningSent
deriving DecidableEq, Repr

namespace Column

/-- All columns in the order of the table. -/
def all : List Column :=
  [.id, .topic, .userId, .endpoint, .keyAuth, .keyP256dh, .updatedAt, .warningSent]

/-- The name of a column in statements and messages. -/
def name : Column → String
  | .id => "id"
  | .topic => "topic"
  | .userId => "user_id"
  | .endpoint => "endpoint"
  | .keyAuth => "key_auth"
  | .keyP256dh => "key_p256dh"
  | .updatedAt => "updated_at"
  | .warningSent => "warning_sent"

/-- The column of a name. -/
def ofName? (name : String) : Option Column := all.find? fun column => column.name == name

end Column

/-- The shapes of the table that files may hold. -/
inductive Layout
  /-- The first published layout: stamps are date texts. -/
  | dated
  /-- The present layout: stamps are milliseconds, and every row has one. -/
  | epoch
  /-- Columns without types and constraints. -/
  | untyped
  /-- Columns without types and constraints, and no warning flag. -/
  | unflagged
deriving DecidableEq, Repr

namespace Layout

/-- The columns that the layout has. -/
def columns : Layout → List Column
  | .unflagged => Column.all.filter (· ≠ .warningSent)
  | _ => Column.all

/-- The declared type of a column. -/
def declaredType : Layout → Column → String
  | _, .id => "INTEGER"
  | .untyped, _ => ""
  | .unflagged, _ => ""
  | .dated, .updatedAt => "DATETIME"
  | .dated, .warningSent => "BOOLEAN"
  | .epoch, .updatedAt => "INTEGER"
  | .epoch, .warningSent => "INTEGER"
  | _, _ => "TEXT"

/-- The affinity that follows from the declared type. -/
def affinity : Layout → Column → Affinity
  | _, .id => .numeric
  | .untyped, _ => .none
  | .unflagged, _ => .none
  | _, .updatedAt => .numeric
  | _, .warningSent => .numeric
  | _, _ => .text

/-- The columns that may not be left empty. -/
def required : Layout → Column → Bool
  | .dated, column => column ∈ [.topic, .endpoint, .keyAuth, .keyP256dh]
  | .epoch, column =>
      column ∈ [.topic, .endpoint, .keyAuth, .keyP256dh, .updatedAt, .warningSent]
  | _, _ => false

/-- What a column holds when a row does not mention it. A stamp that was left out is empty here,
because the ledger has no clock of its own to fill it from. -/
def defaultCell : Layout → Column → Cell
  | .dated, .warningSent => .integer 0
  | .epoch, .warningSent => .integer 0
  | _, _ => .null

/-- Ids are counted: an id that was once given is never given again. -/
def counted : Layout → Bool
  | .dated => true
  | .epoch => true
  | _ => false

/-- The layout has a warning flag. -/
def flagged : Layout → Bool
  | .unflagged => false
  | _ => true

end Layout
end PushLedger
