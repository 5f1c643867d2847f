import PushLedger.Ledger.Outcome

/-!
# Reading rows

A row becomes a subscription when each of its cells has the class that its column needs. The warning
flag is looked at first, then the columns in order, and the first cell that does not fit names the
fault. A flag that is an integer must moreover be zero or one.
-/

namespace PushLedger

/-- The cell as text; `index` and `column` place it in the result that is being read. -/
def Cell.readText (cell : Cell) (index : Nat) (column : Column) : Except StorageFault String :=
  match cell with
  | .text s => .ok s
  | other => .error (.wrongClass other.storageClass index column.name)

/-- The cell as text or nothing. -/
def Cell.readOptionalText (cell : Cell) (index : Nat) (column : Column) :
    Except StorageFault (Option String) :=
  match cell with
  | .null => .ok none
  | .text s => .ok (some s)
  | other => .error (.wrongClass other.storageClass index column.name)

/-- The cell as an integer. -/
def Cell.readInteger (cell : Cell) (index : Nat) (column : Column) : Except StorageFault Int :=
  match cell with
  | .integer n => .ok n
  | other => .error (.wrongClass other.storageClass index column.name)

namespace Row

/-- What is said of a flag that is neither zero nor one. -/
def flagDetail (flag : Int) : String :=
  s!"invalid warning_sent value `{flag}` in subscriptions.warning_sent"

/-- The warning flag as a truth value. -/
def readFlag (row : Row) : Except LedgerFault Bool :=
  match row.warningSent.readInteger 7 .warningSent with
  | .error fault => .error (.storage fault)
  | .ok 0 => .ok false
  | .ok 1 => .ok true
  | .ok flag => .error (.invalidData (flagDetail flag))

/-- The columns besides the flag. -/
def readColumns (row : Row) (warningSent : Bool) : Except StorageFault Subscription := do
  let topic ← row.topic.readText 1 .topic
  let userId ← row.userId.readOptionalText 2 .userId
  let endpoint ← row.endpoint.readText 3 .endpoint
  let keyAuth ← row.keyAuth.readText 4 .keyAuth
  let keyP256dh ← row.keyP256dh.readText 5 .keyP256dh
  let updatedAt ← row.updatedAt.readInteger 6 .updatedAt
  return { id := row.id, topic, userId, endpoint, keyAuth, keyP256dh, updatedAt, warningSent }

/-- The subscription that a row holds. -/
def read (row : Row) : Except LedgerFault Subscription :=
  match row.readFlag with
  | .error fault => .error fault
  | .ok flag =>
      match row.readColumns flag with
      | .ok subscription => .ok subscription
      | .error fault => .error (.storage fault)

end Row

namespace Table

/-- The order in which rows of one topic are met. An indexed table with types is read along the
index by topic and endpoint, any other table by id. The order decides which of several damaged
rows is named. -/
def visited (t : Table) (rows : List Row) : List Row :=
  if t.indexed && t.layout.counted then
    rows.mergeSort fun a b => a.endpoint.order b.endpoint != .gt
  else rows

/-- The fault of the first damaged row that is met. -/
def firstDamage? (t : Table) (rows : List Row) : Option LedgerFault :=
  (t.visited rows).findSome? fun row =>
    match row.read with
    | .ok _ => none
    | .error fault => some fault

/-- The subscriptions of a topic by id, or the fault of a damaged row among them. -/
def lookup (t : Table) (topic : String) : Except LedgerFault (List Subscription) :=
  if !t.layout.flagged then .error (.storage (.noColumn Column.warningSent.name)) else
  let rows := t.rows.filter fun row => row.topic.isText topic
  match t.firstDamage? rows with
  | some fault => .error fault
  | none => rows.mapM Row.read

end Table
end PushLedger
