import PushLedger.Table.Guard
import PushLedger.Table.Fault

/-!
# The subscription table

A table is a layout, its rows by ascending id, and what surrounds them: the indexes, the counter
of ids and a guard. The statements that the ledger runs are functions from tables to tables with a
count of rows. A statement that fails returns only its fault, so the table it was given is the one
that goes on to be used.
-/

namespace PushLedger

/-- The ledger's table. -/
structure Table where
  layout : Layout
  /-- The three indexes exist; one of them lets no two rows agree in topic and endpoint. -/
  indexed : Bool
  rows : List Row
  /-- The greatest id ever given, if the layout counts ids; zero as long as none was positive. -/
  counter : Nat
  guard : Option Guard
deriving DecidableEq, Repr

namespace Table

/-- The name of the table. -/
def name : String := "subscriptions"

/-- The indexes of an indexed table in the order of their creation, each with its first column. -/
def indexes : List (String × Column) :=
  [("idx_topic", .topic), ("idx_endpoint", .endpoint), ("idx_topic_endpoint", .topic)]

/-- The names of the indexes. -/
def indexNames : List String := indexes.map Prod.fst

/-- A table without rows. -/
def empty (layout : Layout) (indexed : Bool) : Table := ⟨layout, indexed, [], 0, none⟩

/-- The refusal of a guard to one of the affected rows. -/
def refusal? (t : Table) (moment : Moment) (affected : Row → Bool) : Option String :=
  t.rows.findSome? fun row =>
    if affected row then Guard.refusal? t.guard moment row.toContent else none

/-- A row that a statement reaches: it is affected, and no guard makes the statement skip it. -/
def reached (t : Table) (moment : Moment) (affected : Row → Bool) (row : Row) : Bool :=
  affected row && !Guard.stops t.guard moment row.toContent

/-- Deletes the affected rows and counts them. -/
def delete (t : Table) (affected : Row → Bool) : Except StorageFault (Table × Nat) :=
  match t.refusal? .delete affected with
  | some message => .error (.refused message)
  | none =>
      .ok ({ t with rows := t.rows.filter fun row => !t.reached .delete affected row },
        t.rows.countP (t.reached .delete affected))

/-- Sets the warning flag of the affected rows and counts them. -/
def flag (t : Table) (affected : Row → Bool) : Except StorageFault (Table × Nat) :=
  match t.refusal? .flag affected with
  | some message => .error (.refused message)
  | none =>
      .ok ({ t with rows := t.rows.map fun row =>
              if t.reached .flag affected row then { row with warningSent := .integer 1 }
              else row },
        t.rows.countP (t.reached .flag affected))

/-- The greatest id that a new one has to exceed. -/
def lastId (t : Table) : Int :=
  if t.layout.counted then t.rows.foldl (fun last row => max last row.id) (t.counter : Int)
  else match t.rows with
    | [] => 0
    | row :: rest => rest.foldl (fun last row => max last row.id) row.id

/-- The id of the next row, as long as the words have one left. -/
def nextId (t : Table) : Except StorageFault Int :=
  if t.lastId < Word.greatest then .ok (t.lastId + 1) else .error .full

/-- The fault of putting a row with this id and content beside the others. -/
def conflict? (layout : Layout) (indexed : Bool) (others : List Row) (row : Row) :
    Option StorageFault :=
  match row.firstMissing? layout with
  | some column => some (.missingValue name column.name)
  | none =>
      if others.any (fun other => other.id = row.id) then
        some (.duplicate name [Column.id.name])
      else if indexed && others.any (fun other => row.clashes other.toContent) then
        some (.duplicate name [Column.topic.name, Column.endpoint.name])
      else none

/-- Inserts one row, with a given id or the next one, and counts it. The cells pass through the
affinities of the columns first, and a guard is asked before an id is drawn. -/
def insert (t : Table) (id? : Option Int) (content : Content) :
    Except StorageFault (Table × Nat) :=
  let content := content.stored t.layout
  match Guard.refusal? t.guard .insert content with
  | some message => .error (.refused message)
  | none =>
      if Guard.stops t.guard .insert content then .ok (t, 0) else do
        let id ← match id? with
          | some id => pure id
          | none => t.nextId
        let row : Row := { content with id }
        match conflict? t.layout t.indexed t.rows row with
        | some fault => throw fault
        | none =>
            return ({ t with rows := row.place t.rows, counter := max t.counter id.toNat }, 1)

/-- Writes one cell of the row with the given id from outside and counts the row. -/
def overwrite (t : Table) (id : Int) (column : Column) (cell : Cell) :
    Except StorageFault (Table × Nat) :=
  if column ∉ t.layout.columns then .error (.noColumn column.name) else
  match t.rows.find? fun row => row.id = id with
  | none => .ok (t, 0)
  | some row =>
      let others := t.rows.filter fun other => other.id ≠ id
      let stored := (t.layout.affinity column).apply cell
      match if column = .warningSent then Guard.refusal? t.guard .flag row.toContent else none with
      | some message => .error (.refused message)
      | none =>
          if column = .warningSent && Guard.stops t.guard .flag row.toContent then .ok (t, 0)
          else do
            let changed ← match column, stored with
              | .id, .integer n => pure { row with id := n }
              | .id, _ => throw .mismatch
              | _, _ => pure { row with toContent := row.toContent.set column stored }
            match conflict? t.layout t.indexed others changed with
            | some fault => throw fault
            | none => return ({ t with rows := changed.place others }, 1)

end Table
end PushLedger
