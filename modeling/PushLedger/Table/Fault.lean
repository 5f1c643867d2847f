import PushLedger.Cell.Basic

/-!
# Faults of the storage

Everything that can go wrong while a table is read or written has a constructor that names the
cause, and one function words it. Callers tell faults apart by constructor, never by wording.
-/

namespace PushLedger

/-- The statements of an update that miss a column of what they read. -/
inductive UpdateStatement
  /-- The creation of an index. -/
  | index (name : String)
  /-- The copy of the old rows. -/
  | rowCopy
deriving DecidableEq, Repr

/-- Why a statement on the storage failed. -/
inductive StorageFault
  /-- The statement names a table that does not exist. -/
  | noTable (name : String)
  /-- The statement reads or changes a column that the table lacks. -/
  | noColumn (column : String) (statement : Option UpdateStatement := none)
  /-- The statement inserts into a column that the table lacks. -/
  | noTargetColumn (table column : String)
  /-- A table of that name stands in the way of a new one. -/
  | tableExists (name : String)
  /-- An index bears the name of a new table. -/
  | indexExists (name : String)
  /-- A view of that name stands in the way of a new table. -/
  | viewExists (name : String)
  /-- A table or a view bears the name of a new index. -/
  | nameTaken (name : String)
  /-- An index of that name stands in the way of a new one. -/
  | indexTaken (name : String)
  /-- An index is asked for on a view. -/
  | viewIndexed
  /-- A statement writes rows of a view. -/
  | viewModified (name : String)
  /-- A guard is put on a view. -/
  | viewGuarded (name : String)
  /-- A view is dropped as if it were a table. -/
  | viewDropped (name : String)
  /-- The text of a view or of a trigger cannot be read. -/
  | unresolved (kind name reason : String)
  /-- The name of a new table belongs to the storage itself. -/
  | reservedName (name : String)
  /-- A required column was given nothing. -/
  | missingValue (table column : String)
  /-- Two rows would agree in columns that identify a row. -/
  | duplicate (table : String) (columns : List String)
  /-- A row is to be written over the one with its id, and the ids are no key. -/
  | noKey
  /-- A row id was given something that is no integer. -/
  | mismatch
  /-- No id is left for another row. -/
  | full
  /-- A guard on the table refused the row. -/
  | refused (message : String)
  /-- A cell of the wrong class was met in a result column. -/
  | wrongClass (found : StorageClass) (index : Nat) (column : String)
  /-- An integer in a result column does not fit the type it is read into. -/
  | outOfRange (value : Int) (index : Nat)
  /-- The file holds something else. -/
  | notADatabase
  /-- The file cannot be opened or created. -/
  | cannotOpen (path : String)
  /-- The file cannot be read. -/
  | unreadable
  /-- The name of the file leaves no room for that of its journal. -/
  | noJournal
  /-- A path holds a NUL byte, at this position. -/
  | nulByte (position : Nat)
  /-- A write was attempted on a database that is open for reading only. -/
  | readOnly
  /-- A location names a machine other than this one. -/
  | foreignAuthority (authority : String)
  /-- A location asks for a mode that does not exist. -/
  | noMode (kind mode : String)
  /-- A location asks for more access than it has asked for before. -/
  | modeNotAllowed (mode : String)
  /-- A location asks for an unknown file system. -/
  | noFileSystem (name : String)
deriving DecidableEq, Repr

/-- The name of a class in messages. -/
def StorageClass.label : StorageClass → String
  | .null => "Null"
  | .integer => "Integer"
  | .real => "Real"
  | .text => "Text"
  | .blob => "Blob"

namespace StorageFault

/-- The wording of a fault. -/
def message : StorageFault → String
  | noTable name => s!"no such table: {name}"
  | noColumn column _ => s!"no such column: {column}"
  | noTargetColumn table column => s!"table {table} has no column named {column}"
  | tableExists name => s!"table {name} already exists"
  | indexExists name => s!"there is already an index named {name}"
  | viewExists name => s!"view {name} already exists"
  | nameTaken name => s!"there is already a table named {name}"
  | indexTaken name => s!"index {name} already exists"
  | viewIndexed => "views may not be indexed"
  | viewModified name => s!"cannot modify {name} because it is a view"
  | viewGuarded name => s!"cannot create BEFORE trigger on view: main.{name}"
  | viewDropped name => s!"use DROP VIEW to delete view {name}"
  | unresolved kind name reason => s!"error in {kind} {name}: {reason}"
  | reservedName name => s!"object name reserved for internal use: {name}"
  | missingValue table column => s!"NOT NULL constraint failed: {table}.{column}"
  | duplicate table columns =>
      "UNIQUE constraint failed: " ++
        ", ".intercalate (columns.map fun column => s!"{table}.{column}")
  | noKey => "ON CONFLICT clause does not match any PRIMARY KEY or UNIQUE constraint"
  | mismatch => "datatype mismatch"
  | full => "database or disk is full"
  | refused message => message
  | wrongClass found index column =>
      s!"Invalid column type {found.label} at index: {index}, name: {column}"
  | outOfRange value index => s!"Integer {value} out of range at index {index}"
  | notADatabase => "file is not a database"
  | cannotOpen path => s!"unable to open database file: {path}"
  | unreadable => "disk I/O error"
  | noJournal => "unable to open database file"
  | nulByte position => s!"nul byte found in provided data at position: {position}"
  | readOnly => "attempt to write a readonly database"
  | foreignAuthority authority => s!"invalid uri authority: {authority}"
  | noMode kind mode => s!"no such {kind} mode: {mode}"
  | modeNotAllowed mode => s!"access mode not allowed: {mode}"
  | noFileSystem name => s!"no such vfs: {name}"

end StorageFault
end PushLedger
