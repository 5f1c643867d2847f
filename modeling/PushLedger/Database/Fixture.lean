import PushLedger.Database.VersionTable
import PushLedger.Table.Guard

/-!
# What else is in a database

A file may hold more than the ledger's tables: further tables, views, indexes and triggers. To the
ledger they matter by the names that they bear, since tables, views and indexes share one space of
names, and by the names that the texts of views and triggers mention. When a table is renamed, these
texts are read again. They fail to be read if a table is missing that they name, or if there is a flaw
in them, and otherwise follow the renaming.

A further table has the columns of a version table, and a view shows what such a table holds. This is
enough for the two cases that the ledger tells apart, a name that is borne by something else than its
own table and a column that is not there. The ledger's own indexes and the guard are kept with the
subscription table. Other indexes and triggers of that table, which keep no row out of it, stand here,
and when it is dropped they go with it.
-/

namespace PushLedger

/-- Two names that the storage does not tell apart: it overlooks the case of letters. -/
def sameName (a b : String) : Bool := a.toList.map Char.toLower == b.toList.map Char.toLower

/-- A further table, with the columns of a version table. -/
structure OtherTable where
  name : String
  /-- Pairs of id and version. -/
  rows : List (Cell × Cell)
  /-- The guard on a namesake of the subscription table. -/
  guard : Option Guard
deriving DecidableEq, Repr

namespace OtherTable

/-- A further table without rows. -/
def empty (name : String) : OtherTable := ⟨name, [], none⟩

/-- Inserts a row; the ids are a key. -/
def insert (t : OtherTable) (id version : Cell) : Except StorageFault OtherTable :=
  let id := Affinity.numeric.apply id
  if VersionTable.hasId t.rows id then .error (.duplicate t.name [Column.id.name])
  else .ok { t with rows := t.rows ++ [(id, version)] }

end OtherTable

/-- The kinds of things that share a space of names. -/
inductive Bearer
  | table | view | index
deriving DecidableEq, Repr

/-- The text of a view or of a trigger. -/
structure Body where
  /-- The tables and views that it names. -/
  needs : List String
  /-- What is wrong with it even where all of them are there, such as a column that none of them has.
  -/
  flaw : Option String := none
deriving DecidableEq, Repr

/-- Something in a database that is no table. -/
inductive Fixture
  | view (name : String) (body : Body)
  | index (name table : String)
  | trigger (name table : String) (body : Body)
deriving DecidableEq, Repr

namespace Fixture

/-- What bears the name, if the fixture bears it. Triggers have names of their own. -/
def bearer? (name : String) : Fixture → Option Bearer
  | view own _ => if sameName name own then some .view else none
  | index own _ => if sameName name own then some .index else none
  | trigger _ _ _ => none

/-- The text of a fixture, if it is more than a name. -/
def body? : Fixture → Option Body
  | view _ body => some body
  | index _ _ => none
  | trigger _ _ body => some body

/-- The fixture belongs to the table, and goes with it. -/
def isOf (table : String) : Fixture → Bool
  | view _ _ => false
  | index _ own => sameName table own
  | trigger _ own _ => sameName table own

/-- A name after a table was renamed. -/
def renamedName (old new name : String) : String := if sameName old name then new else name

/-- A text after a table was renamed. -/
def renamedBody (old new : String) (body : Body) : Body :=
  { body with needs := body.needs.map (renamedName old new) }

/-- The fixture after a table was renamed. -/
def renamed (old new : String) : Fixture → Fixture
  | view name body => view name (renamedBody old new body)
  | index name table => index name (renamedName old new table)
  | trigger name table body => trigger name (renamedName old new table) (renamedBody old new body)

/-- The word for a fixture and its name. -/
def label : Fixture → String × String
  | view name _ => ("view", name)
  | index name _ => ("index", name)
  | trigger name _ _ => ("trigger", name)

/-- A renamed table takes no name from a fixture and gives it none. -/
@[simp] theorem bearer_renamed (old new name : String) (fixture : Fixture) :
    (fixture.renamed old new).bearer? name = fixture.bearer? name := by
  cases fixture <;> rfl

end Fixture
end PushLedger
