import PushLedger.Database.Basic
import PushLedger.Json.Access

/-!
# Snapshots

A snapshot is a database as a JSON value, so that it can be kept in a file. Everything that a later
operation can ask for is in it: rows with the classes of their cells, the counter of ids, the
indexes, the guard, the version stamps and whatever else there is.
-/

namespace PushLedger

open Json (Value)

namespace Cell

/-- A cell as a value. Reals are kept by sign, mantissa and exponent, bytes as numbers. -/
def snapshot : Cell → Value
  | .null => .null
  | .integer n => .ofInt n
  | .text s => .ofText s
  | .real x =>
      match x.magnitude with
      | .finite mantissa exponent =>
          .ofMembers [("real", .ofList [.boolean x.negative, .ofInt mantissa, .ofInt exponent])]
      | .infinite => .ofMembers [("infinity", .boolean x.negative)]
  | .blob bytes => .ofMembers [("blob", .ofList (bytes.map fun b => .ofInt b.toNat))]

/-- The real of a sign, a mantissa and an exponent. -/
def realOf? : List Value → Option Cell
  | [negative, mantissa, exponent] => do
      let size := (← mantissa.int?).toNat
      return .real ⟨← negative.truth?, .finite size (← exponent.int?)⟩
  | _ => none

/-- The cell of a value. -/
def ofSnapshot? (value : Value) : Option Cell :=
  match value with
  | .null => some .null
  | .number _ => value.int?.map .integer
  | .string _ => value.text?.map .text
  | _ =>
      match value.itemsAt? "real", value.member? "infinity", value.itemsAt? "blob" with
      | some parts, _, _ => realOf? parts
      | _, some negative, _ => negative.truth?.map fun b => .real (.infinity b)
      | _, _, some bytes => do
          return .blob ((← bytes.mapM Value.int?).map fun n => UInt8.ofNat n.toNat)
      | _, _, _ => none

end Cell

namespace Layout

/-- The name of a layout in snapshots. -/
def name : Layout → String
  | .dated => "dated"
  | .epoch => "epoch"
  | .untyped => "untyped"
  | .unflagged => "unflagged"

/-- The layout of a name. -/
def ofName? (name : String) : Option Layout :=
  [dated, epoch, untyped, unflagged].find? fun layout => layout.name == name

end Layout

namespace Guard

/-- The name of a moment in snapshots. -/
def momentName : Moment → String
  | .insert => "insert"
  | .delete => "delete"
  | .flag => "flag"

/-- The moment of a name. -/
def momentOf? (name : String) : Option Moment :=
  [Moment.insert, .delete, .flag].find? fun moment => momentName moment == name

/-- A guard as a value. -/
def snapshot (g : Guard) : Value :=
  .ofMembers [("moment", .ofText (momentName g.moment)), ("topic", .ofText? g.topic),
    ("message", .ofText? g.message)]

/-- The guard of a value. -/
def ofSnapshot? (value : Value) : Option Guard := do
  let moment ← momentOf? (← value.textAt? "moment")
  return { moment, topic := value.textAt? "topic", message := value.textAt? "message" }

end Guard

/-- The guard of a table's value, if it has one. -/
def guardAt? (value : Value) : Option (Option Guard) :=
  match value.member? "guard" with
  | none => some none
  | some value => (Guard.ofSnapshot? value).map some

namespace Row

/-- A row as the values of its id and its cells. -/
def snapshot (row : Row) : Value :=
  .ofList (Column.all.map fun column => (row.cell column).snapshot)

/-- The row of a value. -/
def ofSnapshot? (value : Value) : Option Row := do
  match ← (← value.items?).mapM Cell.ofSnapshot? with
  | [.integer id, topic, userId, endpoint, keyAuth, keyP256dh, updatedAt, warningSent] =>
      return { id, topic, userId, endpoint, keyAuth, keyP256dh, updatedAt, warningSent }
  | _ => none

end Row

namespace Table

/-- A table as a value. -/
def snapshot (t : Table) : Value :=
  .ofMembers
    [ ("layout", .ofText t.layout.name), ("indexed", .boolean t.indexed),
      ("rows", .ofList (t.rows.map Row.snapshot)), ("counter", .ofInt t.counter),
      ("guard", (t.guard.map Guard.snapshot).getD .null) ]

/-- The table of a value. -/
def ofSnapshot? (value : Value) : Option Table := do
  let layout ← Layout.ofName? (← value.textAt? "layout")
  let rows ← (← value.itemsAt? "rows").mapM Row.ofSnapshot?
  let counter ← value.intAt? "counter"
  let guard ← guardAt? value
  return { layout, indexed := value.truthAt "indexed", rows, counter := counter.toNat, guard }

end Table

/-- The id and the version of a row. -/
def stampRowOf? (value : Value) : Option (Cell × Cell) := do
  match ← (← value.items?).mapM Cell.ofSnapshot? with
  | [id, version] => return (id, version)
  | _ => none

/-- Rows of ids and versions as a value. -/
def stampRows (rows : List (Cell × Cell)) : Value :=
  .ofList (rows.map fun row => .ofList [row.1.snapshot, row.2.snapshot])

namespace Affinity

/-- The name of an affinity in snapshots. -/
def name : Affinity → String
  | .text => "text"
  | .numeric => "numeric"
  | .real => "real"
  | .none => "none"

/-- The affinity of a name. -/
def ofName? (name : String) : Option Affinity :=
  [text, numeric, real, none].find? fun affinity => affinity.name == name

end Affinity

namespace VersionTable

/-- A version table as a value. -/
def snapshot (t : VersionTable) : Value :=
  .ofMembers
    [ ("name", .ofText t.name), ("id", .ofText t.idAffinity.name),
      ("version", .ofText t.versionAffinity.name), ("keyed", .boolean t.keyed),
      ("rows", stampRows t.rows) ]

/-- The version table of a value. Rows that no such table holds make no value of one. -/
def ofSnapshot? (value : Value) : Option VersionTable := do
  let name ← value.textAt? "name"
  let idAffinity ← Affinity.ofName? (← value.textAt? "id")
  let versionAffinity ← Affinity.ofName? (← value.textAt? "version")
  let keyed := value.truthAt "keyed"
  let rows ← (← value.itemsAt? "rows").mapM stampRowOf?
  if distinct : keyed = true → Distinct rows then
    if stored : ∀ row ∈ rows,
        idAffinity.apply row.1 = row.1 ∧ versionAffinity.apply row.2 = row.2 then
      return { name, idAffinity, versionAffinity, keyed, rows, distinct, stored }
    else none
  else none

end VersionTable

namespace OtherTable

/-- A further table as a value. -/
def snapshot (t : OtherTable) : Value :=
  .ofMembers
    [ ("name", .ofText t.name), ("rows", stampRows t.rows),
      ("guard", (t.guard.map Guard.snapshot).getD .null) ]

/-- The further table of a value. -/
def ofSnapshot? (value : Value) : Option OtherTable := do
  let rows ← (← value.itemsAt? "rows").mapM stampRowOf?
  return { name := ← value.textAt? "name", rows, guard := ← guardAt? value }

end OtherTable

namespace Body

/-- The members that a text adds to a fixture. -/
def members (body : Body) : List (String × Value) :=
  [("needs", .ofTexts body.needs), ("flaw", (body.flaw.map Value.ofText).getD .null)]

/-- The text that the members of a value tell. -/
def ofMembers? (value : Value) : Option Body := do
  return { needs := ← (← value.itemsAt? "needs").mapM Value.text?, flaw := value.textAt? "flaw" }

end Body

namespace Fixture

/-- A fixture as a value. -/
def snapshot : Fixture → Value
  | view name body => .ofMembers (("view", .ofText name) :: body.members)
  | index name table => .ofMembers [("index", .ofText name), ("of", .ofText table)]
  | trigger name table body =>
      .ofMembers (("trigger", .ofText name) :: ("of", .ofText table) :: body.members)

/-- The fixture of a value. -/
def ofSnapshot? (value : Value) : Option Fixture :=
  match value.textAt? "view", value.textAt? "index", value.textAt? "trigger" with
  | some name, _, _ => return view name (← Body.ofMembers? value)
  | _, some name, _ => return index name (← value.textAt? "of")
  | _, _, some name => return trigger name (← value.textAt? "of") (← Body.ofMembers? value)
  | _, _, _ => none

end Fixture

namespace Database

/-- A database as a value. -/
def snapshot (db : Database) : Value :=
  .ofMembers
    [ ("subscriptions", (db.subscriptions.map Table.snapshot).getD .null),
      ("versions", (db.versions.map VersionTable.snapshot).getD .null),
      ("others", .ofList (db.others.map OtherTable.snapshot)),
      ("fixtures", .ofList (db.fixtures.map Fixture.snapshot)) ]

/-- The database of a value. -/
def ofSnapshot? (value : Value) : Option Database := do
  let subscriptions ← match value.member? "subscriptions" with
    | none => pure none
    | some value => some <$> Table.ofSnapshot? value
  let versions ← match value.member? "versions" with
    | none => pure none
    | some value => some <$> VersionTable.ofSnapshot? value
  let others ← (← value.itemsAt? "others").mapM OtherTable.ofSnapshot?
  let fixtures ← (← value.itemsAt? "fixtures").mapM Fixture.ofSnapshot?
  return { subscriptions, versions, others, fixtures }

end Database
end PushLedger
