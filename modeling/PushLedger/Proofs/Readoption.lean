import PushLedger.Database.Listing
import PushLedger.Database.Outside
import PushLedger.Proofs.Legibility
import PushLedger.Proofs.Ownership

/-!
# Taking a store in again

A database that has lost its stamp is taken for an old one, whatever its tables are like. The update
then finds everything in place that its first step would create, and its second step copies every
row into another table of the same layout. It was written for the first published layout. Here it
meets rows that the ledger itself has written, and on these it is the identity: topics, endpoints
and keys are texts, a stamp is an integer and a flag zero or one, and an owner is a text with some
character that is not blank, so that it never consists of spaces.

The counter of ids is the one thing that such an update may change.
-/

namespace PushLedger

/-- A rebuild leaves what spells out a listing as it is, if the listing has an owner or none. -/
theorem Listing.rebuilt_content (l : Listing) (names : (Cell.ofText? l.userId).NamesOwner) :
    l.content.rebuilt = l.content := by
  have unspaced : l.content.rebuilt.userId = .ofText? l.userId :=
    Row.userId_copied_of_namesOwner ⟨l.content, 0⟩ names
  have flag : (Cell.integer (if l.warned then 1 else 0)).isTrue = l.warned := by
    cases l.warned <;> rfl
  calc l.content.rebuilt
      = { l.content with
          userId := l.content.rebuilt.userId
          warningSent := .integer
            (if (Cell.integer (if l.warned then 1 else 0)).isTrue then 1 else 0) } := rfl
    _ = l.content := by rw [unspaced, flag]; rfl

/-- A rebuild copies a row as it is, if the row is legible and has an owner or none. -/
theorem Row.copied_eq_self (row : Row) (legible : row.Legible) (names : row.userId.NamesOwner) :
    row.copied = row := by
  obtain ⟨l, spells⟩ := legible
  obtain ⟨content, id⟩ := row
  obtain rfl : content = l.content := spells
  exact congrArg (fun content : Content => ({ content with id := id } : Row))
    (l.rebuilt_content names)

namespace Table

/-- The table with its counter at the greatest id of its rows, or at zero. -/
def recounted (t : Table) : Table :=
  { t with counter := (t.rows.foldl (fun last row => max last row.id) (0 : Int)).toNat }

/-- A rebuild of a table that the ledger has written starts its counter again and changes nothing
else. -/
theorem rebuiltTable_eq_recounted (t : Table) (current : t.Current) (legible : t.Legible)
    (owned : t.Owned) : Database.rebuiltTable t = t.recounted := by
  have same : t.rows.map Row.copied = t.rows := by
    calc t.rows.map Row.copied
        = t.rows.map id := List.map_congr_left fun row member =>
            row.copied_eq_self (legible.rows row member) (owned row member)
      _ = t.rows := List.map_id t.rows
  rw [Database.rebuiltTable, same, Database.copyOf, recounted, ← current.epoch,
    ← current.unguarded, ← legible.indexed]

end Table

/-- The version table with the present version as its one stamp. -/
def VersionTable.present : VersionTable := own.withStamp (.integer latestVersion)

/-- What another program may do to the stamp, so that the database is taken for an old one. -/
inductive StampLoss
  /-- The stamp is set to an old version. -/
  | lowered (version : Nat) (less : version < latestVersion)
  /-- The row of the stamp is deleted. -/
  | erased
  /-- The version table is dropped. -/
  | dropped

namespace StampLoss

/-- Carries out the loss. -/
def apply (loss : StampLoss) (db : Database) : Except StorageFault Database :=
  match loss with
  | lowered version _ => db.restamp (.integer version)
  | erased => db.restamp .null
  | dropped => db.dropTable VersionTable.properName

/-- The version that the database is then taken for. -/
def version : StampLoss → Nat
  | lowered version _ => version
  | erased => 0
  | dropped => 0

/-- The version that the database is taken for is an old one. -/
theorem version_lt (loss : StampLoss) : loss.version < latestVersion := by
  cases loss with
  | lowered version less => exact less
  | erased => decide
  | dropped => decide

/-- What the loss leaves of a version table with one stamp. -/
def left : StampLoss → Option VersionTable
  | lowered version _ => some (VersionTable.own.withStamp (.integer version))
  | erased => some .own
  | dropped => none

/-- The loss touches the version table only, if nothing belongs to it. -/
theorem apply_eq (loss : StampLoss) (db : Database) (stamped : db.versions = some .present)
    (bare : db.fixtures = []) : loss.apply db = .ok { db with versions := loss.left } := by
  cases loss with
  | lowered version less =>
    have moved : VersionTable.present.restamp (.integer version) =
        VersionTable.own.withStamp (.integer version) := rfl
    simp [apply, left, Database.restamp, stamped, moved]
  | erased =>
    have moved : VersionTable.present.restamp .null = .own := rfl
    simp [apply, left, Database.restamp, stamped, moved]
  | dropped =>
    have other : sameName VersionTable.properName Table.name = false := by decide +kernel
    have named : sameName VersionTable.properName VersionTable.present.name = true := by
      decide +kernel
    simp [apply, left, Database.dropTable, Database.withoutFixturesOf, stamped, bare, other, named]

/-- Afterwards the database has the old version. -/
theorem currentVersion_left (loss : StampLoss) (db : Database) :
    ({ db with versions := loss.left } : Database).currentVersion = .ok loss.version := by
  cases loss with
  | lowered version less =>
    refine Database.currentVersion_of_stamp _ ?_ version ?_
      (VersionTable.own.stamp_withStamp (.integer version))
    · rintro t kept
      rw [← Option.some.inj kept, VersionTable.name_withStamp]
      rfl
    · unfold latestVersion at less
      unfold Database.greatestVersion
      omega
  | erased => rfl
  | dropped => rfl

/-- The stamp that an update writes makes the version table again what it was. -/
theorem withStamp_left (loss : StampLoss) :
    (loss.left.getD .own).withStamp (.integer latestVersion) = .present := by
  cases loss <;> rfl

/-- The ids of what the loss leaves are still a key. -/
theorem keyed_left (loss : StampLoss) (stamps : VersionTable) (kept : loss.left = some stamps) :
    stamps.keyed = true := by
  cases loss with
  | lowered version less =>
    rw [← Option.some.inj kept, VersionTable.keyed_withStamp]
    rfl
  | erased =>
    rw [← Option.some.inj kept]
    rfl
  | dropped => exact nomatch kept

end StampLoss

namespace Database

/-- The database is as the ledger leaves it, so that it can be taken in again without its stamp. -/
structure Adoptable (db : Database) (t : Table) : Prop where
  kept : db.subscriptions = some t
  current : t.Current
  legible : t.Legible
  owned : t.Owned
  stamped : db.versions = some .present
  others : db.others = []
  fixtures : db.fixtures = []

/-- What a store leaves that was opened on nothing is adoptable, whatever it did. -/
theorem adoptable_runAll (steps : List (Instant × Operation)) :
    ∃ t, (Operation.runAll fresh steps).2.Adoptable t := by
  have bare (row : Row) : ¬ row ∈ (Table.empty .epoch true).rows := List.not_mem_nil
  have legible : (Table.empty .epoch true).Legible :=
    ⟨fun row member => absurd member (bare row), List.nodup_nil,
      fun row member => absurd member (bare row), rfl⟩
  have owned : (Table.empty .epoch true).Owned := fun row member => absurd member (bare row)
  obtain ⟨t, kept, current, stillLegible⟩ :=
    Table.lasting_legible.runAll serves_fresh.kept serves_fresh.current legible steps
  obtain ⟨again, keptAgain, _, stillOwned⟩ :=
    Table.lasting_owned.runAll serves_fresh.kept serves_fresh.current owned steps
  obtain rfl : t = again := Option.some.inj (kept.symm.trans keptAgain)
  have beside := alikeBeside_runAll fresh latest_fresh steps
  exact ⟨t, kept, current, stillLegible, stillOwned,
    beside.versions.trans (by decide +kernel), beside.others.trans (by decide +kernel),
    beside.fixtures.trans (by decide +kernel)⟩

/-- An adoptable database that has lost its stamp is opened, and only its counter has changed then.
-/
theorem Adoptable.readopted {db : Database} {t : Table} (adoptable : db.Adoptable t)
    (loss : StampLoss) (mode : OpenMode) :
    (({ db with versions := loss.left } : Database).openStore mode).result = .ok () ∧
      (({ db with versions := loss.left } : Database).openStore mode).database =
        db.withTable t.recounted := by
  have free (name : String) : ({ db with versions := loss.left } : Database).foreign? name = none := by
    simp [foreign?, other?, adoptable.others, adoptable.fixtures]
  have unhindered : ({ db with versions := loss.left } : Database).Unhindered :=
    { copyName := free rebuildName
      indexNames := fun name _ => lasting_of_free (free name)
      tableName := fun _ => free Table.name
      stampsName := fun _ => free VersionTable.properName
      stampsKeyed := loss.keyed_left
      resolved := fun fixture member => by
        have listed : fixture ∈ db.fixtures := member
        rw [adoptable.fixtures] at listed
        exact absurd listed List.not_mem_nil }
  obtain ⟨opened, updated⟩ := update_upgradable (loss.currentVersion_left db) loss.version_lt t
    (upgradable_of_legible _ _ t adoptable.kept adoptable.current adoptable.legible unhindered)
  refine ⟨opened, updated.trans ?_⟩
  have fixtures : ({ db with versions := loss.left } : Database).rebuiltFixtures = db.fixtures := by
    simp [rebuiltFixtures, withoutFixturesOf, adoptable.fixtures]
  rw [upgraded, loss.withStamp_left, fixtures, t.rebuiltTable_eq_recounted adoptable.current
    adoptable.legible adoptable.owned, withTable, ← adoptable.stamped]

/-- What a store leaves that was opened on nothing and then did what it was asked for. -/
def leftBy (mode : OpenMode) (steps : List (Instant × Operation)) : Database :=
  (Operation.runAll (empty.openStore mode).database steps).2

/-- Whatever a store has done that was opened on nothing, whether its stamp is then set to an old
version or deleted, or the version table is dropped: the store is opened again. The database has the
present version as its one stamp, the same tables, indexes and columns, and the same rows with the
same ids. It differs from what the store had left in nothing but the counter of ids, which is at the
greatest id of the rows. -/
theorem openStore_readopts (first second : OpenMode) (steps : List (Instant × Operation))
    (loss : StampLoss) :
    ∃ lost, loss.apply (leftBy first steps) = .ok lost ∧
      lost.currentVersion = .ok loss.version ∧
      (lost.openStore second).result = .ok () ∧
      (lost.openStore second).database.versionRows =
        some [(.integer 1, .integer latestVersion)] ∧
      (lost.openStore second).database.objectNames = (leftBy first steps).objectNames ∧
      (lost.openStore second).database.columnTexts = (leftBy first steps).columnTexts ∧
      (lost.openStore second).database.rows = (leftBy first steps).rows ∧
      (lost.openStore second).database =
        { leftBy first steps with
          subscriptions := (leftBy first steps).subscriptions.map Table.recounted } := by
  obtain ⟨t, adoptable⟩ := adoptable_runAll steps
  have same : leftBy first steps = (Operation.runAll fresh steps).2 := by
    rw [leftBy, openStore_empty]
  rw [← same] at adoptable
  have kept := adoptable.kept
  obtain ⟨opened, readopted⟩ := adoptable.readopted loss second
  refine ⟨_, loss.apply_eq _ adoptable.stamped adoptable.fixtures, loss.currentVersion_left _, opened, ?_⟩
  rw [readopted]
  refine ⟨?versions, ?objects, ?columns, ?rows, ?whole⟩
  case versions =>
    have ordered : VersionTable.ordered VersionTable.present.rows =
        [(.integer 1, .integer latestVersion)] :=
      List.mergeSort_singleton _
    simp only [versionRows, withTable, adoptable.stamped, Option.map_some, ordered]
  case objects => simp [objectNames, withTable, kept, Table.recounted]
  case columns => simp [columnTexts, withTable, kept, Table.recounted, Table.columnTexts]
  case rows => simp [rows, withTable, kept, Table.recounted]
  case whole => rw [withTable, kept, Option.map_some]

end Database
end PushLedger
