import PushLedger.Proofs.Rebuilding
import PushLedger.Proofs.Rollback

/-!
# Updating in place

The ledger computes an update as a new database or a fault. The storage carries out two scripts, one
statement after another: the first creates the table, the version table and the indexes where they
are missing; the second creates the table of the copy, fills it, drops the old table, gives its name
to the copy and creates the indexes anew. After the scripts the stamp is written. All of this is one
transaction, and any of the statements may fail.

Here the scripts are said as procedures that write in place. They meet the faults that the ledger
computes, in the same order, and leave the same database; so an update that fails leaves everything
as it was, although by then the old table may be gone.
-/

namespace PushLedger

namespace Procedure

/-- A single statement that only writes. -/
def write (change : Database → Except StorageFault Database) : Procedure Unit :=
  statement fun db => return (← change db, ())

/-- A single statement that only reads. -/
def read {α : Type} (question : Database → Except StorageFault α) : Procedure α :=
  statement fun db => return (db, ← question db)

/-- Creates the indexes one after another. -/
def createIndexes (tolerant : Bool) : Procedure Unit :=
  Table.indexes.forM fun index => write fun db => db.createIndex tolerant index

/-- Creates what is missing. -/
def createMissing : Procedure Unit := do
  write Database.createTable
  write Database.createVersionTable
  createIndexes true

/-- Rebuilds the table. -/
def rebuild : Procedure Unit := do
  write Database.createCopy
  let rows ← read Database.copiedRows
  write fun db => .ok db.dropOldTable
  write fun db => db.renameCopy rows
  createIndexes false

/-- The steps that a database of the given version still needs, and the stamp. -/
def runSteps (version : Nat) : Procedure Unit := do
  if version < 1 then createMissing
  if version < 2 then rebuild
  write Database.stamped

/-- Brings the database up to date. -/
def update : Procedure Unit := do
  let version ← read Database.currentVersion
  if latestVersion < version then
    throw (.database (.unsupportedVersion version latestVersion))
  else if version ≠ latestVersion then transaction (runSteps version)

variable {α β : Type}

/-- A statement that only writes does what its change says. -/
theorem write_computes (change : Database → Except StorageFault Database) (db : Database) :
    (write change).Computes db (change db >>= fun left => .ok (left, ())) :=
  statement_computes (fun db => return (← change db, ())) db

/-- A statement that only reads does what its question says. -/
theorem read_computes (question : Database → Except StorageFault α) (db : Database) :
    (read question).Computes db (question db >>= fun value => .ok (db, value)) :=
  statement_computes (fun db => return (db, ← question db)) db

/-- In place the indexes are created as the ledger computes it. -/
theorem createIndexes_computes (tolerant : Bool) (db : Database) :
    (createIndexes tolerant).Computes db
      (db.createIndexes tolerant >>= fun left => .ok (left, ())) := by
  have each := forM_computes
    (fun index db => return (← Database.createIndex tolerant db index, ())) Table.indexes db
  simp only [bind_assoc, pure_bind, bind_pure] at each
  exact each

/-- In place the first step is taken as the ledger computes it. -/
theorem createMissing_computes (db : Database) :
    createMissing.Computes db (db.createMissing >>= fun left => .ok (left, ())) := by
  have sequenced := (write_computes Database.createTable db).bind fun created _ =>
    (write_computes Database.createVersionTable created).bind fun versioned _ =>
      createIndexes_computes true versioned
  simp only [bind_assoc, ok_bind] at sequenced
  simpa only [createMissing, Database.createMissing, bind_assoc] using sequenced

/-- In place the second step is taken as the ledger computes it. -/
theorem rebuild_computes (db : Database) :
    rebuild.Computes db (db.rebuild >>= fun left => .ok (left, ())) := by
  have sequenced := (write_computes Database.createCopy db).bind fun created _ =>
    (read_computes Database.copiedRows created).bind fun copied rows =>
      (write_computes (fun db => .ok db.dropOldTable) copied).bind fun dropped _ =>
        (write_computes (fun db => db.renameCopy rows) dropped).bind fun renamed _ =>
          createIndexes_computes false renamed
  simp only [bind_assoc, ok_bind] at sequenced
  simpa only [rebuild, Database.rebuild, bind_assoc] using sequenced

/-- In place the steps are taken and the stamp is written as the ledger computes it. -/
theorem runSteps_computes (version : Nat) (db : Database) :
    (runSteps version).Computes db
      (db.runSteps version >>= Database.stamped >>= fun left => .ok (left, ())) := by
  have stamp (left : Database) : (write Database.stamped).Computes left
      (left.stamped >>= fun left => .ok (left, ())) :=
    write_computes Database.stamped left
  by_cases second : version < 2
  · have rebuilt (left : Database) : (do rebuild; write Database.stamped).Computes left
        (left.rebuild >>= Database.stamped >>= fun left => .ok (left, ())) := by
      have sequenced := (rebuild_computes left).bind fun changed _ => stamp changed
      simpa only [bind_assoc, ok_bind] using sequenced
    by_cases first : version < 1
    · have created := (createMissing_computes db).bind fun changed _ => rebuilt changed
      simpa [runSteps, Database.runSteps, first, second, bind_assoc] using created
    · simpa [runSteps, Database.runSteps, first, second, bind_assoc] using rebuilt db
  · have first : ¬ version < 1 := by omega
    simpa [runSteps, Database.runSteps, first, second, bind_assoc] using stamp db

/-- In place a database is brought up to date as the ledger computes it, with the same result, and
what it leaves is the same. -/
theorem apply_update (db : Database) :
    update.apply db = (db.update.result, db.update.database) := by
  rw [update, apply_bind, read, apply_statement]
  cases stamp : db.currentVersion with
  | error fault =>
    simp only [stamp, Database.update, Database.migrate, error_bind]
    rfl
  | ok version =>
    simp only [ok_bind, pure_eq_ok]
    by_cases later : latestVersion < version
    · simp only [later, if_true, Database.update, Database.migrate, stamp]
      rfl
    · by_cases same : version = latestVersion
      · simp [same, Database.update, Database.migrate, stamp]
        rfl
      · have less : version < latestVersion := by omega
        rw [if_neg later, if_pos same, Database.update_eq_transact stamp less]
        exact (runSteps_computes version db).transact _

/-- A question does not keep what follows it from restoring. -/
theorem bind_restores (p : Procedure α) (next : α → Procedure β)
    (reads : ∀ db, (p.apply db).2 = db) (restores : ∀ value, (next value).Restores) :
    (p >>= next).Restores := by
  intro db fault failed
  rw [apply_bind] at failed ⊢
  have unchanged : (p.apply db).2 = db := reads db
  rcases asked : p.apply db with ⟨result, left⟩
  rw [asked] at failed unchanged
  obtain rfl : left = db := unchanged
  cases result with
  | error cause => rfl
  | ok value => exact restores value left fault failed

/-- An update that fails has left everything as it was, however far it came. -/
theorem update_restores : update.Restores := by
  apply bind_restores
  · intro db
    rw [read, apply_statement]
    cases db.currentVersion <;> simp
  · intro version
    by_cases later : latestVersion < version
    · rw [if_pos later]
      exact fun _ _ _ => rfl
    · by_cases same : version ≠ latestVersion
      · rw [if_neg later, if_pos same]
        exact transaction_restores (runSteps version)
      · rw [if_neg later, if_neg same]
        exact fun _ _ _ => rfl

end Procedure

end PushLedger
