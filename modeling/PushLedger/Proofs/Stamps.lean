import PushLedger.Proofs.Comparison
import PushLedger.Proofs.Footprint
import PushLedger.Proofs.Identity

/-!
# The stamp

A version table keeps one version under each id, and the one with id one is the stamp. The ledger
reads the stamp only where the table has its proper spelling. There, an update leaves the present
version as the stamp, and if the column of versions stores integers as they are, it is read as such.
No operation of a store moves it again, and so every later opening finds nothing to do. A column that
makes texts or reals of integers is another matter: what an update has written there cannot be read.

Under another spelling the stamp is hidden from the question for the version, while the statements of
the update find it all the same. A database of a later program is then taken for one without a stamp:
it is not refused but brought up to date, and the later version is overwritten.
-/

namespace PushLedger

namespace VersionTable

/-- Two rows that hold the stamp have the same id, whatever the column of ids makes of an integer. -/
theorem same_of_isStamp (t : VersionTable) (a b : Cell × Cell) (first : t.isStamp a = true)
    (second : t.isStamp b = true) : a.1.same b.1 = true := by
  unfold isStamp stampId at first second
  cases affinity : t.idAffinity <;> rw [affinity] at first second
  case text =>
    have isText (cell : Cell) (equal : cell.same (.text (Cell.integerText 1)) = true) :
        cell = .text (Cell.integerText 1) := by
      cases cell <;> simp [Cell.same, Cell.order, Cell.orderText_eq_iff] at equal
      exact congrArg Cell.text equal
    rw [isText a.1 first, isText b.1 second]
    simp [Cell.same, Cell.order, Cell.orderText_eq_iff]
  case real =>
    let one : Binary64 := .ofRatio false 1 1
    have value : one.orderInt 1 = .eq := by decide +kernel
    exact Cell.same_of_integer _ _ 1 (Cell.same_integer_of_real _ one 1 value first)
      (Cell.same_integer_of_real _ one 1 value second)
  case numeric => exact Cell.same_of_integer _ _ 1 first second
  case none => exact Cell.same_of_integer _ _ 1 first second

/-- Only a cell that is not empty equals the id of the stamp. -/
theorem hasId_of_isStamp (t : VersionTable) (a b : Cell × Cell) (first : t.isStamp a = true)
    (second : t.isStamp b = true) : hasId [a] b.1 = true := by
  have filled : (b.1 != .null) = true := by
    refine bne_iff_ne.mpr fun empty => ?_
    rw [isStamp, empty] at second
    have nonempty := t.stampId_ne_null
    cases id : t.stampId <;> simp_all [Cell.same, Cell.order]
  simp [hasId, filled, t.same_of_isStamp a b first second]

/-- A table whose ids are a key has at most one row that holds the stamp. -/
theorem countP_le_one (t : VersionTable) (keyed : t.keyed = true) :
    t.rows.countP t.isStamp ≤ 1 := by
  have distinct := t.distinct keyed
  unfold Distinct at distinct
  generalize t.rows = rows at distinct
  induction rows with
  | nil => simp
  | cons row rest inductionHypothesis =>
    obtain ⟨apart, restDistinct⟩ := List.pairwise_cons.mp distinct
    cases held : t.isStamp row with
    | false =>
      rw [List.countP_cons_of_neg (by simp [held])]
      exact inductionHypothesis restDistinct
    | true =>
      have alone : rest.countP t.isStamp = 0 := by
        refine List.countP_eq_zero.mpr fun other member again => ?_
        exact nomatch (apart other member).symm.trans (t.hasId_of_isStamp row other held again)
      rw [List.countP_cons_of_pos held, alone]

/-- A stamp that is read stands in a row with its id. -/
theorem countP_pos_of_stamp (t : VersionTable) (cell : Cell) (stamped : t.stamp? = some cell) :
    0 < t.rows.countP t.isStamp := by
  obtain ⟨row, found, _⟩ := Option.map_eq_some_iff.mp stamped
  exact List.countP_pos_iff.mpr ⟨row, List.mem_of_find?_eq_some found, List.find?_some found⟩

end VersionTable

namespace Database

/-- A database that is up to date is brought up to date by doing nothing. -/
theorem update_of_latest (db : Database) (latest : db.currentVersion = .ok latestVersion) :
    db.update = ⟨.ok (), db, []⟩ := by
  simp [update, migrate, latest, migrationEvents]

/-- A store on a database that is up to date is closed and opened without a trace in it, and reports
no migration. -/
theorem reopenStore_of_latest (db : Database) (latest : db.currentVersion = .ok latestVersion) :
    db.reopenStore = ⟨.ok (), db, [.closed, .openStarted .file, .opened .file]⟩ := by
  simp [reopenStore, closeStore, openStore, update_of_latest db latest, reported, Outcome.after]

/-- On a database that is up to date no operation touches anything beside the subscription table, not
even the closing and opening of the store. -/
theorem alikeBeside_run_of_latest (db : Database) (latest : db.currentVersion = .ok latestVersion)
    (operation : Operation) (now : Instant) :
    db.AlikeBeside (operation.run db now).database := by
  by_cases reopens : operation = .reopen
  · subst reopens
    have same : (Operation.reopen.run db now).database = db :=
      congrArg Outcome.database (reopenStore_of_latest db latest)
    exact same.symm ▸ .refl db
  · exact alikeBeside_run db operation now reopens

/-- No run from a database that is up to date touches anything beside the subscription table. -/
theorem alikeBeside_runAll (db : Database) (latest : db.currentVersion = .ok latestVersion)
    (steps : List (Instant × Operation)) : db.AlikeBeside (Operation.runAll db steps).2 := by
  induction steps generalizing db with
  | nil => exact .refl db
  | cons step rest inductionHypothesis =>
    have first := alikeBeside_run_of_latest db latest step.2 step.1
    have stillLatest := (currentVersion_congr db _ first.versions).trans latest
    exact first.trans (inductionHypothesis _ stillLatest)

/-- An update does not alter what the column of versions makes of an integer. -/
theorem keepsStamp_upgraded_iff (db : Database) (t : Table) :
    (db.upgraded t).KeepsStamp ↔ db.KeepsStamp := by
  have left : (db.upgraded t).KeepsStamp ↔
      (db.versions.getD .own).versionAffinity.keepsIntegers = true := by
    simp [KeepsStamp, upgraded]
  rw [left]
  cases kept : db.versions with
  | none => simp [KeepsStamp, kept, VersionTable.own, VersionTable.blank, Affinity.keepsIntegers]
  | some stamps => simp [KeepsStamp, kept]

/-- A database that is up to date is stamped with the present version. -/
theorem stamp_of_latest (db : Database) (proper : db.ProperlyNamed)
    (latest : db.currentVersion = .ok latestVersion) :
    db.stamp? = some (.integer latestVersion) := by
  rcases (currentVersion_ok_iff db proper latestVersion (Nat.le_refl _)).mp latest with
    stamped | ⟨oldest, _⟩
  · exact stamped
  · exact absurd oldest (by decide)

/-- An update that succeeds on a version table of the proper name leaves the database up to date
exactly if the table stores an integer version as it is. -/
theorem currentVersion_of_update_iff (db : Database) (proper : db.ProperlyNamed)
    (done : db.update.result = .ok ()) :
    db.update.database.currentVersion = .ok latestVersion ↔ db.KeepsStamp := by
  obtain ⟨version, known, read, fit⟩ := (update_ok_iff db).mp done
  by_cases same : version = latestVersion
  · subst same
    rw [update_of_latest db read]
    exact iff_of_true read (db.keepsStamp_of_stamp _ (stamp_of_latest db proper read))
  · obtain ⟨t, fit⟩ := fit same
    rw [(update_upgradable read (Nat.lt_of_le_of_ne known same) t fit).2]
    refine ⟨fun latest => ?_, currentVersion_upgraded db t proper⟩
    have stamped := stamp_of_latest _ (proper_upgraded db t proper) latest
    exact (keepsStamp_upgraded_iff db t).mp (keepsStamp_of_stamp _ _ stamped)

/-- An update that succeeds on a version table of the proper name leaves a stamp in it, and only one
if its ids are a key. -/
theorem stamp_of_update (db : Database) (proper : db.ProperlyNamed)
    (done : db.update.result = .ok ()) :
    ∃ stamps, db.update.database.versions = some stamps ∧ 0 < stamps.rows.countP stamps.isStamp ∧
      (stamps.keyed = true → stamps.rows.countP stamps.isStamp = 1) := by
  have stamped : ∃ cell, db.update.database.stamp? = some cell := by
    obtain ⟨version, known, read, fit⟩ := (update_ok_iff db).mp done
    by_cases same : version = latestVersion
    · subst same
      rw [update_of_latest db read]
      exact ⟨_, stamp_of_latest db proper read⟩
    · obtain ⟨t, fit⟩ := fit same
      rw [(update_upgradable read (Nat.lt_of_le_of_ne known same) t fit).2]
      exact ⟨_, stamp_upgraded db t⟩
  obtain ⟨cell, stamped⟩ := stamped
  obtain ⟨stamps, kept, held⟩ := Option.bind_eq_some_iff.mp stamped
  have present := stamps.countP_pos_of_stamp cell held
  exact ⟨stamps, kept, present, fun keyed => Nat.le_antisymm (stamps.countP_le_one keyed) present⟩

/-- Once an update has succeeded on a database whose version table, if any, has its proper name, the
table holds a stamp, and one only if its ids are a key. The database has the present version exactly
if the column of versions stores an integer as it is. Then, whatever a store does on its file, to close
and open it again succeeds, leaves the whole database as it is, reports no migration and changes no
answer; and so does the update in place. -/
theorem reopenStore_after_update (db : Database) (proper : db.ProperlyNamed)
    (done : db.update.result = .ok ()) :
    (db.update.database.currentVersion = .ok latestVersion ↔ db.KeepsStamp) ∧
    (∃ stamps, db.update.database.versions = some stamps ∧
      0 < stamps.rows.countP stamps.isStamp ∧
      (stamps.keyed = true → stamps.rows.countP stamps.isStamp = 1)) ∧
    (db.KeepsStamp → ∀ steps final, final = (Operation.runAll db.update.database steps).2 →
      final.reopenStore = ⟨.ok (), final, [.closed, .openStarted .file, .opened .file]⟩ ∧
      Procedure.update.apply final = (.ok (), final) ∧
      ∀ topic, (final.reopenStore.database.lookup topic).result = (final.lookup topic).result) := by
  have latest_iff := currentVersion_of_update_iff db proper done
  refine ⟨latest_iff, stamp_of_update db proper done, ?_⟩
  rintro keeps steps final rfl
  have latest := latest_iff.mpr keeps
  have stillLatest := (currentVersion_congr _ _ (alikeBeside_runAll _ latest steps).versions).trans latest
  have reopened := reopenStore_of_latest _ stillLatest
  refine ⟨reopened, ?_, fun topic => ?_⟩
  · rw [Procedure.apply_update, update_of_latest _ stillLatest]
  · rw [reopened]

/-- What a store leaves that was opened on a row of the first published layout, has replaced the row
and removed the new one again. -/
def emptied : Database :=
  (Operation.runAll (datedDatabase [firstRow] 1).update.database
    [(.epoch, .upsert singleDraft), (.epoch, .removeEndpoint singleDraft.endpoint)]).2

/-- The table is empty and its counter is not, and so it stays when the store is opened again. Another
rebuild would have started the counter anew. -/
theorem reopenStore_keeps_counter :
    (datedDatabase [firstRow] 1).ProperlyNamed ∧
      (datedDatabase [firstRow] 1).update.result = .ok () ∧ (datedDatabase [firstRow] 1).KeepsStamp ∧
      (datedDatabase [firstRow] 1).update.database.currentVersion = .ok 2 ∧
      (∃ stamps, (datedDatabase [firstRow] 1).update.database.versions = some stamps ∧
        0 < stamps.rows.countP stamps.isStamp ∧
        (stamps.keyed = true → stamps.rows.countP stamps.isStamp = 1)) ∧
      emptied.subscriptions = some ⟨.epoch, true, [], 2, none⟩ ∧
      emptied.reopenStore = ⟨.ok (), emptied, [.closed, .openStarted .file, .opened .file]⟩ := by
  have proper : (datedDatabase [firstRow] 1).ProperlyNamed := proper_ofFirstVersion _
  have done : (datedDatabase [firstRow] 1).update.result = .ok () := by decide +kernel
  have keeps : (datedDatabase [firstRow] 1).KeepsStamp :=
    keepsStamp_of_stamp _ 1 (by decide +kernel)
  obtain ⟨latest, single, reopened⟩ :=
    reopenStore_after_update (datedDatabase [firstRow] 1) proper done
  exact ⟨proper, done, keeps, latest.mpr keeps, single, by decide +kernel,
    (reopened keeps _ emptied rfl).1⟩

/-! Three databases on which an update succeeds and reopening is more than nothing: a column of texts
for the versions, ids that are no key, and a store whose database is gone when it is closed. -/

/-- A database with nothing but a version table without rows, whose versions are texts. -/
def textVersions : Database :=
  { empty with versions := some (.blank VersionTable.properName .numeric .text) }

/-- A version table whose ids are no key and in which the stamp stands twice. -/
def twiceStamped : VersionTable where
  name := VersionTable.properName
  idAffinity := .numeric
  versionAffinity := .numeric
  keyed := false
  rows := [(.integer 1, .integer 2), (.integer 1, .integer 2)]
  distinct := by decide
  stored := by decide

/-- A session in which a store with a database of its own has carried out a request. -/
def memorySession : Session :=
  let opened := (Session.start .empty .epoch .epoch).step (.openOwn 0 false)
  (opened.session.step (.operate 0 (.upsert singleDraft))).session

/-- The session in which that store was closed and opened again. -/
def memoryReopened : Session :=
  ((memorySession.step (.close 0)).session.step (.openOwn 0 false)).session

/-- The stamp that an update writes as a text is not read as a version, and the store is not opened
again. Ids that are no key leave two stamps. A store with a database of its own finds nothing of it
when it is opened again. -/
theorem reopening_finds_other_database :
    (textVersions.ProperlyNamed ∧ textVersions.update.result = .ok () ∧
      textVersions.update.database.currentVersion = .error (.wrongClass .text 0 "version") ∧
      textVersions.update.database.reopenStore.result =
        .error (.storage (.wrongClass .text 0 "version"))) ∧
    ({ fresh with versions := some twiceStamped } : Database).update.result = .ok () ∧
    twiceStamped.rows.countP twiceStamped.isStamp = 2 ∧
    (memorySession.step (.operate 0 (.lookup "news"))).result = .ok (.answered (.found
      [⟨1, "news", none, "https://push.example/a", "auth", "p256dh", 0, false⟩])) ∧
    (memoryReopened.step (.operate 0 (.lookup "news"))).result = .ok (.answered (.found [])) := by
  have proper : textVersions.ProperlyNamed := by
    rintro stamps kept
    rw [← Option.some.inj kept]
    rfl
  have written : textVersions.update.result = .ok () := by decide +kernel
  have unread : textVersions.update.database.currentVersion =
      .error (.wrongClass .text 0 "version") := by
    decide +kernel
  have unopened : textVersions.update.database.reopenStore.result =
      .error (.storage (.wrongClass .text 0 "version")) := by
    decide +kernel
  have read : ({ fresh with versions := some twiceStamped } : Database).update.result = .ok () := by
    decide +kernel
  exact ⟨⟨proper, written, unread, unopened⟩, read, by decide +kernel, by decide +kernel,
    by decide +kernel⟩

/-- A version table under another spelling is not seen. -/
theorem hasVersionTable_of_hidden (db : Database) (hidden : ¬ db.ProperlyNamed) :
    db.hasVersionTable = false := by
  unfold ProperlyNamed at hidden
  push Not at hidden
  obtain ⟨t, kept, misspelt⟩ := hidden
  simp [hasVersionTable, kept, misspelt]

/-- A database whose stamp is hidden is taken for one of the oldest version. -/
theorem currentVersion_of_hidden (db : Database) (hidden : ¬ db.ProperlyNamed) :
    db.currentVersion = .ok 0 := by
  simp [currentVersion, hasVersionTable_of_hidden db hidden]

/-- A later stamp that is seen is refused: it is told as such, or is too large to be a version. -/
theorem update_of_later_stamp (db : Database) (proper : db.ProperlyNamed) (version : Int)
    (later : (latestVersion : Int) < version) (stamped : db.stamp? = some (.integer version)) :
    db.update = ⟨.error (if version ≤ greatestVersion
      then .database (.unsupportedVersion version.toNat latestVersion)
      else .storage (.outOfRange version 0)), db, []⟩ := by
  have positive : 0 ≤ version := by omega
  have read := currentVersion_of_proper db proper
  rw [stamped] at read
  by_cases bounded : version ≤ greatestVersion
  · have newer : latestVersion < version.toNat := by omega
    simp only [positive, bounded, and_self, if_true] at read
    simp [update, migrate, read, newer, bounded]
  · simp only [bounded, and_false, if_false] at read
    simp [update, migrate, read, bounded, LedgerFault.storage]

/-- An update that is refused leaves the database as it was. -/
theorem update_database_of_error (db : Database) (fault : LedgerFault)
    (failed : db.update.result = .error fault) : db.update.database = db := by
  have restored := Procedure.update_restores db fault
  rw [Procedure.apply_update] at restored
  exact restored failed

/-- A database with the stamp of a later version is opened exactly if the stamp is hidden by the
spelling of its table and the rest could belong to a database of the oldest version. Then every row is
carried over, and the stamp is taken back to the present version. A stamp that is seen is refused, and
whatever is refused is left as it was, also by the update in place. -/
theorem openStore_of_later_stamp (db : Database) (mode : OpenMode) (version : Int)
    (later : (latestVersion : Int) < version) (stamped : db.stamp? = some (.integer version)) :
    ((db.openStore mode).result = .ok () ↔
      ¬ db.ProperlyNamed ∧ db.Ready 0 ∧ db.Unhindered) ∧
    (db.ProperlyNamed → (db.openStore mode).result = .error (if version ≤ greatestVersion
      then .database (.unsupportedVersion version.toNat latestVersion)
      else .storage (.outOfRange version 0))) ∧
    (∀ fault, (db.openStore mode).result = .error fault → (db.openStore mode).database = db) ∧
    ((db.openStore mode).result = .ok () →
      (db.openStore mode).database.stamp? = some (.integer latestVersion) ∧
      ∃ t, (db.openStore mode).database.subscriptions = some t ∧
        List.Forall₂ Row.Carried db.rows t.rows) ∧
    Procedure.update.apply db = ((db.openStore mode).result, (db.openStore mode).database) := by
  have opened : (db.openStore mode).result = db.update.result := rfl
  have left : (db.openStore mode).database = db.update.database := rfl
  have refused (proper : db.ProperlyNamed) :=
    congrArg Outcome.result (update_of_later_stamp db proper version later stamped)
  have old (hidden : ¬ db.ProperlyNamed) : db.currentVersion = .ok 0 :=
    currentVersion_of_hidden db hidden
  -- a stamp that is seen is refused, so what is opened was taken for the oldest version
  have hidden_of_done (done : db.update.result = .ok ()) : ¬ db.ProperlyNamed := fun proper =>
    nomatch done.symm.trans (refused proper)
  rw [opened, left]
  refine ⟨⟨fun done => ?_, ?_⟩, refused, update_database_of_error db, fun done => ?_,
    Procedure.apply_update db⟩
  · have hidden := hidden_of_done done
    exact ⟨hidden, (ready_iff db 0).mp (upgradable_of_update (old hidden) (by decide) done)⟩
  · rintro ⟨hidden, ready⟩
    obtain ⟨t, fit⟩ := (ready_iff db 0).mpr ready
    exact (update_upgradable (old hidden) (by decide) t fit).1
  · obtain ⟨t, kept, _, carried, _, _, _, restamped, integer, _⟩ :=
      update_carries_rows db 0 (old (hidden_of_done done)) (by decide) done
    rw [integer (db.keepsStamp_of_stamp version stamped)] at restamped
    exact ⟨restamped, t, kept, carried⟩

/-! A database is stamped with the third version, in a version table of some spelling. -/

/-- The version table. -/
def thirdVersion (name : String) : VersionTable :=
  (VersionTable.blank name .numeric .numeric).withStamp (.integer 3)

/-- The database with this version table and one row of the first published layout. -/
def laterDatabase (name : String) : Database :=
  { datedDatabase [firstRow] 1 with versions := some (thirdVersion name) }

/-- Under the proper spelling the database is refused and left alone; under another one it is opened,
the row is carried over, and the stamp goes back. -/
theorem openStore_third_version :
    ((laterDatabase "schemaVersion").openStore .file).result =
        .error (.database (.unsupportedVersion 3 2)) ∧
      ((laterDatabase "schemaVersion").openStore .file).database = laterDatabase "schemaVersion" ∧
      ((laterDatabase "SchemaVersion").openStore .file).result = .ok () ∧
      ((laterDatabase "SchemaVersion").openStore .file).database.stamp? = some (.integer 2) ∧
      ∃ t, ((laterDatabase "SchemaVersion").openStore .file).database.subscriptions = some t ∧
        List.Forall₂ Row.Carried [firstRow] t.rows := by
  have later : (latestVersion : Int) < 3 := by decide
  have proper : (laterDatabase "schemaVersion").ProperlyNamed := by
    rintro t kept
    rw [← Option.some.inj kept, thirdVersion, VersionTable.name_withStamp]
    rfl
  have opened : ((laterDatabase "SchemaVersion").openStore .file).result = .ok () := by
    decide +kernel
  have seen : (laterDatabase "schemaVersion").stamp? = some (.integer 3) := by decide +kernel
  have hidden : (laterDatabase "SchemaVersion").stamp? = some (.integer 3) := by decide +kernel
  obtain ⟨_, refused, restored, _, _⟩ :=
    openStore_of_later_stamp (laterDatabase "schemaVersion") .file 3 later seen
  obtain ⟨_, _, _, overwritten, _⟩ :=
    openStore_of_later_stamp (laterDatabase "SchemaVersion") .file 3 later hidden
  have told := refused proper
  rw [if_pos (by decide)] at told
  exact ⟨told, restored _ told, opened, overwritten opened⟩

/-- A database with nothing but the version table. -/
def bareDatabase (name : String) : Database := { empty with versions := some (thirdVersion name) }

/-- A database with nothing but the stamp of a later version, which every statement on the version
table finds, is opened, and the stamp is overwritten. -/
theorem later_stamp_overwritten :
    sameName "SCHEMAVERSION" VersionTable.properName = true ∧
      (bareDatabase "SCHEMAVERSION").stamp? = some (.integer 3) ∧
      ((bareDatabase "SCHEMAVERSION").openStore .file).result = .ok () ∧
      ((bareDatabase "SCHEMAVERSION").openStore .file).database.stamp? = some (.integer 2) :=
  ⟨by decide +kernel, by decide +kernel, by decide +kernel, by decide +kernel⟩

end Database
end PushLedger
