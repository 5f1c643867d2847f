import PushLedger.Proofs.Updating

/-!
# When a store can be opened

A store is opened on every database that is up to date, and on every older one whose tables and rows
fit the present layout. What this takes is said here in terms of the database alone, apart from the
scripts that carry it out: which tables there are, which cells are empty, and which pairs of topic
and endpoint are equal. Whatever else the rows hold, it never stands in the way.

What else there is can stand in the way as well. An index is not created under the name of a table, of
a view or of an index of another table, the stamp is written only where ids are a key, and the copy
gets its name only if all texts that are left can be read while the old table is gone: those of views
and of the triggers of other tables.

Where the version table has its proper name, a database that was opened stays up to date. Under
another spelling the stamp is never seen, and every opening brings the database up to date anew.
-/

namespace PushLedger

/-- A layout has all columns exactly if it has the warning flag. -/
theorem Layout.flagged_iff (layout : Layout) :
    layout.flagged = true ↔ ∀ column ∈ Column.all, column ∈ layout.columns := by
  cases layout <;> decide

namespace Database

/-- The version table, if there is one, has its proper spelling. -/
def ProperlyNamed (db : Database) : Prop :=
  ∀ t, db.versions = some t → t.name = VersionTable.properName

/-- The database is stamped with the version; without a stamp it has the version zero. -/
def StampedAs (db : Database) (version : Nat) : Prop :=
  db.stamp? = some (.integer version) ∨ version = 0 ∧ db.stamp? = none

/-- What an older database has to be like. -/
structure Ready (db : Database) (version : Nat) : Prop where
  /-- No rebuild was left unfinished. -/
  unobstructed : db.other? rebuildName = none
  /-- The table has all columns. Only the oldest version may lack the table. -/
  table : (∃ t, db.subscriptions = some t ∧ ∀ column ∈ Column.all, column ∈ t.layout.columns) ∨
    db.subscriptions = none ∧ db.other? Table.name = none ∧ version = 0
  /-- No row lacks a topic, an endpoint or a key. -/
  complete : ∀ row ∈ db.rows, row.Complete
  /-- As text columns store them, topic and endpoint tell all rows apart. -/
  distinct : (db.rows.map fun row => row.settledKey).Nodup
  /-- Where the index is still to be created on the old table, they do so as they stand there. -/
  apart : version = 0 → (∀ t, db.subscriptions = some t → t.indexed = false) →
    db.foreign? uniqueIndexName = none → db.rows.Pairwise fun a b =>
      ¬ (a.topic.same b.topic = true ∧ a.endpoint.same b.endpoint = true)

/-- Nothing beside the rows keeps an older database from being brought up to date. -/
structure Unhindered (db : Database) : Prop where
  /-- No table, view or index has the name of the copy. -/
  copyName : db.foreign? rebuildName = none
  /-- No table, view or index of another table has the name of an index. -/
  indexNames : ∀ name ∈ Table.indexNames, db.lasting? name = none
  /-- No view or index has the name of the table where that is missing. -/
  tableName : db.subscriptions = none → db.foreign? Table.name = none
  /-- No view or index has the name of the version table where that is missing. -/
  stampsName : db.versions = none → db.foreign? VersionTable.properName = none
  /-- The stamp can be written over the one with its id. -/
  stampsKeyed : ∀ stamps, db.versions = some stamps → stamps.keyed = true
  /-- The texts of views and of the triggers of other tables can be read without the table. -/
  resolved : db.versioned.Resolved

/-- The ids of the version table are a key, where there is one and where it is still to come. -/
theorem keyed_getD_iff (db : Database) : (db.versions.getD .own).keyed = true ↔
    ∀ stamps, db.versions = some stamps → stamps.keyed = true := by
  cases db.versions <;> simp [VersionTable.own, VersionTable.blank]

/-- A database without a table gets one exactly if it is of the oldest version and the name is free. -/
theorem oldTable_new_iff (db : Database) (version : Nat) (missing : db.subscriptions = none) :
    db.oldTable? version = some (.empty .dated false) ↔
      version = 0 ∧ db.foreign? Table.name = none := by
  rw [oldTable_of_missing_iff db version _ missing, and_iff_left rfl, namesake?, missing]
  rfl

/-- Nothing hinders a database that can be brought up to date. -/
theorem Upgradable.unhindered {db : Database} {version : Nat} {t : Table}
    (fit : db.Upgradable version t) : db.Unhindered where
  copyName := fit.unobstructed
  indexNames := fit.namesFree
  tableName := by
    intro missing
    obtain ⟨_, rfl⟩ := (oldTable_of_missing_iff db version t missing).mp fit.found
    exact ((oldTable_new_iff db version missing).mp fit.found).2
  stampsName := fit.stampable
  stampsKeyed := (keyed_getD_iff db).mp fit.keyed
  resolved := fit.resolved

/-- If nothing hinders it, a database can be brought up to date as soon as its table and rows fit. -/
theorem Unhindered.upgradable {db : Database} {version : Nat} {t : Table} (free : db.Unhindered)
    (found : db.oldTable? version = some t) (flagged : t.layout.flagged = true)
    (complete : ∀ row ∈ t.rows, row.Complete)
    (distinct : (t.rows.map fun row => row.settledKey).Nodup)
    (apart : version = 0 →
      t.indexed = true ∨ db.foreign? uniqueIndexName ≠ none ∨ Row.anyClash t.rows = false) :
    db.Upgradable version t :=
  ⟨found, flagged, free.copyName, free.indexNames, free.stampsName,
    (keyed_getD_iff db).mpr free.stampsKeyed, free.resolved, complete, distinct, apart⟩

/-- No table has a name that nothing bears. -/
theorem other_of_free {db : Database} {name : String} (free : db.foreign? name = none) :
    db.other? name = none :=
  ((db.foreign_eq_none_iff name).mp free).1

/-- A version table under its proper name is seen. -/
theorem hasVersionTable_of_proper (db : Database) (proper : db.ProperlyNamed) :
    db.hasVersionTable = db.versions.isSome := by
  cases kept : db.versions with
  | none => simp [hasVersionTable, kept]
  | some t => simp [hasVersionTable, kept, proper t kept]

/-- Where the version table has its proper name, the version is read off the stamp. -/
theorem currentVersion_of_proper (db : Database) (proper : db.ProperlyNamed) :
    db.currentVersion = match db.stamp? with
      | none => .ok 0
      | some (.integer n) =>
          if 0 ≤ n ∧ n ≤ greatestVersion then .ok n.toNat else .error (.outOfRange n 0)
      | some cell => .error (.wrongClass cell.storageClass 0 VersionTable.versionName) := by
  have seen := hasVersionTable_of_proper db proper
  cases kept : db.versions with
  | none => simp [currentVersion, seen, stamp?, kept]
  | some t =>
    have visible : ¬ (!db.hasVersionTable) = true := by simp [seen, kept]
    exact if_neg visible

/-- A database has a version exactly if it is stamped with it. -/
theorem currentVersion_ok_iff (db : Database) (proper : db.ProperlyNamed) (version : Nat)
    (known : version ≤ latestVersion) :
    db.currentVersion = .ok version ↔ db.StampedAs version := by
  have bounded : (version : Int) ≤ greatestVersion := by
    unfold latestVersion at known
    unfold greatestVersion
    omega
  rw [currentVersion_of_proper db proper, StampedAs]
  cases stamp : db.stamp? with
  | none => simp [eq_comm]
  | some cell =>
    cases cell with
    | integer n =>
      by_cases inside : 0 ≤ n ∧ n ≤ greatestVersion
      · simp only [inside, and_self, if_true, Except.ok.injEq, Option.some.injEq, Cell.integer.injEq,
          reduceCtorEq, and_false, or_false]
        omega
      · simp only [inside, if_false, reduceCtorEq, Option.some.injEq, Cell.integer.injEq, false_iff,
          and_false, or_false]
        omega
    | _ => simp

/-- Complete rows clash as they stand exactly if their topics and endpoints are equal. -/
theorem anyClash_complete_iff (rows : List Row) (complete : ∀ row ∈ rows, row.Complete) :
    Row.anyClash rows = false ↔ rows.Pairwise fun a b =>
      ¬ (a.topic.same b.topic = true ∧ a.endpoint.same b.endpoint = true) := by
  have clashes (a b : Row) (member : a ∈ rows) : a.clashes b.toContent = true ↔
      a.topic.same b.topic = true ∧ a.endpoint.same b.endpoint = true := by
    have filled := complete a member
    simp [Content.clashes, filled.topic, filled.endpoint]
  rw [Row.anyClash_eq_false_iff]
  constructor
  · intro apart
    exact apart.imp_of_mem fun member _ unclashing same => unclashing ((clashes _ _ member).mpr same)
  · intro apart
    exact apart.imp_of_mem fun member _ different clash => different ((clashes _ _ member).mp clash)

/-- An older database with a table is ready and unhindered exactly if it can be brought up to date. -/
theorem ready_iff_of_kept (db : Database) (version : Nat) (old : Table)
    (kept : db.subscriptions = some old) :
    (∃ t, db.Upgradable version t) ↔ db.Ready version ∧ db.Unhindered := by
  have found : db.oldTable? version = some old := oldTable_of_kept db version old kept
  have rows : db.rows = old.rows := rows_of_oldTable db version old found
  constructor
  · rintro ⟨t, fit⟩
    obtain rfl : old = t := (fit.eq_of_kept kept).symm
    refine ⟨⟨other_of_free fit.unobstructed,
      .inl ⟨old, kept, (Layout.flagged_iff _).mp fit.flagged⟩,
      rows ▸ fit.complete, rows ▸ fit.distinct, fun oldest unindexed unborne => ?_⟩, fit.unhindered⟩
    have bare : ¬ old.indexed = true := Bool.not_eq_true _ ▸ unindexed old kept
    rw [rows, ← anyClash_complete_iff old.rows fit.complete]
    exact ((fit.apart oldest).resolve_left bare).resolve_left (not_not_intro unborne)
  · rintro ⟨ready, free⟩
    have complete : ∀ row ∈ old.rows, row.Complete := rows ▸ ready.complete
    refine ⟨old, free.upgradable found ?flagged complete (rows ▸ ready.distinct) ?apart⟩
    case flagged =>
      rcases ready.table with ⟨t, same, columns⟩ | ⟨absent, _⟩
      · obtain rfl := Option.some.inj (kept.symm.trans same)
        exact (Layout.flagged_iff _).mpr columns
      · cases kept.symm.trans absent
    case apart =>
      intro oldest
      refine or_iff_not_imp_left.mpr fun bare => or_iff_not_imp_left.mpr fun unborne => ?_
      rw [anyClash_complete_iff old.rows complete, ← rows]
      refine ready.apart oldest (fun t same => ?_) (not_not.mp unborne)
      obtain rfl := Option.some.inj (kept.symm.trans same)
      exact Bool.not_eq_true _ ▸ bare

/-- An older database without a table is ready and unhindered exactly if it can be brought up to
date. -/
theorem ready_iff_of_missing (db : Database) (version : Nat) (missing : db.subscriptions = none) :
    (∃ t, db.Upgradable version t) ↔ db.Ready version ∧ db.Unhindered := by
  have rows : db.rows = [] := by simp [Database.rows, missing]
  have made := oldTable_new_iff db version missing
  constructor
  · rintro ⟨t, fit⟩
    obtain ⟨_, rfl⟩ := (oldTable_of_missing_iff db version t missing).mp fit.found
    obtain ⟨oldest, unnamed⟩ := made.mp fit.found
    refine ⟨⟨other_of_free fit.unobstructed, .inr ⟨missing, other_of_free unnamed, oldest⟩,
      ?_, ?_, fun _ _ _ => ?_⟩, fit.unhindered⟩ <;> simp [rows]
  · rintro ⟨ready, free⟩
    rcases ready.table with ⟨t, same, _⟩ | ⟨_, _, oldest⟩
    · cases missing.symm.trans same
    · have bare : (Table.empty .dated false).rows = [] := rfl
      have found := made.mpr ⟨oldest, free.tableName missing⟩
      exact ⟨_, free.upgradable found rfl (by simp [bare]) (by simp [bare])
        (by simp [bare, Row.anyClash])⟩

/-- An older database is ready and unhindered exactly if it can be brought up to date. -/
theorem ready_iff (db : Database) (version : Nat) :
    (∃ t, db.Upgradable version t) ↔ db.Ready version ∧ db.Unhindered := by
  cases kept : db.subscriptions with
  | some old => exact ready_iff_of_kept db version old kept
  | none => exact ready_iff_of_missing db version kept

/-- A stamp that is read as a version settles which one. -/
theorem currentVersion_of_stamp (db : Database) (proper : db.ProperlyNamed) (version : Nat)
    (bounded : (version : Int) ≤ greatestVersion)
    (stamped : db.stamp? = some (.integer version)) : db.currentVersion = .ok version := by
  rw [currentVersion_of_proper db proper, stamped]
  exact if_pos ⟨Int.natCast_nonneg version, bounded⟩

/-- A stamp that is no version is a fault of the storage. -/
theorem currentVersion_unreadable (db : Database) (proper : db.ProperlyNamed) (cell : Cell)
    (stamped : db.stamp? = some cell)
    (unreadable : ∀ n : Int, 0 ≤ n → n ≤ greatestVersion → cell ≠ .integer n) :
    ∃ fault, db.currentVersion = .error fault := by
  rw [currentVersion_of_proper db proper, stamped]
  cases cell with
  | integer n =>
    have outside : ¬ (0 ≤ n ∧ n ≤ greatestVersion) := fun inside =>
      unreadable n inside.1 inside.2 rfl
    exact ⟨_, if_neg outside⟩
  | _ => exact ⟨_, rfl⟩

/-- An update succeeds exactly if the database is up to date, or of an old version and can be brought
up to date. -/
theorem update_ok_iff (db : Database) :
    db.update.result = .ok () ↔ ∃ version ≤ latestVersion, db.currentVersion = .ok version ∧
      (version ≠ latestVersion → ∃ t, db.Upgradable version t) := by
  constructor
  · intro done
    cases read : db.currentVersion with
    | error fault => simp [update, migrate, read] at done
    | ok version =>
      have known : version ≤ latestVersion := by
        by_contra later
        simp [update, migrate, read, not_le.mp later] at done
      exact ⟨version, known, rfl, fun other =>
        upgradable_of_update read (lt_of_le_of_ne known other) done⟩
  · rintro ⟨version, known, read, fit⟩
    by_cases same : version = latestVersion
    · simp [update, migrate, read, same]
    · obtain ⟨t, fit⟩ := fit same
      exact (update_upgradable read (lt_of_le_of_ne known same) t fit).1

/-- An update changes nothing or brings a database of an old version up to date. -/
theorem update_cases (db : Database) :
    db.update.database = db ∨
      ∃ version t, db.currentVersion = .ok version ∧ version < latestVersion ∧
        db.Upgradable version t ∧ db.update.database = db.upgraded t := by
  cases read : db.currentVersion with
  | error fault => exact .inl (by simp [update, migrate, read])
  | ok version =>
    by_cases less : version < latestVersion
    · cases ended : db.update.result with
      | error fault =>
        left
        rw [update_eq_transact read less] at ended ⊢
        exact Outcome.transact_database_of_error ended
      | ok value =>
        obtain ⟨t, fit⟩ := upgradable_of_update read less ended
        exact .inr ⟨version, t, rfl, less, fit, (update_upgradable read less t fit).2⟩
    · rcases Nat.eq_or_lt_of_not_lt less with same | later
      · exact .inl (by simp [update, migrate, read, same])
      · exact .inl (by simp [update, migrate, read, later])

/-- The version table keeps its proper name when a database is brought up to date. -/
theorem proper_upgraded (db : Database) (t : Table) (proper : db.ProperlyNamed) :
    (db.upgraded t).ProperlyNamed := by
  rintro stamps kept
  obtain rfl := Option.some.inj kept
  rw [VersionTable.name_withStamp]
  cases versions : db.versions with
  | none => rfl
  | some stamps => exact proper stamps versions

/-- The stamp that is left when a database is brought up to date is the present version, as the column
stores it. -/
theorem stamp_upgraded (db : Database) (t : Table) :
    (db.upgraded t).stamp? = some db.storedVersion :=
  VersionTable.stamp_withStamp _ _

/-- Where the version table keeps stamps, a database that was brought up to date has the present
version. -/
theorem currentVersion_upgraded (db : Database) (t : Table) (proper : db.ProperlyNamed)
    (keeps : db.KeepsStamp) : (db.upgraded t).currentVersion = .ok latestVersion := by
  have stamped := (stamp_upgraded db t).trans (congrArg some (db.storedVersion_of_keeps keeps))
  exact currentVersion_of_stamp _ (proper_upgraded db t proper) latestVersion (by decide) stamped

/-- The copy of a table has the present layout and no guard. -/
theorem current_rebuiltTable (t : Table) : (rebuiltTable t).Current := ⟨rfl, rfl⟩

/-- No version table stores the present version as another one. -/
theorem eq_latest_of_storedVersion (db : Database) (version : Nat)
    (stored : db.storedVersion = .integer version) : version = latestVersion := by
  have keeps := Affinity.keepsIntegers_of_apply _ (.integer latestVersion) version stored
  have same := (Affinity.apply_integer _ keeps latestVersion).symm.trans stored
  exact (Int.ofNat_inj.mp (Cell.integer.inj same)).symm

/-- A database that was brought up to date serves the copy of its table: if the stamp can be read, it
is the present version. -/
theorem serves_upgraded (db : Database) (t : Table) (proper : db.ProperlyNamed) :
    (db.upgraded t).Serves (rebuiltTable t) := by
  refine ⟨rfl, fun version less read => ?_, current_rebuiltTable t⟩
  rw [currentVersion_ok_iff _ (proper_upgraded db t proper) version (Nat.le_of_lt less), StampedAs,
    stamp_upgraded] at read
  rcases read with stamped | ⟨_, unstamped⟩
  · exact Nat.ne_of_lt less (db.eq_latest_of_storedVersion version (Option.some.inj stamped))
  · exact nomatch unstamped

/-- A store is opened on exactly those databases that are up to date, or ready to be brought up to
date and unhindered in it. A stamp of a later version is told as such, and any other
stamp is a fault of the storage. Opening is the update carried out in place, statement by statement;
if it fails, the database is as it was. -/
theorem openStore_accepts_exactly (db : Database) (mode : OpenMode) (proper : db.ProperlyNamed) :
    ((db.openStore mode).result = .ok () ↔
      ∃ version ≤ latestVersion, db.StampedAs version ∧
        (version ≠ latestVersion → db.Ready version ∧ db.Unhindered)) ∧
    (∀ version : Nat, latestVersion < version → (version : Int) ≤ greatestVersion →
      db.stamp? = some (.integer version) →
      (db.openStore mode).result =
        .error (.database (.unsupportedVersion version latestVersion))) ∧
    (∀ cell, db.stamp? = some cell →
      (∀ n : Int, 0 ≤ n → n ≤ greatestVersion → cell ≠ .integer n) →
      ∃ fault, (db.openStore mode).result = .error (.storage fault)) ∧
    Procedure.update.apply db = ((db.openStore mode).result, (db.openStore mode).database) ∧
    ∀ fault, (db.openStore mode).result = .error fault → (db.openStore mode).database = db := by
  have carried : Procedure.update.apply db =
      ((db.openStore mode).result, (db.openStore mode).database) := Procedure.apply_update db
  refine ⟨?accepted, ?later, ?unreadable, carried, ?restored⟩
  case accepted =>
    have opened : (db.openStore mode).result = db.update.result := rfl
    rw [opened, update_ok_iff]
    constructor
    · rintro ⟨version, known, read, fit⟩
      exact ⟨version, known, (currentVersion_ok_iff db proper version known).mp read,
        fun other => (ready_iff db version).mp (fit other)⟩
    · rintro ⟨version, known, stamped, fit⟩
      exact ⟨version, known, (currentVersion_ok_iff db proper version known).mpr stamped,
        fun other => (ready_iff db version).mpr (fit other)⟩
  case later =>
    intro version later bounded stamped
    have read := currentVersion_of_stamp db proper version bounded stamped
    simp [openStore, reported, update, migrate, read, later]
  case unreadable =>
    intro cell stamped unreadable
    obtain ⟨fault, read⟩ := currentVersion_unreadable db proper cell stamped unreadable
    exact ⟨fault, by simp [openStore, reported, update, migrate, read, LedgerFault.storage]⟩
  case restored =>
    intro fault failed
    have restored := Procedure.update_restores db fault (by rw [carried]; exact failed)
    rw [carried] at restored
    exact restored

/-- A view of the old table keeps a store from being opened. An index of it goes with it. -/
example :
    (({ ofFirstVersion (.empty .dated true) with
        fixtures := [.view "recent" { needs := ["subscriptions"] }] } : Database).openStore .file).result =
      .error (.storage (.unresolved "view" "recent" "no such table: main.subscriptions")) ∧
    (({ ofFirstVersion (.empty .dated true) with
        fixtures := [.index "by_owner" "subscriptions"] } : Database).openStore .file).database.fixtures =
      [] := by
  decide +kernel

/-- A database that is stamped with the first version has the stamp where it is looked for. -/
theorem proper_ofFirstVersion (t : Table) : (ofFirstVersion t).ProperlyNamed := by
  rintro stamps kept
  rw [← Option.some.inj kept, VersionTable.name_withStamp]
  rfl

/-! Topics of an integer and of its digits are different in a table without types, and the same in
the copy. The rebuild meets this last, when the old table is gone. -/

/-- A row of the topic. -/
def rowOfTopic (topic : Cell) (id : Int) : Row where
  topic := topic
  userId := .null
  endpoint := .text "https://push.example/a"
  keyAuth := .text "auth"
  keyP256dh := .text "p256dh"
  updatedAt := .integer 0
  warningSent := .integer 0
  id := id

/-- The table with both topics. -/
def digitsTable : Table where
  layout := .untyped
  indexed := true
  rows := [rowOfTopic (.integer 1) 1, rowOfTopic (.text "1") 2]
  counter := 2
  guard := none

/-- The database that holds the table. -/
def digitsDatabase : Database := ofFirstVersion digitsTable

/-- The store is not opened and the database is as it was, although the steps of the update alone
would have left another one. -/
theorem openStore_digits :
    digitsDatabase.ProperlyNamed ∧
      (digitsDatabase.openStore .file).result = .error (.storage clashFault) ∧
      (digitsDatabase.openStore .file).database = digitsDatabase ∧
      ((Procedure.runSteps 1).apply digitsDatabase).2 ≠ digitsDatabase := by
  have proper : digitsDatabase.ProperlyNamed := proper_ofFirstVersion digitsTable
  have failed : (digitsDatabase.openStore .file).result = .error (.storage clashFault) := by
    decide +kernel
  obtain ⟨_, _, _, _, restored⟩ := openStore_accepts_exactly digitsDatabase .file proper
  exact ⟨proper, failed, restored _ failed, by decide +kernel⟩

/-- A database with nothing but a table under the name of an index. -/
def indexNameTaken : Database := { empty with others := [.empty "idx_topic"] }

/-- The database is ready in every other respect, and no store is opened on it. -/
theorem not_opened_although_ready :
    indexNameTaken.ProperlyNamed ∧
      (∃ version ≤ latestVersion, indexNameTaken.StampedAs version ∧
        (version ≠ latestVersion → indexNameTaken.Ready version)) ∧
      (indexNameTaken.openStore .file).result = .error (.storage (.nameTaken "idx_topic")) := by
  have bare : indexNameTaken.rows = [] := rfl
  have unobstructed : indexNameTaken.other? rebuildName = none := by decide +kernel
  have unnamed : indexNameTaken.other? Table.name = none := by decide +kernel
  have ready : indexNameTaken.Ready 0 :=
    ⟨unobstructed, .inr ⟨rfl, unnamed, rfl⟩, by simp [bare], by simp [bare], by simp [bare]⟩
  have refused : (indexNameTaken.openStore .file).result =
      .error (.storage (.nameTaken "idx_topic")) := by
    decide +kernel
  exact ⟨nofun, ⟨0, Nat.zero_le _, .inr ⟨rfl, rfl⟩, fun _ => ready⟩, refused⟩

end Database
end PushLedger
