import PushLedger.Proofs.CopiedRows
import PushLedger.Proofs.Creation

/-!
# What a rebuild carries over

An old database is brought up to date in two steps, of which the first only creates what is missing.
The second copies every row into a new table, drops the old one and gives its name to the copy. Here it
is said what an old database has to be like for both to succeed, and what they leave of it: the copies
of its rows under their ids, the indexes, and the stamp as the version table stores it.
-/

namespace PushLedger
namespace Database

/-- The table that a rebuild leaves. -/
def rebuiltTable (t : Table) : Table := { copyOf (t.rows.map Row.copied) with indexed := true }

/-- A rebuild leaves the copies of the rows. -/
@[simp] theorem rows_rebuiltTable (t : Table) : (rebuiltTable t).rows = t.rows.map Row.copied := rfl

/-- The fixtures that a rebuild leaves: those of the old table are gone, and the others have followed
the renaming of the copy. -/
def rebuiltFixtures (db : Database) : List Fixture :=
  (db.withoutFixturesOf Table.name).fixtures.map (Fixture.renamed rebuildName Table.name)

/-- The database that an update leaves. -/
def upgraded (db : Database) (t : Table) : Database where
  subscriptions := some (rebuiltTable t)
  versions := some ((db.versions.getD .own).withStamp (.integer latestVersion))
  others := db.others
  fixtures := db.rebuiltFixtures

/-- While the old table is gone and the copy waits for its name, there is a table or a view of this
name. -/
def Remains (db : Database) (name : String) : Prop :=
  sameName name rebuildName = true ∨ (∃ t, db.versions = some t ∧ sameName name t.name = true) ∨
    db.hasFurther name = true

/-- The text can be read when the copy gets its name. -/
def Reads (db : Database) (body : Body) : Prop :=
  (∀ name ∈ body.needs, db.Remains name) ∧ body.flaw = none

/-- The texts of all views, and of the triggers of other tables, can be read when the copy gets its
name. -/
def Resolved (db : Database) : Prop :=
  ∀ fixture ∈ db.fixtures, fixture.isOf Table.name = false → ∀ body ∈ fixture.body?, db.Reads body

/-- A rebuild makes the same of the table with indexes and without. -/
theorem rebuiltTable_indexedTable (db : Database) (t : Table) :
    rebuiltTable (db.indexedTable t) = rebuiltTable t := by
  simp [rebuiltTable]

/-- What lets a database of an old version be brought up to date, with this table as the old one. -/
structure Upgradable (db : Database) (version : Nat) (t : Table) : Prop where
  found : db.oldTable? version = some t
  flagged : t.layout.flagged = true
  unobstructed : db.foreign? rebuildName = none
  namesFree : ∀ name ∈ Table.indexNames, db.lasting? name = none
  stampable : db.versions = none → db.foreign? VersionTable.properName = none
  keyed : (db.versions.getD .own).keyed = true
  resolved : db.versioned.Resolved
  complete : ∀ row ∈ t.rows, row.Complete
  distinct : (t.rows.map fun row => row.settledKey).Nodup
  apart : version = 0 →
    t.indexed = true ∨ db.foreign? uniqueIndexName ≠ none ∨ Row.anyClash t.rows = false

/-- The table with which a database can be brought up to date is the one that is there. -/
theorem Upgradable.eq_of_kept {db : Database} {version : Nat} {t kept : Table}
    (fit : db.Upgradable version t) (same : db.subscriptions = some kept) : t = kept :=
  Option.some.inj (fit.found.symm.trans (oldTable_of_kept db version kept same))

/-- The rows are copied exactly if the table has flags and no row lacks a required cell. -/
theorem copiedRows_ok_iff (db : Database) (rows : List Row) :
    db.copiedRows = .ok rows ↔ ∃ t, db.subscriptions = some t ∧ t.layout.flagged = true ∧
      (∀ row ∈ t.rows, row.Complete) ∧ rows = t.rows.map Row.copied := by
  cases kept : db.subscriptions with
  | some t =>
    have found := table_of_kept db t .topic kept (some .rowCopy)
    by_cases flagged : t.layout.flagged = true
    · simp [copiedRows, found, flagged, Row.mapM_rebuilt_ok_iff]
    · simp [copiedRows, found, flagged]
  | none =>
    obtain ⟨fault, missing⟩ := db.table_of_missing kept .topic (some .rowCopy)
    simp [copiedRows, missing]

/-- No other table has a name that is free. -/
theorem filter_others_of_free (db : Database) (name : String) (free : db.other? name = none) :
    db.others.filter (fun other => !sameName name other.name) = db.others := by
  rw [List.filter_eq_self]
  intro other member
  simpa using List.find?_eq_none.mp free other member

/-- What was put under a name that was free and then taken away leaves nothing behind. -/
theorem withOther_undone (db : Database) (name : String) (t : OtherTable)
    (free : db.other? name = none) (named : sameName name t.name = true) :
    ((db.withOther name (some t)).withOther name none).others = db.others := by
  have kept := filter_others_of_free db name free
  simp only [withOther, Option.toList, List.filter_append, kept, List.append_nil]
  simp [named]

/-- Nothing keeps a text from being read exactly if all it names is there and it has no flaw. -/
theorem obscurity_eq_none_iff (db : Database) (body : Body) :
    db.obscurity? body = none ↔
      (∀ name ∈ body.needs, db.hasTable name = true) ∧ body.flaw = none := by
  cases missing : body.needs.find? fun name => !db.hasTable name with
  | none =>
    simp only [obscurity?, missing, iff_and_self]
    intro _ name named
    simpa using List.find?_eq_none.mp missing name named
  | some name =>
    have absent := List.find?_some missing
    simp only [obscurity?, missing, reduceCtorEq, false_iff, not_and]
    intro present
    rw [present name (List.mem_of_find?_eq_some missing)] at absent
    cases absent

/-- The copy gets its name exactly if every text can be read. -/
theorem renameCopy_ok_iff (db renamed : Database) (rows : List Row) :
    db.renameCopy rows = .ok renamed ↔
      (∀ fixture ∈ db.fixtures, ∀ body ∈ fixture.body?, db.obscurity? body = none) ∧
        renamed = { (db.withOther rebuildName none).withTable (copyOf rows) with
          fixtures := db.fixtures.map (Fixture.renamed rebuildName Table.name) } := by
  have resolved : db.unresolved? = none ↔
      ∀ fixture ∈ db.fixtures, ∀ body ∈ fixture.body?, db.obscurity? body = none := by
    simp [unresolved?, List.findSome?_eq_none_iff, Option.bind_eq_none_iff]
  rw [← resolved]
  cases found : db.unresolved? <;> simp [renameCopy, found, eq_comm (a := renamed)]

/-- The database while the copy waits for its name. -/
def waiting (db : Database) : Database :=
  (db.withOther rebuildName (some (.empty rebuildName))).dropOldTable

/-- Views do not go with a table. -/
theorem hasFurther_withoutFixturesOf (db : Database) (table name : String) :
    (db.withoutFixturesOf table).hasFurther name = db.hasFurther name := by
  have kept : ((db.fixtures.filter fun fixture => !fixture.isOf table).any fun fixture =>
      fixture.bearer? name == some .view) =
      db.fixtures.any fun fixture => fixture.bearer? name == some .view := by
    rw [List.any_filter]
    congr 1
    funext fixture
    cases fixture <;> simp [Fixture.isOf, Fixture.bearer?]
  simp only [hasFurther, withoutFixturesOf, kept]
  rfl

/-- While the copy waits for its name, the tables and views are those that remain. -/
theorem hasTable_waiting_iff (db : Database) (name : String) (free : db.other? rebuildName = none) :
    db.waiting.hasTable name = true ↔ db.Remains name := by
  have others : (db.withOther rebuildName (some (.empty rebuildName))).other? name =
      (db.other? name).or (if sameName name rebuildName then some (.empty rebuildName) else none) := by
    simp only [other?, withOther, filter_others_of_free db rebuildName free, List.find?_append,
      Option.toList, List.find?_singleton]
    rfl
  have further : (db.withOther rebuildName (some (.empty rebuildName))).hasFurther name =
      (sameName name rebuildName || db.hasFurther name) := by
    rw [hasFurther, others, hasFurther]
    cases db.other? name <;> cases sameName name rebuildName <;> simp [withOther]
  have stamps : (db.versions.any fun t => sameName name t.name) = true ↔
      ∃ t, db.versions = some t ∧ sameName name t.name = true := by
    simp [Option.any_eq_true]
  have unfolded : db.waiting.hasTable name =
      ((db.versions.any fun t => sameName name t.name) ||
        ((db.withOther rebuildName (some (.empty rebuildName))).withoutFixturesOf
          Table.name).hasFurther name) := rfl
  rw [unfolded, hasFurther_withoutFixturesOf, further, Remains, Bool.or_eq_true, Bool.or_eq_true,
    stamps]
  exact or_left_comm

/-- While the copy waits for its name, the texts that are left can be read exactly if they are
resolved. -/
theorem obscurity_waiting_iff (db : Database) (free : db.other? rebuildName = none) :
    (∀ fixture ∈ db.waiting.fixtures, ∀ body ∈ fixture.body?, db.waiting.obscurity? body = none) ↔
      db.Resolved := by
  have left (fixture : Fixture) : fixture ∈ db.waiting.fixtures ↔
      fixture ∈ db.fixtures ∧ fixture.isOf Table.name = false := by
    have filtered : db.waiting.fixtures =
        db.fixtures.filter fun fixture => !fixture.isOf Table.name := rfl
    simp [filtered]
  have reads (body : Body) : db.waiting.obscurity? body = none ↔ db.Reads body := by
    rw [obscurity_eq_none_iff]
    simp only [db.hasTable_waiting_iff _ free, Reads]
  simp only [left, reads, and_imp, Resolved]

/-- Renaming the copy takes no name from what lasts and gives it none. -/
theorem foreign_rebuilt (db : Database) (t : Table) (name : String) :
    ({ db.withTable t with fixtures := db.rebuiltFixtures } : Database).foreign? name =
      db.lasting? name := by
  have bearers : Fixture.bearer? name ∘ Fixture.renamed rebuildName Table.name =
      Fixture.bearer? name := by
    funext fixture
    exact fixture.bearer_renamed rebuildName Table.name name
  simp only [foreign?, rebuiltFixtures, List.findSome?_map, bearers]
  rfl

/-- The second step succeeds exactly if nothing is in the way of its tables and indexes, every row can
be copied into them and every text can be read in between. Then it has put the copy in the place of
the old table. -/
theorem rebuild_ok_iff (db changed : Database) :
    db.rebuild = .ok changed ↔ ∃ t, db.subscriptions = some t ∧ t.layout.flagged = true ∧
      db.foreign? rebuildName = none ∧ (∀ name ∈ Table.indexNames, db.lasting? name = none) ∧
      db.Resolved ∧ (∀ row ∈ t.rows, row.Complete) ∧
      (t.rows.map fun row => row.settledKey).Nodup ∧
      changed = { db.withTable (rebuiltTable t) with fixtures := db.rebuiltFixtures } := by
  cases borne : db.foreign? rebuildName with
  | some bearing =>
    have refused : ∃ fault, db.createCopy = .error fault := by
      cases bearing <;> simp [createCopy, copyCreation, borne, Creation.carry]
    obtain ⟨fault, refused⟩ := refused
    simp [rebuild, refused]
  | none =>
    have unnamed : db.other? rebuildName = none := ((db.foreign_eq_none_iff rebuildName).mp borne).1
    have created : db.createCopy = .ok (db.withOther rebuildName (some (.empty rebuildName))) := by
      simp [createCopy, copyCreation, borne, Creation.carry]
    have undone := db.withOther_undone rebuildName (.empty rebuildName) unnamed (by decide +kernel)
    have renamed (rows : List Row) (left : Database) :
        db.waiting.renameCopy rows = .ok left ↔ db.Resolved ∧
          left = { db.withTable (copyOf rows) with fixtures := db.rebuiltFixtures } := by
      have same := congrArg (fun others : List OtherTable =>
        ({ db.withTable (copyOf rows) with others, fixtures := db.rebuiltFixtures } : Database))
        undone
      exact (renameCopy_ok_iff _ left rows).trans (and_congr (db.obscurity_waiting_iff unnamed)
        ⟨fun done => done.trans same, fun done => done.trans same.symm⟩)
    have placed (rows : List Row) : ({ db.withTable (copyOf rows) with
        fixtures := db.rebuiltFixtures } : Database).subscriptions = some (copyOf rows) := rfl
    have indexed (rows : List Row) := createIndexes_ok_iff (placed rows) rfl changed
    simp only [foreign_rebuilt] at indexed
    unfold waiting at renamed
    simp only [rebuild, created, ok_bind, bind_eq_ok_iff, copiedRows_ok_iff, renamed, true_and]
    constructor
    · rintro ⟨_, ⟨t, kept, flagged, complete, rfl⟩, _, ⟨resolved, rfl⟩, made⟩
      obtain ⟨free, unclashing, rfl⟩ := (indexed _).mp made
      exact ⟨t, kept, flagged, free, resolved, complete,
        (Row.anyClash_copied_iff t.rows complete).mp unclashing, rfl⟩
    · rintro ⟨t, kept, flagged, free, resolved, complete, distinct, rfl⟩
      exact ⟨_, ⟨t, kept, flagged, complete, rfl⟩, _, ⟨resolved, rfl⟩,
        (indexed _).mpr ⟨free, (Row.anyClash_copied_iff t.rows complete).mpr distinct, rfl⟩⟩

/-- The stamp is written exactly if there is a version table and its ids are a key. -/
theorem stamped_ok_iff (db changed : Database) :
    db.stamped = .ok changed ↔ ∃ stamps, db.versions = some stamps ∧ stamps.keyed = true ∧
      changed = { db with versions := some (stamps.withStamp (.integer latestVersion)) } := by
  cases kept : db.versions with
  | none => simp [stamped, kept]
  | some stamps =>
    cases keyed : stamps.keyed <;>
      simp [stamped, kept, VersionTable.setStamp, keyed, eq_comm (a := changed)]

/-- Both steps and the stamp succeed on a database of an old version exactly if it can be brought up
to date. -/
theorem runSteps_ok_iff (db updated : Database) (version : Nat) (less : version < latestVersion)
    (stampable : version = 0 ∨ db.versions.isSome = true) :
    (db.runSteps version >>= stamped) = .ok updated ↔
      ∃ t, db.Upgradable version t ∧ updated = db.upgraded t := by
  have cases : version = 0 ∨ version = 1 := by
    unfold latestVersion at less
    omega
  rcases cases with rfl | rfl
  · simp only [runSteps, Nat.zero_lt_one, Nat.zero_lt_two, if_true, bind_eq_ok_iff,
      rebuild_ok_iff, stamped_ok_iff]
    constructor
    · rintro ⟨_, ⟨created, made, t, kept, flagged, unobstructed, namesFree, resolved, complete,
        distinct, rfl⟩, stamps, present, keyed, rfl⟩
      have around := alikeAround_createMissing db created made
      simp only [around.foreign_eq, around.lasting_eq] at unobstructed namesFree
      obtain ⟨old, found, stampFree, apart, rfl⟩ := (createMissing_ok_iff db created namesFree).mp
        ⟨made, Option.isSome_iff_exists.mpr ⟨stamps, present⟩,
          Option.isSome_iff_exists.mpr ⟨t, kept⟩⟩
      obtain rfl := Option.some.inj kept
      obtain rfl := Option.some.inj present
      simp only [rows_indexedTable, layout_indexedTable] at flagged complete distinct
      refine ⟨old, ⟨found, flagged, unobstructed, namesFree, stampFree, keyed, resolved, complete,
        distinct, fun _ => apart⟩, ?_⟩
      rw [rebuiltTable_indexedTable]
      rfl
    · rintro ⟨t, fit, rfl⟩
      have made := ((createMissing_ok_iff db _ fit.namesFree).mpr
        ⟨t, fit.found, fit.stampable, fit.apart rfl, rfl⟩).1
      refine ⟨_, ⟨_, made, _, rfl, ?flagged, fit.unobstructed, fit.namesFree, fit.resolved,
        ?complete, ?distinct, rfl⟩, _, rfl, fit.keyed, ?same⟩
      case flagged => simpa using fit.flagged
      case complete => simpa using fit.complete
      case distinct => simpa using fit.distinct
      case same =>
        rw [rebuiltTable_indexedTable]
        rfl
  · obtain ⟨stamps, present⟩ := Option.isSome_iff_exists.mp (stampable.resolve_left nofun)
    have direct : db.runSteps 1 = db.rebuild := rfl
    have same : db.versioned = db := by
      rw [versioned, present, Option.getD_some, ← present]
    have old (t : Table) : db.oldTable? 1 = some t ↔ db.subscriptions = some t := by
      simp [oldTable?]
    simp only [direct, bind_eq_ok_iff, rebuild_ok_iff, stamped_ok_iff]
    constructor
    · rintro ⟨_, ⟨t, kept, flagged, unobstructed, namesFree, resolved, complete, distinct, rfl⟩,
        again, stampKept, keyed, rfl⟩
      obtain rfl : stamps = again := Option.some.inj (present.symm.trans stampKept)
      refine ⟨t, ⟨(old t).mpr kept, flagged, unobstructed, namesFree, ?_, ?_, same.symm ▸ resolved,
        complete, distinct, nofun⟩, ?_⟩
      · simp [present]
      · simpa [present] using keyed
      · simp [upgraded, present, withTable]
    · rintro ⟨t, fit, rfl⟩
      have keyed : stamps.keyed = true := by simpa [present] using fit.keyed
      refine ⟨_, ⟨t, (old t).mp fit.found, fit.flagged, fit.unobstructed, fit.namesFree,
        same ▸ fit.resolved, fit.complete, fit.distinct, rfl⟩, stamps, present, keyed, ?_⟩
      simp [upgraded, present, withTable]

/-- A database that has a stamp, or a version that only a stamp can give, has a version table. -/
theorem stampable_of_version (db : Database) (version : Nat)
    (old : db.currentVersion = .ok version) : version = 0 ∨ db.versions.isSome = true := by
  cases kept : db.versions with
  | some versions => exact .inr rfl
  | none =>
    left
    simpa [currentVersion, hasVersionTable, kept, eq_comm] using old

section Update

variable {db : Database} {version : Nat} (old : db.currentVersion = .ok version)
  (less : version < latestVersion)

include old less

/-- The update of a database of an old version is one change: the steps that it needs, and the
stamp. -/
theorem update_eq_transact :
    db.update = Outcome.transact db
      (db.runSteps version >>= stamped >>= fun updated => .ok (updated, ()))
      fun _ => migrationEvents (some version) := by
  have later : ¬ latestVersion < version := Nat.not_lt_of_lt less
  have other : version ≠ latestVersion := Nat.ne_of_lt less
  cases ran : db.runSteps version >>= stamped <;>
    simp [update, migrate, old, later, other, ran, Outcome.transact, LedgerFault.storage]

/-- An update succeeds on a database of an old version that can be brought up to date. -/
theorem update_upgradable (t : Table) (fit : db.Upgradable version t) :
    db.update.result = .ok () ∧ db.update.database = db.upgraded t := by
  have ran : (db.runSteps version >>= stamped) = .ok (db.upgraded t) :=
    (runSteps_ok_iff db _ version less (stampable_of_version db version old)).mpr ⟨t, fit, rfl⟩
  rw [update_eq_transact old less, ran]
  exact ⟨rfl, rfl⟩

/-- An update succeeds on no other database of an old version. -/
theorem upgradable_of_update (done : db.update.result = .ok ()) :
    ∃ t, db.Upgradable version t := by
  rw [update_eq_transact old less] at done
  cases ran : db.runSteps version >>= stamped with
  | error fault =>
    rw [ran] at done
    exact nomatch done
  | ok updated =>
    obtain ⟨t, fit, _⟩ :=
      (runSteps_ok_iff db updated version less (stampable_of_version db version old)).mp ran
    exact ⟨t, fit⟩

end Update

/-- The stamp of a database, whatever it is. -/
def stamp? (db : Database) : Option Cell := db.versions.bind VersionTable.stamp?

/-- A version table, if there is one, stores an integer version as it is. -/
def KeepsStamp (db : Database) : Prop :=
  ∀ stamps, db.versions = some stamps → stamps.versionAffinity.keepsIntegers = true

/-- A database that is stamped with an integer keeps stamps. -/
theorem keepsStamp_of_stamp (db : Database) (n : Int) (stamped : db.stamp? = some (.integer n)) :
    db.KeepsStamp := by
  intro stamps kept
  rw [stamp?, kept, Option.bind_some] at stamped
  obtain ⟨row, found, integer⟩ := Option.map_eq_some_iff.mp stamped
  refine stamps.versionAffinity.keepsIntegers_of_apply row.2 n ?_
  rw [(stamps.stored row (List.mem_of_find?_eq_some found)).2, integer]

/-- A version table stores the version that an update writes as its column stores it: as a text in a
column of texts, as a real in a column of reals. -/
def storedVersion (db : Database) : Cell :=
  (db.versions.getD .own).versionAffinity.apply (.integer latestVersion)

/-- Where the version table keeps stamps, the version is stored as an integer. -/
theorem storedVersion_of_keeps (db : Database) (keeps : db.KeepsStamp) :
    db.storedVersion = .integer latestVersion := by
  cases kept : db.versions with
  | none => simp [storedVersion, kept, VersionTable.own, VersionTable.blank, Affinity.apply]
  | some stamps =>
    simpa [storedVersion, kept] using Affinity.apply_integer _ (keeps stamps kept) latestVersion

/-- The rows of a database are those of the table that a rebuild reads. -/
theorem rows_of_oldTable (db : Database) (version : Nat) (t : Table)
    (found : db.oldTable? version = some t) : db.rows = t.rows := by
  cases kept : db.subscriptions with
  | some same =>
    obtain rfl := Option.some.inj ((oldTable_of_kept db version same kept).symm.trans found)
    simp [rows, kept]
  | none =>
    obtain ⟨_, rfl⟩ := (oldTable_of_missing_iff db version t kept).mp found
    simp [rows, kept, Table.empty]

/-- An update that brings a database of an old version up to date leaves each row under its id, says
in it what the old row said, and adds no other. No two rows have the same topic and endpoint, the
indexes are there, the stamp is the present version, as the column of versions stores it, and no other
table has changed. -/
theorem update_carries_rows (db : Database) (version : Nat)
    (old : db.currentVersion = .ok version) (less : version < latestVersion)
    (done : db.update.result = .ok ()) :
    ∃ t, db.update.database.subscriptions = some t ∧ t.layout = .epoch ∧
      List.Forall₂ Row.Carried db.rows t.rows ∧
      (∀ row ∈ t.rows, (∃ millis, row.updatedAt = .integer millis) ∧
        (row.warningSent = .integer 0 ∨ row.warningSent = .integer 1)) ∧
      (t.rows.map fun row => (row.topic, row.endpoint)).Nodup ∧ t.indexed = true ∧
      db.update.database.stamp? = some db.storedVersion ∧
      (db.KeepsStamp → db.storedVersion = .integer latestVersion) ∧
      db.update.database.others = db.others := by
  obtain ⟨t, fit⟩ := upgradable_of_update old less done
  obtain ⟨_, updated⟩ := update_upgradable old less t fit
  rw [updated, rows_of_oldTable db version t fit.found]
  refine ⟨rebuiltTable t, rfl, rfl, ?_, ?_, ?_, rfl, ?_, db.storedVersion_of_keeps, rfl⟩
  · rw [rows_rebuiltTable, List.forall₂_map_right_iff, List.forall₂_same]
    exact fun row _ => row.carried_copied
  · intro row member
    rw [rows_rebuiltTable] at member
    obtain ⟨before, _, rfl⟩ := List.mem_map.mp member
    refine ⟨Content.integer_rebuiltStamp before.updatedAt, ?_⟩
    by_cases flagged : before.warningSent.isTrue <;> simp [Row.copied, Content.rebuilt, flagged]
  · rw [rows_rebuiltTable, List.map_map]
    exact fit.distinct
  · exact VersionTable.stamp_withStamp _ _

/-- The database that holds the table and is stamped with the first version. -/
def ofFirstVersion (t : Table) : Database where
  subscriptions := some t
  versions := some (VersionTable.own.withStamp (.integer 1))
  others := []

/-- A table without types: an integer as a topic, bytes as a key, an owner of spaces, a date, a text
that counts as true, and rows that lack a stamp, a flag or an owner. -/
def untypedTable : Table where
  layout := .untyped
  indexed := false
  rows := [
    { topic := .integer 7, userId := .text "  ", endpoint := .text "https://push.example/a",
      keyAuth := .blob [1, 2], keyP256dh := .text "p256dh",
      updatedAt := .text "2024-01-02 03:04:05", warningSent := .text "1x", id := 3 },
    { topic := .text "mail", userId := .integer 5, endpoint := .text "https://push.example/a",
      keyAuth := .text "auth", keyP256dh := .text "p256dh",
      updatedAt := .null, warningSent := .null, id := 9 }]
  counter := 9
  guard := none

/-- The database that holds the table. -/
def untypedDatabase : Database := ofFirstVersion untypedTable

/-- The rows without types are carried over. -/
theorem update_carries_untyped :
    untypedDatabase.currentVersion = .ok 1 ∧ 1 < latestVersion ∧
    untypedDatabase.update.result = .ok () ∧
    ∃ t, untypedDatabase.update.database.subscriptions = some t ∧ t.layout = .epoch ∧
      List.Forall₂ Row.Carried untypedDatabase.rows t.rows ∧
      (∀ row ∈ t.rows, (∃ millis, row.updatedAt = .integer millis) ∧
        (row.warningSent = .integer 0 ∨ row.warningSent = .integer 1)) ∧
      (t.rows.map fun row => (row.topic, row.endpoint)).Nodup ∧ t.indexed = true ∧
      untypedDatabase.update.database.stamp? = some untypedDatabase.storedVersion ∧
      (untypedDatabase.KeepsStamp → untypedDatabase.storedVersion = .integer latestVersion) ∧
      untypedDatabase.update.database.others = untypedDatabase.others := by
  have old : untypedDatabase.currentVersion = .ok 1 := by decide +kernel
  have less : 1 < latestVersion := by decide
  have done : untypedDatabase.update.result = .ok () := by decide +kernel
  exact ⟨old, less, done, update_carries_rows untypedDatabase 1 old less done⟩

end Database
end PushLedger
