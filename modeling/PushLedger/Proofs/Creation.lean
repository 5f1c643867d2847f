import PushLedger.Proofs.Transitions

/-!
# The creation of what is missing

The first step of an update creates the subscription table, the version table and the indexes, each
unless it is there. Every statement may meet a name that something else bears, and an index may meet
rows that agree in topic and endpoint. For each statement it is said here when it succeeds and what it
leaves, and from this what the whole step leaves. It touches the ledger's own tables only.

Not everything that bears a name stays in its way. The indexes of the subscription table go with it
when it is dropped, and until then they count for the ones that are to be created.
-/

namespace PushLedger
namespace Database

/-- The two databases differ in the ledger's own tables at most. -/
structure AlikeAround (db later : Database) : Prop where
  others : later.others = db.others
  fixtures : later.fixtures = db.fixtures

/-- The two databases differ in the subscription table at most. -/
structure AlikeBeside (db later : Database) : Prop extends db.AlikeAround later where
  versions : later.versions = db.versions

/-- Differences in the ledger's own tables add up to one. -/
theorem AlikeAround.trans {db middle later : Database} (first : db.AlikeAround middle)
    (second : middle.AlikeAround later) : db.AlikeAround later :=
  ⟨second.others.trans first.others, second.fixtures.trans first.fixtures⟩

/-- Differences in the subscription table add up to one. -/
theorem AlikeBeside.trans {db middle later : Database} (first : db.AlikeBeside middle)
    (second : middle.AlikeBeside later) : db.AlikeBeside later :=
  ⟨first.toAlikeAround.trans second.toAlikeAround, second.versions.trans first.versions⟩

/-- A database is as it is. -/
theorem AlikeBeside.refl (db : Database) : db.AlikeBeside db := ⟨⟨rfl, rfl⟩, rfl⟩

/-- A change of the subscription table changes nothing beside it. -/
theorem alikeBeside_withTable (db : Database) (t : Table) : db.AlikeBeside (db.withTable t) :=
  ⟨⟨rfl, rfl⟩, rfl⟩

/-- What bears a name and does not go with the subscription table. -/
def lasting? (db : Database) (name : String) : Option Bearer :=
  (db.withoutFixturesOf Table.name).foreign? name

/-- What bears a name depends on the further tables and the fixtures. -/
theorem AlikeAround.foreign_eq {db later : Database} (alike : db.AlikeAround later)
    (name : String) : later.foreign? name = db.foreign? name := by
  unfold foreign? other?
  rw [alike.others, alike.fixtures]

/-- So does what lasts under a name. -/
theorem AlikeAround.lasting_eq {db later : Database} (alike : db.AlikeAround later)
    (name : String) : later.lasting? name = db.lasting? name := by
  have left : (db.withoutFixturesOf Table.name).AlikeAround (later.withoutFixturesOf Table.name) :=
    ⟨alike.others, congrArg (List.filter fun fixture : Fixture => !fixture.isOf Table.name)
      alike.fixtures⟩
  exact left.foreign_eq name

/-- The table that a rebuild reads: the one that is there, or a new one that the first step has
made. A namesake keeps that step from making one, and a later version does not take it. -/
def oldTable? (db : Database) (version : Nat) : Option Table :=
  db.subscriptions.or
    (if version = 0 ∧ db.namesake? = none then some (.empty .dated false) else none)

/-- A table that is there is the one that a rebuild reads. -/
theorem oldTable_of_kept (db : Database) (version : Nat) (t : Table)
    (kept : db.subscriptions = some t) : db.oldTable? version = some t := by
  simp [oldTable?, kept]

/-- Where the table is missing, a rebuild reads a new one, if the first step has made it. -/
theorem oldTable_of_missing_iff (db : Database) (version : Nat) (t : Table)
    (missing : db.subscriptions = none) : db.oldTable? version = some t ↔
      (version = 0 ∧ db.namesake? = none) ∧ t = .empty .dated false := by
  simp [oldTable?, missing, eq_comm]

/-- The database with a version table. -/
def versioned (db : Database) : Database := { db with versions := some (db.versions.getD .own) }

/-- The table after the creation of indexes on it. An index that counts for the last one leaves it as it
is. -/
def indexedTable (db : Database) (t : Table) : Table :=
  if db.foreign? uniqueIndexName = none then { t with indexed := true } else t

/-- The creation of indexes leaves the rows as they are. -/
@[simp] theorem rows_indexedTable (db : Database) (t : Table) : (db.indexedTable t).rows = t.rows := by
  unfold indexedTable
  split <;> rfl

/-- The creation of indexes leaves the columns as they are. -/
@[simp] theorem layout_indexedTable (db : Database) (t : Table) :
    (db.indexedTable t).layout = t.layout := by
  unfold indexedTable
  split <;> rfl

/-- A table that has indexes gets none. -/
theorem indexedTable_of_indexed (db : Database) {t : Table} (indexed : t.indexed = true) :
    db.indexedTable t = t := by
  have same : { t with indexed := true } = t := by
    rw [← indexed]
  simp [indexedTable, same]

/-! The statements that create something, one by one. -/

/-- A statement that creates something leaves a database exactly if the thing is there or is made. -/
theorem Creation.carry_ok_iff (creation : Creation) (db changed : Database)
    (made : Except StorageFault Database) :
    creation.carry db made = .ok changed ↔
      creation = .there ∧ changed = db ∨ creation = .due ∧ made = .ok changed := by
  cases creation <;> simp [carry, eq_comm]

/-- A name is free of further tables and of fixtures exactly if neither bears it. -/
theorem foreign_eq_none_iff (db : Database) (name : String) :
    db.foreign? name = none ↔
      db.other? name = none ∧ ∀ fixture ∈ db.fixtures, fixture.bearer? name = none := by
  unfold foreign?
  cases db.other? name <;> simp [List.findSome?_eq_none_iff]

/-- Nothing lasts under a name that is free. -/
theorem lasting_of_free {db : Database} {name : String} (free : db.foreign? name = none) :
    db.lasting? name = none := by
  obtain ⟨unnamed, unborne⟩ := (db.foreign_eq_none_iff name).mp free
  refine (foreign_eq_none_iff _ name).mpr ⟨unnamed, fun fixture member => ?_⟩
  exact unborne fixture (List.mem_filter.mp member).1

/-- A name under which nothing lasts is free, or an index of the subscription table bears it. -/
theorem free_or_index_of_lasting {db : Database} {name : String} (free : db.lasting? name = none) :
    db.foreign? name = none ∨ db.foreign? name = some .index := by
  obtain ⟨unnamed, others⟩ := (foreign_eq_none_iff _ name).mp free
  cases borne : db.foreign? name with
  | none => exact .inl rfl
  | some bearing =>
    have same : db.other? name = none := unnamed
    rw [foreign?, same] at borne
    obtain ⟨fixture, member, bears⟩ := List.exists_of_findSome?_eq_some borne
    by_cases own : fixture.isOf Table.name = true
    · cases fixture with
      | view => simp [Fixture.isOf] at own
      | trigger => simp [Fixture.bearer?] at bears
      | index =>
        simp only [Fixture.bearer?, Option.ite_none_right_eq_some, Option.some.injEq] at bears
        exact .inr (bears.2 ▸ rfl)
    · have unborne := others fixture (List.mem_filter.mpr ⟨member, by simpa using own⟩)
      rw [unborne] at bears
      cases bears

/-- Creating a table that is missing changes nothing or makes it. -/
theorem missingTable_eq_due_iff (db : Database) (name : String) :
    db.missingTable name = .due ↔ db.foreign? name = none := by
  unfold missingTable
  split <;> simp_all

/-- If each statement leaves the database as it is, apart from the last, all of them leave what the
last one leaves. -/
theorem createIndexes_iff_of_each (db : Database) (tolerant : Bool) (allowed : String → Prop)
    (last : Database → Prop)
    (each : ∀ index : String × Column, index.1 ∈ Table.indexNames → ∀ left,
      createIndex tolerant db index = .ok left ↔
        allowed index.1 ∧ if index.1 = uniqueIndexName then last left else left = db)
    (changed : Database) :
    db.createIndexes tolerant = .ok changed ↔
      (∀ name ∈ Table.indexNames, allowed name) ∧ last changed := by
  have topic := each ("idx_topic", .topic) (by decide +kernel)
  have endpoint := each ("idx_endpoint", .endpoint) (by decide +kernel)
  have both := each ("idx_topic_endpoint", .topic) (by decide +kernel)
  simp only [uniqueIndexName, String.reduceEq, if_true, if_false] at topic endpoint both
  simp only [createIndexes, Table.indexes, Table.indexNames, List.foldlM_cons, List.foldlM_nil,
    bind_eq_ok_iff, pure_eq_ok, Except.ok.injEq, exists_eq_right, topic, and_assoc,
    exists_eq_left, exists_and_left, endpoint, both, List.map_cons, List.map_nil,
    List.forall_mem_cons, List.not_mem_nil, false_imp_iff, implies_true, true_and]

/-- Where the table is missing, no statement finds it. -/
theorem table_of_missing (db : Database) (missing : db.subscriptions = none) (named : Column)
    (statement : Option UpdateStatement) : ∃ fault, db.table named statement = .error fault := by
  rcases bearer : db.namesake? with _ | (_ | _ | _) <;> simp [table, missing, bearer]

section Indexes

variable {db : Database} {t : Table} (kept : db.subscriptions = some t)

include kept

/-- An index of an indexed table is there. -/
theorem createIndex_indexed (indexed : t.indexed = true) (tolerant : Bool)
    (index : String × Column) : createIndex tolerant db index = .ok db := by
  simp [createIndex, indexCreation, kept, indexed, Creation.carry]

/-- An index is made on a table that has none exactly if its name is free; where another index of the
name counts for it, that is another way. -/
theorem createIndex_ok_iff (unindexed : t.indexed = false) (tolerant : Bool)
    (index : String × Column) (changed : Database) :
    createIndex tolerant db index = .ok changed ↔
      (db.foreign? index.1 = none ∧ db.withIndex index.1 = .ok changed) ∨
        (tolerant = true ∧ db.foreign? index.1 = some .index ∧ changed = db) := by
  have unnamed : db.namesake? = none := namesake_of_kept db t kept
  have found := table_of_kept db t index.2 kept (some (.index index.1))
  rw [createIndex, Creation.carry_ok_iff]
  cases bearer : db.foreign? index.1 with
  | none => simp [indexCreation, kept, unindexed, unnamed, found, bearer]
  | some bearing =>
    cases bearing <;> cases tolerant <;>
      simp [indexCreation, kept, unindexed, unnamed, bearer]

/-- Only the last index looks at the rows, and with it the table is indexed. -/
theorem withIndex_ok_iff (name : String) (changed : Database) :
    db.withIndex name = .ok changed ↔ if name = uniqueIndexName
      then Row.anyClash t.rows = false ∧ changed = db.withTable { t with indexed := true }
      else changed = db := by
  have found := table_of_kept db t .topic kept none
  by_cases last : name = uniqueIndexName
  · cases clash : Row.anyClash t.rows <;> simp [withIndex, last, found, clash, eq_comm (a := changed)]
  · simp [withIndex, last, eq_comm (a := changed)]

/-- On a table without indexes they are all made exactly if their names are free and no two rows
clash, where no other index counts for one of them. -/
theorem createIndexes_ok_iff (unindexed : t.indexed = false) (changed : Database) :
    db.createIndexes false = .ok changed ↔
      (∀ name ∈ Table.indexNames, db.foreign? name = none) ∧ Row.anyClash t.rows = false ∧
        changed = db.withTable { t with indexed := true } := by
  refine createIndexes_iff_of_each db false (fun name => db.foreign? name = none)
    (fun left => Row.anyClash t.rows = false ∧ left = db.withTable { t with indexed := true })
    (fun index _ left => ?_) changed
  rw [createIndex_ok_iff kept unindexed, withIndex_ok_iff kept]
  simp only [Bool.false_eq_true, false_and, or_false]

/-- Where other indexes count, they are there in the end exactly if they were there before, the last
one under its name at least, or no two rows clash. -/
theorem createIndexes_tolerant_iff (free : ∀ name ∈ Table.indexNames, db.lasting? name = none)
    (changed : Database) :
    db.createIndexes true = .ok changed ↔
      (t.indexed = true ∨ db.foreign? uniqueIndexName ≠ none ∨ Row.anyClash t.rows = false) ∧
        changed = db.withTable (db.indexedTable t) := by
  have same : db.withTable t = db := db.withTable_of_kept t kept
  by_cases indexed : t.indexed = true
  · have there (index : String × Column) := createIndex_indexed kept indexed true index
    simp [createIndexes, Table.indexes, there, indexed, indexedTable_of_indexed db indexed, same,
      eq_comm (a := changed)]
  · have unindexed : t.indexed = false := Bool.not_eq_true _ ▸ indexed
    rw [or_iff_right indexed]
    have each := createIndexes_iff_of_each db true (fun _ => True)
      (fun left => (db.foreign? uniqueIndexName ≠ none ∨ Row.anyClash t.rows = false) ∧
        left = db.withTable (db.indexedTable t))
    refine (each (fun index listed left => ?_) changed).trans (and_iff_right fun _ _ => trivial)
    rw [createIndex_ok_iff kept unindexed, withIndex_ok_iff kept, true_and]
    rcases free_or_index_of_lasting (free index.1 listed) with unborne | counts
    · by_cases last : index.1 = uniqueIndexName
      · rw [last] at unborne
        simp [last, unborne, indexedTable]
      · simp [last, unborne]
    · by_cases last : index.1 = uniqueIndexName
      · rw [last] at counts
        simp [last, counts, indexedTable, same]
      · simp [last, counts]

end Indexes

/-- A statement that creates an index changes nothing, or a table that is there. -/
theorem createIndex_cases (tolerant : Bool) (db changed : Database) (index : String × Column)
    (done : createIndex tolerant db index = .ok changed) :
    changed = db ∨
      ∃ t, db.subscriptions = some t ∧ changed = db.withTable { t with indexed := true } := by
  rcases (Creation.carry_ok_iff _ _ _ _).mp done with ⟨_, rfl⟩ | ⟨_, made⟩
  · exact .inl rfl
  · cases kept : db.subscriptions with
    | some t =>
      rw [withIndex_ok_iff kept] at made
      split at made
      · exact .inr ⟨t, rfl, made.2⟩
      · exact .inl made
    | none =>
      obtain ⟨fault, missing⟩ := db.table_of_missing kept .topic none
      rw [withIndex] at made
      split at made
      · exact .inl (Except.ok.inj made).symm
      · simp [missing] at made

/-- What the creation of one index keeps, the creation of all of them keeps. -/
theorem createIndexes_induction (motive : Database → Prop) (tolerant : Bool)
    (one : ∀ before index after, motive before →
      createIndex tolerant before index = .ok after → motive after) (db changed : Database)
    (start : motive db) (done : db.createIndexes tolerant = .ok changed) : motive changed := by
  unfold createIndexes at done
  generalize Table.indexes = indexes at done
  induction indexes generalizing db with
  | nil => exact Except.ok.inj done ▸ start
  | cons index rest inductionHypothesis =>
    obtain ⟨next, first, later⟩ := (bind_eq_ok_iff _ _ _).mp done
    exact inductionHypothesis next (one db index next start first) later

/-- The creation of indexes makes no table. -/
theorem createIndexes_missing (tolerant : Bool) (db changed : Database)
    (missing : db.subscriptions = none) (done : db.createIndexes tolerant = .ok changed) :
    changed.subscriptions = none := by
  refine createIndexes_induction (fun left => left.subscriptions = none) tolerant
    (fun before index after none made => ?_) db changed missing done
  rcases createIndex_cases tolerant before after index made with rfl | ⟨t, kept, _⟩
  · exact none
  · cases kept.symm.trans none

/-- The statement that creates the table leaves the one that a rebuild reads. -/
theorem createTable_of_oldTable (db : Database) (t : Table) (found : db.oldTable? 0 = some t) :
    db.createTable = .ok (db.withTable t) := by
  cases kept : db.subscriptions with
  | some same =>
    obtain rfl := Option.some.inj ((db.oldTable_of_kept 0 same kept).symm.trans found)
    have unchanged : db.withTable same = db := db.withTable_of_kept same kept
    simp [createTable, tableCreation, kept, Creation.carry, unchanged]
  | none =>
    obtain ⟨⟨_, unnamed⟩, rfl⟩ := (db.oldTable_of_missing_iff 0 t kept).mp found
    have free : db.foreign? Table.name = none := by
      simpa [namesake?, kept] using unnamed
    simp [createTable, tableCreation, kept, missingTable, free, Creation.carry]

/-- Where there is nothing for a rebuild to read, it leaves no table. -/
theorem createTable_missing (db created : Database) (unfound : db.oldTable? 0 = none)
    (done : db.createTable = .ok created) : created.subscriptions = none := by
  have missing : db.subscriptions = none := by
    cases kept : db.subscriptions with
    | none => rfl
    | some t => exact nomatch (db.oldTable_of_kept 0 t kept).symm.trans unfound
  have named : db.foreign? Table.name ≠ none := fun free => by
    simp [oldTable?, missing, namesake?, free] at unfound
  rcases (Creation.carry_ok_iff _ _ _ _).mp done with ⟨_, rfl⟩ | ⟨due, _⟩
  · exact missing
  · rw [tableCreation, missing] at due
    exact absurd ((db.missingTable_eq_due_iff Table.name).mp due) named

/-- The version table is there after the statement that creates it exactly if it was there before or
its name was free. -/
theorem createVersionTable_ok_iff (db created : Database) :
    (db.createVersionTable = .ok created ∧ created.versions.isSome = true) ↔
      (db.versions = none → db.foreign? VersionTable.properName = none) ∧
        created = db.versioned := by
  rw [createVersionTable, Creation.carry_ok_iff, versionTableCreation, versioned]
  cases kept : db.versions with
  | some stamps =>
    have same : { db with versions := some stamps } = db := by
      rw [← kept]
    simp only [Option.isSome_some, if_true, true_and, reduceCtorEq, false_and, or_false,
      Option.getD_some, same, false_imp_iff, and_iff_left_iff_imp]
    rintro rfl
    rw [kept, Option.isSome_some]
  | none =>
    simp only [Option.isSome_none, Bool.false_eq_true, if_false, missingTable_eq_due_iff,
      Option.getD_none, Except.ok.injEq, true_imp_iff]
    constructor
    · rintro ⟨⟨_, rfl⟩ | ⟨free, rfl⟩, present⟩
      · simp [kept] at present
      · exact ⟨free, rfl⟩
    · rintro ⟨free, rfl⟩
      exact ⟨.inr ⟨free, rfl⟩, rfl⟩

/-- The creation of indexes writes the subscription table only. -/
theorem alikeBeside_createIndexes (db changed : Database) (tolerant : Bool)
    (done : db.createIndexes tolerant = .ok changed) : db.AlikeBeside changed := by
  refine createIndexes_induction db.AlikeBeside tolerant (fun before index after alike made => ?_) db
    changed (.refl db) done
  rcases createIndex_cases tolerant before after index made with rfl | ⟨t, _, rfl⟩
  · exact alike
  · exact alike.trans (before.alikeBeside_withTable _)

/-- The creation of the table leaves everything else as it is. -/
theorem createTable_around (db created : Database) (done : db.createTable = .ok created) :
    db.AlikeAround created := by
  rcases (Creation.carry_ok_iff _ _ _ _).mp done with ⟨_, rfl⟩ | ⟨_, made⟩
  · exact ⟨rfl, rfl⟩
  · obtain rfl := Except.ok.inj made
    exact ⟨rfl, rfl⟩

/-- The creation of the version table leaves everything else as it is. -/
theorem createVersionTable_beside (db created : Database)
    (done : db.createVersionTable = .ok created) :
    db.AlikeAround created ∧ created.subscriptions = db.subscriptions := by
  rcases (Creation.carry_ok_iff _ _ _ _).mp done with ⟨_, rfl⟩ | ⟨_, made⟩
  · exact ⟨⟨rfl, rfl⟩, rfl⟩
  · obtain rfl := Except.ok.inj made
    exact ⟨⟨rfl, rfl⟩, rfl⟩

/-- The first step touches the ledger's own tables only. -/
theorem alikeAround_createMissing (db created : Database)
    (done : db.createMissing = .ok created) : db.AlikeAround created := by
  obtain ⟨tabled, first, rest⟩ := (bind_eq_ok_iff _ _ _).mp done
  obtain ⟨versioned, second, third⟩ := (bind_eq_ok_iff _ _ _).mp rest
  have table := createTable_around db tabled first
  have versions := (createVersionTable_beside tabled versioned second).1
  exact (table.trans versions).trans
    (alikeBeside_createIndexes versioned created true third).toAlikeAround

/-- Where nothing lasts under the names of the indexes, the first step leaves both tables exactly if it
finds a version table or may create it and no row stands in the way of the indexes. Then it has made
what was missing. -/
theorem createMissing_ok_iff (db created : Database)
    (free : ∀ name ∈ Table.indexNames, db.lasting? name = none) :
    (db.createMissing = .ok created ∧ created.versions.isSome = true ∧
        created.subscriptions.isSome = true) ↔
      ∃ t, db.oldTable? 0 = some t ∧
        (db.versions = none → db.foreign? VersionTable.properName = none) ∧
        (t.indexed = true ∨ db.foreign? uniqueIndexName ≠ none ∨ Row.anyClash t.rows = false) ∧
        created = db.versioned.withTable (db.indexedTable t) := by
  cases found : db.oldTable? 0 with
  | none =>
    simp only [reduceCtorEq, false_and, exists_false, iff_false]
    rintro ⟨done, _, present⟩
    obtain ⟨tabled, first, rest⟩ := (bind_eq_ok_iff _ _ _).mp done
    obtain ⟨versioned, second, third⟩ := (bind_eq_ok_iff _ _ _).mp rest
    have same := (createVersionTable_beside tabled versioned second).2
    have missing := same.trans (createTable_missing db tabled found first)
    rw [createIndexes_missing true versioned created missing third] at present
    cases present
  | some t =>
    have tabled := createTable_of_oldTable db t found
    have kept : (db.withTable t).versioned.subscriptions = some t := rfl
    have indexes := createIndexes_tolerant_iff kept free
    constructor
    · rintro ⟨done, present, _⟩
      simp only [createMissing, tabled, ok_bind] at done
      obtain ⟨versioned, second, third⟩ := (bind_eq_ok_iff _ _ _).mp done
      have beside := alikeBeside_createIndexes versioned created true third
      obtain ⟨stampFree, rfl⟩ :=
        (createVersionTable_ok_iff (db.withTable t) versioned).mp ⟨second, beside.versions ▸ present⟩
      obtain ⟨apart, rfl⟩ := (indexes created).mp third
      exact ⟨t, rfl, stampFree, apart, rfl⟩
    · rintro ⟨_, same, stampFree, apart, rfl⟩
      obtain rfl := Option.some.inj same
      obtain ⟨versions, _⟩ :=
        (createVersionTable_ok_iff (db.withTable t) _).mpr ⟨stampFree, rfl⟩
      refine ⟨?_, rfl, rfl⟩
      simp only [createMissing, tabled, ok_bind, versions]
      exact (indexes _).mpr ⟨apart, rfl⟩

end Database
end PushLedger
