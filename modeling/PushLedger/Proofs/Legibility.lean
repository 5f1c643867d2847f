import PushLedger.Proofs.Coverage
import PushLedger.Proofs.Stamps

/-!
# Rows that stay readable

A row is legible if each of its cells has the class that its readers ask for; then it spells out a
listing. A rebuild makes legible rows of whatever it meets, except for bytes in the columns of texts,
which it keeps. On a table of legible rows no lookup and no sweep meets a cell that it cannot read.

A store keeps its table so. It also keeps the index and the counter in order, so that a request that
passes its check is refused only when the ids are used up.
-/

namespace PushLedger

/-- The columns that are read as texts. -/
def Column.texts : List Column := [.topic, .userId, .endpoint, .keyAuth, .keyP256dh]

/-- A cell that is neither empty nor bytes is stored in a text column as a text. -/
theorem Cell.text_of_apply (cell : Cell) (filled : cell ≠ .null)
    (unbinary : cell.storageClass ≠ .blob) : ∃ s, Affinity.text.apply cell = .text s := by
  cases cell with
  | null => exact absurd rfl filled
  | blob bytes => exact absurd rfl unbinary
  | integer n => exact ⟨_, rfl⟩
  | real x => exact ⟨_, rfl⟩
  | text s => exact ⟨s, rfl⟩

namespace Row

/-- The row spells out some listing. -/
def Legible (row : Row) : Prop := ∃ l, row.Spells l

/-- None of the columns that are read as texts holds bytes. -/
def Unbinary (row : Row) : Prop := ∀ column ∈ Column.texts, (row.cell column).storageClass ≠ .blob

/-- The owner of a copy is a text or none, unless the owner of the row is bytes. -/
theorem userId_copied_eq (row : Row) (unbinary : row.userId.storageClass ≠ .blob) :
    ∃ owner, row.copied.userId = .ofText? owner := by
  by_cases spaces : row.userId.isSpaces = true
  · exact ⟨none, if_pos spaces⟩
  · have kept : row.copied.userId = Affinity.text.apply row.userId := if_neg spaces
    by_cases empty : row.userId = .null
    · exact ⟨none, by rw [kept, empty]; rfl⟩
    · obtain ⟨owner, stored⟩ := row.userId.text_of_apply empty unbinary
      exact ⟨some owner, kept.trans stored⟩

/-- The copy of a row is legible, if the row lacks no required cell and holds no bytes. -/
theorem legible_copied (row : Row) (complete : row.Complete) (unbinary : row.Unbinary) :
    row.copied.Legible := by
  have unbinary (column : Column) (read : column ∈ Column.texts) := unbinary column read
  obtain ⟨topic, topicStored⟩ := row.topic.text_of_apply complete.topic
    (unbinary .topic (by decide))
  obtain ⟨userId, userIdStored⟩ := row.userId_copied_eq (unbinary .userId (by decide))
  obtain ⟨endpoint, endpointStored⟩ := row.endpoint.text_of_apply complete.endpoint
    (unbinary .endpoint (by decide))
  obtain ⟨keyAuth, keyAuthStored⟩ := row.keyAuth.text_of_apply complete.keyAuth
    (unbinary .keyAuth (by decide))
  obtain ⟨keyP256dh, keyP256dhStored⟩ := row.keyP256dh.text_of_apply complete.keyP256dh
    (unbinary .keyP256dh (by decide))
  obtain ⟨millis, stamped⟩ := Content.integer_rebuiltStamp row.updatedAt
  refine ⟨⟨topic, userId, endpoint, keyAuth, keyP256dh, millis, row.warningSent.isTrue⟩, ?_⟩
  have copied : row.copied.toContent = ⟨Affinity.text.apply row.topic, row.copied.userId,
      Affinity.text.apply row.endpoint, Affinity.text.apply row.keyAuth,
      Affinity.text.apply row.keyP256dh, Affinity.numeric.apply row.updatedAt.rebuiltStamp,
      .integer (if row.warningSent.isTrue then 1 else 0)⟩ := rfl
  rw [Spells, copied, topicStored, userIdStored, endpointStored, keyAuthStored, keyP256dhStored,
    stamped]
  rfl

namespace Spells

variable {row : Row} {l : Listing} (spells : row.Spells l)

include spells

/-- A row that spells out a listing lacks no required cell. -/
theorem complete : row.Complete := by
  unfold Row.Spells at spells
  rw [spells]
  exact ⟨nofun, nofun, nofun, nofun⟩

/-- A row that spells out a listing holds no bytes. -/
theorem unbinary : row.Unbinary := by
  obtain ⟨content, id⟩ := row
  obtain rfl : content = l.content := spells
  cases owned : l.userId <;>
    simp [Row.Unbinary, Column.texts, Row.cell, Content.cell, Listing.content, owned, Cell.ofText?,
      Cell.storageClass]

/-- Text columns store the topic and the endpoint of the row as they are. -/
theorem settledKey_eq : row.settledKey = (row.topic, row.endpoint) := by
  unfold Row.Spells at spells
  rw [spells]
  rfl

end Spells

/-- A fresh row is legible. -/
theorem legible_fresh (request : NewSubscription) (now : Instant) (last : Int) (row : Row)
    (fresh : row ∈ numbered last (Database.freshContents request now)) : row.Legible := by
  obtain ⟨topic, _, content⟩ := List.mem_map.mp (mem_numbered _ _ row fresh).1
  exact ⟨⟨topic, request.userId, request.endpoint, request.keyAuth, request.keyP256dh, now.millis,
    false⟩, content.symm⟩

/-- Legible rows are read one after another. -/
theorem mapM_read_legible (rows : List Row) (legible : ∀ row ∈ rows, row.Legible) :
    ∃ found, rows.mapM Row.read = .ok found := by
  refine exists_mapM_eq_ok ?_
  intro row member
  obtain ⟨l, spells⟩ := legible row member
  obtain ⟨s, read, _⟩ := spells.read_eq
  exact ⟨s, read⟩

end Row

namespace Table

/-- Every row is legible, topic and endpoint tell the rows apart, no id lies above the counter, and
the indexes are there. -/
structure Legible (t : Table) : Prop where
  rows : ∀ row ∈ t.rows, row.Legible
  unique : (t.rows.map fun row => (row.topic, row.endpoint)).Nodup
  counts : t.Counts
  indexed : t.indexed = true

/-- The copy of a table is legible, if its rows can be copied and hold no bytes. -/
theorem legible_rebuiltTable (t : Table) (complete : ∀ row ∈ t.rows, row.Complete)
    (unbinary : ∀ row ∈ t.rows, row.Unbinary)
    (distinct : (t.rows.map fun row => row.settledKey).Nodup) :
    (Database.rebuiltTable t).Legible := by
  refine ⟨?_, ?_, Database.counts_rebuiltTable t, rfl⟩
  · intro copy member
    obtain ⟨row, present, rfl⟩ := List.mem_map.mp member
    exact row.legible_copied (complete row present) (unbinary row present)
  · rw [Database.rows_rebuiltTable, List.map_map]
    exact distinct

/-- Fewer rows are legible as well. -/
theorem Legible.without {t : Table} (legible : t.Legible) (selected : Row → Bool) :
    (t.without selected).Legible where
  rows row member := legible.rows row (List.mem_filter.mp member).1
  unique := legible.unique.sublist (List.filter_sublist.map _)
  counts row member := legible.counts row (List.mem_filter.mp member).1
  indexed := legible.indexed

/-- Adding rows does not take the indexes away. -/
theorem indexed_addAll (t : Table) (contents : List Content) :
    (t.addAll contents).indexed = t.indexed := by
  induction contents generalizing t with
  | nil => rfl
  | cons content rest inductionHypothesis => exact inductionHypothesis (t.add content)

/-- The rows of a request are legible, and the index has room for them: their topics are distinct, and
the old rows of their endpoint are gone. -/
theorem Legible.replaced {t : Table} (legible : t.Legible) (current : t.Current)
    (request : NewSubscription) (now : Instant) : (Database.replaced t request now).Legible := by
  have cleared : (t.cleared request.endpoint).Legible := legible.without _
  have counted : (t.cleared request.endpoint).layout.counted = true :=
    (current_without t _ current).counted
  obtain ⟨forward, freshCounted⟩ := counter_addAll (t.cleared request.endpoint)
    (Database.freshContents request now) counted
  refine ⟨fun row member => ?rows, ?unique, fun row member => ?counts, ?indexed⟩
  case rows =>
    rw [rows_replaced t request now current] at member
    rcases List.mem_append.mp member with old | fresh
    · exact cleared.rows row old
    · exact Row.legible_fresh request now _ row fresh
  case unique =>
    have keys : (Row.numbered (t.cleared request.endpoint).lastId
        (Database.freshContents request now)).map (fun row => (row.topic, row.endpoint)) =
        request.topics.names.map fun topic => (.text topic, .text request.endpoint) := by
      have contents := congrArg (List.map fun content : Content => (content.topic, content.endpoint))
        (Row.contents_numbered (t.cleared request.endpoint).lastId
          (Database.freshContents request now))
      rw [Database.freshContents, List.map_map, List.map_map] at contents
      exact contents
    rw [rows_replaced t request now current, List.map_append, keys]
    refine List.nodup_append.mpr ⟨cleared.unique, ?_, ?_⟩
    · refine List.Nodup.map ?_ request.topics.names_nodup
      intro first second same
      exact Cell.text.inj (Prod.mk.inj same).1
    · -- a row that was left has another endpoint than the fresh ones
      intro key old other fresh same
      obtain ⟨row, member, rfl⟩ := List.mem_map.mp old
      obtain ⟨topic, _, rfl⟩ := List.mem_map.mp fresh
      exact ((mem_cleared_iff t request.endpoint row).mp member).2 (Prod.mk.inj same).2
  case counts =>
    rw [rows_replaced t request now current] at member
    rcases List.mem_append.mp member with old | fresh
    · exact Int.le_trans (cleared.counts row old) forward
    · exact freshCounted row fresh
  case indexed => exact (indexed_addAll _ _).trans legible.indexed

/-- A sweep alters flags only, and sets them to one. -/
theorem Legible.swept {t : Table} (legible : t.Legible) (expireBefore warnBefore : Int) :
    (t.swept expireBefore warnBefore).Legible := by
  refine ⟨fun row member => ?_, ?_, fun row member => ?_, legible.indexed⟩
  · obtain ⟨old, present, _, rfl⟩ := (mem_swept_iff t _ _ row).mp member
    obtain ⟨l, spells⟩ := legible.rows old present
    exact ⟨l.swept warnBefore, spells.swept warnBefore⟩
  · have sameTopic (row : Row) : (row.swept warnBefore).topic = row.topic := by
      unfold Row.swept
      split <;> rfl
    have sameKeys : (t.swept expireBefore warnBefore).rows.map
        (fun row => (row.topic, row.endpoint)) =
        (t.without (Row.isExpired expireBefore)).rows.map fun row => (row.topic, row.endpoint) := by
      simp only [Table.swept, marked, List.map_map]
      refine List.map_congr_left fun row _ => ?_
      exact Prod.ext (sameTopic row) (row.endpoint_swept warnBefore)
    rw [sameKeys]
    exact (legible.without _).unique
  · obtain ⟨old, present, _, rfl⟩ := (mem_swept_iff t _ _ row).mp member
    rw [old.id_swept]
    exact legible.counts old present

/-- Text columns store the keys of legible rows as they are. -/
theorem Legible.distinct {t : Table} (legible : t.Legible) :
    (t.rows.map fun row => row.settledKey).Nodup := by
  have same : (t.rows.map fun row => row.settledKey) =
      t.rows.map fun row => (row.topic, row.endpoint) := by
    refine List.map_congr_left fun row member => ?_
    obtain ⟨l, spells⟩ := legible.rows row member
    exact spells.settledKey_eq
  exact same ▸ legible.unique

/-- Legible rows lack no required cell. -/
theorem Legible.complete {t : Table} (legible : t.Legible) : ∀ row ∈ t.rows, row.Complete :=
  fun row member => (legible.rows row member).elim fun _ spells => spells.complete

/-- Legible tables stay legible, even through another rebuild. -/
theorem lasting_legible : Lasting Legible where
  without _ selected legible := legible.without selected
  replaced _ _ request now current _ legible := legible.replaced current request now
  swept _ expireBefore warnBefore legible := legible.swept expireBefore warnBefore
  rebuilt t legible := legible_rebuiltTable t legible.complete
    (fun row member => (legible.rows row member).elim fun _ spells => spells.unbinary)
    legible.distinct

/-- Every lookup among legible rows succeeds. -/
theorem lookup_legible {t : Table} (legible : ∀ row ∈ t.rows, row.Legible) (current : t.Current)
    (topic : String) : ∃ found, t.lookup topic = .ok found := by
  have flagged : t.layout.flagged = true := by
    rw [current.epoch]
    rfl
  obtain ⟨found, done⟩ := Row.mapM_read_legible (t.rows.filter fun row => row.topic.isText topic)
    fun row member => legible row (List.mem_filter.mp member).1
  exact ⟨found, (t.lookup_ok_iff topic found).mpr ⟨flagged, done⟩⟩

/-- The ids of a legible table suffice for a request as long as its counter leaves enough of them. -/
theorem Legible.hasRoom_iff {t : Table} (legible : t.Legible) (current : t.Current)
    (endpoint : String) (count : Nat) :
    (t.cleared endpoint).HasRoom count ↔ count = 0 ∨ t.counter + count ≤ Word.greatest :=
  legible.counts.hasRoom_iff current endpoint count

end Table

namespace Database

/-- The database holds a legible table in the present layout and without a guard, its version table
holds the stamp of an update, if it has its proper name, and nothing is in the way of another rebuild
by its name. -/
structure Sound (db : Database) (t : Table) : Prop where
  kept : db.subscriptions = some t
  current : t.Current
  legible : t.Legible
  stamped : db.ProperlyNamed → db.stamp? = some db.storedVersion
  keyed : (db.versions.getD .own).keyed = true
  unobstructed : db.foreign? rebuildName = none
  namesFree : ∀ name ∈ Table.indexNames, db.lasting? name = none

/-- A database that was brought up to date is sound, if its table is legible. -/
theorem Upgradable.sound {db : Database} {version : Nat} {t : Table} (fit : db.Upgradable version t)
    (legible : (rebuiltTable t).Legible) : (db.upgraded t).Sound (rebuiltTable t) where
  kept := rfl
  current := current_rebuiltTable t
  legible := legible
  stamped := fun _ => by
    rw [stamp_upgraded]
    simp [storedVersion, upgraded]
  keyed := by
    simpa [upgraded] using fit.keyed
  unobstructed := (db.foreign_rebuilt (rebuiltTable t) _).trans (lasting_of_free fit.unobstructed)
  namesFree := fun name given =>
    lasting_of_free ((db.foreign_rebuilt (rebuiltTable t) name).trans (fit.namesFree name given))

/-- A legible table in the present layout can be rebuilt once more, if nothing hinders it. -/
theorem upgradable_of_legible (db : Database) (version : Nat) (t : Table)
    (kept : db.subscriptions = some t) (current : t.Current) (legible : t.Legible)
    (unhindered : db.Unhindered) : db.Upgradable version t := by
  have flagged : t.layout.flagged = true := by
    rw [current.epoch]
    rfl
  exact unhindered.upgradable (oldTable_of_kept db version t kept) flagged legible.complete
    legible.distinct fun _ => .inl legible.indexed

/-- A store on a sound database is opened again if its stamp can be read or, where it is hidden and
another rebuild is due, the texts of views and triggers can be. -/
theorem Sound.update_result {db : Database} {t : Table} (sound : db.Sound t)
    (readable : db.ProperlyNamed → db.KeepsStamp)
    (resolved : ¬ db.ProperlyNamed → db.versioned.Resolved) : db.update.result = .ok () := by
  refine (update_ok_iff db).mpr ?_
  by_cases proper : db.ProperlyNamed
  · have stamped := (sound.stamped proper).trans
      (congrArg some (db.storedVersion_of_keeps (readable proper)))
    exact ⟨latestVersion, Nat.le_refl _,
      currentVersion_of_stamp db proper latestVersion (by decide) stamped, absurd rfl⟩
  · have unhindered : db.Unhindered :=
      { copyName := sound.unobstructed
        indexNames := sound.namesFree
        tableName := fun missing => nomatch missing.symm.trans sound.kept
        stampsName := fun missing => absurd (fun _ kept => nomatch missing.symm.trans kept) proper
        stampsKeyed := (keyed_getD_iff db).mp sound.keyed
        resolved := resolved proper }
    exact ⟨0, Nat.zero_le _, currentVersion_of_hidden db proper, fun _ =>
      ⟨t, upgradable_of_legible db 0 t sound.kept sound.current sound.legible unhindered⟩⟩

/-- No operation makes a sound database unsound. Only the closing and opening of a store can write the
stamp, and then it does so by an update. -/
theorem Sound.run {db : Database} {t : Table} (sound : db.Sound t) (operation : Operation)
    (now : Instant) : ∃ changed, (operation.run db now).database.Sound changed := by
  by_cases reopens : operation = .reopen
  · subst reopens
    change ∃ changed, db.update.database.Sound changed
    rcases update_cases db with same | ⟨_, old, _, _, fit, updated⟩
    · exact ⟨t, same.symm ▸ sound⟩
    · obtain rfl : old = t := fit.eq_of_kept sound.kept
      exact ⟨_, updated.symm ▸ fit.sound (Table.lasting_legible.rebuilt old sound.legible)⟩
  · obtain ⟨changed, kept, current, legible⟩ :=
      Table.lasting_legible.run sound.kept sound.current sound.legible operation now
    have beside := alikeBeside_run db operation now reopens
    refine ⟨changed, kept, current, legible, ?stamped, ?keyed,
      (beside.foreign_eq _).trans sound.unobstructed,
      fun name given => (beside.lasting_eq name).trans (sound.namesFree name given)⟩
    case stamped =>
      simpa only [ProperlyNamed, stamp?, storedVersion, beside.versions] using sound.stamped
    case keyed => exact beside.versions ▸ sound.keyed

/-- No run makes a sound database unsound. -/
theorem Sound.runAll {db : Database} {t : Table} (sound : db.Sound t)
    (steps : List (Instant × Operation)) :
    ∃ changed, (Operation.runAll db steps).2.Sound changed := by
  induction steps generalizing db t with
  | nil => exact ⟨t, sound⟩
  | cons step rest inductionHypothesis =>
    obtain ⟨changed, stillSound⟩ := sound.run step.2 step.1
    exact inductionHypothesis stillSound

/-- Every sweep of legible rows succeeds. -/
theorem sweep_legible {db : Database} {t : Table} (kept : db.subscriptions = some t)
    (current : t.Current) (legible : ∀ row ∈ t.rows, row.Legible) (warning expiry : Span)
    (now : Instant) :
    ∃ targets : List PushTarget,
      (t.without (Row.isExpired (now.cutoff expiry))).dueAddresses (now.cutoff warning) =
        targets.map PushTarget.address ∧
      (db.sweep warning expiry now).result =
        .ok (t.sweepReport (now.cutoff expiry) (now.cutoff warning) targets) ∧
      (db.sweep warning expiry now).database =
        db.withTable (t.swept (now.cutoff expiry) (now.cutoff warning)) := by
  rcases sweep_current kept current warning expiry now with succeeded | ⟨_, _, _, unspelled⟩
  · exact succeeded
  · obtain ⟨targets, spelled⟩ :=
      t.dueAddresses_spelled legible (now.cutoff expiry) (now.cutoff warning)
    exact absurd spelled (unspelled targets)

/-- A store on the database answers: no lookup, no sweep and no removal fails, no opening on a stamp
that can be read, and a request that passes its check only if the counter of ids would leave the words.
A hidden stamp is as good as one that can be read, if the texts of views and triggers can be. -/
structure Serviceable (db : Database) (t : Table) : Prop where
  kept : db.subscriptions = some t
  lookups : ∀ topic, ∃ found, (db.lookup topic).result = .ok found
  sweeps : ∀ warning expiry now, ∃ report, (db.sweep warning expiry now).result = .ok report
  endpoints : ∀ endpoint, ∃ removed, (db.removeEndpoint endpoint).result = .ok removed
  owners : ∀ owner, ∃ removed, (db.removeOwner owner).result = .ok removed
  reopens : (db.ProperlyNamed → db.KeepsStamp) → (¬ db.ProperlyNamed → db.versioned.Resolved) →
    db.reopenStore.result = .ok ()
  upserts : ∀ draft now, (db.upsert draft now).result =
    match draft.check with
    | .error fault => .error (.validation fault)
    | .ok request =>
        if request.topics.size = 0 ∨ t.counter + request.topics.size ≤ Word.greatest then .ok ()
        else .error (.storage .full)

/-- A store on a sound database answers. -/
theorem Sound.serviceable {db : Database} {t : Table} (sound : db.Sound t) : db.Serviceable t := by
  refine ⟨sound.kept, fun topic => ?lookups, fun warning expiry now => ?sweeps,
    fun endpoint => ?endpoints, fun owner => ?owners, sound.update_result, fun draft now => ?upserts⟩
  case lookups =>
    rw [lookup_result db t sound.kept topic]
    exact Table.lookup_legible sound.legible.rows sound.current topic
  case sweeps =>
    obtain ⟨_, _, done, _⟩ :=
      sweep_legible sound.kept sound.current sound.legible.rows warning expiry now
    exact ⟨_, done⟩
  case endpoints => exact ⟨_, (removeEndpoint_current sound.kept sound.current endpoint).1⟩
  case owners =>
    rcases removeOwner_current sound.kept sound.current owner with ⟨_, done, _⟩ | ⟨_, done, _⟩
    · exact ⟨_, done⟩
    · exact ⟨_, done⟩
  case upserts =>
    rcases upsert_current sound.kept sound.current draft now with
      ⟨fault, refused, failed, _⟩ | ⟨request, checked, room, done, _⟩ |
        ⟨request, checked, full, failed, _⟩
    -- the three ways a request ends: it fails its check, it finds room, or the ids are used up
    · rw [refused]
      exact failed
    · rw [sound.legible.hasRoom_iff sound.current] at room
      simp only [checked, room, if_true]
      exact done
    · rw [sound.legible.hasRoom_iff sound.current] at full
      simp only [checked, full, if_false]
      exact failed

/-- A store is opened on a database of an old version, or on nothing, and no column of texts holds
bytes. Whatever the other columns hold and whatever the store does then, it keeps answering. -/
theorem openStore_stays_serviceable (db : Database) (version : Nat) (mode : OpenMode)
    (old : db.currentVersion = .ok version) (less : version < latestVersion)
    (unbinary : ∀ row ∈ db.rows, ∀ column ∈ Column.texts, (row.cell column).storageClass ≠ .blob)
    (opened : (db.openStore mode).result = .ok ()) (steps : List (Instant × Operation)) :
    ∃ t, (Operation.runAll (db.openStore mode).database steps).2.Serviceable t := by
  obtain ⟨t, fit⟩ := upgradable_of_update old less opened
  have updated : (db.openStore mode).database = db.upgraded t := (update_upgradable old less t fit).2
  have same : db.rows = t.rows := rows_of_oldTable db version t fit.found
  have sound : (db.upgraded t).Sound (rebuiltTable t) := fit.sound <|
    Table.legible_rebuiltTable t fit.complete (fun row member => unbinary row (same ▸ member))
      fit.distinct
  rw [updated]
  obtain ⟨changed, stillSound⟩ := sound.runAll steps
  exact ⟨changed, stillSound.serviceable⟩

/-! A table without types holds numbers in columns of texts, bytes as a stamp and a text as a flag. -/

/-- The only row of the table. -/
def oddRow : Row where
  topic := .integer 7
  userId := .integer 5
  endpoint := .text "https://push.example/a"
  keyAuth := .text "auth"
  keyP256dh := .integer 3
  updatedAt := .blob [1, 2]
  warningSent := .text "2x"
  id := 9

/-- The database that holds the table. -/
def oddDatabase : Database := ofFirstVersion ⟨.untyped, false, [oddRow], 9, none⟩

/-- The database is opened, and after every run every lookup succeeds. -/
theorem odd_stays_serviceable :
    oddDatabase.currentVersion = .ok 1 ∧
      (∀ row ∈ oddDatabase.rows, ∀ column ∈ Column.texts,
        (row.cell column).storageClass ≠ .blob) ∧
      (oddDatabase.openStore .file).result = .ok () ∧
      ∀ steps topic, ∃ found,
        ((Operation.runAll (oddDatabase.openStore .file).database steps).2.lookup topic).result =
          .ok found := by
  have old : oddDatabase.currentVersion = .ok 1 := by decide +kernel
  have unbinary : ∀ row ∈ oddDatabase.rows, ∀ column ∈ Column.texts,
      (row.cell column).storageClass ≠ .blob := by
    decide +kernel
  have opened : (oddDatabase.openStore .file).result = .ok () := by decide +kernel
  refine ⟨old, unbinary, opened, fun steps topic => ?_⟩
  obtain ⟨_, serviceable⟩ := openStore_stays_serviceable oddDatabase 1 .file old (by decide) unbinary
    opened steps
  exact serviceable.lookups topic

end Database
end PushLedger
