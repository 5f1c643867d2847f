import PushLedger.Ledger.Operations
import PushLedger.Ledger.Sweep
import PushLedger.Proofs.Statements

/-!
# All or nothing

The ledger computes a change as a new database or a fault. The storage works otherwise: each
statement of a change writes in place, and when a later one fails, the earlier ones have written
already. Here the changes are said once more as procedures that write in place, one statement after
another, within a transaction that puts the database back if its body fails. Of the storage only
this is taken for granted, and that a single statement that fails has not written.

The procedures leave exactly what the ledger computes, on every database: with or without a table,
with guards on it, with cells that no ledger would write, and with no ids left. So whatever fails,
and however far it came, the whole database is as it was.
-/

namespace PushLedger

/-- Statements that write to a database in place. What was written before a fault stays written. -/
abbrev Procedure (α : Type) := ExceptT LedgerFault (StateM Database) α

namespace Procedure

variable {α β : Type}

/-- The result of a procedure and the database that it leaves, also when it fails. -/
def apply (p : Procedure α) (db : Database) : Except LedgerFault α × Database :=
  StateT.run (ExceptT.run p) db

/-- A single statement. If it fails, it has not written. -/
def statement (change : Database → Except StorageFault (Database × α)) : Procedure α :=
  ExceptT.mk fun db =>
    match change db with
    | .ok (changed, value) => (.ok value, changed)
    | .error fault => (.error (.storage fault), db)

/-- A body within a transaction. If the body fails, the database is put back as it was before. -/
def transaction (body : Procedure α) : Procedure α :=
  ExceptT.mk fun db =>
    match body.apply db with
    | (.ok value, changed) => (.ok value, changed)
    | (.error fault, _) => (.error fault, db)

/-- A single statement leaves what its change says, and what it met if it fails. -/
theorem apply_statement (change : Database → Except StorageFault (Database × α))
    (db : Database) : (statement change).apply db =
      match change db with
      | .ok (changed, value) => (.ok value, changed)
      | .error fault => (.error (.storage fault), db) := rfl

/-- A transaction leaves what its body leaves, and what it met if the body fails. -/
theorem apply_transaction (body : Procedure α) (db : Database) : (transaction body).apply db =
      match body.apply db with
      | (.ok value, changed) => (.ok value, changed)
      | (.error fault, _) => (.error fault, db) := rfl

/-- The second procedure meets what the first has written, and is not reached after a fault. -/
theorem apply_bind (p : Procedure α) (next : α → Procedure β) (db : Database) :
    (p >>= next).apply db =
      match p.apply db with
      | (.ok value, changed) => (next value).apply changed
      | (.error fault, changed) => (.error fault, changed) := by
  have unfolded : (p >>= next).apply db =
      StateT.run (ExceptT.bindCont next (p.apply db).1) (p.apply db).2 := rfl
  rw [unfolded]
  obtain ⟨result, changed⟩ := p.apply db
  cases result <;> rfl

/-- A value that is made of the result of a procedure changes nothing that it has written. -/
theorem apply_map (f : α → β) (p : Procedure α) (db : Database) :
    (f <$> p).apply db = ((p.apply db).1.map f, (p.apply db).2) := by
  rw [map_eq_pure_bind, apply_bind]
  obtain ⟨result, left⟩ := p.apply db
  cases result <;> rfl

/-- The procedure does what the change says: it succeeds with the same value and the same database,
or it fails with the same fault. What it has written by then is left open. -/
def Computes (p : Procedure α) (db : Database) (change : Except StorageFault (Database × α)) :
    Prop :=
  match change with
  | .ok (changed, value) => p.apply db = (.ok value, changed)
  | .error fault => ∃ left, p.apply db = (.error (.storage fault), left)

/-- A statement does what its change says. -/
theorem statement_computes (change : Database → Except StorageFault (Database × α))
    (db : Database) : (statement change).Computes db (change db) := by
  unfold Computes
  cases changed : change db with
  | error fault => exact ⟨db, by rw [apply_statement, changed]⟩
  | ok pair => simp only [apply_statement, changed]

/-- A procedure that has nothing to do computes what is there. -/
theorem pure_computes (value : α) (db : Database) :
    (pure value : Procedure α).Computes db (.ok (db, value)) := rfl

/-- Procedures in sequence compute changes in sequence. -/
theorem Computes.bind {p : Procedure α} {next : α → Procedure β} {db : Database}
    {change : Except StorageFault (Database × α)}
    {later : Database → α → Except StorageFault (Database × β)} (first : p.Computes db change)
    (second : ∀ changed value, (next value).Computes changed (later changed value)) :
    (p >>= next).Computes db (change >>= fun pair => later pair.1 pair.2) := by
  cases change with
  | error fault =>
    obtain ⟨left, failed⟩ := first
    exact ⟨left, by rw [apply_bind, failed]⟩
  | ok pair =>
    obtain ⟨changed, value⟩ := pair
    have met : p.apply db = (.ok value, changed) := first
    have continued := second changed value
    unfold Computes at continued ⊢
    rw [ok_bind, apply_bind, met]
    exact continued

/-- Within a transaction a procedure leaves what the change says, also when it fails. -/
theorem Computes.transact {p : Procedure α} {db : Database}
    {change : Except StorageFault (Database × α)} (computes : p.Computes db change)
    (events : α → List Event) :
    (transaction p).apply db =
      ((Outcome.transact db change events).result,
        (Outcome.transact db change events).database) := by
  rw [apply_transaction]
  cases change with
  | error fault =>
    obtain ⟨left, failed⟩ := computes
    rw [failed]
    rfl
  | ok pair =>
    have met : p.apply db = (.ok pair.2, pair.1) := computes
    rw [met]
    rfl

/-- A single statement leaves what its change says, also when it fails. -/
theorem statement_transact (change : Database → Except StorageFault (Database × α))
    (db : Database) (events : α → List Event) :
    (statement change).apply db =
      ((Outcome.transact db (change db) events).result,
        (Outcome.transact db (change db) events).database) := by
  rw [apply_statement]
  cases change db <;> rfl

/-- The same statement for one value after another does the same change for one after another. -/
theorem forM_computes (change : β → Database → Except StorageFault (Database × Unit))
    (values : List β) (db : Database) :
    (values.forM fun value => statement (change value)).Computes db
      (values.foldlM (fun db value => return (← change value db).1) db >>= fun changed =>
        .ok (changed, ())) := by
  induction values generalizing db with
  | nil => exact pure_computes () db
  | cons value rest inductionHypothesis =>
    have sequenced := (statement_computes (change value) db).bind
      fun changed _ => inductionHypothesis changed
    simpa [bind_assoc] using sequenced

/-- Reading one address after another reads them all, or fails at the first that cannot be read. -/
theorem mapM_computes (read : β → Except StorageFault α) (values : List β) (db : Database) :
    (values.mapM fun value => statement fun db => return (db, ← read value)).Computes db
      (values.mapM read >>= fun found => .ok (db, found)) := by
  induction values generalizing db with
  | nil => exact pure_computes [] db
  | cons value rest inductionHypothesis =>
    have sequenced := (statement_computes (fun db => return (db, ← read value)) db).bind
      fun changed found => (inductionHypothesis changed).bind
        fun left others => pure_computes (found :: others) left
    simpa [bind_assoc] using sequenced

end Procedure

namespace Database

/-- The statement that deletes what is expired. -/
def deleteExpired (cutoff : Int) (db : Database) : Except StorageFault (Database × Nat) := do
  let t ← db.flaggedTable .warningSent
  let (t, expired) ← t.delete (Row.isExpired cutoff)
  return (db.withTable t, expired)

/-- The statement that selects the distinct addresses of what is due. -/
def selectDue (cutoff : Int) (db : Database) : Except StorageFault (Database × List Address) := do
  let t ← db.flaggedTable .warningSent
  return (db, t.dueAddresses cutoff)

/-- The statement that flags what is due. -/
def flagDue (cutoff : Int) (db : Database) : Except StorageFault (Database × Nat) := do
  let t ← db.flaggedTable .warningSent
  let (t, warned) ← t.flag (Row.isDue cutoff)
  return (db.withTable t, warned)

/-- The statement that inserts, before it is given a row: it must find the columns that it fills. -/
def prepareInsert (db : Database) : Except StorageFault (Database × Unit) := do
  let t ← db.writable .topic
  if !t.layout.flagged then throw (.noTargetColumn Table.name Column.warningSent.name)
  return (db, ())

/-- The statement that inserts one row. -/
def insertRow (content : Content) (db : Database) : Except StorageFault (Database × Unit) := do
  let t ← db.writable .topic
  let (t, _) ← t.insert none content
  return (db.withTable t, ())

/-- The table that was written last is the one that counts. -/
theorem withTable_withTable (db : Database) (first second : Table) :
    (db.withTable first).withTable second = db.withTable second := rfl

/-- A statement finds the table that the one before it has written. -/
theorem writable_withTable (db : Database) (t : Table) (named : Column) :
    (db.withTable t).writable named = .ok t := rfl

/-- A statement on flags finds the table that the one before it has written, if that has flags. -/
theorem flaggedTable_withTable (db : Database) (t : Table) (named : Column)
    (flagged : t.layout.flagged = true) : (db.withTable t).flaggedTable named = .ok t := by
  simp [flaggedTable, writable_withTable, flagged]

/-- A table found for a statement on flags has them. -/
theorem flagged_of_flaggedTable (db : Database) (t : Table) (named : Column)
    (found : db.flaggedTable named = .ok t) : t.layout.flagged = true := by
  obtain ⟨kept, _, checked⟩ := (bind_eq_ok_iff _ _ _).mp found
  by_cases flagged : kept.layout.flagged
  · rw [if_pos flagged] at checked
    exact Except.ok.inj checked ▸ flagged
  · rw [if_neg flagged] at checked
    exact nomatch checked

/-- Inserting rows into the table of a database, one after another, inserts them into the table. -/
theorem foldlM_insertRow (contents : String → Content) (names : List String) (db : Database)
    (t : Table) :
    names.foldlM (fun db topic => return (← insertRow (contents topic) db).1) (db.withTable t) =
      (names.foldlM (fun t topic => return (← t.insert none (contents topic)).1) t >>= fun filled =>
        .ok (db.withTable filled)) := by
  induction names generalizing t with
  | nil => rfl
  | cons topic rest inductionHypothesis =>
    cases inserted : t.insert none (contents topic) with
    | error fault => simp [insertRow, writable_withTable, inserted]
    | ok pair =>
      simpa [insertRow, writable_withTable, withTable_withTable, inserted] using
        inductionHypothesis pair.1

/-- The replacement of rows, statement by statement. -/
theorem replaceRows_eq (db : Database) (request : NewSubscription) (now : Instant) :
    db.replaceRows request now =
      (db.deleteRows .endpoint fun cell => cell.isText request.endpoint) >>= fun deleted =>
        deleted.1.prepareInsert >>= fun prepared =>
          (request.topics.names.foldlM (fun db topic =>
            return (← insertRow (freshContent request now topic) db).1) prepared.1 >>= fun filled =>
              .ok (filled, ())) >>= fun filled => .ok (filled.1, deleted.2) := by
  cases found : db.writable .endpoint with
  | error fault => simp [replaceRows, deleteRows, found]
  | ok t =>
    cases deleted : t.delete fun row => row.endpoint.isText request.endpoint with
    | error fault => simp [replaceRows, deleteRows, found, deleted, Row.cell, Content.cell]
    | ok pair =>
      have filled := foldlM_insertRow (freshContent request now) request.topics.names db pair.1
      simp only [pure_eq_ok] at filled
      by_cases flagged : pair.1.layout.flagged
      · simp [replaceRows, deleteRows, found, deleted, Row.cell, Content.cell, prepareInsert,
          writable_withTable, flagged, filled, insertTopics]
      · simp [replaceRows, deleteRows, found, deleted, Row.cell, Content.cell, prepareInsert,
          writable_withTable, flagged]

/-- A deletion leaves the layout of the table. -/
theorem layout_of_delete (t : Table) (selected : Row → Bool) (pair : Table × Nat)
    (deleted : t.delete selected = .ok pair) : pair.1.layout = t.layout := by
  unfold Table.delete at deleted
  split at deleted
  · exact nomatch deleted
  · exact Except.ok.inj deleted ▸ rfl

/-- The sweep, statement by statement. -/
theorem sweepRows_eq (db : Database) (expireBefore warnBefore : Int) :
    db.sweepRows expireBefore warnBefore =
      db.deleteExpired expireBefore >>= fun deleted =>
        deleted.1.selectDue warnBefore >>= fun selected =>
          (selected.2.mapM Address.read >>= fun targets => .ok (selected.1, targets)) >>=
            fun read => read.1.flagDue warnBefore >>= fun flagged =>
              .ok (flagged.1, ⟨deleted.2, flagged.2, read.2⟩) := by
  cases found : db.flaggedTable .warningSent with
  | error fault => simp [sweepRows, deleteExpired, found]
  | ok t =>
    cases deleted : t.delete (Row.isExpired expireBefore) with
    | error fault => simp [sweepRows, Table.sweep, deleteExpired, found, deleted]
    | ok pair =>
      have flagged : pair.1.layout.flagged = true :=
        layout_of_delete t _ pair deleted ▸ flagged_of_flaggedTable db t _ found
      have again := flaggedTable_withTable db pair.1 .warningSent flagged
      simp [sweepRows, Table.sweep, deleteExpired, found, deleted, selectDue, flagDue, again,
        withTable_withTable]

end Database

namespace Procedure

/-- Replaces the rows of an endpoint in place: deletes the old ones and inserts the fresh ones, one
for each topic. -/
def replaceRows (request : NewSubscription) (now : Instant) : Procedure Nat := do
  let replaced ← statement fun db =>
    db.deleteRows .endpoint fun cell => cell.isText request.endpoint
  statement Database.prepareInsert
  request.topics.names.forM fun topic =>
    statement (Database.insertRow (Database.freshContent request now topic))
  return replaced

/-- Sweeps in place: deletes what is expired, selects what is due and reads it address by address,
and flags what is due. -/
def sweepRows (expireBefore warnBefore : Int) : Procedure SweepOutcome := do
  let expired ← statement (Database.deleteExpired expireBefore)
  let due ← statement (Database.selectDue warnBefore)
  let targets ← due.mapM fun a => statement fun db => return (db, ← a.read)
  let warned ← statement (Database.flagDue warnBefore)
  return { expired, warned, targets }

/-- In place the rows of an endpoint are replaced as the ledger computes it. -/
theorem replaceRows_computes (request : NewSubscription) (now : Instant) (db : Database) :
    (replaceRows request now).Computes db (db.replaceRows request now) := by
  rw [Database.replaceRows_eq]
  exact (statement_computes _ db).bind fun deleted replaced =>
    (statement_computes Database.prepareInsert deleted).bind fun prepared _ =>
      (forM_computes (fun topic => Database.insertRow (Database.freshContent request now topic))
        request.topics.names prepared).bind fun filled _ => pure_computes replaced filled

/-- In place a sweep is carried out as the ledger computes it. -/
theorem sweepRows_computes (expireBefore warnBefore : Int) (db : Database) :
    (sweepRows expireBefore warnBefore).Computes db (db.sweepRows expireBefore warnBefore) := by
  rw [Database.sweepRows_eq]
  exact (statement_computes (Database.deleteExpired expireBefore) db).bind fun deleted expired =>
    (statement_computes (Database.selectDue warnBefore) deleted).bind fun selected due =>
      (mapM_computes Address.read due selected).bind fun read targets =>
        (statement_computes (Database.flagDue warnBefore) read).bind fun flagged warned =>
          pure_computes (SweepOutcome.mk expired warned targets) flagged

/-- A procedure that fails leaves the database that it met. -/
def Restores (p : Procedure α) : Prop :=
  ∀ db fault, (p.apply db).1 = .error fault → (p.apply db).2 = db

/-- A single statement restores, because it has not written if it fails. -/
theorem statement_restores (change : Database → Except StorageFault (Database × α)) :
    (statement change).Restores := by
  intro db fault failed
  rw [apply_statement] at failed ⊢
  cases changed : change db with
  | error cause => rfl
  | ok pair =>
    rw [changed] at failed
    exact nomatch failed

/-- A transaction restores, whatever its body has written. -/
theorem transaction_restores (body : Procedure α) : (transaction body).Restores := by
  intro db fault failed
  rw [apply_transaction] at failed ⊢
  rcases met : body.apply db with ⟨result, left⟩
  rw [met] at failed
  cases result with
  | error cause => rfl
  | ok value => exact nomatch failed

/-- A value that is made of the result does not keep a procedure from restoring. -/
theorem map_restores (f : α → β) (p : Procedure α) (restores : p.Restores) :
    (f <$> p).Restores := by
  intro db fault failed
  rw [apply_map] at failed ⊢
  cases met : (p.apply db).1 with
  | error cause => exact restores db cause met
  | ok value =>
    rw [met] at failed
    exact nomatch failed

end Procedure

/-- What changes a database, by the type of its result. A replacement is a request without its
check. -/
inductive Mutation : Type → Type
  | upsert (draft : NewSubscription.Draft) : Mutation Unit
  | replace (request : NewSubscription) : Mutation Nat
  | removeEndpoint (endpoint : String) : Mutation Nat
  | removeOwner (owner : String) : Mutation Nat
  | sweep (warning expiry : Span) : Mutation SweepOutcome

namespace Mutation

variable {α : Type}

/-- What the ledger computes. -/
def outcome (db : Database) (now : Instant) : Mutation α → Outcome α
  | .upsert draft => db.upsert draft now
  | .replace request => db.replace request now
  | .removeEndpoint endpoint => db.removeEndpoint endpoint
  | .removeOwner owner => db.removeOwner owner
  | .sweep warning expiry => db.sweep warning expiry now

/-- What the storage carries out in place. A removal is one statement and needs no transaction. -/
def procedure (now : Instant) : Mutation α → Procedure α
  | .upsert draft =>
      match draft.check with
      | .error fault => throw (.validation fault)
      | .ok request => (fun _ => ()) <$> Procedure.transaction (.replaceRows request now)
  | .replace request =>
      (fun _ => request.topics.size) <$> Procedure.transaction (.replaceRows request now)
  | .removeEndpoint endpoint =>
      .statement fun db => db.deleteRows .endpoint fun cell => cell.isText endpoint
  | .removeOwner owner =>
      match normalizeOwner (some owner) with
      | none => pure 0
      | some owner => .statement fun db => db.deleteRows .userId fun cell => cell.isText owner
  | .sweep warning expiry =>
      .transaction (.sweepRows (now.cutoff expiry) (now.cutoff warning))

/-- The storage leaves what the ledger computes, result and database. -/
theorem apply_procedure (mutation : Mutation α) (db : Database) (now : Instant) :
    (mutation.procedure now).apply db =
      ((mutation.outcome db now).result, (mutation.outcome db now).database) := by
  cases mutation with
  | upsert draft =>
    cases checked : draft.check with
    | error fault =>
      simp only [procedure, outcome, Database.upsert, checked]
      rfl
    | ok request =>
      have replaced := (Procedure.replaceRows_computes request now db).transact fun replaced =>
        [.upserted (Origin.redact request.endpoint) replaced request.topics.size]
      simp only [procedure, outcome, Database.upsert, checked, Database.replace,
        Procedure.apply_map, replaced]
      cases db.replaceRows request now <;> rfl
  | replace request =>
    have replaced := (Procedure.replaceRows_computes request now db).transact fun replaced =>
      [.upserted (Origin.redact request.endpoint) replaced request.topics.size]
    simp only [procedure, outcome, Database.replace, Procedure.apply_map, replaced]
    rfl
  | removeEndpoint endpoint => exact Procedure.statement_transact _ db _
  | removeOwner owner =>
    cases named : normalizeOwner (some owner) with
    | none =>
      simp only [procedure, outcome, Database.removeOwner, named]
      rfl
    | some owner =>
      simp only [procedure, outcome, Database.removeOwner, named]
      exact Procedure.statement_transact _ db _
  | sweep warning expiry =>
    exact (Procedure.sweepRows_computes (now.cutoff expiry) (now.cutoff warning) db).transact
      fun outcome => [.swept outcome.expired outcome.warned outcome.targets.length]

/-- Every mutation restores. -/
theorem procedure_restores (mutation : Mutation α) (now : Instant) :
    (mutation.procedure now).Restores := by
  cases mutation with
  | upsert draft =>
    cases checked : draft.check with
    | error fault =>
      simp only [procedure, checked]
      exact fun _ _ _ => rfl
    | ok request =>
      simp only [procedure, checked]
      exact Procedure.map_restores _ _ (Procedure.transaction_restores _)
  | replace request => exact Procedure.map_restores _ _ (Procedure.transaction_restores _)
  | removeEndpoint endpoint => exact Procedure.statement_restores _
  | removeOwner owner =>
    cases named : normalizeOwner (some owner) with
    | none =>
      simp only [procedure, named]
      exact fun _ _ _ => rfl
    | some owner =>
      simp only [procedure, named]
      exact Procedure.statement_restores _
  | sweep warning expiry => exact Procedure.transaction_restores _

/-- A mutation that fails has changed nothing. -/
theorem all_or_nothing (mutation : Mutation α) (db : Database) (now : Instant) :
    (mutation.procedure now).apply db =
        ((mutation.outcome db now).result, (mutation.outcome db now).database) ∧
      ∀ fault, (mutation.outcome db now).result = .error fault →
        (mutation.outcome db now).database = db := by
  have carried := apply_procedure mutation db now
  refine ⟨carried, ?_⟩
  intro fault failed
  have restored := procedure_restores mutation now db fault (by rw [carried]; exact failed)
  rw [carried] at restored
  exact restored

/-! A guard refuses a topic after another one has been inserted, and after the row of the endpoint
has been deleted. -/

/-- The request of two topics, the second of which is refused. -/
def refusedDraft : NewSubscription.Draft :=
  ⟨"https://push.example/a", ["mail", "news"], some "ann", "auth", "p256dh"⟩

/-- The table with a row of the endpoint and a guard on the second topic. -/
def guardedTable : Table where
  layout := .epoch
  indexed := true
  rows := [{ Database.freshContent refusedDraft.unchecked .epoch "old" with id := 1 }]
  counter := 1
  guard := some ⟨.insert, some "news", some "no news"⟩

/-- The database that holds the table. -/
def guarded : Database := Database.empty.withTable guardedTable

/-- The request is refused and the database is as it was, although the body of its transaction alone
would have left another one. -/
theorem refused_upsert_changes_nothing :
    (outcome guarded .epoch (.upsert refusedDraft)).result =
        .error (.storage (.refused "no news")) ∧
      (outcome guarded .epoch (.upsert refusedDraft)).database = guarded ∧
      ((Procedure.replaceRows refusedDraft.unchecked .epoch).apply guarded).2 ≠ guarded := by
  have refused : (outcome guarded .epoch (.upsert refusedDraft)).result =
      .error (.storage (.refused "no news")) := by
    decide +kernel
  have restored := (all_or_nothing (.upsert refusedDraft) guarded .epoch).2 _ refused
  exact ⟨refused, restored, by decide +kernel⟩

end Mutation
end PushLedger
