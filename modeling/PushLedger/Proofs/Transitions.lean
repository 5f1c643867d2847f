import PushLedger.Proofs.Sweeping
import PushLedger.Session.Basic

/-!
# Transitions

A database that serves a table is of no old version, and its table has no guard. Each operation of a
store keeps it so, and does to the table one of four things: nothing, a deletion, the replacement of
an endpoint's rows, or a sweep. What holds along every run is derived from these four. No operation
touches the stamp, so that opening a store, if it succeeds once, succeeds along the whole run.

A run is a chain of transitions, each of which starts from the database that the one before it left.
The operations of all stores of a session that share its database form a chain, in whatever order
their steps come.
-/

namespace PushLedger

/-- The database holds this table, on which there is no guard, and no update is due to it. A stamp
that cannot be read keeps one from being carried out as well. -/
structure Database.Serves (db : Database) (t : Table) : Prop where
  kept : db.subscriptions = some t
  settled : ∀ version < latestVersion, db.currentVersion ≠ .ok version
  current : t.Current

namespace Database

/-- The rows of the subscription table, if there is one. -/
def rows (db : Database) : List Row := (db.subscriptions.map Table.rows).getD []

/-- The rows of a database are those of its table. -/
theorem rows_of_kept (db : Database) (t : Table) (kept : db.subscriptions = some t) :
    db.rows = t.rows := by
  simp [rows, kept]

/-- A database that serves a table has the rows of that table. -/
theorem Serves.rows_eq {db : Database} {t : Table} (serves : db.Serves t) : db.rows = t.rows :=
  rows_of_kept db t serves.kept

/-- The table that a database holds, put in its own place, changes nothing. -/
theorem withTable_of_kept (db : Database) (t : Table) (kept : db.subscriptions = some t) :
    db.withTable t = db := by
  rw [withTable, ← kept]

/-- Another table without a guard in the place of the old one is served as well. -/
theorem Serves.withTable {db : Database} {t changed : Table} (serves : db.Serves t)
    (current : changed.Current) : (db.withTable changed).Serves changed :=
  ⟨rfl, serves.settled, current⟩

end Database

/-- An outcome that only reads leaves the database as it was. -/
theorem Outcome.read_database {α : Type} (db : Database) (result : Except LedgerFault α)
    (events : α → List Event) : (read db result events).database = db := by
  cases result <;> rfl

/-- An outcome that only reads has the result that was read. -/
theorem Outcome.read_result {α : Type} (db : Database) (result : Except LedgerFault α)
    (events : α → List Event) : (read db result events).result = result := by
  cases result <;> rfl

namespace NewSubscription

/-- A draft that stands becomes a request for the same endpoint. -/
theorem endpoint_of_check (draft : Draft) (request : NewSubscription)
    (checked : draft.check = .ok request) : draft.endpoint = request.endpoint := by
  unfold Draft.check at checked
  split at checked
  · exact nomatch checked
  · exact (Except.ok.inj checked) ▸ rfl

end NewSubscription

/-- The rows that are visited are all of them, in whatever order. -/
theorem Table.mem_visited_iff (t : Table) (rows : List Row) (row : Row) :
    row ∈ t.visited rows ↔ row ∈ rows := by
  unfold visited
  split
  · exact List.mem_mergeSort
  · exact Iff.rfl

/-- A lookup succeeds exactly if all rows of its topic are read, and finds these in order. The order
in which they are visited matters only for what is said of a damaged one. -/
theorem Table.lookup_ok_iff (t : Table) (topic : String) (found : List Subscription) :
    t.lookup topic = .ok found ↔ t.layout.flagged = true ∧
      (t.rows.filter fun row => row.topic.isText topic).mapM Row.read = .ok found := by
  cases flagged : t.layout.flagged with
  | false => simp [lookup, flagged]
  | true =>
    cases damage : t.firstDamage? (t.rows.filter fun row => row.topic.isText topic) with
    | none => simp [lookup, flagged, damage]
    | some fault =>
      simp only [lookup, flagged, damage, Bool.not_true, Bool.false_eq_true, if_false,
        reduceCtorEq, true_and, false_iff]
      intro read
      obtain ⟨row, visited, damaged⟩ := List.exists_of_findSome?_eq_some damage
      have member := (t.mem_visited_iff _ row).mp visited
      have readable : row.read ∈ found.map Except.ok :=
        map_eq_of_mapM read ▸ List.mem_map_of_mem member
      obtain ⟨s, _, same⟩ := List.mem_map.mp readable
      rw [← same] at damaged
      exact nomatch damaged

namespace Database

/-- A lookup changes nothing, whether its rows are readable or not. -/
theorem lookup_database (db : Database) (topic : String) : (db.lookup topic).database = db :=
  Outcome.read_database db _ _

/-- A lookup finds what it finds in the table. -/
theorem lookup_result (db : Database) (t : Table) (kept : db.subscriptions = some t)
    (topic : String) : (db.lookup topic).result = t.lookup topic := by
  rw [lookup, table_of_kept db t .topic kept none, Outcome.read_result]

section Operations

variable {db : Database} {t : Table} (kept : db.subscriptions = some t) (current : t.Current)

include kept current

/-- A replacement is carried out or refused for want of ids; only then does nothing change. -/
theorem replace_current (request : NewSubscription) (now : Instant) :
    ((t.cleared request.endpoint).HasRoom request.topics.size ∧
      (db.replace request now).result = .ok request.topics.size ∧
      (db.replace request now).database = db.withTable (replaced t request now)) ∨
    (¬ (t.cleared request.endpoint).HasRoom request.topics.size ∧
      (db.replace request now).result = .error (.storage .full) ∧
      (db.replace request now).database = db) := by
  have replacement := replaceRows_current db t request now kept current
  by_cases room : (t.cleared request.endpoint).HasRoom request.topics.size
  · rw [if_pos room] at replacement
    refine .inl ⟨room, ?_⟩
    simp [replace, replacement, Outcome.transact, Outcome.map, Except.map]
  · rw [if_neg room] at replacement
    refine .inr ⟨room, ?_⟩
    simp [replace, replacement, Outcome.transact, Outcome.map, Except.map]

/-- A request to subscribe is refused by its check, carried out, or refused for want of ids. Only
in the second case does the database change. -/
theorem upsert_current (draft : NewSubscription.Draft) (now : Instant) :
    (∃ fault, draft.check = .error fault ∧
      (db.upsert draft now).result = .error (.validation fault) ∧
      (db.upsert draft now).database = db) ∨
    (∃ request, draft.check = .ok request ∧
      (t.cleared request.endpoint).HasRoom request.topics.size ∧
      (db.upsert draft now).result = .ok () ∧
      (db.upsert draft now).database = db.withTable (replaced t request now)) ∨
    (∃ request, draft.check = .ok request ∧
      ¬ (t.cleared request.endpoint).HasRoom request.topics.size ∧
      (db.upsert draft now).result = .error (.storage .full) ∧
      (db.upsert draft now).database = db) := by
  cases checked : draft.check with
  | error fault => exact .inl ⟨fault, rfl, by simp [upsert, checked]⟩
  | ok request =>
    rcases replace_current kept current request now with ⟨room, done, left⟩ | ⟨full, failed, same⟩
    · refine .inr (.inl ⟨request, rfl, room, ?_⟩)
      simp [upsert, checked, Outcome.map, done, left, Except.map]
    · refine .inr (.inr ⟨request, rfl, full, ?_⟩)
      simp [upsert, checked, Outcome.map, failed, same, Except.map]

/-- A removal by endpoint succeeds, deletes the rows of the endpoint and counts them. -/
theorem removeEndpoint_current (endpoint : String) :
    (db.removeEndpoint endpoint).result =
        .ok (t.rows.countP fun row => row.endpoint.isText endpoint) ∧
      (db.removeEndpoint endpoint).database = db.withTable (t.cleared endpoint) := by
  have deleted := Table.delete_unguarded t (fun row => row.endpoint.isText endpoint)
    current.unguarded
  simp [removeEndpoint, deleteRows, writable_of_kept db t .endpoint kept, Row.cell,
    Content.cell, deleted, Outcome.transact, Table.cleared]

/-- A removal by owner succeeds. A blank owner has no rows; any other loses all of its rows. -/
theorem removeOwner_current (owner : String) :
    (normalizeOwner (some owner) = none ∧ (db.removeOwner owner).result = .ok 0 ∧
      (db.removeOwner owner).database = db) ∨
    (normalizeOwner (some owner) = some owner ∧
      (db.removeOwner owner).result = .ok (t.rows.countP fun row => row.userId.isText owner) ∧
      (db.removeOwner owner).database =
        db.withTable (t.without fun row => row.userId.isText owner)) := by
  by_cases blank : Text.isBlank owner
  · have none : normalizeOwner (some owner) = none := by
      simp [normalizeOwner, blank]
    refine .inl ⟨none, ?_⟩
    simp [removeOwner, none]
  · have named : normalizeOwner (some owner) = some owner := by
      simp [normalizeOwner, blank]
    have deleted := Table.delete_unguarded t (fun row => row.userId.isText owner)
      current.unguarded
    refine .inr ⟨named, ?_⟩
    simp [removeOwner, named, deleteRows, writable_of_kept db t .userId kept, Row.cell,
      Content.cell, deleted, Outcome.transact]

/-- A sweep succeeds, with the targets that the rows due spell out, or changes nothing, because they
spell out no targets. -/
theorem sweep_current (warning expiry : Span) (now : Instant) :
    (∃ targets : List PushTarget,
      (t.without (Row.isExpired (now.cutoff expiry))).dueAddresses (now.cutoff warning) =
        targets.map PushTarget.address ∧
      (db.sweep warning expiry now).result =
        .ok (t.sweepReport (now.cutoff expiry) (now.cutoff warning) targets) ∧
      (db.sweep warning expiry now).database =
        db.withTable (t.swept (now.cutoff expiry) (now.cutoff warning))) ∨
    (∃ fault, (db.sweep warning expiry now).result = .error (.storage fault) ∧
      (db.sweep warning expiry now).database = db ∧ ∀ targets : List PushTarget,
        (t.without (Row.isExpired (now.cutoff expiry))).dueAddresses (now.cutoff warning) ≠
          targets.map PushTarget.address) := by
  have flagged : db.flaggedTable .warningSent = .ok t := by
    have present : t.layout.flagged = true := by
      rw [current.epoch]
      rfl
    simp [flaggedTable, writable_of_kept db t .warningSent kept, present]
  cases done : t.sweep (now.cutoff expiry) (now.cutoff warning) with
  | error fault =>
    refine .inr ⟨fault, ?_, ?_, ?_⟩
    · simp [sweep, sweepRows, flagged, done, Outcome.transact, Outcome.after]
    · simp [sweep, sweepRows, flagged, done, Outcome.transact, Outcome.after]
    · intro targets spelled
      have succeeds := (Table.sweep_ok_iff t _ _ current _
        (t.sweepReport (now.cutoff expiry) (now.cutoff warning) targets)).mpr ⟨spelled, rfl, rfl⟩
      rw [done] at succeeds
      cases succeeds
  | ok changed =>
    obtain ⟨after, outcome⟩ := changed
    obtain ⟨spelled, rfl, reported⟩ :=
      (Table.sweep_ok_iff t _ _ current after outcome).mp done
    refine .inl ⟨outcome.targets, spelled, ?_⟩
    rw [reported] at done
    simp [sweep, sweepRows, flagged, done, Outcome.transact, Outcome.after]

end Operations

/-- An update that is not due changes nothing. -/
theorem Serves.update_database {db : Database} {t : Table} (serves : db.Serves t) :
    db.update.database = db := by
  cases read : db.currentVersion with
  | error fault => simp [update, migrate, read]
  | ok version =>
    rcases Nat.lt_or_ge version latestVersion with due | known
    · exact absurd read (serves.settled version due)
    · rcases Nat.eq_or_lt_of_le known with same | later
      · simp [update, migrate, read, ← same]
      · simp [update, migrate, read, later]

/-- A database that is up to date is opened as it is. -/
theorem openStore_latest (db : Database) (mode : OpenMode)
    (latest : db.currentVersion = .ok latestVersion) :
    (db.openStore mode).result = .ok () ∧ (db.openStore mode).database = db := by
  simp [openStore, reported, update, migrate, latest]

/-- The database that a store makes of nothing when it is opened. -/
def fresh : Database := empty.update.database

/-- However a store is opened on nothing, it makes the same database. -/
theorem openStore_empty (mode : OpenMode) : (empty.openStore mode).database = fresh := rfl

/-- A store that was opened on nothing is up to date. -/
theorem latest_fresh : fresh.currentVersion = .ok latestVersion := by decide +kernel

/-- A store that was opened on nothing is served, by a table without rows. -/
theorem serves_fresh : fresh.Serves (Table.empty .epoch true) := by
  have latest : fresh.currentVersion = .ok latestVersion := latest_fresh
  refine ⟨by decide +kernel, fun version less old => ?_, rfl, rfl⟩
  exact Nat.ne_of_gt less (Except.ok.inj (latest.symm.trans old))

end Database

/-- One operation of a run: the database it met and the reading of the clock. -/
structure Transition where
  before : Database
  now : Instant
  operation : Operation

namespace Transition

/-- What the operation left behind. -/
def outcome (x : Transition) : Outcome Answer := x.operation.run x.before x.now

/-- The database that the operation left. -/
def after (x : Transition) : Database := x.outcome.database

/-- The operation succeeded. -/
def Succeeds (x : Transition) : Prop := ∃ answer, x.outcome.result = .ok answer

instance (x : Transition) : Decidable x.Succeeds :=
  match done : x.outcome.result with
  | .ok answer => isTrue ⟨answer, done⟩
  | .error _ => isFalse fun ⟨_, succeeds⟩ => nomatch done.symm.trans succeeds

/-- The operation is a sweep. -/
def IsSweep (x : Transition) : Prop := ∃ warning expiry, x.operation = .sweep warning expiry

/-- The targets that the operation handed out; only a sweep that succeeded has any. -/
def targets (x : Transition) : List PushTarget :=
  match x.outcome.result with
  | .ok (.swept report) => report.targets
  | _ => []

/-- The operation is a request to subscribe the endpoint, and it was carried out. -/
def Renews (x : Transition) (endpoint : String) : Prop :=
  ∃ draft, x.operation = .upsert draft ∧ draft.endpoint = endpoint ∧ x.outcome.result = .ok .done

/-- What a transition can do to a table without a guard, with what it then answers. Nothing may mean
that it only reads, that there was nothing to do, or that it failed. -/
inductive Changes (x : Transition) (t : Table) : Table → Prop where
  | nothing (silent : x.targets = []) : Changes x t t
  | deleted (selected : Row → Bool) (unswept : ¬ x.IsSweep) (silent : x.targets = []) :
      Changes x t (t.without selected)
  | replaced (request : NewSubscription) (unswept : ¬ x.IsSweep) (silent : x.targets = [])
      (renews : x.Renews request.endpoint)
      (room : (t.cleared request.endpoint).HasRoom request.topics.size) :
      Changes x t (Database.replaced t request x.now)
  | swept (warning expiry : Span) (sweeps : x.operation = .sweep warning expiry)
      (spelled : (t.without (Row.isExpired (x.now.cutoff expiry))).dueAddresses
        (x.now.cutoff warning) = x.targets.map PushTarget.address) :
      Changes x t (t.swept (x.now.cutoff expiry) (x.now.cutoff warning))

/-- No change puts a guard on the table or alters its layout. -/
theorem Changes.current {x : Transition} {t changed : Table} (change : x.Changes t changed)
    (current : t.Current) : changed.Current := by
  cases change with
  | nothing => exact current
  | deleted selected => exact Table.current_without t selected current
  | replaced request =>
    exact Table.current_addAll _ _ (Table.current_without t _ current)
  | swept warning expiry =>
    exact Table.current_marked _ _ (Table.current_without t _ current)

/-- An answer that reports no sweep hands out no targets. -/
theorem targets_of_answer {α : Type} (x : Transition) (outcome : Outcome α) (answer : α → Answer)
    (made : x.outcome = outcome.map answer)
    (unswept : ∀ value report, answer value ≠ .swept report) : x.targets = [] := by
  rw [targets, made, Outcome.map]
  cases outcome.result with
  | error fault => rfl
  | ok value =>
    simp only [Except.map]
    split
    · next report reported => exact absurd (Except.ok.inj reported) (unswept value report)
    · rfl

/-- Only a sweep hands out targets. -/
theorem targets_of_not_sweep (x : Transition) (unswept : ¬ x.IsSweep) : x.targets = [] := by
  obtain ⟨db, now, operation⟩ := x
  cases operation with
  | sweep warning expiry => exact absurd ⟨warning, expiry, rfl⟩ unswept
  | upsert draft => exact targets_of_answer _ (db.upsert draft now) _ rfl nofun
  | lookup topic => exact targets_of_answer _ (db.lookup topic) _ rfl nofun
  | removeEndpoint endpoint => exact targets_of_answer _ (db.removeEndpoint endpoint) _ rfl nofun
  | removeOwner owner => exact targets_of_answer _ (db.removeOwner owner) _ rfl nofun
  | reopen => exact targets_of_answer _ db.reopenStore _ rfl nofun

/-- A sweep that succeeds hands out the targets that it reports. -/
theorem targets_of_sweep (db : Database) (now : Instant) (warning expiry : Span)
    (report : SweepOutcome) (done : (db.sweep warning expiry now).result = .ok report) :
    (Transition.mk db now (.sweep warning expiry)).targets = report.targets := by
  simp [targets, outcome, Operation.run, Outcome.map, done, Except.map]

/-- A sweep that fails hands out nothing. -/
theorem targets_of_failed_sweep (db : Database) (now : Instant) (warning expiry : Span)
    (fault : LedgerFault) (failed : (db.sweep warning expiry now).result = .error fault) :
    (Transition.mk db now (.sweep warning expiry)).targets = [] := by
  simp [targets, outcome, Operation.run, Outcome.map, failed, Except.map]

/-- Every transition from a database that serves a table puts another table in the place of that one,
and it changed the table in one of the four ways. -/
theorem moves (x : Transition) (t : Table) (serves : x.before.Serves t) :
    ∃ changed, x.after = x.before.withTable changed ∧ x.Changes t changed := by
  have unchanged (same : x.after = x.before) (silent : x.targets = []) :
      ∃ changed, x.after = x.before.withTable changed ∧ x.Changes t changed :=
    ⟨t, same.trans (x.before.withTable_of_kept t serves.kept).symm, .nothing silent⟩
  have moved {changed : Table} (change : x.Changes t changed)
      (stored : x.after = x.before.withTable changed) :
      ∃ changed, x.after = x.before.withTable changed ∧ x.Changes t changed :=
    ⟨changed, stored, change⟩
  obtain ⟨db, now, operation⟩ := x
  cases operation with
  | upsert draft =>
    have unswept : ¬ (Transition.mk db now (.upsert draft)).IsSweep := nofun
    have silent := targets_of_not_sweep _ unswept
    rcases Database.upsert_current serves.kept serves.current draft now with
      ⟨_, _, _, same⟩ | ⟨request, checked, room, done, stored⟩ | ⟨_, _, _, _, same⟩
    · exact unchanged same silent
    · have answered : (Transition.mk db now (.upsert draft)).outcome.result = .ok .done := by
        simp [outcome, Operation.run, Outcome.map, done, Except.map]
      have named : draft.endpoint = request.endpoint :=
        NewSubscription.endpoint_of_check draft request checked
      exact moved (.replaced request unswept silent ⟨draft, rfl, named, answered⟩ room) stored
    · exact unchanged same silent
  | lookup topic =>
    exact unchanged (Database.lookup_database db topic) (targets_of_not_sweep _ nofun)
  | removeEndpoint endpoint =>
    have unswept : ¬ (Transition.mk db now (.removeEndpoint endpoint)).IsSweep := nofun
    obtain ⟨_, stored⟩ := Database.removeEndpoint_current serves.kept serves.current endpoint
    exact moved (.deleted _ unswept (targets_of_not_sweep _ unswept)) stored
  | removeOwner owner =>
    have unswept : ¬ (Transition.mk db now (.removeOwner owner)).IsSweep := nofun
    have silent := targets_of_not_sweep _ unswept
    rcases Database.removeOwner_current serves.kept serves.current owner with ⟨_, _, same⟩ | ⟨_, _, stored⟩
    · exact unchanged same silent
    · exact moved (.deleted _ unswept silent) stored
  | sweep warning expiry =>
    rcases Database.sweep_current serves.kept serves.current warning expiry now with
      ⟨found, spelled, done, stored⟩ | ⟨_, failed, same, _⟩
    · have announced : (Transition.mk db now (.sweep warning expiry)).targets = found :=
        targets_of_sweep db now warning expiry _ done
      exact moved (.swept warning expiry rfl (announced ▸ spelled)) stored
    · exact unchanged same (targets_of_failed_sweep db now warning expiry _ failed)
  | reopen =>
    exact unchanged serves.update_database (targets_of_not_sweep _ nofun)

/-- Every transition from a database that serves a table leads to one that serves a table, and it
changed the table in one of the four ways. -/
theorem changes (x : Transition) (t : Table) (serves : x.before.Serves t) :
    ∃ changed, x.after.Serves changed ∧ x.Changes t changed := by
  obtain ⟨changed, stored, change⟩ := x.moves t serves
  exact ⟨changed, stored ▸ serves.withTable (change.current serves.current), change⟩

/-- No transition from a database that serves a table touches the stamp. -/
theorem currentVersion_after (x : Transition) (t : Table) (serves : x.before.Serves t) :
    x.after.currentVersion = x.before.currentVersion := by
  obtain ⟨changed, stored, _⟩ := x.moves t serves
  rw [stored]
  rfl

end Transition

/-- Each transition of the list starts from the database that the one before it left, and the first
one from the given database. -/
def Linked (db : Database) : List Transition → Prop
  | [] => True
  | x :: rest => x.before = db ∧ Linked x.after rest

/-- What follows a transition of a linked list is linked from the database that it left. -/
theorem linked_after (db : Database) (first last : List Transition) (x : Transition)
    (linked : Linked db (first ++ x :: last)) : Linked x.after last := by
  induction first generalizing db with
  | nil => exact linked.2
  | cons y rest inductionHypothesis => exact inductionHypothesis y.after linked.2

/-- What holds of the transitions so far and of the table that they have left holds again whenever a
linked list has gone one transition further. -/
theorem linked_induction {P : List Transition → Table → Prop} (past first last : List Transition)
    (y : Transition)
    (preserved : ∀ past, ∀ x ∈ first, ∀ t changed, x.before.Serves t → x.after.Serves changed →
      x.Changes t changed → P past t → P (past ++ [x]) changed)
    (db : Database) (t : Table) (linked : Linked db (first ++ y :: last)) (serves : db.Serves t)
    (holds : P past t) : ∃ met, y.before.Serves met ∧ P (past ++ first) met := by
  induction first generalizing past db t with
  | nil => exact ⟨t, linked.1 ▸ serves, (List.append_nil past).symm ▸ holds⟩
  | cons x rest inductionHypothesis =>
    obtain ⟨rfl, later⟩ := linked
    obtain ⟨changed, stillServes, change⟩ := x.changes t serves
    have stepped : P (past ++ [x]) changed :=
      preserved past x List.mem_cons_self t changed serves stillServes change holds
    obtain ⟨met, meets, stillHolds⟩ := inductionHypothesis (past ++ [x])
      (fun past z member => preserved past z (List.mem_cons_of_mem x member))
      x.after changed later stillServes stepped
    rw [List.append_assoc] at stillHolds
    exact ⟨met, meets, stillHolds⟩

/-- What the changes of the first transitions of a linked list preserve still holds of the table
that the next one meets. -/
theorem linked_invariant {P : Table → Prop} (first last : List Transition) (y : Transition)
    (preserved : ∀ x ∈ first, ∀ t changed, t.Current → x.Changes t changed → P t → P changed)
    (db : Database) (t : Table) (linked : Linked db (first ++ y :: last)) (serves : db.Serves t)
    (holds : P t) : ∃ met, y.before.Serves met ∧ P met :=
  linked_induction (P := fun _ t => P t) [] first last y
    (fun _ x member t changed serves _ => preserved x member t changed serves.current)
    db t linked serves holds

namespace Operation

/-- The transitions of a run. -/
def transitions (db : Database) : List (Instant × Operation) → List Transition
  | [] => []
  | (now, operation) :: rest =>
      let x : Transition := ⟨db, now, operation⟩
      x :: transitions x.after rest

end Operation

/-- In the list one transition comes before another, with these transitions between them. -/
def Between (xs : List Transition) (x : Transition) (middle : List Transition)
    (y : Transition) : Prop :=
  ∃ first last, xs = first ++ x :: middle ++ y :: last

/-- The step belongs to a store or to the clock: no other program acts, and no request is carried
out without its check. -/
def Step.IsOwn : Step → Prop
  | .replace _ => False
  | .interfere _ => False
  | _ => True

namespace Session

/-- What a step of a session does to the database that its stores share. -/
def transition? (s : Session) : Step → Option Transition
  | .operate place operation =>
      match s.store? place with
      | some .shared => some ⟨s.database, s.clock, operation⟩
      | _ => none
  | _ => none

/-- The transitions of the shared database while the session takes its steps. -/
def history (s : Session) : List Step → List Transition
  | [] => []
  | step :: rest => (s.transition? step).toList ++ (s.step step).session.history rest

/-- Opening a store on a database that is up to date puts it in its place, and no more. -/
theorem openShared_of_latest (s : Session) (place : Nat)
    (latest : s.database.currentVersion = .ok latestVersion) :
    (s.step (.openShared place)).session = s.withStore place .shared := by
  simp [Session.step, Session.openShared, Database.openStore, Database.reported, Database.update,
    Database.migrate, latest, Session.shared]

/-- Nothing happens to that database then. -/
theorem history_openShared (s : Session) (place : Nat) (rest : List Step)
    (latest : s.database.currentVersion = .ok latestVersion) :
    s.history (.openShared place :: rest) = (s.withStore place .shared).history rest := by
  rw [history, s.openShared_of_latest place latest]
  rfl

/-- What a session goes through that starts with an operation on the shared database. -/
theorem history_operate (s : Session) (place : Nat) (operation : Operation) (rest : List Step)
    (found : s.store? place = some .shared) :
    s.history (.operate place operation :: rest) = ⟨s.database, s.clock, operation⟩ ::
      ({ s with database := (⟨s.database, s.clock, operation⟩ : Transition).after } :
        Session).history rest := by
  simp [history, transition?, Session.step, Session.operate, found, Session.shared,
    Transition.after, Transition.outcome]

/-- A step that makes a transition answers with the outcome of the transition. -/
theorem step_transition (s : Session) (step : Step) (x : Transition)
    (made : s.transition? step = some x) : s.step step = s.shared x.outcome .answered := by
  cases step <;> simp only [transition?, reduceCtorEq] at made
  case operate place operation =>
    cases found : s.store? place with
    | none =>
      rw [found] at made
      exact nomatch made
    | some connection =>
      rw [found] at made
      cases connection with
      | shared =>
        obtain rfl := Option.some.inj made
        simp only [Session.step, operate, found, Transition.outcome]
      | own database walled => exact nomatch made

/-- Only an operation makes a transition, from the shared database and at the clock of the session. -/
theorem operate_of_transition (s : Session) (step : Step) (x : Transition)
    (made : s.transition? step = some x) :
    ∃ place operation, step = .operate place operation ∧ x = ⟨s.database, s.clock, operation⟩ := by
  cases step <;> simp only [transition?, reduceCtorEq] at made
  case operate place operation =>
    split at made
    · exact ⟨place, operation, rfl, (Option.some.inj made).symm⟩
    · exact nomatch made

/-- A step of a store or of the clock changes the shared database by the transition that it makes,
and not at all if it makes none. Opening a store and bringing the database up to date are among the
latter, because no update is due to it. -/
theorem step_database (s : Session) (t : Table) (step : Step) (serves : s.database.Serves t)
    (own : step.IsOwn) :
    (s.step step).session.database =
      match s.transition? step with
      | some x => x.after
      | none => s.database := by
  cases made : s.transition? step with
  | some x =>
    rw [step_transition s step x made]
    rfl
  | none =>
    cases step with
    | openShared place =>
      have same : (s.database.openStore .file).database = s.database := serves.update_database
      cases opened : (s.database.openStore .file).result <;>
        simp [Session.step, openShared, opened, shared, withStore, withoutStore, same]
    | openOwn place walled =>
      simp only [Session.step, openOwn]
      split <;> rfl
    | close place =>
      simp only [Session.step, close]
      split <;> rfl
    | setClock reading => rfl
    | advanceClock span => rfl
    | operate place operation =>
      simp only [Session.step, operate]
      cases found : s.store? place with
      | none => rfl
      | some connection =>
        cases connection with
        | shared => simp [transition?, found] at made
        | own database walled => rfl
    | replace request => exact own.elim
    | readVersion =>
      simp only [Session.step]
      split <;> rfl
    | update => simp [Session.step, shared, serves.update_database]
    | interfere change => exact own.elim

/-- The history of a session is linked: in whatever order the stores act, each operation meets the
database that the one before it left. -/
theorem linked_history (s : Session) (t : Table) (steps : List Step)
    (serves : s.database.Serves t) (own : ∀ step ∈ steps, step.IsOwn) :
    Linked s.database (s.history steps) := by
  induction steps generalizing s t with
  | nil => trivial
  | cons step rest inductionHypothesis =>
    obtain ⟨stepOwn, restOwn⟩ := List.forall_mem_cons.mp own
    have moved := step_database s t step serves stepOwn
    cases made : s.transition? step with
    | none =>
      simp only [made] at moved
      simpa [history, made, moved] using
        inductionHypothesis (s.step step).session t (moved ▸ serves) restOwn
    | some x =>
      simp only [made] at moved
      have met : x.before = s.database := by
        obtain ⟨_, _, _, rfl⟩ := operate_of_transition s step x made
        rfl
      obtain ⟨changed, stillServes, _⟩ := x.changes t (met ▸ serves)
      have later := inductionHypothesis (s.step step).session changed (moved ▸ stillServes) restOwn
      rw [moved] at later
      simpa [history, made, Linked] using ⟨met, later⟩

end Session

end PushLedger
