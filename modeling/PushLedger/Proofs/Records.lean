import Mathlib.Algebra.GroupWithZero.Nat
import PushLedger.Proofs.Invariants

/-!
# Records and rows

The records of a store keep the books of its rows. A request that was carried out says how many rows
it put in and how many it took out for them, a removal and a sweep say how many they took out, and
what has failed says nothing. So the counts of all records since the store was made add up to the
rows that it holds.

What an operation reports is settled by its result, on every database. Only the number of rows that
a request has replaced is not part of the result and has to be followed through the table.
-/

namespace PushLedger

namespace Event

/-- The kind of a record, with which its text begins. -/
def kind : Event → String
  | openStarted _ => "db_open"
  | openFailed _ _ _ => "db_open"
  | opened _ => "db_open"
  | migrated _ _ => "schema_migrate"
  | closed => "db_close"
  | upserted _ _ _ => "subscription_upsert"
  | lookedUp _ => "subscription_lookup"
  | removedByEndpoint _ _ => "subscription_remove"
  | removedByOwner _ => "subscription_remove"
  | sweepMisconfigured _ _ => "expiry_sweep"
  | swept _ _ _ => "expiry_sweep"
  | loggingStarted _ _ => "logging_init"

/-- The part of the ledger that a record names as its source. -/
def source : Event → String
  | openStarted _ => "db"
  | openFailed _ _ _ => "db"
  | opened _ => "db"
  | migrated _ _ => "db"
  | closed => "store"
  | upserted _ _ _ => "repo"
  | lookedUp _ => "repo"
  | removedByEndpoint _ _ => "repo"
  | removedByOwner _ => "repo"
  | sweepMisconfigured _ _ => "sweep"
  | swept _ _ _ => "sweep"
  | loggingStarted _ _ => "logging"

/-- The status that a record states. -/
def status : Event → String
  | openStarted _ => "start"
  | openFailed _ _ _ => "error"
  | sweepMisconfigured _ _ => "misconfigured"
  | _ => "ok"

/-- What a text begins with, it still begins with when more follows. -/
theorem begins_append (head text more : String) (begins : ∃ rest, text = head ++ rest) :
    ∃ rest, text ++ more = head ++ rest := by
  obtain ⟨rest, rfl⟩ := begins
  exact ⟨rest ++ more, String.append_assoc⟩

/-- The text of every record begins with its kind, its source and its status. -/
theorem message_head (elapsed : String) (event : Event) : ∃ rest, event.message elapsed =
    "event=" ++ event.kind ++ " module=" ++ event.source ++ " status=" ++ event.status ++ rest := by
  cases event <;> unfold message <;> repeat apply begins_append
  case openStarted mode => exact ⟨" mode=", rfl⟩
  case openFailed mode stage fault => exact ⟨" mode=", rfl⟩
  case opened mode => exact ⟨" mode=", rfl⟩
  case migrated fromVersion toVersion => exact ⟨" ", rfl⟩
  case closed => exact ⟨"", rfl⟩
  case upserted origin replaced topics => exact ⟨" endpoint=", rfl⟩
  case lookedUp found => exact ⟨" matches=", rfl⟩
  case removedByEndpoint origin removed => exact ⟨" by=endpoint endpoint=", rfl⟩
  case removedByOwner removed => exact ⟨" by=user_id removed_rows=", rfl⟩
  case sweepMisconfigured warningMillis expiryMillis => exact ⟨" ", rfl⟩
  case swept expired warned targets => exact ⟨" duration_ms=", rfl⟩
  case loggingStarted level directory => exact ⟨" level=", rfl⟩

/-- The rows that a request has put in. -/
def topics : Event → Nat
  | upserted _ _ topics => topics
  | _ => 0

/-- The rows that a request has taken out for those that it put in. -/
def replacedRows : Event → Nat
  | upserted _ replaced _ => replaced
  | _ => 0

/-- The rows that a removal has taken out. -/
def removedRows : Event → Nat
  | removedByEndpoint _ removed => removed
  | removedByOwner removed => removed
  | _ => 0

/-- The rows that a sweep has taken out. -/
def expiredRows : Event → Nat
  | swept expired _ _ => expired
  | _ => 0

/-- The sum of a count over the records of a kind that say that something went well. -/
def total (kind : String) (count : Event → Nat) (events : List Event) : Nat :=
  ((events.filter fun event => event.kind = kind && event.status = "ok").map count).sum

/-- The totals of two lists of records add up. -/
theorem total_append (kind : String) (count : Event → Nat) (first second : List Event) :
    total kind count (first ++ second) = total kind count first + total kind count second := by
  simp only [total, List.filter_append, List.map_append, List.sum_append]

/-- The rows that there must be according to the records. -/
def balance (events : List Event) : Int :=
  total "subscription_upsert" topics events - total "subscription_upsert" replacedRows events -
    total "subscription_remove" removedRows events - total "expiry_sweep" expiredRows events

/-- The balance of the records of two spans of time is the sum of both. -/
theorem balance_append (first second : List Event) :
    balance (first ++ second) = balance first + balance second := by
  simp only [balance, total_append]
  omega

/-- A request moves as many rows as it put in and did not replace. -/
theorem balance_upserted (origin : String) (replaced topics : Nat) :
    balance [.upserted origin replaced topics] = topics - replaced := by
  simp [balance, total, kind, status, Event.topics, replacedRows]

/-- A removal by endpoint moves the rows that it removed. -/
theorem balance_removedByEndpoint (origin : String) (removed : Nat) :
    balance [.removedByEndpoint origin removed] = -removed := by
  simp [balance, total, kind, status, removedRows]

/-- A removal by owner moves the rows that it removed. -/
theorem balance_removedByOwner (removed : Nat) : balance [.removedByOwner removed] = -removed := by
  simp [balance, total, kind, status, removedRows]

/-- A sweep moves the rows that had expired. -/
theorem balance_swept (expired warned targets : Nat) :
    balance [.swept expired warned targets] = -expired := by
  simp [balance, total, kind, status, expiredRows]

/-- A warning about spans moves no rows. -/
theorem balance_misconfiguration (warning expiry : Span) :
    balance (Database.misconfiguration warning expiry) = 0 := by
  unfold Database.misconfiguration
  split <;> rfl

end Event

/-- What a change reports follows from its result: after a fault there is nothing to report. -/
theorem Outcome.transact_events {α : Type} (db : Database)
    (change : Except StorageFault (Database × α)) (events : α → List Event) :
    (transact db change events).events =
      (transact db change events).result.toOption.elim [] events := by
  cases change <;> rfl

/-- What a reading reports follows from its result. -/
theorem Outcome.read_events {α : Type} (db : Database) (result : Except LedgerFault α)
    (events : α → List Event) :
    (read db result events).events = result.toOption.elim [] events := by
  cases result <;> rfl

namespace Database

variable (db : Database)

/-- A lookup that succeeds reports how much it found. -/
theorem lookup_events (topic : String) : (db.lookup topic).events =
    (db.lookup topic).result.toOption.elim [] fun found => [.lookedUp found.length] := by
  unfold lookup
  rw [Outcome.read_events, Outcome.read_result]

/-- A removal by endpoint that succeeds reports how many rows it removed. -/
theorem removeEndpoint_events (endpoint : String) : (db.removeEndpoint endpoint).events =
    (db.removeEndpoint endpoint).result.toOption.elim [] fun removed =>
      [.removedByEndpoint (Origin.redact endpoint) removed] :=
  Outcome.transact_events db _ _

/-- A removal by an owner who is blank reports nothing. Any other that succeeds reports how many
rows it removed. -/
theorem removeOwner_events (owner : String) : (db.removeOwner owner).events =
    if Text.isBlank owner then []
    else (db.removeOwner owner).result.toOption.elim []
      fun removed => [.removedByOwner removed] := by
  by_cases blank : Text.isBlank owner = true
  · have none : normalizeOwner (some owner) = none := by
      simp [normalizeOwner, blank]
    simp [removeOwner, none, blank]
  · have named : normalizeOwner (some owner) = some owner := by
      simp [normalizeOwner, blank]
    simp only [removeOwner, named, blank, Bool.false_eq_true, if_false]
    exact Outcome.transact_events db _ _

/-- A sweep warns about its spans, and then, if it succeeds, reports what it did. -/
theorem sweep_events (warning expiry : Span) (now : Instant) :
    (db.sweep warning expiry now).events = misconfiguration warning expiry ++
      (db.sweep warning expiry now).result.toOption.elim [] fun report =>
        [.swept report.expired report.warned report.targets.length] := by
  simp only [sweep, Outcome.after, Outcome.transact_events]

/-- A request that is carried out reports the rows that it put in and some number of replaced ones.
-/
theorem upsert_events (draft : NewSubscription.Draft) (now : Instant) :
    (∃ replaced, (db.upsert draft now).result = .ok () ∧ (db.upsert draft now).events =
      [.upserted (Origin.redact draft.endpoint) replaced (TopicSet.ofList draft.topics).size]) ∨
    (∃ fault, (db.upsert draft now).result = .error fault ∧ (db.upsert draft now).events = []) := by
  cases checked : draft.check with
  | error fault => exact .inr ⟨.validation fault, by simp [upsert, checked]⟩
  | ok request =>
    have asked : request.endpoint = draft.endpoint ∧ request.topics = .ofList draft.topics := by
      unfold NewSubscription.Draft.check at checked
      split at checked
      · cases checked
      · exact (Except.ok.inj checked) ▸ ⟨rfl, rfl⟩
    rw [← asked.1, ← asked.2]
    cases done : db.replaceRows request now with
    | error fault =>
      exact .inr ⟨.storage fault, by simp [upsert, checked, replace, done, Outcome.transact,
        Outcome.map, Except.map]⟩
    | ok changed =>
      exact .inl ⟨changed.2, by simp [upsert, checked, replace, done, Outcome.transact,
        Outcome.map, Except.map]⟩

/-- A request that fails reports nothing. -/
theorem upsert_events_of_error (draft : NewSubscription.Draft) (now : Instant) (fault : LedgerFault)
    (failed : (db.upsert draft now).result = .error fault) : (db.upsert draft now).events = [] := by
  rcases db.upsert_events draft now with ⟨_, done, _⟩ | ⟨_, _, events⟩
  · exact nomatch done.symm.trans failed
  · exact events

/-- A database that is up to date is closed and opened again without a migration. -/
theorem reopenStore_events (db : Database) (latest : db.currentVersion = .ok latestVersion) :
    db.reopenStore.events = [.closed, .openStarted .file, .opened .file] := by
  simp [reopenStore, closeStore, Outcome.after, openStore, reported, update, migrate, latest,
    migrationEvents]

/-- On a table without a guard a request that stands is carried out if there are ids for it, and
then reports the rows of its endpoint that were there before. -/
theorem upsert_checked {db : Database} {t : Table} (kept : db.subscriptions = some t)
    (current : t.Current) (draft : NewSubscription.Draft) (request : NewSubscription)
    (now : Instant) (checked : draft.check = .ok request) :
    (db.upsert draft now).database =
        (if (t.cleared request.endpoint).HasRoom request.topics.size then
          db.withTable (replaced t request now) else db) ∧
      (db.upsert draft now).events =
        if (t.cleared request.endpoint).HasRoom request.topics.size then
          [.upserted (Origin.redact request.endpoint)
            (t.rows.countP fun row => row.endpoint.isText request.endpoint) request.topics.size]
        else [] := by
  have replacement := replaceRows_current db t request now kept current
  split at replacement <;>
    simp [*, upsert, replace, Outcome.transact, Outcome.map]

end Database

namespace Operation

/-- The kinds of the records with which an operation says that it went well. A removal by an owner
who is blank says nothing. -/
def confirmations : Operation → List String
  | upsert _ => ["subscription_upsert"]
  | lookup _ => ["subscription_lookup"]
  | removeEndpoint _ => ["subscription_remove"]
  | removeOwner owner => if Text.isBlank owner then [] else ["subscription_remove"]
  | sweep _ _ => ["expiry_sweep"]
  | reopen => ["db_close", "db_open"]

end Operation

namespace Transition

/-- The kinds of the records of an operation that say that something went well. -/
def confirmed (x : Transition) : List String :=
  (x.outcome.events.filter fun event => event.status = "ok").map Event.kind

/-- What is confirmed of an operation that reports its result and beside it only warnings. -/
theorem confirmed_of_result {α : Type} (x : Transition) (outcome : Outcome α) (answer : α → Answer)
    (made : x.outcome = outcome.map answer) (warnings : List Event) (report : α → Event)
    (kind : String) (unconfirming : ∀ event ∈ warnings, event.status ≠ "ok")
    (confirming : ∀ value, (report value).status = "ok" ∧ (report value).kind = kind)
    (reported : outcome.events = warnings ++
      outcome.result.toOption.elim [] fun value => [report value]) :
    x.confirmed = if x.Succeeds then [kind] else [] := by
  have events : x.outcome.events = outcome.events := congrArg Outcome.events made
  have result : x.outcome.result = outcome.result.map answer := congrArg Outcome.result made
  have silent : (warnings.filter fun event => event.status = "ok") = [] := by
    simpa [List.filter_eq_nil_iff] using unconfirming
  cases done : outcome.result with
  | error fault =>
    have failed : ¬ x.Succeeds := by
      rintro ⟨value, succeeds⟩
      rw [result, done] at succeeds
      exact nomatch succeeds
    simp [confirmed, events, reported, done, failed, silent, Except.toOption]
  | ok value =>
    have succeeds : x.Succeeds := ⟨answer value, by rw [result, done]; rfl⟩
    simp [confirmed, events, reported, done, succeeds, silent, confirming value, Except.toOption]

/-- An operation on a database that is up to date confirms what belongs to it if it succeeds, and
nothing if it fails. -/
theorem confirmed_eq (x : Transition) (t : Table) (serves : x.before.Serves t)
    (latest : x.before.currentVersion = .ok latestVersion) :
    x.confirmed = if x.Succeeds then x.operation.confirmations else [] := by
  obtain ⟨db, now, operation⟩ := x
  cases operation with
  | upsert draft =>
    rcases db.upsert_events draft now with ⟨replaced, done, events⟩ | ⟨fault, failed, events⟩
    · have succeeds : (Transition.mk db now (.upsert draft)).Succeeds :=
        ⟨.done, by simp [outcome, Operation.run, Outcome.map, done, Except.map]⟩
      rw [if_pos succeeds]
      simp [confirmed, outcome, Operation.run, Outcome.map, events, Event.status, Event.kind,
        Operation.confirmations]
    · have fails : ¬ (Transition.mk db now (.upsert draft)).Succeeds := by
        rintro ⟨answer, succeeds⟩
        simp [outcome, Operation.run, Outcome.map, failed, Except.map] at succeeds
      rw [if_neg fails]
      simp [confirmed, outcome, Operation.run, Outcome.map, events]
  | lookup topic =>
    exact confirmed_of_result _ (db.lookup topic) .found rfl [] _ _ (by simp) (fun _ => ⟨rfl, rfl⟩)
      (db.lookup_events topic)
  | removeEndpoint endpoint =>
    exact confirmed_of_result _ (db.removeEndpoint endpoint) .removed rfl [] _ _ (by simp)
      (fun _ => ⟨rfl, rfl⟩) (db.removeEndpoint_events endpoint)
  | removeOwner owner =>
    have events := db.removeOwner_events owner
    by_cases blank : Text.isBlank owner = true
    · rw [if_pos blank] at events
      simp [confirmed, outcome, Operation.run, Outcome.map, events, Operation.confirmations, blank]
    · rw [if_neg blank] at events
      have kinds : (Operation.removeOwner owner).confirmations = ["subscription_remove"] :=
        if_neg blank
      rw [kinds]
      exact confirmed_of_result _ (db.removeOwner owner) .removed rfl [] _ _ (by simp)
        (fun _ => ⟨rfl, rfl⟩) events
  | sweep warning expiry =>
    refine confirmed_of_result _ (db.sweep warning expiry now) .swept rfl
      (Database.misconfiguration warning expiry) _ _ ?_ (fun _ => ⟨rfl, rfl⟩)
      (db.sweep_events warning expiry now)
    intro event member
    unfold Database.misconfiguration at member
    split at member
    · rw [List.mem_singleton.mp member]
      simp [Event.status]
    · cases member
  | reopen =>
    obtain ⟨opened, _⟩ := db.openStore_latest .file latest
    have succeeds : (Transition.mk db now .reopen).Succeeds :=
      ⟨.done, congrArg (Except.map fun _ => Answer.done) opened⟩
    have events := db.reopenStore_events latest
    rw [if_pos succeeds]
    simp [confirmed, outcome, Operation.run, Outcome.map, events, Event.status, Event.kind,
      Operation.confirmations]

end Transition

namespace Table

/-- A deletion takes the selected rows out. -/
theorem length_without (t : Table) (selected : Row → Bool) :
    ((t.without selected).rows.length : Int) = t.rows.length - t.rows.countP selected := by
  have parted : t.rows.length =
      t.rows.countP selected + t.rows.countP fun row => !selected row := by
    simpa using List.length_eq_countP_add_countP selected (l := t.rows)
  simp only [without, ← List.countP_eq_length_filter]
  omega

/-- A replacement takes the rows of the endpoint out and puts in one for each topic. -/
theorem length_replaced (t : Table) (request : NewSubscription) (now : Instant)
    (current : t.Current) : ((Database.replaced t request now).rows.length : Int) = t.rows.length -
      (t.rows.countP fun row => row.endpoint.isText request.endpoint) + request.topics.size := by
  have fresh : (Row.numbered (t.cleared request.endpoint).lastId
      (Database.freshContents request now)).length = request.topics.size := by
    have contents := congrArg List.length (Row.contents_numbered
      (t.cleared request.endpoint).lastId (Database.freshContents request now))
    simpa [Database.freshContents, TopicSet.size] using contents
  have left := t.length_without fun row => row.endpoint.isText request.endpoint
  rw [rows_replaced t request now current, List.length_append, fresh]
  simp only [cleared] at left ⊢
  omega

/-- A sweep takes the expired rows out. -/
theorem length_swept (t : Table) (expireBefore warnBefore : Int) :
    ((t.swept expireBefore warnBefore).rows.length : Int) =
      t.rows.length - t.rows.countP (Row.isExpired expireBefore) := by
  rw [← length_without]
  simp [swept, marked]

end Table

namespace Transition

section Lengths

variable (x : Transition) (t : Table) (events : List Event)
  (reported : x.outcome.events = events)

include reported

/-- An operation that changes nothing must report nothing that counts. -/
theorem length_of_unmoved (same : x.after = x.before) (even : Event.balance events = 0) :
    (x.after.rows.length : Int) = x.before.rows.length + Event.balance x.outcome.events := by
  rw [same, reported, even]
  omega

/-- An operation that puts another table in the place of its own must report by how many rows they
differ. -/
theorem length_of_moved (changed : Table) (serves : x.before.Serves t)
    (stored : x.after = x.before.withTable changed)
    (counted : (changed.rows.length : Int) = t.rows.length + Event.balance events) :
    (x.after.rows.length : Int) = x.before.rows.length + Event.balance x.outcome.events := by
  rw [stored, reported, serves.rows_eq]
  exact counted

end Lengths

/-- The rows that an operation leaves are those that it met and the balance of its records. -/
theorem length_after (x : Transition) (t : Table) (serves : x.before.Serves t)
    (latest : x.before.currentVersion = .ok latestVersion) :
    (x.after.rows.length : Int) = x.before.rows.length + Event.balance x.outcome.events := by
  obtain ⟨db, now, operation⟩ := x
  have kept := serves.kept
  have current := serves.current
  cases operation with
  | upsert draft =>
    rcases Database.upsert_current kept current draft now with
      ⟨fault, _, failed, same⟩ | ⟨request, checked, room, _, stored⟩ | ⟨_, _, _, failed, same⟩
    · exact length_of_unmoved _ [] (db.upsert_events_of_error draft now _ failed) same rfl
    · have events := (Database.upsert_checked kept current draft request now checked).2
      rw [if_pos room] at events
      refine length_of_moved _ t _ events _ serves stored ?_
      rw [t.length_replaced request now current, Event.balance_upserted]
      omega
    · exact length_of_unmoved _ [] (db.upsert_events_of_error draft now _ failed) same rfl
  | lookup topic =>
    refine length_of_unmoved _ _ (db.lookup_events topic) (db.lookup_database topic) ?_
    cases (db.lookup topic).result <;> rfl
  | removeEndpoint endpoint =>
    obtain ⟨done, stored⟩ := Database.removeEndpoint_current kept current endpoint
    have events := db.removeEndpoint_events endpoint
    rw [done] at events
    refine length_of_moved _ t _ events _ serves stored ?_
    rw [Table.cleared, t.length_without]
    exact congrArg ((t.rows.length : Int) + ·) (Event.balance_removedByEndpoint _ _).symm
  | removeOwner owner =>
    have events := db.removeOwner_events owner
    rcases Database.removeOwner_current kept current owner with
      ⟨none, done, same⟩ | ⟨named, done, stored⟩
    · have blank : Text.isBlank owner = true := by
        simpa [normalizeOwner] using none
      rw [if_pos blank] at events
      exact length_of_unmoved _ _ events same rfl
    · have filled : ¬ Text.isBlank owner = true := by
        simpa [normalizeOwner] using named
      rw [if_neg filled, done] at events
      refine length_of_moved _ t _ events _ serves stored ?_
      rw [t.length_without]
      exact congrArg ((t.rows.length : Int) + ·) (Event.balance_removedByOwner _).symm
  | sweep warning expiry =>
    have events := db.sweep_events warning expiry now
    have warned := Event.balance_misconfiguration warning expiry
    rcases Database.sweep_current kept current warning expiry now with
      ⟨targets, _, done, stored⟩ | ⟨fault, failed, same, _⟩
    · rw [done] at events
      refine length_of_moved _ t _ events _ serves stored ?_
      rw [t.length_swept, Event.balance_append, warned, Int.zero_add]
      exact congrArg ((t.rows.length : Int) + ·) (Event.balance_swept _ _ _).symm
    · rw [failed] at events
      refine length_of_unmoved _ _ events same ?_
      rw [Event.balance_append, warned]
      rfl
  | reopen =>
    obtain ⟨_, same⟩ := db.openStore_latest .file latest
    exact length_of_unmoved _ _ (db.reopenStore_events latest) same rfl

end Transition

namespace Operation

/-- The rows that a run leaves are those that it started with and the balance of all its records. -/
theorem length_runAll (db : Database) (t : Table) (serves : db.Serves t)
    (latest : db.currentVersion = .ok latestVersion) (steps : List (Instant × Operation)) :
    ((runAll db steps).2.rows.length : Int) =
      db.rows.length + Event.balance ((runAll db steps).1.flatMap Outcome.events) := by
  induction steps generalizing db t with
  | nil => exact (Int.add_zero _).symm
  | cons step rest inductionHypothesis =>
    obtain ⟨now, operation⟩ := step
    obtain ⟨changed, stillServes, _⟩ := (Transition.mk db now operation).changes t serves
    have stillLatest :=
      ((Transition.mk db now operation).currentVersion_after t serves).trans latest
    have stepped := (Transition.mk db now operation).length_after t serves latest
    have later :=
      inductionHypothesis (operation.run db now).database changed stillServes stillLatest
    simp only [Transition.after, Transition.outcome] at stepped
    simp only [runAll, List.flatMap_cons, Event.balance_append]
    omega

/-- Every operation of a run confirms what belongs to it if it succeeds, and nothing if it fails. -/
theorem confirmed_transitions (db : Database) (t : Table) (serves : db.Serves t)
    (latest : db.currentVersion = .ok latestVersion)
    (steps : List (Instant × Operation)) (x : Transition) (member : x ∈ transitions db steps) :
    x.confirmed = if x.Succeeds then x.operation.confirmations else [] := by
  induction steps generalizing db t with
  | nil => exact nomatch member
  | cons step rest inductionHypothesis =>
    obtain ⟨now, operation⟩ := step
    rcases List.mem_cons.mp member with rfl | later
    · exact Transition.confirmed_eq _ t serves latest
    · obtain ⟨changed, stillServes, _⟩ := (Transition.mk db now operation).changes t serves
      have stillLatest :=
        ((Transition.mk db now operation).currentVersion_after t serves).trans latest
      exact inductionHypothesis _ changed stillServes stillLatest later

/-- All that a store reports from its opening on, if it is made of nothing. -/
def journal (mode : OpenMode) (steps : List (Instant × Operation)) : List Event :=
  let start := Database.empty.openStore mode
  start.events ++ (runAll start.database steps).1.flatMap Outcome.events

/-- From a store that was made of nothing on, the records add up: the rows that there are after any
run are the topics of all requests that were carried out, without the rows that these replaced, that
the removals removed and that had expired when a sweep came. And every operation confirms what
belongs to it exactly once if it succeeds, and nothing if it fails. What is counted here is what the
log says: the text of every record begins with its kind, its source and its status. -/
theorem records_reconcile (mode : OpenMode) (steps : List (Instant × Operation)) :
    let start := (Database.empty.openStore mode).database
    let events := journal mode steps
    ((runAll start steps).2.rows.length : Int) =
      Event.total "subscription_upsert" Event.topics events -
        Event.total "subscription_upsert" Event.replacedRows events -
        Event.total "subscription_remove" Event.removedRows events -
        Event.total "expiry_sweep" Event.expiredRows events ∧
    (∀ x ∈ transitions start steps,
      x.confirmed = if x.Succeeds then x.operation.confirmations else []) ∧
    ∀ elapsed, ∀ event ∈ events, ∃ rest, event.message elapsed =
      "event=" ++ event.kind ++ " module=" ++ event.source ++ " status=" ++ event.status ++ rest := by
  intro start events
  have serves : start.Serves (Table.empty .epoch true) := Database.serves_fresh
  refine ⟨?_, ?_, fun elapsed event _ => event.message_head elapsed⟩
  · have opening : Event.balance (Database.empty.openStore mode).events = 0 := by
      cases mode <;> decide +kernel
    have none : start.rows.length = 0 := rfl
    have grown := length_runAll start _ serves Database.latest_fresh steps
    calc ((runAll start steps).2.rows.length : Int)
        = Event.balance ((runAll start steps).1.flatMap Outcome.events) := by
          rw [grown, none]
          exact Int.zero_add _
      _ = Event.balance (Database.empty.openStore mode).events +
            Event.balance ((runAll start steps).1.flatMap Outcome.events) := by
          rw [opening, Int.zero_add]
      _ = Event.balance events := (Event.balance_append _ _).symm
  · exact confirmed_transitions start _ serves Database.latest_fresh steps

/-- A store subscribes an endpoint to two topics, refuses a request without an endpoint, subscribes
the endpoint to one topic instead and is asked to remove a blank owner. -/
def exchange : List (Instant × Operation) :=
  let draft (endpoint : String) (topics : List String) : NewSubscription.Draft :=
    ⟨endpoint, topics, some "ann", "auth", "p256dh"⟩
  [(.epoch, .upsert (draft "https://push.example/a" ["news", "mail"])),
    (.epoch, .upsert (draft " " ["news"])),
    (.epoch, .upsert (draft "https://push.example/a" ["news"])), (.epoch, .removeOwner " ")]

/-- Of the three rows that the exchange put in it took two out again, and the refusal and the blank
owner have left no record. -/
theorem records_of_exchange :
    let start := (Database.empty.openStore .file).database
    let events := journal .file exchange
    ((runAll start exchange).2.rows.length : Int) = 3 - 2 - 0 - 0 ∧
    Event.total "subscription_upsert" Event.topics events = 3 ∧
    Event.total "subscription_upsert" Event.replacedRows events = 2 ∧
    (transitions start exchange).map Transition.confirmed =
      [["subscription_upsert"], [], ["subscription_upsert"], []] := by
  intro start events
  have topics : Event.total "subscription_upsert" Event.topics events = 3 := by decide +kernel
  have replaced : Event.total "subscription_upsert" Event.replacedRows events = 2 := by
    decide +kernel
  have removed : Event.total "subscription_remove" Event.removedRows events = 0 := by
    decide +kernel
  have expired : Event.total "expiry_sweep" Event.expiredRows events = 0 := by decide +kernel
  obtain ⟨rows, confirmed, _⟩ := records_reconcile .file exchange
  refine ⟨?_, topics, replaced, ?_⟩
  · rw [rows, topics, replaced, removed, expired]
    rfl
  · rw [List.map_congr_left confirmed]
    decide +kernel

end Operation
end PushLedger
