import PushLedger.Proofs.Coverage

/-!
# The store refines the roster

Along every run from an empty store that does not run out of ids, the rows of the table cover the
roster, and the answers are those of the roster. One operation keeps the two in step, whatever the
clock says, and so a run does.
-/

namespace PushLedger

/-- An outcome is that of an operation on the roster: it answers the same, and the rows that it
leaves cover the roster that the operation leaves. -/
structure Outcome.Refines (outcome : Outcome Answer)
    (expected : Except LedgerFault Reply × Roster) : Prop where
  answers : outcome.result.map Answer.reply = expected.1
  covers : ∃ t, outcome.database.Serves t ∧ Roster.Covers expected.2 t.rows

namespace Roster

section Operations

variable {db : Database} {t : Table} {m : Roster}

/-- The rows without those of an endpoint cover the roster without its entry. -/
theorem cleared_covers (covers : Covers m t.rows) (endpoint : String) :
    Covers (m.erase endpoint) (t.cleared endpoint).rows := by
  rw [erase_eq_filter]
  exact covers.reject (.ofEndpoint endpoint)

/-- The fresh rows of a request spell out the listings of the entry that it makes. -/
theorem fresh_spelled (request : NewSubscription) (now : Instant) (entry : Entry)
    (made : entryOf request now = some entry) (last : Int) :
    List.Forall₂ Row.Spells (Row.numbered last (Database.freshContents request now))
      (entry.listings request.endpoint) := by
  have contents : (Row.numbered last (Database.freshContents request now)).map Row.toContent =
      (entry.listings request.endpoint).map Listing.content := by
    unfold entryOf at made
    split at made
    · exact nomatch made
    · obtain rfl := Option.some.inj made
      rw [Row.contents_numbered, Database.freshContents, Entry.listings, List.map_map]
      rfl
  rw [← List.forall₂_eq_eq_eq, List.forall₂_map_left_iff, List.forall₂_map_right_iff] at contents
  exact contents

/-- The rows in which a request has replaced those of its endpoint cover the roster in which it has
replaced the entry. -/
theorem replaced_covers (current : t.Current) (covers : Covers m t.rows)
    (request : NewSubscription) (now : Instant) :
    Covers (m.replace request now) (Database.replaced t request now).rows := by
  have cleared : Covers (m.erase request.endpoint) (t.cleared request.endpoint).rows :=
    cleared_covers covers request.endpoint
  rw [Table.rows_replaced t request now current, replace]
  cases made : entryOf request now with
  | none =>
    have unnamed : request.topics.names = [] := by
      by_contra named
      simp [entryOf, named] at made
    simpa [Database.freshContents, unnamed, Row.numbered] using cleared
  | some entry =>
    exact covers_insert m request.endpoint entry _ _ cleared
      (fresh_spelled request now entry made _)

/-- An operation that succeeds refines one that replies the same and leaves a roster that its rows
cover. -/
theorem refines_of_ok {α : Type} (outcome : Outcome α) (answer : α → Answer) (value : α)
    (done : outcome.result = .ok value) (stillServes : outcome.database.Serves t)
    (stillCovers : Covers m t.rows) :
    (outcome.map answer).Refines (.ok (answer value).reply, m) := by
  refine ⟨?_, t, stillServes, stillCovers⟩
  simp [Outcome.map, done, Except.map]

variable (serves : db.Serves t) (covers : Covers m t.rows)

include serves covers

/-- A request to subscribe replaces the entry, unless its check refuses it. -/
theorem upsert_refines (draft : NewSubscription.Draft) (now : Instant)
    (unexhausted : ((Operation.upsert draft).run db now).result ≠ .error (.storage .full)) :
    ((Operation.upsert draft).run db now).Refines (m.run now (.upsert draft)) := by
  rcases Database.upsert_current serves.kept serves.current draft now with
    ⟨fault, refused, failed, same⟩ | ⟨request, checked, _, done, stored⟩ | ⟨_, _, _, failed, _⟩
  · have expected : m.run now (.upsert draft) = (.error (.validation fault), m) := by
      simp only [run, refused]
    rw [expected]
    refine ⟨?_, t, ?_, covers⟩
    · simp [Operation.run, Outcome.map, failed, Except.map]
    · change (db.upsert draft now).database.Serves t
      rw [same]
      exact serves
  · have expected : m.run now (.upsert draft) =
        (.ok Answer.done.reply, m.replace request now) := by
      simp only [run, checked, Answer.reply]
    have current : (Database.replaced t request now).Current :=
      Table.current_addAll _ _ (Table.current_without t _ serves.current)
    rw [expected]
    exact refines_of_ok (db.upsert draft now) _ () done (stored ▸ serves.withTable current)
      (replaced_covers serves.current covers request now)
  · exact absurd (by simp [Operation.run, Outcome.map, failed, Except.map]) unexhausted

/-- A lookup finds one listing for each entry that has the topic. -/
theorem lookup_refines (topic : String) (now : Instant) :
    ((Operation.lookup topic).run db now).Refines (m.run now (.lookup topic)) := by
  obtain ⟨subscriptions, found, same⟩ := lookup_covers covers serves.current topic
  have done : (db.lookup topic).result = .ok subscriptions :=
    (Database.lookup_result db t serves.kept topic).trans found
  have expected : m.run now (.lookup topic) = (.ok (Answer.found subscriptions).reply, m) := by
    rw [run, Answer.reply, Multiset.coe_eq_coe.mpr same]
  have stillServes : (db.lookup topic).database.Serves t := by
    rw [Database.lookup_database]
    exact serves
  rw [expected]
  exact refines_of_ok (db.lookup topic) _ subscriptions done stillServes covers

/-- A removal by endpoint deletes its entry and counts the topics. -/
theorem removeEndpoint_refines (endpoint : String) (now : Instant) :
    ((Operation.removeEndpoint endpoint).run db now).Refines
      (m.run now (.removeEndpoint endpoint)) := by
  obtain ⟨done, stored⟩ := Database.removeEndpoint_current serves.kept serves.current endpoint
  have counted : t.rows.countP (fun row => row.endpoint.isText endpoint) =
      (m[endpoint]?.map fun entry => entry.topics.size).getD 0 :=
    (covers.countP_eq (.ofEndpoint endpoint)).trans (volume_of_endpoint m endpoint)
  have current : (t.cleared endpoint).Current := Table.current_without t _ serves.current
  rw [run, ← counted]
  exact refines_of_ok (db.removeEndpoint endpoint) _ _ done (stored ▸ serves.withTable current)
    (cleared_covers covers endpoint)

/-- A removal by owner deletes the entries of the owner and counts their topics. -/
theorem removeOwner_refines (owner : String) (now : Instant) :
    ((Operation.removeOwner owner).run db now).Refines (m.run now (.removeOwner owner)) := by
  rcases Database.removeOwner_current serves.kept serves.current owner with
    ⟨blank, done, same⟩ | ⟨named, done, stored⟩
  · have expected : m.run now (.removeOwner owner) = (.ok (Answer.removed 0).reply, m) := by
      simp only [run, blank, Answer.reply]
    have stillServes : (db.removeOwner owner).database.Serves t := by
      rw [same]
      exact serves
    rw [expected]
    exact refines_of_ok (db.removeOwner owner) _ 0 done stillServes covers
  · have counted : t.rows.countP (fun row => row.userId.isText owner) =
        volume (m.filter fun _ entry => entry.userId == some owner) :=
      covers.countP_eq (.ofOwner owner)
    have expected : m.run now (.removeOwner owner) =
        (.ok (Answer.removed (t.rows.countP fun row => row.userId.isText owner)).reply,
          m.filter fun _ entry => !(entry.userId == some owner)) := by
      simp only [run, named, Answer.reply, counted]
    have current : (t.without fun row => row.userId.isText owner).Current :=
      Table.current_without t _ serves.current
    have left : Covers (m.filter fun _ entry => !(entry.userId == some owner))
        (t.without fun row => row.userId.isText owner).rows := covers.reject (.ofOwner owner)
    rw [expected]
    exact refines_of_ok (db.removeOwner owner) _ _ done (stored ▸ serves.withTable current) left

/-- A sweep deletes the entries that expired, warns those that are due and names their targets. -/
theorem sweep_refines (warning expiry : Span) (now : Instant) :
    ((Operation.sweep warning expiry).run db now).Refines
      (m.run now (.sweep warning expiry)) := by
  rcases Database.sweep_current serves.kept serves.current warning expiry now with
    ⟨targets, spelled, done, stored⟩ | ⟨_, _, _, unspelled⟩
  · have expired : t.rows.countP (Row.isExpired (now.cutoff expiry)) =
        volume (m.filter fun _ entry => entry.isExpired (now.cutoff expiry)) :=
      covers.countP_eq (.expired (now.cutoff expiry))
    have due := dueRows_covers covers (now.cutoff expiry) (now.cutoff warning)
    have report : t.sweepReport (now.cutoff expiry) (now.cutoff warning) targets =
        m.sweepReport (now.cutoff expiry) (now.cutoff warning) := by
      simp only [Table.sweepReport, sweepReport, expired, due.length_eq,
        targets_covers covers _ _ targets spelled]
    have current : (t.swept (now.cutoff expiry) (now.cutoff warning)).Current :=
      Table.current_marked _ _ (Table.current_without t _ serves.current)
    have left : Covers (m.swept (now.cutoff expiry) (now.cutoff warning))
        (t.swept (now.cutoff expiry) (now.cutoff warning)).rows :=
      (covers.reject (.expired (now.cutoff expiry))).map_swept (now.cutoff warning)
    rw [run, ← report]
    exact refines_of_ok (db.sweep warning expiry now) _ _ done (stored ▸ serves.withTable current)
      left
  · obtain ⟨targets, spelled⟩ :=
      dueAddresses_spelled covers (now.cutoff expiry) (now.cutoff warning)
    exact absurd spelled (unspelled targets)

/-- A store that is closed and opened again has lost nothing. -/
theorem reopen_refines (latest : db.currentVersion = .ok latestVersion) (now : Instant) :
    (Operation.reopen.run db now).Refines (m.run now .reopen) := by
  obtain ⟨done, same⟩ := db.openStore_latest .file latest
  have stillServes : db.reopenStore.database.Serves t := same.symm ▸ serves
  exact refines_of_ok db.reopenStore _ () done stillServes covers

/-- Every operation that does not run out of ids is that of the roster. -/
theorem run_refines (latest : db.currentVersion = .ok latestVersion) (operation : Operation)
    (now : Instant) (unexhausted : (operation.run db now).result ≠ .error (.storage .full)) :
    (operation.run db now).Refines (m.run now operation) := by
  cases operation with
  | upsert draft => exact upsert_refines serves covers draft now unexhausted
  | lookup topic => exact lookup_refines serves covers topic now
  | removeEndpoint endpoint => exact removeEndpoint_refines serves covers endpoint now
  | removeOwner owner => exact removeOwner_refines serves covers owner now
  | sweep warning expiry => exact sweep_refines serves covers warning expiry now
  | reopen => exact reopen_refines serves covers latest now

/-- Every run that does not run out of ids is that of the roster. -/
theorem runAll_refines (latest : db.currentVersion = .ok latestVersion)
    (steps : List (Instant × Operation))
    (unexhausted : ∀ outcome ∈ (Operation.runAll db steps).1,
      outcome.result ≠ .error (.storage .full)) :
    (Operation.runAll db steps).1.map (fun outcome => outcome.result.map Answer.reply) =
        (m.runAll steps).1 ∧
      ∃ final, (Operation.runAll db steps).2.Serves final ∧
        Covers (m.runAll steps).2 final.rows := by
  induction steps generalizing db t m with
  | nil => exact ⟨rfl, t, serves, covers⟩
  | cons step rest inductionHypothesis =>
    obtain ⟨now, operation⟩ := step
    simp only [Operation.runAll, List.forall_mem_cons] at unexhausted
    obtain ⟨answers, after, stillServes, stillCovers⟩ :=
      run_refines serves covers latest operation now unexhausted.1
    have stillLatest : (operation.run db now).database.currentVersion = .ok latestVersion :=
      ((Transition.mk db now operation).currentVersion_after t serves).trans latest
    obtain ⟨later, final⟩ :=
      inductionHypothesis stillServes stillCovers stillLatest unexhausted.2
    refine ⟨?_, final⟩
    simp only [Operation.runAll, runAll, List.map_cons, answers, later]

end Operations

end Roster

namespace Operation

/-- A run from an empty store that does not run out of ids answers as the roster does. The rows that
it leaves are, up to their ids and their order, those of the roster; no two of them have the same
topic and endpoint, and the rows of one endpoint agree. -/
theorem runAll_is_roster (mode : OpenMode) (steps : List (Instant × Operation))
    (unexhausted : ∀ outcome ∈ (runAll (Database.empty.openStore mode).database steps).1,
      outcome.result ≠ .error (.storage .full)) :
    (runAll (Database.empty.openStore mode).database steps).1.map
        (fun outcome => outcome.result.map Answer.reply) = (Roster.runAll ∅ steps).1 ∧
      ∃ t, (runAll (Database.empty.openStore mode).database steps).2.subscriptions = some t ∧
        (t.rows.map Row.toContent).Perm
          ((Roster.runAll ∅ steps).2.listings.map Listing.content) ∧
        (t.rows.map fun row => (row.topic, row.endpoint)).Nodup ∧ t.Homogeneous := by
  have start : Roster.Covers ∅ (Table.empty .epoch true).rows :=
    ⟨[], List.Forall₂.nil, List.Perm.of_eq rfl⟩
  rw [Database.openStore_empty] at unexhausted ⊢
  obtain ⟨answers, t, serves, covers⟩ :=
    Roster.runAll_refines Database.serves_fresh start Database.latest_fresh steps unexhausted
  refine ⟨answers, t, serves.kept, covers.contents_perm, covers.rows_unique, ?_⟩
  intro a first b second same
  exact covers.rows_agree a b first second same

/-- A store subscribes an endpoint to two topics, warns it, looks one topic up, is asked to remove a
blank owner, subscribes the endpoint to nothing and then to one topic, and is opened again. -/
def lifetime : List (Instant × Operation) :=
  let draft (topics : List String) : NewSubscription.Draft :=
    ⟨"https://push.example/a", topics, some "ann", "auth", "p256dh"⟩
  [(.epoch, .upsert (draft ["news", "mail"])), (.epoch, .sweep ⟨0⟩ ⟨1000⟩), (.epoch, .lookup "news"),
    (.epoch, .removeOwner " "), (.epoch, .upsert (draft [])), (.epoch, .upsert (draft ["mail"])),
    (.epoch, .reopen)]

/-- A listing of the endpoint. -/
def listed (topic : String) (warned : Bool) : Listing :=
  ⟨topic, some "ann", "https://push.example/a", "auth", "p256dh", 0, warned⟩

/-- The lifetime does not run out of ids, so the roster answers as the store does: one target for the
two rows that are warned, the row of the topic, and no row of a blank owner. In the end it lists what
the store holds, the row of the last request. -/
theorem lifetime_is_roster :
    (∀ outcome ∈ (runAll (Database.empty.openStore .file).database lifetime).1,
      outcome.result ≠ .error (.storage .full)) ∧
    (Roster.runAll ∅ lifetime).1 = [.ok .done,
      .ok (.swept ⟨0, 2, [⟨"https://push.example/a", "auth", "p256dh", some "ann"⟩]⟩),
      .ok (.found {listed "news" true}), .ok (.removed 0), .ok .done, .ok .done, .ok .done] ∧
    ((Roster.runAll ∅ lifetime).2.listings.map Listing.content).Perm
      [(listed "mail" false).content] := by
  have unexhausted : ∀ outcome ∈ (runAll (Database.empty.openStore .file).database lifetime).1,
      outcome.result ≠ .error (.storage .full) := by
    decide +kernel
  have replies : (runAll (Database.empty.openStore .file).database lifetime).1.map
      (fun outcome => outcome.result.map Answer.reply) = [.ok .done,
        .ok (.swept ⟨0, 2, [⟨"https://push.example/a", "auth", "p256dh", some "ann"⟩]⟩),
        .ok (.found {listed "news" true}), .ok (.removed 0), .ok .done, .ok .done, .ok .done] := by
    decide +kernel
  have left : (runAll (Database.empty.openStore .file).database lifetime).2.rows.map
      Row.toContent = [(listed "mail" false).content] := by
    decide +kernel
  obtain ⟨answers, t, kept, contents, _, _⟩ := runAll_is_roster .file lifetime unexhausted
  rw [Database.rows_of_kept _ t kept] at left
  exact ⟨unexhausted, answers.symm.trans replies, contents.symm.trans (.of_eq left)⟩

end Operation

end PushLedger
