import PushLedger.Proofs.ByteOrder
import PushLedger.Proofs.Identity

/-!
# The life of a row

A row is known by its id. Once it is there, nothing of it changes but its flag, which a sweep sets
once, and when it is gone, its id does not come back. New rows take the ids after the greatest one so
far, in the order of their topics.

All of this is read off one relation between an earlier and a later table: a row of the later one
follows a row of the earlier one, or its id lies above the earlier counter. Each change keeps to it,
and so does every run. What it says of an id needs the id to be counted at the start; only another
program can have put a row above the counter.
-/

namespace PushLedger

/-- What may become of a row as long as its id is there: it stays as it is, or its flag goes from zero
to one. -/
def Row.Follows (later earlier : Row) : Prop :=
  later = earlier ∨ earlier.warningSent.isInteger 0 = true ∧ later = earlier.warned

/-- A row that follows another has its id. -/
theorem Row.Follows.id_eq {later earlier : Row} (follows : later.Follows earlier) :
    later.id = earlier.id := by
  rcases follows with rfl | ⟨_, rfl⟩ <;> rfl

/-- What follows a row that follows another follows that one; for a flag is set only once. -/
theorem Row.Follows.trans {last later earlier : Row} (second : last.Follows later)
    (first : later.Follows earlier) : last.Follows earlier := by
  rcases first with rfl | ⟨unset, rfl⟩
  · exact second
  · rcases second with rfl | ⟨again, _⟩
    · exact .inr ⟨unset, rfl⟩
    · exact nomatch (Cell.isInteger_integer 1 0).symm.trans again

/-- What a sweep makes of a row follows it. -/
theorem Row.follows_swept (row : Row) (cutoff : Int) : (row.swept cutoff).Follows row := by
  cases due : row.isDue cutoff with
  | false => exact .inl (row.swept_of_not_due cutoff due)
  | true =>
    rw [row.swept_of_due cutoff due]
    exact .inr ⟨(Bool.and_eq_true_iff.mp due).1, rfl⟩

namespace Table

/-- A row with the id does not stand above the counter. -/
def Counted (t : Table) (id : Int) : Prop := ∀ row ∈ t.rows, row.id = id → id ≤ t.counter

/-- The later table has come from the earlier one: the counter has not gone back, and each row follows
one that was there or has got an id above the earlier counter. -/
structure Ages (earlier later : Table) : Prop where
  forward : (earlier.counter : Int) ≤ later.counter
  origin : ∀ row ∈ later.rows,
    (∃ old ∈ earlier.rows, row.Follows old) ∨ earlier.counter < row.id

/-- A table has come from itself. -/
theorem Ages.refl (t : Table) : t.Ages t :=
  ⟨Int.le_refl _, fun row member => .inl ⟨row, member, .inl rfl⟩⟩

/-- What has come from a table that has come from another has come from that one. -/
theorem Ages.trans {first second third : Table} (early : first.Ages second)
    (late : second.Ages third) : first.Ages third := by
  refine ⟨Int.le_trans early.forward late.forward, fun row member => ?_⟩
  rcases late.origin row member with ⟨mid, present, follows⟩ | above
  · rcases early.origin mid present with ⟨old, there, before⟩ | above
    · exact .inl ⟨old, there, follows.trans before⟩
    · exact .inr (follows.id_eq ▸ above)
  · exact .inr (Int.lt_of_le_of_lt early.forward above)

section Ages

variable {earlier later : Table} (ages : earlier.Ages later)

include ages

/-- A row whose id was there before and counted follows the row that had it. -/
theorem Ages.follows (keyed : earlier.Keyed) (old row : Row) (present : old ∈ earlier.rows)
    (counted : earlier.Counted old.id) (member : row ∈ later.rows) (same : row.id = old.id) :
    row.Follows old := by
  rcases ages.origin row member with ⟨other, there, follows⟩ | above
  · exact keyed.unique other old there present (follows.id_eq.symm.trans same) ▸ follows
  · have bound : old.id ≤ earlier.counter := counted old present rfl
    omega

/-- An id at most the counter that no row has is never had again. -/
theorem Ages.gone (id : Int) (below : id ≤ earlier.counter)
    (absent : ∀ row ∈ earlier.rows, row.id ≠ id) : ∀ row ∈ later.rows, row.id ≠ id := by
  intro row member same
  rcases ages.origin row member with ⟨old, there, follows⟩ | above
  · exact absent old there (follows.id_eq.symm.trans same)
  · omega

end Ages

end Table

/-- Every change makes a table of which this is true: deletions leave fewer rows, a sweep sets flags
that were zero, and fresh rows lie above the counter. -/
theorem Transition.Changes.ages {x : Transition} {t changed : Table} (change : x.Changes t changed)
    (current : t.Current) : t.Ages changed := by
  refine ⟨change.counter_le current, fun row member => ?_⟩
  cases change with
  | nothing => exact .inl ⟨row, member, .inl rfl⟩
  | deleted selected => exact .inl ⟨row, (List.mem_filter.mp member).1, .inl rfl⟩
  | replaced request =>
    rw [Table.rows_replaced t request x.now current] at member
    rcases List.mem_append.mp member with old | fresh
    · exact .inl ⟨row, (List.mem_filter.mp old).1, .inl rfl⟩
    · exact .inr (Table.counter_lt_fresh t request x.now current row fresh)
  | swept warning expiry =>
    obtain ⟨old, present, _, rfl⟩ := (Table.mem_swept_iff t _ _ row).mp member
    exact .inl ⟨old, present, old.follows_swept _⟩

/-- A counted row is changed by a sweep only, and by one that succeeds. -/
theorem Transition.Changes.sweep_of_changed {x : Transition} {t changed : Table}
    (change : x.Changes t changed) (serves : x.before.Serves t) (keyed : t.Keyed) (old row : Row)
    (present : old ∈ t.rows) (counted : t.Counted old.id) (member : row ∈ changed.rows)
    (same : row.id = old.id) (differs : row ≠ old) :
    ∃ warning expiry report, x.operation = .sweep warning expiry ∧
      x.outcome.result = .ok (.swept report) := by
  have unchanged (there : row ∈ t.rows) : False := differs (keyed.unique row old there present same)
  cases change with
  | nothing => exact (unchanged member).elim
  | deleted selected => exact (unchanged (List.mem_filter.mp member).1).elim
  | replaced request =>
    rw [Table.rows_replaced t request x.now serves.current] at member
    rcases List.mem_append.mp member with kept | fresh
    · exact (unchanged (List.mem_filter.mp kept).1).elim
    · have above := Table.counter_lt_fresh t request x.now serves.current row fresh
      have bound : old.id ≤ t.counter := counted old present rfl
      omega
  | swept warning expiry sweeps spelled =>
    obtain ⟨db, now, operation⟩ := x
    obtain rfl : operation = .sweep warning expiry := sweeps
    rcases Database.sweep_current serves.kept serves.current warning expiry now with
      ⟨targets, _, done, _⟩ | ⟨_, _, _, unspelled⟩
    · have reported : (Transition.mk db now (.sweep warning expiry)).outcome.result =
          .ok (.swept (t.sweepReport (now.cutoff expiry) (now.cutoff warning) targets)) := by
        simp [outcome, Operation.run, Outcome.map, done, Except.map]
      exact ⟨warning, expiry, _, rfl, reported⟩
    · exact absurd spelled (unspelled _)

namespace TopicSet

/-- The set of a list has the topics of the list. -/
theorem mem_ofList_iff (topics : List String) (topic : String) :
    topic ∈ (ofList topics).names ↔ topic ∈ topics := by
  have collected (s : TopicSet) :
      topic ∈ (topics.foldl insert s).names ↔ topic ∈ topics ∨ topic ∈ s.names := by
    induction topics generalizing s with
    | nil => simp
    | cons first rest inductionHypothesis =>
      rw [List.foldl_cons, inductionHypothesis, List.mem_cons]
      simp only [insert, mem_insertName]
      tauto
  simpa [ofList, empty] using collected empty

/-- The topics of a set are in the order of their bytes. -/
theorem names_byte_order (s : TopicSet) :
    s.names.Pairwise fun a b => Text.utf8 a < Text.utf8 b :=
  s.ascending.imp fun less => (Text.utf8_lt_iff _ _).mpr less

end TopicSet

/-- A request that passed its check has the topics of its draft. -/
theorem NewSubscription.topics_of_check (draft : Draft) (request : NewSubscription)
    (checked : draft.check = .ok request) : request.topics = .ofList draft.topics := by
  unfold Draft.check at checked
  split at checked
  · exact nomatch checked
  · exact (Except.ok.inj checked) ▸ rfl

namespace Session

/-- Steps of the stores and of the clock lead from one session to another, whether they succeed or
fail. -/
inductive Leads : Session → Session → Prop
  | rest (s : Session) : Leads s s
  | step (s : Session) (step : Step) {last : Session} (own : step.IsOwn)
      (later : Leads (s.step step).session last) : Leads s last

/-- A step of a store or of the clock leaves the table of the shared database alone, or makes a
transition that changes it. -/
theorem step_changes (s : Session) (t : Table) (step : Step) (serves : s.database.Serves t)
    (own : step.IsOwn) :
    ∃ changed, (s.step step).session.database.Serves changed ∧
      (changed = t ∨ ∃ x, s.transition? step = some x ∧ x.Changes t changed) := by
  have moved := step_database s t step serves own
  cases made : s.transition? step with
  | none =>
    simp only [made] at moved
    exact ⟨t, moved ▸ serves, .inl rfl⟩
  | some x =>
    simp only [made] at moved
    obtain ⟨_, operation, _, rfl⟩ := operate_of_transition s step x made
    obtain ⟨changed, stillServes, change⟩ :=
      Transition.changes ⟨s.database, s.clock, operation⟩ t serves
    exact ⟨changed, moved ▸ stillServes, .inr ⟨_, rfl, change⟩⟩

/-- What all changes of a table preserve still holds wherever a session leads. -/
theorem Leads.invariant {P : Table → Prop}
    (preserved : ∀ x t changed, t.Current → Transition.Changes x t changed → P t → P changed)
    {s later : Session} (leads : s.Leads later) (t : Table) (serves : s.database.Serves t)
    (holds : P t) : ∃ met, later.database.Serves met ∧ P met := by
  induction leads generalizing t with
  | rest s => exact ⟨t, serves, holds⟩
  | step s step own _ inductionHypothesis =>
    obtain ⟨changed, stillServes, same | ⟨x, _, change⟩⟩ := step_changes s t step serves own
    · exact inductionHypothesis t (same ▸ stillServes) holds
    · exact inductionHypothesis changed stillServes
        (preserved x t changed serves.current change holds)

/-- Wherever a session leads, the table has come from the one that the session started with. -/
theorem Leads.ages {s later : Session} (leads : s.Leads later) (t : Table)
    (serves : s.database.Serves t) : ∃ met, later.database.Serves met ∧ t.Ages met :=
  leads.invariant (P := fun met => t.Ages met)
    (fun _ _ _ current change ages => ages.trans (change.ages current)) t serves (.refl t)

/-- Wherever a session leads, ids are distinct if they were, and what was counted still is. -/
theorem Leads.counted {s later : Session} (leads : s.Leads later) (t : Table)
    (serves : s.database.Serves t) (keyed : t.Keyed) (id : Int) (counted : t.Counted id) :
    ∃ met, later.database.Serves met ∧ met.Keyed ∧ met.Counted id :=
  leads.invariant (P := fun met => met.Keyed ∧ met.Counted id)
    (fun _ _ _ current change holds =>
      ⟨change.keyed current holds.1, change.counted current id holds.2⟩) t serves ⟨keyed, counted⟩

/-- A counted id that was met is at most the counter wherever the session leads then. -/
theorem Leads.id_le_counter {s early late : Session} (first : s.Leads early)
    (second : early.Leads late) (t met : Table) (serves : s.database.Serves t)
    (meets : late.database.Serves met) (keyed : t.Keyed) (row : Row)
    (present : row ∈ early.database.rows) (counted : t.Counted row.id) : row.id ≤ met.counter := by
  obtain ⟨old, meetsOld, _, oldCounted⟩ := first.counted t serves keyed row.id counted
  obtain ⟨same, meetsSame, ages⟩ := second.ages old meetsOld
  obtain rfl : same = met := Option.some.inj (meetsSame.kept.symm.trans meets.kept)
  rw [meetsOld.rows_eq] at present
  exact Int.le_trans (oldCounted row present rfl) ages.forward

/-- A step changes a counted row only if it is a sweep that succeeds. -/
theorem sweep_of_changed (s : Session) (t : Table) (step : Step) (serves : s.database.Serves t)
    (keyed : t.Keyed) (own : step.IsOwn) (old row : Row) (present : old ∈ t.rows)
    (counted : t.Counted old.id) (member : row ∈ (s.step step).session.database.rows)
    (same : row.id = old.id) (differs : row ≠ old) :
    ∃ place warning expiry report, step = .operate place (.sweep warning expiry) ∧
      (s.step step).result = .ok (.answered (.swept report)) := by
  obtain ⟨changed, stillServes, unchanged | ⟨x, made, change⟩⟩ := step_changes s t step serves own
  · rw [stillServes.rows_eq, unchanged] at member
    exact absurd (keyed.unique row old member present same) differs
  · rw [stillServes.rows_eq] at member
    have answered := step_transition s step x made
    obtain ⟨place, operation, rfl, rfl⟩ := operate_of_transition s step x made
    obtain ⟨warning, expiry, report, rfl, done⟩ :=
      change.sweep_of_changed serves keyed old row present counted member same differs
    refine ⟨place, warning, expiry, report, rfl, ?_⟩
    simp only [answered, shared, done]

/-- A request of a store on the shared database puts one row for each of its topics after the rows of
other endpoints, under the ids that follow the last one; or it fails and leaves the session as it
was. -/
theorem step_upsert (s : Session) (t : Table) (place : Nat) (draft : NewSubscription.Draft)
    (serves : s.database.Serves t) (opened : s.store? place = some .shared) :
    (∃ request, draft.check = .ok request ∧
      (s.step (.operate place (.upsert draft))).result = .ok (.answered .done) ∧
      (s.step (.operate place (.upsert draft))).session.database.rows =
        (t.cleared request.endpoint).rows ++ Row.numbered (t.cleared request.endpoint).lastId
          (Database.freshContents request s.clock)) ∨
    (∃ fault, (s.step (.operate place (.upsert draft))).result = .error fault ∧
      (s.step (.operate place (.upsert draft))).session = s) := by
  have stepped : s.step (.operate place (.upsert draft)) =
      s.shared ((s.database.upsert draft s.clock).map fun _ => .done) .answered := by
    simp only [Session.step, operate, opened, Operation.run]
  have refused (fault : LedgerFault)
      (failed : (s.database.upsert draft s.clock).result = .error fault)
      (same : (s.database.upsert draft s.clock).database = s.database) :
      ∃ fault, (s.step (.operate place (.upsert draft))).result = .error fault ∧
        (s.step (.operate place (.upsert draft))).session = s := by
    refine ⟨.ledger fault, ?_, ?_⟩
    · simp only [stepped, shared, Outcome.map, failed, Except.map]
    · simp only [stepped, shared, Outcome.map, same]
  rcases Database.upsert_current serves.kept serves.current draft s.clock with
    ⟨fault, _, failed, same⟩ | ⟨request, checked, _, done, stored⟩ | ⟨_, _, _, failed, same⟩
  · exact .inr (refused _ failed same)
  · refine .inl ⟨request, checked, ?_, ?_⟩
    · simp only [stepped, shared, Outcome.map, done, Except.map]
    · simp only [stepped, shared, Outcome.map, stored]
      exact Table.rows_replaced t request s.clock serves.current
  · exact .inr (refused _ failed same)

/-- From a database to which no update is due, wherever its session leads: a row keeps all its cells
while its id is there, except that a sweep that succeeds may set its flag once, and an id that is gone
does not come back. A request that is carried out gives its rows the ids that follow the last one, in
the order of the bytes of their topics, and that one is at least every id beside them and every id
that was there before; a request that fails leaves everything as it was. An id that stood above the
counter at the start may come back once it is gone, and of such nothing is said. -/
theorem row_life_cycle (s : Session) (t : Table) (serves : s.database.Serves t) (keyed : t.Keyed) :
    (∀ early late, s.Leads early → early.Leads late →
      ∀ old ∈ early.database.rows, t.Counted old.id →
        (∀ row ∈ late.database.rows, row.id = old.id → row.Follows old) ∧
        ((∀ row ∈ late.database.rows, row.id ≠ old.id) →
          ∀ last, late.Leads last → ∀ row ∈ last.database.rows, row.id ≠ old.id)) ∧
    (∀ early step, s.Leads early → step.IsOwn → ∀ old ∈ early.database.rows, t.Counted old.id →
      ∀ row ∈ (early.step step).session.database.rows, row.id = old.id → row ≠ old →
        ∃ place warning expiry report, step = .operate place (.sweep warning expiry) ∧
          (early.step step).result = .ok (.answered (.swept report))) ∧
    ∀ late place draft, s.Leads late → late.store? place = some .shared →
      (∃ request last, draft.check = .ok request ∧
        (late.step (.operate place (.upsert draft))).result = .ok (.answered .done) ∧
        (late.step (.operate place (.upsert draft))).session.database.rows =
          (late.database.rows.filter fun row => !row.endpoint.isText draft.endpoint) ++
            Row.numbered last (request.topics.names.map
              (Database.freshContent request late.clock)) ∧
        (∀ topic, topic ∈ request.topics.names ↔ topic ∈ draft.topics) ∧
        (request.topics.names.Pairwise fun a b => Text.utf8 a < Text.utf8 b) ∧
        (∀ row ∈ late.database.rows, row.endpoint.isText draft.endpoint = false → row.id ≤ last) ∧
        ∀ early, s.Leads early → early.Leads late →
          ∀ row ∈ early.database.rows, t.Counted row.id → row.id ≤ last) ∨
      (∃ fault, (late.step (.operate place (.upsert draft))).result = .error fault ∧
        (late.step (.operate place (.upsert draft))).session = late) := by
  refine ⟨?rows, ?flags, ?requests⟩
  case rows =>
    intro early late first second old present counted
    obtain ⟨met, meets, metKeyed, metCounted⟩ := first.counted t serves keyed old.id counted
    obtain ⟨left, leaves, ages⟩ := second.ages met meets
    have below := first.id_le_counter second t left serves leaves keyed old present counted
    rw [meets.rows_eq] at present
    refine ⟨fun row member same => ?_, fun absent last third row member => ?_⟩
    · rw [leaves.rows_eq] at member
      exact ages.follows metKeyed old row present metCounted member same
    · obtain ⟨ended, ends, again⟩ := third.ages left leaves
      rw [leaves.rows_eq] at absent
      rw [ends.rows_eq] at member
      exact again.gone old.id below absent row member
  case flags =>
    intro early step first own old present counted row member same differs
    obtain ⟨met, meets, metKeyed, metCounted⟩ := first.counted t serves keyed old.id counted
    rw [meets.rows_eq] at present
    exact sweep_of_changed early met step meets metKeyed own old row present metCounted member same
      differs
  case requests =>
    intro late place draft leads opened
    obtain ⟨met, meets, _⟩ := leads.ages t serves
    rcases step_upsert late met place draft meets opened with
      ⟨request, checked, done, rows⟩ | failed
    · have named := NewSubscription.endpoint_of_check draft request checked
      have cleared : (met.cleared request.endpoint).Current :=
        Table.current_without met _ meets.current
      -- the last id is at least the counter, also where a row that was left stands above it
      have bounds := Table.ids_le_lastId (met.cleared request.endpoint) cleared.counted
      refine .inl ⟨request, (met.cleared request.endpoint).lastId, checked, done, ?_, ?_,
        request.topics.names_byte_order, ?_, ?_⟩
      · rw [rows, meets.rows_eq, named]
        rfl
      · rw [NewSubscription.topics_of_check draft request checked]
        exact TopicSet.mem_ofList_iff draft.topics
      · intro row present other
        rw [meets.rows_eq] at present
        rw [named] at other
        exact bounds.2 row (List.mem_filter.mpr ⟨present, by simp [other]⟩)
      · intro early first second row present counted
        have below := first.id_le_counter second t met serves meets keyed row present counted
        exact Int.le_trans below bounds.1
    · exact .inr failed

end Session

/-! A store meets one row again, whose id may stand above the counter. It sweeps, and then another
request for the endpoint of the row comes in, without an owner. -/

namespace Resubscription

section Sessions

variable (id : Int) (counter : Nat)

/-- The store is open. -/
def opened : Session := ((session id counter).step (.openShared 0)).session

/-- The sweep has ended. -/
def noticed : Session := ((opened id counter).step (.operate 0 sweep)).session

/-- The request was carried out. -/
def renewed : Session := ((noticed id counter).step (.operate 0 (.upsert singleDraft))).session

/-- The session leads to where the sweep has ended. -/
theorem leads_noticed : (session id counter).Leads (noticed id counter) :=
  .step _ (.openShared 0) trivial (.step _ (.operate 0 sweep) trivial (.rest _))

/-- It leads on to where the request was carried out. -/
theorem leads_renewed : (noticed id counter).Leads (renewed id counter) :=
  .step _ (.operate 0 (.upsert singleDraft)) trivial (.rest _)

end Sessions

/-- If the counter has kept up with the id, the row is flagged and then gone for good. -/
theorem life_of_counted_row :
    (session 1 1).database.Serves (table 1 1) ∧ (table 1 1).Keyed ∧ (table 1 1).Counted 1 ∧
      (row 1).warned ∈ (noticed 1 1).database.rows ∧ (row 1).warned.Follows (row 1) ∧
      (renewed 1 1).database.rows.map Row.id = [2] ∧
      ∀ last, (renewed 1 1).Leads last → ∀ row ∈ last.database.rows, row.id ≠ 1 := by
  have counted : (table 1 1).Counted 1 := fun _ _ _ => Int.le_refl 1
  have flagged : (row 1).warned ∈ (noticed 1 1).database.rows := by decide +kernel
  have ids : (renewed 1 1).database.rows.map Row.id = [2] := by decide +kernel
  have absent : ∀ row ∈ (renewed 1 1).database.rows, row.id ≠ 1 := by decide +kernel
  obtain ⟨rows, _, _⟩ := Session.row_life_cycle (session 1 1) (table 1 1) (serves 1 1) (keyed 1 1)
  obtain ⟨kept, _⟩ := rows _ _ (.rest _) (leads_noticed 1 1) (row 1) List.mem_cons_self counted
  obtain ⟨_, gone⟩ := rows _ _ (leads_noticed 1 1) (leads_renewed 1 1) (row 1).warned flagged counted
  exact ⟨serves 1 1, keyed 1 1, counted, flagged, kept _ flagged rfl, ids, gone absent⟩

/-- If the counter has stayed behind the id, the request takes the id for its own row, and so the row
with this id loses its owner. -/
theorem id_changes_owner :
    (session 2 1).database.Serves (table 2 1) ∧ (table 2 1).Keyed ∧
      ¬ ∀ early late, (session 2 1).Leads early → early.Leads late →
        ∀ old ∈ early.database.rows, ∀ row ∈ late.database.rows, row.id = old.id →
          row.userId = old.userId := by
  refine ⟨serves 2 1, keyed 2 1, fun constant => ?_⟩
  have before : (row 2).warned ∈ (noticed 2 1).database.rows := by decide +kernel
  have after : ∃ row ∈ (renewed 2 1).database.rows, row.id = 2 ∧ row.userId = .null := by
    decide +kernel
  obtain ⟨fresh, member, same, ownerless⟩ := after
  have owned := constant _ _ (leads_noticed 2 1) (leads_renewed 2 1) _ before fresh member same
  exact nomatch ownerless.symm.trans owned

end Resubscription

end PushLedger
