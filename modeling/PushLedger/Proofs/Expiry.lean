import PushLedger.Proofs.Warnings

/-!
# No silent expiry

A row comes into being active and is deleted by a sweep only if it was warned. Along every history
that starts from an empty store, the flag of a row is therefore the record of an event: since the
request that inserted the row, a sweep has flagged that very row and handed out its target.

The record is an invariant of the history and the table together. It names the insertion and the
sweep by their places in the history, so the order of the two is part of it.
-/

namespace PushLedger

namespace Transition

/-- The transition is a request to subscribe the endpoint of this row. It was carried out, and it
has put the row into the table, active and under an id that was not in use. -/
structure Inserts (x : Transition) (row : Row) : Prop where
  renews : ∃ endpoint, row.endpoint = .text endpoint ∧ x.Renews endpoint
  active : row.warningSent = .integer 0
  absent : ∀ other ∈ x.before.rows, other.id ≠ row.id
  present : row ∈ x.after.rows

/-- The transition is a sweep that flags this row and hands out its target. -/
structure Warns (x : Transition) (row : Row) : Prop where
  flips : x.Flips row
  handedOut : ∃ target ∈ x.targets, Address.ofRow row = target.address

/-- The transition is a sweep that deletes this row. -/
def Expires (x : Transition) (row : Row) : Prop :=
  x.IsSweep ∧ row ∈ x.before.rows ∧ ∀ other ∈ x.after.rows, other.id ≠ row.id

end Transition

/-- The history tells how the row came about: it was inserted, and if it is warned, it was inserted
active and later flagged by a sweep that handed out its target. -/
def Accounted (past : List Transition) (row : Row) : Prop :=
  ∃ first y rest inserted, past = first ++ y :: rest ∧ y.Inserts inserted ∧
    (row = inserted ∨ row = inserted.warned ∧ ∃ z ∈ rest, z.Warns inserted)

/-- A row that is accounted for stays so while the history goes on. -/
theorem Accounted.extend {past : List Transition} {row : Row} (accounted : Accounted past row)
    (x : Transition) : Accounted (past ++ [x]) row := by
  obtain ⟨first, y, rest, inserted, rfl, inserts, record⟩ := accounted
  refine ⟨first, y, rest ++ [x], inserted, by simp, inserts, ?_⟩
  rcases record with rfl | ⟨rfl, z, later, warns⟩
  · exact .inl rfl
  · exact .inr ⟨rfl, z, List.mem_append_left _ later, warns⟩

/-- What holds of a history from an empty store and the table that it has left. -/
structure Chronicle (past : List Transition) (t : Table) : Prop where
  counted : ∀ row ∈ t.rows, row.id ≤ t.counter
  homogeneous : t.Homogeneous
  accounted : ∀ row ∈ t.rows, Accounted past row

namespace Transition

variable {x : Transition} {t changed : Table}

/-- Each change keeps account of the rows: an old row is as it was, or the transition is the sweep
that warns it, or the transition is the request that inserts it. -/
theorem Changes.accounted (change : x.Changes t changed) (serves : x.before.Serves t)
    (stillServes : x.after.Serves changed) (past : List Transition) (chronicle : Chronicle past t) :
    ∀ row ∈ changed.rows, Accounted (past ++ [x]) row := by
  intro row member
  rcases change.origin serves.current row member with
    old | ⟨old, oldMember, rfl, target, announced, spelled⟩ | ⟨above, request, renews, fresh⟩
  · exact (chronicle.accounted row old).extend x
  · obtain ⟨first, y, rest, inserted, rfl, inserts, record⟩ := chronicle.accounted old oldMember
    rcases record with rfl | ⟨rfl, z, later, warns⟩
    -- The row was active until now, so this transition is the sweep that warns it.
    · obtain ⟨warning, expiry, sweeps, _⟩ := change.due_of_target target announced
      have unwarned : ¬ old.IsWarned := by
        rw [Row.IsWarned, inserts.active]
        exact nofun
      have flips : x.Flips old := by
        refine ⟨⟨warning, expiry, sweeps⟩, ?_, unwarned, ?_⟩
        · exact serves.rows_eq ▸ oldMember
        · exact stillServes.rows_eq ▸ member
      exact ⟨first, y, rest ++ [x], old, by simp, inserts,
        .inr ⟨rfl, x, by simp, ⟨flips, target, announced, spelled⟩⟩⟩
    · exact ⟨first, y, rest ++ [x], inserted, by simp, inserts,
        .inr ⟨rfl, z, List.mem_append_left _ later, warns⟩⟩
  · obtain ⟨topic, _, content⟩ := List.mem_map.mp fresh
    refine ⟨past, x, [], row, rfl, ⟨⟨request.endpoint, ?_, renews⟩, ?_, ?_, ?_⟩, .inl rfl⟩
    · exact (congrArg Content.endpoint content).symm
    · exact (congrArg Content.warningSent content).symm
    · intro other old
      rw [serves.rows_eq] at old
      have below : other.id ≤ t.counter := chronicle.counted other old
      omega
    · exact stillServes.rows_eq ▸ member

/-- A change preserves what holds of a history and its table. -/
theorem Changes.chronicle (change : x.Changes t changed) (serves : x.before.Serves t)
    (stillServes : x.after.Serves changed) (past : List Transition) (chronicle : Chronicle past t) :
    Chronicle (past ++ [x]) changed where
  counted row member := change.counted serves.current row.id
    (fun other present same => same ▸ chronicle.counted other present) row member rfl
  homogeneous := change.homogeneous serves.current chronicle.homogeneous
  accounted := change.accounted serves stillServes past chronicle

/-- A sweep deletes only rows that are expired. -/
theorem Changes.expired_of_expires (change : x.Changes t changed) (serves : x.before.Serves t)
    (stillServes : x.after.Serves changed) (row : Row) (expires : x.Expires row) :
    row ∈ t.rows ∧ ∃ cutoff, row.isExpired cutoff = true := by
  obtain ⟨sweeps, present, gone⟩ := expires
  rw [serves.rows_eq] at present
  rw [stillServes.rows_eq] at gone
  refine ⟨present, ?_⟩
  cases change with
  | nothing => exact absurd rfl (gone row present)
  | deleted _ unswept => exact absurd sweeps unswept
  | replaced _ unswept => exact absurd sweeps unswept
  | swept warning expiry =>
    by_contra unexpired
    have old : row.isExpired (x.now.cutoff expiry) = false :=
      Bool.eq_false_iff.mpr fun expired => unexpired ⟨_, expired⟩
    have kept := (Table.mem_swept_iff t (x.now.cutoff expiry) (x.now.cutoff warning) _).mpr
      ⟨row, present, old, rfl⟩
    exact gone _ kept (row.id_swept (x.now.cutoff warning))

end Transition

/-- A row that expires was inserted active and then warned: an active row has the wrong flag. -/
theorem Chronicle.warned_of_expired {past : List Transition} {t : Table}
    (chronicle : Chronicle past t) (row : Row) (member : row ∈ t.rows) (cutoff : Int)
    (expired : row.isExpired cutoff = true) :
    ∃ first y rest inserted, past = first ++ y :: rest ∧ y.Inserts inserted ∧
      row = inserted.warned ∧ ∃ z ∈ rest, z.Warns inserted := by
  obtain ⟨first, y, rest, inserted, split, inserts, record⟩ := chronicle.accounted row member
  rcases record with rfl | ⟨same, warned⟩
  · simp [Row.isExpired, inserts.active] at expired
  · exact ⟨first, y, rest, inserted, split, inserts, same, warned⟩

/-- The table of an empty store has nothing to account for. -/
theorem chronicle_empty : Chronicle [] (Table.empty .epoch true) where
  counted _ member := absurd member List.not_mem_nil
  homogeneous _ member := absurd member List.not_mem_nil
  accounted _ member := absurd member List.not_mem_nil

/-- What a linked list of transitions from an empty store has told until one of them acts. -/
theorem chronicle_of_linked (past last : List Transition) (x : Transition)
    (linked : Linked Database.fresh (past ++ x :: last)) :
    ∃ t, x.before.Serves t ∧ Chronicle past t :=
  linked_induction [] past last x
    (fun earlier _ _ _ _ serves stillServes change chronicle =>
      change.chronicle serves stillServes earlier chronicle)
    Database.fresh _ linked Database.serves_fresh chronicle_empty

namespace Session

/-- If a sweep deletes a row in the history of a session that starts from an empty store, then the
row was inserted by an earlier request, and after that an earlier sweep flagged it and handed out
its target. The sweep that deletes the row hands out no target of its endpoint. -/
theorem expired_after_notice (s : Session) (mode : OpenMode) (steps : List Step)
    (opened : s.database = (Database.empty.openStore mode).database)
    (own : ∀ step ∈ steps, step.IsOwn) (past last : List Transition) (x : Transition)
    (split : s.history steps = past ++ x :: last) (row : Row) (expires : x.Expires row) :
    (∃ first y middle z rest inserted, past = first ++ y :: middle ++ z :: rest ∧
      y.Inserts inserted ∧ row = inserted.warned ∧ z.Flips inserted ∧
      ∃ target ∈ z.targets, Address.ofRow row = target.address) ∧
    ∀ target ∈ x.targets, row.endpoint ≠ .text target.endpoint := by
  rw [Database.openStore_empty] at opened
  have serves : s.database.Serves (Table.empty .epoch true) := opened ▸ Database.serves_fresh
  have linked : Linked s.database (s.history steps) := linked_history s _ steps serves own
  rw [split, opened] at linked
  obtain ⟨t, meets, chronicle⟩ := chronicle_of_linked past last x linked
  obtain ⟨changed, leaves, change⟩ := x.changes t meets
  obtain ⟨member, cutoff, expired⟩ := change.expired_of_expires meets leaves row expires
  obtain ⟨first, y, later, inserted, rfl, inserts, rfl, z, warned, warns⟩ :=
    chronicle.warned_of_expired row member cutoff expired
  constructor
  · obtain ⟨middle, rest, rfl⟩ := List.append_of_mem warned
    exact ⟨first, y, middle, z, rest, inserted, by simp, inserts, rfl, warns.flips,
      warns.handedOut⟩
  · intro target announced sameEndpoint
    obtain ⟨warning, _, _, _, due, listed, spelled⟩ := change.due_of_target target announced
    obtain ⟨present, _, reached⟩ := (Table.mem_dueRows_iff t _ _ due).mp listed
    have named : due.endpoint = inserted.warned.endpoint :=
      (congrArg Address.endpoint spelled).trans sameEndpoint.symm
    have agrees := chronicle.homogeneous due present inserted.warned member named
    have flagged : due.IsWarned := agrees.warningSent.trans inserted.isWarned_warned
    rw [Row.not_due_of_warned due _ flagged] at reached
    exact Bool.noConfusion reached

end Session

/-! A store subscribes an endpoint and sweeps twice, with spans of nothing: the first sweep gives
notice of the row, and the second one deletes it. -/

namespace Notice

open Resubscription (draft row)

/-- A sweep with spans of nothing. -/
def sweep : Operation := .sweep ⟨0⟩ ⟨0⟩

/-- The session, which starts from an empty store. -/
def session : Session := Session.start (Database.empty.openStore .file).database .epoch .epoch

/-- What the store does. -/
def steps : List Step :=
  [.openShared 0, .operate 0 (.upsert draft), .operate 0 sweep, .operate 0 sweep]

/-- The request. -/
def inserts : Transition := ⟨session.database, .epoch, .upsert draft⟩

/-- The first sweep. -/
def warns : Transition := ⟨inserts.after, .epoch, sweep⟩

/-- The second sweep. -/
def expires : Transition := ⟨warns.after, .epoch, sweep⟩

/-- The second sweep deletes the row, and before it stand the request and the notice. -/
theorem expired_row_noticed :
    session.database = (Database.empty.openStore .file).database ∧
    (∀ step ∈ steps, step.IsOwn) ∧ session.history steps = [inserts, warns] ++ [expires] ∧
    expires.Expires (row 1).warned ∧
    (∃ first y middle z rest inserted, [inserts, warns] = first ++ y :: middle ++ z :: rest ∧
      y.Inserts inserted ∧ (row 1).warned = inserted.warned ∧ z.Flips inserted ∧
      ∃ target ∈ z.targets, Address.ofRow (row 1).warned = target.address) ∧
    ∀ target ∈ expires.targets, (row 1).endpoint ≠ .text target.endpoint := by
  have deleted : expires.Expires (row 1).warned :=
    ⟨⟨_, _, rfl⟩, by decide +kernel, by decide +kernel⟩
  have own : ∀ step ∈ steps, step.IsOwn := by
    simp [steps, Step.IsOwn]
  have history : session.history steps = [inserts, warns] ++ [expires] := by
    rw [steps, Session.history_openShared _ _ _ (by decide +kernel),
      Session.history_operate _ _ _ _ rfl, Session.history_operate _ _ _ _ rfl,
      Session.history_operate _ _ _ _ rfl]
    rfl
  exact ⟨rfl, own, history, deleted, Session.expired_after_notice session .file steps rfl own
    [inserts, warns] [] expires history (row 1).warned deleted⟩

end Notice

end PushLedger
