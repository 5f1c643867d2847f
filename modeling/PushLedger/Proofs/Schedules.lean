import PushLedger.Proofs.RowPasses
import PushLedger.Proofs.Warnings

/-!
# Schedules of sweeps

Sweeps with the same spans follow one another, each at a reading that is not before the one of the
sweep before it. However many there are, together they flag the rows and hand out the targets that
one sweep at the last reading alone would have flagged and handed out. They may have deleted more,
for a row that one of them has flagged another can delete; one more sweep at the last reading evens
this out.

None of this asks for a table without a guard, nor for cells of any class. It asks that the sweeps
succeed. Only the statement that a sweep leaves nothing due needs that no guard passes over flags in
silence.
-/

namespace PushLedger

/-- Nothing keeps a sweep of the table from succeeding. -/
structure Table.Sweepable (t : Table) (expireBefore warnBefore : Int) : Prop where
  flagged : t.layout.flagged = true
  rows : ∀ row ∈ t.rows, row.Sweepable t.guard expireBefore warnBefore

/-- A sweep succeeds exactly on a table that is sweepable. The rows then pass, and the targets spell
out the addresses of what was due; otherwise nothing changes. -/
theorem Database.sweep_rowwise (db : Database) (t : Table) (kept : db.subscriptions = some t)
    (warning expiry : Span) (now : Instant) :
    (t.Sweepable (now.cutoff expiry) (now.cutoff warning) ∧
      ∃ report, (db.sweep warning expiry now).result = .ok report ∧
        (db.sweep warning expiry now).database =
          db.withTable (t.passed (now.cutoff expiry) (now.cutoff warning)) ∧
        t.dueAddresses (now.cutoff warning) = report.targets.map PushTarget.address) ∨
    (¬ t.Sweepable (now.cutoff expiry) (now.cutoff warning) ∧
      (∃ fault, (db.sweep warning expiry now).result = .error fault) ∧
      (db.sweep warning expiry now).database = db) := by
  have found := writable_of_kept db t .warningSent kept
  by_cases flagged : t.layout.flagged = true
  · cases done : t.sweep (now.cutoff expiry) (now.cutoff warning) with
    | ok swept =>
      obtain ⟨after, report⟩ := swept
      obtain ⟨sweepable, rfl, spelled⟩ := t.sweepable_of_sweep _ _ after report done
      left
      refine ⟨⟨flagged, sweepable⟩, report, ?_, ?_, spelled⟩ <;>
        simp [sweep, sweepRows, flaggedTable, found, flagged, done, Outcome.transact, Outcome.after]
    | error fault =>
      right
      refine ⟨?_, ⟨.storage fault, ?_⟩, ?_⟩
      · intro sweepable
        obtain ⟨report, succeeds⟩ := t.sweep_of_sweepable _ _ sweepable.rows
        cases done.symm.trans succeeds
      · simp [sweep, sweepRows, flaggedTable, found, flagged, done, Outcome.transact, Outcome.after]
      · simp [sweep, sweepRows, flaggedTable, found, flagged, done, Outcome.transact, Outcome.after]
  · right
    refine ⟨?_, ⟨.storage (.noColumn Column.warningSent.name), ?_⟩, ?_⟩
    · intro sweepable
      exact flagged sweepable.flagged
    · simp [sweep, sweepRows, flaggedTable, found, flagged, Outcome.transact, Outcome.after]
    · simp [sweep, sweepRows, flaggedTable, found, flagged, Outcome.transact, Outcome.after]

namespace Transition

section Sweeps

variable {x : Transition} {t : Table} {warning expiry : Span}
  (sweeps : x.operation = .sweep warning expiry) (kept : x.before.subscriptions = some t)

include sweeps kept

/-- A sweep succeeds exactly on a table that is sweepable. -/
theorem succeeds_iff_sweepable :
    x.Succeeds ↔ t.Sweepable (x.now.cutoff expiry) (x.now.cutoff warning) := by
  obtain ⟨db, now, operation⟩ := x
  obtain rfl : operation = .sweep warning expiry := sweeps
  rcases db.sweep_rowwise t kept warning expiry now with
    ⟨sweepable, report, done, _⟩ | ⟨unsweepable, ⟨fault, failed⟩, _⟩
  · constructor
    · intro _
      exact sweepable
    · intro _
      exact ⟨.swept report, by simp [outcome, Operation.run, Outcome.map, done, Except.map]⟩
  · constructor
    · rintro ⟨answer, succeeds⟩
      simp [outcome, Operation.run, Outcome.map, failed, Except.map] at succeeds
    · intro sweepable
      exact absurd sweepable unsweepable

/-- After a sweep that succeeded the rows have passed. -/
theorem after_of_sweepable
    (sweepable : t.Sweepable (x.now.cutoff expiry) (x.now.cutoff warning)) :
    x.after = x.before.withTable (t.passed (x.now.cutoff expiry) (x.now.cutoff warning)) := by
  obtain ⟨db, now, operation⟩ := x
  obtain rfl : operation = .sweep warning expiry := sweeps
  rcases db.sweep_rowwise t kept warning expiry now with ⟨_, _, _, left, _⟩ | ⟨unsweepable, _⟩
  · exact left
  · exact absurd sweepable unsweepable

/-- A sweep that failed has changed nothing. -/
theorem after_of_unsweepable
    (unsweepable : ¬ t.Sweepable (x.now.cutoff expiry) (x.now.cutoff warning)) :
    x.after = x.before := by
  obtain ⟨db, now, operation⟩ := x
  obtain rfl : operation = .sweep warning expiry := sweeps
  rcases db.sweep_rowwise t kept warning expiry now with ⟨sweepable, _⟩ | ⟨_, _, same⟩
  · exact absurd sweepable unsweepable
  · exact same

/-- A sweep that failed hands out no targets. -/
theorem targets_of_unsweepable
    (unsweepable : ¬ t.Sweepable (x.now.cutoff expiry) (x.now.cutoff warning)) :
    x.targets = [] := by
  obtain ⟨db, now, operation⟩ := x
  obtain rfl : operation = .sweep warning expiry := sweeps
  rcases db.sweep_rowwise t kept warning expiry now with ⟨sweepable, _⟩ | ⟨_, ⟨fault, failed⟩, _⟩
  · exact absurd sweepable unsweepable
  · exact targets_of_failed_sweep db now warning expiry fault failed

/-- A sweep that succeeded hands out the targets that the rows name that were due. -/
theorem mem_targets_of_sweepable
    (sweepable : t.Sweepable (x.now.cutoff expiry) (x.now.cutoff warning)) (target : PushTarget) :
    target ∈ x.targets ↔ ∃ row ∈ t.rows, row.isDue (x.now.cutoff warning) = true ∧
      Address.ofRow row = target.address := by
  obtain ⟨db, now, operation⟩ := x
  obtain rfl : operation = .sweep warning expiry := sweeps
  rcases db.sweep_rowwise t kept warning expiry now with ⟨_, report, done, _, spelled⟩ | ⟨not, _⟩
  · rw [targets_of_sweep db now warning expiry report done]
    exact Table.mem_targets_iff spelled target
  · exact absurd sweepable not

/-- A sweep that succeeded flips the rows that were due, apart from those that the guard passed
over. -/
theorem flips_iff (sweepable : t.Sweepable (x.now.cutoff expiry) (x.now.cutoff warning))
    (keyed : t.Keyed) (row : Row) :
    x.Flips row ↔ row ∈ t.rows ∧ row.isDue (x.now.cutoff warning) = true ∧
      Guard.stops t.guard .flag row.toContent = false := by
  have before : x.before.rows = t.rows := by
    simp [Database.rows, kept]
  have after : x.after.rows = (t.passed (x.now.cutoff expiry) (x.now.cutoff warning)).rows := by
    rw [after_of_sweepable sweeps kept sweepable]
    rfl
  unfold Flips
  rw [before, after]
  constructor
  · rintro ⟨_, present, unwarned, left⟩
    obtain ⟨old, oldPresent, passes⟩ := List.mem_filterMap.mp left
    have sameId : row.warned.id = old.id := old.id_of_pass t.guard _ _ _ passes
    obtain rfl : row = old := keyed.unique row old present oldPresent sameId
    rcases row.pass_eq_some t.guard _ _ _ passes with ⟨same, _⟩ | ⟨_, due, unstopped⟩
    · exact absurd (same ▸ row.isWarned_warned) unwarned
    · exact ⟨present, due, unstopped⟩
  · rintro ⟨present, due, unstopped⟩
    refine ⟨⟨warning, expiry, sweeps⟩, present, ?_, ?_⟩
    · intro warned
      rw [row.not_due_of_warned _ warned] at due
      cases due
    · exact List.mem_filterMap.mpr ⟨row, present, row.pass_of_due t.guard _ _ due unstopped⟩

end Sweeps

end Transition

namespace Schedule

/-- One sweep with the same spans at each of the readings. -/
def steps (warning expiry : Span) (readings : List Instant) : List (Instant × Operation) :=
  readings.map fun now => (now, .sweep warning expiry)

/-- The sweeps of a schedule, as they follow one another. -/
def sweeps (db : Database) (warning expiry : Span) (readings : List Instant) : List Transition :=
  Operation.transitions db (steps warning expiry readings)

/-- The database that a schedule leaves. -/
def final (db : Database) (warning expiry : Span) (readings : List Instant) : Database :=
  (Operation.runAll db (steps warning expiry readings)).2

/-- No reading comes before an earlier one. -/
def Ascending (readings : List Instant) : Prop :=
  readings.Pairwise fun earlier later => earlier.millis ≤ later.millis

/-- What a schedule leaves of a row. -/
def left (guard : Option Guard) (warning expiry : Span) : List Instant → Row → Option Row
  | [], row => some row
  | now :: later, row =>
      (row.pass guard (now.cutoff expiry) (now.cutoff warning)).bind
        (left guard warning expiry later)

/-- A schedule that ends with two sweeps at the same reading leaves of a row what these two leave.
-/
theorem left_twice (guard : Option Guard) (warning expiry : Span) (earlier : List Instant)
    (last : Instant) (ascending : Ascending (earlier ++ [last])) (row : Row) :
    left guard warning expiry (earlier ++ [last, last]) row =
      left guard warning expiry [last, last] row := by
  induction earlier generalizing row with
  | nil => rfl
  | cons now rest inductionHypothesis =>
    obtain ⟨before, ascendingRest⟩ := List.pairwise_cons.mp ascending
    have ordered : now.millis ≤ last.millis :=
      before last (List.mem_append_right _ List.mem_cons_self)
    have settled := row.pass_early guard (Instant.cutoff_mono ordered expiry)
      (Instant.cutoff_mono ordered warning)
    simp only [List.cons_append, left, inductionHypothesis ascendingRest,
      Option.bind_fun_some] at settled ⊢
    exact settled

section Runs

variable (warning expiry : Span)

/-- The first sweep of a schedule that succeeds finds the table sweepable and leaves the rows
passed, and the others succeed from there. -/
theorem head_of_succeeds {db : Database} {t : Table} {now : Instant} {rest : List Instant}
    (kept : db.subscriptions = some t)
    (succeed : ∀ x ∈ sweeps db warning expiry (now :: rest), x.Succeeds) :
    let left := db.withTable (t.passed (now.cutoff expiry) (now.cutoff warning))
    t.Sweepable (now.cutoff expiry) (now.cutoff warning) ∧
      sweeps db warning expiry (now :: rest) =
        ⟨db, now, .sweep warning expiry⟩ :: sweeps left warning expiry rest ∧
      final db warning expiry (now :: rest) = final left warning expiry rest ∧
      ∀ x ∈ sweeps left warning expiry rest, x.Succeeds := by
  obtain ⟨headSucceeds, restSucceed⟩ := List.forall_mem_cons.mp succeed
  have sweepable := (Transition.succeeds_iff_sweepable rfl kept).mp headSucceeds
  have after := Transition.after_of_sweepable rfl kept sweepable
  have follow : sweeps db warning expiry (now :: rest) = ⟨db, now, .sweep warning expiry⟩ ::
      sweeps (Transition.mk db now (.sweep warning expiry)).after warning expiry rest := rfl
  have ends : final db warning expiry (now :: rest) =
      final (Transition.mk db now (.sweep warning expiry)).after warning expiry rest := rfl
  rw [after] at follow ends
  refine ⟨sweepable, follow, ends, ?_⟩
  intro x member
  rw [← after] at member
  exact restSucceed x member

/-- Every sweep of a schedule that succeeds meets a table with the same guard and with distinct ids,
on which it succeeds. -/
theorem met_of_succeeds (db : Database) (t : Table) (readings : List Instant)
    (kept : db.subscriptions = some t) (keyed : t.Keyed)
    (succeed : ∀ x ∈ sweeps db warning expiry readings, x.Succeeds)
    (x : Transition) (member : x ∈ sweeps db warning expiry readings) :
    x.operation = .sweep warning expiry ∧ ∃ met, x.before.subscriptions = some met ∧
      met.guard = t.guard ∧ met.Keyed ∧
      met.Sweepable (x.now.cutoff expiry) (x.now.cutoff warning) := by
  induction readings generalizing db t with
  | nil => exact nomatch member
  | cons now rest inductionHypothesis =>
    obtain ⟨sweepable, follow, _, restSucceed⟩ := head_of_succeeds warning expiry kept succeed
    rw [follow] at member
    rcases List.mem_cons.mp member with rfl | later
    · exact ⟨rfl, t, kept, rfl, keyed, sweepable⟩
    · exact inductionHypothesis _ (t.passed (now.cutoff expiry) (now.cutoff warning)) rfl
        (t.keyed_passed _ _ keyed) restSucceed later

/-- A row that a sweep of a schedule meets and that is due at some cutoff was there at the start. -/
theorem mem_of_due_later (db : Database) (t : Table) (readings : List Instant)
    (kept : db.subscriptions = some t)
    (succeed : ∀ x ∈ sweeps db warning expiry readings, x.Succeeds)
    (x : Transition) (member : x ∈ sweeps db warning expiry readings)
    (row : Row) (present : row ∈ x.before.rows) (cutoff : Int) (due : row.isDue cutoff = true) :
    row ∈ t.rows := by
  induction readings generalizing db t with
  | nil => exact nomatch member
  | cons now rest inductionHypothesis =>
    obtain ⟨_, follow, _, restSucceed⟩ := head_of_succeeds warning expiry kept succeed
    rw [follow] at member
    rcases List.mem_cons.mp member with rfl | later
    · exact db.rows_of_kept t kept ▸ present
    · have met := inductionHypothesis _ _ rfl restSucceed later
      exact (t.before_of_due_passed _ _ row met cutoff due).1

/-- A row that is due at the last reading of a schedule is met by a sweep for which it is due. -/
theorem met_of_due (db : Database) (t : Table) (earlier : List Instant) (last : Instant)
    (kept : db.subscriptions = some t)
    (succeed : ∀ x ∈ sweeps db warning expiry (earlier ++ [last]), x.Succeeds)
    (row : Row) (present : row ∈ t.rows) (due : row.isDue (last.cutoff warning) = true) :
    ∃ x ∈ sweeps db warning expiry (earlier ++ [last]), row ∈ x.before.rows ∧
      row.isDue (x.now.cutoff warning) = true := by
  induction earlier generalizing db t with
  | nil =>
    exact ⟨_, List.mem_cons_self, db.rows_of_kept t kept ▸ present, due⟩
  | cons now rest inductionHypothesis =>
    rw [List.cons_append] at succeed ⊢
    obtain ⟨_, follow, _, restSucceed⟩ := head_of_succeeds warning expiry kept succeed
    rw [follow]
    by_cases already : row.isDue (now.cutoff warning) = true
    · exact ⟨_, List.mem_cons_self, db.rows_of_kept t kept ▸ present, already⟩
    · have stays := t.mem_passed_of_idle (now.cutoff expiry) (now.cutoff warning) row present
        (Bool.not_eq_true _ ▸ already) (row.not_expired_of_due _ _ due)
      obtain ⟨x, later, met⟩ := inductionHypothesis _ _ rfl restSucceed stays
      exact ⟨x, List.mem_cons_of_mem _ later, met⟩

/-- If a schedule succeeds, a single sweep at its last reading would have succeeded. -/
theorem sweepable_last (db : Database) (t : Table) (earlier : List Instant) (last : Instant)
    (kept : db.subscriptions = some t)
    (succeed : ∀ x ∈ sweeps db warning expiry (earlier ++ [last]), x.Succeeds) :
    t.Sweepable (last.cutoff expiry) (last.cutoff warning) := by
  induction earlier generalizing db t with
  | nil => exact (Transition.succeeds_iff_sweepable rfl kept).mp (succeed _ List.mem_cons_self)
  | cons now rest inductionHypothesis =>
    obtain ⟨sweepable, _, _, restSucceed⟩ := head_of_succeeds warning expiry kept succeed
    have later := inductionHypothesis _ _ rfl restSucceed
    refine ⟨sweepable.flagged, ?_⟩
    intro row present
    refine (sweepable.rows row present).later ?_
    intro undue unexpired
    exact later.rows row (t.mem_passed_of_idle _ _ row present undue unexpired)

/-- A schedule that succeeds leaves each row what its sweeps leave of it one after another. -/
theorem final_of_succeeds (db : Database) (t : Table) (readings : List Instant)
    (kept : db.subscriptions = some t)
    (succeed : ∀ x ∈ sweeps db warning expiry readings, x.Succeeds) :
    final db warning expiry readings =
      db.withTable { t with rows := t.rows.filterMap (left t.guard warning expiry readings) } := by
  induction readings generalizing db t with
  | nil =>
    have same : t.rows.filterMap (left t.guard warning expiry []) = t.rows := List.filterMap_some
    rw [same]
    exact (Database.withTable_of_kept db t kept).symm
  | cons now rest inductionHypothesis =>
    obtain ⟨_, _, ends, restSucceed⟩ := head_of_succeeds warning expiry kept succeed
    have later := inductionHypothesis _ _ rfl restSucceed
    rw [ends, later]
    simp only [Table.passed, List.filterMap_filterMap]
    rfl

end Runs

/-- A sweep of a schedule has one of its readings. -/
theorem now_mem (db : Database) (warning expiry : Span) (readings : List Instant) (x : Transition)
    (member : x ∈ sweeps db warning expiry readings) : x.now ∈ readings := by
  induction readings generalizing db with
  | nil => exact nomatch member
  | cons now rest inductionHypothesis =>
    rcases List.mem_cons.mp member with rfl | later
    · exact List.mem_cons_self
    · exact List.mem_cons_of_mem now (inductionHypothesis _ later)

/-- No reading of an ascending schedule lies after the last one. -/
theorem le_last (earlier : List Instant) (last now : Instant)
    (ascending : Ascending (earlier ++ [last])) (member : now ∈ earlier ++ [last]) :
    now.millis ≤ last.millis := by
  rcases List.mem_append.mp member with before | same
  · exact (List.pairwise_append.mp ascending).2.2 now before last List.mem_cons_self
  · exact List.mem_singleton.mp same ▸ Int.le_refl _

section Whole

variable {db : Database} {t : Table} {warning expiry : Span} {earlier : List Instant}
  {last : Instant} (kept : db.subscriptions = some t) (keyed : t.Keyed)
  (ascending : Ascending (earlier ++ [last]))
  (succeed : ∀ x ∈ sweeps db warning expiry (earlier ++ [last]), x.Succeeds)

include kept ascending succeed

/-- The rows that are due for some sweep of a schedule are those that are due at its last reading at
the start. -/
theorem due_iff (row : Row) :
    (∃ x ∈ sweeps db warning expiry (earlier ++ [last]), row ∈ x.before.rows ∧
      row.isDue (x.now.cutoff warning) = true) ↔
        row ∈ t.rows ∧ row.isDue (last.cutoff warning) = true := by
  constructor
  · rintro ⟨x, member, present, due⟩
    constructor
    · exact mem_of_due_later warning expiry db t _ kept succeed x member row present _ due
    · have ordered := le_last earlier last x.now ascending (now_mem db warning expiry _ x member)
      exact row.isDue_mono (Instant.cutoff_mono ordered warning) due
  · rintro ⟨present, due⟩
    exact met_of_due warning expiry db t earlier last kept succeed row present due

include keyed

/-- A schedule flips the rows that its last sweep alone would have flipped. -/
theorem flips_iff_single (row : Row) :
    (∃ x ∈ sweeps db warning expiry (earlier ++ [last]), x.Flips row) ↔
      (Transition.mk db last (.sweep warning expiry)).Flips row := by
  have single := Transition.flips_iff (x := ⟨db, last, .sweep warning expiry⟩) rfl kept
    (sweepable_last warning expiry db t earlier last kept succeed) keyed row
  rw [single, ← and_assoc, ← due_iff kept ascending succeed]
  constructor
  · rintro ⟨x, member, flips⟩
    obtain ⟨isSweep, met, meets, guard, metKeyed, sweepable⟩ :=
      met_of_succeeds warning expiry db t _ kept keyed succeed x member
    obtain ⟨present, due, unstopped⟩ :=
      (Transition.flips_iff isSweep meets sweepable metKeyed row).mp flips
    exact ⟨⟨x, member, Database.rows_of_kept _ met meets ▸ present, due⟩, guard ▸ unstopped⟩
  · rintro ⟨⟨x, member, present, due⟩, unstopped⟩
    obtain ⟨isSweep, met, meets, guard, metKeyed, sweepable⟩ :=
      met_of_succeeds warning expiry db t _ kept keyed succeed x member
    rw [Database.rows_of_kept _ met meets] at present
    rw [← guard] at unstopped
    exact ⟨x, member, (Transition.flips_iff isSweep meets sweepable metKeyed row).mpr
      ⟨present, due, unstopped⟩⟩

/-- A schedule hands out the targets that its last sweep alone would have handed out. -/
theorem targets_iff_single (target : PushTarget) :
    (∃ x ∈ sweeps db warning expiry (earlier ++ [last]), target ∈ x.targets) ↔
      target ∈ (Transition.mk db last (.sweep warning expiry)).targets := by
  have single := Transition.mem_targets_of_sweepable (x := ⟨db, last, .sweep warning expiry⟩) rfl
    kept (sweepable_last warning expiry db t earlier last kept succeed) target
  rw [single]
  constructor
  · rintro ⟨x, member, announced⟩
    obtain ⟨isSweep, met, meets, _, _, sweepable⟩ :=
      met_of_succeeds warning expiry db t _ kept keyed succeed x member
    obtain ⟨row, present, due, named⟩ :=
      (Transition.mem_targets_of_sweepable isSweep meets sweepable target).mp announced
    have found : row ∈ x.before.rows := Database.rows_of_kept _ met meets ▸ present
    obtain ⟨start, late⟩ := (due_iff kept ascending succeed row).mp ⟨x, member, found, due⟩
    exact ⟨row, start, late, named⟩
  · rintro ⟨row, present, due, named⟩
    obtain ⟨x, member, found, reached⟩ := (due_iff kept ascending succeed row).mpr ⟨present, due⟩
    obtain ⟨isSweep, met, meets, _, _, sweepable⟩ :=
      met_of_succeeds warning expiry db t _ kept keyed succeed x member
    rw [Database.rows_of_kept _ met meets] at found
    exact ⟨x, member, (Transition.mem_targets_of_sweepable isSweep meets sweepable target).mpr
      ⟨row, found, reached, named⟩⟩

end Whole

/-- No two sweeps of a schedule flip a row of the same id: after the first of them the row is
warned, and no sweep gives its id to another. -/
theorem flipped_once (warning expiry : Span) (db : Database) (t : Table) (readings : List Instant)
    (kept : db.subscriptions = some t) (keyed : t.Keyed)
    (succeed : ∀ x ∈ sweeps db warning expiry readings, x.Succeeds) :
    (sweeps db warning expiry readings).Pairwise fun x y =>
      ∀ row other, x.Flips row → y.Flips other → row.id ≠ other.id := by
  induction readings generalizing db t with
  | nil => exact List.Pairwise.nil
  | cons now rest inductionHypothesis =>
    obtain ⟨sweepable, follow, _, restSucceed⟩ := head_of_succeeds warning expiry kept succeed
    have stillKeyed := t.keyed_passed (now.cutoff expiry) (now.cutoff warning) keyed
    rw [follow]
    refine List.pairwise_cons.mpr ⟨?_, inductionHypothesis _ _ rfl stillKeyed restSucceed⟩
    intro y later row other flips again same
    obtain ⟨_, _, _, warned⟩ := flips
    rw [Transition.after_of_sweepable rfl kept sweepable] at warned
    obtain ⟨isSweep, met, meets, _, metKeyed, metSweepable⟩ :=
      met_of_succeeds warning expiry _ _ rest rfl stillKeyed restSucceed y later
    obtain ⟨_, due, _⟩ := (Transition.flips_iff isSweep meets metSweepable metKeyed other).mp again
    have present := mem_of_due_later warning expiry _ _ rest rfl restSucceed y later other
      again.2.1 _ due
    obtain rfl : other = row.warned := stillKeyed.unique other row.warned present warned same.symm
    rw [row.warned.not_due_of_warned _ row.isWarned_warned] at due
    exact nomatch due

end Schedule

/-- No guard makes a statement pass over flags in silence. -/
def Table.FlagsReached (t : Table) : Prop :=
  ∀ g, t.guard = some g → g.moment = .flag → g.message.isSome = true

namespace Table

/-- Without a guard nothing is passed over. -/
theorem flagsReached_of_unguarded (t : Table) (unguarded : t.guard = none) : t.FlagsReached := by
  intro g guarded
  exact nomatch unguarded.symm.trans guarded

variable {t : Table} {expireBefore warnBefore : Int}
  (sweepable : t.Sweepable expireBefore warnBefore)

include sweepable

/-- Where no guard passes over flags in silence, a sweep that succeeds flags all that is due. -/
theorem unstopped_of_sweepable (reached : t.FlagsReached) (row : Row) (present : row ∈ t.rows)
    (due : row.isDue warnBefore = true) : Guard.stops t.guard .flag row.toContent = false := by
  have unrefused := (sweepable.rows row present).flaggable due
  cases guarded : t.guard with
  | none => rfl
  | some g =>
    rw [guarded] at unrefused
    by_contra stopped
    have watching : g.watches .flag row.toContent = true := by
      simpa [Guard.stops] using stopped
    have moment : g.moment = .flag := by
      simpa using (Bool.and_eq_true_iff.mp watching).1
    have speaks := reached g guarded moment
    simp only [Guard.refusal?, Option.bind_some, watching, if_true] at unrefused
    rw [unrefused] at speaks
    cases speaks

/-- A sweep that succeeds and that nothing passes over leaves nothing that is due at its cutoff. -/
theorem not_due_of_passed (reached : t.FlagsReached) (row : Row)
    (member : row ∈ (t.passed expireBefore warnBefore).rows) : row.isDue warnBefore = false := by
  by_contra due
  have again : row.isDue warnBefore = true := Bool.not_eq_false _ ▸ due
  obtain ⟨present, stopped⟩ := t.before_of_due_passed expireBefore warnBefore row member _ again
  rw [unstopped_of_sweepable sweepable reached row present again] at stopped
  exact nomatch stopped again

omit sweepable in
/-- A third sweep at the same cutoffs finds nothing left to do. -/
theorem passed_twice_settled (t : Table) (expireBefore warnBefore : Int) :
    ((t.passed expireBefore warnBefore).passed expireBefore warnBefore).passed expireBefore
        warnBefore =
      (t.passed expireBefore warnBefore).passed expireBefore warnBefore := by
  simp only [passed, Table.mk.injEq, true_and, and_true]
  rw [List.filterMap_filterMap]
  refine List.filterMap_congr ?_
  intro row member
  refine row.pass_settled t.guard expireBefore warnBefore ?_
  intro due
  exact (t.before_of_due_passed expireBefore warnBefore row member _ due).2 due

end Table

namespace Transition

/-- The same operation once more, at the same reading. -/
def again (x : Transition) : Transition := ⟨x.after, x.now, x.operation⟩

/-- The reading is the same. -/
theorem now_again (x : Transition) : x.again.now = x.now := rfl

section FixedClock

variable {x : Transition} {t : Table} {warning expiry : Span}
  (sweeps : x.operation = .sweep warning expiry) (kept : x.before.subscriptions = some t)
  (sweepable : t.Sweepable (x.now.cutoff expiry) (x.now.cutoff warning))

include sweeps kept sweepable

/-- A sweep that succeeded, carried out again, meets the rows that have passed. -/
theorem subscriptions_again : x.again.before.subscriptions =
    some (t.passed (x.now.cutoff expiry) (x.now.cutoff warning)) :=
  congrArg Database.subscriptions (after_of_sweepable sweeps kept sweepable)

/-- A sweep that succeeded hands out no targets if it is carried out again, unless a guard has let
it pass over a flag. -/
theorem targets_again (reached : t.FlagsReached) : x.again.targets = [] := by
  have left := subscriptions_again sweeps kept sweepable
  refine List.eq_nil_iff_forall_not_mem.mpr ?_
  intro target announced
  by_cases still : (t.passed (x.now.cutoff expiry) (x.now.cutoff warning)).Sweepable
      (x.now.cutoff expiry) (x.now.cutoff warning)
  · obtain ⟨row, member, due, _⟩ :=
      (mem_targets_of_sweepable (x := x.again) sweeps left still target).mp announced
    rw [now_again, Table.not_due_of_passed sweepable reached row member] at due
    exact nomatch due
  · rw [targets_of_unsweepable (x := x.again) sweeps left still] at announced
    exact nomatch announced

/-- A sweep that succeeded changes nothing if it is carried out a third time. -/
theorem after_again_again : x.again.again.after = x.again.after := by
  have left := subscriptions_again sweeps kept sweepable
  by_cases still : (t.passed (x.now.cutoff expiry) (x.now.cutoff warning)).Sweepable
      (x.now.cutoff expiry) (x.now.cutoff warning)
  · have leftAgain := subscriptions_again (x := x.again) sweeps left still
    by_cases yet : ((t.passed (x.now.cutoff expiry) (x.now.cutoff warning)).passed
        (x.now.cutoff expiry) (x.now.cutoff warning)).Sweepable (x.now.cutoff expiry)
        (x.now.cutoff warning)
    · calc x.again.again.after
          = x.again.after.withTable (((t.passed _ _).passed _ _).passed _ _) :=
            after_of_sweepable (x := x.again.again) sweeps leftAgain yet
        _ = x.again.after.withTable ((t.passed _ _).passed _ _) :=
            congrArg x.again.after.withTable (t.passed_twice_settled _ _)
        _ = x.again.after := Database.withTable_of_kept _ _ leftAgain
    · exact after_of_unsweepable (x := x.again.again) sweeps leftAgain yet
  · -- the second time it fails, so the third time it meets the same database and fails again
    have same : x.again.after = x.after := after_of_unsweepable (x := x.again) sweeps left still
    have repeats : x.again.again = x.again := congrArg (Transition.mk · x.now x.operation) same
    rw [repeats]

end FixedClock

end Transition

namespace Schedule

/-- Sweeps with the same spans, one at each of an ascending sequence of readings, flip the rows and
hand out the targets that the last of them alone would have flipped and handed out, whatever the
table holds, as long as they succeed. No row is flipped twice. With one more sweep at the last
reading, every schedule that ends there leaves the same database. Of sweeps at one and the same
reading the second hands out no targets, if no guard passes over flags in silence, and the third
changes nothing. -/
theorem sweeps_as_one (db : Database) (t : Table) (kept : db.subscriptions = some t)
    (keyed : t.Keyed) (warning expiry : Span) (earlier : List Instant) (last : Instant)
    (ascending : Ascending (earlier ++ [last]))
    (succeed : ∀ x ∈ sweeps db warning expiry (earlier ++ [last]), x.Succeeds) :
    (Transition.mk db last (.sweep warning expiry)).Succeeds ∧
    (∀ row, (∃ x ∈ sweeps db warning expiry (earlier ++ [last]), x.Flips row) ↔
      (Transition.mk db last (.sweep warning expiry)).Flips row) ∧
    (∀ target, (∃ x ∈ sweeps db warning expiry (earlier ++ [last]), target ∈ x.targets) ↔
      target ∈ (Transition.mk db last (.sweep warning expiry)).targets) ∧
    ((sweeps db warning expiry (earlier ++ [last])).Pairwise fun x y =>
      ∀ row other, x.Flips row → y.Flips other → row.id ≠ other.id) ∧
    (∀ others, Ascending (others ++ [last]) →
      (∀ x ∈ sweeps db warning expiry (earlier ++ [last, last]), x.Succeeds) →
      (∀ x ∈ sweeps db warning expiry (others ++ [last, last]), x.Succeeds) →
      final db warning expiry (earlier ++ [last, last]) =
        final db warning expiry (others ++ [last, last])) ∧
    (t.FlagsReached → (Transition.mk db last (.sweep warning expiry)).again.targets = []) ∧
    (Transition.mk db last (.sweep warning expiry)).again.again.after =
      (Transition.mk db last (.sweep warning expiry)).again.after := by
  have sweepable := sweepable_last warning expiry db t earlier last kept succeed
  refine ⟨(Transition.succeeds_iff_sweepable rfl kept).mpr sweepable,
    flips_iff_single kept keyed ascending succeed,
    targets_iff_single kept keyed ascending succeed,
    flipped_once warning expiry db t _ kept keyed succeed, ?_,
    Transition.targets_again rfl kept sweepable, Transition.after_again_again rfl kept sweepable⟩
  intro others ascendingOthers extended extendedOthers
  have settled := left_twice t.guard warning expiry earlier last ascending
  have settledOthers := left_twice t.guard warning expiry others last ascendingOthers
  rw [final_of_succeeds warning expiry db t _ kept extended,
    final_of_succeeds warning expiry db t _ kept extendedOthers, funext settled,
    funext settledOthers]

/-- A row past both spans is flagged by the first of two sweeps and deleted by the second, while a
single sweep would only flag it. Both flag the same row and hand out its target, and one more sweep
leaves the same. -/
theorem row_past_both_spans :
    let db := (Resubscription.session 1 1).database
    let later := Instant.ofMillis 1
    let single : Transition := ⟨db, later, .sweep ⟨0⟩ ⟨0⟩⟩
    db.subscriptions = some (Resubscription.table 1 1) ∧ (Resubscription.table 1 1).Keyed ∧
    (Resubscription.table 1 1).FlagsReached ∧ Ascending [.epoch, later] ∧
    (∀ x ∈ sweeps db ⟨0⟩ ⟨0⟩ [.epoch, later], x.Succeeds) ∧
    single.Flips (Resubscription.row 1) ∧
    (∀ target, (∃ x ∈ sweeps db ⟨0⟩ ⟨0⟩ [.epoch, later], target ∈ x.targets) ↔
      target ∈ single.targets) ∧
    final db ⟨0⟩ ⟨0⟩ [.epoch, later] ≠ final db ⟨0⟩ ⟨0⟩ [later] ∧
    final db ⟨0⟩ ⟨0⟩ [.epoch, later, later] = final db ⟨0⟩ ⟨0⟩ [later, later] ∧
    single.again.targets = [] := by
  intro db later single
  have reached := (Resubscription.table 1 1).flagsReached_of_unguarded rfl
  have ascending : Ascending [.epoch, later] := by
    unfold Ascending
    decide +kernel
  have succeed : ∀ x ∈ sweeps db ⟨0⟩ ⟨0⟩ [.epoch, later], x.Succeeds := by
    decide +kernel
  obtain ⟨_, flips, targets, _, settles, silent, _⟩ :=
    sweeps_as_one db (Resubscription.table 1 1) rfl (Resubscription.keyed 1 1) ⟨0⟩ ⟨0⟩ [.epoch]
      later ascending succeed
  have flipped : (Transition.mk db .epoch (.sweep ⟨0⟩ ⟨0⟩)).Flips (Resubscription.row 1) :=
    ⟨⟨_, _, rfl⟩, by decide +kernel, nofun, by decide +kernel⟩
  refine ⟨rfl, Resubscription.keyed 1 1, reached, ascending, succeed, ?_, targets, ?_, ?_,
    silent reached⟩
  · exact (flips (Resubscription.row 1)).mp ⟨_, List.mem_cons_self, flipped⟩
  · decide +kernel
  · exact settles [] (List.pairwise_singleton _ _) (by decide +kernel) (by decide +kernel)

end Schedule

end PushLedger
