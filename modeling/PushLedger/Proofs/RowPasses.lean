import PushLedger.Proofs.Comparison
import PushLedger.Proofs.Invariants

/-!
# A sweep row by row

A sweep deals with each row for itself: the row goes, or its flag is set, or it stays as it is. This
is so on every table, whatever its cells hold, and under every guard. Rows that are due and rows
that are expired exclude each other, so the deletion at the start of a sweep takes no row away from
the notices that follow.

Cutoffs move forwards with the clock. What an earlier sweep does to a row, the next two sweeps at a
later cutoff do as well, and this is all that a schedule of sweeps rests on.
-/

namespace PushLedger

/-- A later reading has a later cutoff. -/
theorem Instant.cutoff_mono {early late : Instant} (ordered : early.millis ≤ late.millis)
    (d : Span) : early.cutoff d ≤ late.cutoff d := by
  have shifted : early.millis - d.millis ≤ late.millis - d.millis := by omega
  exact Word.saturate_mono shifted

namespace Row

/-- A row that is due is not expired, for its flag is not both zero and one. -/
theorem not_expired_of_due (row : Row) (expireBefore warnBefore : Int)
    (due : row.isDue warnBefore = true) : row.isExpired expireBefore = false := by
  have unset : row.warningSent.isInteger 0 = true := (Bool.and_eq_true_iff.mp due).1
  cases set : row.warningSent.isInteger 1 with
  | false => simp [isExpired, set]
  | true =>
    have same : (0 : Int) = 1 := row.warningSent.isInteger_unique 0 1 unset set
    omega

/-- A row that is due at a cutoff is due at every later one. -/
theorem isDue_mono (row : Row) {early late : Int} (ordered : early ≤ late)
    (due : row.isDue early = true) : row.isDue late = true := by
  obtain ⟨unset, old⟩ := Bool.and_eq_true_iff.mp due
  exact Bool.and_eq_true_iff.mpr ⟨unset, row.updatedAt.atMost_mono ordered old⟩

/-- A row that is expired at a cutoff is expired at every later one. -/
theorem isExpired_mono (row : Row) {early late : Int} (ordered : early ≤ late)
    (expired : row.isExpired early = true) : row.isExpired late = true := by
  obtain ⟨set, old⟩ := Bool.and_eq_true_iff.mp expired
  exact Bool.and_eq_true_iff.mpr ⟨set, row.updatedAt.atMost_mono ordered old⟩

/-- What a sweep that succeeds leaves of a row. A guard may let the deletion or the setting of the
flag pass over it. -/
def pass (guard : Option Guard) (expireBefore warnBefore : Int) (row : Row) : Option Row :=
  if row.isExpired expireBefore && !Guard.stops guard .delete row.toContent then none
  else if row.isDue warnBefore && !Guard.stops guard .flag row.toContent then some row.warned
  else some row

section Passes

variable (guard : Option Guard) (expireBefore warnBefore : Int) (row : Row)

/-- A row that is due is flagged, unless the guard passes over it. -/
theorem pass_of_due (due : row.isDue warnBefore = true)
    (unstopped : Guard.stops guard .flag row.toContent = false) :
    row.pass guard expireBefore warnBefore = some row.warned := by
  simp [pass, row.not_expired_of_due expireBefore warnBefore due, due, unstopped]

/-- A row that is neither due nor expired stays as it is. -/
theorem pass_of_idle (due : row.isDue warnBefore = false)
    (expired : row.isExpired expireBefore = false) :
    row.pass guard expireBefore warnBefore = some row := by
  simp [pass, due, expired]

/-- What is left of a row is the row, or the row with its flag set if it was due. -/
theorem pass_eq_some (left : Row) (passed : row.pass guard expireBefore warnBefore = some left) :
    left = row ∧ (row.isDue warnBefore = true → Guard.stops guard .flag row.toContent = true) ∨
      left = row.warned ∧ row.isDue warnBefore = true ∧
        Guard.stops guard .flag row.toContent = false := by
  unfold pass at passed
  split at passed
  · exact nomatch passed
  · split at passed
    · rename_i flagged
      obtain ⟨due, unstopped⟩ := Bool.and_eq_true_iff.mp flagged
      right
      exact ⟨(Option.some.inj passed).symm, due, by simpa using unstopped⟩
    · rename_i unflagged
      left
      constructor
      · exact (Option.some.inj passed).symm
      · intro due
        simpa [due] using unflagged

/-- A sweep leaves the id of a row alone. -/
theorem id_of_pass (left : Row) (passed : row.pass guard expireBefore warnBefore = some left) :
    left.id = row.id := by
  rcases row.pass_eq_some guard expireBefore warnBefore left passed with ⟨rfl, _⟩ | ⟨rfl, _⟩ <;> rfl

/-- A second sweep at the same cutoffs does nothing more to a row that the first has not flagged. -/
theorem pass_settled
    (idle : row.isDue warnBefore = true → Guard.stops guard .flag row.toContent = true) :
    (row.pass guard expireBefore warnBefore).bind (pass guard expireBefore warnBefore) =
      row.pass guard expireBefore warnBefore := by
  cases passed : row.pass guard expireBefore warnBefore with
  | none => rfl
  | some left =>
    rcases row.pass_eq_some guard expireBefore warnBefore left passed with
      ⟨rfl, _⟩ | ⟨_, due, unstopped⟩
    · exact passed
    · rw [idle due] at unstopped
      exact nomatch unstopped

end Passes

/-- Two sweeps at later cutoffs leave the same of a row, whether or not a sweep at earlier ones came
before them. -/
theorem pass_early (guard : Option Guard) {expireEarly expireLate warnEarly warnLate : Int}
    (expireOrdered : expireEarly ≤ expireLate) (warnOrdered : warnEarly ≤ warnLate) (row : Row) :
    (row.pass guard expireEarly warnEarly).bind
        (fun left => (left.pass guard expireLate warnLate).bind (pass guard expireLate warnLate)) =
      (row.pass guard expireLate warnLate).bind (pass guard expireLate warnLate) := by
  cases early : row.pass guard expireEarly warnEarly with
  | none =>
    -- the early sweep deletes the row, and so does the late one
    have late : row.pass guard expireLate warnLate = none := by
      unfold pass at early
      split at early
      · rename_i lost
        obtain ⟨expired, unstopped⟩ := Bool.and_eq_true_iff.mp lost
        simp [pass, row.isExpired_mono expireOrdered expired, unstopped]
      · split at early <;> exact nomatch early
    rw [late]
    rfl
  | some left =>
    rcases row.pass_eq_some guard expireEarly warnEarly left early with
      ⟨rfl, _⟩ | ⟨rfl, due, unstopped⟩
    · rfl
    · -- the early sweep flags the row; then the first of the late ones has nothing left to flag
      have late :=
        row.pass_of_due guard expireLate warnLate (row.isDue_mono warnOrdered due) unstopped
      rw [late]
      refine row.warned.pass_settled guard expireLate warnLate ?_
      intro again
      rw [row.warned.not_due_of_warned warnLate row.isWarned_warned] at again
      exact nomatch again

/-- Nothing about the row keeps a sweep from succeeding: the guard does not refuse what is to be
done to it, and if it is due, it names a target. -/
structure Sweepable (guard : Option Guard) (expireBefore warnBefore : Int) (row : Row) : Prop where
  deletable : row.isExpired expireBefore = true → Guard.refusal? guard .delete row.toContent = none
  flaggable : row.isDue warnBefore = true → Guard.refusal? guard .flag row.toContent = none
  addressed : row.isDue warnBefore = true → ∃ target, Address.ofRow row = PushTarget.address target

/-- A row keeps a sweep from succeeding at later cutoffs only if it does so at the earlier ones
already, or if it reached none of those. -/
theorem Sweepable.later {guard : Option Guard} {expireEarly expireLate warnEarly warnLate : Int}
    {row : Row} (early : row.Sweepable guard expireEarly warnEarly)
    (untouched : row.isDue warnEarly = false → row.isExpired expireEarly = false →
      row.Sweepable guard expireLate warnLate) : row.Sweepable guard expireLate warnLate := by
  by_cases due : row.isDue warnEarly = true
  · refine ⟨?_, fun _ => early.flaggable due, fun _ => early.addressed due⟩
    intro expired
    rw [row.not_expired_of_due expireLate warnEarly due] at expired
    exact nomatch expired
  · by_cases expired : row.isExpired expireEarly = true
    · have undue (cutoff : Int) : row.isDue cutoff = false := by
        by_contra reached
        rw [row.not_expired_of_due expireEarly cutoff (Bool.not_eq_false _ ▸ reached)] at expired
        exact nomatch expired
      refine ⟨fun _ => early.deletable expired, ?_, ?_⟩ <;>
        (intro reached; rw [undue] at reached; exact nomatch reached)
    · exact untouched (Bool.not_eq_true _ ▸ due) (Bool.not_eq_true _ ▸ expired)

end Row

namespace Table

/-- The table after a sweep that succeeded, row by row. -/
def passed (t : Table) (expireBefore warnBefore : Int) : Table :=
  { t with rows := t.rows.filterMap (Row.pass t.guard expireBefore warnBefore) }

/-- A guard refuses none of the affected rows exactly if it refuses none of them by itself. -/
theorem refusal_eq_none_iff (t : Table) (moment : Moment) (affected : Row → Bool) :
    t.refusal? moment affected = none ↔ ∀ row ∈ t.rows, affected row = true →
      Guard.refusal? t.guard moment row.toContent = none := by
  simp only [refusal?, List.findSome?_eq_none_iff]
  constructor
  · intro unrefused row member reached
    simpa [reached] using unrefused row member
  · intro unrefused row member
    cases reached : affected row with
    | false => rfl
    | true => simpa using unrefused row member reached

/-- Rows that are not due do not bear on the addresses of what is due. -/
theorem dueAddresses_filter (t : Table) (warnBefore : Int) (kept : Row → Bool)
    (spared : ∀ row, row.isDue warnBefore = true → kept row = true) :
    ({ t with rows := t.rows.filter kept } : Table).dueAddresses warnBefore =
      t.dueAddresses warnBefore := by
  have due : (t.rows.filter kept).filter (Row.isDue warnBefore) =
      t.rows.filter (Row.isDue warnBefore) := by
    rw [List.filter_filter]
    refine List.filter_congr ?_
    intro row _
    cases reached : row.isDue warnBefore with
    | false => rfl
    | true => rw [spared row reached, Bool.and_self]
  simp only [dueAddresses, due]

section Targets

variable {t : Table} {warnBefore : Int} {targets : List PushTarget}
  (spelled : t.dueAddresses warnBefore = targets.map PushTarget.address)

include spelled

/-- The same targets spell out the addresses that are left to a sweep. -/
theorem spelled_without : (t.without (Row.isExpired warnBefore)).dueAddresses warnBefore =
    targets.map PushTarget.address := by
  rw [← spelled]
  refine t.dueAddresses_filter warnBefore _ ?_
  intro row due
  rw [row.not_expired_of_due warnBefore warnBefore due, Bool.not_false]

/-- Every row that is due names one of the targets. -/
theorem target_of_due_row (row : Row) (present : row ∈ t.rows) (due : row.isDue warnBefore = true) :
    ∃ target ∈ targets, Address.ofRow row = target.address := by
  have unexpired : row.isExpired warnBefore = false :=
    row.not_expired_of_due warnBefore warnBefore due
  exact target_of_due (spelled_without spelled) row
    ((t.mem_dueRows_iff warnBefore warnBefore row).mpr ⟨present, unexpired, due⟩)

/-- The targets are those that a row names that is due. -/
theorem mem_targets_iff (target : PushTarget) :
    target ∈ targets ↔ ∃ row ∈ t.rows, row.isDue warnBefore = true ∧
      Address.ofRow row = target.address := by
  constructor
  · intro announced
    obtain ⟨row, reached, named⟩ := due_of_target (spelled_without spelled) target announced
    obtain ⟨present, _, due⟩ := (t.mem_dueRows_iff warnBefore warnBefore row).mp reached
    exact ⟨row, present, due, named⟩
  · rintro ⟨row, present, due, named⟩
    obtain ⟨other, announced, also⟩ := target_of_due_row spelled row present due
    exact PushTarget.address_injective (named.symm.trans also) ▸ announced

end Targets

section Sweeps

variable (t : Table) (expireBefore warnBefore : Int)

/-- The table after the deletion at the start of a sweep, under its guard. -/
def unexpired : Table :=
  { t with rows := t.rows.filter fun row => !t.reached .delete (Row.isExpired expireBefore) row }

/-- The deletion spares what is due. -/
theorem spared_of_due (row : Row) (due : row.isDue warnBefore = true) :
    (!t.reached .delete (Row.isExpired expireBefore) row) = true := by
  simp [reached, row.not_expired_of_due expireBefore warnBefore due]

/-- The rows that the two statements of a sweep leave are those into which the rows pass. -/
theorem rows_passed : (t.passed expireBefore warnBefore).rows =
    (t.unexpired expireBefore).rows.map fun row =>
      if t.reached .flag (Row.isDue warnBefore) row then row.warned else row := by
  simp only [passed, unexpired]
  induction t.rows with
  | nil => rfl
  | cons row rest inductionHypothesis =>
    by_cases lost : t.reached .delete (Row.isExpired expireBefore) row = true
    · have gone : row.pass t.guard expireBefore warnBefore = none := if_pos lost
      simp [gone, lost, inductionHypothesis]
    · have kept : row.pass t.guard expireBefore warnBefore =
          if t.reached .flag (Row.isDue warnBefore) row then some row.warned else some row :=
        if_neg lost
      simp [kept, lost, inductionHypothesis, ← apply_ite some]

/-- A deletion that is not refused leaves what is not expired, or what the guard passes over. -/
theorem delete_unexpired (deletable : t.refusal? .delete (Row.isExpired expireBefore) = none) :
    t.delete (Row.isExpired expireBefore) = .ok (t.unexpired expireBefore,
      t.rows.countP (t.reached .delete (Row.isExpired expireBefore))) := by
  simp only [delete, deletable, unexpired]

/-- A sweep that is not refused deletes, reads the addresses of what is due, and flags. -/
theorem sweep_unrefused
    (deletable : t.refusal? .delete (Row.isExpired expireBefore) = none)
    (flaggable : (t.unexpired expireBefore).refusal? .flag (Row.isDue warnBefore) = none) :
    t.sweep expireBefore warnBefore =
      (t.dueAddresses warnBefore).mapM Address.read >>= fun targets =>
        .ok (t.passed expireBefore warnBefore,
          { expired := t.rows.countP (t.reached .delete (Row.isExpired expireBefore))
            warned :=
              (t.unexpired expireBefore).rows.countP (t.reached .flag (Row.isDue warnBefore))
            targets }) := by
  have flagged : (t.unexpired expireBefore).flag (Row.isDue warnBefore) =
      .ok (t.passed expireBefore warnBefore,
        (t.unexpired expireBefore).rows.countP (t.reached .flag (Row.isDue warnBefore))) := by
    simp only [flag, flaggable]
    congr 2
    exact congrArg (fun rows => { t with rows }) (t.rows_passed expireBefore warnBefore).symm
  have addresses : (t.unexpired expireBefore).dueAddresses warnBefore = t.dueAddresses warnBefore :=
    t.dueAddresses_filter warnBefore _ (t.spared_of_due expireBefore warnBefore)
  simp only [sweep, t.delete_unexpired expireBefore deletable, addresses, flagged, ok_bind,
    pure_eq_ok]

/-- A sweep is refused neither at its deletion nor at its flags exactly if the guard refuses no row
by itself. -/
theorem unrefused_iff :
    t.refusal? .delete (Row.isExpired expireBefore) = none ∧
        (t.unexpired expireBefore).refusal? .flag (Row.isDue warnBefore) = none ↔
      ∀ row ∈ t.rows,
        (row.isExpired expireBefore = true →
          Guard.refusal? t.guard .delete row.toContent = none) ∧
        (row.isDue warnBefore = true → Guard.refusal? t.guard .flag row.toContent = none) := by
  rw [refusal_eq_none_iff, refusal_eq_none_iff]
  constructor
  · rintro ⟨deletable, flaggable⟩ row member
    constructor
    · exact deletable row member
    · intro due
      have left : row ∈ (t.unexpired expireBefore).rows :=
        List.mem_filter.mpr ⟨member, t.spared_of_due expireBefore warnBefore row due⟩
      exact flaggable row left due
  · intro unrefused
    constructor
    · intro row member expired
      exact (unrefused row member).1 expired
    · intro row left due
      exact (unrefused row (List.mem_filter.mp left).1).2 due

/-- If nothing about any row keeps a sweep from succeeding, it succeeds, and the rows pass. -/
theorem sweep_of_sweepable
    (sweepable : ∀ row ∈ t.rows, row.Sweepable t.guard expireBefore warnBefore) :
    ∃ report, t.sweep expireBefore warnBefore = .ok (t.passed expireBefore warnBefore, report) := by
  obtain ⟨deletable, flaggable⟩ := (t.unrefused_iff expireBefore warnBefore).mpr
    fun row member => ⟨(sweepable row member).deletable, (sweepable row member).flaggable⟩
  obtain ⟨targets, spelled⟩ := t.dueAddresses_named warnBefore
    fun row member => (sweepable row member).addressed
  have read := (Address.mapM_read_ok_iff _ targets).mpr spelled
  rw [t.sweep_unrefused expireBefore warnBefore deletable flaggable, read]
  exact ⟨_, rfl⟩

/-- If a sweep succeeds, nothing about any row keeps it from doing so. The rows pass, and its
targets spell out the addresses of what was due. -/
theorem sweepable_of_sweep (after : Table) (report : SweepOutcome)
    (done : t.sweep expireBefore warnBefore = .ok (after, report)) :
    (∀ row ∈ t.rows, row.Sweepable t.guard expireBefore warnBefore) ∧
      after = t.passed expireBefore warnBefore ∧
      t.dueAddresses warnBefore = report.targets.map PushTarget.address := by
  have unrefused : t.refusal? .delete (Row.isExpired expireBefore) = none ∧
      (t.unexpired expireBefore).refusal? .flag (Row.isDue warnBefore) = none := by
    cases deletable : t.refusal? .delete (Row.isExpired expireBefore) with
    | some message => simp [sweep, delete, deletable] at done
    | none =>
      simp only [sweep, t.delete_unexpired expireBefore deletable, ok_bind, bind_eq_ok_iff] at done
      obtain ⟨_, _, _, flagged, _⟩ := done
      cases flaggable : (t.unexpired expireBefore).refusal? .flag (Row.isDue warnBefore) with
      | some message => simp [flag, flaggable] at flagged
      | none => exact ⟨rfl, rfl⟩
  rw [t.sweep_unrefused expireBefore warnBefore unrefused.1 unrefused.2, bind_eq_ok_iff] at done
  obtain ⟨targets, read, reported⟩ := done
  obtain ⟨rfl, rfl⟩ := Prod.mk.inj (Except.ok.inj reported)
  have spelled := (Address.mapM_read_ok_iff _ targets).mp read
  refine ⟨?_, rfl, spelled⟩
  intro row member
  obtain ⟨deletable, flaggable⟩ := (t.unrefused_iff expireBefore warnBefore).mp unrefused row member
  refine ⟨deletable, flaggable, ?_⟩
  intro due
  obtain ⟨target, _, named⟩ := target_of_due_row spelled row member due
  exact ⟨target, named⟩

/-- A row that is due after a sweep was there before it, and was not due then unless the guard
passed over it. -/
theorem before_of_due_passed (row : Row) (member : row ∈ (t.passed expireBefore warnBefore).rows)
    (cutoff : Int) (due : row.isDue cutoff = true) :
    row ∈ t.rows ∧
      (row.isDue warnBefore = true → Guard.stops t.guard .flag row.toContent = true) := by
  obtain ⟨old, present, passes⟩ := List.mem_filterMap.mp member
  rcases old.pass_eq_some t.guard expireBefore warnBefore row passes with
    ⟨rfl, skipped⟩ | ⟨rfl, _, _⟩
  · exact ⟨present, skipped⟩
  · rw [old.warned.not_due_of_warned cutoff old.isWarned_warned] at due
    exact nomatch due

/-- A sweep leaves a row that is neither due nor expired as it is. -/
theorem mem_passed_of_idle (row : Row) (present : row ∈ t.rows)
    (undue : row.isDue warnBefore = false) (unexpired : row.isExpired expireBefore = false) :
    row ∈ (t.passed expireBefore warnBefore).rows :=
  List.mem_filterMap.mpr ⟨row, present, row.pass_of_idle t.guard _ _ undue unexpired⟩

/-- A sweep keeps ids distinct. -/
theorem keyed_passed (keyed : t.Keyed) : (t.passed expireBefore warnBefore).Keyed := by
  unfold Keyed at keyed ⊢
  rw [List.Nodup, List.pairwise_map] at keyed ⊢
  refine List.pairwise_filterMap.mpr (keyed.imp ?_)
  intro a b apart left passedA right passedB same
  rw [a.id_of_pass t.guard _ _ left passedA, b.id_of_pass t.guard _ _ right passedB] at same
  exact apart same

end Sweeps
end Table
end PushLedger
