import PushLedger.Proofs.Invariants
import PushLedger.Proofs.Opening

/-!
# What operations leave alone

An operation of a store writes rows, and nothing of the database besides. Only the closing and opening
of the store may do more, by an update. All of this holds on every database, whatever the operation
finds there and whether it succeeds.

What a store keeps true of its table is said once: a property lasts if it survives the loss of rows,
a checked request, a sweep and another rebuild. Then it survives every run.
-/

namespace PushLedger

namespace Database

/-- A change that writes the subscription table only, or fails, changes nothing beside it. -/
theorem alikeBeside_transact {α : Type} (db : Database)
    (change : Except StorageFault (Database × α)) (events : α → List Event)
    (writes : ∀ changed value, change = .ok (changed, value) → db.AlikeBeside changed) :
    db.AlikeBeside (Outcome.transact db change events).database := by
  cases change with
  | error fault => exact .refl db
  | ok pair => exact writes pair.1 pair.2 rfl

/-- The replacement of rows writes the subscription table only. -/
theorem alikeBeside_replaceRows (db changed : Database) (request : NewSubscription) (now : Instant)
    (count : Nat) (done : db.replaceRows request now = .ok (changed, count)) :
    db.AlikeBeside changed := by
  obtain ⟨_, _, selected⟩ := (bind_eq_ok_iff _ _ _).mp done
  obtain ⟨⟨cleared, _⟩, _, written⟩ := (bind_eq_ok_iff _ _ _).mp selected
  by_cases flagged : cleared.layout.flagged = true
  · simp only [flagged, Bool.not_true, Bool.false_eq_true, if_false] at written
    obtain ⟨t, _, stored⟩ := (bind_eq_ok_iff _ _ _).mp written
    obtain ⟨rfl, _⟩ := Prod.mk.inj (Except.ok.inj stored)
    exact db.alikeBeside_withTable t
  · simp [flagged] at written

/-- The deletion of rows writes the subscription table only. -/
theorem alikeBeside_deleteRows (db changed : Database) (column : Column) (selected : Cell → Bool)
    (count : Nat) (done : db.deleteRows column selected = .ok (changed, count)) :
    db.AlikeBeside changed := by
  simp only [deleteRows, bind_eq_ok_iff, pure_eq_ok, Except.ok.injEq, Prod.mk.injEq] at done
  obtain ⟨_, _, pair, _, rfl, _⟩ := done
  exact db.alikeBeside_withTable pair.1

/-- A sweep writes the subscription table only. -/
theorem alikeBeside_sweepRows (db changed : Database) (expireBefore warnBefore : Int)
    (report : SweepOutcome)
    (done : db.sweepRows expireBefore warnBefore = .ok (changed, report)) :
    db.AlikeBeside changed := by
  simp only [sweepRows, bind_eq_ok_iff, pure_eq_ok, Except.ok.injEq, Prod.mk.injEq] at done
  obtain ⟨_, _, pair, _, rfl, _⟩ := done
  exact db.alikeBeside_withTable pair.1

/-- Every operation but the closing and opening of the store writes the subscription table only. -/
theorem alikeBeside_run (db : Database) (operation : Operation) (now : Instant)
    (stays : operation ≠ .reopen) : db.AlikeBeside (operation.run db now).database := by
  cases operation with
  | upsert draft =>
    change db.AlikeBeside (db.upsert draft now).database
    unfold upsert
    split
    · exact .refl db
    · exact alikeBeside_transact db _ _ fun changed count =>
        alikeBeside_replaceRows db changed _ now count
  | lookup topic =>
    change db.AlikeBeside (db.lookup topic).database
    rw [lookup_database]
    exact .refl db
  | removeEndpoint endpoint =>
    exact alikeBeside_transact db _ _ fun changed count =>
      alikeBeside_deleteRows db changed _ _ count
  | removeOwner owner =>
    change db.AlikeBeside (db.removeOwner owner).database
    unfold removeOwner
    split
    · exact .refl db
    · exact alikeBeside_transact db _ _ fun changed count =>
        alikeBeside_deleteRows db changed _ _ count
  | sweep warning expiry =>
    exact alikeBeside_transact db _ _ fun changed report =>
      alikeBeside_sweepRows db changed _ _ report
  | reopen => exact absurd rfl stays

/-- The version that is read depends on the version table only. -/
theorem currentVersion_congr (db other : Database) (same : other.versions = db.versions) :
    other.currentVersion = db.currentVersion := by
  unfold currentVersion hasVersionTable
  rw [same]

end Database

namespace Table

/-- A property of tables that lasts while a store works: it survives the loss of rows, the
replacement of an endpoint's rows by a checked request, a sweep, and another rebuild. -/
structure Lasting (P : Table → Prop) : Prop where
  without : ∀ (t : Table) (selected : Row → Bool), P t → P (t.without selected)
  replaced : ∀ (t : Table) (draft : NewSubscription.Draft) (request : NewSubscription)
    (now : Instant), t.Current → draft.check = .ok request → P t →
      P (Database.replaced t request now)
  swept : ∀ (t : Table) (expireBefore warnBefore : Int), P t → P (t.swept expireBefore warnBefore)
  rebuilt : ∀ t : Table, P t → P (Database.rebuiltTable t)

section Runs

variable {P : Table → Prop} (lasting : Lasting P) {db : Database} {t : Table}
  (kept : db.subscriptions = some t) (current : t.Current) (holds : P t)

include lasting kept current holds

/-- What lasts survives an update. The database need not be up to date, for a stamp may be hidden by
the spelling of its table. -/
theorem Lasting.update :
    ∃ changed, db.update.database.subscriptions = some changed ∧ changed.Current ∧ P changed := by
  rcases Database.update_cases db with same | ⟨version, old, _, _, fit, updated⟩
  · exact ⟨t, same.symm ▸ kept, current, holds⟩
  · obtain rfl : old = t := fit.eq_of_kept kept
    exact ⟨_, updated.symm ▸ rfl, Database.current_rebuiltTable old, lasting.rebuilt old holds⟩

/-- What lasts survives every operation. -/
theorem Lasting.run (operation : Operation) (now : Instant) :
    ∃ changed, (operation.run db now).database.subscriptions = some changed ∧ changed.Current ∧
      P changed := by
  have unchanged {later : Database} (same : later = db) :
      ∃ changed, later.subscriptions = some changed ∧ changed.Current ∧ P changed :=
    ⟨t, same ▸ kept, current, holds⟩
  have reduced {later : Database} (selected : Row → Bool)
      (stored : later = db.withTable (t.without selected)) :
      ∃ changed, later.subscriptions = some changed ∧ changed.Current ∧ P changed :=
    ⟨_, stored ▸ rfl, current_without t selected current, lasting.without t selected holds⟩
  cases operation with
  | upsert draft =>
    rcases Database.upsert_current kept current draft now with
      ⟨_, _, _, same⟩ | ⟨request, checked, _, _, stored⟩ | ⟨_, _, _, _, same⟩
    · exact unchanged same
    · have stillCurrent : (Database.replaced t request now).Current :=
        current_addAll _ _ (current_without t _ current)
      exact ⟨_, congrArg Database.subscriptions stored, stillCurrent,
        lasting.replaced t draft request now current checked holds⟩
    · exact unchanged same
  | lookup topic => exact unchanged (Database.lookup_database db topic)
  | removeEndpoint endpoint =>
    exact reduced _ (Database.removeEndpoint_current kept current endpoint).2
  | removeOwner owner =>
    rcases Database.removeOwner_current kept current owner with ⟨_, _, same⟩ | ⟨_, _, stored⟩
    · exact unchanged same
    · exact reduced _ stored
  | sweep warning expiry =>
    rcases Database.sweep_current kept current warning expiry now with
      ⟨_, _, _, stored⟩ | ⟨_, _, same, _⟩
    · have stillCurrent : (t.swept (now.cutoff expiry) (now.cutoff warning)).Current :=
        current_marked _ _ (current_without t _ current)
      exact ⟨_, congrArg Database.subscriptions stored, stillCurrent, lasting.swept t _ _ holds⟩
    · exact unchanged same
  | reopen => exact lasting.update kept current holds

/-- What lasts survives every run. -/
theorem Lasting.runAll (steps : List (Instant × Operation)) :
    ∃ changed, (Operation.runAll db steps).2.subscriptions = some changed ∧ changed.Current ∧
      P changed := by
  induction steps generalizing db t with
  | nil => exact ⟨t, kept, current, holds⟩
  | cons step rest inductionHypothesis =>
    obtain ⟨changed, stillKept, stillCurrent, stillHolds⟩ :=
      lasting.run kept current holds step.2 step.1
    exact inductionHypothesis stillKept stillCurrent stillHolds

end Runs

end Table
end PushLedger
