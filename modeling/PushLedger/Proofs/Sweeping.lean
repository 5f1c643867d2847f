import Mathlib.Data.List.Nodup
import Mathlib.Data.Set.List
import PushLedger.Ledger.Sweep
import PushLedger.Proofs.Replacement

/-!
# The steps of a sweep

On a table without a guard a sweep can fail only while it reads the addresses of the rows that are
due. When it succeeds, the table has lost its expired rows, every row that was due is flagged, and
the targets are the distinct addresses of exactly these rows, in the order of their endpoints.

An address is readable as a target only if it is the address of that target, so all that is known of
the addresses before they are read holds of the targets.
-/

namespace PushLedger

namespace Cell

/-- A text does not come after another exactly if it is at most that one. -/
theorem orderText_not_gt_iff (a b : String) : (orderText a b != .gt) = true ↔ a ≤ b := by
  unfold orderText
  by_cases less : a < b
  · have bounded : a ≤ b := String.not_lt.mp fun more =>
      String.lt_irrefl a (String.lt_trans less more)
    simp [less, bounded]
  · by_cases equal : a = b
    · subst equal
      simp
    · have above : ¬ a ≤ b := fun bounded =>
        equal (String.le_antisymm bounded (String.not_lt.mp less))
      simp [less, equal, above]

/-- Nothing but an optional text itself is equal to it in the order of cells. -/
theorem same_ofText_iff (cell : Cell) (s : Option String) :
    cell.same (ofText? s) = true ↔ cell = ofText? s := by
  cases s with
  | none => cases cell <;> simp [same, order, ofText?]
  | some s => cases cell <;> simp [same, order, ofText?, orderText_eq_iff]

/-- A cell reads as a text exactly if it is that text. -/
theorem readText_ok_iff (cell : Cell) (index : Nat) (column : Column) (s : String) :
    cell.readText index column = .ok s ↔ cell = .text s := by
  cases cell <;> simp [readText]

/-- A cell reads as an optional text exactly if it is that text or, for none, empty. -/
theorem readOptionalText_ok_iff (cell : Cell) (index : Nat) (column : Column)
    (s : Option String) : cell.readOptionalText index column = .ok s ↔ cell = ofText? s := by
  cases cell <;> cases s <;> simp [readOptionalText, ofText?]

end Cell

/-- The cells that spell out a target. -/
def PushTarget.address (target : PushTarget) : Address where
  endpoint := .text target.endpoint
  keyAuth := .text target.keyAuth
  keyP256dh := .text target.keyP256dh
  userId := .ofText? target.userId

/-- One target does not come after another in the order of endpoints. -/
def PushTarget.before (a b : PushTarget) : Bool := Cell.orderText a.endpoint b.endpoint != .gt

/-- Different targets are spelled out differently. -/
theorem PushTarget.address_injective : Function.Injective PushTarget.address := by
  rintro ⟨_, _, _, first⟩ ⟨_, _, _, second⟩ same
  cases first <;> cases second <;> simp_all [address, Cell.ofText?]

namespace Address

/-- An address equals that of a target in the order of cells only if it is that address. -/
theorem same_address_iff (a : Address) (target : PushTarget) :
    a.same target.address = true ↔ a = target.address := by
  obtain ⟨endpoint, keyAuth, keyP256dh, userId⟩ := a
  have text (cell : Cell) (s : String) : cell.same (.text s) = true ↔ cell = .text s :=
    Cell.same_ofText_iff cell (some s)
  simp only [same, PushTarget.address, Bool.and_eq_true, text, Cell.same_ofText_iff, mk.injEq,
    and_assoc]

/-- An address reads as a target exactly if it is the address of that target. -/
theorem read_ok_iff (a : Address) (target : PushTarget) :
    a.read = .ok target ↔ a = target.address := by
  obtain ⟨endpoint, keyAuth, keyP256dh, userId⟩ := a
  simp only [read, bind_eq_ok_iff, Cell.readText_ok_iff, Cell.readOptionalText_ok_iff, pure_eq_ok,
    Except.ok.injEq]
  constructor
  · rintro ⟨_, rfl, _, rfl, _, rfl, _, rfl, rfl⟩
    rfl
  · intro spelled
    obtain ⟨rfl, rfl, rfl, rfl⟩ := mk.inj spelled
    exact ⟨_, rfl, _, rfl, _, rfl, _, rfl, rfl⟩

/-- Addresses read as targets, one after another, exactly if they are the addresses of these. -/
theorem mapM_read_ok_iff (addresses : List Address) (targets : List PushTarget) :
    addresses.mapM read = .ok targets ↔ addresses = targets.map PushTarget.address := by
  simp only [mapM_eq_ok_iff, read_ok_iff, ← List.forall₂_map_right_iff, List.forall₂_eq_eq_eq]

/-- Only given addresses are kept. -/
theorem distinct_sublist (seen addresses : List Address) :
    (distinct seen addresses).Sublist addresses := by
  induction addresses generalizing seen with
  | nil => exact List.Sublist.refl _
  | cons a rest inductionHypothesis =>
    unfold distinct
    split
    · exact (inductionHypothesis seen).cons a
    · exact (inductionHypothesis (a :: seen)).cons_cons a

/-- A kept address is equal to none that was seen before. -/
theorem distinct_unseen (seen addresses : List Address) :
    ∀ a ∈ distinct seen addresses, ∀ b ∈ seen, a.same b = false := by
  induction addresses generalizing seen with
  | nil => simp [distinct]
  | cons first rest inductionHypothesis =>
    intro a kept b old
    unfold distinct at kept
    by_cases repeated : seen.any first.same
    · rw [if_pos repeated] at kept
      exact inductionHypothesis seen a kept b old
    · rw [if_neg repeated] at kept
      rcases List.mem_cons.mp kept with rfl | later
      · have new : ∀ other ∈ seen, ¬ a.same other = true := by
          simpa only [List.any_eq_true, not_exists, not_and] using repeated
        simpa only [Bool.not_eq_true] using new b old
      · exact inductionHypothesis (first :: seen) a later b (List.mem_cons_of_mem first old)

/-- No kept address is equal to one kept before it. -/
theorem distinct_pairwise (seen addresses : List Address) :
    (distinct seen addresses).Pairwise fun a b => b.same a = false := by
  induction addresses generalizing seen with
  | nil => exact List.Pairwise.nil
  | cons first rest inductionHypothesis =>
    unfold distinct
    split
    · exact inductionHypothesis seen
    · refine List.pairwise_cons.mpr ⟨?_, inductionHypothesis (first :: seen)⟩
      intro b kept
      exact distinct_unseen (first :: seen) rest b kept first List.mem_cons_self

/-- Every given address is itself kept, or equal to one that is kept or was seen before. -/
theorem distinct_covers (seen addresses : List Address) (a : Address) (given : a ∈ addresses) :
    a ∈ distinct seen addresses ∨ ∃ b ∈ seen ++ distinct seen addresses, a.same b = true := by
  induction addresses generalizing seen with
  | nil => simp at given
  | cons first rest inductionHypothesis =>
    by_cases repeated : seen.any first.same
    · have unfolded : distinct seen (first :: rest) = distinct seen rest := by
        rw [distinct, if_pos repeated]
      rw [unfolded]
      rcases List.mem_cons.mp given with rfl | later
      · obtain ⟨b, old, same⟩ := List.any_eq_true.mp repeated
        exact .inr ⟨b, List.mem_append_left _ old, same⟩
      · exact inductionHypothesis seen later
    · have unfolded : distinct seen (first :: rest) = first :: distinct (first :: seen) rest := by
        rw [distinct, if_neg repeated]
      rw [unfolded]
      rcases List.mem_cons.mp given with rfl | later
      · exact .inl List.mem_cons_self
      · rcases inductionHypothesis (first :: seen) later with kept | ⟨b, met, same⟩
        · exact .inl (List.mem_cons_of_mem first kept)
        · refine .inr ⟨b, ?_, same⟩
          simp only [List.cons_append, List.mem_cons, List.mem_append] at met ⊢
          rcases met with rfl | old | kept
          · exact .inr (.inl rfl)
          · exact .inl old
          · exact .inr (.inr kept)

end Address

namespace Row

/-- The row after a sweep that does not delete it: its flag is set if it was due. -/
def swept (cutoff : Int) (row : Row) : Row := if row.isDue cutoff then row.warned else row

/-- A row that is due is flagged. -/
theorem swept_of_due (row : Row) (cutoff : Int) (due : row.isDue cutoff = true) :
    row.swept cutoff = row.warned := if_pos due

/-- A row that is not due stays as it is. -/
theorem swept_of_not_due (row : Row) (cutoff : Int) (due : row.isDue cutoff = false) :
    row.swept cutoff = row := if_neg (Bool.eq_false_iff.mp due)

/-- A sweep leaves ids alone. -/
@[simp] theorem id_swept (row : Row) (cutoff : Int) : (row.swept cutoff).id = row.id := by
  by_cases due : row.isDue cutoff <;> simp [swept, due, warned]

/-- A sweep leaves endpoints alone. -/
@[simp] theorem endpoint_swept (row : Row) (cutoff : Int) :
    (row.swept cutoff).endpoint = row.endpoint := by
  by_cases due : row.isDue cutoff <;> simp [swept, due, warned]

end Row

namespace Table

/-- The table after a sweep that succeeded: expired rows are gone, and due rows are flagged. -/
def swept (t : Table) (expireBefore warnBefore : Int) : Table :=
  (t.without (Row.isExpired expireBefore)).marked (Row.isDue warnBefore)

/-- The rows to which a sweep gives notice: those that are due and did not expire. -/
def dueRows (t : Table) (expireBefore warnBefore : Int) : List Row :=
  (t.without (Row.isExpired expireBefore)).rows.filter (Row.isDue warnBefore)

/-- What a sweep reports once its targets have been read. -/
def sweepReport (t : Table) (expireBefore warnBefore : Int) (targets : List PushTarget) :
    SweepOutcome where
  expired := t.rows.countP (Row.isExpired expireBefore)
  warned := (t.dueRows expireBefore warnBefore).length
  targets := targets

/-- Without a guard only the reading of addresses decides whether a sweep succeeds. -/
theorem sweep_current (t : Table) (expireBefore warnBefore : Int) (current : t.Current) :
    t.sweep expireBefore warnBefore =
      ((t.without (Row.isExpired expireBefore)).dueAddresses warnBefore).mapM Address.read >>=
        fun targets => .ok (t.swept expireBefore warnBefore,
          t.sweepReport expireBefore warnBefore targets) := by
  have flagged := flag_unguarded (t.without (Row.isExpired expireBefore)) (Row.isDue warnBefore)
    (current_without t _ current).unguarded
  simp only [sweep, delete_unguarded t _ current.unguarded, flagged, ok_bind, pure_eq_ok, swept,
    sweepReport, dueRows, List.countP_eq_length_filter]

/-- A sweep succeeds with given targets exactly if these spell out the addresses of the rows that
are due. -/
theorem sweep_ok_iff (t : Table) (expireBefore warnBefore : Int) (current : t.Current)
    (after : Table) (outcome : SweepOutcome) :
    t.sweep expireBefore warnBefore = .ok (after, outcome) ↔
      (t.without (Row.isExpired expireBefore)).dueAddresses warnBefore =
          outcome.targets.map PushTarget.address ∧
        after = t.swept expireBefore warnBefore ∧
        outcome = t.sweepReport expireBefore warnBefore outcome.targets := by
  simp only [sweep_current t expireBefore warnBefore current, bind_eq_ok_iff,
    Address.mapM_read_ok_iff, Except.ok.injEq, Prod.mk.injEq]
  constructor
  · rintro ⟨targets, spelled, rfl, rfl⟩
    exact ⟨spelled, rfl, rfl⟩
  · rintro ⟨spelled, rfl, reported⟩
    exact ⟨outcome.targets, spelled, rfl, reported.symm⟩

/-- The addresses of the rows that are due spell out targets if each of these rows names one. -/
theorem dueAddresses_named (t : Table) (warnBefore : Int)
    (named : ∀ row ∈ t.rows, row.isDue warnBefore = true →
      ∃ target, Address.ofRow row = PushTarget.address target) :
    ∃ targets : List PushTarget, t.dueAddresses warnBefore = targets.map PushTarget.address := by
  have spelled : t.dueAddresses warnBefore ∈ Set.range (List.map PushTarget.address) := by
    rw [Set.range_list_map]
    intro a listed
    have kept := (Address.distinct_sublist _ _).subset (List.mem_mergeSort.mp listed)
    obtain ⟨row, reached, rfl⟩ := List.mem_map.mp kept
    obtain ⟨present, due⟩ := List.mem_filter.mp reached
    obtain ⟨target, same⟩ := named row present due
    exact ⟨target, same.symm⟩
  obtain ⟨targets, same⟩ := spelled
  exact ⟨targets, same.symm⟩

section Targets

variable {t : Table} {expireBefore warnBefore : Int} {targets : List PushTarget}

/-- Every target is spelled out by a row that is due. -/
theorem due_of_target
    (spelled : (t.without (Row.isExpired expireBefore)).dueAddresses warnBefore =
      targets.map PushTarget.address) (target : PushTarget) (announced : target ∈ targets) :
    ∃ row ∈ t.dueRows expireBefore warnBefore, Address.ofRow row = target.address := by
  have listed : target.address ∈
      (t.without (Row.isExpired expireBefore)).dueAddresses warnBefore :=
    spelled ▸ List.mem_map_of_mem announced
  have kept := (Address.distinct_sublist _ _).subset (List.mem_mergeSort.mp listed)
  obtain ⟨row, due, same⟩ := List.mem_map.mp kept
  exact ⟨row, due, same⟩

/-- Every row that is due spells out a target. A row passed over as a repetition equals a kept
address, and that one is a target's; so the row has the very same cells. -/
theorem target_of_due
    (spelled : (t.without (Row.isExpired expireBefore)).dueAddresses warnBefore =
      targets.map PushTarget.address) (row : Row) (due : row ∈ t.dueRows expireBefore warnBefore) :
    ∃ target ∈ targets, Address.ofRow row = target.address := by
  have kept_spelled : ∀ a ∈ Address.distinct [] ((t.dueRows expireBefore warnBefore).map
      Address.ofRow), ∃ target ∈ targets, a = target.address := by
    intro a kept
    have listed : a ∈ (t.without (Row.isExpired expireBefore)).dueAddresses warnBefore :=
      List.mem_mergeSort.mpr kept
    rw [spelled] at listed
    obtain ⟨target, announced, same⟩ := List.mem_map.mp listed
    exact ⟨target, announced, same.symm⟩
  rcases Address.distinct_covers [] _ _ (List.mem_map_of_mem (f := Address.ofRow) due) with
    kept | ⟨b, kept, same⟩
  · exact kept_spelled _ kept
  · obtain ⟨target, announced, rfl⟩ := kept_spelled b (by simpa using kept)
    exact ⟨target, announced, (Address.same_address_iff _ target).mp same⟩

/-- No target is named twice. -/
theorem targets_nodup
    (spelled : (t.without (Row.isExpired expireBefore)).dueAddresses warnBefore =
      targets.map PushTarget.address) : targets.Nodup := by
  have distinct := Address.distinct_pairwise [] ((t.dueRows expireBefore warnBefore).map
    Address.ofRow)
  have ordered : (targets.map PushTarget.address).Perm (Address.distinct []
      ((t.dueRows expireBefore warnBefore).map Address.ofRow)) :=
    spelled ▸ List.mergeSort_perm _ _
  have unique : (targets.map PushTarget.address).Nodup := by
    refine ordered.nodup_iff.mpr (distinct.imp_of_mem ?_)
    intro a b _ later unequal same
    obtain ⟨target, _, rfl⟩ := List.mem_map.mp (ordered.mem_iff.mpr later)
    rw [same, (Address.same_address_iff _ target).mpr rfl] at unequal
    exact Bool.noConfusion unequal
  exact List.Nodup.of_map PushTarget.address unique

/-- Targets are named in the order of their endpoints. -/
theorem targets_ordered
    (spelled : (t.without (Row.isExpired expireBefore)).dueAddresses warnBefore =
      targets.map PushTarget.address) :
    targets.Pairwise fun a b => a.endpoint ≤ b.endpoint := by
  have named : Address.distinct [] ((t.dueRows expireBefore warnBefore).map Address.ofRow) ∈
      Set.range (List.map PushTarget.address) := by
    rw [Set.range_list_map]
    intro a kept
    have listed : a ∈ (t.without (Row.isExpired expireBefore)).dueAddresses warnBefore :=
      List.mem_mergeSort.mpr kept
    rw [spelled] at listed
    obtain ⟨target, _, same⟩ := List.mem_map.mp listed
    exact ⟨target, same⟩
  obtain ⟨unsorted, same⟩ := named
  have sorted : unsorted.mergeSort PushTarget.before = targets := by
    have mapped : (unsorted.mergeSort PushTarget.before).map PushTarget.address =
        (unsorted.map PushTarget.address).mergeSort
          fun a b => a.endpoint.order b.endpoint != .gt :=
      List.map_mergeSort fun _ _ _ _ => rfl
    refine (List.map_injective_iff.mpr PushTarget.address_injective) ?_
    rw [mapped, same]
    exact spelled
  have ordered : (unsorted.mergeSort PushTarget.before).Pairwise
      fun a b => a.before b = true := by
    apply List.pairwise_mergeSort
    · intro a b c first second
      simp only [PushTarget.before, Cell.orderText_not_gt_iff] at first second ⊢
      exact String.le_trans first second
    · intro a b
      simp only [PushTarget.before, Bool.or_eq_true, Cell.orderText_not_gt_iff]
      exact String.le_total a.endpoint b.endpoint
  rw [sorted] at ordered
  exact ordered.imp fun first => (Cell.orderText_not_gt_iff _ _).mp first

end Targets

end Table
end PushLedger
