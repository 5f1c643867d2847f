import PushLedger.Proofs.ByteOrder
import PushLedger.Proofs.RowPasses
import PushLedger.Proofs.Warnings

/-!
# What a sweep does to a table

A sweep of a table without a guard fails for one reason only: a row that is due cannot be addressed,
because a key or the endpoint is not a text, or the owner is neither a text nor nothing. Whatever else
the cells hold, it succeeds, and then it takes away the expired rows, sets the flags of the rows that
are due, and touches nothing beside that. A stamp may be a real, a text or bytes and a flag any value:
what counts is how they compare with a cutoff, with zero and with one.
-/

namespace PushLedger

/-- Texts are in the order of their bytes also where they may be equal. -/
theorem Text.utf8_le_iff (s t : String) : utf8 s ≤ utf8 t ↔ s ≤ t := by
  rw [← List.not_lt, utf8_lt_iff, String.not_lt]

namespace Cell

/-- The cells of the class of texts are the texts. -/
theorem storageClass_text_iff (cell : Cell) : cell.storageClass = .text ↔ ∃ s, cell = .text s := by
  cases cell <;> simp [storageClass]

/-- The cells that are texts or empty are the optional texts. -/
theorem storageClass_optional_iff (cell : Cell) :
    cell.storageClass = .null ∨ cell.storageClass = .text ↔ ∃ s, cell = ofText? s := by
  constructor
  · rintro (empty | text)
    · cases cell with
      | null => exact ⟨none, rfl⟩
      | _ => exact nomatch empty
    · obtain ⟨s, rfl⟩ := (storageClass_text_iff cell).mp text
      exact ⟨some s, rfl⟩
  · rintro ⟨s, rfl⟩
    cases s with
    | none => exact .inl rfl
    | some s => exact .inr rfl

end Cell

namespace Row

/-- A warning can be sent to the row. -/
structure IsAddressable (row : Row) : Prop where
  endpoint : row.endpoint.storageClass = .text
  keyAuth : row.keyAuth.storageClass = .text
  keyP256dh : row.keyP256dh.storageClass = .text
  userId : row.userId.storageClass = .null ∨ row.userId.storageClass = .text

/-- The rows that can be addressed are those whose address is the one of a target. -/
theorem isAddressable_iff (row : Row) :
    row.IsAddressable ↔ ∃ target, Address.ofRow row = PushTarget.address target := by
  constructor
  · intro addressable
    obtain ⟨endpoint, atEndpoint⟩ := row.endpoint.storageClass_text_iff.mp addressable.endpoint
    obtain ⟨keyAuth, withAuth⟩ := row.keyAuth.storageClass_text_iff.mp addressable.keyAuth
    obtain ⟨keyP256dh, withKey⟩ := row.keyP256dh.storageClass_text_iff.mp addressable.keyP256dh
    obtain ⟨userId, owned⟩ := row.userId.storageClass_optional_iff.mp addressable.userId
    refine ⟨⟨endpoint, keyAuth, keyP256dh, userId⟩, ?_⟩
    simp only [Address.ofRow, atEndpoint, withAuth, withKey, owned, PushTarget.address]
  · rintro ⟨target, named⟩
    obtain ⟨atEndpoint, withAuth, withKey, owned⟩ := Address.mk.inj named
    constructor
    · rw [atEndpoint]
      rfl
    · rw [withAuth]
      rfl
    · rw [withKey]
      rfl
    · exact row.userId.storageClass_optional_iff.mpr ⟨_, owned⟩

/-- The rows that a sweep changes are those that are due: their flag was zero and becomes one. -/
theorem swept_ne_iff (row : Row) (cutoff : Int) :
    row.swept cutoff ≠ row ↔ row.isDue cutoff = true := by
  cases due : row.isDue cutoff with
  | false => simp [row.swept_of_not_due cutoff due]
  | true =>
    rw [row.swept_of_due cutoff due]
    simp only [ne_eq, iff_true]
    intro same
    have flagged : row.warningSent = .integer 1 :=
      (congrArg (fun changed : Row => changed.warningSent) same).symm
    rw [row.not_due_of_warned cutoff flagged] at due
    exact nomatch due

end Row

namespace Table

section Due

variable (t : Table) (expireBefore warnBefore : Int)

/-- No row that is due is expired, so all of them get notice. -/
theorem dueRows_eq_filter :
    t.dueRows expireBefore warnBefore = t.rows.filter (Row.isDue warnBefore) := by
  unfold dueRows without
  rw [List.filter_filter]
  refine List.filter_congr ?_
  intro row _
  cases due : row.isDue warnBefore with
  | false => rfl
  | true => rw [row.not_expired_of_due expireBefore warnBefore due, Bool.not_false, Bool.and_self]

/-- The deletion of expired rows takes no address away. -/
theorem dueAddresses_without :
    (t.without (Row.isExpired expireBefore)).dueAddresses warnBefore =
      t.dueAddresses warnBefore := by
  refine t.dueAddresses_filter warnBefore _ ?_
  intro row due
  rw [row.not_expired_of_due expireBefore warnBefore due, Bool.not_false]

end Due

/-- The targets are those of the rows that are due, each of them once and in the order of the bytes
of their endpoints. -/
structure Announces (t : Table) (warnBefore : Int) (targets : List PushTarget) : Prop where
  members : ∀ target, target ∈ targets ↔
    ∃ row ∈ t.rows, row.isDue warnBefore = true ∧ Address.ofRow row = target.address
  distinct : targets.Nodup
  ordered : targets.Pairwise fun a b => Text.utf8 a.endpoint ≤ Text.utf8 b.endpoint

/-- The addresses of the rows that are due can be read exactly if each of these rows can be
addressed. -/
theorem spelled_iff (t : Table) (warnBefore : Int) :
    (∃ targets : List PushTarget, t.dueAddresses warnBefore = targets.map PushTarget.address) ↔
      ∀ row ∈ t.rows, row.isDue warnBefore = true → row.IsAddressable := by
  constructor
  · rintro ⟨targets, spelled⟩ row present due
    obtain ⟨target, _, named⟩ := target_of_due_row spelled row present due
    exact row.isAddressable_iff.mpr ⟨target, named⟩
  · intro addressable
    refine t.dueAddresses_named warnBefore ?_
    intro row present due
    exact row.isAddressable_iff.mp (addressable row present due)

section Announcements

variable {t : Table} {warnBefore : Int} {targets : List PushTarget}
  (spelled : t.dueAddresses warnBefore = targets.map PushTarget.address)

include spelled

/-- What spells out the addresses of the rows that are due announces them. -/
theorem announces_of_spelled : t.Announces warnBefore targets where
  members := mem_targets_iff spelled
  distinct := targets_nodup (spelled_without spelled)
  ordered := (targets_ordered (spelled_without spelled)).imp (Text.utf8_le_iff _ _).mpr

/-- There are no targets exactly if nothing is due. -/
theorem targets_eq_nil_iff : targets = [] ↔ t.rows.countP (Row.isDue warnBefore) = 0 := by
  rw [List.countP_eq_zero, List.eq_nil_iff_forall_not_mem]
  constructor
  · intro silent row present due
    obtain ⟨target, announced, _⟩ := target_of_due_row spelled row present due
    exact silent target announced
  · intro idle target announced
    obtain ⟨row, present, due, _⟩ := (mem_targets_iff spelled target).mp announced
    exact idle row present due

/-- There are at most as many targets as rows that are due: they are what is left of the addresses
of these rows when repetitions are passed over. -/
theorem length_targets_le : targets.length ≤ t.rows.countP (Row.isDue warnBefore) := by
  calc targets.length
      = (t.dueAddresses warnBefore).length := by rw [spelled, List.length_map]
    _ = (Address.distinct [] ((t.rows.filter (Row.isDue warnBefore)).map
          Address.ofRow)).length := List.length_mergeSort _
    _ ≤ ((t.rows.filter (Row.isDue warnBefore)).map Address.ofRow).length :=
        (Address.distinct_sublist _ _).length_le
    _ = t.rows.countP (Row.isDue warnBefore) := by
        rw [List.length_map, List.countP_eq_length_filter]

end Announcements

end Table

namespace Database

/-- A sweep of a table without a guard fails exactly if a row that is due cannot be addressed, and
then changes nothing. If it succeeds, the expired rows are gone, and the others are left in their
order, changed only if they are due and only in their flag; the counter of ids and everything else
stays. Both kinds of rows are counted, and the targets are those of the rows that are due. -/
theorem sweep_effect (db : Database) (t : Table) (kept : db.subscriptions = some t)
    (current : t.Current) (warning expiry : Span) (now : Instant) :
    ((∃ fault, (db.sweep warning expiry now).result = .error fault) ↔
      ∃ row ∈ t.rows, row.isDue (now.cutoff warning) = true ∧ ¬ row.IsAddressable) ∧
    (∀ fault, (db.sweep warning expiry now).result = .error fault →
      (db.sweep warning expiry now).database = db) ∧
    ∀ report, (db.sweep warning expiry now).result = .ok report →
      (db.sweep warning expiry now).database = db.withTable
        { t with rows := (t.rows.filter fun row => !row.isExpired (now.cutoff expiry)).map
                  (Row.swept (now.cutoff warning)) } ∧
      (∀ row ∈ t.rows, row.isDue (now.cutoff warning) = true →
        row.isExpired (now.cutoff expiry) = false) ∧
      (∀ row ∈ t.rows, row.swept (now.cutoff warning) ≠ row ↔
        row.isDue (now.cutoff warning) = true) ∧
      report.expired = t.rows.countP (Row.isExpired (now.cutoff expiry)) ∧
      report.warned = t.rows.countP (Row.isDue (now.cutoff warning)) ∧
      t.Announces (now.cutoff warning) report.targets ∧
      (report.targets = [] ↔ report.warned = 0) ∧ report.targets.length ≤ report.warned := by
  have readable := t.spelled_iff (now.cutoff warning)
  rcases db.sweep_current kept current warning expiry now with
    ⟨targets, spelled, done, left⟩ | ⟨fault, failed, same, unspelled⟩
  · rw [t.dueAddresses_without] at spelled
    have addressable := readable.mp ⟨targets, spelled⟩
    refine ⟨⟨?_, ?_⟩, ?_, ?_⟩
    · rintro ⟨fault, failed⟩
      cases done.symm.trans failed
    · rintro ⟨row, present, due, unaddressable⟩
      exact absurd (addressable row present due) unaddressable
    · intro fault failed
      cases done.symm.trans failed
    · intro report reported
      obtain rfl := Except.ok.inj (done.symm.trans reported)
      have counted : (t.sweepReport (now.cutoff expiry) (now.cutoff warning) targets).warned =
          t.rows.countP (Row.isDue (now.cutoff warning)) := by
        simp only [Table.sweepReport, t.dueRows_eq_filter, List.countP_eq_length_filter]
      rw [counted]
      refine ⟨left, ?_, ?_, rfl, rfl, Table.announces_of_spelled spelled,
        Table.targets_eq_nil_iff spelled, Table.length_targets_le spelled⟩
      · intro row _ due
        exact row.not_expired_of_due _ _ due
      · intro row _
        exact row.swept_ne_iff _
  · simp only [t.dueAddresses_without] at unspelled
    refine ⟨⟨?_, ?_⟩, ?_, ?_⟩
    · intro _
      by_contra addressable
      push Not at addressable
      obtain ⟨targets, spelled⟩ := readable.mpr addressable
      exact unspelled targets spelled
    · intro _
      exact ⟨_, failed⟩
    · intro _ _
      exact same
    · intro report reported
      cases failed.symm.trans reported

end Database

/-! Somebody has written reals, texts and bytes into the table, and flags that mean nothing. -/

namespace OddTable

open Resubscription (row)

/-- One and a half milliseconds before the epoch. -/
def early : Cell := .real ⟨true, .finite 6755399441055744 (-52)⟩

/-- A row of the same address, due as well. -/
def second : Row := { row 2 with topic := .text "mail", updatedAt := early }

/-- A row whose stamp is a text and so comes after all numbers; its key is not a text. -/
def third : Row := { row 3 with updatedAt := .text "long ago", keyAuth := .blob [1] }

/-- A row that is expired. -/
def fourth : Row :=
  { row 4 with updatedAt := early, warningSent := .integer 1, endpoint := .blob [2] }

/-- A row whose flag is neither zero nor one. -/
def fifth : Row := { row 5 with warningSent := .integer 2, userId := .blob [3] }

/-- The target that the first two rows name. -/
def target : PushTarget := ⟨"https://push.example/a", "auth", "p256dh", some "ann"⟩

/-- The table of these rows. -/
def table (third : Row) : Table := ⟨.epoch, true, [row 1, second, third, fourth, fifth], 9, none⟩

/-- The database that holds the table. -/
def database (third : Row) : Database := Database.fresh.withTable (table third)

/-- Cells that are not texts do no harm as long as their row is not due. The sweep then deletes the
fourth row, flags the first two and names their target. -/
theorem odd_rows_swept :
    (table third).Current ∧
    (∃ report, ((database third).sweep ⟨0⟩ ⟨0⟩ .epoch).result = .ok report ∧
      report.expired = 1 ∧ report.warned = 2 ∧ target ∈ report.targets ∧
      ((database third).sweep ⟨0⟩ ⟨0⟩ .epoch).database.rows =
        [(row 1).warned, second.warned, third, fifth]) ∧
    ∃ fault, ((database { third with updatedAt := early }).sweep ⟨0⟩ ⟨0⟩ .epoch).result =
      .error fault := by
  have current (third : Row) : (table third).Current := ⟨rfl, rfl⟩
  obtain ⟨fails, _, succeeds⟩ :=
    Database.sweep_effect (database third) (table third) rfl (current third) ⟨0⟩ ⟨0⟩ .epoch
  obtain ⟨failsToo, _⟩ := Database.sweep_effect (database { third with updatedAt := early })
    (table { third with updatedAt := early }) rfl (current _) ⟨0⟩ ⟨0⟩ .epoch
  refine ⟨current third, ?_, failsToo.mpr ?_⟩
  · cases done : ((database third).sweep ⟨0⟩ ⟨0⟩ .epoch).result with
    | error fault =>
      obtain ⟨unsent, present, due, unaddressable⟩ := fails.mp ⟨fault, done⟩
      have others : ∀ other ∈ (table third).rows, other.isDue (Instant.cutoff .epoch ⟨0⟩) = true →
          Address.ofRow other = target.address := by
        decide +kernel
      exact absurd (unsent.isAddressable_iff.mpr ⟨target, others unsent present due⟩) unaddressable
    | ok report =>
      obtain ⟨left, _, _, expired, warned, announces, _⟩ := succeeds report done
      refine ⟨report, rfl, expired, warned, (announces.members target).mpr ?_, ?_⟩
      · exact ⟨row 1, List.mem_cons_self, by decide +kernel, rfl⟩
      · rw [left]
        decide +kernel
  · refine ⟨{ third with updatedAt := early }, by simp [table], by decide +kernel, ?_⟩
    intro addressable
    exact nomatch addressable.keyAuth

end OddTable

end PushLedger
