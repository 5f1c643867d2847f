import PushLedger.Proofs.Transitions

/-!
# Invariants of the table

What every change of a table without a guard preserves, so that it holds along every linked list of
transitions: ids are distinct, no id lies above the counter, the counter never goes back, and the
rows of one endpoint agree in everything but their topic. The last is what the ledger promises of an
endpoint, and each statement preserves it for a different reason, since each selects rows by other
columns.

Where the row of a changed table comes from is said once. It was there before, it was there before
and a sweep handed out its target while setting its flag, or a request that was carried out has put
it there under an id above the counter.
-/

namespace PushLedger

/-- The flag of a row says that a warning was handed out. -/
def Row.IsWarned (row : Row) : Prop := row.warningSent = .integer 1

/-- A row with its flag set is warned. -/
theorem Row.isWarned_warned (row : Row) : row.warned.IsWarned := rfl

/-- A row that was warned is not due. -/
theorem Row.not_due_of_warned (row : Row) (cutoff : Int) (warned : row.IsWarned) :
    row.isDue cutoff = false := by
  have flag : row.warningSent = .integer 1 := warned
  simp [isDue, flag]

namespace Table

/-- No two rows have the same id. -/
def Keyed (t : Table) : Prop := (t.rows.map Row.id).Nodup

/-- The row with an id is the only one with it. -/
theorem Keyed.unique {t : Table} (keyed : t.Keyed) (a b : Row) (first : a ∈ t.rows)
    (second : b ∈ t.rows) (same : a.id = b.id) : a = b :=
  List.inj_on_of_nodup_map keyed first second same

/-- The rows that a sweep leaves: each was there before and not expired, and its flag is set if it
was due. -/
theorem mem_swept_iff (t : Table) (expireBefore warnBefore : Int) (row : Row) :
    row ∈ (t.swept expireBefore warnBefore).rows ↔
      ∃ old ∈ t.rows, old.isExpired expireBefore = false ∧ row = old.swept warnBefore := by
  simp only [swept, marked, without, List.mem_map, List.mem_filter, Bool.not_eq_true',
    and_assoc]
  constructor
  · rintro ⟨old, member, kept, rfl⟩
    exact ⟨old, member, kept, rfl⟩
  · rintro ⟨old, member, kept, rfl⟩
    exact ⟨old, member, kept, rfl⟩

/-- The rows due are those that are left by the first step of a sweep and reach its cutoff. -/
theorem mem_dueRows_iff (t : Table) (expireBefore warnBefore : Int) (row : Row) :
    row ∈ t.dueRows expireBefore warnBefore ↔
      row ∈ t.rows ∧ row.isExpired expireBefore = false ∧ row.isDue warnBefore = true := by
  simp only [dueRows, without, List.mem_filter, Bool.not_eq_true', and_assoc]

/-- The rows that a replacement leaves: those of other endpoints, and the numbered fresh ones. -/
theorem rows_replaced (t : Table) (request : NewSubscription) (now : Instant)
    (current : t.Current) :
    (Database.replaced t request now).rows = (t.cleared request.endpoint).rows ++
      Row.numbered (t.cleared request.endpoint).lastId (Database.freshContents request now) :=
  rows_addAll _ _ (current_without t _ current).counted

/-- The rows of other endpoints are exactly the old rows of other endpoints. -/
theorem mem_cleared_iff (t : Table) (endpoint : String) (row : Row) :
    row ∈ (t.cleared endpoint).rows ↔ row ∈ t.rows ∧ row.endpoint ≠ .text endpoint := by
  simp [cleared, without, ← Cell.isText_iff]

/-- A fresh row lies above the counter. -/
theorem counter_lt_fresh (t : Table) (request : NewSubscription) (now : Instant)
    (current : t.Current) (row : Row)
    (fresh : row ∈ Row.numbered (t.cleared request.endpoint).lastId
      (Database.freshContents request now)) : t.counter < row.id := by
  have cleared : (t.cleared request.endpoint).Current := current_without t _ current
  have start : t.counter ≤ (t.cleared request.endpoint).lastId :=
    (ids_le_lastId (t.cleared request.endpoint) cleared.counted).1
  have above : (t.cleared request.endpoint).lastId < row.id :=
    (Row.mem_numbered _ _ row fresh).2.1
  omega

end Table

namespace Transition

variable {x : Transition} {t changed : Table}

/-- Where the row of a changed table comes from: it is an old row, an old row whose target was
handed out, or a fresh row of a request that was carried out. -/
theorem Changes.origin (change : x.Changes t changed) (current : t.Current) (row : Row)
    (member : row ∈ changed.rows) :
    row ∈ t.rows ∨
    (∃ old ∈ t.rows, row = old.warned ∧ ∃ target ∈ x.targets, Address.ofRow old = target.address) ∨
    (t.counter < row.id ∧ ∃ request, x.Renews request.endpoint ∧
      row.toContent ∈ Database.freshContents request x.now) := by
  cases change with
  | nothing => exact .inl member
  | deleted selected => exact .inl (List.mem_filter.mp member).1
  | replaced request unswept silent renews room =>
    rw [Table.rows_replaced t request x.now current] at member
    rcases List.mem_append.mp member with old | fresh
    · exact .inl (List.mem_filter.mp old).1
    · exact .inr (.inr ⟨Table.counter_lt_fresh t request x.now current row fresh, request, renews,
        (Row.mem_numbered _ _ row fresh).1⟩)
  | swept warning expiry sweeps spelled =>
    obtain ⟨old, present, kept, rfl⟩ := (Table.mem_swept_iff t _ _ row).mp member
    cases due : old.isDue (x.now.cutoff warning) with
    | true =>
      have inDue := (Table.mem_dueRows_iff t _ _ old).mpr ⟨present, kept, due⟩
      rw [old.swept_of_due _ due]
      exact .inr (.inl ⟨old, present, rfl, Table.target_of_due spelled old inDue⟩)
    | false =>
      rw [old.swept_of_not_due _ due]
      exact .inl present

/-- The counter never goes back. -/
theorem Changes.counter_le (change : x.Changes t changed) (current : t.Current) :
    (t.counter : Int) ≤ changed.counter := by
  cases change with
  | replaced request =>
    exact (Table.counter_addAll (t.cleared request.endpoint) _
      (Table.current_without t _ current).counted).1
  | _ => exact Int.le_refl _

/-- Distinct ids stay distinct: no change alters an id, and fresh ones lie above all others. -/
theorem Changes.keyed (change : x.Changes t changed) (current : t.Current) (keyed : t.Keyed) :
    changed.Keyed := by
  have without_keyed (selected : Row → Bool) : (t.without selected).Keyed :=
    keyed.sublist (List.filter_sublist.map Row.id)
  cases change with
  | nothing => exact keyed
  | deleted selected => exact without_keyed selected
  | replaced request =>
    have cleared : (t.cleared request.endpoint).Current := Table.current_without t _ current
    unfold Table.Keyed
    rw [Table.rows_replaced t request x.now current, List.map_append]
    refine List.nodup_append.mpr ⟨without_keyed _, ?_, ?_⟩
    · refine List.pairwise_map.mpr ?_
      exact (Row.numbered_ascending _ _).imp fun less => Int.ne_of_lt less
    · intro id old other fresh
      obtain ⟨row, oldMember, rfl⟩ := List.mem_map.mp old
      obtain ⟨freshRow, freshMember, rfl⟩ := List.mem_map.mp fresh
      have below : row.id ≤ (t.cleared request.endpoint).lastId :=
        (Table.ids_le_lastId _ cleared.counted).2 row oldMember
      have above : (t.cleared request.endpoint).lastId < freshRow.id :=
        (Row.mem_numbered _ _ freshRow freshMember).2.1
      omega
  | swept warning expiry =>
    have sameIds : (t.swept (x.now.cutoff expiry) (x.now.cutoff warning)).rows.map Row.id =
        (t.without (Row.isExpired (x.now.cutoff expiry))).rows.map Row.id := by
      simp only [Table.swept, Table.marked, List.map_map]
      exact List.map_congr_left fun row _ => row.id_swept (x.now.cutoff warning)
    unfold Table.Keyed
    rw [sameIds]
    exact without_keyed _

/-- An id that does not lie above the counter stays at or below it, whatever row it belongs to. -/
theorem Changes.counted (change : x.Changes t changed) (current : t.Current) (id : Int)
    (counted : ∀ row ∈ t.rows, row.id = id → id ≤ t.counter) :
    ∀ row ∈ changed.rows, row.id = id → id ≤ changed.counter := by
  have forward : (t.counter : Int) ≤ changed.counter := change.counter_le current
  intro row member same
  cases change with
  | nothing => exact counted row member same
  | deleted selected => exact counted row (List.mem_filter.mp member).1 same
  | replaced request =>
    rw [Table.rows_replaced t request x.now current] at member
    rcases List.mem_append.mp member with old | fresh
    · exact Int.le_trans (counted row (List.mem_filter.mp old).1 same) forward
    · exact same ▸ (Table.counter_addAll (t.cleared request.endpoint) _
        (Table.current_without t _ current).counted).2 row fresh
  | swept warning expiry =>
    obtain ⟨old, present, _, rfl⟩ := (Table.mem_swept_iff t _ _ row).mp member
    exact counted old present (old.id_swept (x.now.cutoff warning) ▸ same)

end Transition

/-- Two rows say the same of their owner, keys, stamp and flag. -/
structure Row.Agrees (a b : Row) : Prop where
  userId : a.userId = b.userId
  keyAuth : a.keyAuth = b.keyAuth
  keyP256dh : a.keyP256dh = b.keyP256dh
  updatedAt : a.updatedAt = b.updatedAt
  warningSent : a.warningSent = b.warningSent

/-- The rows of one endpoint agree. -/
def Table.Homogeneous (t : Table) : Prop :=
  ∀ a ∈ t.rows, ∀ b ∈ t.rows, a.endpoint = b.endpoint → a.Agrees b

/-- Rows that agree are due together. -/
theorem Row.Agrees.isDue_eq {a b : Row} (agrees : a.Agrees b) (cutoff : Int) :
    a.isDue cutoff = b.isDue cutoff := by
  simp only [isDue, agrees.warningSent, agrees.updatedAt]

/-- Rows of one endpoint that agree have the same address. -/
theorem Row.Agrees.address_eq {a b : Row} (agrees : a.Agrees b) (same : a.endpoint = b.endpoint) :
    Address.ofRow a = Address.ofRow b := by
  simp only [Address.ofRow, same, agrees.userId, agrees.keyAuth, agrees.keyP256dh]

/-- The rows of an endpoint still agree after every change. A deletion leaves fewer rows, a
replacement gives the endpoint only fresh rows, and a sweep flags all rows of an endpoint or none,
because they are due together. -/
theorem Transition.Changes.homogeneous {x : Transition} {t changed : Table}
    (change : x.Changes t changed) (current : t.Current) (homogeneous : t.Homogeneous) :
    changed.Homogeneous := by
  intro a firstMember b secondMember same
  cases change with
  | nothing => exact homogeneous a firstMember b secondMember same
  | deleted selected =>
    exact homogeneous a (List.mem_filter.mp firstMember).1 b (List.mem_filter.mp secondMember).1
      same
  | replaced request =>
    have fresh_endpoint (row : Row) (fresh : row ∈ Row.numbered
        (t.cleared request.endpoint).lastId (Database.freshContents request x.now)) :
        ∃ topic, row.toContent = Database.freshContent request x.now topic := by
      obtain ⟨topic, _, same⟩ := List.mem_map.mp (Row.mem_numbered _ _ row fresh).1
      exact ⟨topic, same.symm⟩
    rw [Table.rows_replaced t request x.now current] at firstMember secondMember
    rcases List.mem_append.mp firstMember with oldA | freshA <;>
      rcases List.mem_append.mp secondMember with oldB | freshB
    · exact homogeneous a (List.mem_filter.mp oldA).1 b (List.mem_filter.mp oldB).1 same
    · obtain ⟨topic, content⟩ := fresh_endpoint b freshB
      have apart := ((Table.mem_cleared_iff t request.endpoint a).mp oldA).2
      exact absurd (same.trans (congrArg Content.endpoint content)) apart
    · obtain ⟨topic, content⟩ := fresh_endpoint a freshA
      have apart := ((Table.mem_cleared_iff t request.endpoint b).mp oldB).2
      exact absurd (same.symm.trans (congrArg Content.endpoint content)) apart
    · obtain ⟨first, contentA⟩ := fresh_endpoint a freshA
      obtain ⟨second, contentB⟩ := fresh_endpoint b freshB
      constructor <;> rw [contentA, contentB] <;> rfl
  | swept warning expiry =>
    obtain ⟨oldA, presentA, _, rfl⟩ := (Table.mem_swept_iff t _ _ a).mp firstMember
    obtain ⟨oldB, presentB, _, rfl⟩ := (Table.mem_swept_iff t _ _ b).mp secondMember
    rw [Row.endpoint_swept, Row.endpoint_swept] at same
    have agrees := homogeneous oldA presentA oldB presentB same
    have together := agrees.isDue_eq (x.now.cutoff warning)
    cases due : oldA.isDue (x.now.cutoff warning) with
    | true =>
      rw [oldA.swept_of_due _ due, oldB.swept_of_due _ (together ▸ due)]
      exact ⟨agrees.userId, agrees.keyAuth, agrees.keyP256dh, agrees.updatedAt, rfl⟩
    | false =>
      rw [oldA.swept_of_not_due _ due, oldB.swept_of_not_due _ (together ▸ due)]
      exact agrees

end PushLedger
