import PushLedger.Ledger.Operations
import PushLedger.Proofs.Statements

/-!
# Replacing the rows of an endpoint

On a table in the present layout and without a guard a request has one of two outcomes. Either the
rows of its endpoint are gone and one fresh row stands at the end for each of its topics, or the ids
do not suffice and the fault says so. The index is never in the way: a fresh row could clash only
with a row of its own endpoint, and those were deleted first.
-/

namespace PushLedger

/-- A set names no topic twice. -/
theorem TopicSet.names_nodup (s : TopicSet) : s.names.Nodup := by
  apply s.ascending.imp
  intro first second less same
  exact String.lt_irrefl second (same ▸ less)

namespace Cell

/-- The order of texts finds two of them equal only if they are. -/
theorem orderText_eq_iff (a b : String) : orderText a b = .eq ↔ a = b := by
  unfold orderText
  by_cases equal : a = b
  · subst equal
    simp only [String.lt_irrefl, if_true, if_false]
  · by_cases less : a < b <;> simp [equal, less]

/-- Only the same text is equal to a text in the order of cells. -/
theorem same_text_iff (s : String) (cell : Cell) :
    (Cell.text s).same cell = true ↔ cell = .text s := by
  cases cell with
  | text other =>
    simp only [same, order, beq_iff_eq, orderText_eq_iff, Cell.text.injEq]
    exact eq_comm
  | _ => simp [same, order]

/-- Equality with a text, asked of a cell, is equality of cells. -/
theorem isText_iff (cell : Cell) (s : String) : cell.isText s = true ↔ cell = .text s := by
  cases cell <;> simp [isText]

end Cell

/-- The table has the present layout, and nobody has put a guard on it. -/
structure Table.Current (t : Table) : Prop where
  epoch : t.layout = .epoch
  unguarded : t.guard = none

namespace Table

/-- The present layout counts its ids. -/
theorem Current.counted {t : Table} (current : t.Current) : t.layout.counted = true := by
  rw [current.epoch]
  rfl

/-- The table without the rows of an endpoint. -/
def cleared (t : Table) (endpoint : String) : Table :=
  t.without fun row => row.endpoint.isText endpoint

/-- A deletion leaves layout and guard alone. -/
theorem current_without (t : Table) (selected : Row → Bool) (current : t.Current) :
    (t.without selected).Current := ⟨current.epoch, current.unguarded⟩

/-- The setting of flags leaves layout and guard alone. -/
theorem current_marked (t : Table) (selected : Row → Bool) (current : t.Current) :
    (t.marked selected).Current := ⟨current.epoch, current.unguarded⟩

/-- Insertions leave layout and guard alone. -/
theorem current_addAll (t : Table) (contents : List Content) (current : t.Current) :
    (t.addAll contents).Current := by
  induction contents generalizing t with
  | nil => exact current
  | cons content rest inductionHypothesis =>
    exact inductionHypothesis (t.add content) ⟨current.epoch, current.unguarded⟩

end Table

namespace Database

/-- The contents of the rows of a request, in the order of its topics. -/
def freshContents (request : NewSubscription) (now : Instant) : List Content :=
  request.topics.names.map (freshContent request now)

/-- The present layout stores a fresh content as it is. -/
theorem stored_freshContent (request : NewSubscription) (now : Instant) (topic : String) :
    (freshContent request now topic).stored .epoch = freshContent request now topic := by
  cases owner : request.userId <;>
    simp [freshContent, Content.stored, Content.build, Content.cell, Layout.affinity,
      Affinity.apply, Cell.ofText?, owner]

/-- A fresh content leaves no required column empty. -/
theorem firstMissing_freshContent (request : NewSubscription) (now : Instant) (topic : String) :
    (freshContent request now topic).firstMissing? .epoch = none := by
  simp [freshContent, Content.firstMissing?, Content.cell, Layout.columns, Layout.required,
    Column.all]

/-- A fresh content clashes with the rows of its topic and endpoint and with no others. -/
theorem clashes_freshContent_iff (request : NewSubscription) (now : Instant) (topic : String)
    (other : Content) :
    (freshContent request now topic).clashes other = true ↔
      other.topic = .text topic ∧ other.endpoint = .text request.endpoint := by
  simp [Content.clashes, freshContent, Cell.same_text_iff]

/-- The topics of a request are inserted one by one as long as ids are left. The table holds no row
of the endpoint under any of these topics, which each insertion preserves because the topics are
distinct; so no insertion meets the index. -/
theorem insertNames_current (request : NewSubscription) (now : Instant) (names : List String)
    (t : Table) (current : t.Current) (distinct : names.Nodup)
    (absent : ∀ row ∈ t.rows, row.endpoint = .text request.endpoint →
      ∀ topic ∈ names, row.topic ≠ .text topic) :
    names.foldlM (fun t topic => return (← t.insert none (freshContent request now topic)).1) t =
      if t.HasRoom names.length then .ok (t.addAll (names.map (freshContent request now)))
      else .error .full := by
  induction names generalizing t with
  | nil => simp [Table.HasRoom, Table.addAll]
  | cons topic rest inductionHypothesis =>
    obtain ⟨notLater, restDistinct⟩ := List.nodup_cons.mp distinct
    have apart : ∀ row ∈ t.rows,
        (freshContent request now topic).clashes row.toContent = false := by
      intro row member
      by_contra clash
      obtain ⟨sameTopic, sameEndpoint⟩ :=
        (clashes_freshContent_iff request now topic row.toContent).mp (by simpa using clash)
      exact absent row member sameEndpoint topic List.mem_cons_self sameTopic
    have inserted := Table.insert_unguarded t (freshContent request now topic) current.unguarded
      current.counted (current.epoch ▸ stored_freshContent request now topic)
      (current.epoch ▸ firstMissing_freshContent request now topic) apart
    have grown : (t.add (freshContent request now topic)).lastId = t.lastId + 1 :=
      Table.lastId_add t _ current.counted
    by_cases room : t.lastId < Word.greatest
    · have laterAbsent : ∀ row ∈ (t.add (freshContent request now topic)).rows,
          row.endpoint = .text request.endpoint → ∀ other ∈ rest, row.topic ≠ .text other := by
        intro row member sameEndpoint other later
        rcases List.mem_append.mp member with old | new
        · exact absent row old sameEndpoint other (List.mem_cons_of_mem topic later)
        · rw [List.mem_singleton.mp new]
          intro same
          have repeated : topic = other := by simpa [freshContent] using same
          exact notLater (repeated ▸ later)
      have remaining := inductionHypothesis (t.add (freshContent request now topic))
        ⟨current.epoch, current.unguarded⟩ restDistinct laterAbsent
      have sameRoom : (t.add (freshContent request now topic)).HasRoom rest.length ↔
          t.HasRoom (topic :: rest).length := by
        simp only [Table.HasRoom, grown, List.length_cons, List.length_eq_zero_iff]
        constructor
        · rintro (none | bound)
          · subst none
            right
            simp only [List.length_nil]
            omega
          · right
            omega
        · rintro (none | bound)
          · omega
          · right
            omega
      simp only [List.foldlM_cons, inserted, room, if_true, ok_bind, pure_eq_ok] at remaining ⊢
      rw [remaining]
      simp only [sameRoom, Table.addAll, List.map_cons, List.foldl_cons]
    · have full : ¬ t.HasRoom (topic :: rest).length := by
        simp only [Table.HasRoom, List.length_cons]
        omega
      rw [if_neg full]
      simp [List.foldlM_cons, inserted, room]

section Kept

variable (db : Database) (t : Table) (named : Column) (kept : db.subscriptions = some t)

include kept

/-- A table that is there has no namesake. -/
theorem namesake_of_kept : db.namesake? = none := by
  simp [namesake?, kept]

/-- A statement on subscriptions finds the table that the database holds. -/
theorem table_of_kept (statement : Option UpdateStatement) : db.table named statement = .ok t := by
  simp only [table, kept]

/-- So does a statement that writes them. -/
theorem writable_of_kept : db.writable named = .ok t := by
  simp [writable, namesake_of_kept db t kept, table_of_kept db t named kept]

end Kept

/-- The rows of a request all find a place as long as the ids suffice for their number. -/
theorem insertTopics_current (request : NewSubscription) (now : Instant) (t : Table)
    (current : t.Current) (absent : ∀ row ∈ t.rows, row.endpoint ≠ .text request.endpoint) :
    insertTopics request now t =
      if t.HasRoom request.topics.size then .ok (t.addAll (freshContents request now))
      else .error .full :=
  insertNames_current request now request.topics.names t current request.topics.names_nodup
    fun row member same => absurd same (absent row member)

/-- The table in which a request has replaced the rows of its endpoint. -/
def replaced (t : Table) (request : NewSubscription) (now : Instant) : Table :=
  (t.cleared request.endpoint).addAll (freshContents request now)

/-- Replacement succeeds exactly as long as the ids suffice once the old rows are gone, and then
counts those. -/
theorem replaceRows_current (db : Database) (t : Table) (request : NewSubscription)
    (now : Instant) (kept : db.subscriptions = some t) (current : t.Current) :
    db.replaceRows request now =
      if (t.cleared request.endpoint).HasRoom request.topics.size then
        .ok (db.withTable (replaced t request now),
          t.rows.countP fun row => row.endpoint.isText request.endpoint)
      else .error .full := by
  have cleared : (t.cleared request.endpoint).Current := Table.current_without t _ current
  have deleted : t.delete (fun row => row.endpoint.isText request.endpoint) =
      .ok (t.cleared request.endpoint,
        t.rows.countP fun row => row.endpoint.isText request.endpoint) :=
    Table.delete_unguarded t _ current.unguarded
  have flagged : (t.cleared request.endpoint).layout.flagged = true := by
    rw [cleared.epoch]
    rfl
  have absent : ∀ row ∈ (t.cleared request.endpoint).rows,
      row.endpoint ≠ .text request.endpoint := by
    intro row member same
    have apart := (List.mem_filter.mp member).2
    simp [same] at apart
  have inserted := insertTopics_current request now (t.cleared request.endpoint) cleared absent
  simp only [replaceRows, writable_of_kept db t .endpoint kept, deleted, ok_bind]
  by_cases room : (t.cleared request.endpoint).HasRoom request.topics.size
  · simp [flagged, inserted, room, replaced]
  · simp [flagged, inserted, room]

end Database
end PushLedger
