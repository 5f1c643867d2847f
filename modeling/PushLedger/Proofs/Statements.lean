import Mathlib.Data.List.Forall2
import Mathlib.Data.List.TakeWhile
import PushLedger.Table.Basic

/-!
# Statements on a table without a guard

Without a guard no statement is refused and no row is passed over in silence. A deletion is then a
filter, the setting of flags a map, and an insertion puts one row at the end: ids are counted, so
the next one lies above every id that the table holds and above its counter.
-/

namespace PushLedger

section Sequencing

variable {ε α β : Type}

/-- A statement after one that succeeded sees its result. -/
@[simp] theorem ok_bind (a : α) (next : α → Except ε β) : (Except.ok a >>= next) = next a := rfl

/-- Nothing follows a statement that failed. -/
@[simp] theorem error_bind (fault : ε) (next : α → Except ε β) :
    (Except.error fault >>= next) = .error fault := rfl

/-- Two statements in sequence succeed exactly if the first does and the second does after it. -/
theorem bind_eq_ok_iff (first : Except ε α) (next : α → Except ε β) (b : β) :
    (first >>= next) = .ok b ↔ ∃ a, first = .ok a ∧ next a = .ok b := by
  cases first <;> simp

/-- Two statements in sequence fail exactly if the first does, or the second does after it. -/
theorem bind_eq_error_iff (first : Except ε α) (next : α → Except ε β) (fault : ε) :
    (first >>= next) = .error fault ↔
      first = .error fault ∨ ∃ a, first = .ok a ∧ next a = .error fault := by
  cases first <;> simp

/-- Returning a value succeeds. -/
@[simp] theorem pure_eq_ok (a : α) : (pure a : Except ε α) = .ok a := rfl

/-- Throwing a fault fails. -/
@[simp] theorem throw_eq_error (fault : ε) : (throw fault : Except ε α) = .error fault := rfl

/-- A statement for each value succeeds exactly if each of them does. -/
theorem mapM_eq_ok_iff (f : α → Except ε β) (values : List α) (results : List β) :
    values.mapM f = .ok results ↔
      List.Forall₂ (fun value result => f value = .ok result) values results := by
  induction values generalizing results with
  | nil => cases results <;> simp
  | cons value rest inductionHypothesis =>
    simp only [List.mapM_cons, bind_eq_ok_iff, inductionHypothesis, pure_eq_ok, Except.ok.injEq,
      List.forall₂_cons_left_iff]
    constructor
    · rintro ⟨result, first, results, others, rfl⟩
      exact ⟨result, results, first, others, rfl⟩
    · rintro ⟨result, results, first, others, rfl⟩
      exact ⟨result, first, results, others, rfl⟩

/-- What a statement for each value yields is what it yields for each of them. -/
theorem map_eq_of_mapM {f : α → Except ε β} {values : List α} {results : List β}
    (done : values.mapM f = .ok results) : values.map f = results.map .ok := by
  rw [← List.forall₂_eq_eq_eq, List.forall₂_map_left_iff, List.forall₂_map_right_iff]
  exact (mapM_eq_ok_iff f values results).mp done

/-- Statements for several values succeed together if each of them does. -/
theorem exists_mapM_eq_ok {f : α → Except ε β} {values : List α}
    (done : ∀ value ∈ values, ∃ result, f value = .ok result) :
    ∃ results, values.mapM f = .ok results := by
  induction values with
  | nil => exact ⟨[], rfl⟩
  | cons value rest inductionHypothesis =>
    obtain ⟨⟨first, doneFirst⟩, doneRest⟩ := List.forall_mem_cons.mp done
    obtain ⟨others, doneOthers⟩ := inductionHypothesis doneRest
    exact ⟨first :: others, by simp [doneFirst, doneOthers]⟩

/-- The results of statements for several values are those that one of the values has. -/
theorem mem_iff_of_mapM {f : α → Except ε β} {values : List α} {results : List β}
    (done : values.mapM f = .ok results) (result : β) :
    result ∈ results ↔ ∃ value ∈ values, f value = .ok result := by
  have listed : Except.ok result ∈ values.map f ↔ result ∈ results := by
    rw [map_eq_of_mapM done]
    simp
  rw [← listed, List.mem_map]

end Sequencing

namespace Row

/-- The row with its flag set. -/
def warned (row : Row) : Row := { row with warningSent := .integer 1 }

/-- Rows with the given contents and the ids that follow a last one. -/
def numbered (last : Int) : List Content → List Row
  | [] => []
  | content :: rest => { content with id := last + 1 } :: numbered (last + 1) rest

/-- Numbered rows have the contents in their order, and ids that count on from the last one. -/
theorem mem_numbered_iff (last : Int) (contents : List Content) (row : Row) :
    row ∈ numbered last contents ↔
      ∃ i : Nat, contents[i]? = some row.toContent ∧ row.id = last + 1 + i := by
  induction contents generalizing last with
  | nil => simp [numbered]
  | cons content rest inductionHypothesis =>
    obtain ⟨given, id⟩ := row
    simp only [numbered, List.mem_cons, inductionHypothesis, Row.mk.injEq]
    constructor
    · rintro (⟨rfl, rfl⟩ | ⟨i, listed, counted⟩)
      · exact ⟨0, rfl, by simp⟩
      · refine ⟨i + 1, listed, ?_⟩
        omega
    · rintro ⟨i, listed, counted⟩
      cases i with
      | zero =>
        left
        refine ⟨(Option.some.inj listed).symm, ?_⟩
        omega
      | succ i =>
        right
        refine ⟨i, listed, ?_⟩
        omega

/-- A numbered row has one of the contents and an id from the range that they fill. -/
theorem mem_numbered (last : Int) (contents : List Content) (row : Row)
    (member : row ∈ numbered last contents) :
    row.toContent ∈ contents ∧ last < row.id ∧ row.id ≤ last + contents.length := by
  obtain ⟨i, listed, counted⟩ := (mem_numbered_iff last contents row).mp member
  obtain ⟨inside, _⟩ := List.getElem?_eq_some_iff.mp listed
  refine ⟨List.mem_of_getElem? listed, ?_, ?_⟩ <;> omega

/-- Numbered rows have the given contents, in order. -/
theorem contents_numbered (last : Int) (contents : List Content) :
    (numbered last contents).map Row.toContent = contents := by
  induction contents generalizing last with
  | nil => rfl
  | cons content rest inductionHypothesis =>
    simp only [numbered, List.map_cons, inductionHypothesis]

/-- Numbered rows have ascending ids. -/
theorem numbered_ascending (last : Int) (contents : List Content) :
    (numbered last contents).Pairwise fun a b => a.id < b.id := by
  induction contents generalizing last with
  | nil => exact List.Pairwise.nil
  | cons content rest inductionHypothesis =>
    refine List.pairwise_cons.mpr ⟨?_, inductionHypothesis (last + 1)⟩
    intro row later
    exact (mem_numbered (last + 1) rest row later).2.1

end Row

namespace Table

/-- The table without the selected rows. -/
def without (t : Table) (selected : Row → Bool) : Table :=
  { t with rows := t.rows.filter fun row => !selected row }

/-- The table with the flags of the selected rows set. -/
def marked (t : Table) (selected : Row → Bool) : Table :=
  { t with rows := t.rows.map fun row => if selected row then row.warned else row }

/-- The table with one more row, under the next id. -/
def add (t : Table) (content : Content) : Table :=
  { t with
    rows := t.rows ++ [{ content with id := t.lastId + 1 }]
    counter := (t.lastId + 1).toNat }

/-- The table with one more row for each content, in order. -/
def addAll (t : Table) (contents : List Content) : Table := contents.foldl add t

/-- So many more rows can be given ids. -/
def HasRoom (t : Table) (count : Nat) : Prop := count = 0 ∨ t.lastId + count ≤ Word.greatest

instance (t : Table) (count : Nat) : Decidable (t.HasRoom count) := by
  unfold HasRoom; infer_instance

/-- Without a guard a deletion succeeds, drops the selected rows and counts them. -/
theorem delete_unguarded (t : Table) (selected : Row → Bool) (unguarded : t.guard = none) :
    t.delete selected = .ok (t.without selected, t.rows.countP selected) := by
  have unrefused : t.refusal? .delete selected = none := by
    simp [refusal?, unguarded, Guard.refusal?]
  have reaches : t.reached .delete selected = selected := by
    funext row
    simp [reached, unguarded, Guard.stops]
  simp only [delete, unrefused, reaches, without]

/-- Without a guard the setting of flags succeeds, reaches the selected rows and counts them. -/
theorem flag_unguarded (t : Table) (selected : Row → Bool) (unguarded : t.guard = none) :
    t.flag selected = .ok (t.marked selected, t.rows.countP selected) := by
  have unrefused : t.refusal? .flag selected = none := by
    simp [refusal?, unguarded, Guard.refusal?]
  have reaches : t.reached .flag selected = selected := by
    funext row
    simp [reached, unguarded, Guard.stops]
  simp only [flag, unrefused, reaches, marked, Row.warned]

/-- The running maximum of ids is bounded by whatever bounds its start and every id. -/
theorem greatest_id_le (rows : List Row) (start bound : Int) :
    rows.foldl (fun last row => max last row.id) start ≤ bound ↔
      start ≤ bound ∧ ∀ row ∈ rows, row.id ≤ bound := by
  induction rows generalizing start with
  | nil => simp
  | cons row rest inductionHypothesis =>
    simp only [List.foldl_cons, inductionHypothesis, List.forall_mem_cons, Int.max_le, and_assoc]

/-- Where ids are counted, the last id is the least bound of the counter and of every id present. -/
theorem lastId_le_iff (t : Table) (bound : Int) (counted : t.layout.counted = true) :
    t.lastId ≤ bound ↔ t.counter ≤ bound ∧ ∀ row ∈ t.rows, row.id ≤ bound := by
  simp only [lastId, counted, if_true, greatest_id_le]

/-- No id present exceeds the last id, nor does the counter. -/
theorem ids_le_lastId (t : Table) (counted : t.layout.counted = true) :
    t.counter ≤ t.lastId ∧ ∀ row ∈ t.rows, row.id ≤ t.lastId :=
  (lastId_le_iff t t.lastId counted).mp (Int.le_refl _)

/-- The last id is the counter as long as no id lies above it. -/
theorem lastId_eq_counter (t : Table) (counted : t.layout.counted = true)
    (below : ∀ row ∈ t.rows, row.id ≤ t.counter) : t.lastId = t.counter := by
  have upper : t.lastId ≤ t.counter := (lastId_le_iff t _ counted).mpr ⟨Int.le_refl _, below⟩
  have lower : t.counter ≤ t.lastId := (ids_le_lastId t counted).1
  omega

/-- An added row leaves the counter at its id. -/
theorem counter_add (t : Table) (content : Content) (counted : t.layout.counted = true) :
    (t.add content).counter = t.lastId + 1 := by
  have bound : t.counter ≤ t.lastId := (ids_le_lastId t counted).1
  exact Int.toNat_of_nonneg (by omega)

/-- An added row has the greatest id of all. -/
theorem lastId_add (t : Table) (content : Content) (counted : t.layout.counted = true) :
    (t.add content).lastId = t.lastId + 1 := by
  have moved : (t.add content).counter = t.lastId + 1 := t.counter_add content counted
  rw [← moved]
  refine lastId_eq_counter (t.add content) counted ?_
  intro row member
  rw [moved]
  rcases List.mem_append.mp member with old | new
  · have bound : row.id ≤ t.lastId := (ids_le_lastId t counted).2 row old
    omega
  · obtain rfl := List.mem_singleton.mp new
    exact Int.le_refl _

/-- The rows added one after another are numbered from the last id. -/
theorem rows_addAll (t : Table) (contents : List Content) (counted : t.layout.counted = true) :
    (t.addAll contents).rows = t.rows ++ Row.numbered t.lastId contents := by
  induction contents generalizing t with
  | nil => simp [addAll, Row.numbered]
  | cons content rest inductionHypothesis =>
    have later := inductionHypothesis (t.add content) counted
    rw [lastId_add t content counted] at later
    simpa [addAll, add, Row.numbered] using later

/-- Adding rows never takes the counter back, and leaves it at or above their ids. -/
theorem counter_addAll (t : Table) (contents : List Content) (counted : t.layout.counted = true) :
    (t.counter : Int) ≤ (t.addAll contents).counter ∧
      ∀ row ∈ Row.numbered t.lastId contents, row.id ≤ (t.addAll contents).counter := by
  induction contents generalizing t with
  | nil => simp [addAll, Row.numbered]
  | cons content rest inductionHypothesis =>
    obtain ⟨later, bounded⟩ := inductionHypothesis (t.add content) counted
    rw [lastId_add t content counted] at bounded
    have start : t.counter ≤ t.lastId := (ids_le_lastId t counted).1
    have moved : (t.add content).counter = t.lastId + 1 := t.counter_add content counted
    have unfolded : t.addAll (content :: rest) = (t.add content).addAll rest := rfl
    rw [unfolded]
    refine ⟨by omega, ?_⟩
    intro row member
    rcases List.mem_cons.mp member with rfl | inRest
    · exact moved ▸ later
    · exact bounded row inRest

/-- A row whose id exceeds all others takes the last place. -/
theorem place_last (row : Row) (rows : List Row) (above : ∀ other ∈ rows, other.id < row.id) :
    row.place rows = rows ++ [row] := by
  have taken : rows.takeWhile (fun other => other.id < row.id) = rows := by
    simpa only [List.takeWhile_eq_self_iff, decide_eq_true_eq] using above
  have dropped : rows.dropWhile (fun other => other.id < row.id) = [] := by
    simpa only [List.dropWhile_eq_nil_iff, decide_eq_true_eq] using above
  rw [Row.place, taken, dropped]

/-- Without a guard a complete content that clashes with no row is added, as long as an id is left.
The new id differs from every other, so only the fault of a full table remains. -/
theorem insert_unguarded (t : Table) (content : Content) (unguarded : t.guard = none)
    (counted : t.layout.counted = true) (settled : content.stored t.layout = content)
    (complete : content.firstMissing? t.layout = none)
    (apart : ∀ row ∈ t.rows, content.clashes row.toContent = false) :
    t.insert none content =
      if t.lastId < Word.greatest then .ok (t.add content, 1) else .error .full := by
  have unrefused : Guard.refusal? t.guard .insert content = none := by
    simp [unguarded, Guard.refusal?]
  have unstopped : Guard.stops t.guard .insert content = false := by
    simp [unguarded, Guard.stops]
  by_cases room : t.lastId < Word.greatest
  · have above : ∀ row ∈ t.rows, row.id < t.lastId + 1 := by
      intro row member
      have bound : row.id ≤ t.lastId := (ids_le_lastId t counted).2 row member
      omega
    have fresh : (t.rows.any fun other => other.id = t.lastId + 1) = false := by
      simp only [List.any_eq_false, decide_eq_true_eq]
      intro row member same
      have bound : row.id < t.lastId + 1 := above row member
      omega
    have unclashing : (t.rows.any fun other => content.clashes other.toContent) = false := by
      simp only [List.any_eq_false]
      intro row member
      simp [apart row member]
    have moved : max t.counter (t.lastId + 1).toNat = (t.lastId + 1).toNat := by
      have bound : t.counter ≤ t.lastId := (ids_le_lastId t counted).1
      omega
    have harmless : conflict? t.layout t.indexed t.rows { content with id := t.lastId + 1 } =
        none := by
      simp only [conflict?, complete, fresh, unclashing]
      simp
    have last := place_last { content with id := t.lastId + 1 } t.rows above
    simp only [insert, settled, unrefused, unstopped, nextId, room, if_true]
    simp [harmless, last, moved, add]
  · simp [insert, settled, unrefused, unstopped, nextId, room]

end Table
end PushLedger
