import PushLedger.Proofs.Opening
import PushLedger.Proofs.Warnings

/-!
# Ids before and after a rebuild

A table with typed columns counts its ids: the next one lies above every id that any row of the table
ever had, whether the row is still there or not. The counter belongs to the table, and a rebuild puts
another table in its place, whose counter starts again at the greatest id that was copied.

So there are two promises and not one. Within the old table no id is given twice, and along every run
after the rebuild none is either. Across the rebuild an id is safe only if it is not positive or a row
with at least this id is still there; every other one is given again by some run.
-/

namespace PushLedger

/-- Placing a row among others is adding it to them, up to the order. -/
theorem Row.place_perm (row : Row) (rows : List Row) : (row.place rows).Perm (row :: rows) := by
  refine List.perm_middle.trans ?_
  rw [List.takeWhile_append_dropWhile]

/-- Placing a row adds it and takes none away. -/
theorem Row.mem_place_iff (row : Row) (rows : List Row) (other : Row) :
    other ∈ row.place rows ↔ other = row ∨ other ∈ rows :=
  (row.place_perm rows).mem_iff.trans List.mem_cons

namespace Table

/-- A row that fits beside others has an id of its own. -/
theorem fresh_of_fits {layout : Layout} {indexed : Bool} {others : List Row} {row : Row}
    (fits : conflict? layout indexed others row = none) : ∀ other ∈ others, other.id ≠ row.id := by
  intro other present same
  have taken : others.any (fun other => other.id = row.id) = true :=
    List.any_eq_true.mpr ⟨other, present, decide_eq_true same⟩
  unfold conflict? at fits
  split at fits
  · exact nomatch fits
  · rw [if_pos taken] at fits
    exact nomatch fits

/-- An insertion that a guard skips changes nothing. Any other places the content as it is stored,
under the id it asks for or under the next one, which no row has, and the counter does not stay
behind. -/
theorem insert_cases {t changed : Table} {count : Nat} (id? : Option Int) (content : Content)
    (done : t.insert id? content = .ok (changed, count)) :
    (Guard.stops t.guard .insert (content.stored t.layout) = true ∧ changed = t) ∨
    (Guard.stops t.guard .insert (content.stored t.layout) = false ∧
      ∃ row : Row, row.toContent = content.stored t.layout ∧
        (id? = some row.id ∨ t.nextId = .ok row.id) ∧ (∀ other ∈ t.rows, other.id ≠ row.id) ∧
        changed = { t with rows := row.place t.rows, counter := max t.counter row.id.toNat }) := by
  unfold insert at done
  simp only at done
  split at done
  · exact nomatch done
  · split at done
    · exact .inl ⟨‹_›, (congrArg Prod.fst (Except.ok.inj done)).symm⟩
    · rename_i unstopped
      rw [Bool.not_eq_true] at unstopped
      cases id? with
      | some asked =>
        simp only [pure_eq_ok, ok_bind] at done
        split at done
        · exact nomatch done
        · exact .inr ⟨unstopped, _, rfl, .inl rfl, fresh_of_fits ‹_›,
            (congrArg Prod.fst (Except.ok.inj done)).symm⟩
      | none =>
        obtain ⟨next, drawn, placed⟩ := (bind_eq_ok_iff _ _ _).mp done
        split at placed
        · exact nomatch placed
        · exact .inr ⟨unstopped, _, rfl, .inr drawn, fresh_of_fits ‹_›,
            (congrArg Prod.fst (Except.ok.inj placed)).symm⟩

/-- A deletion takes away the rows that it reaches and changes nothing else. -/
theorem delete_cases {t changed : Table} {count : Nat} (selected : Row → Bool)
    (done : t.delete selected = .ok (changed, count)) :
    changed = { t with rows := t.rows.filter fun row => !t.reached .delete selected row } := by
  unfold delete at done
  split at done
  · exact nomatch done
  · exact (congrArg Prod.fst (Except.ok.inj done)).symm

/-- The setting of flags changes nothing but rows, and none of their ids. -/
theorem flag_cases {t changed : Table} {count : Nat} (selected : Row → Bool)
    (done : t.flag selected = .ok (changed, count)) :
    ∃ rows, changed = { t with rows := rows } ∧ rows.map Row.id = t.rows.map Row.id := by
  unfold flag at done
  split at done
  · exact nomatch done
  · refine ⟨_, (congrArg Prod.fst (Except.ok.inj done)).symm, ?_⟩
    rw [List.map_map]
    refine List.map_congr_left fun row _ => ?_
    simp only [Function.comp]
    split <;> rfl

/-- A table that counts its ids and came about by insertions, deletions and the setting of flags,
with every id that a row of it ever had. -/
inductive Lived : List Int → Table → Prop
  | created {layout : Layout} (indexed : Bool) (counted : layout.counted = true) :
      Lived [] (.empty layout indexed)
  | inserted {ids : List Int} {t changed : Table} {count : Nat} (id? : Option Int)
      (content : Content) (before : Lived ids t) (word : ∀ id ∈ id?, Word.Holds id)
      (done : t.insert id? content = .ok (changed, count)) :
      Lived (changed.rows.map Row.id ++ ids) changed
  | deleted {ids : List Int} {t changed : Table} {count : Nat} (selected : Row → Bool)
      (before : Lived ids t) (done : t.delete selected = .ok (changed, count)) : Lived ids changed
  | flagged {ids : List Int} {t changed : Table} {count : Nat} (selected : Row → Bool)
      (before : Lived ids t) (done : t.flag selected = .ok (changed, count)) : Lived ids changed

/-- No row has an id above the counter. -/
def Counts (t : Table) : Prop := ∀ row ∈ t.rows, row.id ≤ t.counter

section Counts

variable {t : Table} (counts : t.Counts)

include counts

/-- A deletion keeps the ids at or below the counter. -/
theorem Counts.without (selected : Row → Bool) : (t.without selected).Counts := by
  intro row member
  exact counts row (List.mem_filter.mp member).1

/-- The ids suffice for a request as long as the counter leaves enough of them. -/
theorem Counts.hasRoom_iff (current : t.Current) (endpoint : String) (count : Nat) :
    (t.cleared endpoint).HasRoom count ↔ count = 0 ∨ t.counter + count ≤ Word.greatest := by
  have last : (t.cleared endpoint).lastId = t.counter :=
    lastId_eq_counter (t.cleared endpoint) (current_without t _ current).counted (counts.without _)
  rw [HasRoom, last]

/-- Rows that are added to a table whose counter has kept up are numbered from the counter, which
moves on with them. -/
theorem Counts.addAll_eq (counted : t.layout.counted = true) (contents : List Content) :
    t.addAll contents = { t with
      rows := t.rows ++ Row.numbered t.counter contents
      counter := t.counter + contents.length } := by
  induction contents generalizing t with
  | nil => simp [addAll, Row.numbered]
  | cons content rest inductionHypothesis =>
    have last : t.lastId = t.counter := t.lastId_eq_counter counted counts
    have next : (t.add content).lastId = (t.add content).counter :=
      (t.lastId_add content counted).trans (t.counter_add content counted).symm
    have stillCounts : (t.add content).Counts := by
      intro row member
      rw [← next]
      exact (ids_le_lastId (t.add content) counted).2 row member
    have later := inductionHypothesis (t := t.add content) stillCounts counted
    have unfolded : t.addAll (content :: rest) = (t.add content).addAll rest := rfl
    rw [unfolded, later]
    simp only [add, last, Row.numbered, List.append_assoc, List.singleton_append,
      List.length_cons]
    congr 1
    omega

end Counts

/-- What the counter of a table says of the ids that its rows ever had. -/
structure Remembers (t : Table) (ids : List Int) : Prop where
  counted : t.layout.counted = true
  present : t.Counts
  ever : ∀ id ∈ ids, id ≤ t.counter
  bounded : t.counter ≤ Word.greatest

/-- An insertion raises the counter to the new id, if that lies above it. -/
theorem Remembers.insert {t changed : Table} {ids : List Int} {count : Nat} {id? : Option Int}
    {content : Content} (remembers : t.Remembers ids) (word : ∀ id ∈ id?, Word.Holds id)
    (done : t.insert id? content = .ok (changed, count)) :
    changed.Remembers (changed.rows.map Row.id ++ ids) := by
  obtain ⟨counted, present, ever, bounded⟩ := remembers
  have listed {table : Table} (present : table.Counts) (ever : ∀ id ∈ ids, id ≤ table.counter) :
      ∀ id ∈ table.rows.map Row.id ++ ids, id ≤ table.counter := by
    intro id given
    rcases List.mem_append.mp given with here | before
    · obtain ⟨row, member, rfl⟩ := List.mem_map.mp here
      exact present row member
    · exact ever id before
  rcases insert_cases id? content done with ⟨_, rfl⟩ | ⟨_, row, _, drawn, _, rfl⟩
  · exact ⟨counted, present, listed present ever, bounded⟩
  · have forward : (t.counter : Int) ≤ (max t.counter row.id.toNat : Nat) := by omega
    have stillPresent : Counts { t with
        rows := row.place t.rows, counter := max t.counter row.id.toNat } := by
      intro other member
      rcases (row.mem_place_iff t.rows other).mp member with rfl | old
      · change other.id ≤ (max t.counter other.id.toNat : Nat)
        omega
      · exact Int.le_trans (present other old) forward
    have below : row.id ≤ Word.greatest := by
      rcases drawn with asked | next
      · exact (word row.id asked).2
      · unfold nextId at next
        split at next
        · next room =>
          rw [← Except.ok.inj next]
          exact room
        · exact nomatch next
    refine ⟨counted, stillPresent,
      listed stillPresent fun id given => Int.le_trans (ever id given) forward, ?_⟩
    change ((max t.counter row.id.toNat : Nat) : Int) ≤ Word.greatest
    unfold Word.greatest at below bounded ⊢
    omega

/-- The counter of a table that lived remembers every id that a row of it ever had. -/
theorem Lived.remembers {t : Table} {ids : List Int} (lived : t.Lived ids) : t.Remembers ids := by
  induction lived with
  | created indexed counted =>
    exact ⟨counted, by simp [Counts, empty], by simp, by simp [empty, Word.greatest]⟩
  | inserted id? content _ word done inductionHypothesis =>
    exact inductionHypothesis.insert word done
  | deleted selected _ done inductionHypothesis =>
    obtain rfl := delete_cases selected done
    obtain ⟨counted, present, ever, bounded⟩ := inductionHypothesis
    exact ⟨counted, fun row member => present row (List.mem_filter.mp member).1, ever, bounded⟩
  | flagged selected _ done inductionHypothesis =>
    obtain ⟨rows, rfl, sameIds⟩ := flag_cases selected done
    obtain ⟨counted, present, ever, bounded⟩ := inductionHypothesis
    refine ⟨counted, fun row member => ?_, ever, bounded⟩
    have listed : row.id ∈ rows.map Row.id := List.mem_map_of_mem member
    rw [sameIds] at listed
    obtain ⟨old, oldMember, same⟩ := List.mem_map.mp listed
    exact same ▸ present old oldMember

/-- The next id lies above every id that the counter remembers. -/
theorem Remembers.lt_nextId {t : Table} {ids : List Int} (remembers : t.Remembers ids) (next : Int)
    (drawn : t.nextId = .ok next) : ∀ id ∈ ids, id < next := by
  intro id given
  have counted : t.counter ≤ t.lastId := (ids_le_lastId t remembers.counted).1
  have below : id ≤ t.counter := remembers.ever id given
  unfold nextId at drawn
  split at drawn
  · have next : t.lastId + 1 = next := Except.ok.inj drawn
    omega
  · exact nomatch drawn

end Table

namespace Database

/-- After a rebuild the counter is the greatest id copied, or zero where none is positive. -/
theorem counter_rebuiltTable (t : Table) : ((rebuiltTable t).counter : Int) =
    (t.rows.map Row.copied).foldl (fun last row => max last row.id) 0 :=
  Int.toNat_of_nonneg ((Table.greatest_id_le (t.rows.map Row.copied) 0 _).mp (Int.le_refl _)).1

/-- After a rebuild the counter stands below exactly those ids that are positive and above every id
copied. -/
theorem counter_rebuiltTable_lt_iff (t : Table) (id : Int) :
    (rebuiltTable t).counter < id ↔ 0 < id ∧ ∀ row ∈ t.rows, row.id < id := by
  have bound := Table.greatest_id_le (t.rows.map Row.copied) 0 (id - 1)
  have copies : (∀ row ∈ t.rows.map Row.copied, row.id ≤ id - 1) ↔
      ∀ row ∈ t.rows, row.id < id := by
    rw [List.forall_mem_map]
    exact forall₂_congr fun row _ => Int.le_sub_one_iff
  rw [copies] at bound
  have positive : (0 : Int) ≤ id - 1 ↔ 0 < id := Int.le_sub_one_iff
  rw [counter_rebuiltTable]
  exact Int.le_sub_one_iff.symm.trans (bound.trans (and_congr_left' positive))

/-- After a rebuild no id lies above the counter. -/
theorem counts_rebuiltTable (t : Table) : (rebuiltTable t).Counts := by
  intro row member
  rw [counter_rebuiltTable]
  exact ((Table.greatest_id_le (t.rows.map Row.copied) 0 _).mp (Int.le_refl _)).2 row member

end Database

namespace Transition

/-- The transition gives the id to a row: the row is there afterwards and no row had the id before,
or the row is one of an endpoint whose rows were all replaced. -/
def Gives (x : Transition) (id : Int) : Prop :=
  ∃ row ∈ x.after.rows, row.id = id ∧
    ((∀ old ∈ x.before.rows, old.id ≠ id) ∨
      ∃ endpoint, row.endpoint = .text endpoint ∧ x.Renews endpoint)

variable {x : Transition} {t changed : Table}

/-- No change leaves an id above the counter. -/
theorem Changes.counts (change : x.Changes t changed) (current : t.Current) (counts : t.Counts) :
    changed.Counts := fun row member =>
  change.counted current row.id (fun other present same => same ▸ counts other present) row member rfl

/-- No change takes the counter below what it has reached. -/
theorem Changes.counts_from (change : x.Changes t changed) (current : t.Current) (reached : Int)
    (holds : t.Counts ∧ reached ≤ t.counter) : changed.Counts ∧ reached ≤ changed.counter :=
  ⟨change.counts current holds.1, Int.le_trans holds.2 (change.counter_le current)⟩

/-- A request that was carried out has replaced the rows of its endpoint. -/
theorem replaced_of_renews (serves : x.before.Serves t) (stillServes : x.after.Serves changed)
    (endpoint : String) (renews : x.Renews endpoint) :
    ∃ request, request.endpoint = endpoint ∧ changed = Database.replaced t request x.now := by
  obtain ⟨db, now, operation⟩ := x
  obtain ⟨draft, rfl, rfl, done⟩ := renews
  rcases Database.upsert_current serves.kept serves.current draft now with
    ⟨fault, _, failed, _⟩ | ⟨request, checked, _, _, stored⟩ | ⟨_, _, _, failed, _⟩
  · simp [outcome, Operation.run, Outcome.map, failed, Except.map] at done
  · refine ⟨request, (NewSubscription.endpoint_of_check draft request checked).symm, ?_⟩
    have kept := stillServes.kept
    have moved : (Transition.mk db now (.upsert draft)).after =
      db.withTable (Database.replaced t request now) := stored
    rw [moved] at kept
    exact (Option.some.inj kept).symm
  · simp [outcome, Operation.run, Outcome.map, failed, Except.map] at done

/-- An id that is given lies above the counter, and the counter follows it. -/
theorem Changes.given (change : x.Changes t changed) (serves : x.before.Serves t)
    (stillServes : x.after.Serves changed) (counts : t.Counts) (id : Int) (gives : x.Gives id) :
    t.counter < id ∧ id ≤ changed.counter := by
  obtain ⟨row, member, rfl, new⟩ := gives
  rw [stillServes.rows_eq] at member
  refine ⟨?_, change.counts serves.current counts row member⟩
  rcases new with absent | ⟨endpoint, named, renews⟩
  · rw [serves.rows_eq] at absent
    rcases change.origin serves.current row member with old | ⟨old, present, rfl, _⟩ | ⟨above, _⟩
    · exact absurd rfl (absent row old)
    · exact absurd rfl (absent old present)
    · exact above
  · obtain ⟨request, rfl, rfl⟩ := replaced_of_renews serves stillServes endpoint renews
    rw [Table.rows_replaced t request x.now serves.current] at member
    rcases List.mem_append.mp member with old | fresh
    · exact absurd named ((Table.mem_cleared_iff t _ row).mp old).2
    · exact Table.counter_lt_fresh t request x.now serves.current row fresh

end Transition

section Linked

variable {db : Database} {t : Table} {xs : List Transition} (linked : Linked db xs)
  (serves : db.Serves t) (counts : t.Counts)

include linked serves counts

/-- Every id that a run gives lies above the counter from which the run started. -/
theorem counter_lt_of_gives (x : Transition) (member : x ∈ xs) (id : Int) (gives : x.Gives id) :
    t.counter < id := by
  obtain ⟨met, changed, meets, leaves, change, stillCounts, forward⟩ :=
    met_of_linked (P := fun met => met.Counts ∧ (t.counter : Int) ≤ met.counter) linked serves
      (fun y _ met changed current change => change.counts_from current t.counter)
      ⟨counts, Int.le_refl _⟩ x member
  exact Int.lt_of_le_of_lt forward (change.given meets leaves stillCounts id gives).1

/-- A run gives ids in ascending order, so it gives none twice. -/
theorem gives_ascending (x : Transition) (middle : List Transition) (y : Transition)
    (apart : Between xs x middle y) (first second : Int) (gives : x.Gives first)
    (later : y.Gives second) : first < second := by
  obtain ⟨before, after, rfl⟩ := apart
  rw [List.append_assoc, List.cons_append] at linked
  obtain ⟨met, meets, stillCounts⟩ :=
    linked_invariant before (middle ++ y :: after) x
      (fun z _ t changed current change => change.counts current) db t linked serves counts
  obtain ⟨changed, leaves, change⟩ := x.changes met meets
  -- From `x` on the counter keeps what `x` gave, and what `y` gives lies above it.
  obtain ⟨late, meetsLate, lateCounts, kept⟩ :=
    linked_invariant (P := fun met => met.Counts ∧ first ≤ met.counter) middle after y
      (fun z _ t changed current change => change.counts_from current first)
      x.after changed (linked_after db before _ x linked) leaves
      ⟨change.counts meets.current stillCounts,
        (change.given meets leaves stillCounts first gives).2⟩
  obtain ⟨_, leavesLate, changeLate⟩ := y.changes late meetsLate
  exact Int.lt_of_le_of_lt kept (changeLate.given meetsLate leavesLate lateCounts second later).1

end Linked

/-- A request to subscribe one endpoint to one topic. -/
def singleDraft : NewSubscription.Draft :=
  ⟨"https://push.example/a", ["news"], none, "auth", "p256dh"⟩

/-- The request passes its check as it stands. -/
theorem check_singleDraft : singleDraft.check = .ok singleDraft.unchecked := by decide +kernel

/-- The request has one topic. -/
theorem names_singleDraft : singleDraft.unchecked.topics.names = ["news"] := by decide +kernel

/-- The table in which the request was carried out has its row under the id after the counter, which
has followed it. -/
theorem replaced_single (t : Table) (now : Instant) (current : t.Current) (counts : t.Counts) :
    (Database.replaced t singleDraft.unchecked now).counter = t.counter + 1 ∧
      ∃ row ∈ (Database.replaced t singleDraft.unchecked now).rows,
        row.id = t.counter + 1 ∧ row.endpoint = .text singleDraft.endpoint := by
  have cleared : (t.cleared singleDraft.endpoint).Current := Table.current_without t _ current
  have last : (t.cleared singleDraft.endpoint).lastId = t.counter :=
    Table.lastId_eq_counter _ cleared.counted fun row member =>
      counts row (List.mem_filter.mp member).1
  have contents : Database.freshContents singleDraft.unchecked now =
      [Database.freshContent singleDraft.unchecked now "news"] := by
    rw [Database.freshContents, names_singleDraft, List.map_singleton]
  have added : Database.replaced t singleDraft.unchecked now =
      (t.cleared singleDraft.endpoint).add
        (Database.freshContent singleDraft.unchecked now "news") := by
    rw [Database.replaced, contents]
    rfl
  rw [added, Table.add, last]
  exact ⟨rfl, _, List.mem_append_right _ (List.mem_singleton_self _), rfl, rfl⟩

/-- As long as ids are left, the request is carried out. -/
theorem upsert_single (db : Database) (t : Table) (serves : db.Serves t) (counts : t.Counts)
    (room : t.counter < Word.greatest) :
    (db.upsert singleDraft .epoch).result = .ok () ∧
      (db.upsert singleDraft .epoch).database =
        db.withTable (Database.replaced t singleDraft.unchecked .epoch) := by
  have fits : (t.cleared singleDraft.endpoint).HasRoom singleDraft.unchecked.topics.size := by
    have cleared : (t.cleared singleDraft.endpoint).Current :=
      Table.current_without t _ serves.current
    have last : (t.cleared singleDraft.endpoint).lastId ≤ t.counter :=
      (Table.lastId_le_iff _ _ cleared.counted).mpr
        ⟨Int.le_refl _, fun row member => counts row (List.mem_filter.mp member).1⟩
    have size : singleDraft.unchecked.topics.size = 1 := congrArg List.length names_singleDraft
    right
    omega
  rcases Database.upsert_current serves.kept serves.current singleDraft .epoch with
    ⟨_, failed, _⟩ | ⟨_, checked, _, done, stored⟩ | ⟨_, checked, full, _⟩
  · exact nomatch check_singleDraft.symm.trans failed
  · obtain rfl := Except.ok.inj (check_singleDraft.symm.trans checked)
    exact ⟨done, stored⟩
  · obtain rfl := Except.ok.inj (check_singleDraft.symm.trans checked)
    exact absurd fits full

/-- As long as ids are left, carrying out the request gives the one after the counter. -/
theorem gives_next (db : Database) (t : Table) (serves : db.Serves t) (counts : t.Counts)
    (room : t.counter < Word.greatest) :
    ∃ x : Transition, x.before = db ∧ x.Gives (t.counter + 1) ∧
      ∃ changed, x.after.Serves changed ∧ changed.Counts ∧ changed.counter = t.counter + 1 := by
  let x : Transition := ⟨db, .epoch, .upsert singleDraft⟩
  obtain ⟨done, stored⟩ := upsert_single db t serves counts room
  have renews : x.Renews singleDraft.endpoint :=
    ⟨singleDraft, rfl, rfl, by
      simp [x, Transition.outcome, Operation.run, Outcome.map, done, Except.map]⟩
  obtain ⟨changed, leaves, change⟩ := x.changes t serves
  obtain rfl : changed = Database.replaced t singleDraft.unchecked .epoch := by
    have left : x.after = db.withTable (Database.replaced t singleDraft.unchecked .epoch) := stored
    have kept := leaves.kept
    rw [left] at kept
    exact (Option.some.inj kept).symm
  obtain ⟨followed, row, member, numbered, named⟩ :=
    replaced_single t .epoch serves.current counts
  have present : row ∈ x.after.rows := by
    rw [leaves.rows_eq]
    exact member
  exact ⟨x, rfl, ⟨row, present, numbered, .inr ⟨singleDraft.endpoint, named, renews⟩⟩, _, leaves,
    change.counts serves.current counts, followed⟩

/-- Some run gives an id, as long as it lies above the counter and is a word: the request is carried
out until its turn comes. -/
theorem exists_run_gives (n : Nat) (db : Database) (t : Table) (serves : db.Serves t)
    (counts : t.Counts) (room : t.counter + n + 1 ≤ Word.greatest) :
    ∃ xs, Linked db xs ∧ ∃ x ∈ xs, x.Gives (t.counter + n + 1) := by
  induction n generalizing db t with
  | zero =>
    obtain ⟨x, starts, gives, _⟩ := gives_next db t serves counts (by omega)
    exact ⟨[x], ⟨starts, trivial⟩, x, List.mem_singleton_self x, by simpa using gives⟩
  | succ n inductionHypothesis =>
    obtain ⟨x, starts, _, changed, leaves, stillCounts, followed⟩ :=
      gives_next db t serves counts (by omega)
    have sameId : (changed.counter : Int) + n + 1 = t.counter + ↑(n + 1) + 1 := by omega
    obtain ⟨xs, linked, y, member, gives⟩ :=
      inductionHypothesis x.after changed leaves stillCounts (by omega)
    exact ⟨x :: xs, ⟨starts, linked⟩, y, List.mem_cons_of_mem x member, sameId ▸ gives⟩

namespace Database

/-- A database of an old version, whose table counts its ids and came about by insertions, deletions
and the setting of flags, is opened. Had it not been, the next id would have been a new one, and from
now on no run gives an id twice. But the ids of rows that were deleted before are not all safe: an id
that a row ever had is given again by some run exactly if it is positive and above all ids that are
left. -/
theorem openStore_forgets_deleted_ids (db : Database) (version : Nat) (mode : OpenMode) (t : Table)
    (ids : List Int) (proper : db.ProperlyNamed) (old : db.StampedAs version)
    (less : version < latestVersion) (kept : db.subscriptions = some t) (lived : t.Lived ids)
    (opened : (db.openStore mode).result = .ok ()) :
    (∀ next, t.nextId = .ok next → ∀ id ∈ ids, id < next) ∧
    (∀ xs, Linked (db.openStore mode).database xs → ∀ x middle y, Between xs x middle y →
      ∀ first second, x.Gives first → y.Gives second → first < second) ∧
    ∀ id ∈ ids, (∃ xs, Linked (db.openStore mode).database xs ∧ ∃ x ∈ xs, x.Gives id) ↔
      0 < id ∧ ∀ row ∈ t.rows, row.id < id := by
  have read : db.currentVersion = .ok version :=
    (currentVersion_ok_iff db proper version (Nat.le_of_lt less)).mpr old
  obtain ⟨found, fit⟩ := upgradable_of_update read less opened
  obtain rfl : found = t := fit.eq_of_kept kept
  have updated : (db.openStore mode).database = db.upgraded found :=
    (update_upgradable read less found fit).2
  have serves : (db.openStore mode).database.Serves (rebuiltTable found) :=
    updated ▸ serves_upgraded db found proper
  have counts : (rebuiltTable found).Counts := counts_rebuiltTable found
  have remembers := lived.remembers
  refine ⟨remembers.lt_nextId, ?_, fun id given => ?_⟩
  · intro xs linked x middle y apart first second gives later
    exact gives_ascending linked serves counts x middle y apart first second gives later
  · rw [← counter_rebuiltTable_lt_iff]
    constructor
    · rintro ⟨xs, linked, x, member, gives⟩
      exact counter_lt_of_gives linked serves counts x member id gives
    · intro above
      have word : id ≤ Word.greatest := Int.le_trans (remembers.ever id given) remembers.bounded
      obtain ⟨n, same⟩ := Int.le.dest (Int.add_one_le_of_lt above)
      have sameId : (rebuiltTable found).counter + n + 1 = id := by omega
      obtain ⟨xs, linked, x, member, gives⟩ :=
        exists_run_gives n _ _ serves counts (sameId ▸ word)
      exact ⟨xs, linked, x, member, sameId ▸ gives⟩

/-! Two rows were inserted into a table of the first published layout, or only one of them, and the
last one was deleted again. -/

/-- The content of a row under a topic. -/
def datedContent (topic : String) : Content where
  topic := .text topic
  userId := .null
  endpoint := .text "https://push.example/a"
  keyAuth := .text "auth"
  keyP256dh := .text "p256dh"
  updatedAt := .text "2024-01-02 03:04:05"
  warningSent := .integer 0

/-- The table with the rows that are left and the counter. -/
def datedTable (rows : List Row) (counter : Nat) : Table := ⟨.dated, true, rows, counter, none⟩

/-- The database that holds the table. -/
def datedDatabase (rows : List Row) (counter : Nat) : Database :=
  ofFirstVersion (datedTable rows counter)

/-- The first of two rows. -/
def firstRow : Row := { datedContent "mail" with id := 1 }

/-- The second of two rows. -/
def secondRow : Row := { datedContent "news" with id := 2 }

/-- The first row was inserted. -/
theorem lived_firstRow : (datedTable [firstRow] 1).Lived [1] := by
  have created : Table.Lived [] (datedTable [] 0) := .created true rfl
  have done : (datedTable [] 0).insert none (datedContent "mail") =
      .ok (datedTable [firstRow] 1, 1) := by
    decide +kernel
  exact created.inserted none (datedContent "mail") nofun done

/-- The second row was inserted after the first one. -/
theorem lived_secondRow : (datedTable [firstRow, secondRow] 2).Lived [1, 2, 1] := by
  have done : (datedTable [firstRow] 1).insert none (datedContent "news") =
      .ok (datedTable [firstRow, secondRow] 2, 1) := by
    decide +kernel
  exact lived_firstRow.inserted none (datedContent "news") nofun done

/-- The second of two rows was deleted. Before the store is opened the next id is the third one, and
afterwards some run gives the second one again. -/
theorem second_id_given_again :
    (datedDatabase [firstRow] 2).ProperlyNamed ∧ (datedDatabase [firstRow] 2).StampedAs 1 ∧
      (datedTable [firstRow] 2).Lived [1, 2, 1] ∧
      ((datedDatabase [firstRow] 2).openStore .file).result = .ok () ∧
      (datedTable [firstRow] 2).nextId = .ok 3 ∧
      ∃ xs, Linked ((datedDatabase [firstRow] 2).openStore .file).database xs ∧
        ∃ x ∈ xs, x.Gives 2 := by
  have proper : (datedDatabase [firstRow] 2).ProperlyNamed := proper_ofFirstVersion _
  have stamped : (datedDatabase [firstRow] 2).StampedAs 1 := .inl (by decide +kernel)
  have deleted : (datedTable [firstRow, secondRow] 2).delete (fun row => row.id = 2) =
      .ok (datedTable [firstRow] 2, 1) := by
    decide +kernel
  have lived : (datedTable [firstRow] 2).Lived [1, 2, 1] := lived_secondRow.deleted _ deleted
  have opened : ((datedDatabase [firstRow] 2).openStore .file).result = .ok () := by
    decide +kernel
  obtain ⟨_, _, again⟩ := openStore_forgets_deleted_ids (datedDatabase [firstRow] 2) 1 .file
    (datedTable [firstRow] 2) [1, 2, 1] proper stamped (by decide) rfl lived opened
  exact ⟨proper, stamped, lived, opened, by decide +kernel,
    (again 2 (by decide)).mpr (by decide +kernel)⟩

/-- The only row was deleted, and the first request after the opening gives its id again. -/
theorem only_id_given_again :
    (datedTable [] 1).Lived [1] ∧ (datedDatabase [] 1).StampedAs 1 ∧
      ((datedDatabase [] 1).openStore .file).result = .ok () ∧
      (Transition.mk ((datedDatabase [] 1).openStore .file).database .epoch
        (.upsert singleDraft)).Gives 1 := by
  have deleted : (datedTable [firstRow] 1).delete (fun row => row.id = 1) =
      .ok (datedTable [] 1, 1) := by
    decide +kernel
  have given : ∃ row ∈ (Transition.mk ((datedDatabase [] 1).openStore .file).database .epoch
      (.upsert singleDraft)).after.rows, row.id = 1 := by
    decide +kernel
  have unused : ∀ old ∈ ((datedDatabase [] 1).openStore .file).database.rows, old.id ≠ 1 := by
    decide +kernel
  obtain ⟨row, member, same⟩ := given
  exact ⟨lived_firstRow.deleted _ deleted, .inl (by decide +kernel), by decide +kernel, row, member,
    same, .inl unused⟩

end Database
end PushLedger
