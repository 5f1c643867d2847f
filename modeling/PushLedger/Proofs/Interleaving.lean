import Mathlib.Data.Multiset.Count
import Mathlib.Data.Multiset.Filter
import PushLedger.Proofs.Legibility
import PushLedger.Proofs.Warnings

/-!
# Stores that do not disturb each other

Several stores share a database, and each of them subscribes and removes endpoints that no other
store touches. They may also sweep, as long as no row is old enough for any of their sweeps. Then
each store gets the answers that it would get in any other order in which the stores might have
come, and what is left of the table is the same up to the ids.

An errand is said once more as an effect on the contents of the table, without ids. The effect takes
contents out and puts contents in, all of them of endpoints that the errand touches. So whoever
looks only at the endpoints of one store sees the errands of this store and no others.
-/

namespace PushLedger

/-- What a store is asked for. -/
inductive Errand
  | upsert (draft : NewSubscription.Draft)
  | removeEndpoint (endpoint : String)
  | sweep (warning expiry : Span)
deriving DecidableEq

/-- A store, by its place, is asked for something at a reading of its clock. -/
structure Visit where
  place : Nat
  now : Instant
  errand : Errand
deriving DecidableEq

namespace Errand

/-- The operation that is asked for. -/
def operation : Errand → Operation
  | upsert draft => .upsert draft
  | removeEndpoint endpoint => .removeEndpoint endpoint
  | sweep warning expiry => .sweep warning expiry

/-- The endpoint that an errand touches; a sweep names none. -/
def endpoint? : Errand → Option String
  | upsert draft => some draft.endpoint
  | removeEndpoint endpoint => some endpoint
  | sweep _ _ => none

/-- The cutoffs of a sweep, of its expiry and of its warning. -/
def cutoffs (now : Instant) : Errand → List Int
  | sweep warning expiry => [now.cutoff expiry, now.cutoff warning]
  | _ => []

/-- The contents that an errand puts in. -/
def fresh (now : Instant) : Errand → List Content
  | upsert draft =>
      match draft.check with
      | .error _ => []
      | .ok request => Database.freshContents request now
  | _ => []

/-- The errand takes the contents of this endpoint out. A request that is refused takes nothing out.
-/
def clears : Errand → Cell → Bool
  | upsert draft, cell =>
      match draft.check with
      | .error _ => false
      | .ok request => cell.isText request.endpoint
  | removeEndpoint endpoint, cell => cell.isText endpoint
  | sweep _ _, _ => false

/-- What an errand makes of the contents of a table, if there are ids enough and nothing is old
enough for a sweep. -/
def effect (now : Instant) (errand : Errand) (contents : Multiset Content) : Multiset Content :=
  contents.filter (fun content => errand.clears content.endpoint = false) + errand.fresh now

/-- What an errand answers then. -/
def reply (errand : Errand) (contents : Multiset Content) : Except StepFault StepAnswer :=
  match errand with
  | upsert draft =>
      match draft.check with
      | .error fault => .error (.ledger (.validation fault))
      | .ok _ => .ok (.answered .done)
  | removeEndpoint endpoint =>
      .ok (.answered (.removed (contents.countP fun content => content.endpoint.isText endpoint)))
  | sweep _ _ => .ok (.answered (.swept ⟨0, 0, []⟩))

/-- The endpoint belongs to the errand. -/
def Touches (errand : Errand) (cell : Cell) : Prop :=
  ∃ endpoint, errand.endpoint? = some endpoint ∧ cell = .text endpoint

/-- An errand takes out only what it touches. -/
theorem touches_of_clears (errand : Errand) (cell : Cell) (cleared : errand.clears cell = true) :
    errand.Touches cell := by
  cases errand with
  | upsert draft =>
    simp only [clears] at cleared
    split at cleared
    · exact nomatch cleared
    · next request checked =>
      have asked := NewSubscription.endpoint_of_check draft request checked
      exact ⟨draft.endpoint, rfl, asked ▸ (Cell.isText_iff _ _).mp cleared⟩
  | removeEndpoint endpoint => exact ⟨endpoint, rfl, (Cell.isText_iff _ _).mp cleared⟩
  | sweep warning expiry => exact nomatch cleared

/-- An errand puts in only what it touches. -/
theorem touches_of_fresh (now : Instant) (errand : Errand) (content : Content)
    (member : content ∈ errand.fresh now) : errand.Touches content.endpoint := by
  cases errand with
  | upsert draft =>
    simp only [fresh] at member
    split at member
    · exact nomatch member
    · next request checked =>
      obtain ⟨topic, _, rfl⟩ := List.mem_map.mp member
      exact ⟨draft.endpoint, rfl,
        congrArg Cell.text (NewSubscription.endpoint_of_check draft request checked).symm⟩
  | removeEndpoint endpoint => exact nomatch member
  | sweep warning expiry => exact nomatch member

/-- What is put in has the stamp of the reading. -/
theorem updatedAt_of_fresh (now : Instant) (errand : Errand) (content : Content)
    (member : content ∈ errand.fresh now) :
    (∃ draft, errand = .upsert draft) ∧ content.updatedAt = .integer now.millis := by
  cases errand with
  | upsert draft =>
    refine ⟨⟨draft, rfl⟩, ?_⟩
    simp only [fresh] at member
    split at member
    · exact nomatch member
    · obtain ⟨topic, _, rfl⟩ := List.mem_map.mp member
      rfl
  | removeEndpoint endpoint => exact nomatch member
  | sweep warning expiry => exact nomatch member

end Errand

/-- The contents of some endpoints. -/
def view (P : Cell → Prop) [DecidablePred P] (contents : Multiset Content) : Multiset Content :=
  contents.filter fun content => P content.endpoint

/-- A content of these endpoints is seen as often as it is there. -/
theorem count_view (P : Cell → Prop) [DecidablePred P] (contents : Multiset Content)
    (content : Content) (seen : P content.endpoint) :
    (view P contents).count content = contents.count content :=
  Multiset.count_filter_of_pos (p := fun content : Content => P content.endpoint) seen

namespace Errand

variable (P : Cell → Prop) [DecidablePred P] (now : Instant) (errand : Errand)
  (contents : Multiset Content)

/-- Whoever sees all endpoints of an errand sees its effect. -/
theorem view_effect_of_own (own : ∀ cell, errand.Touches cell → P cell) :
    view P (errand.effect now contents) = errand.effect now (view P contents) := by
  have seen : view P (errand.fresh now : Multiset Content) = errand.fresh now := by
    refine Multiset.filter_eq_self.mpr ?_
    intro content member
    exact own _ (errand.touches_of_fresh now content (Multiset.mem_coe.mp member))
  unfold view at seen ⊢
  rw [effect, effect, Multiset.filter_add, seen, Multiset.filter_comm]

/-- Whoever sees no endpoint of an errand sees nothing of it. -/
theorem view_effect_of_foreign (foreign : ∀ cell, errand.Touches cell → ¬ P cell) :
    view P (errand.effect now contents) = view P contents := by
  have unseen : view P (errand.fresh now : Multiset Content) = 0 := by
    refine Multiset.filter_eq_nil.mpr ?_
    intro content member
    exact foreign _ (errand.touches_of_fresh now content (Multiset.mem_coe.mp member))
  have spared : view P (contents.filter fun content => errand.clears content.endpoint = false) =
      view P contents := by
    unfold view
    rw [Multiset.filter_filter]
    refine Multiset.filter_congr ?_
    intro content _
    constructor
    · exact And.left
    · intro seen
      refine ⟨seen, ?_⟩
      by_contra cleared
      exact foreign _ (errand.touches_of_clears _ (Bool.not_eq_false _ ▸ cleared)) seen
  unfold view at unseen spared ⊢
  rw [effect, Multiset.filter_add, unseen, spared, Multiset.add_zero]

/-- An errand answers by the endpoints that it touches. -/
theorem reply_view (own : ∀ cell, errand.Touches cell → P cell) :
    errand.reply (view P contents) = errand.reply contents := by
  cases errand with
  | upsert draft => rfl
  | removeEndpoint endpoint =>
    have counted :
        (view P contents).countP (fun content => content.endpoint.isText endpoint = true) =
          contents.countP fun content => content.endpoint.isText endpoint = true := by
      rw [view, Multiset.countP_filter]
      refine Multiset.countP_congr rfl ?_
      intro content _
      refine propext ⟨And.left, ?_⟩
      intro named
      exact ⟨named, own _ ⟨endpoint, rfl, (Cell.isText_iff _ _).mp named⟩⟩
    exact congrArg (fun count => Except.ok (StepAnswer.answered (.removed count))) counted
  | sweep warning expiry => rfl

end Errand

namespace Visit

/-- What visits make of the contents of a table, one after another, and what each store is answered.
-/
def replies : List Visit → Multiset Content →
    List (Nat × Except StepFault StepAnswer) × Multiset Content
  | [], contents => ([], contents)
  | visit :: rest, contents =>
      let (answers, final) := replies rest (visit.errand.effect visit.now contents)
      ((visit.place, visit.errand.reply contents) :: answers, final)

/-- The visits of one store. -/
def ofPlace (place : Nat) (visits : List Visit) : List Visit :=
  visits.filter fun visit => visit.place = place

/-- The same visits of every store, in its order, and in any order between the stores. -/
def Reordered (first second : List Visit) : Prop :=
  ∀ place, ofPlace place first = ofPlace place second

/-- The answers that one store gets. -/
def answersOf (place : Nat) (answers : List (Nat × Except StepFault StepAnswer)) :
    List (Nat × Except StepFault StepAnswer) :=
  answers.filter fun answer => answer.1 = place

/-- No endpoint is touched by two stores. -/
def Apart (visits : List Visit) : Prop :=
  ∀ a ∈ visits, ∀ b ∈ visits, a.place ≠ b.place →
    ∀ endpoint, a.errand.endpoint? = some endpoint → b.errand.endpoint? ≠ some endpoint

/-- Visits in another order are the same visits. -/
theorem Reordered.mem_iff {first second : List Visit} (reordered : Reordered first second)
    (visit : Visit) : visit ∈ first ↔ visit ∈ second := by
  have own (visits : List Visit) : visit ∈ visits ↔ visit ∈ ofPlace visit.place visits := by
    simp [ofPlace]
  rw [own first, own second, reordered visit.place]

/-- What one store gets of the visits of all. It sees the endpoints that its own errands touch, and
no other store touches any of these. -/
theorem replies_view (place : Nat) (P : Cell → Prop) [DecidablePred P] (visits : List Visit)
    (contents : Multiset Content)
    (own : ∀ visit ∈ visits, visit.place = place → ∀ cell, visit.errand.Touches cell → P cell)
    (foreign : ∀ visit ∈ visits, visit.place ≠ place →
      ∀ cell, visit.errand.Touches cell → ¬ P cell) :
    answersOf place (replies visits contents).1 =
        (replies (ofPlace place visits) (view P contents)).1 ∧
      view P (replies visits contents).2 =
        (replies (ofPlace place visits) (view P contents)).2 := by
  induction visits generalizing contents with
  | nil => exact ⟨rfl, rfl⟩
  | cons visit rest inductionHypothesis =>
    obtain ⟨ownFirst, ownRest⟩ := List.forall_mem_cons.mp own
    obtain ⟨foreignFirst, foreignRest⟩ := List.forall_mem_cons.mp foreign
    obtain ⟨answers, final⟩ := inductionHypothesis (visit.errand.effect visit.now contents) ownRest
      foreignRest
    by_cases here : visit.place = place
    · have seen := visit.errand.view_effect_of_own P visit.now contents (ownFirst here)
      have reply := visit.errand.reply_view P contents (ownFirst here)
      rw [seen] at answers final
      simp only [replies, ofPlace, answersOf, List.filter_cons, here, decide_true, if_true, reply]
        at answers final ⊢
      exact ⟨congrArg _ answers, final⟩
    · have unseen := visit.errand.view_effect_of_foreign P visit.now contents (foreignFirst here)
      rw [unseen] at answers final
      simp only [replies, ofPlace, answersOf, List.filter_cons, here, decide_false,
        Bool.false_eq_true, if_false] at answers final ⊢
      exact ⟨answers, final⟩

/-- Contents that no visit touches are left alone. -/
theorem replies_untouched (P : Cell → Prop) [DecidablePred P] (visits : List Visit)
    (contents : Multiset Content)
    (untouched : ∀ visit ∈ visits, ∀ cell, visit.errand.Touches cell → ¬ P cell) :
    view P (replies visits contents).2 = view P contents := by
  induction visits generalizing contents with
  | nil => rfl
  | cons visit rest inductionHypothesis =>
    obtain ⟨untouchedFirst, untouchedRest⟩ := List.forall_mem_cons.mp untouched
    calc view P (replies (visit :: rest) contents).2
        = view P (visit.errand.effect visit.now contents) := inductionHypothesis _ untouchedRest
      _ = view P contents := visit.errand.view_effect_of_foreign P _ _ untouchedFirst

/-- The endpoint belongs to a store, for one of its visits touches it. -/
def Owns (visits : List Visit) (place : Nat) (cell : Cell) : Prop :=
  ∃ visit ∈ visits, visit.place = place ∧ visit.errand.Touches cell

/-- The endpoint belongs to no store. -/
def Unowned (visits : List Visit) (cell : Cell) : Prop := ∀ place, ¬ Owns visits place cell

section Reordering

variable {first second : List Visit} (reordered : Reordered first second) (apart : Apart first)
  (contents : Multiset Content)

include apart in
/-- No other store touches what belongs to one. -/
theorem not_owned_of_foreign (place : Nat) (visit : Visit) (member : visit ∈ first)
    (there : visit.place ≠ place) (cell : Cell) (touches : visit.errand.Touches cell) :
    ¬ Owns first place cell := by
  rintro ⟨other, otherMember, here, again, also, same⟩
  obtain ⟨endpoint, names, rfl⟩ := touches
  obtain rfl := Cell.text.inj same
  exact apart visit member other otherMember (fun equal => there (equal.trans here)) endpoint names
    also

include reordered apart

open scoped Classical in
/-- Each store gets the same answers in another order, and its endpoints come out the same. -/
theorem replies_of_place (place : Nat) :
    answersOf place (replies first contents).1 = answersOf place (replies second contents).1 ∧
      view (Owns first place) (replies first contents).2 =
        view (Owns first place) (replies second contents).2 := by
  have own (visit : Visit) (member : visit ∈ first) (here : visit.place = place) (cell : Cell)
      (touches : visit.errand.Touches cell) : Owns first place cell :=
    ⟨visit, member, here, touches⟩
  have foreign := not_owned_of_foreign apart place
  obtain ⟨answers, final⟩ := replies_view place (Owns first place) first contents own foreign
  obtain ⟨answersSecond, finalSecond⟩ := replies_view place (Owns first place) second contents
    (fun visit member => own visit ((reordered.mem_iff visit).mpr member))
    (fun visit member => foreign visit ((reordered.mem_iff visit).mpr member))
  rw [answers, final, answersSecond, finalSecond, reordered place]
  exact ⟨rfl, rfl⟩

open scoped Classical in
/-- In another order the contents come out the same: those of an endpoint that belongs to some
store, because that store sees no difference, and all others because no visit touches them. -/
theorem contents_reordered : (replies first contents).2 = (replies second contents).2 := by
  ext content
  by_cases unowned : Unowned first content.endpoint
  · have untouched (visit : Visit) (member : visit ∈ first) (cell : Cell)
        (touches : visit.errand.Touches cell) : ¬ Unowned first cell :=
      fun unowned => unowned visit.place ⟨visit, member, rfl, touches⟩
    have left := replies_untouched (Unowned first) first contents untouched
    have leftSecond := replies_untouched (Unowned first) second contents
      fun visit member => untouched visit ((reordered.mem_iff visit).mpr member)
    rw [← count_view (Unowned first) _ content unowned, left, ← leftSecond,
      count_view (Unowned first) _ content unowned]
  · obtain ⟨place, owns⟩ := not_forall_not.mp unowned
    obtain ⟨_, same⟩ := replies_of_place reordered apart contents place
    rw [← count_view (Owns first place) _ content owns, same,
      count_view (Owns first place) _ content owns]

end Reordering

end Visit

namespace Table

/-- The contents of the rows, in no order. -/
def contents (t : Table) : Multiset Content := (t.rows.map Row.toContent : List Content)

/-- A content is that of a row. -/
theorem mem_contents_iff (t : Table) (content : Content) :
    content ∈ t.contents ↔ ∃ row ∈ t.rows, row.toContent = content := by
  rw [contents, Multiset.mem_coe, List.mem_map]

/-- An endpoint has as many contents as rows. -/
theorem countP_contents (t : Table) (endpoint : String) :
    t.contents.countP (fun content => content.endpoint.isText endpoint) =
      t.rows.countP fun row => row.endpoint.isText endpoint := by
  rw [contents, Multiset.coe_countP, List.countP_map]
  refine List.countP_congr ?_
  intro row _
  simp only [Function.comp_apply, decide_eq_true_eq]

/-- A deletion by endpoint takes the contents of the endpoint out. -/
theorem contents_cleared (t : Table) (endpoint : String) : (t.cleared endpoint).contents =
    t.contents.filter fun content => content.endpoint.isText endpoint = false := by
  have same : (fun row : Row => !row.endpoint.isText endpoint) =
      (fun content : Content => decide (content.endpoint.isText endpoint = false)) ∘
        Row.toContent := by
    funext row
    cases named : row.endpoint.isText endpoint <;> simp [named]
  rw [contents, contents, Multiset.filter_coe, List.filter_map, ← same]
  rfl

/-- A replacement takes the contents of the endpoint out and puts those of the request in. -/
theorem contents_replaced (t : Table) (request : NewSubscription) (now : Instant)
    (current : t.Current) : (Database.replaced t request now).contents =
      t.contents.filter (fun content => content.endpoint.isText request.endpoint = false) +
        Database.freshContents request now := by
  rw [← contents_cleared, contents, contents, rows_replaced t request now current, List.map_append,
    Row.contents_numbered, Multiset.coe_add]

/-- A deletion that selects nothing changes nothing. -/
theorem without_of_none (t : Table) (selected : Row → Bool)
    (none : ∀ row ∈ t.rows, selected row = false) : t.without selected = t := by
  have all : (t.rows.filter fun row => !selected row) = t.rows := by
    refine List.filter_eq_self.mpr ?_
    intro row member
    rw [none row member, Bool.not_false]
  rw [without, all]

section Overlooked

variable (t : Table) (expireBefore warnBefore : Int)
  (unexpired : ∀ row ∈ t.rows, row.updatedAt.atMost expireBefore = false)
  (undue : ∀ row ∈ t.rows, row.updatedAt.atMost warnBefore = false)

include unexpired in
/-- Rows after the cutoff do not expire. -/
theorem isExpired_of_overlooked (row : Row) (member : row ∈ t.rows) :
    row.isExpired expireBefore = false := by
  rw [Row.isExpired, unexpired row member, Bool.and_false]

include undue in
/-- Rows after the cutoff are not due. -/
theorem isDue_of_overlooked (row : Row) (member : row ∈ t.rows) : row.isDue warnBefore = false := by
  rw [Row.isDue, undue row member, Bool.and_false]

include unexpired undue

/-- A sweep leaves rows alone that lie after its cutoffs, and reports nothing of them. -/
theorem swept_of_overlooked : t.swept expireBefore warnBefore = t ∧
    (t.without (Row.isExpired expireBefore)).dueAddresses warnBefore = [] ∧
    t.sweepReport expireBefore warnBefore [] = ⟨0, 0, []⟩ := by
  have kept : t.without (Row.isExpired expireBefore) = t :=
    t.without_of_none _ (t.isExpired_of_overlooked expireBefore unexpired)
  have none : t.rows.filter (Row.isDue warnBefore) = [] := by
    refine List.filter_eq_nil_iff.mpr ?_
    intro row member
    rw [t.isDue_of_overlooked warnBefore undue row member]
    exact Bool.false_ne_true
  have unmarked : t.rows.map (fun row => if row.isDue warnBefore then row.warned else row) =
      t.rows := by
    refine (List.map_congr_left ?_).trans (List.map_id t.rows)
    intro row member
    rw [t.isDue_of_overlooked warnBefore undue row member]
    rfl
  have fresh : t.rows.countP (Row.isExpired expireBefore) = 0 := by
    refine List.countP_eq_zero.mpr ?_
    intro row member
    rw [t.isExpired_of_overlooked expireBefore unexpired row member]
    exact Bool.false_ne_true
  refine ⟨?_, ?_, ?_⟩
  · rw [swept, kept, marked, unmarked]
  · rw [kept, dueAddresses, none]
    exact List.mergeSort_nil
  · rw [sweepReport, dueRows, kept, none, fresh]
    rfl

end Overlooked

end Table

/-- What a store is told of the result of its operation. -/
def StepAnswer.told (result : Except LedgerFault Answer) : Except StepFault StepAnswer :=
  match result with
  | .ok answer => .ok (.answered answer)
  | .error fault => .error (.ledger fault)

namespace Errand

/-- An operation on a database without a guard has the effect of its errand and its answer, if it
does not lack ids and nothing is old enough for its sweep. -/
theorem run_operation {db : Database} {t : Table} (serves : db.Serves t) (errand : Errand)
    (now : Instant)
    (overlooked : ∀ cutoff ∈ errand.cutoffs now, ∀ row ∈ t.rows,
      row.updatedAt.atMost cutoff = false)
    (unexhausted : (errand.operation.run db now).result ≠ .error (.storage .full)) :
    StepAnswer.told (errand.operation.run db now).result = errand.reply t.contents ∧
      ∃ changed, (errand.operation.run db now).database = db.withTable changed ∧
        changed.Current ∧ changed.indexed = t.indexed ∧
        changed.contents = errand.effect now t.contents := by
  have idle : db = db.withTable t := (db.withTable_of_kept t serves.kept).symm
  cases errand with
  | upsert draft =>
    rcases Database.upsert_current serves.kept serves.current draft now with
      ⟨fault, refused, done, same⟩ | ⟨request, checked, _, done, stored⟩ | ⟨_, _, _, full, _⟩
    · refine ⟨?_, t, same.trans idle, serves.current, rfl, ?_⟩
      · simp [operation, Operation.run, Outcome.map, done, Except.map, StepAnswer.told, reply,
          refused]
      · simp [effect, clears, fresh, refused]
    · refine ⟨?_, _, stored, Table.current_addAll _ _ (Table.current_without t _ serves.current),
        Table.indexed_addAll _ _, ?_⟩
      · simp [operation, Operation.run, Outcome.map, done, Except.map, StepAnswer.told, reply,
          checked]
      · rw [t.contents_replaced request now serves.current]
        simp [effect, clears, fresh, checked]
    · refine absurd ?_ unexhausted
      simp [operation, Operation.run, Outcome.map, full, Except.map]
  | removeEndpoint endpoint =>
    obtain ⟨done, stored⟩ := Database.removeEndpoint_current serves.kept serves.current endpoint
    refine ⟨?_, _, stored, Table.current_without t _ serves.current, rfl, ?_⟩
    · rw [← t.countP_contents] at done
      simp only [operation, Operation.run, Outcome.map, done, Except.map, StepAnswer.told, reply]
    · rw [t.contents_cleared endpoint]
      exact (Multiset.add_zero _).symm
  | sweep warning expiry =>
    obtain ⟨kept, silent, report⟩ := t.swept_of_overlooked (now.cutoff expiry) (now.cutoff warning)
      (overlooked _ (by simp [cutoffs])) (overlooked _ (by simp [cutoffs]))
    rcases Database.sweep_current serves.kept serves.current warning expiry now with
      ⟨targets, spelled, done, stored⟩ | ⟨_, _, _, unspelled⟩
    · obtain rfl : targets = [] := by
        simpa [silent] using spelled.symm
      rw [report] at done
      rw [kept] at stored
      refine ⟨?_, t, stored, serves.current, rfl, ?_⟩
      · simp [operation, Operation.run, Outcome.map, done, Except.map, StepAnswer.told, reply]
      · simp [effect, clears, fresh]
    · exact absurd silent (unspelled [])

end Errand

/-- No sweep among the visits reaches a row: all rows, and all that the visits put in, are stamped
after its cutoffs. -/
structure Visit.Overlooks (visits : List Visit) (t : Table) : Prop where
  rows : ∀ visit ∈ visits, ∀ cutoff ∈ visit.errand.cutoffs visit.now, ∀ row ∈ t.rows,
    row.updatedAt.atMost cutoff = false
  requests : ∀ visit ∈ visits, ∀ cutoff ∈ visit.errand.cutoffs visit.now, ∀ other ∈ visits,
    ∀ draft, other.errand = .upsert draft → cutoff < other.now.millis

/-- What a visit leaves is overlooked by those that follow. -/
theorem Visit.Overlooks.after {visit : Visit} {rest : List Visit} {t changed : Table}
    (overlooks : Overlooks (visit :: rest) t)
    (effected : changed.contents = visit.errand.effect visit.now t.contents) :
    Overlooks rest changed where
  rows sweep member cutoff reached row present := by
    have later := List.mem_cons_of_mem visit member
    have content : row.toContent ∈ changed.contents :=
      (changed.mem_contents_iff _).mpr ⟨row, present, rfl⟩
    rw [effected, Errand.effect, Multiset.mem_add] at content
    rcases content with old | new
    · obtain ⟨before, oldPresent, same⟩ :=
        (t.mem_contents_iff _).mp (Multiset.mem_filter.mp old).1
      have above := overlooks.rows sweep later cutoff reached before oldPresent
      rwa [same] at above
    · obtain ⟨⟨draft, asks⟩, stamp⟩ :=
        visit.errand.updatedAt_of_fresh visit.now _ (Multiset.mem_coe.mp new)
      have above :=
        overlooks.requests sweep later cutoff reached visit List.mem_cons_self draft asks
      rw [stamp, Cell.atMost_integer]
      exact decide_eq_false (Int.not_le.mpr above)
  requests sweep member cutoff reached other otherMember :=
    overlooks.requests sweep (List.mem_cons_of_mem visit member) cutoff reached other
      (List.mem_cons_of_mem visit otherMember)

/-- The tables hold the same, if ids do not count. -/
structure Table.SameUpToIds (t u : Table) : Prop where
  layout : t.layout = u.layout
  indexed : t.indexed = u.indexed
  guard : t.guard = u.guard
  contents : (t.rows.map Row.toContent).Perm (u.rows.map Row.toContent)

namespace Session

/-- A store visits the session: the clock is set to its reading, and its operation is carried out.
-/
def visit (s : Session) (v : Visit) : StepOutcome :=
  (s.step (.setClock v.now)).session.step (.operate v.place v.errand.operation)

/-- What the stores are answered at their visits, one after another, and what they leave. -/
def attend (s : Session) : List Visit → List (Nat × Except StepFault StepAnswer) × Session
  | [] => ([], s)
  | v :: rest =>
      let outcome := s.visit v
      let (answers, final) := outcome.session.attend rest
      ((v.place, outcome.result) :: answers, final)

/-- A visit of a store that shares the database is one operation on this. -/
theorem visit_of_shared (s : Session) (v : Visit) (opened : s.store? v.place = some .shared) :
    (s.visit v).result = StepAnswer.told (v.errand.operation.run s.database v.now).result ∧
      (s.visit v).session =
        { s with
          clock := v.now
          database := (v.errand.operation.run s.database v.now).database } := by
  have found : ({ s with clock := v.now } : Session).store? v.place = some .shared := opened
  simp only [visit, step, operate, found, shared, and_true]
  cases (v.errand.operation.run s.database v.now).result <;> rfl

/-- Stores that share the database are answered as if there were contents only, and leave these, if
they do not run out of ids and their sweeps reach nothing. -/
theorem attend_replies (s : Session) (t : Table) (serves : s.database.Serves t)
    (visits : List Visit) (opened : ∀ v ∈ visits, s.store? v.place = some .shared)
    (overlooks : Visit.Overlooks visits t)
    (unexhausted : ∀ answer ∈ (s.attend visits).1, answer.2 ≠ .error (.ledger (.storage .full))) :
    (s.attend visits).1 = (Visit.replies visits t.contents).1 ∧
      ∃ left, (s.attend visits).2.database = s.database.withTable left ∧ left.Current ∧
        left.indexed = t.indexed ∧ left.contents = (Visit.replies visits t.contents).2 := by
  induction visits generalizing s t with
  | nil =>
    exact ⟨rfl, t, (s.database.withTable_of_kept t serves.kept).symm, serves.current, rfl, rfl⟩
  | cons v rest inductionHypothesis =>
    obtain ⟨openedFirst, openedRest⟩ := List.forall_mem_cons.mp opened
    obtain ⟨unexhaustedFirst, unexhaustedRest⟩ := List.forall_mem_cons.mp unexhausted
    obtain ⟨result, session⟩ := s.visit_of_shared v openedFirst
    have lacksNothing : (v.errand.operation.run s.database v.now).result ≠
        .error (.storage .full) := by
      intro full
      refine unexhaustedFirst ?_
      rw [result, full]
      rfl
    obtain ⟨told, changed, stored, current, indexed, effected⟩ :=
      v.errand.run_operation serves v.now (overlooks.rows v List.mem_cons_self) lacksNothing
    have database : (s.visit v).session.database = s.database.withTable changed := by
      rw [session]
      exact stored
    have stores : (s.visit v).session.stores = s.stores := by
      rw [session]
    have stillOpened : ∀ w ∈ rest, (s.visit v).session.store? w.place = some .shared := by
      intro w member
      rw [store?, stores]
      exact openedRest w member
    obtain ⟨answers, left, final, leftCurrent, leftIndexed, contents⟩ :=
      inductionHypothesis (s.visit v).session changed (database ▸ serves.withTable current)
        stillOpened (overlooks.after effected) unexhaustedRest
    rw [effected] at answers contents
    refine ⟨?_, left, ?_, leftCurrent, leftIndexed.trans indexed, contents⟩
    · simp only [attend, Visit.replies, answers, result, told]
    · rw [database] at final
      exact final

/-- Stores that share a database, and of which no two touch the same endpoint, do not disturb each
other. In whatever order they come, each of them is answered the same, and the tables that they
leave are the same up to ids. This asks that no sweep reaches a row and that there are ids enough.
-/
theorem attend_reordered (s : Session) (t : Table) (serves : s.database.Serves t)
    (first second : List Visit) (opened : ∀ v ∈ first, s.store? v.place = some .shared)
    (reordered : Visit.Reordered first second) (apart : Visit.Apart first)
    (overlooks : Visit.Overlooks first t)
    (unexhausted : ∀ visits ∈ [first, second], ∀ answer ∈ (s.attend visits).1,
      answer.2 ≠ .error (.ledger (.storage .full))) :
    (∀ place, Visit.answersOf place (s.attend first).1 =
      Visit.answersOf place (s.attend second).1) ∧
    ∃ left right, (s.attend first).2.database = s.database.withTable left ∧
      (s.attend second).2.database = s.database.withTable right ∧ left.SameUpToIds right := by
  have openedSecond : ∀ v ∈ second, s.store? v.place = some .shared :=
    fun v member => opened v ((reordered.mem_iff v).mpr member)
  have overlooksSecond : Visit.Overlooks second t := by
    constructor
    · intro v member
      exact overlooks.rows v ((reordered.mem_iff v).mpr member)
    · intro v member cutoff reached other otherMember
      exact overlooks.requests v ((reordered.mem_iff v).mpr member) cutoff reached other
        ((reordered.mem_iff other).mpr otherMember)
  obtain ⟨answers, left, stored, current, indexed, contents⟩ := s.attend_replies t serves first
    opened overlooks (unexhausted first List.mem_cons_self)
  obtain ⟨answersSecond, right, storedSecond, currentSecond, indexedSecond, contentsSecond⟩ :=
    s.attend_replies t serves second openedSecond overlooksSecond
      (unexhausted second (List.mem_cons_of_mem first List.mem_cons_self))
  refine ⟨?_, left, right, stored, storedSecond, ?_⟩
  · intro place
    rw [answers, answersSecond]
    exact (Visit.replies_of_place reordered apart t.contents place).1
  · constructor
    · exact current.epoch.trans currentSecond.epoch.symm
    · exact indexed.trans indexedSecond.symm
    · exact current.unguarded.trans currentSecond.unguarded.symm
    · have same := contents.trans
        ((Visit.contents_reordered reordered apart t.contents).trans contentsSecond.symm)
      exact Multiset.coe_eq_coe.mp same

end Session

/-! Two stores meet one row. The first subscribes the endpoint of the row again and removes it, the
second subscribes another endpoint and sweeps. -/

namespace Company

/-- Two stores are open on the database with the row. -/
def session : Session := { Resubscription.session 1 1 with stores := [(1, .shared), (2, .shared)] }

/-- The first store subscribes the endpoint of the row again. -/
def renewal : Visit := ⟨1, .epoch, .upsert Resubscription.draft⟩

/-- The first store removes the endpoint. -/
def farewell : Visit := ⟨1, .epoch, .removeEndpoint Resubscription.draft.endpoint⟩

/-- The second store subscribes another endpoint. -/
def arrival : Visit :=
  ⟨2, .epoch, .upsert { Resubscription.draft with endpoint := "https://push.example/b" }⟩

/-- The second store sweeps, with a warning after a second. -/
def inspection : Visit := ⟨2, .epoch, .sweep (.ofSeconds 1) (.ofSeconds 2)⟩

/-- The stores take turns. -/
def turns : List Visit := [renewal, arrival, farewell, inspection]

/-- The second store comes first, and sweeps between the visits of the first one. -/
def others : List Visit := [arrival, renewal, inspection, farewell]

/-- Each store makes its visits in the same order. -/
theorem reordered : Visit.Reordered turns others := by
  intro place
  by_cases first : (1 : Nat) = place
  · subst first
    decide
  · by_cases second : (2 : Nat) = place
    · subst second
      decide
    · simp [Visit.ofPlace, turns, others, renewal, farewell, arrival, inspection, first, second]

/-- The two ways of taking turns give the row of the other endpoint another id, and are told apart
by nothing else. -/
theorem turns_alike :
    session.database.Serves (Resubscription.table 1 1) ∧
    (∀ v ∈ turns, session.store? v.place = some .shared) ∧ Visit.Reordered turns others ∧
    Visit.Apart turns ∧ Visit.Overlooks turns (Resubscription.table 1 1) ∧
    (∀ visits ∈ [turns, others], ∀ answer ∈ (session.attend visits).1,
      answer.2 ≠ .error (.ledger (.storage .full))) ∧
    (session.attend turns).2.database ≠ (session.attend others).2.database ∧
    (∀ place, Visit.answersOf place (session.attend turns).1 =
      Visit.answersOf place (session.attend others).1) ∧
    ∃ left right, (session.attend turns).2.database = session.database.withTable left ∧
      (session.attend others).2.database = session.database.withTable right ∧
      left.SameUpToIds right := by
  have opened : ∀ v ∈ turns, session.store? v.place = some .shared := by decide +kernel
  have apart : Visit.Apart turns := by
    have named : ∀ a ∈ turns, ∀ b ∈ turns, a.place ≠ b.place →
        a.errand.endpoint?.isNone ∨ a.errand.endpoint? ≠ b.errand.endpoint? := by
      decide +kernel
    intro a first b second separate endpoint names also
    rcases named a first b second separate with none | different
    · rw [names] at none
      exact nomatch none
    · exact different (names.trans also.symm)
  have overlooks : Visit.Overlooks turns (Resubscription.table 1 1) := by
    have stamped : ∀ v ∈ turns, ∀ cutoff ∈ v.errand.cutoffs v.now, ∀ other ∈ turns,
        cutoff < other.now.millis := by
      decide +kernel
    refine ⟨by decide +kernel, ?_⟩
    intro v member cutoff reached other otherMember _ _
    exact stamped v member cutoff reached other otherMember
  have unexhausted : ∀ visits ∈ [turns, others], ∀ answer ∈ (session.attend visits).1,
      answer.2 ≠ .error (.ledger (.storage .full)) := by
    decide +kernel
  refine ⟨Resubscription.serves 1 1, opened, reordered, apart, overlooks, unexhausted,
    by decide +kernel, ?_⟩
  exact Session.attend_reordered session _ (Resubscription.serves 1 1) turns others opened reordered
    apart overlooks unexhausted

end Company
end PushLedger
