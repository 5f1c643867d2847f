import Mathlib.Algebra.Ring.Int.Defs
import PushLedger.Proofs.Ages
import PushLedger.Proofs.Legibility
import PushLedger.Proofs.LifeCycle

/-!
# Time that has passed

A clock is moved by spans, and each of them is rounded up to milliseconds before it is added. So the
clock of a store is never behind the time that has passed, and for each time it was moved it is
ahead by less than a millisecond. A sweep rounds its spans up as well. Whether it reaches the rows
of a request is therefore settled by the time since that request, with an uncertainty of a
millisecond for each movement of the clock, and in no case too late.

All of this holds as long as the clock stays within the words, and for requests that do not bear the
least reading.
-/

namespace PushLedger

namespace Span

/-- The milliseconds of two spans together are at most those of each. -/
theorem millis_add_le (a b : Nat) :
    (⟨a + b⟩ : Span).millis ≤ (⟨a⟩ : Span).millis + (⟨b⟩ : Span).millis := by
  unfold millis ceilMillis nanosPerMilli Word.greatest
  dsimp only
  omega

/-- A longer span has no fewer milliseconds. -/
theorem millis_mono {d e : Span} (ordered : d.nanos ≤ e.nanos) : d.millis ≤ e.millis := by
  unfold millis ceilMillis nanosPerMilli Word.greatest
  omega

/-- Rounding adds less than a millisecond. -/
theorem millis_mul_le (d : Span) :
    d.millis * nanosPerMilli ≤ d.nanos + (nanosPerMilli - 1 : Nat) := by
  unfold millis ceilMillis nanosPerMilli Word.greatest
  omega

/-- Rounding takes nothing away from a span whose milliseconds fit into a word. -/
theorem nanos_le_millis_mul (d : Span) (bounded : (d.nanos : Int) ≤ Word.greatest * nanosPerMilli) :
    (d.nanos : Int) ≤ d.millis * nanosPerMilli := by
  unfold millis ceilMillis nanosPerMilli Word.greatest at *
  omega

end Span

namespace Step

/-- The span by which the step moves the clock. -/
def span : Step → Span
  | .advanceClock span => span
  | _ => ⟨0⟩

/-- The step moves the clock by a span. -/
def advances : Step → Bool
  | .advanceClock _ => true
  | _ => false

/-- The step belongs to a store or moves the clock by a span: the clock is not set. -/
def IsSteady (step : Step) : Prop := step.IsOwn ∧ ∀ reading, step ≠ .setClock reading

/-- A step that does not move the clock takes no time. -/
theorem span_of_not_advances (step : Step) (still : step.advances = false) : step.span = ⟨0⟩ := by
  cases step with
  | advanceClock span => exact nomatch still
  | _ => rfl

end Step

/-- The steps of a session between two of its operations. -/
abbrev Way := List Step

namespace Way

/-- The milliseconds by which the clock has moved on the way. -/
def millis (way : Way) : Int := (way.map fun step => step.span.millis).sum

/-- The nanoseconds that have passed on the way. -/
def nanos (way : Way) : Nat := (way.map fun step => step.span.nanos).sum

/-- How often the clock was moved on the way. -/
def advances (way : Way) : Nat := way.countP Step.advances

@[simp] theorem millis_cons (step : Step) (way : Way) :
    millis (step :: way) = step.span.millis + millis way := by
  rw [millis, List.map_cons, List.sum_cons, millis]

@[simp] theorem nanos_cons (step : Step) (way : Way) :
    nanos (step :: way) = step.span.nanos + nanos way := by
  rw [nanos, List.map_cons, List.sum_cons, nanos]

@[simp] theorem advances_cons (step : Step) (way : Way) :
    advances (step :: way) = advances way + if step.advances then 1 else 0 := List.countP_cons

/-- The clock does not go back on a way. -/
theorem millis_nonneg (way : Way) : 0 ≤ way.millis := by
  induction way with
  | nil => exact Int.le_refl 0
  | cons step rest inductionHypothesis =>
    rw [millis_cons]
    exact Int.add_nonneg step.span.millis_bounds.1 inductionHypothesis

/-- The clock has moved by at least the time that has passed. -/
theorem millis_nanos_le (way : Way) : (⟨way.nanos⟩ : Span).millis ≤ way.millis := by
  induction way with
  | nil => decide
  | cons step rest inductionHypothesis =>
    rw [nanos_cons, millis_cons]
    exact Int.le_trans (Span.millis_add_le _ _) (Int.add_le_add_left inductionHypothesis _)

/-- Each time it was moved, the clock has gained less than a millisecond. -/
theorem millis_mul_le (way : Way) : way.millis * Span.nanosPerMilli ≤
    way.nanos + way.advances * (Span.nanosPerMilli - 1 : Nat) := by
  induction way with
  | nil => decide
  | cons step rest inductionHypothesis =>
    have rounded := step.span.millis_mul_le
    unfold Span.nanosPerMilli at *
    rw [millis_cons, nanos_cons, advances_cons]
    cases moves : step.advances with
    | true =>
      rw [if_pos rfl]
      omega
    | false =>
      have still : step.span.millis = 0 ∧ step.span.nanos = 0 := by
        rw [step.span_of_not_advances moves]
        decide
      rw [if_neg Bool.false_ne_true, still.1, still.2]
      omega

end Way

/-- Whether something happens after a way is settled by a span and the time that has passed:
exactly, in terms of the clock, and up to a millisecond for each movement of the clock, in terms of
the time itself. It is never missed although the time has passed. -/
structure Span.Settles (d : Span) (way : Way) (happens : Prop) : Prop where
  exact : happens ↔ d.millis ≤ way.millis
  complete : d.nanos ≤ way.nanos → happens
  sound : 0 < way.advances → way.nanos + way.advances * nanosPerMilli ≤ d.nanos →
    (d.nanos : Int) ≤ Word.greatest * nanosPerMilli → ¬ happens

/-- What the clock settles is settled by the time that has passed. -/
theorem Span.Settles.of_exact {d : Span} {way : Way} {happens : Prop}
    (exact : happens ↔ d.millis ≤ way.millis) : d.Settles way happens where
  exact := exact
  complete passed := exact.mpr (Int.le_trans (Span.millis_mono passed) way.millis_nanos_le)
  sound moved short bounded := by
    rw [exact]
    intro reached
    have gained := way.millis_mul_le
    have covered := d.nanos_le_millis_mul bounded
    unfold nanosPerMilli at *
    omega

namespace Instant

/-- Where nothing leaves the words, a cutoff reaches what was stamped a span ago or earlier. -/
theorem le_cutoff_iff_passed (now : Instant) (d : Span) (stamp passed : Int)
    (reading : now.millis = stamp + passed) (above : Word.least < stamp) :
    stamp ≤ now.cutoff d ↔ d.millis ≤ passed := by
  have span := d.millis_bounds
  have bounded := now.bounded
  unfold Word.Holds at bounded
  unfold cutoff Word.saturate
  unfold Word.least Word.greatest at *
  omega

/-- A span of nothing leaves a reading as it is. -/
theorem advance_zero (now : Instant) : now.advance ⟨0⟩ = now := by
  obtain ⟨millis, bounded⟩ := now
  have zero : (⟨0⟩ : Span).millis = 0 := by decide
  simp only [advance, ofMillis, zero, Int.add_zero, Word.saturate_of_holds bounded]

end Instant

namespace Session

/-- The session after the steps of a way. -/
def follow (s : Session) : Way → Session
  | [] => s
  | step :: rest => (s.step step).session.follow rest

/-- The history of a way and then another. -/
theorem history_append (s : Session) (way later : Way) :
    s.history (way ++ later) = s.history way ++ (s.follow way).history later := by
  induction way generalizing s with
  | nil => rfl
  | cons step rest inductionHypothesis =>
    rw [List.cons_append, history, history, inductionHypothesis, follow, List.append_assoc]

/-- A step moves the clock by its span. -/
theorem clock_step (s : Session) (step : Step) (steady : step.IsSteady) :
    (s.step step).session.clock = s.clock.advance step.span := by
  have still : s.clock.advance ⟨0⟩ = s.clock := s.clock.advance_zero
  cases step with
  | openShared place =>
    simp only [Session.step, openShared, Step.span, still]
    split <;> rfl
  | openOwn place walled =>
    simp only [Session.step, openOwn, Step.span, still]
    split <;> rfl
  | close place =>
    simp only [Session.step, close, Step.span, still]
    split <;> rfl
  | setClock reading => exact absurd rfl (steady.2 reading)
  | advanceClock span => rfl
  | operate place operation =>
    simp only [Session.step, operate, Step.span, still]
    split <;> rfl
  | replace request => exact steady.1.elim
  | readVersion =>
    simp only [Session.step, Step.span, still]
    split <;> rfl
  | update => exact still.symm
  | interfere change => exact steady.1.elim

/-- Where nothing leaves the words, the clock has moved by the milliseconds of the way. -/
theorem clock_follow (s : Session) (way : Way) (steady : ∀ step ∈ way, step.IsSteady)
    (within : s.clock.millis + way.millis ≤ Word.greatest) :
    (s.follow way).clock.millis = s.clock.millis + way.millis := by
  induction way generalizing s with
  | nil => exact (Int.add_zero _).symm
  | cons step rest inductionHypothesis =>
    obtain ⟨first, later⟩ := List.forall_mem_cons.mp steady
    rw [Way.millis_cons] at within ⊢
    have forward := step.span.millis_bounds.1
    have onward := Way.millis_nonneg rest
    have reading : (s.step step).session.clock.millis = s.clock.millis + step.span.millis := by
      have bounds := s.clock.bounded
      unfold Word.Holds at bounds
      rw [s.clock_step step first, Instant.advance, Instant.millis_ofMillis, Word.saturate]
      omega
    rw [follow, inductionHypothesis _ later (by omega), reading, Int.add_assoc]

end Session

namespace Table

/-- All rows of the endpoint bear the stamp. -/
def StampedAt (t : Table) (endpoint : String) (stamp : Int) : Prop :=
  ∀ row ∈ t.rows, row.endpoint = .text endpoint → row.updatedAt = .integer stamp

/-- All rows of the endpoint are active. -/
def Untold (t : Table) (endpoint : String) : Prop :=
  ∀ row ∈ t.rows, row.endpoint = .text endpoint → row.warningSent = .integer 0

end Table

/-- What holds since an endpoint was subscribed: its rows bear the reading of the clock, and they
are active until the endpoint is announced, and warned from then on. -/
structure Awaits (endpoint : String) (stamp : Int) (past : List Transition) (t : Table) : Prop where
  keyed : t.Keyed
  stamped : t.StampedAt endpoint stamp
  flags : (∀ y ∈ past, ¬ y.Announces endpoint) ∧ t.Untold endpoint ∨
    (∃ y ∈ past, y.Announces endpoint) ∧ t.Told endpoint

namespace Transition

variable {x : Transition} {t changed : Table} {endpoint : String} {stamp : Int}

/-- Until the endpoint is subscribed again, its rows keep their stamps. -/
theorem Changes.stampedAt (change : x.Changes t changed) (current : t.Current)
    (stamped : t.StampedAt endpoint stamp) (unrenewed : ¬ x.Renews endpoint) :
    changed.StampedAt endpoint stamp := by
  intro row member named
  rcases change.origin current row member with
    old | ⟨old, present, rfl, _⟩ | ⟨_, request, renews, fresh⟩
  · exact stamped row old named
  · exact stamped old present named
  · obtain ⟨topic, _, content⟩ := List.mem_map.mp fresh
    have renewed : Cell.text request.endpoint = .text endpoint :=
      (congrArg Content.endpoint content).trans named
    exact absurd (Cell.text.inj renewed ▸ renews) unrenewed

/-- A sweep that announces an endpoint whose rows are active and bear one stamp warns all of them,
for they are due together. -/
theorem Changes.told_of_stamped (change : x.Changes t changed)
    (stamped : t.StampedAt endpoint stamp) (untold : t.Untold endpoint)
    (announces : x.Announces endpoint) : changed.Told endpoint := by
  obtain ⟨target, announced, rfl⟩ := announces
  obtain ⟨warning, expiry, _, rfl, row, listed, spelled⟩ := change.due_of_target target announced
  obtain ⟨present, _, due⟩ := (Table.mem_dueRows_iff t _ _ row).mp listed
  have named : row.endpoint = .text target.endpoint := congrArg Address.endpoint spelled
  intro other member otherNamed
  obtain ⟨old, oldPresent, _, rfl⟩ := (Table.mem_swept_iff t _ _ other).mp member
  rw [Row.endpoint_swept] at otherNamed
  have together : old.isDue (x.now.cutoff warning) = row.isDue (x.now.cutoff warning) := by
    simp only [Row.isDue, stamped row present named, untold row present named,
      stamped old oldPresent otherNamed, untold old oldPresent otherNamed]
  rw [old.swept_of_due _ (together.trans due)]
  exact old.isWarned_warned

/-- As long as an endpoint is neither announced nor subscribed again, its active rows stay active.
-/
theorem Changes.untold (change : x.Changes t changed) (current : t.Current)
    (untold : t.Untold endpoint) (unrenewed : ¬ x.Renews endpoint)
    (unannounced : ¬ x.Announces endpoint) : changed.Untold endpoint := by
  intro row member named
  rcases change.origin current row member with
    old | ⟨old, _, rfl, target, announced, spelled⟩ | ⟨_, request, renews, fresh⟩
  · exact untold row old named
  · have same : Cell.text target.endpoint = .text endpoint :=
      (congrArg Address.endpoint spelled).symm.trans named
    exact absurd ⟨target, announced, Cell.text.inj same⟩ unannounced
  · obtain ⟨topic, _, content⟩ := List.mem_map.mp fresh
    have renewed : Cell.text request.endpoint = .text endpoint :=
      (congrArg Content.endpoint content).trans named
    exact absurd (Cell.text.inj renewed ▸ renews) unrenewed

/-- What holds since the endpoint was subscribed holds until it is subscribed again. -/
theorem Changes.awaits (change : x.Changes t changed) (current : t.Current)
    (past : List Transition) (awaits : Awaits endpoint stamp past t)
    (unrenewed : ¬ x.Renews endpoint) : Awaits endpoint stamp (past ++ [x]) changed where
  keyed := change.keyed current awaits.keyed
  stamped := change.stampedAt current awaits.stamped unrenewed
  flags := by
    rcases awaits.flags with ⟨unannounced, untold⟩ | ⟨⟨y, earlier, announced⟩, told⟩
    · by_cases announces : x.Announces endpoint
      · exact .inr ⟨⟨x, List.mem_append_right _ List.mem_cons_self, announces⟩,
          change.told_of_stamped awaits.stamped untold announces⟩
      · refine .inl ⟨fun y member => ?_, change.untold current untold unrenewed announces⟩
        rcases List.mem_append.mp member with earlier | last
        · exact unannounced y earlier
        · exact List.mem_singleton.mp last ▸ announces
    · exact .inr ⟨⟨y, List.mem_append_left _ earlier, announced⟩,
        change.told current endpoint told unrenewed⟩

/-- No change makes a legible table illegible. -/
theorem Changes.legible (change : x.Changes t changed) (current : t.Current) (legible : t.Legible) :
    changed.Legible := by
  cases change with
  | nothing => exact legible
  | deleted selected => exact legible.without selected
  | replaced request => exact legible.replaced current request x.now
  | swept warning expiry => exact legible.swept _ _

section Sweeps

variable {warning expiry : Span} {past : List Transition} {passed : Int}
  (sweeps : x.operation = .sweep warning expiry) (serves : x.before.Serves t)
  (awaits : Awaits endpoint stamp past t) (reading : x.now.millis = stamp + passed)
  (above : Word.least < stamp) (succeeds : x.Succeeds)

include sweeps serves awaits reading above succeeds

/-- An endpoint that was not announced yet is announced, and its rows are warned, exactly if the
clock has moved by the milliseconds of the warning span since it was subscribed. -/
theorem announces_iff_passed (unannounced : ∀ y ∈ past, ¬ y.Announces endpoint) (row : Row)
    (present : row ∈ t.rows) (named : row.endpoint = .text endpoint) :
    (x.Announces endpoint ↔ warning.millis ≤ passed) ∧
      (x.Flips row ↔ warning.millis ≤ passed) := by
  have untold : t.Untold endpoint := by
    rcases awaits.flags with ⟨_, untold⟩ | ⟨⟨y, earlier, announced⟩, _⟩
    · exact untold
    · exact absurd announced (unannounced y earlier)
  have sweepable := (succeeds_iff_sweepable sweeps serves.kept).mp succeeds
  have due (row : Row) (present : row ∈ t.rows) (named : row.endpoint = .text endpoint) :
      row.isDue (x.now.cutoff warning) = true ↔ warning.millis ≤ passed := by
    rw [← x.now.le_cutoff_iff_passed warning stamp passed reading above, Row.isDue,
      untold row present named, awaits.stamped row present named]
    simp
  have unstopped (moment : Moment) : Guard.stops t.guard moment row.toContent = false := by
    rw [serves.current.unguarded]
    rfl
  constructor
  · constructor
    · rintro ⟨target, announced, rfl⟩
      obtain ⟨other, otherPresent, isDue, spelled⟩ :=
        (mem_targets_of_sweepable sweeps serves.kept sweepable target).mp announced
      exact (due other otherPresent (congrArg Address.endpoint spelled)).mp isDue
    · intro reached
      have isDue := (due row present named).mpr reached
      obtain ⟨target, spelled⟩ := (sweepable.rows row present).addressed isDue
      have announced := (mem_targets_of_sweepable sweeps serves.kept sweepable target).mpr
        ⟨row, present, isDue, spelled⟩
      have same : Cell.text target.endpoint = .text endpoint :=
        (congrArg Address.endpoint spelled).symm.trans named
      exact ⟨target, announced, Cell.text.inj same⟩
  · rw [flips_iff sweeps serves.kept sweepable awaits.keyed, due row present named]
    simp [present, unstopped]

/-- A row of an endpoint that was announced is deleted exactly if the clock has moved by the
milliseconds of the expiry span since the endpoint was subscribed. -/
theorem expires_iff_passed (announced : ∃ y ∈ past, y.Announces endpoint) (row : Row)
    (present : row ∈ t.rows) (named : row.endpoint = .text endpoint) :
    x.Expires row ↔ expiry.millis ≤ passed := by
  have told : t.Told endpoint := by
    rcases awaits.flags with ⟨unannounced, _⟩ | ⟨_, told⟩
    · obtain ⟨y, earlier, announces⟩ := announced
      exact absurd announces (unannounced y earlier)
    · exact told
  have sweepable := (succeeds_iff_sweepable sweeps serves.kept).mp succeeds
  have unstopped : Guard.stops t.guard .delete row.toContent = false := by
    rw [serves.current.unguarded]
    rfl
  have warned : row.warningSent = .integer 1 := told row present named
  rw [expires_iff sweeps serves.kept awaits.keyed sweepable,
    ← x.now.le_cutoff_iff_passed expiry stamp passed reading above, Row.isExpired, warned,
    awaits.stamped row present named]
  simp [present, unstopped]

end Sweeps

end Transition

namespace Table

/-- After a replacement the rows of the endpoint are the fresh ones. -/
theorem fresh_of_replaced (t : Table) (request : NewSubscription) (now : Instant)
    (current : t.Current) (row : Row) (member : row ∈ (Database.replaced t request now).rows)
    (named : row.endpoint = .text request.endpoint) :
    row.toContent ∈ Database.freshContents request now := by
  rw [rows_replaced t request now current] at member
  rcases List.mem_append.mp member with old | fresh
  · exact absurd named ((mem_cleared_iff t request.endpoint row).mp old).2
  · exact (Row.mem_numbered _ _ row fresh).1

/-- After a replacement there is a row for each topic. -/
theorem exists_fresh (t : Table) (request : NewSubscription) (now : Instant) (current : t.Current)
    (topic : String) (asked : topic ∈ request.topics.names) :
    ∃ row ∈ (Database.replaced t request now).rows,
      row.toContent = Database.freshContent request now topic := by
  have listed : Database.freshContent request now topic ∈
      (Row.numbered (t.cleared request.endpoint).lastId
        (Database.freshContents request now)).map Row.toContent := by
    rw [Row.contents_numbered]
    exact List.mem_map_of_mem asked
  obtain ⟨row, fresh, same⟩ := List.mem_map.mp listed
  rw [rows_replaced t request now current]
  exact ⟨row, List.mem_append_right _ fresh, same⟩

end Table

namespace Session

/-- A store subscribes an endpoint to some topics, on a table of the present layout whose ids are
distinct, and at a reading that is not the least one. -/
structure Subscribes (s : Session) (t : Table) (place : Nat) (draft : NewSubscription.Draft) :
    Prop where
  serves : s.database.Serves t
  keyed : t.Keyed
  opened : s.store? place = some .shared
  done : (s.step (.operate place (.upsert draft))).result = .ok (.answered .done)
  topics : draft.topics ≠ []
  above : Word.least < s.clock.millis

/-- The session after the request. -/
def subscribed (s : Session) (place : Nat) (draft : NewSubscription.Draft) : Session :=
  (s.step (.operate place (.upsert draft))).session

/-- On the way the endpoint is not subscribed again, the clock is not set, and it stays within the
words. -/
structure Waits (s : Session) (endpoint : String) (way : Way) : Prop where
  steady : ∀ step ∈ way, step.IsSteady
  unrenewed : ∀ y ∈ s.history way, ¬ y.Renews endpoint
  within : s.clock.millis + way.millis ≤ Word.greatest

/-- The request replaces the rows of its endpoint and does not move the clock. -/
theorem Subscribes.replaced {s : Session} {t : Table} {place : Nat}
    {draft : NewSubscription.Draft} (subscribes : s.Subscribes t place draft) :
    ∃ request, draft.check = .ok request ∧ request.endpoint = draft.endpoint ∧
      (s.subscribed place draft).database =
        s.database.withTable (Database.replaced t request s.clock) ∧
      (s.subscribed place draft).clock = s.clock := by
  have stepped : s.step (.operate place (.upsert draft)) =
      s.shared ((s.database.upsert draft s.clock).map fun _ => .done) .answered := by
    simp only [Session.step, operate, subscribes.opened, Operation.run]
  have done := subscribes.done
  rw [stepped] at done
  rcases Database.upsert_current subscribes.serves.kept subscribes.serves.current draft s.clock with
    ⟨_, _, failed, _⟩ | ⟨request, checked, _, _, stored⟩ | ⟨_, _, _, failed, _⟩
  · simp [shared, Outcome.map, failed, Except.map] at done
  · refine ⟨request, checked, (NewSubscription.endpoint_of_check draft request checked).symm,
      ?_, ?_⟩
    · rw [subscribed, stepped]
      exact stored
    · rw [subscribed, stepped]
      rfl
  · simp [shared, Outcome.map, failed, Except.map] at done

section Way

variable {s : Session} {t : Table} {place other : Nat} {draft : NewSubscription.Draft}
  (subscribes : s.Subscribes t place draft) {way : Way}
  (waits : (s.subscribed place draft).Waits draft.endpoint way)

/-- Movements of the clock alone leave no history. -/
theorem history_advances (s : Session) (spans : List Span) :
    s.history (spans.map .advanceClock) = [] := by
  induction spans generalizing s with
  | nil => rfl
  | cons span rest inductionHypothesis => exact inductionHypothesis _

include subscribes

/-- The request leaves a table on which its endpoint is awaited, with a row for each of its topics.
-/
theorem Subscribes.awaits :
    ∃ changed, (s.subscribed place draft).database.Serves changed ∧
      Awaits draft.endpoint s.clock.millis [] changed ∧ (t.Legible → changed.Legible) ∧
      ∃ row ∈ changed.rows, row.endpoint = .text draft.endpoint := by
  obtain ⟨request, checked, sameEndpoint, stored, _⟩ := subscribes.replaced
  have current := subscribes.serves.current
  have made : s.transition? (.operate place (.upsert draft)) =
      some ⟨s.database, s.clock, .upsert draft⟩ := by
    simp only [transition?, subscribes.opened]
  have left : (s.subscribed place draft).database =
      Transition.after ⟨s.database, s.clock, .upsert draft⟩ := by
    rw [subscribed, step_transition s _ _ made]
    rfl
  obtain ⟨changed, serves, change⟩ :=
    Transition.changes ⟨s.database, s.clock, .upsert draft⟩ t subscribes.serves
  obtain rfl : changed = Database.replaced t request s.clock := by
    have same := congrArg Database.subscriptions (left.symm.trans stored)
    exact Option.some.inj (serves.kept.symm.trans same)
  have fresh (row : Row) (member : row ∈ (Database.replaced t request s.clock).rows)
      (named : row.endpoint = .text draft.endpoint) :
      ∃ topic, row.toContent = Database.freshContent request s.clock topic := by
    have listed := t.fresh_of_replaced request s.clock current row member (sameEndpoint ▸ named)
    obtain ⟨topic, _, content⟩ := List.mem_map.mp listed
    exact ⟨topic, content.symm⟩
  have silent : ∀ y ∈ ([] : List Transition), ¬ y.Announces draft.endpoint :=
    fun _ member => absurd member List.not_mem_nil
  refine ⟨_, left ▸ serves,
    ⟨change.keyed current subscribes.keyed, ?stamped, .inl ⟨silent, ?untold⟩⟩,
    change.legible current, ?present⟩
  case stamped =>
    intro row member named
    obtain ⟨topic, content⟩ := fresh row member named
    exact congrArg Content.updatedAt content
  case untold =>
    intro row member named
    obtain ⟨topic, content⟩ := fresh row member named
    exact congrArg Content.warningSent content
  case present =>
    obtain ⟨topic, asked⟩ := List.exists_mem_of_ne_nil _ subscribes.topics
    have kept : topic ∈ request.topics.names := by
      rw [NewSubscription.topics_of_check draft request checked]
      exact (TopicSet.mem_ofList_iff draft.topics topic).mpr asked
    obtain ⟨row, member, content⟩ := t.exists_fresh request s.clock current topic kept
    exact ⟨row, member, (congrArg Content.endpoint content).trans (congrArg Cell.text sameEndpoint)⟩

include waits

/-- A sweep at the end of the way meets a table on which the endpoint is still awaited, and the
clock has moved by the milliseconds of the way. If only the clock was moved, there are rows of the
endpoint. -/
theorem Waits.met {x : Transition} {warning expiry : Span}
    (sweeps : ((s.subscribed place draft).follow way).transition?
      (.operate other (.sweep warning expiry)) = some x) :
    ∃ met, x.before.Serves met ∧
      Awaits draft.endpoint s.clock.millis ((s.subscribed place draft).history way) met ∧
      x.operation = .sweep warning expiry ∧ x.now.millis = s.clock.millis + way.millis ∧
      (t.Legible → met.Legible) ∧
      (∀ spans : List Span, way = spans.map .advanceClock →
        ∃ row ∈ met.rows, row.endpoint = .text draft.endpoint) := by
  obtain ⟨_, _, _, _, clock⟩ := subscribes.replaced
  obtain ⟨start, serves, awaits, legible, present⟩ := subscribes.awaits
  obtain ⟨_, _, same, rfl⟩ := operate_of_transition _ _ x sweeps
  obtain ⟨rfl, rfl⟩ := Step.operate.inj same
  have own : ∀ step ∈ way ++ [.operate other (.sweep warning expiry)], step.IsOwn := by
    intro step member
    rcases List.mem_append.mp member with earlier | last
    · exact (waits.steady step earlier).1
    · exact List.mem_singleton.mp last ▸ trivial
  have linked := linked_history (s.subscribed place draft) start _ serves own
  rw [history_append, history, sweeps] at linked
  obtain ⟨met, meets, stillAwaits, stillLegible⟩ :=
    linked_induction (P := fun past met => Awaits draft.endpoint s.clock.millis past met ∧
        (t.Legible → met.Legible)) [] _ [] _
      (fun past y member _ _ before _ change holds =>
        ⟨change.awaits before.current past holds.1 (waits.unrenewed y member),
          fun first => change.legible before.current (holds.2 first)⟩)
      _ start linked serves ⟨awaits, legible⟩
  have reading := clock_follow _ way waits.steady waits.within
  rw [clock] at reading
  refine ⟨met, meets, stillAwaits, rfl, reading, stillLegible, ?_⟩
  rintro spans rfl
  rw [history_advances] at linked
  obtain rfl : start = met :=
    Option.some.inj (serves.kept.symm.trans ((congrArg Database.subscriptions linked.1).symm.trans
      meets.kept))
  exact present

/-- A store subscribes an endpoint, and then the clock moves on. The next sweep announces the
endpoint and flags its rows exactly if the clock has moved by the milliseconds of the warning span
since the request. So it does if the time that has passed has reached the span; and it does not if
that time is short of the span by a millisecond for each movement of the clock. Other operations in
between make no difference to the rows that they leave, unless they announce the endpoint or
subscribe it again. Once a sweep has announced it, the same is true of the deletion of its rows and
of the expiry span, with all the time since the request. Where all rows were legible when the
endpoint was subscribed, no sweep fails. -/
theorem elapsed_time_settles (x : Transition) (warning expiry : Span)
    (sweeps : ((s.subscribed place draft).follow way).transition?
      (.operate other (.sweep warning expiry)) = some x) :
    (t.Legible → x.Succeeds) ∧
    (x.Succeeds →
      ((∃ spans : List Span, way = spans.map .advanceClock) →
        warning.Settles way (x.Announces draft.endpoint)) ∧
      ((∀ y ∈ (s.subscribed place draft).history way, ¬ y.Announces draft.endpoint) →
        ∀ row ∈ x.before.rows, row.endpoint = .text draft.endpoint →
          warning.Settles way (x.Announces draft.endpoint) ∧ warning.Settles way (x.Flips row)) ∧
      ((∃ y ∈ (s.subscribed place draft).history way, y.Announces draft.endpoint) →
        ∀ row ∈ x.before.rows, row.endpoint = .text draft.endpoint →
          expiry.Settles way (x.Expires row))) := by
  obtain ⟨met, meets, awaits, operation, reading, legible, present⟩ := waits.met subscribes sweeps
  refine ⟨fun first => ?succeeds, fun succeeds => ⟨?advances, ?warns, ?expires⟩⟩
  case succeeds =>
    obtain ⟨targets, _, done, _⟩ := Database.sweep_legible meets.kept meets.current
      (legible first).rows warning expiry x.now
    refine ⟨.swept (met.sweepReport (x.now.cutoff expiry) (x.now.cutoff warning) targets), ?_⟩
    simp only [Transition.outcome, operation, Operation.run, Outcome.map, done, Except.map]
  case advances =>
    rintro ⟨spans, same⟩
    obtain ⟨row, member, named⟩ := present spans same
    have unannounced : ∀ y ∈ (s.subscribed place draft).history way,
        ¬ y.Announces draft.endpoint := by
      rw [same, history_advances]
      exact fun _ member => absurd member List.not_mem_nil
    exact .of_exact (Transition.announces_iff_passed operation meets awaits reading
      subscribes.above succeeds unannounced row member named).1
  case warns =>
    intro unannounced row member named
    rw [meets.rows_eq] at member
    obtain ⟨announced, flipped⟩ := Transition.announces_iff_passed operation meets awaits reading
      subscribes.above succeeds unannounced row member named
    exact ⟨.of_exact announced, .of_exact flipped⟩
  case expires =>
    intro announced row member named
    rw [meets.rows_eq] at member
    exact .of_exact (Transition.expires_iff_passed operation meets awaits reading
      subscribes.above succeeds announced row member named)

end Way

end Session

/-! A store subscribes an endpoint, and the clock is moved by a millisecond and a half and then by a
nanosecond. The first sweep warns after three milliseconds. The clock is moved by a nanosecond
again, and the second sweep deletes after four. -/

namespace ShortWait

/-- The session with the store. -/
def session : Session :=
  ((Session.start Database.fresh .epoch .epoch).step (.openShared 0)).session

/-- The spans of both sweeps. -/
def sweep : Operation := .sweep ⟨3000000⟩ ⟨4000000⟩

/-- The way to the first sweep. -/
def notice : Way := [⟨1500000⟩, ⟨1⟩].map .advanceClock

/-- The way to the second sweep. -/
def farewell : Way := notice ++ [.operate 0 sweep, .advanceClock ⟨1⟩]

/-- The session after the request. -/
def subscribed : Session := session.subscribed 0 Resubscription.draft

/-- A sweep at the end of a way. -/
def sweepAfter (way : Way) : Transition :=
  ⟨(subscribed.follow way).database, (subscribed.follow way).clock, sweep⟩

/-- The history of the second way is the first sweep. -/
theorem history_farewell : subscribed.history farewell = [sweepAfter notice] := rfl

/-- The store subscribes the endpoint. -/
theorem subscribes : session.Subscribes (Table.empty .epoch true) 0 Resubscription.draft :=
  ⟨Database.serves_fresh, List.nodup_nil, by decide +kernel, by decide +kernel, by decide,
    by decide⟩

/-- Nothing but the clock moves until the first sweep. -/
theorem waits_notice : subscribed.Waits Resubscription.draft.endpoint notice where
  steady := by simp [notice, Step.IsSteady, Step.IsOwn]
  unrenewed _ member := absurd member List.not_mem_nil
  within := by decide +kernel

/-- Nothing but a sweep happens until the second one. -/
theorem waits_farewell : subscribed.Waits Resubscription.draft.endpoint farewell where
  steady := by simp [farewell, notice, Step.IsSteady, Step.IsOwn]
  unrenewed y member := by
    rw [history_farewell, List.mem_singleton] at member
    subst member
    rintro ⟨_, upserts, _⟩
    cases upserts
  within := by decide +kernel

/-- The first sweep announces the endpoint, and the second one deletes its row. -/
theorem endpoint_announced_then_deleted :
    session.Subscribes (Table.empty .epoch true) 0 Resubscription.draft ∧
      subscribed.Waits Resubscription.draft.endpoint notice ∧
      subscribed.Waits Resubscription.draft.endpoint farewell ∧
      (sweepAfter notice).Announces Resubscription.draft.endpoint ∧
      ∃ row ∈ (sweepAfter farewell).before.rows, (sweepAfter farewell).Expires row := by
  have legible : (Table.empty .epoch true).Legible :=
    ⟨fun _ member => absurd member List.not_mem_nil, List.nodup_nil,
      fun _ member => absurd member List.not_mem_nil, rfl⟩
  have made (way : Way) (opened : (subscribed.follow way).store? 0 = some .shared) :
      (subscribed.follow way).transition? (.operate 0 sweep) = some (sweepAfter way) := by
    simp only [Session.transition?, opened, sweepAfter]
  obtain ⟨succeeds, laws⟩ := Session.elapsed_time_settles subscribes waits_notice
    (sweepAfter notice) ⟨3000000⟩ ⟨4000000⟩ (made notice rfl)
  obtain ⟨succeedsAgain, lawsAgain⟩ := Session.elapsed_time_settles subscribes waits_farewell
    (sweepAfter farewell) ⟨3000000⟩ ⟨4000000⟩ (made farewell rfl)
  have announces : (sweepAfter notice).Announces Resubscription.draft.endpoint :=
    ((laws (succeeds legible)).1 ⟨_, rfl⟩).exact.mpr (by decide)
  refine ⟨subscribes, waits_notice, waits_farewell, announces, ?_⟩
  have present : (Resubscription.row 1).warned ∈ (sweepAfter farewell).before.rows := by
    decide +kernel
  have expires := (lawsAgain (succeedsAgain legible)).2.2
    ⟨sweepAfter notice, history_farewell ▸ List.mem_cons_self, announces⟩
  exact ⟨_, present, (expires _ present rfl).exact.mpr (by decide)⟩

end ShortWait

end PushLedger
