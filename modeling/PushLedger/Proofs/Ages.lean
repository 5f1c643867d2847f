import PushLedger.Proofs.Coverage
import PushLedger.Proofs.Expiry
import PushLedger.Proofs.Schedules

/-!
# Old enough

A row is due once its age has reached the span. The statements of a sweep do not compute ages. They
compare stamps with a cutoff, which lies one span before the clock, and both the age and the cutoff
are moved back into the words where they would leave them. An age that is too great is great enough
for every span, so there the two agree. A cutoff that would lie before all stamps is moved to the
least one, and there they do not: what is stamped with the least word is then reached at any age.
-/

namespace PushLedger

namespace Span

/-- A span has no negative milliseconds, and no more of them than a word holds. -/
theorem millis_bounds (d : Span) : 0 ≤ d.millis ∧ d.millis ≤ Word.greatest := by
  unfold millis Word.greatest
  omega

/-- Only a span of nothing has no milliseconds, since they are rounded up. -/
theorem millis_pos_iff (d : Span) : 0 < d.millis ↔ 0 < d.nanos := by
  unfold millis ceilMillis nanosPerMilli Word.greatest
  omega

end Span

namespace Instant

/-- The reading lies less than the span after the least stamp, so that no stamp is as old as that. -/
def IsWithin (now : Instant) (d : Span) : Prop := now.millis - d.millis < Word.least

instance (now : Instant) (d : Span) : Decidable (now.IsWithin d) := by
  unfold IsWithin; infer_instance

/-- A stamp is reached by a cutoff exactly if its age has reached the span, or if it is the least
stamp and the cutoff would lie before that. -/
theorem le_cutoff_iff (now : Instant) (d : Span) (stamp : Int) (bounded : Word.Holds stamp) :
    stamp ≤ now.cutoff d ↔
      d.millis ≤ now.ageOf stamp ∨ stamp = Word.least ∧ now.IsWithin d := by
  have span := d.millis_bounds
  have reading := now.bounded
  unfold Word.Holds at bounded reading
  unfold cutoff ageOf IsWithin Word.saturate
  unfold Word.least Word.greatest at *
  omega

/-- What is stamped with the reading itself has no age. -/
theorem ageOf_self (now : Instant) : now.ageOf now.millis = 0 := by
  unfold ageOf Word.saturate Word.least Word.greatest
  omega

end Instant

namespace Subscription

/-- A sweep with this span reaches the subscription: it is old enough, or it bears the least stamp
and the cutoff would lie before that. -/
def Reached (s : Subscription) (now : Instant) (d : Span) : Prop :=
  d.millis ≤ s.ageAt now ∨ s.updatedAt = Word.least ∧ now.IsWithin d

/-- What was written at this very reading is reached by a span of any length only if no clock can
have had an earlier reading. -/
theorem reached_just_written_iff (s : Subscription) (now : Instant) (d : Span)
    (written : s.updatedAt = now.millis) (lasting : 0 < d.nanos) :
    s.Reached now d ↔ now.millis = Word.least := by
  have span := (d.millis_pos_iff).mpr lasting
  have age : s.ageAt now = 0 := by
    rw [ageAt, written]
    exact now.ageOf_self
  unfold Reached Instant.IsWithin
  rw [age, written]
  omega

end Subscription

namespace Row

section Readable

variable {row : Row} {s : Subscription} (read : row.read = .ok s)

include read

/-- A row that reads as a subscription is due if that is active and not stamped after the cutoff. -/
theorem isDue_iff_of_read (cutoff : Int) :
    row.isDue cutoff = true ↔ s.state = .active ∧ s.updatedAt ≤ cutoff := by
  rw [(row.spells_of_read s read).2.isDue_eq cutoff]
  cases warned : s.warningSent <;>
    simp [Listing.isDue, Subscription.listing, Subscription.state, warned]

/-- A row that reads as a subscription is expired if that is warned and not stamped after the
cutoff. -/
theorem isExpired_iff_of_read (cutoff : Int) :
    row.isExpired cutoff = true ↔ s.state = .warned ∧ s.updatedAt ≤ cutoff := by
  rw [(row.spells_of_read s read).2.isExpired_eq cutoff]
  cases warned : s.warningSent <;>
    simp [Listing.isExpired, Subscription.listing, Subscription.state, warned]

end Readable

end Row

namespace Transition

section Sweeps

variable {x : Transition} {t : Table} {warning expiry : Span}
  (sweeps : x.operation = .sweep warning expiry) (kept : x.before.subscriptions = some t)
  (keyed : t.Keyed)

include sweeps kept keyed

/-- A sweep that succeeded deleted the rows that were expired, apart from those that the guard passed
over. -/
theorem expires_iff (sweepable : t.Sweepable (x.now.cutoff expiry) (x.now.cutoff warning))
    (row : Row) :
    x.Expires row ↔ row ∈ t.rows ∧ row.isExpired (x.now.cutoff expiry) = true ∧
      Guard.stops t.guard .delete row.toContent = false := by
  have before : x.before.rows = t.rows := Database.rows_of_kept _ t kept
  have after : x.after.rows = (t.passed (x.now.cutoff expiry) (x.now.cutoff warning)).rows := by
    rw [after_of_sweepable sweeps kept sweepable]
    rfl
  unfold Expires
  rw [before, after]
  constructor
  · rintro ⟨_, present, gone⟩
    refine ⟨present, ?_⟩
    -- whatever a sweep leaves of the row has its id, so it leaves nothing
    have passes : row.pass t.guard (x.now.cutoff expiry) (x.now.cutoff warning) = none := by
      cases passes : row.pass t.guard (x.now.cutoff expiry) (x.now.cutoff warning) with
      | none => rfl
      | some left =>
        have member := List.mem_filterMap.mpr ⟨row, present, passes⟩
        exact absurd (row.id_of_pass t.guard _ _ left passes) (gone left member)
    unfold Row.pass at passes
    split at passes
    · rename_i lost
      simpa using lost
    · split at passes <;> exact nomatch passes
  · rintro ⟨present, expired, unstopped⟩
    refine ⟨⟨warning, expiry, sweeps⟩, present, ?_⟩
    intro other member same
    obtain ⟨old, oldPresent, passes⟩ := List.mem_filterMap.mp member
    have sameId : old.id = row.id := (old.id_of_pass t.guard _ _ other passes).symm.trans same
    obtain rfl : old = row := keyed.unique old row oldPresent present sameId
    simp [Row.pass, expired, unstopped] at passes

/-- A sweep that succeeds warns the active subscriptions and deletes the warned ones that its spans
reach, and no others. These are the ones that are old enough. Where a cutoff would lie before all
stamps, it also reaches what bears the least stamp, at whatever age. So what was written at the very
reading of the sweep is safe from every span that is not nothing, unless that reading is the least. -/
theorem sweep_reaches (succeeds : x.Succeeds) (row : Row) (present : row ∈ t.rows)
    (unstopped : ∀ moment, Guard.stops t.guard moment row.toContent = false) (s : Subscription)
    (read : row.read = .ok s) (bounded : Word.Holds s.updatedAt) :
    (s.state = .active → (x.Flips row ↔ warning.millis ≤ s.ageAt x.now ∨
      s.updatedAt = Word.least ∧ x.now.IsWithin warning)) ∧
    (s.state = .warned → (x.Expires row ↔ expiry.millis ≤ s.ageAt x.now ∨
      s.updatedAt = Word.least ∧ x.now.IsWithin expiry)) ∧
    (s.updatedAt = x.now.millis →
      (s.state = .active → 0 < warning.nanos → (x.Flips row ↔ x.now.millis = Word.least)) ∧
      (s.state = .warned → 0 < expiry.nanos → (x.Expires row ↔ x.now.millis = Word.least))) := by
  have sweepable := (succeeds_iff_sweepable sweeps kept).mp succeeds
  have flips : s.state = .active → (x.Flips row ↔ s.Reached x.now warning) := by
    intro active
    rw [flips_iff sweeps kept sweepable keyed row, Row.isDue_iff_of_read read,
      Instant.le_cutoff_iff _ _ _ bounded]
    simp [present, active, unstopped, Subscription.Reached, Subscription.ageAt]
  have expires : s.state = .warned → (x.Expires row ↔ s.Reached x.now expiry) := by
    intro warned
    rw [expires_iff sweeps kept keyed sweepable row, Row.isExpired_iff_of_read read,
      Instant.le_cutoff_iff _ _ _ bounded]
    simp [present, warned, unstopped, Subscription.Reached, Subscription.ageAt]
  refine ⟨flips, expires, fun written => ⟨?_, ?_⟩⟩
  · intro active lasting
    exact (flips active).trans (s.reached_just_written_iff x.now warning written lasting)
  · intro warned lasting
    exact (expires warned).trans (s.reached_just_written_iff x.now expiry written lasting)

end Sweeps

end Transition

namespace Resubscription

/-- A sweep of the row at a reading, with a millisecond until the warning and another one until the
row may go. -/
def sweepAt (reading : Int) : Transition :=
  ⟨(session 1 1).database, .ofMillis reading, .sweep ⟨1000000⟩ ⟨2000000⟩⟩

/-- The row is flagged when it is a millisecond old, and not before. -/
theorem row_flagged_in_time :
    (sweepAt 0).Succeeds ∧ (sweepAt 1).Succeeds ∧
      (∃ s, (row 1).read = .ok s ∧ s.state = .active ∧ Word.Holds s.updatedAt) ∧
      ¬ (sweepAt 0).Flips (row 1) ∧ (sweepAt 1).Flips (row 1) := by
  let s : Subscription :=
    ⟨1, "news", some "ann", "https://push.example/a", "auth", "p256dh", 0, false⟩
  have early : (sweepAt 0).Succeeds := by decide +kernel
  have late : (sweepAt 1).Succeeds := by decide +kernel
  have read : (row 1).read = .ok s := by decide +kernel
  have bounded : Word.Holds s.updatedAt := by decide
  have unstopped (moment : Moment) :
      Guard.stops (table 1 1).guard moment (row 1).toContent = false := rfl
  obtain ⟨atOnce, _⟩ := Transition.sweep_reaches (x := sweepAt 0) rfl rfl (keyed 1 1) early (row 1)
    List.mem_cons_self unstopped s read bounded
  obtain ⟨later, _⟩ := Transition.sweep_reaches (x := sweepAt 1) rfl rfl (keyed 1 1) late (row 1)
    List.mem_cons_self unstopped s read bounded
  refine ⟨early, late, ⟨s, read, rfl, bounded⟩, ?_, ?_⟩
  · rw [atOnce rfl]
    decide +kernel
  · rw [later rfl]
    decide +kernel

end Resubscription

/-! A store subscribes an endpoint at the least reading that a clock can have and sweeps at once, with
spans of hours. The row has no age yet, and it bears the least stamp. -/

namespace LeastReading

/-- The least reading. -/
def now : Instant := .ofMillis Word.least

/-- The request and the two sweeps. -/
def upserts : Transition := ⟨Database.fresh, now, .upsert Resubscription.draft⟩

/-- The first sweep. -/
def sweeps : Transition := ⟨upserts.after, now, .sweep (.ofSeconds 3600) (.ofSeconds 7200)⟩

/-- The second sweep. -/
def sweepsAgain : Transition := sweeps.again

/-- The row that the request has written. -/
def row : Row := { Resubscription.row 1 with updatedAt := .integer Word.least }

/-- The row is flagged and then deleted although its age has not reached the spans. -/
theorem fresh_row_swept :
    upserts.Succeeds ∧ sweeps.Succeeds ∧ sweepsAgain.Succeeds ∧
    (∃ s, row.read = .ok s ∧ s.state = .active ∧ s.updatedAt = now.millis ∧ s.ageAt now = 0 ∧
      ¬ (sweeps.Flips row ↔ (Span.ofSeconds 3600).millis ≤ s.ageAt now)) ∧
    ∃ s, row.warned.read = .ok s ∧ s.state = .warned ∧ s.updatedAt = now.millis ∧
      s.ageAt now = 0 ∧
      ¬ (sweepsAgain.Expires row.warned ↔ (Span.ofSeconds 7200).millis ≤ s.ageAt now) := by
  have flips : sweeps.Flips row := ⟨⟨_, _, rfl⟩, by decide +kernel, nofun, by decide +kernel⟩
  have expires : sweepsAgain.Expires row.warned :=
    ⟨⟨_, _, rfl⟩, by decide +kernel, by decide +kernel⟩
  refine ⟨by decide +kernel, by decide +kernel, by decide +kernel, ?_, ?_⟩
  · refine ⟨⟨1, "news", some "ann", "https://push.example/a", "auth", "p256dh", Word.least, false⟩,
      by decide +kernel, rfl, by decide, by decide, ?_⟩
    rw [iff_true_left flips]
    decide +kernel
  · refine ⟨⟨1, "news", some "ann", "https://push.example/a", "auth", "p256dh", Word.least, true⟩,
      by decide +kernel, rfl, by decide, by decide, ?_⟩
    rw [iff_true_left expires]
    decide +kernel

end LeastReading

end PushLedger
