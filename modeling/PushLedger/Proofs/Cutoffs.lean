import Mathlib.Data.Rat.Floor
import PushLedger.Configuration.Basic
import PushLedger.Proofs.Elapsed
import PushLedger.Proofs.Records

/-!
# Spans and cutoffs keep their order

A configuration is accepted if the warning comes before the expiry. The sweep does not compare these
ages. It rounds them up to milliseconds, caps the milliseconds at the greatest word, and moves the
cutoffs back into the words. No stage turns the order around, so whatever is old enough to expire is
old enough to be warned. But the order may cease to be strict: ages beyond the greatest word have
the same milliseconds. What a sweep reports as a misconfiguration is settled by the spans
themselves, before they are rounded.
-/

namespace PushLedger

namespace Span

/-- The milliseconds of a span are the rational quotient, rounded up and capped. -/
theorem millis_eq_ceil (d : Span) :
    d.millis = min ⌈(d.nanos : ℚ) / 10 ^ 6⌉ Word.greatest := by
  have quotient := Rat.ceil_natCast_div_natCast d.nanos (10 ^ 6)
  rw [Nat.cast_pow, Nat.cast_ofNat] at quotient
  rw [quotient]
  unfold millis ceilMillis nanosPerMilli
  omega

/-- Only the span of nothing has no milliseconds. -/
theorem millis_eq_zero_iff (d : Span) : d.millis = 0 ↔ d.nanos = 0 := by
  have least := d.millis_bounds.1
  have positive := d.millis_pos_iff
  omega

/-- Seconds have a thousand milliseconds each, as far as these fit into a word. -/
theorem millis_ofSeconds (seconds : Nat) :
    (ofSeconds seconds).millis = min (1000 * seconds : Int) Word.greatest := by
  unfold millis ceilMillis ofSeconds nanosPerSecond nanosPerMilli
  dsimp only
  omega

/-- What is rounded has less than 128 bits, for every number of seconds that is a word. -/
theorem rounded_lt (seconds nanos : Nat) (bounded : seconds ≤ Word.greatestUnsigned)
    (part : nanos < nanosPerSecond) :
    (ofParts seconds nanos).nanos + (nanosPerMilli - 1) < 2 ^ 128 := by
  unfold ofParts nanosPerSecond nanosPerMilli Word.greatestUnsigned at *
  dsimp only
  omega

end Span

namespace Instant

/-- A longer span does not have a later cutoff. -/
theorem cutoff_anti (now : Instant) {d e : Span} (ordered : d.millis ≤ e.millis) :
    now.cutoff e ≤ now.cutoff d := by
  have earlier : now.millis - e.millis ≤ now.millis - d.millis := by omega
  exact Word.saturate_mono earlier

/-- No cutoff lies after the clock. -/
theorem cutoff_le (now : Instant) (d : Span) : now.cutoff d ≤ now.millis := by
  have least := d.millis_bounds.1
  have earlier : now.millis - d.millis ≤ now.millis := by omega
  exact (Word.saturate_mono earlier).trans_eq (Word.saturate_of_holds now.bounded)

end Instant

/-- The record says that the spans of a sweep are in the wrong order. -/
def Event.isMisconfigured : Event → Bool
  | .sweepMisconfigured _ _ => true
  | _ => false

/-- A sweep reports its spans once, with their full milliseconds, if the warning span is not the
shorter one, and does not report them otherwise. Whether it succeeds is of no matter. -/
theorem Database.misconfigured_sweep (db : Database) (warning expiry : Span) (now : Instant) :
    (db.sweep warning expiry now).events.filter Event.isMisconfigured =
      if expiry.nanos ≤ warning.nanos then
        [.sweepMisconfigured warning.floorMillis expiry.floorMillis]
      else [] := by
  have reported : (misconfiguration warning expiry).filter Event.isMisconfigured =
      misconfiguration warning expiry := by
    unfold misconfiguration
    split <;> rfl
  rw [db.sweep_events, List.filter_append, reported]
  cases (db.sweep warning expiry now).result <;> exact List.append_nil _

namespace SweepConfiguration

/-- A configuration is accepted exactly if both ages are above zero and the warning comes first. -/
theorem check_ok_iff (c : SweepConfiguration) :
    c.check = .ok () ↔ 0 < c.warningAfter ∧ c.warningAfter < c.expireAfter := by
  unfold check
  split_ifs <;> simp only [false_iff, true_iff] <;> omega

/-- The order of the ages in what a sweep makes of them at a reading of the clock. -/
structure KeepsOrder (c : SweepConfiguration) (now : Instant) : Prop where
  positive : 0 < c.warning.millis
  spans : c.warning.millis ≤ c.expiry.millis
  strict_iff : c.warning.millis < c.expiry.millis ↔ c.warningAfter ≤ 9223372036854775
  cutoffs : now.cutoff c.expiry ≤ now.cutoff c.warning
  past : now.cutoff c.warning ≤ now.millis
  /-- Whatever cell a row has as its stamp: what the cutoff of expiry reaches, the other one does. -/
  reached : ∀ row : Row, row.updatedAt.atMost (now.cutoff c.expiry) = true →
    row.updatedAt.atMost (now.cutoff c.warning) = true
  aged : ∀ stamp, c.expiry.millis ≤ now.ageOf stamp → c.warning.millis ≤ now.ageOf stamp
  silent : ∀ db : Database,
    (db.sweep c.warning c.expiry now).events.filter Event.isMisconfigured = []

variable {c : SweepConfiguration} (accepted : c.check = .ok ())

include accepted

/-- The milliseconds of the ages differ as long as those of the warning fit into a word. -/
theorem millis_lt_iff : c.warning.millis < c.expiry.millis ↔ c.warningAfter ≤ 9223372036854775 := by
  have ordered := (c.check_ok_iff.mp accepted).2
  unfold warning expiry
  rw [Span.millis_ofSeconds, Span.millis_ofSeconds]
  unfold Word.greatest
  omega

/-- Ages that are accepted stay in their order. -/
theorem keepsOrder_of_check (now : Instant) : c.KeepsOrder now := by
  obtain ⟨positive, ordered⟩ := c.check_ok_iff.mp accepted
  have exact : c.warning.nanos < c.expiry.nanos := by
    unfold warning expiry Span.ofSeconds Span.nanosPerSecond
    dsimp only
    omega
  have lasting : 0 < c.warning.nanos := by
    unfold warning Span.ofSeconds Span.nanosPerSecond
    dsimp only
    omega
  have spans : c.warning.millis ≤ c.expiry.millis := Span.millis_mono (Nat.le_of_lt exact)
  have cutoffs := now.cutoff_anti spans
  exact {
    positive := c.warning.millis_pos_iff.mpr lasting
    spans
    strict_iff := millis_lt_iff accepted
    cutoffs
    past := now.cutoff_le c.warning
    reached := fun row => row.updatedAt.atMost_mono cutoffs
    aged := fun _ old => Int.le_trans spans old
    silent := fun db => by
      rw [db.misconfigured_sweep, if_neg (Nat.not_le_of_lt exact)] }

end SweepConfiguration

/-- Rounding to milliseconds keeps the order of spans, and takes only the span of nothing to zero. So
what a sweep makes of accepted ages is in their order, strictly unless the warning lies beyond the
words, and nothing is reported as misconfigured. Of any two spans at all a sweep reports exactly those
whose warning is not the shorter one, whatever their milliseconds are. -/
theorem SweepConfiguration.order_kept_through_cutoffs :
    (∀ d : Span, d.millis = min ⌈(d.nanos : ℚ) / 10 ^ 6⌉ Word.greatest ∧ Word.Holds d.millis ∧
      (d.millis = 0 ↔ d.nanos = 0)) ∧
    (∀ d e : Span, d ≤ e → d.millis ≤ e.millis) ∧
    (∀ seconds nanos, seconds ≤ Word.greatestUnsigned → nanos < Span.nanosPerSecond →
      (Span.ofParts seconds nanos).nanos + (Span.nanosPerMilli - 1) < 2 ^ 128) ∧
    (∀ (c : SweepConfiguration) (now : Instant), c.check = .ok () → c.KeepsOrder now) ∧
    ∀ (db : Database) (warning expiry : Span) (now : Instant),
      (db.sweep warning expiry now).events.filter Event.isMisconfigured =
        if expiry.nanos ≤ warning.nanos then
          [.sweepMisconfigured warning.floorMillis expiry.floorMillis]
        else [] := by
  refine ⟨?_, fun _ _ => Span.millis_mono, Span.rounded_lt, ?_, Database.misconfigured_sweep⟩
  · intro d
    have bounds := d.millis_bounds
    have holds : Word.Holds d.millis := ⟨Int.le_trans (by decide) bounds.1, bounds.2⟩
    exact ⟨d.millis_eq_ceil, holds, d.millis_eq_zero_iff⟩
  · intro c now accepted
    exact keepsOrder_of_check accepted now

namespace FarAges

/-- The greatest warning whose milliseconds fit into a word, and the expiry a second later. -/
def last : SweepConfiguration := { warningAfter := 9223372036854775, expireAfter := 9223372036854776 }

/-- Both ages a second later. -/
def beyond : SweepConfiguration :=
  { warningAfter := 9223372036854776, expireAfter := 9223372036854777 }

/-- The first spans differ in milliseconds, and the second ones do not; neither are reported. -/
theorem far_ages_in_order :
    last.check = .ok () ∧ beyond.check = .ok () ∧
    last.warning.millis < last.expiry.millis ∧ beyond.warning.millis = beyond.expiry.millis ∧
    (Database.fresh.sweep beyond.warning beyond.expiry .epoch).events.filter
      Event.isMisconfigured = [] := by
  have lastAccepted : last.check = .ok () := by decide
  have beyondAccepted : beyond.check = .ok () := by decide
  obtain ⟨_, _, _, accepted, _⟩ := SweepConfiguration.order_kept_through_cutoffs
  have first := accepted last .epoch lastAccepted
  have second := accepted beyond .epoch beyondAccepted
  have alike : ¬ beyond.warning.millis < beyond.expiry.millis := by
    rw [second.strict_iff]
    decide
  exact ⟨lastAccepted, beyondAccepted, first.strict_iff.mpr (by decide),
    Int.le_antisymm second.spans (Int.not_lt.mp alike), second.silent Database.fresh⟩

end FarAges

end PushLedger
